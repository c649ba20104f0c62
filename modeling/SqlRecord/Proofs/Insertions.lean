import Mathlib.Data.Finset.Card
import SqlRecord.Proofs.Parameters

/-! # Order of insertion

However parameters were made, each of their columns stands once, where it first came, with the value that came
for it last.
-/

namespace SqlRecord.Params

/-! ## One insertion -/

theorem get_insert (p : Params) (c d : String) (v : Value) :
    (p.insert c v).get? d = if d = c then some v else p.get? d := by
  show (put c v p.entries).lookup d = if d = c then some v else p.entries.lookup d
  induction p.entries with
  | nil => exact lookup_cons_eq_ite d (c, v) []
  | cons e es ih =>
    rw [put]
    by_cases he : e.1 = c
    · rw [if_pos he, lookup_cons_eq_ite, lookup_cons_eq_ite, he]
      split <;> rfl
    · rw [if_neg he, lookup_cons_eq_ite, lookup_cons_eq_ite, ih]
      split
      · rename_i hd
        rw [if_neg (hd ▸ he)]
      · rfl

theorem getElem_put_of_ne {c d : String} (h : d ≠ c) (v w : Value) (es : List (String × Value)) (i : Nat) :
    (put c v es)[i]? = some (d, w) ↔ es[i]? = some (d, w) := by
  induction es generalizing i with
  | nil => cases i <;> simp [put, Ne.symm h]
  | cons e es ih =>
    rw [put]
    split
    · rename_i he
      have hne : e ≠ (d, w) := by
        rintro rfl
        exact h he
      cases i <;> simp [Ne.symm h, hne]
    · cases i with
      | zero => rfl
      | succ i => exact ih i

/-! ## What pairs leave behind -/

/-- The value is the last one that came for the column. -/
def CameLast (pairs : List (String × Value)) (column : String) (v : Value) : Prop :=
  ∃ before behind, pairs = before ++ (column, v) :: behind ∧ column ∉ behind.map Prod.fst

theorem cameLast_iff {pairs : List (String × Value)} {column : String} {v : Value} :
    CameLast pairs column v ↔ pairs.reverse.lookup column = some v := by
  rw [List.lookup_eq_some_iff]
  constructor
  · rintro ⟨before, behind, rfl, hlast⟩
    refine ⟨behind.reverse, before.reverse, by simp, fun e he => bne_iff_ne.mpr ?_⟩
    rintro rfl
    exact hlast (List.mem_map_of_mem (List.mem_reverse.mp he))
  · rintro ⟨behind, before, hpairs, hlast⟩
    refine ⟨before.reverse, behind.reverse, ?_, fun hmem => ?_⟩
    · rw [← List.reverse_reverse pairs, hpairs]
      simp
    · obtain ⟨e, he, rfl⟩ := List.mem_map.mp hmem
      exact bne_iff_ne.mp (hlast e (List.mem_reverse.mp he)) rfl

/-- The parameters are what is left of pairs that came one after the other. -/
structure LeftBy (pairs : List (String × Value)) (p : Params) : Prop where
  columns : ∀ c, c ∈ p.columns ↔ c ∈ pairs.map Prod.fst
  order : p.columns.Pairwise fun c d => (pairs.map Prod.fst).idxOf c < (pairs.map Prod.fst).idxOf d
  values : ∀ c, p.get? c = pairs.reverse.lookup c

theorem leftBy_empty : LeftBy [] empty where
  columns _ := Iff.rfl
  order := .nil
  values _ := rfl

variable {pairs : List (String × Value)} {p : Params}

theorem LeftBy.order_insert (h : LeftBy pairs p) (c : String) (v : Value) :
    (p.insert c v).columns.Pairwise fun a b =>
      (pairs.map Prod.fst ++ [c]).idxOf a < (pairs.map Prod.fst ++ [c]).idxOf b := by
  have hfirst : ∀ a ∈ p.columns, (pairs.map Prod.fst ++ [c]).idxOf a = (pairs.map Prod.fst).idxOf a :=
    fun a ha => List.idxOf_append_of_mem ((h.columns a).mp ha)
  have hold : p.columns.Pairwise fun a b =>
      (pairs.map Prod.fst ++ [c]).idxOf a < (pairs.map Prod.fst ++ [c]).idxOf b :=
    h.order.imp_of_mem fun ha hb hlt => by rwa [hfirst _ ha, hfirst _ hb]
  have hcolumns : (p.insert c v).columns = if c ∈ p.columns then p.columns else p.columns ++ [c] :=
    keys_put c v p.entries
  rw [hcolumns]
  split
  · exact hold
  · rename_i hc
    have hnew : c ∉ pairs.map Prod.fst := (h.columns c).not.mp hc
    refine List.pairwise_append.mpr ⟨hold, List.pairwise_singleton _ _, fun a ha b hb => ?_⟩
    rw [List.mem_singleton.mp hb, hfirst a ha, List.idxOf_append_of_notMem hnew]
    exact Nat.lt_add_right _ (List.idxOf_lt_length_of_mem ((h.columns a).mp ha))

theorem LeftBy.insert (h : LeftBy pairs p) (c : String) (v : Value) :
    LeftBy (pairs ++ [(c, v)]) (p.insert c v) where
  columns d := by
    rw [mem_columns_insert, h.columns, List.map_append, List.mem_append, List.map_singleton,
      List.mem_singleton, or_comm]
  order := by
    rw [List.map_append]
    exact h.order_insert c v
  values d := by
    rw [get_insert, h.values, List.reverse_append, List.reverse_singleton, List.singleton_append,
      lookup_cons_eq_ite]

theorem LeftBy.insertAll (h : LeftBy pairs p) (es : List (String × Value)) :
    LeftBy (pairs ++ es) (p.insertAll es) := by
  induction es generalizing pairs p with
  | nil => rwa [List.append_nil]
  | cons e es ih =>
    rw [List.append_cons]
    exact ih (h.insert e.1 e.2)

theorem leftBy_ofList (es : List (String × Value)) : LeftBy es (ofList es) :=
  leftBy_empty.insertAll es

theorem LeftBy.nodup (h : LeftBy pairs p) : p.columns.Nodup :=
  h.order.imp fun hlt heq => hlt.ne (congrArg (pairs.map Prod.fst).idxOf heq)

theorem LeftBy.size (h : LeftBy pairs p) : p.size = (pairs.map Prod.fst).toFinset.card := by
  have hsame : p.columns.toFinset = (pairs.map Prod.fst).toFinset := by
    ext c
    rw [List.mem_toFinset, List.mem_toFinset, h.columns]
  rw [← hsame, List.toFinset_card_of_nodup h.nodup, Params.columns, List.length_map, Params.size]

theorem LeftBy.get_eq_none (h : LeftBy pairs p) (c : String) : p.get? c = none ↔ c ∉ pairs.map Prod.fst := by
  rw [h.values, List.lookup_eq_none_iff, List.mem_map]
  constructor
  · rintro hnone ⟨e, he, rfl⟩
    exact bne_iff_ne.mp (hnone e (List.mem_reverse.mpr he)) rfl
  · exact fun hc e he => bne_iff_ne.mpr fun heq => hc ⟨e, List.mem_reverse.mp he, heq.symm⟩

/-! ## Edits -/

/-- What is done to parameters: a column is set, by whichever call, or they are made anew of pairs. -/
inductive Edit
  | insert (column : String) (value : Value)
  | ofList (pairs : List (String × Value))
  deriving DecidableEq, Repr

def Edit.apply (p : Params) : Edit → Params
  | insert column v => p.insert column v
  | ofList pairs => Params.ofList pairs

/-- The pairs that came since the parameters were last made anew. -/
def Edit.track (pairs : List (String × Value)) : Edit → List (String × Value)
  | insert column v => pairs ++ [(column, v)]
  | ofList pairs => pairs

/-- Parameters that were empty and then edited. -/
def edited (edits : List Edit) : Params :=
  edits.foldl Edit.apply empty

def tracked (edits : List Edit) : List (String × Value) :=
  edits.foldl Edit.track []

theorem LeftBy.apply (h : LeftBy pairs p) (edit : Edit) : LeftBy (edit.track pairs) (edit.apply p) := by
  cases edit with
  | insert column v => exact h.insert column v
  | ofList es => exact leftBy_ofList es

theorem leftBy_edited (edits : List Edit) : LeftBy (tracked edits) (edited edits) := by
  have hrun : ∀ (edits : List Edit) {pairs : List (String × Value)} {p : Params}, LeftBy pairs p →
      LeftBy (edits.foldl Edit.track pairs) (edits.foldl Edit.apply p) := by
    intro edits
    induction edits with
    | nil => exact id
    | cons edit edits ih => exact fun h => ih (h.apply edit)
  exact hrun edits leftBy_empty

/-! ## The pairs of parameters -/

theorem ofList_entries (h : p.columns.Nodup) : ofList p.entries = p := by
  have hentries : (ofList p.entries).entries = p.entries := entries_insertAll h
  exact congrArg Params.mk hentries

theorem edited_insert (es : List (String × Value)) :
    edited (es.map fun e => .insert e.1 e.2) = ofList es :=
  List.foldl_map

/-! ## The main result -/

/-- Whatever was done to parameters, their columns are distinct, they are just those that came and stand in the
order in which they first came, and each has the value that came for it last. Setting a column leaves the other
columns as they are and where they are, and the pairs of parameters make the same parameters again. -/
theorem first_columns_last_values (edits : List Edit) :
    let p := edited edits
    let pairs := tracked edits
    let columns := pairs.map Prod.fst
    p.columns.Nodup ∧
    (∀ c, c ∈ p.columns ↔ c ∈ columns) ∧
    p.columns.Pairwise (fun c d => columns.idxOf c < columns.idxOf d) ∧
    (∀ c v, p.get? c = some v ↔ CameLast pairs c v) ∧
    (∀ c, p.get? c = none ↔ c ∉ columns) ∧
    p.size = columns.toFinset.card ∧
    (∀ c v d, d ≠ c → ∀ (i : Nat) (w : Value),
      (p.insert c v).entries[i]? = some (d, w) ↔ p.entries[i]? = some (d, w)) ∧
    ofList p.entries = p ∧ edited (p.entries.map fun e => .insert e.1 e.2) = p := by
  intro p pairs columns
  have h : LeftBy pairs p := leftBy_edited edits
  have hentries : ofList p.entries = p := ofList_entries h.nodup
  exact ⟨h.nodup, h.columns, h.order, fun c v => by rw [h.values, cameLast_iff], h.get_eq_none, h.size,
    fun c v d hd i w => getElem_put_of_ne hd v w p.entries i, hentries, (edited_insert _).trans hentries⟩

/-- Parameters that are made anew, set in another order and set again. -/
theorem first_columns_last_values_note :
    let edits : List Edit := [.insert "size" (.int 1),
      .ofList [("id", .int 7), ("title", .text "a"), ("id", .int 8)], .insert "kind" .null,
      .insert "title" (.text "b")]
    let p := edited edits
    p.columns = ["id", "title", "kind"] ∧ p.values = [.int 8, .text "b", .null] ∧
    CameLast (tracked edits) "id" (.int 8) ∧ p.get? "size" = none ∧
    "kind" ≠ "id" ∧ (p.insert "id" (.int 9)).entries[2]? = some ("kind", .null) ∧ ofList p.entries = p := by
  intro edits p
  obtain ⟨-, -, -, hlast, -, -, hothers, hagain, -⟩ := first_columns_last_values edits
  have hkind : "kind" ≠ "id" := by decide
  exact ⟨by decide +kernel, by decide +kernel, (hlast "id" (.int 8)).mp (by decide +kernel),
    by decide +kernel, hkind, (hothers "id" (.int 9) "kind" hkind 2 .null).mpr (by decide +kernel), hagain⟩

end SqlRecord.Params
