import Mathlib.Data.List.Nodup
import SqlRecord.Model.Basic
import SqlRecord.Proofs.Fields
import SqlRecord.Proofs.Outcomes

/-! # Parameters of models

No column is set twice, and what a model puts into parameters is what its instance holds.
-/

namespace SqlRecord

namespace Params

theorem keys_put (column : String) (v : Value) (es : List (String × Value)) :
    (put column v es).map Prod.fst =
      if column ∈ es.map Prod.fst then es.map Prod.fst else es.map Prod.fst ++ [column] := by
  induction es with
  | nil => rfl
  | cons e es ih =>
    rw [put]
    by_cases he : e.1 = column
    · simp [he]
    · rw [if_neg he, List.map_cons, ih]
      by_cases hes : column ∈ es.map Prod.fst
      · have hsome : column ∈ (e :: es).map Prod.fst := List.mem_cons_of_mem _ hes
        rw [if_pos hes, if_pos hsome]
        rfl
      · have hnone : column ∉ (e :: es).map Prod.fst := by
          simpa [Ne.symm he] using hes
        rw [if_neg hes, if_neg hnone]
        rfl

theorem put_of_not_mem {column : String} {es : List (String × Value)} (h : column ∉ es.map Prod.fst)
    (v : Value) : put column v es = es ++ [(column, v)] := by
  induction es with
  | nil => rfl
  | cons e es ih =>
    rw [List.map_cons, List.mem_cons, not_or] at h
    rw [put, if_neg (Ne.symm h.1), ih h.2, List.cons_append]

theorem nodup_insert {p : Params} (h : p.columns.Nodup) (column : String) (v : Value) :
    (p.insert column v).columns.Nodup := by
  show ((put column v p.entries).map Prod.fst).Nodup
  rw [keys_put]
  split
  · exact h
  · rename_i hc
    rw [← List.concat_eq_append]
    exact h.concat hc

theorem mem_put {column : String} {v : Value} {e : String × Value} {es : List (String × Value)}
    (h : e ∈ put column v es) : e = (column, v) ∨ e ∈ es := by
  induction es with
  | nil => exact Or.inl (List.mem_singleton.mp h)
  | cons d es ih =>
    rw [put] at h
    split at h
    · rcases List.mem_cons.mp h with h | h
      · exact Or.inl h
      · exact Or.inr (List.mem_cons_of_mem _ h)
    · rcases List.mem_cons.mp h with h | h
      · exact Or.inr (h ▸ List.mem_cons_self)
      · exact (ih h).imp_right (List.mem_cons_of_mem _)

theorem mem_columns_insert {p : Params} {column c : String} {v : Value} :
    c ∈ (p.insert column v).columns ↔ c = column ∨ c ∈ p.columns := by
  show c ∈ (put column v p.entries).map Prod.fst ↔ _
  rw [keys_put]
  split
  · rename_i hc
    refine ⟨Or.inr, ?_⟩
    rintro (rfl | h)
    · exact hc
    · exact h
  · rw [List.mem_append, List.mem_singleton, or_comm]
    rfl

theorem lookup_cons_eq_ite (d : String) (e : String × Value) (es : List (String × Value)) :
    (e :: es).lookup d = if d = e.1 then some e.2 else es.lookup d := by
  rw [List.lookup_cons]
  split
  · rename_i hd
    rw [if_pos (beq_iff_eq.mp hd)]
  · rename_i hd
    rw [if_neg (beq_eq_false_iff_ne.mp hd)]

theorem lookup_of_mem {es : List (String × Value)} (h : (es.map Prod.fst).Nodup) {e : String × Value}
    (he : e ∈ es) : es.lookup e.1 = some e.2 := by
  induction es with
  | nil => cases he
  | cons d es ih =>
    obtain ⟨hd, hes⟩ := List.nodup_cons.mp h
    rcases List.mem_cons.mp he with rfl | he
    · rw [lookup_cons_eq_ite, if_pos rfl]
    · have hne : e.1 ≠ d.1 := fun heq => hd (heq ▸ List.mem_map_of_mem he)
      rw [lookup_cons_eq_ite, if_neg hne]
      exact ih hes he

/-- The values that parameters give a column, one for each time it comes. -/
def given (p : Params) (column : String) : List Value :=
  (p.entries.filter fun e => e.1 = column).map Prod.snd

theorem given_cons (e : String × Value) (es : List (String × Value)) (column : String) :
    given ⟨e :: es⟩ column = if e.1 = column then e.2 :: given ⟨es⟩ column else given ⟨es⟩ column := by
  unfold given
  by_cases h : e.1 = column <;> simp [h]

theorem given_of_not_mem {p : Params} {column : String} (h : column ∉ p.columns) : p.given column = [] := by
  unfold given
  rw [List.map_eq_nil_iff, List.filter_eq_nil_iff]
  intro e he heq
  apply h
  rw [← of_decide_eq_true heq]
  exact List.mem_map_of_mem he

theorem given_of_mem {p : Params} (h : p.columns.Nodup) {e : String × Value} (he : e ∈ p.entries) :
    p.given e.1 = [e.2] := by
  obtain ⟨before, behind, hentries⟩ := List.append_of_mem he
  have hcolumns : p.columns = before.map Prod.fst ++ e.1 :: behind.map Prod.fst := by simp [columns, hentries]
  rw [hcolumns, List.nodup_middle, List.nodup_cons, List.mem_append, not_or] at h
  have hbefore : (⟨before⟩ : Params).given e.1 = [] := given_of_not_mem h.1.1
  have hbehind : (⟨behind⟩ : Params).given e.1 = [] := given_of_not_mem h.1.2
  unfold given at *
  rw [hentries, List.filter_append, List.map_append, hbefore, List.filter_cons_of_pos (by simp), List.map_cons,
    hbehind, List.nil_append]

theorem entries_insertAll {p : Params} {es : List (String × Value)}
    (h : (p.columns ++ es.map Prod.fst).Nodup) : (p.insertAll es).entries = p.entries ++ es := by
  induction es generalizing p with
  | nil => exact (List.append_nil _).symm
  | cons e es ih =>
    have hnew : e.1 ∉ p.columns := fun he => List.disjoint_of_nodup_append h he List.mem_cons_self
    have hentries : (p.insert e.1 e.2).entries = p.entries ++ [e] := put_of_not_mem hnew e.2
    have hcolumns : (p.insert e.1 e.2).columns = p.columns ++ [e.1] := by simp [columns, hentries]
    have hrest : ((p.insert e.1 e.2).columns ++ es.map Prod.fst).Nodup := by
      rwa [hcolumns, List.append_assoc]
    show ((p.insert e.1 e.2).insertAll es).entries = p.entries ++ e :: es
    rw [ih hrest, hentries, List.append_assoc]
    rfl

end Params

namespace Record

variable {υ : Type} {r : Record υ}

/-- What is stored for a column of the record. -/
def stored (r : Record υ) (column : String) : Value :=
  ((r.get? column).map Value.stored).getD .null

/-- Columns with what is stored for them. -/
def params (r : Record υ) (cs : List String) : Params :=
  ⟨cs.map fun c => (c, r.stored c)⟩

/-- The table has a column of this name. -/
def InTable (r : Record υ) (name : String) : Prop :=
  ∃ column, r.column? name = some column ∧ column.inTable = true

@[simp] theorem stored_stored (r : Record υ) (column : String) :
    (r.stored column).stored = r.stored column := by
  unfold stored
  cases r.get? column with
  | none => rfl
  | some v => exact v.stored_stored

theorem stored_of_field {column : String} {f : Field} (h : r.field? column = some f) :
    r.stored column = f.value.stored := by
  have hget : r.get? column = some f.value := congrArg (Option.map Field.value) h
  rw [stored, hget]
  rfl

@[simp] theorem columns_params (r : Record υ) (cs : List String) : (r.params cs).columns = cs := by
  simp [params, Params.columns, Function.comp_def]

@[simp] theorem values_params (r : Record υ) (cs : List String) :
    (r.params cs).values = cs.map r.stored := by
  simp [params, Params.values, Function.comp_def]

theorem isSome_get_of_tableColumns {c : String} (h : c ∈ r.tableColumns) : (r.get? c).isSome = true := by
  obtain ⟨column, hcolumn, rfl⟩ := List.mem_map.mp h
  obtain ⟨f, hf, rfl⟩ := List.mem_map.mp (List.mem_filter.mp hcolumn).1
  rw [get?, Option.isSome_map, List.find?_isSome]
  exact ⟨f, hf, by simp⟩

theorem nodup_tableColumns (h : (r.columns.map (·.name)).Nodup) : r.tableColumns.Nodup :=
  h.sublist (List.filter_sublist.map _)

end Record

namespace Model

variable {υ : Type} {m : Model υ} {r : Record υ}

theorem read_stored {c : String} (h : (r.get? c).isSome = true) : m.read r c = .ok (r.stored c) := by
  unfold read Record.stored
  obtain ⟨v, hv⟩ := Option.isSome_iff_exists.mp h
  rw [hv]
  rfl

theorem readAll_append {cs ds : List String} (hnodup : (ds ++ cs).Nodup)
    (hmapped : ∀ c ∈ cs, (r.get? c).isSome = true) :
    m.readAll r cs (r.params ds) = .ok (r.params (ds ++ cs)) := by
  induction cs generalizing ds with
  | nil => rw [readAll, List.append_nil]
  | cons c cs ih =>
    have hc : c ∉ (r.params ds).entries.map Prod.fst := by
      have hds : c ∉ ds := fun h => List.disjoint_of_nodup_append hnodup h List.mem_cons_self
      rwa [← Params.columns, Record.columns_params]
    have hput : (r.params ds).insert c (r.stored c) = r.params (ds ++ [c]) := by
      rw [Params.insert, Params.put_of_not_mem hc]
      simp [Record.params]
    rw [List.append_cons] at hnodup
    rw [readAll, read_stored (hmapped c List.mem_cons_self), List.append_cons,
      ← ih hnodup fun d hd => hmapped d (List.mem_cons_of_mem _ hd), ← hput]
    rfl

theorem readAll_params {cs : List String} (hnodup : cs.Nodup)
    (hmapped : ∀ c ∈ cs, (r.get? c).isSome = true) : m.readAll r cs .empty = .ok (r.params cs) := by
  have hempty : Params.empty = r.params [] := rfl
  rw [hempty]
  exact readAll_append hnodup hmapped

theorem read_eq_ok {column : String} {v : Value} (h : m.read r column = .ok v) :
    ∃ f, r.field? column = some f ∧ v = f.value.stored := by
  have hget : r.get? column = (r.field? column).map Field.value := rfl
  rw [read, hget] at h
  cases hf : r.field? column with
  | none =>
    rw [hf] at h
    cases h
  | some f =>
    rw [hf] at h
    cases h
    exact ⟨f, rfl, rfl⟩

theorem readAll_spec {cs : List String} {p p' : Params} (h : m.readAll r cs p = .ok p') :
    (p.columns.Nodup → p'.columns.Nodup) ∧
    (∀ e ∈ p'.entries, e ∈ p.entries ∨ e.1 ∈ cs ∧ m.read r e.1 = .ok e.2) ∧
    ∀ c, c ∈ p'.columns ↔ c ∈ cs ∨ c ∈ p.columns := by
  induction cs generalizing p with
  | nil =>
    cases h
    exact ⟨id, fun e he => Or.inl he, fun c => by simp⟩
  | cons c cs ih =>
    rw [readAll] at h
    cases hv : m.read r c with
    | error e =>
      rw [hv] at h
      cases h
    | ok v =>
      rw [hv] at h
      obtain ⟨hnodup, hentries, hcolumns⟩ := ih h
      refine ⟨fun hp => hnodup (Params.nodup_insert hp c v), ?_, ?_⟩
      · intro e he
        rcases hentries e he with he | ⟨hc, hread⟩
        · rcases Params.mem_put he with rfl | he
          · exact Or.inr ⟨List.mem_cons_self, hv⟩
          · exact Or.inl he
        · exact Or.inr ⟨List.mem_cons_of_mem _ hc, hread⟩
      · intro d
        rw [hcolumns, Params.mem_columns_insert, List.mem_cons]
        tauto

theorem readAll_empty {cs : List String} {p : Params} (h : m.readAll r cs .empty = .ok p) :
    p.columns.Nodup ∧ (∀ e ∈ p.entries, ∃ f, r.field? e.1 = some f ∧ e.2 = f.value.stored) ∧
      ∀ c, c ∈ p.columns ↔ c ∈ cs := by
  obtain ⟨hnodup, hentries, hcolumns⟩ := readAll_spec h
  refine ⟨hnodup List.nodup_nil, fun e he => ?_, fun c => (hcolumns c).trans (or_iff_left List.not_mem_nil)⟩
  rcases hentries e he with he | ⟨-, hread⟩
  · cases he
  · exact read_eq_ok hread

theorem given_readAll {cs : List String} {p : Params} (h : m.readAll r cs .empty = .ok p) (column : String) :
    p.given column = if column ∈ cs then [r.stored column] else [] := by
  obtain ⟨hnodup, hfields, hcolumns⟩ := readAll_empty h
  split
  · rename_i hc
    obtain ⟨e, he, rfl⟩ := List.mem_map.mp ((hcolumns column).mpr hc)
    obtain ⟨f, hf, hvalue⟩ := hfields e he
    rw [Params.given_of_mem hnodup he, Record.stored_of_field hf, hvalue]
  · rename_i hc
    exact Params.given_of_not_mem fun h => hc ((hcolumns column).mp h)

theorem insertParams_eq_ok {p : Params} (h : m.insertParams r = .ok p) :
    m.readAll r (m.insertColumns r) .empty = .ok p := by
  unfold insertParams at h
  obtain ⟨p', hread, h⟩ := ok_of_bind h
  split at h
  · cases h
  · cases h
    exact hread

theorem updateParams_eq_ok {p : Params} (h : m.updateParams r = .ok p) :
    m.readAll r (m.updateColumns r) .empty = .ok p := by
  unfold updateParams at h
  split at h
  · cases h
  obtain ⟨p', hread, h⟩ := ok_of_bind h
  split at h
  · cases h
  · cases h
    exact hread

theorem keyParams_eq_ok {p : Params} (h : m.keyParams r = .ok p) :
    ∃ cs, m.keyColumns r m.primaryKeys = .ok cs ∧ m.readAll r cs .empty = .ok p := by
  unfold keyParams at h
  split at h
  · cases h
  obtain ⟨cs, hcs, h⟩ := ok_of_bind h
  obtain ⟨p', hread, h⟩ := ok_of_bind h
  split at h
  · cases h
  · cases h
    exact ⟨cs, hcs, hread⟩

theorem strict_eq (m : Model υ) (p : Params) (e : ModelError) :
    (do
      if m.strict && p.isEmpty then throw e
      return p : Except ModelError Params) =
      if m.strict = true ∧ p.entries = [] then .error e else .ok p := by
  obtain ⟨_ | ⟨entry, entries⟩⟩ := p
  · cases m.strict <;> rfl
  · simp [Params.isEmpty]
    rfl

theorem strict_of_not_empty (m : Model υ) {p : Params} (h : p.isEmpty = false) (e : ModelError) :
    (do
      if m.strict && p.isEmpty then throw e
      return p : Except ModelError Params) = .ok p := by
  rw [strict_eq, if_neg]
  rintro ⟨-, hnone⟩
  rw [Params.isEmpty, hnone] at h
  cases h

theorem insertParams_of_readAll {p : Params} (h : m.readAll r (m.insertColumns r) .empty = .ok p)
    (hne : p.isEmpty = false) : m.insertParams r = .ok p := by
  unfold insertParams
  rw [h]
  exact m.strict_of_not_empty hne _

theorem updateParams_of_readAll {p : Params} (hkeys : m.primaryKeys.isEmpty = false)
    (h : m.readAll r (m.updateColumns r) .empty = .ok p) (hne : p.isEmpty = false) :
    m.updateParams r = .ok p := by
  unfold updateParams
  rw [hkeys, h]
  exact m.strict_of_not_empty hne _

theorem keyParams_of_readAll {cs : List String} {p : Params} (hkeys : m.primaryKeys.isEmpty = false)
    (hcs : m.keyColumns r m.primaryKeys = .ok cs) (h : m.readAll r cs .empty = .ok p)
    (hne : p.isEmpty = false) : m.keyParams r = .ok p := by
  unfold keyParams
  rw [hkeys, hcs]
  show (m.readAll r cs .empty >>= fun p => _) = _
  rw [h]
  exact m.strict_of_not_empty hne _

theorem keyColumns_eq_ok {keys cs : List String} (h : m.keyColumns r keys = .ok cs) :
    (∀ key ∈ keys, ∃ column, r.column? key = some column) ∧ ∀ c, c ∈ cs ↔ c ∈ keys ∧ r.InTable c := by
  induction keys generalizing cs with
  | nil =>
    cases h
    simp
  | cons key keys ih =>
    unfold keyColumns at h
    split at h
    · cases h
    rename_i column hcolumn
    obtain ⟨ds, hds, rfl⟩ := ok_of_map h
    obtain ⟨hmapped, hmem⟩ := ih hds
    have hname : column.name = key := by simpa using List.find?_some hcolumn
    have hkey : r.InTable key ↔ column.inTable = true := by simp [Record.InTable, hcolumn]
    refine ⟨List.forall_mem_cons.mpr ⟨⟨column, hcolumn⟩, hmapped⟩, fun c => ?_⟩
    rw [List.mem_cons]
    split
    · rename_i htable
      rw [List.mem_cons, hmem, hname]
      constructor
      · rintro (rfl | h)
        · exact ⟨Or.inl rfl, hkey.mpr htable⟩
        · exact ⟨Or.inr h.1, h.2⟩
      · rintro ⟨rfl | h, hin⟩
        · exact Or.inl rfl
        · exact Or.inr ⟨h, hin⟩
    · rename_i htable
      rw [hmem]
      constructor
      · exact fun h => ⟨Or.inr h.1, h.2⟩
      · rintro ⟨rfl | h, hin⟩
        · exact absurd (hkey.mp hin) htable
        · exact ⟨h, hin⟩

theorem table_query (m : Model υ) (d : Dialect) : (m.query d).table = m.table := by
  unfold query
  split <;> rfl

theorem filters_query (m : Model υ) (d : Dialect) : (m.query d).filters = [] := by
  unfold query
  split <;> rfl

theorem failure_query (m : Model υ) (d : Dialect) : (m.query d).failure = none := by
  unfold query
  split <;> rfl

theorem dialect_query (m : Model υ) (d : Dialect) : (m.query d).dialect = d := by
  unfold query
  split <;> rfl

theorem strict_query (m : Model υ) (d : Dialect) : (m.query d).strict = m.strict := by
  unfold query
  split <;> rfl

theorem selections_query (m : Model υ) (d : Dialect) :
    (m.query d).selections = if m.hidden.isEmpty then [] else m.visibleColumns.map .column := by
  unfold query
  split <;> rfl

end Model

end SqlRecord
