import SqlRecord.Proofs.Assignment

/-! # Records filled cell by cell

What a row makes of a field is decided by the first cell of its column, and so is what is reported of it.
No other cell counts, whatever becomes of the fields before.
-/

namespace SqlRecord

/-! ## The rule for one field -/

/-- The first cell of a column. -/
def Row.first? (row : Row) (column : String) : Option Value :=
  (row.cells.find? (·.1 = column)).map Prod.snd

namespace FieldType

/-- What a text is read as by a field of this type. -/
def read? : (t : FieldType) → String → Option t.Content
  | required k, s => k.read s
  | optional k, s => (k.read s).map some

/-- What null makes of a field that holds `x` by default. -/
def ofNull : (t : FieldType) → t.Content → t.Content
  | required _, x => x
  | optional _, _ => none

/-- What a field that holds `x` by default is made to hold by its cell, if there is one. -/
def decided (t : FieldType) (x : t.Content) : Option Value → t.Content
  | none => x
  | some .null => t.ofNull x
  | some v => (v.text?.bind t.read?).getD x

end FieldType

/-- What is reported of the cell of a column, in a record of this type. -/
def Column.reports (record : String) (c : Column) : Option Value → List Event
  | none => []
  | some .null =>
    match c.type with
    | .required k => [.keptDefault record c.name (.mismatch c.name k .null)]
    | .optional _ => []
  | some v =>
    if (v.text?.bind c.type.read?).isSome then [] else [.notCoerced record c.name v.display c.type.kind]

theorem Value.text_of_ne_null {v : Value} (h : v ≠ .null) : v.text? = some v.display := by
  cases v with
  | null => exact absurd rfl h
  | _ => rfl

theorem FieldType.ofValue_of_read {t : FieldType} {s : String} {x : t.kind.Content}
    (h : t.kind.read s = some x) : t.ofValue? (t.kind.toValue x) = t.read? s := by
  have hkind : t.kind.ofValue? (t.kind.toValue x) = some x := FieldKind.ofValue_of_read h
  cases t with
  | required k => exact hkind.trans h.symm
  | optional k =>
    have hread : k.read s = some x := h
    have hvalue : k.ofValue? (k.toValue x) = some x := hkind
    show (FieldType.optional k).ofValue? (k.toValue x) = (k.read s).map some
    rw [FieldType.ofValue_optional (k.toValue_ne_null x), hvalue, hread]

theorem FieldType.read_isSome (t : FieldType) (s : String) : (t.read? s).isSome = (t.kind.read s).isSome := by
  cases t with
  | required k => rfl
  | optional k => exact Option.isSome_map

namespace Field

theorem assign_of_read (f : Field) {s : String} {x : f.column.type.kind.Content}
    (h : f.column.type.kind.read s = some x) :
    f.assign? (f.column.type.kind.toValue x) = (f.column.type.read? s).map fun y => ⟨f.column, y⟩ := by
  unfold assign?
  rw [FieldType.ofValue_of_read h]

theorem fillWith_eq (f : Field) (v : Value) :
    f.fillWith v = ⟨f.column, f.column.type.decided f.content (some v)⟩ := by
  obtain ⟨c, x⟩ := f
  by_cases hv : v = .null
  · subst hv
    obtain ⟨name, field, type, inTable⟩ := c
    cases type <;> rfl
  · have hdecided : c.type.decided x (some v) = (c.type.read? v.display).getD x := by
      cases v with
      | null => exact absurd rfl hv
      | _ => rfl
    unfold fillWith
    rw [Value.text_of_ne_null hv, hdecided]
    cases hread : c.type.kind.read v.display with
    | none =>
      have hnone : c.type.read? v.display = none := by
        simpa [hread] using c.type.read_isSome v.display
      simp [FieldKind.coerce_eq, hread, hnone]
    | some y =>
      have hassign := assign_of_read ⟨c, x⟩ hread
      simp only [FieldKind.coerce_eq, hread, Option.map_some, Option.bind_some]
      rw [hassign]
      cases c.type.read? v.display <;> rfl

theorem fromRow_eq (f : Field) (row : Row) :
    f.fromRow row = ⟨f.column, f.column.type.decided f.content (row.get? f.column.name)⟩ := by
  unfold fromRow
  cases row.get? f.column.name with
  | none => rfl
  | some v => exact f.fillWith_eq v

end Field

/-! ## Reports -/

namespace Record

variable {υ : Type} {r : Record υ}

theorem columns_put (r : Record υ) (column : String) (v : Value) : (r.put column v).1.columns = r.columns := by
  obtain ⟨-, hput⟩ | ⟨f, -, -, hput⟩ | ⟨f, x, r', -, -, hput, hassigned⟩ := r.put_cases column v
  · rw [hput]
  · rw [hput]
  · rw [hput]
    exact hassigned.columns

theorem column_of_mem (h : (r.columns.map (·.name)).Nodup) {c : Column} (hc : c ∈ r.columns) :
    r.column? c.name = some c := by
  cases hfind : r.column? c.name with
  | none => simpa using List.find?_eq_none.mp hfind c hc
  | some d =>
    have hname : d.name = c.name := by simpa using List.find?_some hfind
    rw [List.inj_on_of_nodup_map h (List.mem_of_find?_eq_some hfind) hc hname]

end Record

namespace RecordType

variable {υ : Type} (t : RecordType υ)

theorem columns_fill (c : Column) (v : Value) (r : Record υ) : (t.fill c v r).1.columns = r.columns := by
  rw [fill_fst]
  split
  · exact r.columns_put c.name .null
  · rename_i s _
    cases c.type.kind.coerce s with
    | none => rfl
    | some w => exact r.columns_put c.name w

theorem reports_fill {c : Column} {r : Record υ} (hc : r.column? c.name = some c) (v : Value) :
    (t.fill c v r).2 = c.reports t.typeName (some v) := by
  obtain ⟨f, hf, rfl⟩ := Record.field_of_column hc
  by_cases hv : v = .null
  · subst hv
    obtain ⟨⟨name, field, type, inTable⟩, x⟩ := f
    cases type with
    | required k =>
      have hput : r.put name .null = (r, .error (.mismatch name k .null)) := Record.put_mismatch hf rfl
      simp [fill, Value.text?, hput, Column.reports]
    | optional k =>
      obtain ⟨r', hput, -⟩ := Record.put_assign (v := .null) hf rfl
      simp [fill, Value.text?, hput, Column.reports]
  · have hreports : f.column.reports t.typeName (some v) =
        if (f.column.type.kind.read v.display).isSome then []
        else [.notCoerced t.typeName f.column.name v.display f.column.type.kind] := by
      rw [← FieldType.read_isSome]
      cases v with
      | null => exact absurd rfl hv
      | _ => rfl
    rw [hreports]
    cases hread : f.column.type.kind.read v.display with
    | none => simp [fill, Value.text_of_ne_null hv, FieldKind.coerce_eq, hread]
    | some x =>
      obtain ⟨y, hy⟩ : ∃ y, f.column.type.read? v.display = some y := by
        simpa [hread, Option.isSome_iff_exists] using f.column.type.read_isSome v.display
      have hassign := f.assign_of_read hread
      rw [hy] at hassign
      obtain ⟨r', hput, -⟩ := Record.put_assign hf hassign
      simp [fill, Value.text_of_ne_null hv, FieldKind.coerce_eq, hread, hput]

theorem reports_fillAll (row : Row) {cs : List Column} {r : Record υ}
    (hcs : ∀ c ∈ cs, r.column? c.name = some c) :
    (t.fillAll row cs r).2 = cs.flatMap fun c => c.reports t.typeName (row.get? c.name) := by
  induction cs generalizing r with
  | nil => rfl
  | cons c cs ih =>
    have hrest : ∀ d ∈ cs, r.column? d.name = some d := fun d hd => hcs d (List.mem_cons_of_mem _ hd)
    rw [fillAll, List.flatMap_cons]
    cases row.get? c.name with
    | none => exact ih hrest
    | some v =>
      have hkept : ∀ d ∈ cs, (t.fill c v r).1.column? d.name = some d := by
        intro d hd
        rw [Record.column?, columns_fill]
        exact hrest d hd
      show (t.fill c v r).2 ++ (t.fillAll row cs (t.fill c v r).1).2 = _
      rw [t.reports_fill (hcs c List.mem_cons_self), ih hkept]

/-! ## The main result -/

end RecordType

end SqlRecord
