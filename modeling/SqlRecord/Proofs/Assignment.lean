import SqlRecord.Proofs.Fields

/-! # Values put into records

A value that is put into a column changes the field of that column and nothing else. If there is no such
field, or it cannot take the value, nothing is changed.
-/

namespace SqlRecord

namespace Field

variable {column : String} {v : Value} {f g : Field} {fs : List Field}

theorem assign_eq_none {f : Field} {v : Value} : f.assign? v = none ↔ f.column.type.ofValue? v = none :=
  Option.map_eq_none_iff

/-- The fields `gs` are the fields `fs` with `g` in the place of the field of a column. -/
structure Replaced (column : String) (g : Field) (fs gs : List Field) : Prop where
  columns : gs.map Field.column = fs.map Field.column
  found : gs.find? (·.column.name = column) = some g
  others : ∀ c ≠ column, gs.find? (·.column.name = c) = fs.find? (·.column.name = c)

theorem Replaced.cons {gs : List Field} (h : Replaced column g fs gs) (hf : f.column.name ≠ column) :
    Replaced column g (f :: fs) (f :: gs) where
  columns := congrArg (f.column :: ·) h.columns
  found := by
    rw [List.find?_cons_of_neg (by simpa using hf)]
    exact h.found
  others c hc := by
    rw [List.find?_cons, List.find?_cons, h.others c hc]

theorem replaced_head (h : g.column = f.column) (fs : List Field) :
    Replaced f.column.name g (f :: fs) (g :: fs) where
  columns := congrArg (· :: _) h
  found := List.find?_cons_of_pos (by simp [h])
  others c hc := by
    rw [List.find?_cons_of_neg (by simpa [h] using hc.symm), List.find?_cons_of_neg (by simpa using hc.symm)]

theorem putIn_unknown (h : fs.find? (·.column.name = column) = none) :
    putIn column v fs = (fs, .error (.unknownColumn column)) := by
  induction fs with
  | nil => rfl
  | cons f fs ih =>
    obtain ⟨hf, hfs⟩ := List.forall_mem_cons.mp (List.find?_eq_none.mp h)
    rw [putIn, if_neg (by simpa using hf), ih (List.find?_eq_none.mpr hfs)]

theorem putIn_mismatch (h : fs.find? (·.column.name = column) = some f) (hv : f.assign? v = none) :
    putIn column v fs = (fs, .error (.mismatch column f.column.type.kind v)) := by
  induction fs with
  | nil => cases h
  | cons e fs ih =>
    rw [putIn]
    by_cases he : e.column.name = column
    · rw [List.find?_cons_of_pos (by simpa using he)] at h
      cases h
      rw [if_pos he, put, hv, he]
    · rw [List.find?_cons_of_neg (by simpa using he)] at h
      rw [if_neg he, ih h]

theorem putIn_assign (h : fs.find? (·.column.name = column) = some f) (hv : f.assign? v = some g) :
    ∃ gs, putIn column v fs = (gs, .ok ()) ∧ Replaced column g fs gs := by
  induction fs with
  | nil => cases h
  | cons e fs ih =>
    rw [putIn]
    by_cases he : e.column.name = column
    · rw [List.find?_cons_of_pos (by simpa using he)] at h
      cases h
      subst he
      rw [if_pos rfl, put, hv]
      exact ⟨g :: fs, rfl, replaced_head (column_of_assign hv) fs⟩
    · rw [List.find?_cons_of_neg (by simpa using he)] at h
      obtain ⟨gs, hgs, hreplaced⟩ := ih h
      rw [if_neg he, hgs]
      exact ⟨e :: gs, rfl, hreplaced.cons he⟩

end Field

namespace Record

variable {υ : Type} {r : Record υ} {column : String} {v : Value} {f g : Field}

/-- The record `r'` is `r` with `g` as the field of a column. -/
structure Assigned (column : String) (g : Field) (r r' : Record υ) : Prop where
  columns : r'.columns = r.columns
  field : r'.field? column = some g
  others : ∀ c ≠ column, r'.field? c = r.field? c
  unmapped : r'.unmapped = r.unmapped

theorem get_of_field (h : r.field? column = some f) : r.get? column = some f.value :=
  congrArg (Option.map Field.value) h

theorem Assigned.get {r' : Record υ} (h : Assigned column g r r') : r'.get? column = some g.value :=
  get_of_field h.field

theorem Assigned.get_of_ne {r' : Record υ} (h : Assigned column g r r') {c : String} (hc : c ≠ column) :
    r'.get? c = r.get? c :=
  congrArg (Option.map Field.value) (h.others c hc)

theorem put_unknown (h : r.field? column = none) : r.put column v = (r, .error (.unknownColumn column)) := by
  rw [put, Field.putIn_unknown h]

theorem put_mismatch (h : r.field? column = some f) (hv : f.assign? v = none) :
    r.put column v = (r, .error (.mismatch column f.column.type.kind v)) := by
  rw [put, Field.putIn_mismatch h hv]

theorem put_assign (h : r.field? column = some f) (hv : f.assign? v = some g) :
    ∃ r', r.put column v = (r', .ok ()) ∧ Assigned column g r r' := by
  obtain ⟨fs, hfs, hreplaced⟩ := Field.putIn_assign h hv
  refine ⟨⟨fs, r.unmapped⟩, ?_, hreplaced.columns, hreplaced.found, hreplaced.others, rfl⟩
  rw [put, hfs]

theorem put_cases (r : Record υ) (column : String) (v : Value) :
    (r.field? column = none ∧ r.put column v = (r, .error (.unknownColumn column))) ∨
    (∃ f, r.field? column = some f ∧ f.column.type.ofValue? v = none ∧
      r.put column v = (r, .error (.mismatch column f.column.type.kind v))) ∨
    ∃ f x r', r.field? column = some f ∧ f.column.type.ofValue? v = some x ∧ r.put column v = (r', .ok ()) ∧
      Assigned column ⟨f.column, x⟩ r r' := by
  cases hf : r.field? column with
  | none => exact Or.inl ⟨rfl, put_unknown hf⟩
  | some f =>
    right
    cases hg : f.assign? v with
    | none => exact Or.inl ⟨f, rfl, Field.assign_eq_none.mp hg, put_mismatch hf hg⟩
    | some g =>
      obtain ⟨x, hx, rfl⟩ := Option.map_eq_some_iff.mp hg
      obtain ⟨r', hput, hassigned⟩ := put_assign hf hg
      exact Or.inr ⟨f, x, r', rfl, hx, hput, hassigned⟩

theorem set_mismatch (h : r.field? column = some f) (hv : f.assign? v = none) :
    r.set column v = .error (.mismatch column f.column.type.kind v) := by
  rw [set, put_mismatch h hv]
  rfl

theorem set_assign (h : r.field? column = some f) (hv : f.assign? v = some g) :
    ∃ r', r.set column v = .ok r' ∧ Assigned column g r r' := by
  obtain ⟨r', hput, hassigned⟩ := put_assign h hv
  refine ⟨r', ?_, hassigned⟩
  rw [set, hput]
  rfl

/-- A caller that is given a record or an error has in it all that was left in place. -/
theorem put_eq_set (r : Record υ) (column : String) (v : Value) :
    r.put column v =
      match r.set column v with
      | .ok r' => (r', .ok ())
      | .error e => (r, .error e) := by
  obtain ⟨-, hput⟩ | ⟨f, -, -, hput⟩ | ⟨f, x, r', -, -, hput, -⟩ := r.put_cases column v
  · rw [set, hput]
    rfl
  · rw [set, hput]
    rfl
  · rw [set, hput]
    rfl

end Record

/-! ## Whole numbers -/

namespace FieldKind

/-- Whether fields of this kind can take a whole number. -/
def Holds (k : FieldKind) (n : Int64) : Prop :=
  match k with
  | short => -32768 ≤ n.toInt ∧ n.toInt ≤ 32767
  | int => -2147483648 ≤ n.toInt ∧ n.toInt ≤ 2147483647
  | _ => True

instance decidableHolds : (k : FieldKind) → (n : Int64) → Decidable (k.Holds n)
  | short, _ => inferInstanceAs (Decidable (_ ∧ _))
  | int, _ => inferInstanceAs (Decidable (_ ∧ _))
  | bool, _ | long, _ | float, _ | double, _ | text, _ => .isTrue trivial

/-- What a field of this kind gives when it has taken a whole number. -/
def shown (k : FieldKind) (n : Int64) : Value :=
  match k with
  | bool => .bool (n != 0)
  | float => .real (Number.Single.ofInt n.toInt).toDouble
  | double => .real (Number.Double.ofInt n.toInt)
  | text => .text (toString n.toInt)
  | _ => .int n

theorem ofValue_int (k : FieldKind) (n : Int64) : k.ofValue? (.int n) = k.ofInt? n := by
  cases k <;> rfl

theorem ofInt_refused {k : FieldKind} {n : Int64} (h : ¬ k.Holds n) : k.ofInt? n = none := by
  cases k with
  | short => exact if_neg h
  | int => exact if_neg h
  | _ => exact absurd trivial h

theorem ofInt_shown {k : FieldKind} {n : Int64} (h : k.Holds n) :
    ∃ x, k.ofInt? n = some x ∧ k.toValue x = k.shown n := by
  cases k with
  | short =>
    refine ⟨Int16.ofInt n.toInt, if_pos h, congrArg Value.int (Int64.toInt_inj.mp ?_)⟩
    rw [Int16.toInt_toInt64, Int16.toInt_ofInt_of_le h.1 (Int.lt_add_one_of_le h.2)]
  | int =>
    refine ⟨Int32.ofInt n.toInt, if_pos h, congrArg Value.int (Int64.toInt_inj.mp ?_)⟩
    rw [Int32.toInt_toInt64, Int32.toInt_ofInt_of_le h.1 (Int.lt_add_one_of_le h.2)]
  | _ => exact ⟨_, rfl, rfl⟩

end FieldKind

namespace Field

theorem value_assign (f : Field) {v : Value} (h : v ≠ .null) :
    (f.assign? v).map Field.value = (f.column.type.kind.ofValue? v).map f.column.type.kind.toValue := by
  obtain ⟨⟨name, field, type, inTable⟩, x⟩ := f
  cases type with
  | required k =>
    show ((k.ofValue? v).map _).map _ = (k.ofValue? v).map _
    rw [Option.map_map]
    rfl
  | optional k =>
    show (((FieldType.optional k).ofValue? v).map _).map _ = (k.ofValue? v).map _
    rw [FieldType.ofValue_optional h, Option.map_map, Option.map_map]
    rfl

theorem assign_int_refused {f : Field} {n : Int64} (h : ¬ f.column.type.kind.Holds n) :
    f.assign? (.int n) = none := by
  have hvalue := f.value_assign (v := .int n) (by simp)
  rw [FieldKind.ofValue_int, FieldKind.ofInt_refused h] at hvalue
  exact Option.map_eq_none_iff.mp hvalue

theorem assign_int {f : Field} {n : Int64} (h : f.column.type.kind.Holds n) :
    ∃ g, f.assign? (.int n) = some g ∧ g.value = f.column.type.kind.shown n := by
  obtain ⟨x, hx, hshown⟩ := FieldKind.ofInt_shown h
  have hvalue := f.value_assign (v := .int n) (by simp)
  rw [FieldKind.ofValue_int, hx, Option.map_some, hshown] at hvalue
  exact Option.map_eq_some_iff.mp hvalue

end Field

end SqlRecord
