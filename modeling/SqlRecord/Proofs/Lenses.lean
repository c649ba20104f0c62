import SqlRecord.Proofs.Assignment

/-! # Fields as lenses

A record gives back what was put into a column, and what it gave can be put into it again, also in the form in
which it is stored. A value changes the field of its column and nothing beside it, and a value that is refused
changes nothing.
-/

namespace SqlRecord

open Number

/-! ## Contents given and taken again -/

theorem Value.stored_ne_null {v : Value} (h : v ≠ .null) : v.stored ≠ .null := by
  cases v with
  | null => exact absurd rfl h
  | _ => exact nofun

namespace FieldKind

theorem settled_of_ne_float {k : FieldKind} (h : k ≠ float) (x : k.Content) : k.settled x = x := by
  cases k with
  | float => exact absurd rfl h
  | _ => rfl

theorem ofValue_stored (k : FieldKind) (x : k.Content) :
    k.ofValue? (k.toValue x).stored = k.ofValue? (k.toValue x) := by
  cases k with
  | bool => cases x <;> rfl
  | _ => rfl

end FieldKind

namespace FieldType

def settled : (t : FieldType) → t.Content → t.Content
  | required k, x => k.settled x
  | optional k, x => x.map k.settled

theorem ofValue_settled (t : FieldType) (x : t.Content) : t.ofValue? (t.toValue x) = some (t.settled x) := by
  cases t with
  | required k => exact k.ofValue_settled x
  | optional k =>
    cases x with
    | none => rfl
    | some y =>
      show (optional k).ofValue? (k.toValue y) = _
      rw [ofValue_optional (k.toValue_ne_null y), k.ofValue_settled]
      rfl

theorem ofValue_stored (t : FieldType) (x : t.Content) :
    t.ofValue? (t.toValue x).stored = t.ofValue? (t.toValue x) := by
  cases t with
  | required k => exact k.ofValue_stored x
  | optional k =>
    cases x with
    | none => rfl
    | some y =>
      have hstored : (k.toValue y).stored ≠ .null := Value.stored_ne_null (k.toValue_ne_null y)
      show (optional k).ofValue? (k.toValue y).stored = (optional k).ofValue? (k.toValue y)
      rw [ofValue_optional hstored, ofValue_optional (k.toValue_ne_null y), k.ofValue_stored]

end FieldType

/-! ## One field among others -/

namespace Field

theorem put_of_ofValue {f : Field} {v : Value} {x : f.column.type.Content} (h : f.column.type.ofValue? v = some x) :
    f.put v = (⟨f.column, x⟩, .ok ()) := by
  rw [put, assign?, h]
  rfl

theorem putIn_append {column : String} {before : List Field} (h : ∀ g ∈ before, g.column.name ≠ column)
    (v : Value) (fs : List Field) :
    putIn column v (before ++ fs) = (before ++ (putIn column v fs).1, (putIn column v fs).2) := by
  induction before with
  | nil => rfl
  | cons g before ih =>
    obtain ⟨hg, hbefore⟩ := List.forall_mem_cons.mp h
    rw [List.cons_append, putIn, if_neg hg, ih hbefore]
    rfl

end Field

namespace Record

variable {υ : Type} {r : Record υ} {column : String} {v : Value}

theorem put_eq {f : Field} (hf : r.field? column = some f) :
    ∃ before after, r.fields = before ++ f :: after ∧
      ∀ v, r.put column v = (⟨before ++ (f.put v).1 :: after, r.unmapped⟩, (f.put v).2) := by
  obtain ⟨hname, before, after, hfields, hbefore⟩ := List.find?_eq_some_iff_append.mp hf
  have hother : ∀ g ∈ before, g.column.name ≠ column := fun g hg => by simpa using hbefore g hg
  refine ⟨before, after, hfields, fun v => ?_⟩
  rw [put, hfields, Field.putIn_append hother, Field.putIn, if_pos (by simpa using hname)]

theorem field_eq_none : r.field? column = none ↔ ∀ c ∈ r.columns, c.name ≠ column := by
  simp [field?, columns]

theorem put_unknown_iff (v : Value) :
    (r.put column v).2 = .error (.unknownColumn column) ↔ ∀ c ∈ r.columns, c.name ≠ column := by
  rw [← field_eq_none]
  refine ⟨fun h => ?_, fun h => by rw [put_unknown h]⟩
  obtain ⟨hf, -⟩ | ⟨f, -, -, hput⟩ | ⟨f, x, r', -, -, hput, -⟩ := r.put_cases column v
  · exact hf
  · rw [hput] at h
    cases h
  · rw [hput] at h
    cases h

theorem of_put_error {e : FieldError} (h : (r.put column v).2 = .error e) :
    (r.put column v).1 = r ∧ (e = .unknownColumn column ∨ ∃ f, r.field? column = some f ∧
      f.column.type.ofValue? v = none ∧ e = .mismatch column f.column.type.kind v) := by
  obtain ⟨-, hput⟩ | ⟨f, hf, hv, hput⟩ | ⟨f, x, r', -, -, hput, -⟩ := r.put_cases column v
  · rw [hput] at h ⊢
    cases h
    exact ⟨rfl, Or.inl rfl⟩
  · rw [hput] at h ⊢
    cases h
    exact ⟨rfl, Or.inr ⟨f, hf, hv, rfl⟩⟩
  · rw [hput] at h
    cases h

theorem of_put_ok (h : (r.put column v).2 = .ok ()) :
    ∃ f x before after, r.field? column = some f ∧ f.column.type.ofValue? v = some x ∧
      r.fields = before ++ f :: after ∧
      (r.put column v).1 = ⟨before ++ ⟨f.column, x⟩ :: after, r.unmapped⟩ ∧
      (r.put column v).1.get? column = some (f.column.type.toValue x) := by
  obtain ⟨-, hput⟩ | ⟨f, -, -, hput⟩ | ⟨f, x, r', hf, hx, hput, hassigned⟩ := r.put_cases column v
  · rw [hput] at h
    cases h
  · rw [hput] at h
    cases h
  · obtain ⟨before, after, hfields, hcut⟩ := put_eq hf
    have hleft : (r.put column v).1 = ⟨before ++ ⟨f.column, x⟩ :: after, r.unmapped⟩ := by
      rw [hcut, Field.put_of_ofValue hx]
    refine ⟨f, x, before, after, hf, hx, hfields, hleft, ?_⟩
    rw [hput]
    exact hassigned.get

theorem put_get {f : Field} (hf : r.field? column = some f) :
    (r.put column f.value).2 = .ok () ∧ r.put column f.value.stored = r.put column f.value ∧
      ((r.put column f.value).1 = r ↔ f.column.type.settled f.content = f.content) := by
  obtain ⟨before, after, hfields, hput⟩ := put_eq hf
  have hvalue : f.put f.value = (⟨f.column, f.column.type.settled f.content⟩, .ok ()) :=
    Field.put_of_ofValue (f.column.type.ofValue_settled f.content)
  have hstored : f.put f.value.stored = (⟨f.column, f.column.type.settled f.content⟩, .ok ()) :=
    Field.put_of_ofValue ((f.column.type.ofValue_stored f.content).trans (f.column.type.ofValue_settled f.content))
  rw [hput, hput, hvalue, hstored]
  refine ⟨rfl, rfl, ?_⟩
  obtain ⟨fields, unmapped⟩ := r
  obtain rfl : fields = before ++ f :: after := hfields
  obtain ⟨c, x⟩ := f
  simp

/-! ## The main result -/

/-- A value is refused exactly if the record has no such column, or its field does not take it, and then the
record is left as it was. A value that is taken is given back as the field holds it, and all other fields, and all
that no column reaches, are as they were. What a column gives can be put back in both forms, and the record is then
the same unless a number of 32 bits is not the one that is made of it by widening and narrowing. -/
theorem lens_laws {υ : Type} (r : Record υ) (column : String) :
    (∀ v, (r.put column v).2 = .error (.unknownColumn column) ↔ ∀ c ∈ r.columns, c.name ≠ column) ∧
    (∀ v e, (r.put column v).2 = .error e → (r.put column v).1 = r ∧
      (e = .unknownColumn column ∨ ∃ f, r.field? column = some f ∧ f.column.type.ofValue? v = none ∧
        e = .mismatch column f.column.type.kind v)) ∧
    (∀ v, (r.put column v).2 = .ok () → ∃ f x before after,
      r.field? column = some f ∧ f.column.type.ofValue? v = some x ∧
      r.fields = before ++ f :: after ∧
      (r.put column v).1 = ⟨before ++ ⟨f.column, x⟩ :: after, r.unmapped⟩ ∧
      (r.put column v).1.get? column = some (f.column.type.toValue x)) ∧
    (∀ f, r.field? column = some f → r.get? column = some f.value ∧
      (r.put column f.value).2 = .ok () ∧ r.put column f.value.stored = r.put column f.value ∧
      ((r.put column f.value).1 = r ↔ f.column.type.settled f.content = f.content)) ∧
    (∀ (k : FieldKind) (x : k.Content), k ≠ .float → k.settled x = x) ∧
    ∀ x : Single, x.Canonical → FieldKind.float.settled x = x := by
  refine ⟨put_unknown_iff, ?refused, ?taken, ?putBack, fun k x h => FieldKind.settled_of_ne_float h x,
    fun x => Single.toSingle_toDouble⟩
  case refused =>
    intro v e h
    exact of_put_error h
  case taken =>
    intro v h
    exact of_put_ok h
  case putBack =>
    intro f hf
    exact ⟨get_of_field hf, put_get hf⟩

/-- Every field of a record gives what can be put back: the limits of each width, the smallest number of 32 bits,
nothing, the empty text and both booleans. One more than fits is refused by the field that it is meant for. -/
theorem lens_laws_limits :
    let r : Record Unit :=
      ⟨[⟨⟨"on", "on", .required .bool, true⟩, true⟩, ⟨⟨"off", "off", .optional .bool, true⟩, some false⟩,
        ⟨⟨"level", "level", .required .short, true⟩, Int16.minValue⟩,
        ⟨⟨"size", "size", .optional .int, true⟩, some Int32.maxValue⟩,
        ⟨⟨"total", "total", .required .long, true⟩, Int64.minValue⟩,
        ⟨⟨"ratio", "ratio", .optional .float, true⟩, some (⟨1⟩ : Single)⟩,
        ⟨⟨"note", "note", .required .text, true⟩, ""⟩,
        ⟨⟨"hint", "hint", .optional .text, true⟩, (none : Option String)⟩], ()⟩
    (∀ f ∈ r.fields, r.get? f.column.name = some f.value ∧
      r.put f.column.name f.value = (r, .ok ()) ∧ r.put f.column.name f.value.stored = (r, .ok ())) ∧
    r.put "level" (.int 32768) = (r, .error (.mismatch "level" .short (.int 32768))) ∧
    r.put "rate" (.int 1) = (r, .error (.unknownColumn "rate")) := by
  intro r
  have hdistinct : (r.columns.map (·.name)).Nodup := by decide
  have hratio : FieldKind.float.settled ⟨1⟩ = ⟨1⟩ := (lens_laws r "ratio").2.2.2.2.2 ⟨1⟩ (Or.inl (by decide))
  have hsettled : ∀ f ∈ r.fields, f.column.type.settled f.content = f.content := by
    simp only [r, List.forall_mem_cons]
    exact ⟨rfl, rfl, rfl, rfl, rfl, congrArg some hratio, rfl, rfl, nofun⟩
  have hrefused : ∀ c v e, (r.put c v).2 = .error e → r.put c v = (r, .error e) := fun c v e h =>
    Prod.ext ((lens_laws r c).2.1 v e h).1 h
  refine ⟨fun f hf => ?_, hrefused _ _ _ rfl, hrefused _ _ _ (((lens_laws r "rate").1 (.int 1)).mpr (by decide))⟩
  obtain ⟨hget, hok, hstored, hsame⟩ := (lens_laws r f.column.name).2.2.2.1 f (field_of_mem hdistinct hf)
  have hput : r.put f.column.name f.value = (r, .ok ()) := Prod.ext (hsame.mpr (hsettled f hf)) hok
  exact ⟨hget, hput, hstored.trans hput⟩

end Record

end SqlRecord
