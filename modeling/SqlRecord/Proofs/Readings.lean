import SqlRecord.Proofs.Cells

/-! # Texts read alike

A text makes the same field whether it is put into the column or shown there by a row, and is refused by both or
by neither. It is so with whole numbers where the field is one, and with all that is not null where it is a text.
What was read from a cell is never refused by its field.
-/

namespace SqlRecord

open Number

/-! ## One value -/

namespace FieldKind

/-- The values of which a field of this kind takes what their text says. -/
def TakesText (k : FieldKind) : Value → Prop
  | .null => False
  | .text _ => True
  | .int _ => k = short ∨ k = int ∨ k = long ∨ k = text
  | _ => k = text

theorem ne_null_of_takesText {k : FieldKind} {v : Value} (h : k.TakesText v) : v ≠ .null := by
  rintro rfl
  exact h

theorem read_toString {k : FieldKind} (h : k = short ∨ k = int ∨ k = long) (n : Int64) :
    k.read (toString n.toInt) = k.ofInt? n := by
  obtain rfl | rfl | rfl := h
  · rw [read, readInt_trim_toString]
    rfl
  · rw [read, readInt_trim_toString]
    rfl
  · rw [read, readInt_trim_toString]
    exact int64?_toInt n

theorem ofValue_eq_read {k : FieldKind} {v : Value} (h : k.TakesText v) : k.ofValue? v = k.read v.display := by
  cases v with
  | null => exact h.elim
  | text s => cases k <;> rfl
  | int n =>
    rw [ofValue_int]
    obtain h | h | h | rfl := h
    · exact (read_toString (Or.inl h) n).symm
    · exact (read_toString (Or.inr (Or.inl h)) n).symm
    · exact (read_toString (Or.inr (Or.inr h)) n).symm
    · rfl
  | bool b | real x | blob bytes =>
    obtain rfl : k = text := h
    rfl

end FieldKind

namespace FieldType

theorem ofValue_eq_read {t : FieldType} {v : Value} (h : t.kind.TakesText v) : t.ofValue? v = t.read? v.display := by
  have hkind := FieldKind.ofValue_eq_read h
  cases t with
  | required k => exact hkind
  | optional k =>
    rw [ofValue_optional (FieldKind.ne_null_of_takesText h)]
    exact congrArg (Option.map some) hkind

theorem coerce_bind (t : FieldType) (s : String) : (t.kind.coerce s).bind t.ofValue? = t.read? s := by
  rw [FieldKind.coerce_eq]
  cases hread : t.kind.read s with
  | none =>
    have hnone : (t.read? s).isSome = false := by rw [read_isSome, hread]; rfl
    exact (Option.not_isSome_iff_eq_none.mp (by simp [hnone])).symm
  | some x => exact ofValue_of_read hread

theorem ofValue_of_coerce {t : FieldType} {s : String} {v : Value} (h : t.kind.coerce s = some v) :
    ∃ x, t.ofValue? v = some x := by
  obtain ⟨x, hread, rfl⟩ := Option.map_eq_some_iff.mp ((FieldKind.coerce_eq t.kind s).symm.trans h)
  rw [ofValue_of_read hread, ← Option.isSome_iff_exists, read_isSome, hread]
  rfl

end FieldType

/-! ## One column of a record -/

namespace Field

theorem getD_assign (f : Field) (v : Value) :
    (f.assign? v).getD f = ⟨f.column, (f.column.type.ofValue? v).getD f.content⟩ := by
  unfold assign?
  cases f.column.type.ofValue? v <;> rfl

end Field

namespace Record

variable {υ : Type} {r : Record υ} {column : String} {f : Field}

theorem field_set (hf : r.field? column = some f) (v : Value) :
    ((r.set column v).toOption.getD r).field? column =
      some ⟨f.column, (f.column.type.ofValue? v).getD f.content⟩ := by
  rw [← f.getD_assign]
  cases hg : f.assign? v with
  | none =>
    rw [set_mismatch hf hg]
    exact hf
  | some g =>
    obtain ⟨r', hset, hassigned⟩ := set_assign hf hg
    rw [hset]
    exact hassigned.field

theorem set_refused_iff (hf : r.field? column = some f) (v : Value) :
    (∃ e, r.set column v = .error e) ↔ f.column.type.ofValue? v = none := by
  rw [← Field.assign_eq_none]
  cases hg : f.assign? v with
  | none => simp [set_mismatch hf hg]
  | some g =>
    obtain ⟨r', hset, -⟩ := set_assign hf hg
    simp [hset]

end Record

namespace Column

variable (record : String) (c : Column)

theorem notAssigned_not_mem (cell : Option Value) (column value : String) (e : FieldError) :
    Event.notAssigned record column value e ∉ c.reports record cell := by
  unfold reports
  split
  · simp
  · split <;> simp
  · split <;> simp

theorem name_of_notCoerced {cell : Option Value} {column value : String} {kind : FieldKind}
    (h : Event.notCoerced record column value kind ∈ c.reports record cell) : c.name = column := by
  unfold reports at h
  split at h
  · simp at h
  · split at h <;> simp at h
  · split at h
    · simp at h
    · simp only [List.mem_singleton, Event.notCoerced.injEq] at h
      exact h.2.1.symm

theorem notCoerced_mem_iff {v : Value} (h : v ≠ .null) (column : String) :
    Event.notCoerced record column v.display c.type.kind ∈ c.reports record (some v) ↔
      c.name = column ∧ c.type.read? v.display = none := by
  have hreports : c.reports record (some v) =
      if (c.type.read? v.display).isSome then [] else [.notCoerced record c.name v.display c.type.kind] := by
    cases v with
    | null => exact absurd rfl h
    | _ => rfl
  rw [hreports]
  cases c.type.read? v.display <;> simp [eq_comm]

end Column

namespace RecordType

variable {υ : Type} (T : RecordType υ)

theorem reports_ofRow (h : (T.initial.columns.map (·.name)).Nodup) (row : Row) :
    (T.ofRow row).2 = T.initial.columns.flatMap fun c => c.reports T.typeName (row.get? c.name) :=
  T.reports_fillAll row fun _ hc => Record.column_of_mem h hc

theorem field_ofRow_eq_set (h : (T.initial.columns.map (·.name)).Nodup) {row : Row} {column : String} {f : Field}
    {v : Value} (hf : T.initial.field? column = some f) (hcell : row.get? column = some v)
    (hv : f.column.type.kind.TakesText v) :
    (T.ofRow row).1.field? column = ((T.initial.set column v).toOption.getD T.initial).field? column := by
  have hname := (Record.column_of_field hf).2
  have hne := FieldKind.ne_null_of_takesText hv
  have hdecided : f.column.type.decided f.content (some v) = (f.column.type.read? v.display).getD f.content := by
    cases v with
    | null => exact absurd rfl hne
    | _ => rfl
  rw [T.field_ofRow row h, hf, Option.map_some, Field.fromRow_eq, hname, hcell, hdecided,
    Record.field_set hf, FieldType.ofValue_eq_read hv]

theorem notCoerced_mem_ofRow (h : (T.initial.columns.map (·.name)).Nodup) {row : Row} {column : String} {f : Field}
    {v : Value} (hf : T.initial.field? column = some f) (hcell : row.get? column = some v)
    (hv : f.column.type.kind.TakesText v) :
    Event.notCoerced T.typeName column v.display f.column.type.kind ∈ (T.ofRow row).2 ↔
      ∃ e, T.initial.set column v = .error e := by
  obtain ⟨hmem, hname⟩ := Record.column_of_field hf
  have hne := FieldKind.ne_null_of_takesText hv
  rw [Record.set_refused_iff hf, FieldType.ofValue_eq_read hv, T.reports_ofRow h, List.mem_flatMap]
  constructor
  · rintro ⟨c, hc, hreport⟩
    have hcolumn : c = f.column :=
      List.inj_on_of_nodup_map h hc (List.mem_map_of_mem hmem) ((c.name_of_notCoerced _ hreport).trans hname.symm)
    rw [hcolumn, hname, hcell] at hreport
    exact ((f.column.notCoerced_mem_iff T.typeName hne column).mp hreport).2
  · intro hnone
    refine ⟨f.column, List.mem_map_of_mem hmem, ?_⟩
    rw [hname, hcell]
    exact (f.column.notCoerced_mem_iff T.typeName hne column).mpr ⟨hname, hnone⟩

theorem notAssigned_not_mem_ofRow (h : (T.initial.columns.map (·.name)).Nodup) (row : Row)
    (column value : String) (e : FieldError) : Event.notAssigned T.typeName column value e ∉ (T.ofRow row).2 := by
  rw [T.reports_ofRow h, List.mem_flatMap]
  rintro ⟨c, -, hreport⟩
  exact c.notAssigned_not_mem T.typeName _ column value e hreport

end RecordType

/-! ## The main result -/

/-- A text is taken by a field exactly as the cell that shows it is read and the field takes what was read, and
so is a whole number or, by a text, any other value that its field takes for its text. The field never refuses
what was read, so no row is ever reported for that. -/
theorem texts_read_alike :
    (∀ (t : FieldType) (v : Value), t.kind.TakesText v → ∀ x, t.ofValue? v = some x ↔
      ∃ s w, v.text? = some s ∧ t.kind.coerce s = some w ∧ t.ofValue? w = some x) ∧
    (∀ (t : FieldType) (s : String) (w : Value), t.kind.coerce s = some w → ∃ x, t.ofValue? w = some x) ∧
    ∀ {υ : Type} (T : RecordType υ), (T.initial.columns.map (·.name)).Nodup → ∀ row : Row,
      (∀ column f v, T.initial.field? column = some f → row.get? column = some v → f.column.type.kind.TakesText v →
        (T.ofRow row).1.field? column = ((T.initial.set column v).toOption.getD T.initial).field? column ∧
        (Event.notCoerced T.typeName column v.display f.column.type.kind ∈ (T.ofRow row).2 ↔
          ∃ e, T.initial.set column v = .error e)) ∧
      ∀ column value e, Event.notAssigned T.typeName column value e ∉ (T.ofRow row).2 := by
  refine ⟨fun t v hv x => ?_, fun t s w => FieldType.ofValue_of_coerce, fun T h row => ⟨?_, ?_⟩⟩
  · have hne := FieldKind.ne_null_of_takesText hv
    rw [FieldType.ofValue_eq_read hv, ← t.coerce_bind, Option.bind_eq_some_iff]
    simp [Value.text_of_ne_null hne]
  · intro column f v hf hcell hv
    exact ⟨T.field_ofRow_eq_set h hf hcell hv, T.notCoerced_mem_ofRow h hf hcell hv⟩
  · exact T.notAssigned_not_mem_ofRow h row

/-- The least number of its width is taken from its digits, and one past the greatest is refused in both ways.
A field of 32 bits takes the number of its own that is nearest to a text. -/
theorem texts_read_alike_gauge :
    let level : FieldType := .optional .short
    let T : RecordType Unit :=
      { typeName := "Gauge"
        initial := ⟨[⟨⟨"on", "on", .required .bool, true⟩, false⟩,
          ⟨⟨"level", "level", level, true⟩, some (7 : Int16)⟩,
          ⟨⟨"ratio", "ratio", .required .float, true⟩, (⟨0⟩ : Single)⟩,
          ⟨⟨"note", "note", .required .text, true⟩, "unset"⟩], ()⟩ }
    let row : Row :=
      ⟨[("on", .text " TRUE "), ("level", .int 32768), ("ratio", .text "0.1"), ("note", .bool true)]⟩
    let r := T.ofRow row
    (level.kind.TakesText (.int (-32768)) ∧ level.ofValue? (.int (-32768)) = some (some (-32768)) ∧
      ∃ s w, (Value.int (-32768)).text? = some s ∧ level.kind.coerce s = some w ∧
        level.ofValue? w = some (some (-32768))) ∧
    (FieldKind.bool.coerce " TRUE " = some (.bool true) ∧
      ∃ x, (FieldType.optional .bool).ofValue? (.bool true) = some x) ∧
    (T.initial.columns.map (·.name)).Nodup ∧
    r.1.fields.map Field.value = [.bool true, .int 7, .real ⟨0x3FB99999A0000000⟩, .text "true"] ∧
    r.1.field? "ratio" = ((T.initial.set "ratio" (.text "0.1")).toOption.getD T.initial).field? "ratio" ∧
    r.2 = [.notCoerced "Gauge" "level" "32768" .short] ∧
    (∃ e, T.initial.set "level" (.int 32768) = .error e) ∧
    ∀ column value e, Event.notAssigned "Gauge" column value e ∉ r.2 := by
  intro level T row r
  have hdistinct : (T.initial.columns.map (·.name)).Nodup := by decide
  have hleast : level.ofValue? (.int (-32768)) = some (some (-32768)) := by decide
  have hword : FieldKind.bool.coerce " TRUE " = some (.bool true) := by decide
  have hevents : r.2 = [.notCoerced "Gauge" "level" "32768" .short] := by decide +kernel
  have htakes : level.kind.TakesText (.int (-32768)) := Or.inl rfl
  obtain ⟨hvalues, htaken, hrecords⟩ := texts_read_alike
  obtain ⟨hfields, hnever⟩ := hrecords T hdistinct row
  have hlevel : Event.notCoerced "Gauge" "level" "32768" .short ∈ r.2 := by simp [hevents]
  exact ⟨⟨htakes, hleast, (hvalues level _ htakes _).mp hleast⟩,
    ⟨hword, htaken (.optional .bool) _ _ hword⟩, hdistinct, by decide +kernel,
    (hfields "ratio" _ (.text "0.1") rfl rfl trivial).1, hevents,
    (hfields "level" _ (.int 32768) rfl rfl (Or.inl rfl)).2.mp hlevel, hnever⟩

end SqlRecord
