import Mathlib.Data.List.Nodup
import SqlRecord.Proofs.Floats
import SqlRecord.Proofs.Numerals
import SqlRecord.Record.OfRow

/-! # Fields and the cells they are filled from

What a field gives, seen as a result column shows it, makes the same field again. A row fills every field
by itself, so a record of a row is its default record with each field filled from its own cell.
-/

namespace SqlRecord

open Number Trim

/-! ## Contents through texts -/

namespace FieldKind

/-- The text of a floating-point number reads back. All other contents do so anyway. -/
def ReadsBack : (k : FieldKind) → k.Content → Prop
  | float, x => Single.read x.toDouble.text.toList = some x
  | double, x => Double.read x.text.toList = some x
  | bool, _ => True
  | short, _ => True
  | int, _ => True
  | long, _ => True
  | text, _ => True

theorem readInt_trim_toString (n : Int) :
    readInt (Text.trimChars (toString n).toList) = some n := by
  rw [trimChars_of_tight (tight_of_isNumeral fun _ => isNumeral_of_mem_toString), readInt_toString]

theorem trimChars_text (x : Double) : Text.trimChars x.text.toList = x.text.toList :=
  trimChars_of_tight (tight_of_isNumeral fun _ => isNumeral_of_mem_text)

theorem read_stored {k : FieldKind} {x : k.Content} (h : k.ReadsBack x) :
    ∃ s, (k.toValue x).stored.text? = some s ∧ k.read s = some x := by
  cases k with
  | bool =>
    cases x with
    | false => exact ⟨_, rfl, by decide⟩
    | true => exact ⟨_, rfl, by decide⟩
  | short =>
    refine ⟨_, rfl, ?_⟩
    rw [read, readInt_trim_toString, Int16.toInt_toInt64]
    exact int16?_toInt x
  | int =>
    refine ⟨_, rfl, ?_⟩
    rw [read, readInt_trim_toString, Int32.toInt_toInt64]
    exact int32?_toInt x
  | long =>
    refine ⟨_, rfl, ?_⟩
    rw [read, readInt_trim_toString]
    exact int64?_toInt x
  | float =>
    refine ⟨_, rfl, ?_⟩
    rw [read, trimChars_text]
    exact h
  | double =>
    refine ⟨_, rfl, ?_⟩
    rw [read, trimChars_text]
    exact h
  | text => exact ⟨x, rfl, rfl⟩

theorem coerce_eq (k : FieldKind) (s : String) : k.coerce s = (k.read s).map k.toValue := by
  cases k with
  | bool =>
    -- Blanks around a truth value are dropped twice.
    have htwice : readBool (Text.trim s) = readBool s := by
      unfold readBool
      rw [Text.toList_trim, trimChars_trimChars]
    rw [coerce, htwice]
    rfl
  | _ => rfl

/-- A content after it was given and taken again. Only a floating-point number of 32 bits can differ, if widening
and narrowing it does not give it back. -/
def settled : (k : FieldKind) → k.Content → k.Content
  | float, x => x.toDouble.toSingle
  | _, x => x

theorem ofValue_settled (k : FieldKind) (x : k.Content) : k.ofValue? (k.toValue x) = some (k.settled x) := by
  cases k with
  | short =>
    rw [toValue, ofValue?, ofInt?, Int16.toInt_toInt64]
    exact int16?_toInt x
  | int =>
    rw [toValue, ofValue?, ofInt?, Int32.toInt_toInt64]
    exact int32?_toInt x
  | _ => rfl

theorem ofValue_of_read {k : FieldKind} {s : String} {x : k.Content} (h : k.read s = some x) :
    k.ofValue? (k.toValue x) = some x := by
  rw [ofValue_settled]
  cases k with
  | float => exact congrArg some (Single.toSingle_toDouble (Single.canonical_of_read h))
  | _ => rfl

theorem ofValue_toValue {k : FieldKind} {x : k.Content} (h : k.ReadsBack x) :
    k.ofValue? (k.toValue x) = some x := by
  obtain ⟨s, -, hread⟩ := read_stored h
  exact ofValue_of_read hread

theorem toValue_ne_null (k : FieldKind) (x : k.Content) : k.toValue x ≠ .null := by
  cases k <;> exact nofun

end FieldKind

namespace FieldType

def ReadsBack : (t : FieldType) → t.Content → Prop
  | required k, x => k.ReadsBack x
  | optional k, x => ∀ y ∈ x, k.ReadsBack y

theorem ofValue_optional {k : FieldKind} {v : Value} (h : v ≠ .null) :
    (optional k).ofValue? v = (k.ofValue? v).map some := by
  rw [ofValue?]
  exact h

end FieldType

/-! ## Filling a field -/

namespace Field

/-- The field after a cell was put into it, which leaves it as it is if the cell does not fit. -/
def fillWith (f : Field) (v : Value) : Field :=
  match v.text? with
  | none => (f.assign? .null).getD f
  | some s => ((f.column.type.kind.coerce s).bind f.assign?).getD f

/-- The field after it was filled from its cell of a row, if the row has one. -/
def fromRow (row : Row) (f : Field) : Field :=
  match row.get? f.column.name with
  | none => f
  | some v => f.fillWith v

theorem column_of_assign {f g : Field} {v : Value} (h : f.assign? v = some g) : g.column = f.column := by
  obtain ⟨x, -, rfl⟩ := Option.map_eq_some_iff.mp h
  rfl

theorem column_getD_assign (f : Field) (v : Value) : ((f.assign? v).getD f).column = f.column := by
  cases h : f.assign? v with
  | none => rfl
  | some g => exact column_of_assign h

theorem column_fillWith (f : Field) (v : Value) : (f.fillWith v).column = f.column := by
  unfold fillWith
  split
  · exact column_getD_assign f _
  · cases f.column.type.kind.coerce _ with
    | none => rfl
    | some w => exact column_getD_assign f w

theorem column_fromRow (row : Row) (f : Field) : (f.fromRow row).column = f.column := by
  unfold fromRow
  split
  · rfl
  · exact column_fillWith f _

theorem text_stored_of_not_none {k : FieldKind} {x : k.Content} (h : k.ReadsBack x) {v : Value}
    (hv : v.text? = (k.toValue x).stored.text?) :
    ∃ s, v.text? = some s ∧ k.coerce s = some (k.toValue x) := by
  obtain ⟨s, hs, hread⟩ := FieldKind.read_stored h
  exact ⟨s, hv.trans hs, by rw [FieldKind.coerce_eq, hread]; rfl⟩

theorem fillWith_stored {c : Column} {x : c.type.Content} (h : c.type.ReadsBack x) (y : c.type.Content)
    {v : Value} (hv : v.text? = (c.type.toValue x).stored.text?) :
    (Field.mk c y).fillWith v = ⟨c, x⟩ := by
  obtain ⟨name, field, type, inTable⟩ := c
  cases type with
  | required k =>
    obtain ⟨s, hs, hcoerce⟩ := text_stored_of_not_none (x := x) h hv
    have hassign : (Field.mk ⟨name, field, .required k, inTable⟩ y).assign? (k.toValue x) =
        some ⟨⟨name, field, .required k, inTable⟩, x⟩ := by
      show (k.ofValue? (k.toValue x)).map _ = _
      rw [FieldKind.ofValue_toValue h]
      rfl
    unfold fillWith
    rw [hs]
    show ((k.coerce s).bind _).getD _ = _
    rw [hcoerce, Option.bind_some, hassign]
    rfl
  | optional k =>
    cases x with
    | none =>
      unfold fillWith
      rw [hv]
      rfl
    | some x =>
      obtain ⟨s, hs, hcoerce⟩ := text_stored_of_not_none (x := x) (h x rfl) hv
      have hof : (FieldType.optional k).ofValue? (k.toValue x) = some (some x) := by
        rw [FieldType.ofValue_optional (k.toValue_ne_null x), FieldKind.ofValue_toValue (h x rfl)]
        rfl
      unfold fillWith
      rw [hs]
      show ((k.coerce s).bind _).getD _ = _
      rw [hcoerce, Option.bind_some, assign?, hof]
      rfl

/-! ## Filling a record -/

def names (fs : List Field) : List String :=
  fs.map (·.column.name)

theorem names_map {g : Field → Field} (hg : ∀ f, (g f).column = f.column) (fs : List Field) :
    names (fs.map g) = names fs := by
  simp [names, hg]

theorem map_of_not_mem_names {column : String} {fs : List Field} (h : column ∉ names fs)
    (g : Field → Field) : (fs.map fun f => if f.column.name = column then g f else f) = fs := by
  rw [List.map_congr_left, List.map_id]
  intro f hf
  rw [if_neg, id]
  rintro rfl
  exact h (List.mem_map_of_mem hf)

theorem put_fst (f : Field) (v : Value) : (f.put v).1 = (f.assign? v).getD f := by
  unfold put
  cases f.assign? v <;> rfl

theorem putIn_fst (column : String) (v : Value) {fs : List Field} (h : (names fs).Nodup) :
    (putIn column v fs).1 =
      fs.map fun f => if f.column.name = column then (f.assign? v).getD f else f := by
  induction fs with
  | nil => rfl
  | cons f fs ih =>
    obtain ⟨hf, hfs⟩ := List.nodup_cons.mp h
    rw [putIn, List.map_cons]
    split
    · rename_i hc
      rw [map_of_not_mem_names (hc ▸ hf), ← put_fst]
    · rw [← ih hfs]

theorem fromRow_stored {f g : Field} (hcolumn : g.column = f.column)
    (h : f.column.type.ReadsBack f.content) {row : Row} {v : Value}
    (hcell : row.get? f.column.name = some v) (hv : v.text? = f.value.stored.text?) :
    g.fromRow row = f := by
  obtain ⟨c, x⟩ := f
  obtain ⟨c', y⟩ := g
  obtain rfl : c' = c := hcolumn
  have hfill : (Field.mk c' y).fillWith v = ⟨c', x⟩ := fillWith_stored h y hv
  unfold fromRow
  rw [hcell]
  exact hfill

end Field

namespace RecordType

variable {υ : Type} (t : RecordType υ)

theorem put_fst {r : Record υ} (h : (Field.names r.fields).Nodup) (column : String) (v : Value) :
    (r.put column v).1 =
      ⟨r.fields.map fun f => if f.column.name = column then (f.assign? v).getD f else f, r.unmapped⟩ := by
  rw [← Field.putIn_fst column v h]
  rfl

theorem fill_fst (c : Column) (v : Value) (r : Record υ) :
    (t.fill c v r).1 =
      match v.text? with
      | none => (r.put c.name .null).1
      | some s => ((c.type.kind.coerce s).map fun w => (r.put c.name w).1).getD r := by
  unfold fill
  cases v.text? with
  | none =>
    obtain ⟨r', outcome⟩ := r.put c.name .null
    cases outcome <;> rfl
  | some s =>
    cases hw : c.type.kind.coerce s with
    | none => simp only [hw, Option.map_none, Option.getD_none]
    | some w =>
      simp only [hw, Option.map_some, Option.getD_some]
      obtain ⟨r', outcome⟩ := r.put c.name w
      cases outcome <;> rfl

/-- Every field of a column is of the type of that column. -/
def Fits (c : Column) (fs : List Field) : Prop :=
  ∀ f ∈ fs, f.column.name = c.name → f.column = c

theorem fill_eq {c : Column} {r : Record υ} (h : (Field.names r.fields).Nodup) (hc : Fits c r.fields) (v : Value) :
    (t.fill c v r).1 =
      ⟨r.fields.map fun f => if f.column.name = c.name then f.fillWith v else f, r.unmapped⟩ := by
  have hkeep : r = ⟨r.fields.map fun f => if f.column.name = c.name then f else f, r.unmapped⟩ := by
    simp
  rw [fill_fst]
  cases hv : v.text? with
  | none =>
    rw [put_fst h]
    simp only [Field.fillWith, hv]
  | some s =>
    cases hw : c.type.kind.coerce s with
    | none =>
      -- The text cannot be read, so no field of the column is filled.
      simp only [hw, Option.map_none, Option.getD_none]
      have hsame : r.fields.map (fun f => if f.column.name = c.name then f.fillWith v else f) = r.fields := by
        rw [List.map_congr_left, List.map_id]
        intro f hf
        split
        · rename_i hname
          simp only [Field.fillWith, hv, hc f hf hname, hw, Option.bind_none, Option.getD_none, id]
        · rfl
      rw [hsame]
    | some w =>
      simp only [hw, Option.map_some, Option.getD_some]
      rw [put_fst h, Record.mk.injEq]
      refine ⟨List.map_congr_left fun f hf => ?_, rfl⟩
      split
      · rename_i hname
        simp only [Field.fillWith, hv, hc f hf hname, hw, Option.bind_some]
      · rfl

theorem fillAll_eq (row : Row) {cs : List Column} {r : Record υ} (h : (Field.names r.fields).Nodup)
    (hcs : (cs.map (·.name)).Nodup) (hfits : ∀ c ∈ cs, Fits c r.fields) :
    (t.fillAll row cs r).1 =
      ⟨r.fields.map fun f => if f.column.name ∈ cs.map (·.name) then f.fromRow row else f, r.unmapped⟩ := by
  induction cs generalizing r with
  | nil => simp [fillAll]
  | cons c cs ih =>
    obtain ⟨hc, hcs⟩ := List.nodup_cons.mp hcs
    have hfits' : ∀ d ∈ cs, Fits d r.fields := fun d hd => hfits d (List.mem_cons_of_mem _ hd)
    rw [fillAll]
    cases hcell : row.get? c.name with
    | none =>
      rw [ih h hcs hfits', Record.mk.injEq]
      refine ⟨List.map_congr_left fun f _ => ?_, rfl⟩
      by_cases hname : f.column.name = c.name
      · rw [hname, if_neg hc, if_pos (by simp), Field.fromRow, hname, hcell]
      · simp [hname]
    | some v =>
      have hfill := t.fill_eq h (hfits c List.mem_cons_self) v
      have hcolumn : ∀ f : Field, (if f.column.name = c.name then f.fillWith v else f).column = f.column := by
        intro f
        split
        · exact f.column_fillWith v
        · rfl
      have hnodup : (Field.names (t.fill c v r).1.fields).Nodup := by
        rw [hfill, Field.names_map hcolumn]
        exact h
      have hfits'' : ∀ d ∈ cs, Fits d (t.fill c v r).1.fields := by
        intro d hd g hg
        rw [hfill] at hg
        obtain ⟨f, hf, rfl⟩ := List.mem_map.mp hg
        rw [hcolumn]
        exact hfits' d hd f hf
      show (t.fillAll row cs (t.fill c v r).1).1 = _
      rw [ih hnodup hcs hfits'', hfill, Record.mk.injEq, List.map_map]
      refine ⟨List.map_congr_left fun f _ => ?_, rfl⟩
      by_cases hname : f.column.name = c.name
      · simp only [Function.comp, hname, if_pos, Field.column_fillWith, if_neg hc, Field.fromRow, hcell,
          List.map_cons, List.mem_cons, true_or]
      · simp [hname]

/-- The record of a row is the default record with every field filled from its own cell. -/
theorem ofRow_eq (row : Row) (h : (t.initial.columns.map (·.name)).Nodup) :
    (t.ofRow row).1 = ⟨t.initial.fields.map (Field.fromRow row), t.initial.unmapped⟩ := by
  have hnames : (Field.names t.initial.fields).Nodup := by
    simpa [Field.names, Record.columns, Function.comp_def] using h
  have hfits : ∀ c ∈ t.initial.columns, Fits c t.initial.fields := by
    intro c hc f hf hname
    exact List.inj_on_of_nodup_map h (List.mem_map_of_mem hf) hc hname
  rw [ofRow, t.fillAll_eq row hnames h hfits, Record.mk.injEq]
  refine ⟨List.map_congr_left fun f hf => ?_, rfl⟩
  rw [if_pos]
  exact List.mem_map_of_mem (List.mem_map_of_mem hf)

end RecordType

namespace Record

variable {υ : Type}

def field? (r : Record υ) (column : String) : Option Field :=
  r.fields.find? (·.column.name = column)

theorem column_of_field {r : Record υ} {column : String} {f : Field} (h : r.field? column = some f) :
    f ∈ r.fields ∧ f.column.name = column :=
  ⟨List.mem_of_find?_eq_some h, by simpa using List.find?_some h⟩

theorem map_column_field (r : Record υ) (column : String) :
    (r.field? column).map Field.column = r.column? column := by
  rw [column?, columns, List.find?_map]
  rfl

theorem field_of_column {r : Record υ} {name : String} {column : Column}
    (h : r.column? name = some column) : ∃ f, r.field? name = some f ∧ f.column = column := by
  rw [← map_column_field] at h
  exact Option.map_eq_some_iff.mp h

theorem field_of_mem {r : Record υ} (h : (r.columns.map (·.name)).Nodup) {f : Field} (hf : f ∈ r.fields) :
    r.field? f.column.name = some f := by
  have hnames : (r.fields.map (·.column.name)).Nodup := by
    simpa [columns, Function.comp_def] using h
  cases hfind : r.field? f.column.name with
  | none => simpa using List.find?_eq_none.mp hfind f hf
  | some g =>
    obtain ⟨hg, hname⟩ := column_of_field hfind
    rw [List.inj_on_of_nodup_map hnames hg hf hname]

theorem exists_field_of_columns {r r' : Record υ} (h : r.columns = r'.columns) {column : String}
    {f : Field} (hf : r.field? column = some f) :
    ∃ g, r'.field? column = some g ∧ g.column = f.column := by
  apply field_of_column
  rw [column?, ← h, ← column?, ← map_column_field, hf]
  rfl

end Record

theorem RecordType.field_ofRow {υ : Type} (t : RecordType υ) (row : Row)
    (h : (t.initial.columns.map (·.name)).Nodup) (column : String) :
    (t.ofRow row).1.field? column = (t.initial.field? column).map (Field.fromRow row) := by
  have hname : ((fun f : Field => decide (f.column.name = column)) ∘ Field.fromRow row) =
      fun f => decide (f.column.name = column) := by
    funext f
    simp only [Function.comp, Field.column_fromRow]
  rw [t.ofRow_eq row h, Record.field?, List.find?_map, hname]
  rfl

theorem RecordType.columns_ofRow {υ : Type} (t : RecordType υ) (row : Row)
    (h : (t.initial.columns.map (·.name)).Nodup) : (t.ofRow row).1.columns = t.initial.columns := by
  rw [t.ofRow_eq row h]
  simp [Record.columns, Field.column_fromRow]

end SqlRecord
