import SqlRecord.Model.Run
import SqlRecord.Proofs.Assignment

/-! # Keys that have been given

An instance is meant to be stored if every primary key holds a value that is not null, not zero and not empty.
It is taken for stored as well where a key holds the zero of a floating-point number, and only there beyond what
is meant.
-/

namespace SqlRecord

namespace Value

/-- A key with this value has been given one. -/
def Given : Value → Prop
  | .null => False
  | .int n => n ≠ 0
  | .real x => x.code ≠ 0
  | .text s => s ≠ ""
  | _ => True

/-- The zero of a floating-point number, of either sign. -/
def FloatZero : Value → Prop
  | .real x => x.code = 0
  | _ => False

theorem not_given_of_floatZero {v : Value} (h : v.FloatZero) : ¬ v.Given := by
  cases v with
  | real x => exact not_not_intro h
  | _ => exact h.elim

end Value

/-! ## Fields that were never set -/

/-- The content that a field of this kind has until one is set. -/
def FieldKind.unset : (k : FieldKind) → k.Content
  | bool => false
  | short => (0 : Int16)
  | int => (0 : Int32)
  | long => (0 : Int64)
  | float => (⟨0⟩ : Number.Single)
  | double => (⟨0⟩ : Number.Double)
  | text => ""

namespace FieldType

def unset : (t : FieldType) → t.Content
  | required k => k.unset
  | optional _ => none

/-- The types whose fields count as given before anything was set. -/
def countsUnset : FieldType → Bool
  | required .bool => true
  | required .float => true
  | required .double => true
  | _ => false

end FieldType

namespace Model

theorem isGiven_iff (v : Option Value) : isGiven v = true ↔ ∃ w, v = some w ∧ (w.Given ∨ w.FloatZero) := by
  cases v with
  | none => simp [isGiven]
  | some v =>
    cases v with
    | real x => simp [isGiven, Value.Given, Value.FloatZero, em']
    | _ => simp [isGiven, Value.Given, Value.FloatZero]

theorem isGiven_unset (t : FieldType) : isGiven (some (t.toValue t.unset)) = t.countsUnset := by
  cases t with
  | optional k => rfl
  | required k => cases k <;> rfl

variable {σ υ : Type} (m : Model υ) (r : Record υ)

/-- What is meant by a stored instance. -/
def KeysGiven : Prop :=
  ∀ key ∈ m.primaryKeys, ∃ v, r.get? key = some v ∧ v.Given

variable {m r}

theorem isStored_iff :
    m.isStored r = true ↔ ∀ key ∈ m.primaryKeys, ∃ v, r.get? key = some v ∧ (v.Given ∨ v.FloatZero) := by
  rw [isStored, List.all_eq_true]
  exact forall₂_congr fun key _ => isGiven_iff (r.get? key)

theorem isStored_of_keysGiven (h : m.KeysGiven r) : m.isStored r = true := by
  refine isStored_iff.mpr fun key hkey => ?_
  obtain ⟨v, hv, hgiven⟩ := h key hkey
  exact ⟨v, hv, Or.inl hgiven⟩

theorem isStored_iff_keysGiven : (m.isStored r = true ↔ m.KeysGiven r) ↔
    ((∃ key ∈ m.primaryKeys, ∃ v, r.get? key = some v ∧ v.FloatZero) → m.isStored r = false) := by
  constructor
  · rintro hmeant ⟨key, hkey, v, hv, hzero⟩
    refine eq_false_of_ne_true fun hstored => ?_
    obtain ⟨w, hw, hgiven⟩ := hmeant.mp hstored key hkey
    rw [hv, Option.some.injEq] at hw
    exact Value.not_given_of_floatZero hzero (hw ▸ hgiven)
  · intro hzero
    refine ⟨fun hstored key hkey => ?_, isStored_of_keysGiven⟩
    obtain ⟨v, hv, hgiven | hfloat⟩ := isStored_iff.mp hstored key hkey
    · exact ⟨v, hv, hgiven⟩
    · rw [hzero ⟨key, hkey, v, hv, hfloat⟩] at hstored
      cases hstored

theorem isGiven_of_unset {key : String} {f : Field} (hf : r.field? key = some f)
    (h : f.content = f.column.type.unset) : isGiven (r.get? key) = f.column.type.countsUnset := by
  rw [Record.get_of_field hf, Field.value, h, isGiven_unset]

theorem isStored_of_unset {key : String} {f : Field} (hkey : key ∈ m.primaryKeys) (hf : r.field? key = some f)
    (h : f.content = f.column.type.unset) (htype : f.column.type.countsUnset = false) : m.isStored r = false := by
  rw [isStored, List.all_eq_false]
  refine ⟨key, hkey, ?_⟩
  rw [isGiven_of_unset hf h, htype]
  exact Bool.false_ne_true

theorem save_of_not_stored (c : Connection σ) (h : m.isStored r = false) : m.save c r = m.insert c r := by
  rw [save, h]
  rfl

theorem save_of_stored (c : Connection σ) (h : m.isStored r = true) : m.save c r = m.update c r := by
  rw [save, h]
  rfl

/-! ## The main result -/

/-- An instance is taken for stored exactly if all keys have been given or hold a floating-point zero, so what is
meant is found unless there is such a zero and nothing is missing beside it. An instance with a key that was never
set is inserted where that key is a whole number, a text or optional. Where all keys are floating-point numbers or
booleans that were never set, it is updated. -/
theorem keys_given (m : Model υ) (r : Record υ) :
    (m.isStored r = true ↔ ∀ key ∈ m.primaryKeys, ∃ v, r.get? key = some v ∧ (v.Given ∨ v.FloatZero)) ∧
    ((m.isStored r = true ↔ m.KeysGiven r) ↔
      ((∃ key ∈ m.primaryKeys, ∃ v, r.get? key = some v ∧ v.FloatZero) → m.isStored r = false)) ∧
    (∀ key ∈ m.primaryKeys, ∀ f, r.field? key = some f → f.content = f.column.type.unset →
      f.column.type.countsUnset = false → ∀ {σ : Type} (c : Connection σ), m.save c r = m.insert c r) ∧
    ((∀ key ∈ m.primaryKeys, ∃ f, r.field? key = some f ∧ f.content = f.column.type.unset ∧
      f.column.type.countsUnset = true) → ∀ {σ : Type} (c : Connection σ), m.save c r = m.update c r) := by
  refine ⟨isStored_iff, isStored_iff_keysGiven, ?_, ?_⟩
  · intro key hkey f hf hunset htype σ c
    exact save_of_not_stored c (isStored_of_unset hkey hf hunset htype)
  · intro hall σ c
    refine save_of_stored c (List.all_eq_true.mpr fun key hkey => ?_)
    obtain ⟨f, hf, hunset, htype⟩ := hall key hkey
    rw [isGiven_of_unset hf hunset, htype]

/-- Of three keys one is a floating-point zero and one was never set: the instance is inserted, as is meant. -/
theorem keys_given_membership :
    let m : Model Unit :=
      { typeName := "Membership"
        table := "membership"
        primaryKeys := ["user", "group", "weight"]
        autoIncrement := false
        initial := ⟨[⟨⟨"user", "user", .required .text, true⟩, "ann"⟩,
          ⟨⟨"group", "group", .optional .long, true⟩, (none : Option Int64)⟩,
          ⟨⟨"weight", "weight", .required .double, true⟩, (⟨0⟩ : Number.Double)⟩], ()⟩ }
    (m.isStored m.initial = true ↔ m.KeysGiven m.initial) ∧
      ∀ {σ : Type} (c : Connection σ), m.save c m.initial = m.insert c m.initial := by
  intro m
  obtain ⟨-, hmeant, hinserted, -⟩ := keys_given m m.initial
  exact ⟨hmeant.mpr fun _ => by decide, hinserted "group" (by decide) _ rfl rfl rfl⟩

/-- An instance whose only key is a floating-point number that was never set is not meant to be stored, but it is
updated, where its key is zero. -/
theorem unset_key_updated :
    let m : Model Unit :=
      { typeName := "FloatId"
        table := "t"
        initial := ⟨[⟨⟨"id", "id", .required .float, true⟩, (⟨0⟩ : Number.Single)⟩,
          ⟨⟨"name", "name", .required .text, true⟩, "x"⟩], ()⟩ }
    let c : Connection Unit := ⟨.generic, fun _ s => (.ok (), s), fun _ s => (.ok [], s), fun s => (.ok 7, s)⟩
    m.primaryKeys = ["id"] ∧ m.initial.get? "id" = some (.real ⟨0⟩) ∧ ¬ m.KeysGiven m.initial ∧
      m.isStored m.initial = true ∧
      ((m.save c m.initial).run ⟨(), [], []⟩).2.statements = ["update `t` set `name` = 'x' where `id` = '0'"] ∧
      ((m.insert c m.initial).run ⟨(), [], []⟩).2.statements = ["insert into `t` (`name`) values ('x')"] := by
  intro m c
  have hkey : m.initial.get? "id" = some (.real ⟨0⟩) := by decide
  refine ⟨rfl, hkey, fun h => ?_, by decide, by decide +kernel, by decide +kernel⟩
  obtain ⟨v, hv, hgiven⟩ := h "id" (List.mem_singleton_self "id")
  rw [hkey, Option.some.injEq] at hv
  exact Value.not_given_of_floatZero (v := .real ⟨0⟩) rfl (hv ▸ hgiven)

end Model

end SqlRecord
