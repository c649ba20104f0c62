import SqlRecord.Number.Double
import SqlRecord.Text.Quoted
import SqlRecord.Text.Utf8

/-! # Values -/

namespace SqlRecord

open Number

/-- What a statement or a row can hold in one place. -/
inductive Value
  | null
  | bool (b : Bool)
  | int (n : Int64)
  | real (x : Double)
  | text (s : String)
  | blob (bytes : List UInt8)
  deriving DecidableEq, Repr, Inhabited

namespace Value

def isNull : Value → Bool
  | null => true
  | _ => false

/-- The value as a result column shows it. Null shows nothing. -/
def text? : Value → Option String
  | null => none
  | bool b => some (if b then "true" else "false")
  | int n => some (toString n.toInt)
  | real x => some x.text
  | text s => some s
  | blob bytes => some (Text.decodeUtf8 bytes)

def display (v : Value) : String :=
  v.text?.getD "null"

/-- The value as a database keeps it, which has one and zero for booleans. -/
def stored : Value → Value
  | bool b => int (if b then 1 else 0)
  | v => v

def describe : Value → String
  | null => "Null"
  | bool b => "Bool(" ++ (if b then "true" else "false") ++ ")"
  | int n => "Int(" ++ toString n.toInt ++ ")"
  | real x => "Float(" ++ x.preciseText ++ ")"
  | text s => "Text(" ++ Text.quoted s ++ ")"
  | blob bytes => "Blob([" ++ ", ".intercalate (bytes.map fun b => toString b.toNat) ++ "])"

def ofOption {α : Type} (f : α → Value) : Option α → Value
  | none => null
  | some a => f a

@[simp] theorem stored_stored (v : Value) : v.stored.stored = v.stored := by
  cases v <;> rfl

@[simp] theorem isNull_stored (v : Value) : v.stored.isNull = v.isNull := by
  cases v <;> rfl

end Value

end SqlRecord
