import SqlRecord.Number.Range
import SqlRecord.Text.Blank
import SqlRecord.Value.Basic

/-! # Fields of records

A field has one of seven kinds and may be optional. Values go in and out of it: what a field gives is
what it takes back. -/

namespace SqlRecord

open Number

inductive FieldKind
  | bool
  | short
  | int
  | long
  | float
  | double
  | text
  deriving DecidableEq, Repr

def FieldKind.word : FieldKind → String
  | bool => "bool"
  | short => "short"
  | int => "int"
  | long => "long"
  | float => "float"
  | double => "double"
  | text => "text"

/-- The contents that a field of this kind can have. -/
@[reducible] def FieldKind.Content : FieldKind → Type
  | bool => Bool
  | short => Int16
  | int => Int32
  | long => Int64
  | float => Single
  | double => Double
  | text => String

inductive FieldType
  | required (kind : FieldKind)
  | optional (kind : FieldKind)
  deriving DecidableEq, Repr

def FieldType.kind : FieldType → FieldKind
  | required k => k
  | optional k => k

@[reducible] def FieldType.Content : FieldType → Type
  | required k => k.Content
  | optional k => Option k.Content

/-! ## Reading texts -/

/-- One and zero, or the words for true and false in any case, blanks around them apart. -/
def readBool (s : String) : Option Bool :=
  let word := Text.lowerAscii (Text.trimChars s.toList)
  if word = ['1'] ∨ word = ['t', 'r', 'u', 'e'] then some true
  else if word = ['0'] ∨ word = ['f', 'a', 'l', 's', 'e'] then some false
  else none

namespace FieldKind

def read : (k : FieldKind) → String → Option k.Content
  | bool, s => readBool s
  | short, s => readInt (Text.trimChars s.toList) >>= int16?
  | int, s => readInt (Text.trimChars s.toList) >>= int32?
  | long, s => readInt (Text.trimChars s.toList) >>= int64?
  | float, s => Single.read (Text.trimChars s.toList)
  | double, s => Double.read (Text.trimChars s.toList)
  | text, s => some s

/-! ## Contents and values -/

def toValue : (k : FieldKind) → k.Content → Value
  | bool, b => .bool b
  | short, n => .int n.toInt64
  | int, n => .int n.toInt64
  | long, n => .int n
  | float, x => .real x.toDouble
  | double, x => .real x
  | text, s => .text s

def ofInt? : (k : FieldKind) → Int64 → Option k.Content
  | bool, n => some (n != 0)
  | short, n => int16? n.toInt
  | int, n => int32? n.toInt
  | long, n => some n
  | float, n => some (Single.ofInt n.toInt)
  | double, n => some (Double.ofInt n.toInt)
  | text, n => (Value.int n).text?

/-- The content that a boolean makes. Floating-point fields take none. -/
def ofBool? : (k : FieldKind) → Bool → Option k.Content
  | bool, b => some b
  | short, b => some (if b then 1 else 0)
  | int, b => some (if b then 1 else 0)
  | long, b => some (if b then 1 else 0)
  | float, _ => none
  | double, _ => none
  | text, b => (Value.bool b).text?

def ofReal? : (k : FieldKind) → Double → Option k.Content
  | float, x => some x.toSingle
  | double, x => some x
  | text, x => (Value.real x).text?
  | _, _ => none

def ofValue? : (k : FieldKind) → Value → Option k.Content
  | _, .null => none
  | k, .bool b => k.ofBool? b
  | k, .int n => k.ofInt? n
  | k, .real x => k.ofReal? x
  | k, .text s => k.read s
  | text, .blob bytes => (Value.blob bytes).text?
  | _, .blob _ => none

/-- The value of what a result column shows as `s`. -/
def coerce : FieldKind → String → Option Value
  | bool, s => (readBool (Text.trim s)).map .bool
  | short, s => (readInt (Text.trimChars s.toList) >>= int16?).map fun n => .int n.toInt64
  | int, s => (readInt (Text.trimChars s.toList) >>= int32?).map fun n => .int n.toInt64
  | long, s => (readInt (Text.trimChars s.toList) >>= int64?).map .int
  | float, s => (Single.read (Text.trimChars s.toList)).map fun x => .real x.toDouble
  | double, s => (Double.read (Text.trimChars s.toList)).map .real
  | text, s => some (.text s)

end FieldKind

namespace FieldType

def toValue : (t : FieldType) → t.Content → Value
  | required k, c => k.toValue c
  | optional k, c => .ofOption k.toValue c

/-- The content that a value makes, if it fits. Null is the nothing of optional fields. -/
def ofValue? : (t : FieldType) → Value → Option t.Content
  | required k, v => k.ofValue? v
  | optional _, .null => some none
  | optional k, v => (k.ofValue? v).map some

end FieldType

end SqlRecord
