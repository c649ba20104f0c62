import SqlRecord.Record.Field

/-! # Records

A record is a list of fields, each bound to a column, beside a part that no column reaches. The
default record of a type says what its columns are. -/

namespace SqlRecord

structure Column where
  name : String
  field : String
  type : FieldType
  /-- Whether the table has the column. Others are only read from results. -/
  inTable : Bool
  deriving DecidableEq, Repr

structure Field where
  column : Column
  content : column.type.Content

inductive FieldError
  | unknownColumn (column : String)
  | mismatch (column : String) (kind : FieldKind) (value : Value)
  deriving DecidableEq, Repr

def FieldError.message : FieldError → String
  | unknownColumn column => "no field mapped to column `" ++ column ++ "`"
  | mismatch column kind value =>
    "cannot assign " ++ value.describe ++ " to " ++ kind.word ++ " column `" ++ column ++ "`"

namespace Field

def value (f : Field) : Value :=
  f.column.type.toValue f.content

def assign? (f : Field) (v : Value) : Option Field :=
  (f.column.type.ofValue? v).map fun c => ⟨f.column, c⟩

/-- Puts a value into a field. What the field cannot take leaves it as it was. -/
def put (f : Field) (v : Value) : Field × Except FieldError Unit :=
  match f.assign? v with
  | some g => (g, .ok ())
  | none => (f, .error (.mismatch f.column.name f.column.type.kind v))

/-- Puts a value into the first field of a column. -/
def putIn (column : String) (v : Value) : List Field → List Field × Except FieldError Unit
  | [] => ([], .error (.unknownColumn column))
  | f :: fs =>
    if f.column.name = column then
      let (g, outcome) := f.put v
      (g :: fs, outcome)
    else
      let (gs, outcome) := putIn column v fs
      (f :: gs, outcome)

end Field

/-- An instance of a record type. `υ` is the type of what no column reaches. -/
structure Record (υ : Type) where
  fields : List Field
  unmapped : υ

namespace Record

variable {υ : Type}

def columns (r : Record υ) : List Column :=
  r.fields.map Field.column

def column? (r : Record υ) (name : String) : Option Column :=
  r.columns.find? (·.name = name)

def tableColumns (r : Record υ) : List String :=
  (r.columns.filter (·.inTable)).map (·.name)

def get? (r : Record υ) (column : String) : Option Value :=
  (r.fields.find? (·.column.name = column)).map Field.value

/-- What a record is after a value was put into a column, beside how that ended. -/
def put (r : Record υ) (column : String) (v : Value) : Record υ × Except FieldError Unit :=
  let (fs, outcome) := Field.putIn column v r.fields
  (⟨fs, r.unmapped⟩, outcome)

/-- The record that has taken a value, for callers that have no use for it otherwise. -/
def set (r : Record υ) (column : String) (v : Value) : Except FieldError (Record υ) :=
  let (r', outcome) := r.put column v
  outcome.map fun _ => r'

def entries (r : Record υ) : List (String × Value) :=
  r.fields.map fun f => (f.column.name, f.value)

end Record

structure RecordType (υ : Type) where
  typeName : String
  initial : Record υ

end SqlRecord
