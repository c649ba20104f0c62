import SqlRecord.Query.Basic
import SqlRecord.Record.Basic

/-! # Models

A model is a record type stored in a table. An instance stands for one row, stored or not yet. -/

namespace SqlRecord

/-- A record type with the table it is stored in and the rules for its columns. -/
structure Model (υ : Type) extends RecordType υ where
  table : String
  primaryKeys : List String := ["id"]
  /-- The only columns that may be written, if given. -/
  fillable : Option (List String) := none
  /-- The columns that may not be written. It does not count where `fillable` is given. -/
  guarded : Option (List String) := none
  hidden : List String := []
  autoIncrement : Bool := true
  /-- Whether an empty list of parameters or conditions is refused. -/
  strict : Bool := true
  onInsert : Record υ → Record υ := id
  onUpdate : Record υ → Record υ := id

inductive ModelError
  | missingColumn (model column : String)
  | emptyPrimaryKeys (model : String)
  | emptyInsertParams (model : String)
  | emptyUpdateParams (model : String)
  | emptyUpdateConditions (model : String)
  | unconditionalDelete (model : String)
  | rowIdUnavailable (model : String)
  | field (e : FieldError)
  | query (e : QueryError)
  deriving DecidableEq, Repr

def ModelError.message : ModelError → String
  | missingColumn model column =>
    "model `" ++ model ++ "` has no field mapped to column `" ++ column ++ "`"
  | emptyPrimaryKeys model => "primary keys of `" ++ model ++ "` must not be empty"
  | emptyInsertParams model => "`" ++ model ++ "` has no insertable column in strict mode"
  | emptyUpdateParams model => "`" ++ model ++ "` has no updatable column in strict mode"
  | emptyUpdateConditions model => "`" ++ model ++ "` has no update condition in strict mode"
  | unconditionalDelete model => "refusing to delete `" ++ model ++ "` without any condition"
  | rowIdUnavailable model =>
    "row id of `" ++ model ++ "` is available only when auto-increment is enabled"
  | field e => e.message
  | query e => e.message

namespace Model

variable {υ : Type}

def rowId : String := "id"

def rowIdColumn (m : Model υ) : Except ModelError String :=
  if m.autoIncrement then .ok rowId else .error (.rowIdUnavailable m.typeName)

/-- Whether a key that holds this value has been given one. -/
def isGiven : Option Value → Bool
  | none => false
  | some .null => false
  | some (.int n) => n ≠ 0
  | some (.text s) => s ≠ ""
  | some _ => true

/-- Whether an instance is stored already: every primary key has been given a value. -/
def isStored (m : Model υ) (r : Record υ) : Bool :=
  m.primaryKeys.all fun key => isGiven (r.get? key)

def isAssignable (m : Model υ) (column : String) : Bool :=
  match m.fillable, m.guarded with
  | some fillable, _ => fillable.contains column
  | none, some guarded => !guarded.contains column
  | none, none => true

def read (m : Model υ) (r : Record υ) (column : String) : Except ModelError Value :=
  match r.get? column with
  | some v => .ok v.stored
  | none => .error (.missingColumn m.typeName column)

def readAll (m : Model υ) (r : Record υ) : List String → Params → Except ModelError Params
  | [], p => .ok p
  | c :: cs, p => do
    let v ← m.read r c
    m.readAll r cs (p.insert c v)

def insertColumns (m : Model υ) (r : Record υ) : List String :=
  r.tableColumns.filter fun c => m.isAssignable c && !(m.autoIncrement && c == rowId)

def updateColumns (m : Model υ) (r : Record υ) : List String :=
  r.tableColumns.filter fun c => m.isAssignable c && !m.primaryKeys.contains c

def insertParams (m : Model υ) (r : Record υ) : Except ModelError Params := do
  let p ← m.readAll r (m.insertColumns r) .empty
  if m.strict && p.isEmpty then throw (.emptyInsertParams m.typeName)
  return p

/-- The primary keys that the table has. All of them have to be columns of the record. -/
def keyColumns (m : Model υ) (r : Record υ) : List String → Except ModelError (List String)
  | [] => .ok []
  | key :: keys =>
    match r.column? key with
    | none => .error (.missingColumn m.typeName key)
    | some c => (m.keyColumns r keys).map fun cs => if c.inTable then c.name :: cs else cs

def keyParams (m : Model υ) (r : Record υ) : Except ModelError Params := do
  if m.primaryKeys.isEmpty then throw (.emptyPrimaryKeys m.typeName)
  let p ← m.readAll r (← m.keyColumns r m.primaryKeys) .empty
  if m.strict && p.isEmpty then throw (.emptyUpdateConditions m.typeName)
  return p

/-- The parameters of an update. Primary keys are never updated. -/
def updateParams (m : Model υ) (r : Record υ) : Except ModelError Params := do
  if m.primaryKeys.isEmpty then throw (.emptyPrimaryKeys m.typeName)
  let p ← m.readAll r (m.updateColumns r) .empty
  if m.strict && p.isEmpty then throw (.emptyUpdateParams m.typeName)
  return p

/-- The parameters of an upsert. An instance that is stored brings its row id along. -/
def upsertParams (m : Model υ) (r : Record υ) : Except ModelError Params := do
  let p ← m.insertParams r
  if m.autoIncrement && m.isStored r then
    let column ← m.rowIdColumn
    let v ← m.read r column
    return (Params.ofList [(column, v)]).insertAll p.entries
  else return p

def visibleColumns (m : Model υ) : List String :=
  m.initial.tableColumns.filter fun c => !m.hidden.contains c

/-- A query on the model's table. Hidden columns are left out of its select list. -/
def query (m : Model υ) (d : Dialect) : Query :=
  let q : Query := { dialect := d, table := m.table, strict := m.strict }
  if m.hidden.isEmpty then q else q.add (.select m.visibleColumns)

end Model

end SqlRecord
