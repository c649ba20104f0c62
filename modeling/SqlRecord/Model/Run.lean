import SqlRecord.Model.Basic
import SqlRecord.Query.Run

/-! # Storing and finding models -/

namespace SqlRecord.Model

variable {σ υ : Type}

def ofQuery {α : Type} (a : Action σ QueryError α) : Action σ ModelError α :=
  a.mapError .query

def queryWhere (m : Model υ) (d : Dialect) (p : Params) : Query :=
  (m.query d).addAll (p.entries.map fun e => .filter (.equals .and e.1 e.2))

def find (m : Model υ) (c : Connection σ) (id : Value) :
    Action σ ModelError (Option (Record υ)) := do
  let column ← Action.ofExcept m.rowIdColumn
  ofQuery (((m.query c.dialect).add (.filter (.equals .and column id))).first c m.toRecordType)

def takeRowId (m : Model υ) (c : Connection σ) (r : Record υ) : Action σ ModelError (Record υ) := do
  let n ← ofQuery (Action.ofMemory c.lastRowId)
  let column ← Action.ofExcept m.rowIdColumn
  Action.ofExcept ((r.set column (.int n)).mapError .field)

def insertPrepared (m : Model υ) (c : Connection σ) (r : Record υ) :
    Action σ ModelError (Record υ) := do
  let p ← Action.ofExcept (m.insertParams r)
  if p.isEmpty then
    Action.report [.nothingToInsert m.typeName]
    return r
  ofQuery ((m.query c.dialect).insert c p)
  if m.autoIncrement then m.takeRowId c r else return r

def updatePrepared (m : Model υ) (c : Connection σ) (r : Record υ) : Action σ ModelError Unit := do
  let keys ← Action.ofExcept (m.keyParams r)
  let p ← Action.ofExcept (m.updateParams r)
  if p.isEmpty then Action.report [.nothingToUpdate m.typeName]
  else ofQuery ((m.queryWhere c.dialect keys).update c p)

/-- What an operation leaves of an instance, beside how it ended. -/
abbrev Outcome (υ : Type) := Record υ × Except ModelError Unit

/-- Inserts an instance. It has passed through `onInsert` afterwards, however that ends, and if all goes
well it has its row id too. -/
def insert (m : Model υ) (c : Connection σ) (r : Record υ) : StateM (Session σ) (Outcome υ) := do
  let r := m.onInsert r
  match ← (m.insertPrepared c r).run with
  | .ok r' => return (r', .ok ())
  | .error e => return (r, .error e)

/-- Updates the row of an instance, which has passed through `onUpdate` afterwards. -/
def update (m : Model υ) (c : Connection σ) (r : Record υ) : StateM (Session σ) (Outcome υ) := do
  let r := m.onUpdate r
  return (r, ← (m.updatePrepared c r).run)

def save (m : Model υ) (c : Connection σ) (r : Record υ) : StateM (Session σ) (Outcome υ) :=
  if m.isStored r then m.update c r else m.insert c r

def delete (m : Model υ) (c : Connection σ) (r : Record υ) : Action σ ModelError Unit := do
  let keys ← Action.ofExcept (m.keyParams r)
  if keys.isEmpty then throw (.unconditionalDelete m.typeName)
  ofQuery ((m.queryWhere c.dialect keys).delete c)

def upsert (m : Model υ) (c : Connection σ) (r : Record υ) : Action σ ModelError Unit := do
  let insert ← Action.ofExcept (m.upsertParams r)
  let update ← Action.ofExcept (m.updateParams r)
  ofQuery ((m.query c.dialect).upsert c insert update m.primaryKeys)

end SqlRecord.Model
