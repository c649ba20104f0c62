import SqlRecord.Database.Order
import SqlRecord.Row

/-! # Answering queries

Part of the database in memory, which stands in for the database library, so no theorem rests on it. -/

namespace SqlRecord.Database

/-- An entry of a select list with its columns found: the names and values it adds to every row. -/
inductive Output
  | cells (cells : List (String × Nat))
  | literal (name : String) (v : Value)
  | count (name : String)

namespace Output

def inRow (rows : Nat) (values : List Value) : Output → List (String × Value)
  | cells cs => cs.map fun (n, i) => (n, values.getD i .null)
  | literal n v => [(n, v)]
  | count n => [(n, .int (Int64.ofNat rows))]

def places : Output → List Nat
  | cells cs => cs.map Prod.snd
  | _ => []

def isCount : Output → Bool
  | count _ => true
  | _ => false

end Output

def literalName (v : Value) : String :=
  v.display

namespace Table

def allCells (t : Table) : List (String × Nat) :=
  t.columns.zipIdx.map fun (c, i) => (c.name, i)

/-- An entry of a select list with its columns found. A column without a new name goes by the name it
has in the table. -/
def output (t : Table) (calledAs : String) (s : SelectItem) : Except Fault Output :=
  match s.item with
  | .all none => .ok (.cells t.allCells)
  | .all (some n) =>
    if Text.sameAscii n calledAs then .ok (.cells t.allCells) else .error (.noTable n)
  | .column c => do
    let k ← t.cell calledAs c
    let own := (t.columns[k.index]?.map ColumnDef.name).getD c.name
    return .cells [(s.newName.getD own, k.index)]
  | .literal v => .ok (.literal (s.newName.getD (literalName v)) v)
  | .count => .ok (.count (s.newName.getD "count(*)"))

def orderPlace (t : Table) (calledAs : String) (outputs : List Output) (c : ColumnName) :
    Except Fault Nat :=
  let named := outputs.findSome? fun
    | .cells cs => (cs.find? fun (n, _) => Text.sameAscii n c.name).map Prod.snd
    | _ => none
  match c.table, named with
  | none, some i => .ok i
  | _, _ => do return (← t.cell calledAs c).index

def select (t : Table) (s : Select) (calledAs : String) : Except Fault (List Row) := do
  let outputs ← s.items.mapM (t.output calledAs)
  let condition ← t.bindCondition calledAs s.condition
  let keys ← s.order.mapM fun (c, descending) => do
    return (← t.orderPlace calledAs outputs c, descending)
  let keys := dropSettled keys
  let places := outputs.flatMap Output.places ++ keys.map Prod.fst ++
    (condition.map Expr.places).getD []
  let rows := (t.read condition places keys).mergeSort (comesFirst keys)
  let results :=
    if outputs.any Output.isCount then
      [outputs.flatMap (·.inRow rows.length (rows.headD ⟨0, []⟩).values)]
    else rows.map fun r => outputs.flatMap (·.inRow 0 r.values)
  let results := results.drop s.offset.toNat
  let results := match s.limit with
    | some n => if 0 ≤ n then results.take n.toNat else results
    | none => results
  return results.map Row.mk

end Table

/-- The row of a query without a table. It has no columns to speak of. -/
def selectLiterals (s : Select) : Except Fault (List Row) := do
  let cells ← s.items.mapM fun i =>
    match i.item with
    | .literal v => Except.ok (i.newName.getD (literalName v), v)
    | .count => .ok (i.newName.getD "count(*)", .int 1)
    | .column c => .error (.noColumn c.name)
    | .all _ => .error .notSql
  return [⟨cells⟩]

end SqlRecord.Database
