import SqlRecord.Database.Evaluate
import SqlRecord.Text.Case

/-! # Tables

A table keeps its rows by ascending row id. No two rows have the same row id, nor the same key. Part of the
database in memory, which stands in for the database library, so no theorem rests on it. -/

namespace SqlRecord.Database

inductive Key
  | none
  /-- The column that holds the row id. With `auto` no row id is used a second time. -/
  | rowId (index : Nat) (auto : Bool)
  | columns (indexes : List Nat)
  deriving DecidableEq, Repr

structure StoredRow where
  id : Int
  values : List Value
  deriving DecidableEq, Repr

structure Table where
  name : String
  columns : List ColumnDef
  key : Key
  rows : List StoredRow := []
  /-- The greatest row id there ever was, zero to begin with. -/
  highest : Int := 0

namespace Table

def index? (t : Table) (column : String) : Option Nat :=
  t.columns.findIdx? fun c => Text.sameAscii c.name column

def index (t : Table) (column : String) : Except Fault Nat :=
  match t.index? column with
  | some i => .ok i
  | none => .error (.noColumn column)

def cell (t : Table) (calledAs : String) (c : ColumnName) : Except Fault Cell := do
  if let some table := c.table then
    unless Text.sameAscii table calledAs do throw (.noColumn c.name)
  let i ← t.index c.name
  return ⟨i, (t.columns[i]?.map ColumnDef.affinity).getD .blob⟩

def bindCondition (t : Table) (calledAs : String) :
    Option (Expr ColumnName) → Except Fault (Option (Expr Cell))
  | none => .ok none
  | some e => (e.bind (t.cell calledAs)).map some

/-! ## New tables -/

def keyOf (columns : List ColumnDef) (listed : Option (List String)) : Except Fault Key := do
  let find (n : String) : Except Fault Nat :=
    match columns.findIdx? fun c => Text.sameAscii c.name n with
    | some i => .ok i
    | none => .error (.noColumn n)
  let isInteger (i : Nat) : Bool := (columns[i]?.map ColumnDef.affinity) = some .integer
  match columns.filter (·.primary), listed with
  | [], none => return .none
  | [], some [n] =>
    let i ← find n
    return if isInteger i then .rowId i false else .columns [i]
  | [], some ns => return .columns (← ns.mapM find)
  | [c], none =>
    let i ← find c.name
    if isInteger i then return .rowId i c.autoIncrement
    else if c.autoIncrement then throw .badKey
    else return .columns [i]
  | _, _ => throw .badKey

def hasTwins : List ColumnDef → Bool
  | [] => false
  | c :: cs => cs.any (fun d => Text.sameAscii d.name c.name) || hasTwins cs

def create (name : String) (columns : List ColumnDef) (listed : Option (List String)) :
    Except Fault Table := do
  if hasTwins columns then throw .badKey
  return { name, columns, key := ← keyOf columns listed }

/-! ## Putting rows in -/

/-- Whether no column that needs a value is null. The column of row ids fills itself. -/
def checkNotNull (t : Table) (values : List Value) : Except Fault Unit :=
  (t.columns.zip values).zipIdx.forM fun ((c, v), i) => do
    let isRowId := match t.key with
      | .rowId j _ => j == i
      | _ => false
    if c.notNull && v.isNull && !isRowId then throw (.notNull c.name)

def project (indexes : List Nat) (values : List Value) : List Value :=
  indexes.map fun i => values.getD i .null

/-- Whether two rows have the same key. Null is the same as nothing. -/
def sameKey (indexes : List Nat) (v w : List Value) : Bool :=
  (project indexes v).zip (project indexes w) |>.all fun (a, b) =>
    !a.isNull && !b.isNull && compareValues a b == .eq

def obstacle? (t : Table) (r : StoredRow) : Option StoredRow :=
  t.rows.find? fun s =>
    s.id == r.id || match t.key with
      | .columns indexes => sameKey indexes s.values r.values
      | _ => false

def place (r : StoredRow) : List StoredRow → List StoredRow
  | [] => [r]
  | s :: ss => if r.id < s.id then r :: s :: ss else s :: place r ss

def push (t : Table) (r : StoredRow) : Table :=
  { t with rows := place r t.rows, highest := max t.highest r.id }

def freeId (t : Table) : Int :=
  let ids := (List.range (t.rows.length + 1)).map fun n => Int.ofNat (n + 1)
  (ids.find? fun id => t.rows.all (·.id ≠ id)).getD 1

/-- The row id that comes next: the one after the greatest, and where there is none after it one that
is free. -/
def nextId (t : Table) : Except Fault Int :=
  let last := (t.rows.getLast?.map StoredRow.id).getD 0
  match t.key with
  | .rowId _ true =>
    let last := max last t.highest
    if last = Int64.maxValue.toInt then .error .full else .ok (last + 1)
  | _ => .ok (if last = Int64.maxValue.toInt then t.freeId else last + 1)

def identify (t : Table) (values : List Value) : Except Fault StoredRow :=
  match t.key with
  | .rowId i _ =>
    match values.getD i .null with
    | .null => do
      let id ← t.nextId
      return ⟨id, values.set i (.int (Int64.ofInt id))⟩
    | .int n => .ok ⟨n.toInt, values⟩
    | _ => .error .notInteger
  | _ => do return ⟨← t.nextId, values⟩

def fill (t : Table) (columns : Option (List String)) (values : List Value) :
    Except Fault (List Value) := do
  let places ← match columns with
    | none => pure (List.range t.columns.length)
    | some cs => cs.mapM t.index
  if places.length ≠ values.length then throw .wrongCount
  let given := places.zip values
  return t.columns.zipIdx.map fun (c, i) => c.affinity.store ((given.lookup i).getD c.default)

def applyChanges (t : Table) (changes : List (Nat × Value)) (r : StoredRow) :
    Except Fault StoredRow := do
  let values := t.columns.zipIdx.map fun (c, i) =>
    match changes.reverse.lookup i with
    | some v => c.affinity.store v
    | none => r.values.getD i .null
  t.checkNotNull values
  match t.key with
  | .rowId i _ =>
    match values.getD i .null with
    | .int n => return ⟨n.toInt, values⟩
    | _ => throw .notInteger
  | _ => return ⟨r.id, values⟩

def changeRow (t : Table) (changes : List (Nat × Value)) (r : StoredRow) : Except Fault Table := do
  let r' ← t.applyChanges changes r
  let rest := { t with rows := t.rows.filter (·.id ≠ r.id) }
  if (rest.obstacle? r').isSome then throw .notUnique
  return { rest with rows := place r' rest.rows }

def isKey (t : Table) (columns : List Nat) : Bool :=
  match t.key with
  | .none => false
  | .rowId i _ => columns == [i]
  | .columns indexes => columns.length == indexes.length && indexes.all columns.contains

def bindChanges (t : Table) (changes : List (String × Value)) : Except Fault (List (Nat × Value)) :=
  changes.mapM fun (c, v) => do return (← t.index c, v)

/-- What becomes of a row whose keys are taken: what to do is found out before any row is looked
at. -/
def bindConflict (t : Table) (c : Conflict) : Except Fault (Option (List (Nat × Value))) := do
  let keys ← c.keys.mapM t.index
  unless t.isKey keys do throw .noConflictKey
  match c.changes with
  | none => return none
  | some changes => return some (← t.bindChanges changes)

/-- Inserts a row. Gives the row id of a row that is new. -/
def insert (t : Table) (columns : Option (List String)) (values : List Value)
    (conflict : Option Conflict) : Except Fault (Table × Option Int) := do
  let values ← t.fill columns values
  let action ← conflict.mapM t.bindConflict
  let r ← t.identify values
  t.checkNotNull r.values
  match t.obstacle? r, action with
  | none, _ => return (t.push r, some r.id)
  | some _, none => throw .notUnique
  | some _, some none => return (t, none)
  | some s, some (some changes) => return (← t.changeRow changes s, none)

def update (t : Table) (changes : List (String × Value)) (condition : Option (Expr ColumnName)) :
    Except Fault Table := do
  let changes ← t.bindChanges changes
  let condition ← t.bindCondition t.name condition
  (t.rows.filter fun r => chosen condition r.values).foldlM (fun t r => t.changeRow changes r) t

def delete (t : Table) (condition : Option (Expr ColumnName)) : Except Fault Table := do
  let condition ← t.bindCondition t.name condition
  return { t with rows := t.rows.filter fun r => !chosen condition r.values }

end Table

end SqlRecord.Database
