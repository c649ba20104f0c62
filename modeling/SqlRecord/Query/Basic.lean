import SqlRecord.Dialect

/-! # Queries

A query is a table with the clauses that were added to it. Adding a clause never fails: the first
clause that is refused leaves its error behind, and no statement comes out of the query after that. -/

namespace SqlRecord

namespace Dialect

def wantsList (operator : String) : Bool :=
  let op := Text.lower operator
  op = Condition.listOperator false ∨ op = Condition.listOperator true

def lacksList : Condition → Bool
  | .compare _ op _ => wantsList op
  | _ => false

/-- A condition as a query keeps it: without outer blanks, its operator known, and with null checks in
place of comparisons with null. -/
def accept (d : Dialect) (e : Expression) : Except QueryError Expression :=
  match e.condition.trim with
  | .raw sql => .ok ⟨e.logic, .raw sql⟩
  | c =>
    if d.isUnknown c.operator then .error (.invalidOperator c.operator)
    else if lacksList c then .error (.invalidOperand c.name c.operator)
    else d.fixNull ⟨e.logic, c⟩

def acceptAll (d : Dialect) : List Expression → List Expression × List QueryError
  | [] => ([], [])
  | e :: es =>
    let (kept, errors) := d.acceptAll es
    match d.accept e with
    | .ok e' => (e' :: kept, errors)
    | .error err => (kept, err :: errors)

end Dialect

/-- The number that stands for no limit and no offset. -/
def unsetCount : Int64 := Int64.minValue

def countOf (n : Int64) : Option Int64 :=
  if n = unsetCount then none else some n

inductive Clause
  | table (name : String)
  | strict (on : Bool)
  | select (names : List String)
  | selectRaw (sql : String) (newName : Option String)
  | distinct
  | join (type : JoinType) (table first operator second : String)
  | joinWith (type : JoinType) (table : String) (on : List Expression)
  | filter (e : Expression)
  | having (e : Expression)
  | groupBy (names : List String)
  | groupByRaw (sql : String)
  | orderBy (key : OrderKey)
  | limit (n : Int64)
  | offset (n : Int64)
  deriving DecidableEq, Repr

def Clause.joinEq (type : JoinType) (table first second : String) : Clause :=
  .join type table first "=" second

structure Query where
  dialect : Dialect
  table : String
  selections : List Selection := []
  distinct : Bool := false
  joins : List Join := []
  filters : List Expression := []
  groups : List Term := []
  havings : List Expression := []
  order : List OrderKey := []
  limit : Option Int64 := none
  offset : Option Int64 := none
  /-- Whether an update without a condition is refused. -/
  strict : Bool := true
  /-- The error of the first clause that was refused. -/
  failure : Option QueryError := none

namespace Query

def fail (q : Query) (e : QueryError) : Query :=
  { q with failure := q.failure.or (some e) }

def failAll (q : Query) (es : List QueryError) : Query :=
  es.foldl fail q

def addJoin (q : Query) (type : JoinType) (table first operator second : String) : Query :=
  let op := Text.trim operator
  if q.dialect.isUnknown op then q.fail (.invalidOperator op)
  else
    { q with
      joins := q.joins ++ [⟨type, table, .columns (Text.trim first) op (Text.trim second)⟩] }

/-- Adds a join on conditions. It is kept with the conditions that are accepted. -/
def addJoinWith (q : Query) (type : JoinType) (table : String) (on : List Expression) : Query :=
  let (kept, errors) := q.dialect.acceptAll on
  let q := q.failAll errors
  { q with joins := q.joins ++ [⟨type, table, .conditions kept⟩] }

def addFilter (q : Query) (e : Expression) : Query :=
  match q.dialect.accept e with
  | .ok e' => { q with filters := q.filters ++ [e'] }
  | .error err => q.fail err

def addHaving (q : Query) (e : Expression) : Query :=
  match q.dialect.accept e with
  | .ok e' => { q with havings := q.havings ++ [e'] }
  | .error err => q.fail err

def add (q : Query) : Clause → Query
  | .table name => { q with table := name }
  | .strict on => { q with strict := on }
  | .select names => { q with selections := q.selections ++ names.map .column }
  | .selectRaw sql newName => { q with selections := q.selections ++ [.raw sql newName] }
  | .distinct => { q with distinct := true }
  | .join type table first op second => q.addJoin type table first op second
  | .joinWith type table on => q.addJoinWith type table on
  | .filter e => q.addFilter e
  | .having e => q.addHaving e
  | .groupBy names => { q with groups := q.groups ++ names.map .column }
  | .groupByRaw sql => { q with groups := q.groups ++ [.raw sql] }
  | .orderBy key => { q with order := q.order ++ [key] }
  | .limit n => { q with limit := countOf n }
  | .offset n => { q with offset := countOf n }

def addAll (q : Query) (cs : List Clause) : Query :=
  cs.foldl add q

def check (q : Query) : Except QueryError Unit :=
  match q.failure with
  | none => .ok ()
  | some e => .error e

end Query

end SqlRecord
