import SqlRecord.Session

/-! # Running queries -/

namespace SqlRecord.Query

variable {σ υ : Type}

def on (c : Connection σ) (table : String) : Query where
  dialect := c.dialect
  table := table

def run (c : Connection σ) (sql : String) : Action σ QueryError Unit := do
  Action.report [.executing sql]
  c.run sql

def rows (q : Query) (c : Connection σ) : Action σ QueryError (List Row) := do
  let sql ← Action.ofExcept q.selectStatement
  Action.report [.runningQuery sql]
  c.rows sql

def records (q : Query) (c : Connection σ) (t : RecordType υ) :
    Action σ QueryError (List (Record υ)) := do
  let sql ← Action.ofExcept q.selectStatement
  Action.report [.runningQuery sql]
  c.records t sql

/-- The first record that the query selects, and no more than that one is asked for. -/
def first (q : Query) (c : Connection σ) (t : RecordType υ) :
    Action σ QueryError (Option (Record υ)) := do
  return (← (q.add (.limit 1)).records c t).head?

def insert (q : Query) (c : Connection σ) (p : Params) : Action σ QueryError Unit := do
  run c (← Action.ofExcept (q.insertStatement p))

def update (q : Query) (c : Connection σ) (p : Params) : Action σ QueryError Unit := do
  run c (← Action.ofExcept (q.updateStatement p))

/-- Removes the rows that the conditions choose, which without a condition is all of them. -/
def delete (q : Query) (c : Connection σ) : Action σ QueryError Unit := do
  let sql ← Action.ofExcept q.deleteStatement
  if q.filters.isEmpty then Action.report [.deletingAll q.table]
  run c sql

def upsert (q : Query) (c : Connection σ) (insert update : Params) (keys : List String) :
    Action σ QueryError Unit := do
  run c (← Action.ofExcept (q.upsertStatement insert update keys))

end SqlRecord.Query
