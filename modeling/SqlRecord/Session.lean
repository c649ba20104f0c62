import SqlRecord.Record.OfRow
import SqlRecord.Query.Statement

/-! # Sessions

A connection says how a database answers statements. A session runs them one after the other and keeps
what was handed to the connection and what was reported. -/

namespace SqlRecord

/-- A way to a database. `σ` is what the database remembers from one statement to the next. -/
structure Connection (σ : Type) where
  dialect : Dialect
  execute : String → σ → Except QueryError Unit × σ
  fetch : String → σ → Except QueryError (List Row) × σ
  lastRowId : σ → Except QueryError Int64 × σ

structure Session (σ : Type) where
  memory : σ
  /-- The statements handed to the connection, the first one first. -/
  statements : List String := []
  events : List Event := []

/-- What is done in a session. It may end in an error, and what was done before then stays done. -/
abbrev Action (σ ε α : Type) := ExceptT ε (StateM (Session σ)) α

namespace Action

variable {σ ε ε' α : Type}

def perform (a : Action σ ε α) (s : Session σ) : Except ε α × Session σ :=
  (a.run).run s

def ofMemory (f : σ → Except ε α × σ) : Action σ ε α :=
  ExceptT.mk fun s => ((f s.memory).1, { s with memory := (f s.memory).2 })

def report (es : List Event) : Action σ ε Unit :=
  ExceptT.mk fun s => (.ok (), { s with events := s.events ++ es })

def note (sql : String) : Action σ ε Unit :=
  ExceptT.mk fun s => (.ok (), { s with statements := s.statements ++ [sql] })

def ofExcept (r : Except ε α) : Action σ ε α :=
  ExceptT.mk fun s => (r, s)

/-- The same action with its errors seen as others. -/
def mapError (f : ε → ε') (a : Action σ ε α) : Action σ ε' α :=
  ExceptT.mk fun s => ((a.perform s).1.mapError f, (a.perform s).2)

end Action

namespace Connection

variable {σ υ : Type}

def run (c : Connection σ) (sql : String) : Action σ QueryError Unit := do
  Action.note sql
  Action.ofMemory (c.execute sql)

def rows (c : Connection σ) (sql : String) : Action σ QueryError (List Row) := do
  Action.note sql
  Action.ofMemory (c.fetch sql)

def records (c : Connection σ) (t : RecordType υ) (sql : String) :
    Action σ QueryError (List (Record υ)) := do
  let (rs, es) := t.ofRows (← c.rows sql)
  Action.report es
  return rs

end Connection

end SqlRecord
