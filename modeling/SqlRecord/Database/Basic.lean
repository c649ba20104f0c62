import SqlRecord.Database.Query
import SqlRecord.Database.Reader
import SqlRecord.Session
import SqlRecord.Settings.Basic

/-! # A database in memory

It knows the statements that queries and models make, and those that make tables. It stands in for the
database library, as far as programs are run against it. No theorem rests on it: where a statement is
answered, theorems take any connection. -/

namespace SqlRecord

inductive DatabaseError
  | database (cause : String)
  | runtime (cause : String)
  deriving DecidableEq, Repr

def DatabaseError.message : DatabaseError → String
  | database cause => "database error: " ++ cause
  | runtime cause => "runtime error: " ++ cause

def DatabaseError.toQueryError (e : DatabaseError) : QueryError :=
  .connection e.message

structure Database where
  settings : Settings
  tables : List Database.Table := []
  lastRowId : Int := 0

namespace Database

/-! ## Opening -/

def dropRepeated (front : List Char) : Nat → List Char → List Char
  | 0, s => s
  | n + 1, s =>
    if front ≠ [] ∧ front.isPrefixOf s then dropRepeated front n (s.drop front.length) else s

def splitUrl (url : String) : List Char × Option (List Char) :=
  let s := url.toList
  let s := dropRepeated "sqlite://".toList s.length s
  let s := dropRepeated "sqlite:".toList s.length s
  match s.dropWhile (· ≠ '?') with
  | _ :: params => (s.takeWhile (· ≠ '?'), some params)
  | [] => (s, none)

def parameters : List (String × List String) :=
  [("mode", ["ro", "rw", "rwc", "memory"]), ("cache", ["private", "shared"]),
    ("immutable", ["true", "1", "false", "0"])]

def splitParameter (s : List Char) : String × String :=
  (String.ofList (s.takeWhile (· ≠ '=')), String.ofList ((s.dropWhile (· ≠ '=')).drop 1))

def splitParameters (s : List Char) : List (String × String) :=
  ((s.splitOn '&').filter (· ≠ [])).map splitParameter

def isKnown (p : String × String) : Bool :=
  ((parameters.lookup p.1).getD []).contains p.2

/-- Opens a database in memory. Nothing else is opened here. -/
def ofSettings (settings : Settings) : Except DatabaseError Database :=
  let (place, params) := splitUrl settings.url
  let params := splitParameters (params.getD [])
  if !params.all isKnown then .error (.database "unknown parameter")
  else if place = ":memory:".toList ∨ place = [] ∨ params.contains ("mode", "memory") then
    .ok { settings }
  else .error (.database "unable to open database file")

/-- How a connection shows itself in messages, which tells nothing about what it holds. -/
def description : String :=
  "SqliteConnection \x7b grammar: SqliteGrammar, .. \x7d"

/-! ## Statements -/

def table (d : Database) (name : String) : Except Fault Table :=
  match d.tables.find? fun t => Text.sameAscii t.name name with
  | some t => .ok t
  | none => .error (.noTable name)

def replace (d : Database) (t : Table) : Database :=
  { d with tables := d.tables.map fun u => if u.name = t.name then t else u }

/-- The row that answers what a setting is. Settings that are not known have none. -/
def pragma (d : Database) (name : String) : List Row :=
  if Text.sameAscii name "foreign_keys" then
    [⟨[("foreign_keys", .int (if d.settings.foreignKeys then 1 else 0))]⟩]
  else if Text.sameAscii name "busy_timeout" then
    [⟨[("timeout", .int d.settings.busyTimeout.toInt64)]⟩]
  else []

def step (d : Database) : Statement → Except Fault (List Row × Database)
  | .select s => do
    match s.source with
    | none => return (← selectLiterals s, d)
    | some source =>
      let t ← d.table source.table
      return (← t.select s (source.newName.getD t.name), d)
  | .insert name columns values conflict => do
    let t ← d.table name
    let (t, id) ← t.insert columns values conflict
    return ([], { d.replace t with lastRowId := id.getD d.lastRowId })
  | .update name changes condition => do
    let t ← (← d.table name).update changes condition
    return ([], d.replace t)
  | .delete name condition => do
    let t ← (← d.table name).delete condition
    return ([], d.replace t)
  | .create name columns key => do
    if (d.table name).isOk then throw (.tableExists name)
    return ([], { d with tables := d.tables ++ [← Table.create name columns key] })
  | .pragma name => return (d.pragma name, d)

/-- Runs statements until one fails. What was done before then stays done. -/
def steps : Nat → List Token → Database → Except Fault (List Row) × Database
  | 0, _, d => (.ok [], d)
  | _, [], d => (.ok [], d)
  | n + 1, .symbol ";" :: ts, d => steps n ts d
  | n + 1, ts, d =>
    match Reader.statement.run ts with
    | none => (.error .notSql, d)
    | some (s, rest) =>
      match d.step s with
      | .error e => (.error e, d)
      | .ok (rows, d') =>
        let (r, d'') := steps n rest d'
        (r.map (rows ++ ·), d'')

/-- Runs the statements of a text, and gives the rows they answer with. A NUL ends the text. -/
def run (d : Database) (sql : String) : Except Fault (List Row) × Database :=
  let ts := Token.scan (String.ofList (sql.toList.takeWhile (· ≠ '\x00')))
  steps (ts.length + 1) ts d

def faultError (e : Fault) : QueryError :=
  .connection e.message

def connection : Connection Database where
  dialect := Dialect.sqlite
  execute := fun sql d =>
    let (r, d') := d.run sql
    ((r.map fun _ => ()).mapError faultError, d')
  fetch := fun sql d =>
    let (r, d') := d.run sql
    (r.mapError faultError, d')
  lastRowId := fun d => (.ok (Int64.ofInt d.lastRowId), d)

end Database

end SqlRecord
