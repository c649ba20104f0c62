import SqlRecord.Record.Basic

/-! # Events -/

namespace SqlRecord

/-- What is reported while statements run and rows are read. -/
inductive Event
  | keptDefault (record column : String) (error : FieldError)
  | notCoerced (record column value : String) (kind : FieldKind)
  | notAssigned (record column value : String) (error : FieldError)
  | runningQuery (sql : String)
  | executing (sql : String)
  | deletingAll (table : String)
  | nothingToInsert (model : String)
  | nothingToUpdate (model : String)
  deriving DecidableEq, Repr

inductive Level
  | trace
  | debug
  | warn
  deriving DecidableEq, Repr

def Level.word : Level → String
  | trace => "TRACE"
  | debug => "DEBUG"
  | warn => "WARN"

namespace Event

def level : Event → Level
  | keptDefault .. => .trace
  | notCoerced .. => .warn
  | notAssigned .. => .warn
  | runningQuery _ => .debug
  | executing _ => .debug
  | deletingAll _ => .warn
  | nothingToInsert _ => .debug
  | nothingToUpdate _ => .debug

def message : Event → String
  | keptDefault .. => "null column left field at its default"
  | notCoerced .. => "failed to coerce column value"
  | notAssigned .. => "failed to assign column value"
  | runningQuery _ => "running query"
  | executing _ => "executing statement"
  | deletingAll _ => "deleting without any condition"
  | nothingToInsert _ => "nothing to insert"
  | nothingToUpdate _ => "nothing to update"

def details : Event → List (String × String)
  | keptDefault record column error =>
    [("record", record), ("column", column), ("error", error.message)]
  | notCoerced record column value kind =>
    [("record", record), ("column", column), ("value", value), ("kind", kind.word)]
  | notAssigned record column value error =>
    [("record", record), ("column", column), ("value", value), ("error", error.message)]
  | runningQuery sql => [("sql", sql)]
  | executing sql => [("sql", sql)]
  | deletingAll table => [("table", table)]
  | nothingToInsert model => [("model", model)]
  | nothingToUpdate model => [("model", model)]

end Event

end SqlRecord
