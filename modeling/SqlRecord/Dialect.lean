import SqlRecord.Clause.Join
import SqlRecord.Clause.Term
import SqlRecord.Params

/-! # Dialects

A dialect states a spelling and may replace any of the rules that build clauses and statements. -/

namespace SqlRecord

def countClause (keyword : String) : Option Int64 → String
  | none => ""
  | some n => keyword ++ " " ++ toString n.toInt

namespace Spelling

def literals (s : Spelling) (p : Params) : List String :=
  p.values.map fun v => s.quote v.stored

def assignments (s : Spelling) (p : Params) : String :=
  ", ".intercalate (p.entries.map fun e => s.quoteName e.1 ++ " = " ++ s.quote e.2.stored)

/-- A statement that inserts one row. Without parameters there is none. -/
def insertStatement (s : Spelling) (table : String) (p : Params) : String :=
  if p.isEmpty then ""
  else
    "insert into " ++ s.quoteName table ++ " (" ++ ", ".intercalate (p.columns.map s.quoteName) ++
      ") values (" ++ ", ".intercalate (s.literals p) ++ ")"

def updateStatement (s : Spelling) (table : String) (p : Params) (whereClause : String) : String :=
  Text.trim ("update " ++ s.quoteName table ++ " set " ++ s.assignments p ++ " " ++ whereClause)

def deleteStatement (s : Spelling) (table : String) (whereClause : String) : String :=
  Text.trim ("delete from " ++ s.quoteName table ++ " " ++ whereClause)

end Spelling

/-- The rules for statements of one kind of database. -/
structure Dialect extends Spelling where
  fixNull : Expression → Except QueryError Expression := Expression.fixNull
  selectList : List Selection → String := Selection.list toSpelling
  distinctWord : Bool → String := fun distinct => if distinct then "distinct" else ""
  conditionClause : String → List Expression → String := Expression.clause toSpelling
  whereClause : List Expression → String := conditionClause "where"
  havingClause : List Expression → String := conditionClause "having"
  joinList : List Join → String := Join.compileAll toSpelling
  groupClause : List Term → String := Term.groupClause toSpelling
  orderClause : List OrderKey → String := OrderKey.clause toSpelling
  limitClause : Option Int64 → String := countClause "limit"
  offsetClause : Option Int64 → String := countClause "offset"
  insertStatement : String → Params → String := toSpelling.insertStatement
  updateStatement : String → Params → String → String := toSpelling.updateStatement
  deleteStatement : String → String → String := toSpelling.deleteStatement

namespace Dialect

def commonOperators : List String :=
  ["=", "<", ">", "<=", ">=", "<>", "!=", "is null", "is not null", "in", "not in", "like",
    "not like"]

def generic : Dialect where
  name := "generic"
  operators := commonOperators

/-- The dialect of SQLite, which compares texts without regard to case under another name and works on
the bits of integers. -/
def sqlite : Dialect where
  name := "sqlite"
  operators := commonOperators ++ ["ilike", "&", "|", "<<", ">>"]
  operator := fun op => if Text.sameAscii op "ilike" then "like" else op

end Dialect

end SqlRecord
