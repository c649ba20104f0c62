import SqlRecord.Query.Basic

/-! # Statements of a query -/

namespace SqlRecord.Query

/-- The parts of a select statement, in order. Those that are not wanted are empty. -/
def segments (q : Query) : List String :=
  ["select", q.dialect.distinctWord q.distinct, q.dialect.selectList q.selections, "from",
    q.dialect.quoteName q.table, q.dialect.joinList q.joins, q.dialect.whereClause q.filters,
    q.dialect.groupClause q.groups, q.dialect.havingClause q.havings, q.dialect.orderClause q.order,
    q.dialect.limitClause q.limit, q.dialect.offsetClause q.offset]

def selectStatement (q : Query) : Except QueryError String := do
  q.check
  return " ".intercalate (q.segments.filter (· ≠ ""))

def insertStatement (q : Query) (p : Params) : Except QueryError String := do
  q.check
  if p.isEmpty then throw (.emptyInsert q.table)
  return q.dialect.insertStatement q.table p

def updateStatement (q : Query) (p : Params) : Except QueryError String := do
  q.check
  if p.isEmpty then throw (.emptyUpdate q.table)
  if q.strict && q.filters.isEmpty then throw (.unconditionalUpdate q.table)
  return q.dialect.updateStatement q.table p (q.dialect.whereClause q.filters)

def deleteStatement (q : Query) : Except QueryError String := do
  q.check
  return q.dialect.deleteStatement q.table (q.dialect.whereClause q.filters)

def conflictAction (s : Spelling) (update : Params) : String :=
  if update.isEmpty then "do nothing" else "do update set " ++ s.assignments update

def upsertStatement (q : Query) (insert update : Params) (keys : List String) :
    Except QueryError String := do
  q.check
  if insert.isEmpty then throw (.emptyInsert q.table)
  let s := q.dialect.toSpelling
  return "insert into " ++ s.quoteName q.table ++ " (" ++
    ", ".intercalate (insert.columns.map s.quoteName) ++ ") values (" ++
    ", ".intercalate (s.literals insert) ++ ") on conflict (" ++
    ", ".intercalate (keys.map s.quoteName) ++ ") " ++ conflictAction s update

end SqlRecord.Query
