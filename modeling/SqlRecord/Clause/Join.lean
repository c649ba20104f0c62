import SqlRecord.Clause.Compile

/-! # Joins -/

namespace SqlRecord

inductive JoinType
  | left
  | right
  | inner
  deriving DecidableEq, Repr

def JoinType.word : JoinType → String
  | left => "left"
  | right => "right"
  | inner => "inner"

inductive JoinCondition
  | columns (first operator second : String)
  | conditions (es : List Expression)
  deriving DecidableEq, Repr

structure Join where
  type : JoinType
  table : String
  condition : JoinCondition
  deriving DecidableEq, Repr

def JoinCondition.compile (s : Spelling) : JoinCondition → String
  | columns first op second => s.quoteName first ++ " " ++ op ++ " " ++ s.quoteName second
  | conditions es => Expression.compileAll s es

/-- The text of a join. Without any condition there is no `on`. -/
def Join.compile (s : Spelling) (j : Join) : String :=
  let on := j.condition.compile s
  let join := j.type.word ++ " join " ++ s.quoteName j.table
  if on = "" then join else join ++ " on " ++ on

def Join.compileAll (s : Spelling) (js : List Join) : String :=
  " ".intercalate (js.map (compile s))

end SqlRecord
