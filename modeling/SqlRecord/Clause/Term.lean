import SqlRecord.Spelling

/-! # What is selected, grouped and ordered by -/

namespace SqlRecord

inductive Term
  | column (name : String)
  | raw (sql : String)
  deriving DecidableEq, Repr

def Term.compile (s : Spelling) : Term → String
  | column name => s.quoteName name
  | raw sql => sql

inductive Selection
  | column (name : String)
  | raw (sql : String) (newName : Option String)
  deriving DecidableEq, Repr

/-- The text of an entry. A raw one that gets a name is put in parentheses. -/
def Selection.compile (s : Spelling) : Selection → String
  | column name => s.quoteName name
  | raw sql none => sql
  | raw sql (some newName) => "(" ++ sql ++ ") as " ++ s.quoteName newName

/-- A select list. The empty one selects all. -/
def Selection.list (s : Spelling) (items : List Selection) : String :=
  if items.isEmpty then "*" else ", ".intercalate (items.map (compile s))

def Term.groupClause (s : Spelling) (items : List Term) : String :=
  if items.isEmpty then "" else "group by " ++ ", ".intercalate (items.map (compile s))

inductive Direction
  | ascending
  | descending
  deriving DecidableEq, Repr

/-- The direction that is meant when none is given. -/
instance : Inhabited Direction := ⟨.ascending⟩

def Direction.word : Direction → String
  | ascending => "asc"
  | descending => "desc"

structure OrderKey where
  term : Term
  direction : Direction
  deriving DecidableEq, Repr

def OrderKey.compile (s : Spelling) (o : OrderKey) : String :=
  o.term.compile s ++ " " ++ o.direction.word

def OrderKey.clause (s : Spelling) (items : List OrderKey) : String :=
  if items.isEmpty then "" else "order by " ++ ", ".intercalate (items.map (compile s))

end SqlRecord
