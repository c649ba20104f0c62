import SqlRecord.Value.Basic

/-! # What statements say

Part of the database in memory, which stands in for the database library, so no theorem rests on it. -/

namespace SqlRecord.Database

inductive Comparison
  | equal
  | unequal
  | less
  | lessEqual
  | greater
  | greaterEqual
  deriving DecidableEq, Repr

inductive BitOperation
  | and
  | or
  | shiftLeft
  | shiftRight
  deriving DecidableEq, Repr

inductive Expr (κ : Type)
  | literal (v : Value)
  | column (k : κ)
  | compare (c : Comparison) (a b : Expr κ)
  | isNull (negated : Bool) (a : Expr κ)
  | member (negated : Bool) (a : Expr κ) (items : List Value)
  | like (negated : Bool) (a b : Expr κ)
  | bits (o : BitOperation) (a b : Expr κ)
  | and (a b : Expr κ)
  | or (a b : Expr κ)
  | not (a : Expr κ)
  deriving Repr

namespace Expr

variable {κ : Type}

/-- Whether an expression is false by its form. -/
def isFalse : Expr κ → Bool
  | literal (.int n) => n == 0
  | _ => false

/-- Both of two tests. Where one is false by its form the other is not looked at. -/
def both (a b : Expr κ) : Expr κ :=
  if a.isFalse || b.isFalse then literal (.int 0) else and a b

/-- Whether a value is in a list. Nothing is in an empty one, whatever the value is. -/
def among (negated : Bool) (a : Expr κ) (items : List Value) : Expr κ :=
  if items.isEmpty then literal (.int (if negated then 1 else 0)) else member negated a items

end Expr

structure ColumnName where
  table : Option String
  name : String
  deriving DecidableEq, Repr

inductive Item
  /-- All columns, perhaps of the table named. -/
  | all (table : Option String)
  | column (c : ColumnName)
  | literal (v : Value)
  | count
  deriving DecidableEq, Repr

structure SelectItem where
  item : Item
  newName : Option String
  deriving DecidableEq, Repr

structure Source where
  table : String
  newName : Option String
  deriving DecidableEq, Repr

structure Select where
  items : List SelectItem
  source : Option Source := none
  condition : Option (Expr ColumnName) := none
  /-- The columns to order by. `true` means the greatest first. -/
  order : List (ColumnName × Bool) := []
  limit : Option Int := none
  offset : Int := 0

structure Conflict where
  keys : List String
  /-- The changes to the row that has the keys, none to leave it alone. -/
  changes : Option (List (String × Value))
  deriving DecidableEq, Repr

inductive Affinity
  | integer
  | real
  | text
  | blob
  deriving DecidableEq, Repr

structure ColumnDef where
  name : String
  affinity : Affinity
  notNull : Bool := false
  default : Value := .null
  primary : Bool := false
  autoIncrement : Bool := false
  deriving DecidableEq, Repr

inductive Statement
  | select (s : Select)
  | insert (table : String) (columns : Option (List String)) (values : List Value)
      (conflict : Option Conflict)
  | update (table : String) (changes : List (String × Value)) (condition : Option (Expr ColumnName))
  | delete (table : String) (condition : Option (Expr ColumnName))
  | create (table : String) (columns : List ColumnDef) (key : Option (List String))
  | pragma (name : String)

end SqlRecord.Database
