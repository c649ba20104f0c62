import SqlRecord.Value.Basic

/-! # Parameters of a statement -/

namespace SqlRecord

/-- Columns with their values, in the order in which the columns first came. -/
structure Params where
  entries : List (String × Value)
  deriving DecidableEq, Repr, Inhabited

namespace Params

/-- Replaces the value of a column where it stands, or puts the column at the end. -/
def put (column : String) (value : Value) : List (String × Value) → List (String × Value)
  | [] => [(column, value)]
  | e :: es => if e.1 = column then (column, value) :: es else e :: put column value es

def empty : Params := ⟨[]⟩

def insert (p : Params) (column : String) (value : Value) : Params :=
  ⟨put column value p.entries⟩

def insertAll (p : Params) (pairs : List (String × Value)) : Params :=
  pairs.foldl (fun p e => p.insert e.1 e.2) p

def ofList (pairs : List (String × Value)) : Params :=
  empty.insertAll pairs

def get? (p : Params) (column : String) : Option Value :=
  p.entries.lookup column

def contains (p : Params) (column : String) : Bool :=
  (p.get? column).isSome

def size (p : Params) : Nat :=
  p.entries.length

def isEmpty (p : Params) : Bool :=
  p.entries.isEmpty

def columns (p : Params) : List String :=
  p.entries.map Prod.fst

def values (p : Params) : List Value :=
  p.entries.map Prod.snd

end Params

end SqlRecord
