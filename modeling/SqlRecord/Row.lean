import SqlRecord.Value.Basic

/-! # Result rows -/

namespace SqlRecord

/-- One row of a result: cells by column, in the order of the result. Columns may repeat. -/
structure Row where
  cells : List (String × Value)
  deriving DecidableEq, Repr, Inhabited

namespace Row

/-- The row with these columns and values. What the longer list has more is dropped. -/
def ofColumns (columns : List String) (values : List Value) : Row :=
  ⟨columns.zip values⟩

def get? (r : Row) (column : String) : Option Value :=
  r.cells.lookup column

def size (r : Row) : Nat :=
  r.cells.length

def isEmpty (r : Row) : Bool :=
  r.cells.isEmpty

def columns (r : Row) : List String :=
  r.cells.map Prod.fst

def values (r : Row) : List Value :=
  r.cells.map Prod.snd

end Row

end SqlRecord
