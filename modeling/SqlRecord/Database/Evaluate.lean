import SqlRecord.Database.Affinity

/-! # Evaluating expressions

A test gives one, zero, or null where it cannot be told. Part of the database in memory, which stands in for
the database library, so no theorem rests on it. -/

namespace SqlRecord.Database

inductive Fault
  | notSql
  | noTable (name : String)
  | tableExists (name : String)
  | noColumn (name : String)
  | noConflictKey
  | wrongCount
  | notNull (column : String)
  | notUnique
  | notInteger
  | badKey
  | full
  deriving DecidableEq, Repr

def Fault.message : Fault → String
  | notSql => "syntax error"
  | noTable name => "no such table: " ++ name
  | tableExists name => "table " ++ name ++ " already exists"
  | noColumn name => "no such column: " ++ name
  | noConflictKey => "ON CONFLICT clause does not match any PRIMARY KEY or UNIQUE constraint"
  | wrongCount => "wrong number of values"
  | notNull column => "NOT NULL constraint failed: " ++ column
  | notUnique => "UNIQUE constraint failed"
  | notInteger => "datatype mismatch"
  | badKey => "bad primary key"
  | full => "database or disk is full"

structure Cell where
  index : Nat
  affinity : Affinity
  deriving DecidableEq, Repr

namespace Expr

/-- Finds out what the columns refer to. -/
def bind {κ l : Type} (f : κ → Except Fault l) : Expr κ → Except Fault (Expr l)
  | literal v => .ok (literal v)
  | column k => (f k).map column
  | compare c a b => do return compare c (← a.bind f) (← b.bind f)
  | isNull negated a => do return isNull negated (← a.bind f)
  | member negated a items => do return member negated (← a.bind f) items
  | like negated a b => do return like negated (← a.bind f) (← b.bind f)
  | bits o a b => do return bits o (← a.bind f) (← b.bind f)
  | and a b => do return and (← a.bind f) (← b.bind f)
  | or a b => do return or (← a.bind f) (← b.bind f)
  | not a => do return not (← a.bind f)

def affinity? : Expr Cell → Option Affinity
  | column k => some k.affinity
  | _ => none

end Expr

def ofTruth : Option Bool → Value
  | none => .null
  | some b => .int (if b then 1 else 0)

def truth : Value → Option Bool
  | .null => none
  | .int n => some (n != 0)
  | .real x => some (x.code != 0)
  | .text s => some (leadsNonZero s)
  | .blob b => some (leadsNonZero (Text.decodeUtf8 b))
  | .bool b => some b

def truthAnd : Option Bool → Option Bool → Option Bool
  | some false, _ => some false
  | _, some false => some false
  | some true, some true => some true
  | _, _ => none

def truthOr (a b : Option Bool) : Option Bool :=
  (truthAnd (a.map Bool.not) (b.map Bool.not)).map Bool.not

def compareTruth (c : Comparison) (left right : Option Affinity) (v w : Value) : Option Bool :=
  if v.isNull || w.isNull then none
  else
    let (v, w) := convert left right v w
    some (c.holds (compareValues v w))

def memberTruth (left : Option Affinity) (v : Value) : List Value → Option Bool
  | [] => some false
  | w :: ws => truthOr (compareTruth .equal left none v w) (memberTruth left v ws)

/-- The characters of a value that a pattern sees: those of its text before the first NUL. -/
def patternText (v : Value) : Option (List Char) :=
  (toText v).text?.map fun s => s.toList.takeWhile (· ≠ '\x00')

def likeTruth (v w : Value) : Option Bool := do
  return fits (← patternText w) (← patternText v)

def negateIf (negated : Bool) (t : Option Bool) : Option Bool :=
  t.map (negated != ·)

def Expr.eval (row : List Value) : Expr Cell → Value
  | literal v => v
  | column k => row.getD k.index .null
  | compare c a b => ofTruth (compareTruth c a.affinity? b.affinity? (a.eval row) (b.eval row))
  | isNull negated a => ofTruth (some (negated != (a.eval row).isNull))
  | member negated a items => ofTruth (negateIf negated (memberTruth a.affinity? (a.eval row) items))
  | like negated a b => ofTruth (negateIf negated (likeTruth (a.eval row) (b.eval row)))
  | bits o a b =>
    let v := a.eval row
    let w := b.eval row
    if v.isNull || w.isNull then .null else o.apply (asInteger v) (asInteger w)
  | and a b => ofTruth (truthAnd (truth (a.eval row)) (truth (b.eval row)))
  | or a b => ofTruth (truthOr (truth (a.eval row)) (truth (b.eval row)))
  | not a => ofTruth ((truth (a.eval row)).map Bool.not)

/-- Whether a condition chooses a row. Without a condition every row is chosen. -/
def chosen (condition : Option (Expr Cell)) (row : List Value) : Bool :=
  match condition with
  | none => true
  | some e => truth (e.eval row) = some true

end SqlRecord.Database
