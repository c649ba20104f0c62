import SqlRecord.Database.Table

/-! # The order rows come in

Rows come by row id. They come by key where a condition narrows the first column of the key, where
nothing but the key is asked for, and where they are ordered by that first column to begin with. Part of the
database in memory, which stands in for the database library, so no theorem rests on it. -/

namespace SqlRecord.Database

def Key.first? : Key → Option Nat
  | none => Option.none
  | rowId i _ => some i
  | columns indexes => indexes.head?

namespace Expr

def alternatives : Expr Cell → List (Expr Cell)
  | or a b => a.alternatives ++ b.alternatives
  | e => [e]

def looksUp (i : Nat) : Expr Cell → Bool
  | compare .equal (column k) (literal _) => k.index == i
  | compare .equal (literal _) (column k) => k.index == i
  | member false (column k) _ => k.index == i
  | _ => false

def narrows (i : Nat) : Expr Cell → Bool
  | compare c (column k) (literal _) => c != .unequal && k.index == i
  | compare c (literal _) (column k) => c != .unequal && k.index == i
  | isNull false (column k) => k.index == i
  | and a b => a.narrows i || b.narrows i
  | e => e.looksUp i

def places : Expr Cell → List Nat
  | literal _ => []
  | column k => [k.index]
  | compare _ a b => a.places ++ b.places
  | isNull _ a => a.places
  | member _ a _ => a.places
  | like _ a b => a.places ++ b.places
  | bits _ a b => a.places ++ b.places
  | and a b => a.places ++ b.places
  | or a b => a.places ++ b.places
  | not a => a.places

end Expr

def comesFirst : List (Nat × Bool) → StoredRow → StoredRow → Bool
  | [], _, _ => true
  | (i, descending) :: keys, r, s =>
    match compareValues (r.values.getD i .null) (s.values.getD i .null) with
    | .eq => comesFirst keys r s
    | .lt => !descending
    | .gt => descending

def dropSettled : List (Nat × Bool) → List (Nat × Bool)
  | [] => []
  | k :: keys => k :: (dropSettled keys).filter (·.1 != k.1)

def dropRepeats : List StoredRow → List StoredRow
  | [] => []
  | r :: rows => r :: (dropRepeats rows).filter (·.id != r.id)

namespace Table

def byKey (t : Table) (rows : List StoredRow) : List StoredRow :=
  match t.key with
  | .columns indexes => rows.mergeSort (comesFirst (indexes.map fun i => (i, false)))
  | _ => rows

def followsKey (t : Table) (descending : Bool) (order : List (Nat × Bool)) : Bool :=
  match t.key, order with
  | .columns (i :: _), k :: _ => k == (i, descending)
  | _, _ => false

def isInKey (t : Table) (places : List Nat) : Bool :=
  match t.key with
  | .columns indexes => places.all indexes.contains
  | _ => false

def narrowsKey (t : Table) (tests : List (Expr Cell)) : Bool :=
  match t.key.first? with
  | some i => !tests.isEmpty && tests.all (Expr.narrows i)
  | none => false

def looksUpKey (t : Table) (tests : List (Expr Cell)) : Bool :=
  match t.key.first? with
  | some i => tests.all (Expr.looksUp i)
  | none => false

def matching (t : Table) (condition : Option (Expr Cell)) : List StoredRow :=
  t.rows.filter fun r => chosen condition r.values

/-- The rows that a condition chooses, as they come before they are put in the order asked for.
Alternatives that narrow the key, and do more than look it up, are gone through one by one. -/
def read (t : Table) (condition : Option (Expr Cell)) (places : List Nat)
    (order : List (Nat × Bool)) : List StoredRow :=
  let tests := (condition.map Expr.alternatives).getD []
  let rows := t.matching condition
  if tests.length > 1 && t.narrowsKey tests && !t.looksUpKey tests then
    dropRepeats (tests.flatMap fun e => t.byKey (t.matching (some e)))
  else if t.followsKey true order then (t.byKey rows).reverse
  else if t.narrowsKey tests || t.isInKey places || t.followsKey false order then t.byKey rows
  else rows

end Table

end SqlRecord.Database
