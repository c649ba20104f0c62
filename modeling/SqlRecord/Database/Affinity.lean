import SqlRecord.Database.Statement
import SqlRecord.Number.Range

/-! # Storing and comparing values

A column prefers values of its type. It converts what it is given where nothing is lost, and keeps the
rest as it is. Part of the database in memory, which stands in for the database library, so no theorem
rests on it. -/

namespace SqlRecord.Database

open Number

/-! ## Reals as exact numbers -/

def signedSignificand (x : Double) : Int :=
  let m : Int := BinaryFormat.double.significand x.code
  if x.negative then -m else m

/-- `m` times two to the power `e`, which does not count where it is negative. -/
def timesPower (m e : Int) : Int :=
  m * ((Nat.pow 2 e.toNat : Nat) : Int)

def quotient (x : Double) : Int × Int :=
  let e := BinaryFormat.double.exponent x.code
  (timesPower (signedSignificand x) e, timesPower 1 (-e))

def isInfinite (x : Double) : Bool :=
  BinaryFormat.double.infinity ≤ x.code

def wholeOf? (x : Double) : Option Int :=
  let (m, n) := quotient x
  if !isInfinite x && m % n = 0 then some (m / n) else none

def truncate (x : Double) : Int :=
  let (m, n) := quotient x
  m.tdiv n

/-- The order of a whole number and a real. -/
def compareIntReal (k : Int) (x : Double) : Ordering :=
  let (m, n) := quotient x
  if isInfinite x then if x.negative then .gt else .lt
  else compare (k * n) m

/-- A key in the order of reals. Both zeros have the same. -/
def orderKey (x : Double) : Int :=
  if x.negative then -(x.code : Int) else x.code

/-- The text of a real in a column of texts: up to fifteen digits, one of them after the point. -/
def realText (x : Double) : String :=
  let f := BinaryFormat.double
  let i := f.interval x.code
  let e := i.magnitude - 15
  let r := (Ratio.divPower ⟨i.value * i.unit.num, i.unit.den⟩ 10 e).roundEven
  let d : Digits := if x.code = 0 then ⟨['0'], 1⟩ else .ofPower r e
  let sign := if x.negative && x.code != 0 then ['-'] else []
  let digits :=
    if d.point ≤ -4 ∨ 15 < d.point then
      let fraction := match d.digits.drop 1 with
        | [] => ['0']
        | ds => ds
      let power := (d.point - 1).natAbs
      d.digits.take 1 ++ '.' :: fraction ++ ['e', if d.point ≤ 0 then '-' else '+'] ++
        (if power < 10 then ['0'] else []) ++ Nat.toDigits 10 power
    else if (d.digits.length : Int) ≤ d.point then d.plain ++ ['.', '0']
    else d.plain
  if isInfinite x then (if x.negative then "-Inf" else "Inf")
  else String.ofList (sign ++ digits)

/-! ## Numbers in texts -/

def isNumberBlank (c : Char) : Bool :=
  c = ' ' || (9 ≤ c.toNat && c.toNat ≤ 13)

def trimNumber (s : List Char) : List Char :=
  ((s.dropWhile isNumberBlank).reverse.dropWhile isNumberBlank).reverse

def splitSign : List Char → Bool × List Char
  | '-' :: s => (true, s)
  | '+' :: s => (false, s)
  | s => (false, s)

/-- An integer if 64 bits hold the number. -/
def intOrReal (n : Int) : Value :=
  match int64? n with
  | some k => .int k
  | none => .real (Double.ofInt n)

def numberOf? (s : String) : Option Value :=
  let t := trimNumber s.toList
  match readInt t with
  | some n => some (intOrReal n)
  | none =>
    let (negative, u) := splitSign t
    (readFinite u).map fun d => .real (Double.ofCode negative (BinaryFormat.double.ofDecimal d))

def leadingInt (s : String) : Int64 :=
  let (negative, t) := splitSign (s.toList.dropWhile isNumberBlank)
  let n : Int := Nat.ofDigitChars 10 (t.takeWhile Char.isDigit) 0
  clamp64 (if negative then -n else n)

def leadsNonZero (s : String) : Bool :=
  let (_, t) := splitSign (s.toList.dropWhile isNumberBlank)
  let fraction := match t.dropWhile Char.isDigit with
    | '.' :: r => r.takeWhile Char.isDigit
    | _ => []
  (t.takeWhile Char.isDigit ++ fraction).any (· ≠ '0')

/-! ## Storing -/

def toNumber : Value → Value
  | .text s => (numberOf? s).getD (.text s)
  | v => v

/-- A real that is a whole number well within 64 bits becomes an integer. -/
def toInteger : Value → Value
  | .real x =>
    match wholeOf? x with
    | some n =>
      match int64? n with
      | some k => if k = Int64.minValue ∨ k = Int64.maxValue then .real x else .int k
      | none => .real x
    | none => .real x
  | v => v

def toReal : Value → Value
  | .int n => .real (Double.ofInt n.toInt)
  | v => v

def toText : Value → Value
  | .int n => .text (toString n.toInt)
  | .real x => .text (realText x)
  | v => v

def Affinity.store : Affinity → Value → Value
  | integer, v => toInteger (toNumber v)
  | real, v => toReal (toNumber v)
  | text, v => toText v
  | blob, v => v

def Affinity.isNumeric : Affinity → Bool
  | integer => true
  | real => true
  | text => false
  | blob => false

/-! ## Comparing -/

/-- Null comes first, then numbers, texts and blobs. -/
def rank : Value → Nat
  | .null => 0
  | .bool _ => 1
  | .int _ => 1
  | .real _ => 1
  | .text _ => 2
  | .blob _ => 3

def compareValues : Value → Value → Ordering
  | .int m, .int n => compare m.toInt n.toInt
  | .int m, .real y => compareIntReal m.toInt y
  | .real x, .int n => (compareIntReal n.toInt x).swap
  | .real x, .real y => compare (orderKey x) (orderKey y)
  | .text s, .text t => compareOfLessAndEq s t
  | .blob a, .blob b => compareOfLessAndEq (a.map UInt8.toNat) (b.map UInt8.toNat)
  | v, w => compare (rank v) (rank w)

/-- What two sides become before they are compared. Numbers and texts meet on the type of a column. -/
def convert (left right : Option Affinity) (v w : Value) : Value × Value :=
  match left, right with
  | some a, some b => if a.isNumeric || b.isNumeric then (toNumber v, toNumber w) else (v, w)
  | none, none => (v, w)
  | some a, none => convertTo a v w
  | none, some b => convertTo b v w
where
  convertTo (a : Affinity) (v w : Value) : Value × Value :=
    match a with
    | .text => (toText v, toText w)
    | .blob => (v, w)
    | _ => (toNumber v, toNumber w)

def Comparison.holds : Comparison → Ordering → Bool
  | equal, o => o == .eq
  | unequal, o => o != .eq
  | less, o => o == .lt
  | lessEqual, o => o != .gt
  | greater, o => o == .gt
  | greaterEqual, o => o != .lt

/-! ## Patterns and bits -/

def ends : List Char → List (List Char)
  | [] => [[]]
  | c :: s => (c :: s) :: ends s

/-- Whether a text fits a pattern. `%` fits any characters, `_` one, and ASCII letters fit in both
cases. -/
def fits : List Char → List Char → Bool
  | [], s => s.isEmpty
  | c :: p, s =>
    if c = '%' then (ends s).any (fits p)
    else match s with
      | [] => false
      | d :: t => (c = '_' || c.toLower = d.toLower) && fits p t

def asInteger : Value → Int64
  | .int n => n
  | .real x => clamp64 (truncate x)
  | .text s => leadingInt s
  | .blob b => leadingInt (Text.decodeUtf8 b)
  | .bool b => if b then 1 else 0
  | .null => 0

def shift (m : Int64) (n : Int) : Int64 :=
  if 0 ≤ n then
    if 64 ≤ n then 0 else m <<< Int64.ofInt n
  else if n ≤ -64 then (if m < 0 then -1 else 0)
  else m >>> Int64.ofInt (-n)

def BitOperation.apply (o : BitOperation) (m n : Int64) : Value :=
  match o with
  | and => .int (m &&& n)
  | or => .int (m ||| n)
  | shiftLeft => .int (shift m n.toInt)
  | shiftRight => .int (shift m (-n.toInt))

end SqlRecord.Database
