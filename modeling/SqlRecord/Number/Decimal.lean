import SqlRecord.Number.Binary
import SqlRecord.Number.Integer
import SqlRecord.Text.Case

/-! # Numbers written in decimal -/

namespace SqlRecord.Number

inductive Decimal
  | notANumber
  | infinite
  /-- `mantissa` times ten to the power `exponent`. -/
  | finite (mantissa : Nat) (exponent : Int)
  deriving DecidableEq, Repr

def readExponent : List Char → Option Int
  | [] => some 0
  | c :: s => if c = 'e' ∨ c = 'E' then readInt s else none

/-- Digits with at most one point among them, then perhaps an exponent. -/
def readFinite (s : List Char) : Option Decimal :=
  let whole := s.takeWhile Char.isDigit
  let rest := s.dropWhile Char.isDigit
  let (fraction, rest) := match rest with
    | '.' :: more => (more.takeWhile Char.isDigit, more.dropWhile Char.isDigit)
    | more => ([], more)
  if whole ++ fraction = [] then none
  else (readExponent rest).map fun e =>
    .finite (Nat.ofDigitChars 10 (whole ++ fraction) 0) (e - (fraction.length : Int))

def readUnsigned (s : List Char) : Option Decimal :=
  let word := Text.lowerAscii s
  if word = ['i', 'n', 'f'] ∨ word = ['i', 'n', 'f', 'i', 'n', 'i', 't', 'y'] then some .infinite
  else if word = ['n', 'a', 'n'] then some .notANumber
  else readFinite s

def readDecimal : List Char → Option (Bool × Decimal)
  | '-' :: s => (readUnsigned s).map (true, ·)
  | '+' :: s => (readUnsigned s).map (false, ·)
  | s => (readUnsigned s).map (false, ·)

/-- The code of the number nearest to `mantissa` times ten to the power `exponent`. What the count of
digits already shows to be out of range is not multiplied out: ten is more than the third power of
two. -/
def BinaryFormat.nearestDecimal (f : BinaryFormat) (mantissa : Nat) (exponent : Int) : Nat :=
  let size := (digitCount mantissa : Int) + exponent
  if mantissa = 0 then 0
  else if (f.maxExponent : Int) ≤ 3 * (size - 1) then f.infinity
  else if 3 * size < f.minExponent then 0
  else f.nearest (.ofPower mantissa 10 exponent)

def BinaryFormat.ofDecimal (f : BinaryFormat) : Decimal → Nat
  | .notANumber => f.infinity + f.hidden / 2
  | .infinite => f.infinity
  | .finite m e => f.nearestDecimal m e

end SqlRecord.Number
