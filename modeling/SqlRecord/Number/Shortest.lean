import SqlRecord.Number.Binary
import SqlRecord.Number.Integer

/-! # The fewest digits that read back

A number of a binary format is the nearest one to every number in an interval around it. Its shortest
text is the number with the fewest digits in that interval, and of those the nearest. -/

namespace SqlRecord.Number

/-- The interval of numbers that a finite number of a format stands for, and the number itself, all
three counted in one unit. The ends belong to it when `closed` holds. -/
structure Interval where
  low : Nat
  value : Nat
  high : Nat
  closed : Bool
  unit : Ratio

/-- Half way to both neighbours. Below the least significand of full precision the neighbour is twice
as near, unless it is of the lowest exponent too. -/
def BinaryFormat.interval (f : BinaryFormat) (code : Nat) : Interval :=
  let m := f.significand code
  let low := if m = f.hidden ∧ f.minExponent < f.exponent code then 4 * m - 1 else 4 * m - 2
  ⟨low, 4 * m, 4 * m + 2, m % 2 = 0, .ofPower 1 2 (f.exponent code - 2)⟩

def Interval.holds (i : Interval) (d : Nat) (e : Int) : Bool :=
  let r := (Ratio.divPower ⟨i.unit.num, i.unit.den⟩ 10 e)
  if i.closed then i.low * r.num ≤ d * r.den && d * r.den ≤ i.high * r.num
  else i.low * r.num < d * r.den && d * r.den < i.high * r.num

def Interval.magnitude (i : Interval) : Int :=
  let num := i.value * i.unit.num
  let whole := num / i.unit.den
  if whole = 0 then 1 - (digitCount ((i.unit.den - 1) / num) : Int) else digitCount whole

/-- The multiple of ten to the power `e` in the interval that is nearest to the value, the greater one
half way. -/
def Interval.onGrid? (i : Interval) (e : Int) : Option Nat :=
  let r := Ratio.divPower ⟨i.value * i.unit.num, i.unit.den⟩ 10 e
  let d := r.floor
  let nearAbove := r.den ≤ 2 * (r.num % r.den)
  match i.holds d e, i.holds (d + 1) e with
  | true, true => some (if nearAbove then d + 1 else d)
  | true, false => some d
  | false, true => some (d + 1)
  | false, false => none

/-- Significant digits, none of them a zero at the end, and where the point stands after the first. -/
structure Digits where
  digits : List Char
  point : Int
  deriving DecidableEq, Repr

def Digits.ofPower (d : Nat) (e : Int) : Digits :=
  let all := Nat.toDigits 10 d
  ⟨(all.reverse.dropWhile (· == '0')).reverse, all.length + e⟩

/-- Tries grids of more and more digits. Seventeen are always enough for a double. -/
def Interval.search (i : Interval) : Nat → Int → Digits
  | 0, e => .ofPower (Ratio.divPower ⟨i.value * i.unit.num, i.unit.den⟩ 10 e).floor e
  | tries + 1, e =>
    match i.onGrid? e with
    | some d => .ofPower d e
    | none => i.search tries (e - 1)

def BinaryFormat.shortest (f : BinaryFormat) (code : Nat) : Digits :=
  let i := f.interval code
  i.search 17 (i.magnitude - 1)

end SqlRecord.Number
