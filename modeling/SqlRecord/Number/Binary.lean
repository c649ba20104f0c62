/-! # Binary floating-point formats

A number of a format is coded, sign apart, by one whole number. Codes are in the order of the numbers
they stand for, then comes infinity, and every code above infinity is no number. -/

namespace SqlRecord.Number

/-- A binary format, by the widths of its fraction and exponent fields. -/
structure BinaryFormat where
  fractionBits : Nat
  exponentBits : Nat

namespace BinaryFormat

def double : BinaryFormat := ⟨52, 11⟩

def single : BinaryFormat := ⟨23, 8⟩

/-- The number of fractions, which is also the least significand of full precision. -/
def hidden (f : BinaryFormat) : Nat :=
  Nat.pow 2 f.fractionBits

/-- No number of the format reaches two to this power. -/
def maxExponent (f : BinaryFormat) : Nat :=
  Nat.pow 2 (f.exponentBits - 1)

/-- Every number of the format is a multiple of two to this power. -/
def minExponent (f : BinaryFormat) : Int :=
  2 - (f.maxExponent : Int) - f.fractionBits

def infinity (f : BinaryFormat) : Nat :=
  (Nat.pow 2 f.exponentBits - 1) * f.hidden

def signWeight (f : BinaryFormat) : Nat :=
  Nat.pow 2 (f.exponentBits + f.fractionBits)

def significand (f : BinaryFormat) (code : Nat) : Nat :=
  if code < f.hidden then code else f.hidden + code % f.hidden

/-- The power of two that the significand of a finite number counts. -/
def exponent (f : BinaryFormat) (code : Nat) : Int :=
  f.minExponent + ((code / f.hidden - 1 : Nat) : Int)

end BinaryFormat

structure Ratio where
  num : Nat
  den : Nat

namespace Ratio

def ofPower (m base : Nat) (e : Int) : Ratio :=
  ⟨m * Nat.pow base e.toNat, Nat.pow base (-e).toNat⟩

def divPower (r : Ratio) (base : Nat) (e : Int) : Ratio :=
  ⟨r.num * Nat.pow base (-e).toNat, r.den * Nat.pow base e.toNat⟩

def floor (r : Ratio) : Nat :=
  r.num / r.den

/-- The nearest whole number, half way the even one. -/
def roundEven (r : Ratio) : Nat :=
  let m := r.num / r.den
  let rest := 2 * (r.num % r.den)
  if rest < r.den then m else if r.den < rest then m + 1 else m + m % 2

def log2 (r : Ratio) : Int :=
  let k := (r.num.log2 : Int) - r.den.log2
  if (r.divPower 2 k).floor = 0 then k - 1 else k

end Ratio

/-- The code of the number of the format nearest to `r`, half way the one with the even code. -/
def BinaryFormat.nearest (f : BinaryFormat) (r : Ratio) : Nat :=
  if r.num = 0 then 0
  else
    let e := max f.minExponent (r.log2 - f.fractionBits)
    let m := (r.divPower 2 e).roundEven
    min ((e - f.minExponent).toNat * f.hidden + m) f.infinity

def BinaryFormat.ratio (f : BinaryFormat) (code : Nat) : Ratio :=
  .ofPower (f.significand code) 2 (f.exponent code)

end SqlRecord.Number
