/-! # Whole numbers in text -/

namespace SqlRecord.Number

/-- The number that ASCII digits write. At least one digit is needed and nothing else is allowed. -/
def readNat (s : List Char) : Option Nat :=
  if s ≠ [] ∧ s.all Char.isDigit then some (Nat.ofDigitChars 10 s 0) else none

def readInt : List Char → Option Int
  | '-' :: s => (readNat s).map fun n => -(n : Int)
  | '+' :: s => (readNat s).map fun n => (n : Int)
  | s => (readNat s).map fun n => (n : Int)

def digitCount (n : Nat) : Nat :=
  if n = 0 then 0 else (Nat.toDigits 10 n).length

theorem readNat_toDigits (n : Nat) : readNat (Nat.toDigits 10 n) = some n := by
  have h : (Nat.toDigits 10 n).all Char.isDigit = true :=
    List.all_eq_true.mpr fun c hc => Nat.isDigit_of_mem_toDigits (by decide) (by decide) hc
  simp [readNat, h, Nat.toDigits_ne_nil, Nat.ofDigitChars_toDigits]

end SqlRecord.Number
