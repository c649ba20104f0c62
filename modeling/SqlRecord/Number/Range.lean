/-! # Whole numbers that fit in a word -/

namespace SqlRecord.Number

def int16? (n : Int) : Option Int16 :=
  if -32768 ≤ n ∧ n ≤ 32767 then some (Int16.ofInt n) else none

def int32? (n : Int) : Option Int32 :=
  if -2147483648 ≤ n ∧ n ≤ 2147483647 then some (Int32.ofInt n) else none

def int64? (n : Int) : Option Int64 :=
  if -9223372036854775808 ≤ n ∧ n ≤ 9223372036854775807 then some (Int64.ofInt n) else none

def word64? (n : Nat) : Option UInt64 :=
  if n ≤ 18446744073709551615 then some (UInt64.ofNat n) else none

/-- The number of 64 bits that is nearest. -/
def clamp64 (n : Int) : Int64 :=
  if n < -9223372036854775808 then Int64.minValue
  else if 9223372036854775807 < n then Int64.maxValue
  else Int64.ofInt n

theorem int16?_toInt (n : Int16) : int16? n.toInt = some n := by
  have h₁ := n.le_toInt
  have h₂ := n.toInt_lt
  simp [int16?]
  omega

theorem int32?_toInt (n : Int32) : int32? n.toInt = some n := by
  have h₁ := n.le_toInt
  have h₂ := n.toInt_lt
  simp [int32?]
  omega

theorem int64?_toInt (n : Int64) : int64? n.toInt = some n := by
  have h₁ := n.le_toInt
  have h₂ := n.toInt_lt
  simp [int64?]
  omega

end SqlRecord.Number
