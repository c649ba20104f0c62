/-! # Blank characters and trimming -/

namespace SqlRecord.Text

/-- A character with the Unicode property White_Space. -/
def isBlank (c : Char) : Bool :=
  let n := c.toNat
  (9 ≤ n && n ≤ 13) || n == 0x20 || n == 0x85 || n == 0xA0 || n == 0x1680 ||
    (0x2000 ≤ n && n ≤ 0x200A) || n == 0x2028 || n == 0x2029 || n == 0x202F ||
    n == 0x205F || n == 0x3000

def dropBlanksRight (s : List Char) : List Char :=
  (s.reverse.dropWhile isBlank).reverse

def trimChars (s : List Char) : List Char :=
  dropBlanksRight (s.dropWhile isBlank)

def trim (s : String) : String :=
  String.ofList (trimChars s.toList)

@[simp] theorem toList_trim (s : String) : (trim s).toList = trimChars s.toList := by
  simp [trim]

theorem dropBlanksRight_length_le (s : List Char) : (dropBlanksRight s).length ≤ s.length := by
  have h := (List.dropWhile_sublist isBlank (l := s.reverse)).length_le
  simpa [dropBlanksRight] using h

theorem trimChars_length_le (s : List Char) : (trimChars s).length ≤ s.length :=
  Nat.le_trans (dropBlanksRight_length_le _) (List.dropWhile_sublist isBlank).length_le

end SqlRecord.Text
