/-! # Reading bytes as UTF-8 -/

namespace SqlRecord.Text

/-- U+FFFD, which stands for bytes that are no character. -/
def replacement : Char := Char.ofNat 0xFFFD

def isTail (b : UInt8) : Bool :=
  0x80 ≤ b && b ≤ 0xBF

def isLead2 (a : UInt8) : Bool :=
  0xC2 ≤ a && a ≤ 0xDF

def isStart3 (a b : UInt8) : Bool :=
  (a == 0xE0 && 0xA0 ≤ b && b ≤ 0xBF) || (a == 0xED && 0x80 ≤ b && b ≤ 0x9F) ||
    (0xE1 ≤ a && a ≤ 0xEF && a != 0xED && isTail b)

def isStart4 (a b : UInt8) : Bool :=
  (a == 0xF0 && 0x90 ≤ b && b ≤ 0xBF) || (a == 0xF4 && 0x80 ≤ b && b ≤ 0x8F) ||
    (0xF1 ≤ a && a ≤ 0xF3 && isTail b)

/-- The character whose lead byte holds the bits `lead` and whose other bytes are `tails`. -/
def ofTails (lead : Nat) (tails : List UInt8) : Char :=
  Char.ofNat (tails.foldl (fun n b => n * 64 + (b.toNat - 0x80)) lead)

/-- The character that `a` begins before `rest`, and how many bytes of `rest` belong to it. The longest
start of a sequence that is not completed is one replacement character. -/
def readChar (a : UInt8) (rest : List UInt8) : Char × Nat :=
  if a < 0x80 then (Char.ofNat a.toNat, 0)
  else match rest with
    | [] => (replacement, 0)
    | b :: more =>
      if isLead2 a && isTail b then (ofTails (a.toNat - 0xC0) [b], 1)
      else if isStart3 a b then
        match more with
        | c :: _ => if isTail c then (ofTails (a.toNat - 0xE0) [b, c], 2) else (replacement, 1)
        | [] => (replacement, 1)
      else if isStart4 a b then
        match more with
        | c :: d :: _ =>
          if isTail c && isTail d then (ofTails (a.toNat - 0xF0) [b, c, d], 3)
          else (replacement, if isTail c then 2 else 1)
        | [c] => (replacement, if isTail c then 2 else 1)
        | [] => (replacement, 1)
      else (replacement, 0)

/-- Reads bytes as UTF-8, the first `skip` of them belonging to a character already read. -/
def decodeAfter : Nat → List UInt8 → List Char
  | _, [] => []
  | skip + 1, _ :: rest => decodeAfter skip rest
  | 0, a :: rest =>
    let (c, n) := readChar a rest
    c :: decodeAfter n rest

/-- Reads bytes as UTF-8, with a replacement character for each run of bytes that is no character. -/
def decodeUtf8 (bytes : List UInt8) : String :=
  String.ofList (decodeAfter 0 bytes)

end SqlRecord.Text
