import SqlRecord.Value.Basic

/-! # Literals in statements -/

namespace SqlRecord.Literal

def nullWord : String := "null"

def doubleQuotes : List Char → List Char
  | [] => []
  | c :: s => if c = '\'' then '\'' :: '\'' :: doubleQuotes s else c :: doubleQuotes s

def quoteText (s : String) : String :=
  String.ofList ('\'' :: doubleQuotes s.toList ++ ['\''])

/-- The digit of a half byte, a capital letter from ten on. -/
def hexDigit (n : Nat) : Char :=
  if n < 10 then Char.ofNat (48 + n) else Char.ofNat (55 + n)

def hexByte (b : UInt8) : List Char :=
  [hexDigit (b.toNat / 16), hexDigit (b.toNat % 16)]

def quoteBytes (bytes : List UInt8) : String :=
  String.ofList ('X' :: '\'' :: bytes.flatMap hexByte ++ ['\''])

/-- A value as a literal. Null has none of its own. -/
def quote? : Value → Option String
  | .null => none
  | .text s => some (quoteText s)
  | .blob bytes => some (quoteBytes bytes)
  | .bool b => some ("'" ++ (if b then "true" else "false") ++ "'")
  | .int n => some ("'" ++ toString n.toInt ++ "'")
  | .real x => some ("'" ++ x.text ++ "'")

def quote (v : Value) : String :=
  (quote? v).getD nullWord

def quoteAll (vs : List Value) : List String :=
  vs.map quote

end SqlRecord.Literal
