import SqlRecord.Value.Basic

/-! # Tokens of statements

Part of the database in memory, which stands in for the database library, so no theorem rests on it. -/

namespace SqlRecord.Database

inductive Token
  /-- A keyword, or a name without quotes. -/
  | word (s : String)
  | name (s : String)
  | text (s : String)
  | blob (bytes : List UInt8)
  | number (digits : List Char)
  | symbol (s : String)
  /-- What begins no token. -/
  | invalid
  deriving DecidableEq, Repr

namespace Token

def isSpace (c : Char) : Bool :=
  c = ' ' || c = '\t' || c = '\n' || c = '\r' || c.toNat = 12

def isWordStart (c : Char) : Bool :=
  c.isAlpha || c = '_' || 0x80 ≤ c.toNat

def isWordPart (c : Char) : Bool :=
  isWordStart c || c.isDigit || c = '$'

/-- What is quoted, behind the opening quote. A quote in it is written twice. -/
def readQuoted (quote : Char) : List Char → Option (List Char × List Char)
  | [] => none
  | [c] => if c = quote then some ([], []) else none
  | c :: d :: s =>
    if c = quote then
      if d = quote then (readQuoted quote s).map fun (q, r) => (quote :: q, r)
      else some ([], d :: s)
    else (readQuoted quote (d :: s)).map fun (q, r) => (c :: q, r)

def hexValue (c : Char) : Option Nat :=
  if c.isDigit then some (c.toNat - 48)
  else if 'a' ≤ c ∧ c ≤ 'f' then some (c.toNat - 87)
  else if 'A' ≤ c ∧ c ≤ 'F' then some (c.toNat - 55)
  else none

def readHex : List Char → Option (List UInt8)
  | [] => some []
  | [_] => none
  | a :: b :: s => do
    let byte := UInt8.ofNat ((← hexValue a) * 16 + (← hexValue b))
    return byte :: (← readHex s)

def readNumber (s : List Char) : List Char × List Char :=
  let whole := s.takeWhile Char.isDigit
  let rest := s.dropWhile Char.isDigit
  let (fraction, rest) := match rest with
    | '.' :: r => ('.' :: r.takeWhile Char.isDigit, r.dropWhile Char.isDigit)
    | r => ([], r)
  let (sign, digits) := match rest.drop 1 with
    | '+' :: r => (['+'], r)
    | '-' :: r => (['-'], r)
    | r => ([], r)
  match rest.head?, digits.takeWhile Char.isDigit with
  | some e, d :: ds =>
    if e = 'e' ∨ e = 'E' then
      (whole ++ fraction ++ e :: sign ++ d :: ds, digits.dropWhile Char.isDigit)
    else (whole ++ fraction, rest)
  | _, _ => (whole ++ fraction, rest)

def isPair (c d : Char) : Bool :=
  [['<', '='], ['>', '='], ['<', '>'], ['!', '='], ['=', '='], ['<', '<'], ['>', '>']].contains
    [c, d]

def isSymbol (c : Char) : Bool :=
  ['=', '<', '>', '&', '|', '(', ')', ',', ';', '.', '*', '-', '+'].contains c

def quotedName (quote : Char) (s : List Char) : Token × List Char :=
  match readQuoted quote s with
  | some (q, r) => (name (String.ofList q), r)
  | none => (invalid, [])

def quotedBytes (s : List Char) : Token × List Char :=
  match s.takeWhile (· ≠ '\''), s.dropWhile (· ≠ '\'') with
  | digits, _ :: r =>
    match readHex digits with
    | some bytes => (blob bytes, r)
    | none => (invalid, r)
  | _, [] => (invalid, [])

/-- A number. No word may follow it at once. -/
def numberToken (s : List Char) : Token × List Char :=
  let (digits, r) := readNumber s
  match r with
  | c :: _ => if isWordStart c then (invalid, r) else (number digits, r)
  | [] => (number digits, r)

def next (c : Char) (s : List Char) : Token × List Char :=
  let d := s.headD ' '
  if c = '\'' then
    match readQuoted '\'' s with
    | some (q, r) => (text (String.ofList q), r)
    | none => (invalid, [])
  else if c = '`' ∨ c = '"' then quotedName c s
  else if c = '[' then
    match s.dropWhile (· ≠ ']') with
    | _ :: r => (name (String.ofList (s.takeWhile (· ≠ ']'))), r)
    | [] => (invalid, [])
  else if (c = 'x' ∨ c = 'X') ∧ d = '\'' then quotedBytes (s.drop 1)
  else if c.isDigit ∨ (c = '.' ∧ d.isDigit) then numberToken (c :: s)
  else if isWordStart c then
    (word (String.ofList (c :: s.takeWhile isWordPart)), s.dropWhile isWordPart)
  else if isPair c d then (symbol (String.ofList [c, d]), s.drop 1)
  else if isSymbol c then (symbol (String.ofList [c]), s)
  else (invalid, s)

def scanUpTo : Nat → List Char → List Token
  | 0, _ => []
  | _, [] => []
  | fuel + 1, c :: s =>
    if isSpace c then scanUpTo fuel s
    else
      let (t, r) := next c s
      t :: scanUpTo fuel r

/-- The tokens of a text. Each takes at least one character. -/
def scan (s : String) : List Token :=
  scanUpTo s.toList.length s.toList

end Token

end SqlRecord.Database
