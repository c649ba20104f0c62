/-! # Documents in JSON

A strict reader: one value and nothing behind it, no comments, and numbers as the grammar writes
them. -/

namespace SqlRecord

/-- A value of a document. Numbers keep the characters they were written with. A string that has half
of a surrogate pair has no text. -/
inductive Json
  | null
  | bool (b : Bool)
  | number (literal : List Char)
  | string (text : Option String)
  | array (items : List Json)
  | object (members : List (Option String × Json))
  deriving Inhabited

namespace Json

def skipBlanks : List Char → List Char
  | c :: s => if c = ' ' ∨ c = '\n' ∨ c = '\t' ∨ c = '\r' then skipBlanks s else c :: s
  | [] => []

/-! ## Numbers -/

def readDigits (s : List Char) : Option (List Char × List Char) :=
  match s.takeWhile Char.isDigit with
  | [] => none
  | ds => some (ds, s.dropWhile Char.isDigit)

def readWhole : List Char → Option (List Char × List Char)
  | '0' :: c :: s => if c.isDigit then none else some (['0'], c :: s)
  | s => readDigits s

def readFraction : List Char → Option (List Char × List Char)
  | '.' :: s => (readDigits s).map fun (ds, r) => ('.' :: ds, r)
  | s => some ([], s)

def readSign : List Char → List Char × List Char
  | '+' :: s => (['+'], s)
  | '-' :: s => (['-'], s)
  | s => ([], s)

def readExponent : List Char → Option (List Char × List Char)
  | c :: s =>
    if c = 'e' ∨ c = 'E' then
      let (sign, r) := readSign s
      (readDigits r).map fun (ds, r) => (c :: sign ++ ds, r)
    else some ([], c :: s)
  | [] => some ([], [])

def readNumber (s : List Char) : Option (List Char × List Char) := do
  let (sign, s) := match s with
    | '-' :: r => (['-'], r)
    | r => ([], r)
  let (whole, s) ← readWhole s
  let (fraction, s) ← readFraction s
  let (exponent, s) ← readExponent s
  return (sign ++ whole ++ fraction ++ exponent, s)

/-! ## Strings -/

/-- What stands in a string at one place: a character, or half of a surrogate pair. -/
inductive Unit16
  | char (c : Char)
  | half (n : Nat)

def hexValue (c : Char) : Option Nat :=
  if c.isDigit then some (c.toNat - 48)
  else if 'a' ≤ c ∧ c ≤ 'f' then some (c.toNat - 87)
  else if 'A' ≤ c ∧ c ≤ 'F' then some (c.toNat - 55)
  else none

def readHex4 : List Char → Option (Nat × List Char)
  | a :: b :: c :: d :: s => do
    let n := (← hexValue a) * 4096 + (← hexValue b) * 256 + (← hexValue c) * 16 + (← hexValue d)
    return (n, s)
  | _ => none

def escaped? (c : Char) : Option Char :=
  match c with
  | '"' => some '"'
  | '\\' => some '\\'
  | '/' => some '/'
  | 'b' => some (Char.ofNat 8)
  | 'f' => some (Char.ofNat 12)
  | 'n' => some '\n'
  | 'r' => some '\r'
  | 't' => some '\t'
  | _ => none

def Unit16.ofNat (n : Nat) : Unit16 :=
  if 0xD800 ≤ n ∧ n < 0xE000 then .half n else .char (Char.ofNat n)

def readUnits : Nat → List Char → Option (List Unit16 × List Char)
  | 0, _ => none
  | _, [] => none
  | _, '"' :: s => some ([], s)
  | fuel + 1, '\\' :: 'u' :: s => do
    let (n, s) ← readHex4 s
    let (us, s) ← readUnits fuel s
    return (Unit16.ofNat n :: us, s)
  | fuel + 1, '\\' :: c :: s => do
    let d ← escaped? c
    let (us, s) ← readUnits fuel s
    return (.char d :: us, s)
  | fuel + 1, c :: s =>
    if c = '\\' ∨ c.toNat < 0x20 then none
    else (readUnits fuel s).map fun (us, s) => (.char c :: us, s)

/-- The characters of a string, if every half of a surrogate pair has its other half. -/
def pairUp : List Unit16 → Option (List Char)
  | [] => some []
  | .char c :: us => (pairUp us).map (c :: ·)
  | .half m :: .half n :: us =>
    if m < 0xDC00 ∧ 0xDC00 ≤ n then
      (pairUp us).map (Char.ofNat (0x10000 + (m - 0xD800) * 0x400 + (n - 0xDC00)) :: ·)
    else none
  | .half _ :: _ => none

def readString (s : List Char) : Option (Option String × List Char) :=
  (readUnits (s.length + 1) s).map fun (us, r) => ((pairUp us).map String.ofList, r)

/-! ## Values -/

mutual

def readValue : Nat → List Char → Option (Json × List Char)
  | 0, _ => none
  | fuel + 1, s =>
    match skipBlanks s with
    | 'n' :: 'u' :: 'l' :: 'l' :: r => some (.null, r)
    | 't' :: 'r' :: 'u' :: 'e' :: r => some (.bool true, r)
    | 'f' :: 'a' :: 'l' :: 's' :: 'e' :: r => some (.bool false, r)
    | '"' :: r => (readString r).map fun (t, r) => (.string t, r)
    | '[' :: r =>
      match skipBlanks r with
      | ']' :: r => some (.array [], r)
      | r => (readItems fuel r).map fun (js, r) => (.array js, r)
    | '\x7b' :: r =>
      match skipBlanks r with
      | '\x7d' :: r => some (.object [], r)
      | r => (readMembers fuel r).map fun (ms, r) => (.object ms, r)
    | r => (readNumber r).map fun (n, r) => (.number n, r)

def readItems : Nat → List Char → Option (List Json × List Char)
  | 0, _ => none
  | fuel + 1, s => do
    let (j, s) ← readValue fuel s
    match skipBlanks s with
    | ']' :: r => return ([j], r)
    | ',' :: r => do
      let (js, r) ← readItems fuel r
      return (j :: js, r)
    | _ => none

def readMembers : Nat → List Char → Option (List (Option String × Json) × List Char)
  | 0, _ => none
  | fuel + 1, s =>
    match skipBlanks s with
    | '"' :: r => do
      let (name, r) ← readString r
      match skipBlanks r with
      | ':' :: r => do
        let (j, r) ← readValue fuel r
        match skipBlanks r with
        | '\x7d' :: r => return ([(name, j)], r)
        | ',' :: r => do
          let (ms, r) ← readMembers fuel r
          return ((name, j) :: ms, r)
        | _ => none
      | _ => none
    | _ => none

end

/-- Reads a document. Every call goes on to fewer characters or into the value it has found, so two
steps for each character are enough. -/
def read (s : String) : Option Json :=
  match readValue (2 * s.toList.length + 2) s.toList with
  | some (j, r) => if skipBlanks r = [] then some j else none
  | none => none

end Json

end SqlRecord
