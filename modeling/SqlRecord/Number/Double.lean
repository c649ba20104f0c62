import SqlRecord.Number.Decimal
import SqlRecord.Number.Layout

/-! # Floating-point numbers of 64 and 32 bits -/

namespace SqlRecord.Number

structure Double where
  bits : UInt64
  deriving DecidableEq, Repr, Inhabited

structure Single where
  bits : UInt32
  deriving DecidableEq, Repr, Inhabited

namespace Double

def negative (x : Double) : Bool :=
  BinaryFormat.double.signWeight ≤ x.bits.toNat

def code (x : Double) : Nat :=
  x.bits.toNat % BinaryFormat.double.signWeight

def ofCode (negative : Bool) (code : Nat) : Double :=
  ⟨UInt64.ofNat (code + if negative then BinaryFormat.double.signWeight else 0)⟩

def ofInt (n : Int) : Double :=
  ofCode (n < 0) (BinaryFormat.double.nearest ⟨n.natAbs, 1⟩)

def read (s : List Char) : Option Double :=
  (readDecimal s).map fun (negative, d) => ofCode negative (BinaryFormat.double.ofDecimal d)

/-- The text of a number, with `layout` for its digits and `zero` for the digits of zero. -/
def textWith (layout : Digits → List Char) (x : Double) : String :=
  let sign := if x.negative then ['-'] else []
  let f := BinaryFormat.double
  if f.infinity < x.code then "NaN"
  else if x.code = f.infinity then String.ofList (sign ++ ['i', 'n', 'f'])
  else if x.code = 0 then String.ofList (sign ++ layout ⟨['0'], 1⟩)
  else String.ofList (sign ++ layout (f.shortest x.code))

/-- The shortest digits that read back, all places written out. -/
def text (x : Double) : String :=
  x.textWith Digits.plain

/-- The shortest digits that read back, told apart from a whole number. -/
def preciseText (x : Double) : String :=
  x.textWith Digits.precise

end Double

namespace Single

def negative (x : Single) : Bool :=
  BinaryFormat.single.signWeight ≤ x.bits.toNat

def code (x : Single) : Nat :=
  x.bits.toNat % BinaryFormat.single.signWeight

def ofCode (negative : Bool) (code : Nat) : Single :=
  ⟨UInt32.ofNat (code + if negative then BinaryFormat.single.signWeight else 0)⟩

def ofInt (n : Int) : Single :=
  ofCode (n < 0) (BinaryFormat.single.nearest ⟨n.natAbs, 1⟩)

def read (s : List Char) : Option Single :=
  (readDecimal s).map fun (negative, d) => ofCode negative (BinaryFormat.single.ofDecimal d)

end Single

def BinaryFormat.recode (f g : BinaryFormat) (code : Nat) : Nat :=
  if f.infinity < code then g.infinity + g.hidden / 2
  else if code = f.infinity then g.infinity
  else g.nearest (f.ratio code)

def Single.toDouble (x : Single) : Double :=
  .ofCode x.negative (BinaryFormat.single.recode .double x.code)

def Double.toSingle (x : Double) : Single :=
  .ofCode x.negative (BinaryFormat.double.recode .single x.code)

end SqlRecord.Number
