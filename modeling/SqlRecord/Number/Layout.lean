import SqlRecord.Number.Shortest

/-! # Laying out digits -/

namespace SqlRecord.Number

def zeros (n : Nat) : List Char :=
  List.replicate n '0'

/-- All places written out, and a point only before a place that is not zero. -/
def Digits.plain (d : Digits) : List Char :=
  if d.point ≤ 0 then ['0', '.'] ++ zeros (-d.point).toNat ++ d.digits
  else
    let n := d.point.toNat
    if d.digits.length ≤ n then d.digits ++ zeros (n - d.digits.length)
    else d.digits.take n ++ '.' :: d.digits.drop n

def Digits.scientific (d : Digits) : List Char :=
  let fraction := match d.digits.drop 1 with
    | [] => []
    | more => '.' :: more
  d.digits.take 1 ++ fraction ++ 'e' :: (toString (d.point - 1)).toList

/-- All places with at least one after the point, from a ten-thousandth up to below ten to the
power 16, and a power of ten elsewhere. -/
def Digits.precise (d : Digits) : List Char :=
  if d.point ≤ -4 ∨ 16 < d.point then d.scientific
  else if (d.digits.length : Int) ≤ d.point then d.plain ++ ['.', '0']
  else d.plain

end SqlRecord.Number
