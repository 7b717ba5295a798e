import Rehearsal.Number.Shortest

/-!
# Floating-point numbers as text

The fewest digits that read back; positional from `0.00001` up to below `10 ^ 16`, with an exponent
outside; always with a point or an exponent, so that the text is no whole number.
-/

namespace Rehearsal.Number

/-- Which decimals are written positionally: those whose point lies in this range. -/
structure Positional where
  lowest : Int
  highest : Int

/-- From five places behind the point to sixteen before it. -/
def positional : Positional := ⟨-4, 16⟩

/-- The exponent, as in `e+16` and `e-7`: always with a sign and never with a leading zero. -/
def exponentText (e : Int) : List Char :=
  'e' :: (if 0 ≤ e then '+' else '-') :: Nat.toDigits 10 e.natAbs

/-- A decimal that is not zero. -/
def Decimal.text (d : Decimal) : List Char :=
  let count : Int := d.digits.length
  if d.point < positional.lowest || positional.highest < d.point then
    match d.digits with
    | [] => []
    | first :: [] => first :: exponentText (d.point - 1)
    | first :: rest => first :: '.' :: rest ++ exponentText (d.point - 1)
  else if d.point ≤ 0 then
    '0' :: '.' :: List.replicate (-d.point).toNat '0' ++ d.digits
  else if count ≤ d.point then
    d.digits ++ List.replicate (d.point - count).toNat '0' ++ ['.', '0']
  else
    d.digits.take d.point.toNat ++ '.' :: d.digits.drop d.point.toNat

/-- Whether the sign bit is set, which tells the two zeros apart. -/
def isNegative (x : Float) : Bool :=
  Nat.pow 2 63 ≤ x.toBits.toNat

/-- The text of a double, as in `1.0`, `-0.0`, `0.00001`, `1.5e+300`, `NaN`, `-inf`. -/
def floatText (x : Float) : List Char :=
  if x.isNaN then ['N', 'a', 'N']
  else
    let magnitude :=
      if x.isInf then ['i', 'n', 'f']
      else if x == 0 then ['0', '.', '0']
      else (shortest x).text
    if isNegative x then '-' :: magnitude else magnitude

end Rehearsal.Number
