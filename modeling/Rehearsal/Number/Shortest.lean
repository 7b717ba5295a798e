/-!
# The shortest decimal that reads back

A finite double is `m * 2 ^ q`. Every real nearer to it than to its neighbours reads back as it,
and so do the two ends of that interval when `m` is even. `digits` looks for the coarsest decimal
grid with a point in the interval and takes the point nearest to the double, all in whole numbers.
-/

namespace Rehearsal.Number

/-- The magnitude of a finite double, `significand * 2 ^ exponent`. -/
structure Dyadic where
  significand : Nat
  exponent : Int

/-- The bit that leads every significand but the smallest ones and is not written down. -/
def leadingBit : Nat := Nat.pow 2 52

/-- The magnitude that the bits of a finite double stand for. -/
def Dyadic.ofBits (bits : UInt64) : Dyadic :=
  let mantissa := bits.toNat % leadingBit
  let exponent : Nat := bits.toNat / leadingBit % 2048
  if exponent = 0 then ⟨mantissa, -1074⟩ else ⟨leadingBit + mantissa, (exponent : Int) - 1075⟩

/-- The reals that read back as one double: from `low / unit` to `high / unit` around
`middle / unit`, with the ends if `closed`. -/
structure Interval where
  low : Nat
  middle : Nat
  high : Nat
  unit : Nat
  closed : Bool

/-- The interval of a double. Below a power of two the neighbour is half as far away. -/
def Dyadic.interval (d : Dyadic) : Interval :=
  let down := if d.significand = leadingBit && d.exponent ≠ -1074 then 1 else 2
  let scale := Nat.pow 2 (d.exponent - 2).toNat
  { low := (4 * d.significand - down) * scale
    middle := 4 * d.significand * scale
    high := (4 * d.significand + 2) * scale
    unit := Nat.pow 2 (2 - d.exponent).toNat
    closed := d.significand % 2 = 0 }

/-- Whether `a / b` lies in the interval. -/
def Interval.contains (i : Interval) (a b : Nat) : Bool :=
  let x := a * i.unit
  if i.closed then i.low * b ≤ x && x ≤ i.high * b else i.low * b < x && x < i.high * b

/-- Decimal digits with the place of the point: `0.d₁d₂… * 10 ^ point`. -/
structure Decimal where
  digits : List Char
  point : Int
  deriving DecidableEq

/-- For a middle below one: how many zeros follow its point. No double has 400 of them. -/
def Interval.zeros (i : Interval) : Nat :=
  ((List.range 400).find? fun p => i.unit ≤ i.middle * Nat.pow 10 (p + 1)).getD 400

/-- The least `p` with `middle / unit < 10 ^ p`, where the middle is not zero. -/
def Interval.point (i : Interval) : Int :=
  if i.unit ≤ i.middle then ((Nat.toDigits 10 (i.middle / i.unit)).length : Int)
  else -(i.zeros : Int)

/-- The best point of the grid of spacing `10 ^ spacing` in the interval: of the two that enclose
the middle the nearer one, and of two equally near the even one. -/
def Interval.nearest? (i : Interval) (spacing : Int) : Option Nat :=
  let up := Nat.pow 10 spacing.toNat
  let down := Nat.pow 10 (-spacing).toNat
  let below := i.middle * down / (i.unit * up)
  let above := below + 1
  let inside := fun n => i.contains (n * up) down
  let twice := 2 * (i.middle * down)
  let both := (below + above) * (i.unit * up)
  match inside below, inside above with
  | false, false => none
  | true, false => some below
  | false, true => some above
  | true, true =>
    if twice < both || (twice == both && below % 2 == 0) then some below else some above

/-- The digits of a decimal without the zeros at its end. -/
def significant (cs : List Char) : List Char :=
  (cs.reverse.dropWhile (· == '0')).reverse

/-- The fewest digits that read back, and of those the nearest. Seventeen always suffice. -/
def Interval.decimal (i : Interval) : Decimal :=
  let point := i.point
  let found := (List.range 18).findSome? fun (n : Nat) =>
    (i.nearest? (point - (n : Int))).map fun k => (Nat.toDigits 10 k, n)
  match found with
  | some (cs, n) => ⟨significant cs, point + cs.length - n⟩
  | none => ⟨[], point⟩

/-- The shortest decimal of the magnitude of a finite double. -/
def shortest (x : Float) : Decimal :=
  (Dyadic.ofBits x.toBits).interval.decimal

end Rehearsal.Number
