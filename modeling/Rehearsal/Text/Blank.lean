/-!
# White space

The characters of Unicode's `White_Space` property, and trimming a text of them at both ends.
-/

namespace Rehearsal.Text

/-- The 25 characters of the property `White_Space`. -/
def isBlank (c : Char) : Bool :=
  let n := c.toNat
  (0x9 ≤ n && n ≤ 0xd) || n == 0x20 || n == 0x85 || n == 0xa0 || n == 0x1680 ||
    (0x2000 ≤ n && n ≤ 0x200a) || n == 0x2028 || n == 0x2029 || n == 0x202f || n == 0x205f ||
    n == 0x3000

/-- Without the blanks at the end. -/
def trimRight (cs : List Char) : List Char :=
  (cs.reverse.dropWhile isBlank).reverse

/-- Without the blanks at both ends; blanks inside stay. -/
def trim (cs : List Char) : List Char :=
  trimRight (cs.dropWhile isBlank)

end Rehearsal.Text
