/-!
# Durations

A span of time counted in nanoseconds, no longer than `2 ^ 64` seconds, and how it is written:
in the largest of seconds, milliseconds, microseconds and nanoseconds of which it holds a whole
one, with the rest as a decimal fraction.
-/

namespace Rehearsal

/-- A span of time in nanoseconds; the seconds of every duration fit in 64 bits. -/
structure Duration where
  nanoseconds : Nat
  bounded : nanoseconds < 18446744073709551616 * 1000000000
  deriving DecidableEq

namespace Duration

instance : LE Duration := ⟨fun a b => a.nanoseconds ≤ b.nanoseconds⟩
instance : LT Duration := ⟨fun a b => a.nanoseconds < b.nanoseconds⟩
instance (a b : Duration) : Decidable (a ≤ b) :=
  inferInstanceAs (Decidable (a.nanoseconds ≤ b.nanoseconds))
instance (a b : Duration) : Decidable (a < b) :=
  inferInstanceAs (Decidable (a.nanoseconds < b.nanoseconds))

/-- No time at all. -/
def zero : Duration := ⟨0, by decide⟩

instance : Inhabited Duration := ⟨zero⟩

/-- So many whole seconds and so many nanoseconds more. -/
def ofParts (seconds : UInt64) (nanos : Fin 1000000000) : Duration :=
  ⟨seconds.toNat * 1000000000 + nanos.val, by have := seconds.toNat_lt; have := nanos.isLt; omega⟩

/-- So many milliseconds. -/
def ofMilliseconds (millis : UInt64) : Duration :=
  ⟨millis.toNat * 1000000, by have := millis.toNat_lt; omega⟩

/-- The whole seconds. -/
def seconds (d : Duration) : Nat := d.nanoseconds / 1000000000

/-- The nanoseconds beyond the whole seconds. -/
def subsecond (d : Duration) : Nat := d.nanoseconds % 1000000000

/-- The shorter of two durations. -/
def min (a b : Duration) : Duration := if a ≤ b then a else b

/-- The nearest whole number of milliseconds that is no shorter. -/
def milliseconds (d : Duration) : Nat := (d.nanoseconds + 999999) / 1000000

/-- The decimal fraction `part / 10 ^ places` after its point, without trailing zeros and without
the point if nothing is left. -/
def fraction (places part : Nat) : String :=
  let digits := Nat.toDigits 10 part
  let padded := List.replicate (places - digits.length) '0' ++ digits
  match (padded.reverse.dropWhile (· == '0')).reverse with
  | [] => ""
  | kept => String.ofList ('.' :: kept)

/-- The text of `n` nanoseconds in a unit that has `10 ^ places` of them. -/
def inUnit (places : Nat) (unit : String) (n : Nat) : String :=
  let size := Nat.pow 10 places
  toString (n / size) ++ fraction places (n % size) ++ unit

/-- The text of a duration, as in `10s`, `2.05s`, `250ms`, `1.001µs`, `0ns`. -/
def text (d : Duration) : String :=
  let n := d.nanoseconds
  if 1000000000 ≤ n then inUnit 9 "s" n
  else if 1000000 ≤ n then inUnit 6 "ms" n
  else if 1000 ≤ n then inUnit 3 "µs" n
  else inUnit 0 "ns" n

end Duration

end Rehearsal
