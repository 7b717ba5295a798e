import Rehearsal.Duration

/-!
# The clock of a run

A run has a clock of its own that counts milliseconds and moves only when nobody can go on. Bounds
that are not whole milliseconds are rounded up. A machine can count only so far, and how far from
the start of a run differs from machine to machine and from run to run.
-/

namespace Rehearsal

/-- The clock of a machine. -/
class Clock where
  /-- The nanoseconds from the start of a run to the first moment that the clock cannot count. -/
  span : Nat

/-- A clock whose seconds are kept in 63 bits, one second after it was set going. -/
@[reducible] def Clock.usual : Clock := ⟨9223372036854775807 * 1000000000⟩

/-- Thirty years, the stand-in for bounds that reach beyond what the clock can count. -/
def Duration.thirtyYears : Duration := .ofMilliseconds 946080000000

/-- A moment of a run, in milliseconds since its clock started. -/
abbrev Tick := Nat

namespace Tick

/-- Thirty years as the clock counts them. -/
def farFuture : Nat := 86400 * 365 * 30 * 1000

/-- When a sleep that begins now is over. None lasts longer than thirty years. -/
def wakes (now : Tick) (millis : Nat) : Tick := now + min millis farFuture

section
variable [Clock]

/-- Whether the clock can count up to a bound from a moment on. -/
def reaches (now : Tick) (bound : Duration) : Bool :=
  now * 1000000 + bound.nanoseconds < Clock.span

/-- The moment at which a bound that starts now has passed, if the clock can count it. -/
def checkedAdd (now : Tick) (bound : Duration) : Option Tick :=
  if now.reaches bound then some (now + bound.milliseconds) else none

/-- The deadline that a bound sets which starts now: the moment at which it has passed, or thirty
years from now if the clock cannot count it. The thirty years are added in any case, and where the
clock cannot count them the sum overflows and there is no deadline. -/
def after? (now : Tick) (bound : Duration) : Option Tick := do
  let standIn ← now.checkedAdd .thirtyYears
  return (now.checkedAdd bound).getD standIn

/-- The deadline that a bound sets which starts now, on a clock that can count thirty years more. -/
def after (now : Tick) (bound : Duration) : Tick :=
  if now.reaches bound then now + bound.milliseconds else now + farFuture

end

end Tick

end Rehearsal
