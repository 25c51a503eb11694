/-!
# Points in time

A point in time is a number of seconds from the epoch and a number of nanoseconds after them. A
leap second is the second before it with a thousand million nanoseconds or more.

## Main definitions

* `Instant` — the points in time of the years that a calendar date can have.
-/

set_option autoImplicit false

namespace TypedSql.Calendar

/-- The nanoseconds of a second. -/
def nanosPerSecond : Nat := 1000000000

/-- A point in time. -/
structure Instant where
  /-- The whole seconds from the epoch. -/
  seconds : Int
  /-- The nanoseconds after them. -/
  nanos : Nat
  seconds_least : -8334601228800 ≤ seconds
  seconds_greatest : seconds ≤ 8210266876799
  nanos_lt : nanos < 2 * nanosPerSecond
  deriving DecidableEq, Repr

namespace Instant

/-- The point in time at a number of seconds and nanoseconds, if it is in range. -/
def of? (seconds : Int) (nanos : Nat) : Option Instant :=
  if h : (-8334601228800 ≤ seconds ∧ seconds ≤ 8210266876799) ∧ nanos < 2 * nanosPerSecond then
    some ⟨seconds, nanos, h.1.1, h.1.2, h.2⟩
  else none

/-- The point in time without its fraction of a second. -/
def wholeSeconds (t : Instant) : Instant :=
  ⟨t.seconds, 0, t.seconds_least, t.seconds_greatest, by decide⟩

end Instant

end TypedSql.Calendar
