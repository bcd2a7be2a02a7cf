import IdentityChain.IntRange

/-!
# Instants and durations

An instant counts seconds from 1970-01-01T00:00:00Z, with nanoseconds inside
the second. Within a leap second, which repeats the number of the second before
it, the nanoseconds run on from `10 ^ 9`. Instants are representable from
-262143-01-01T00:00:00Z to the last nanosecond of +262142-12-31.
-/

namespace IdentityChain

/-- A point in time. -/
structure Instant where
  seconds : Int
  nanos : Nat
  deriving DecidableEq, Repr

/-- A length of time. -/
structure Duration where
  seconds : Nat
  nanos : Nat
  deriving DecidableEq, Repr

namespace Duration

/-- A number of milliseconds. -/
def ofMillis (ms : Nat) : Duration := ⟨ms / 1000, ms % 1000 * 1000000⟩

/-- The longest duration that can be added to an instant: as many milliseconds as fit 64 bits with a
sign. -/
def longest : Duration := ofMillis IntRange.signed64.greatest.toNat

/-- Whether a duration can be added to an instant at all. -/
def addable (d : Duration) : Bool :=
  decide (d.seconds < longest.seconds ∨ (d.seconds = longest.seconds ∧ d.nanos ≤ longest.nanos))

end Duration

namespace Instant

/-- The number of nanoseconds in a second. -/
def second : Nat := 1000000000

/-- The second of the first representable instant. -/
def firstSecond : Int := -8334601228800

/-- The second of the last representable instant. -/
def lastSecond : Int := 8210266876799

/-- Whether an instant can be represented. -/
def inRange (t : Instant) : Bool := decide (firstSecond ≤ t.seconds ∧ t.seconds ≤ lastSecond)

/-- Whether `t` lies before `u`. -/
def before (t u : Instant) : Bool :=
  decide (t.seconds < u.seconds ∨ (t.seconds = u.seconds ∧ t.nanos < u.nanos))

/-- Whether an instant is in a leap second. -/
def inLeap (t : Instant) : Bool := decide (second ≤ t.nanos)

/-- The instant some nanoseconds after `t`, or before it if the number is negative. From inside a
leap second the sum may stay there or go back before it; where it goes beyond the end, the leap
second is one of the seconds that pass. -/
def plusNanos (t : Instant) (nanos : Int) : Instant :=
  let sum := t.nanos + nanos
  if t.inLeap ∧ second ≤ sum ∧ sum < 2 * second then ⟨t.seconds, sum.toNat⟩
  else
    let elapsed := if t.inLeap ∧ second ≤ sum then sum - second else sum
    ⟨t.seconds + elapsed / second, (elapsed % second).toNat⟩

/-- The instant a duration after `t`, if it is representable. -/
def plus? (t : Instant) (d : Duration) : Option Instant :=
  let sum := t.plusNanos (d.seconds * second + d.nanos : Nat)
  if sum.inRange then some sum else none

/-- The instant some milliseconds after `t`, or before it if the number is negative. -/
def shift (t : Instant) (ms : Int) : Instant := t.plusNanos (ms * 1000000)

end Instant

end IdentityChain
