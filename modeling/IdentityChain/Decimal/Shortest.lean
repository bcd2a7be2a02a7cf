import IdentityChain.Decimal.Binary64

/-!
# Shortest decimals

The fewest decimal digits that read back to a given double. The reals that
round to the double form an interval around its magnitude. On each decimal
grid, from one significant digit upward, the two neighbours of the magnitude
are tested against that interval in exact arithmetic. The first grid with a hit
gives the digits; of two hits the nearer one is taken, and of two equally near
the one that the format's `TieRule` says.
-/

namespace IdentityChain

/-- The number `digits · 10 ^ exponent`. -/
structure Decimal where
  digits : Nat
  exponent : Int
  deriving DecidableEq, Repr

namespace Decimal

/-- The text of the digits, most significant first. -/
def text (d : Decimal) : List Char := Nat.toDigits 10 d.digits

/-- The exponent of the leading digit. -/
def leading (d : Decimal) : Int := d.text.length - 1 + d.exponent

/-- Moves trailing zeros of the digits into the exponent, at most `fuel` of them. -/
def trim : Nat → Decimal → Decimal
  | 0, d => d
  | fuel + 1, d =>
    if d.digits % 10 = 0 ∧ d.digits ≠ 0 then trim fuel ⟨d.digits / 10, d.exponent + 1⟩ else d

end Decimal

/-- Which of two equally near decimals is taken. -/
inductive TieRule where
  /-- The one with an even last digit. -/
  | toEven
  /-- The greater one. -/
  | up
  deriving DecidableEq, Repr

/-- Whether the lower of two equally near neighbours is taken. -/
def TieRule.takesLower (tie : TieRule) (lower : Nat) : Bool :=
  match tie with
  | .toEven => lower % 2 == 0
  | .up => false

/-- The reals that round to a double: from `low` to `high` around `value`, all over `den`, with the
ends included or not. -/
structure RoundingInterval where
  low : Nat
  value : Nat
  high : Nat
  den : Nat
  closed : Bool

namespace RoundingInterval

/-- The interval of a double. The gap below a power of two is half the gap above it, and the ends
round to the double when its significand is even. -/
def ofBinary64 (x : Binary64) : RoundingInterval :=
  let m := x.significand
  let up := Nat.pow 2 (x.power - 2).toNat
  let narrow := x.fraction = 0 ∧ 1 < x.biasedExponent
  { low := (if narrow then 4 * m - 1 else 4 * m - 2) * up
    value := 4 * m * up
    high := (4 * m + 2) * up
    den := Nat.pow 2 (2 - x.power).toNat
    closed := m % 2 == 0 }

/-- Whether a decimal lies in the interval. -/
def contains (i : RoundingInterval) (d : Decimal) : Bool :=
  let point := d.digits * Nat.pow 10 d.exponent.toNat * i.den
  let scale := Nat.pow 10 (-d.exponent).toNat
  if i.closed then decide (i.low * scale ≤ point ∧ point ≤ i.high * scale)
  else decide (i.low * scale < point ∧ point < i.high * scale)

/-- The number of factors ten that bring a magnitude below one up to at least one, at most
`fuel`. -/
def tens : Nat → Nat → Nat → Nat
  | 0, _, _ => 0
  | fuel + 1, num, den => if den ≤ num then 0 else tens fuel (10 * num) den + 1

/-- The exponent of the magnitude's leading decimal digit. -/
def leading (i : RoundingInterval) : Int :=
  if i.den ≤ i.value then (Nat.toDigits 10 (i.value / i.den)).length - 1
  else -(tens 400 i.value i.den : Int)

/-- The neighbour of the magnitude on the grid of `places` significant digits that reads back, the
nearer one of two. -/
def onGrid? (i : RoundingInterval) (tie : TieRule) (places : Nat) : Option Decimal :=
  let step : Int := i.leading - (places - 1)
  let num := i.value * Nat.pow 10 (-step).toNat
  let den := i.den * Nat.pow 10 step.toNat
  let below := num / den
  match i.contains ⟨below, step⟩, i.contains ⟨below + 1, step⟩ with
  | true, true =>
    let twice := 2 * (num % den)
    some ⟨if twice < den ∨ (twice = den ∧ tie.takesLower below) then below else below + 1, step⟩
  | true, false => some ⟨below, step⟩
  | false, true => some ⟨below + 1, step⟩
  | false, false => none

end RoundingInterval

/-- The shortest decimal that reads back to the magnitude of `x`. -/
def Binary64.shortest (x : Binary64) (tie : TieRule) : Decimal :=
  if x.significand = 0 then ⟨0, 0⟩
  else
    let i := RoundingInterval.ofBinary64 x
    let found := (List.range 17).findSome? fun n => i.onGrid? tie (n + 1)
    (found.getD ⟨i.value / i.den, 0⟩).trim 17

end IdentityChain
