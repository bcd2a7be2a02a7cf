/-!
# Doubles

A double is kept by its 64-bit pattern, so that two doubles can be told apart
and compared exactly. Its magnitude is `significand · 2 ^ power`, read off the
fields of the pattern.
-/

namespace IdentityChain

/-- A double by its bit pattern. -/
structure Binary64 where
  bits : UInt64
  deriving DecidableEq

namespace Binary64

/-- Whether the sign bit is set. -/
def negative (x : Binary64) : Bool := decide (Nat.pow 2 63 ≤ x.bits.toNat)

/-- The exponent field, biased. -/
def biasedExponent (x : Binary64) : Nat := x.bits.toNat / Nat.pow 2 52 % Nat.pow 2 11

/-- Whether it is a number; the greatest exponent field marks infinities and undefined results. -/
def isFinite (x : Binary64) : Bool := x.biasedExponent != 2047

/-- The fraction field. -/
def fraction (x : Binary64) : Nat := x.bits.toNat % Nat.pow 2 52

/-- The integer `m` of the magnitude `m · 2 ^ q`; a hidden bit joins the fraction unless the
exponent field is zero. -/
def significand (x : Binary64) : Nat :=
  if x.biasedExponent = 0 then x.fraction else Nat.pow 2 52 + x.fraction

/-- The exponent `q` of the magnitude `m · 2 ^ q`. -/
def power (x : Binary64) : Int :=
  if x.biasedExponent = 0 then -1074 else (x.biasedExponent : Int) - 1075

/-- The zero without a sign. -/
def zero : Binary64 := ⟨0⟩

/-- The infinity of a sign. -/
def infinity (negative : Bool) : Binary64 :=
  ⟨if negative then 0xfff0000000000000 else 0x7ff0000000000000⟩

/-- The undefined result. -/
def undefined : Binary64 := ⟨0x7ff8000000000000⟩

/-- The double nearest to `digits · 10 ^ exponent`, with a sign. -/
def ofDecimal (negative : Bool) (digits : Nat) (exponent : Int) : Binary64 :=
  let magnitude := Float.ofScientific digits (decide (exponent < 0)) exponent.natAbs
  ⟨(if negative then -magnitude else magnitude).toBits⟩

/-- The double nearest to an integer. -/
def ofInt (n : Int) : Binary64 := ofDecimal (decide (n < 0)) n.natAbs 0

end Binary64

end IdentityChain
