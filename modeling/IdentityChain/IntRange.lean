/-!
# Ranges of integers

The integers that fit a word of 32, 64 or 128 bits, with a sign or without.
Membership in a range is decidable: `n ∈ IntRange.signed64`.
-/

namespace IdentityChain

/-- A range of integers, both ends included. -/
structure IntRange where
  least : Int
  greatest : Int
  deriving DecidableEq, Repr

namespace IntRange

instance : Membership Int IntRange := ⟨fun range n => range.least ≤ n ∧ n ≤ range.greatest⟩

theorem mem_iff {range : IntRange} {n : Int} :
    n ∈ range ↔ range.least ≤ n ∧ n ≤ range.greatest := Iff.rfl

instance (range : IntRange) (n : Int) : Decidable (n ∈ range) :=
  inferInstanceAs (Decidable (range.least ≤ n ∧ n ≤ range.greatest))

/-- The integers of 32 bits with a sign. -/
def signed32 : IntRange := ⟨-0x80000000, 0x7fffffff⟩

/-- The integers of 64 bits with a sign. -/
def signed64 : IntRange := ⟨-0x8000000000000000, 0x7fffffffffffffff⟩

/-- The integers of 64 bits without a sign. -/
def unsigned64 : IntRange := ⟨0, 0xffffffffffffffff⟩

/-- The integers of 128 bits with a sign. -/
def signed128 : IntRange :=
  ⟨-0x80000000000000000000000000000000, 0x7fffffffffffffffffffffffffffffff⟩

/-- The integers of 128 bits without a sign. -/
def unsigned128 : IntRange := ⟨0, 0xffffffffffffffffffffffffffffffff⟩

/-- The range of signed 64-bit words is that of `Int64`. -/
theorem toInt_mem_signed64 (n : Int64) : n.toInt ∈ signed64 := by
  have low := n.le_toInt
  have high := n.toInt_lt
  constructor
  · exact low
  · show n.toInt ≤ 0x7fffffffffffffff
    omega

/-- An integer in the range of signed 64-bit words survives as one. -/
theorem toInt_ofInt_of_mem {n : Int} (h : n ∈ signed64) : (Int64.ofInt n).toInt = n := by
  obtain ⟨low, high⟩ := mem_iff.1 h
  have bound : n < 0x8000000000000000 := Int.lt_of_le_of_lt high (by decide)
  exact Int64.toInt_ofInt_of_le low bound

end IntRange

end IdentityChain
