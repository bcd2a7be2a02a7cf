import IdentityChain.Decimal.Numeral

/-!
# Scaled words

A numeral read in two roundings. Its leading digits, as many as fit a word of
64 bits, make the nearest double, which is then multiplied or divided by a
power of ten. The last bit of the result can differ from that of the double
nearest to the numeral, which `Numeral.toBinary64` is; JSON numbers are read
in this way.
-/

namespace IdentityChain

namespace Binary64

/-- The nearest double to a product. -/
def times (x y : Binary64) : Binary64 := ⟨(Float.ofBits x.bits * Float.ofBits y.bits).toBits⟩

/-- The nearest double to a quotient. -/
def dividedBy (x y : Binary64) : Binary64 := ⟨(Float.ofBits x.bits / Float.ofBits y.bits).toBits⟩

/-- The double with the other sign. -/
def negated (x : Binary64) : Binary64 := ⟨x.bits ^^^ 0x8000000000000000⟩

end Binary64

/-- A word of 64 bits times a power of ten. -/
structure ScaledWord where
  word : Nat
  exponent : Int
  deriving DecidableEq, Repr

namespace ScaledWord

/-- Appends digits to a word up to the first that does not fit, and counts the digits left. -/
def append (word : Nat) : List Char → Nat × Nat
  | [] => (word, 0)
  | c :: rest =>
    let longer := 10 * word + digitsValue [c]
    if (longer : Int) ∈ IntRange.unsigned64 then append longer rest else (word, rest.length + 1)

/-- The leading digits of a numeral. -/
def ofNumeral (numeral : Numeral) : ScaledWord :=
  let fraction := numeral.fraction.getD []
  let (whole, left) := append 0 numeral.whole
  let (word, dropped) := append whole fraction
  ⟨word, numeral.exponent.getD 0 + left - (fraction.length - dropped : Nat)⟩

/-- The greatest power of ten that is a double. -/
def greatestPower : Int := 308

/-- The double it comes to; `none` beyond all doubles. An exponent below the range is made up for
by a first division. -/
def toBinary64? (scaled : ScaledWord) : Option Binary64 :=
  let word := Binary64.ofInt scaled.word
  let power (n : Int) := Binary64.ofDecimal false 1 n
  let result :=
    if 0 ≤ scaled.exponent then
      if scaled.word = 0 then word
      else word.times (power (min scaled.exponent (greatestPower + 1)))
    else if -greatestPower ≤ scaled.exponent then word.dividedBy (power (-scaled.exponent))
    else
      (word.dividedBy (power greatestPower)).dividedBy
        (power (min (-scaled.exponent - greatestPower) greatestPower))
  if result.isFinite then some result else none

end ScaledWord

end IdentityChain
