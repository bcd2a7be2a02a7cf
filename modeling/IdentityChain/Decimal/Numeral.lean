import IdentityChain.Decimal.Binary64
import IdentityChain.IntRange

/-!
# Decimal numerals

Digits with an optional fraction and an optional exponent, as they stand in a
text. `Numeral.scan` takes the longest numeral off the front of a text, and
`Numeral.toBinary64` is the double nearest to it.
-/

namespace IdentityChain

/-- The value of decimal digits. -/
def digitsValue (digits : List Char) : Nat :=
  digits.foldl (fun n c => 10 * n + (c.toNat - '0'.toNat)) 0

/-- A numeral without its sign. -/
structure Numeral where
  whole : List Char
  /-- The digits after the point, if there is one. -/
  fraction : Option (List Char)
  exponent : Option Int
  deriving DecidableEq, Repr

namespace Numeral

/-- The exponent after a mark, and what follows it; there has to be a digit. -/
def exponent? : List Char → Option (Int × List Char)
  | mark :: text =>
    if mark = 'e' ∨ mark = 'E' then
      let (negative, unsigned) := match text with
        | '-' :: rest => (true, rest)
        | '+' :: rest => (false, rest)
        | _ => (false, text)
      let digits := unsigned.takeWhile Char.isDigit
      if digits.isEmpty then none
      else
        let n : Int := digitsValue digits
        some (if negative then -n else n, unsigned.dropWhile Char.isDigit)
    else none
  | [] => none

/-- Takes the longest numeral off the front of a text. -/
def scan (text : List Char) : Numeral × List Char :=
  let whole := text.takeWhile Char.isDigit
  let afterWhole := text.dropWhile Char.isDigit
  let (fraction, afterFraction) := match afterWhole with
    | '.' :: rest => (some (rest.takeWhile Char.isDigit), rest.dropWhile Char.isDigit)
    | _ => (none, afterWhole)
  match exponent? afterFraction with
  | some (n, rest) => (⟨whole, fraction, some n⟩, rest)
  | none => (⟨whole, fraction, none⟩, afterFraction)

/-- Whether a digit stands before or after the point. -/
def hasDigit (numeral : Numeral) : Bool :=
  !numeral.whole.isEmpty || !(numeral.fraction.getD []).isEmpty

/-- Whether it has neither a fraction nor an exponent. -/
def isWhole (numeral : Numeral) : Bool := numeral.fraction.isNone && numeral.exponent.isNone

/-- The nearest double, with a sign. -/
def toBinary64 (negative : Bool) (numeral : Numeral) : Binary64 :=
  let fraction := numeral.fraction.getD []
  .ofDecimal negative (digitsValue (numeral.whole ++ fraction))
    (numeral.exponent.getD 0 - fraction.length)

end Numeral

/-- The double of a text that is nothing but a numeral, possibly after a sign. -/
def Binary64.ofText? (text : List Char) : Option Binary64 :=
  let (negative, unsigned) := match text with
    | '-' :: rest => (true, rest)
    | '+' :: rest => (false, rest)
    | _ => (false, text)
  match Numeral.scan unsigned with
  | (numeral, []) => if numeral.hasDigit then some (numeral.toBinary64 negative) else none
  | _ => none

end IdentityChain
