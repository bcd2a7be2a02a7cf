import IdentityChain.Text.Reader

/-!
# Digits

Natural numbers in a base up to 16, and characters by their hexadecimal code.
-/

namespace IdentityChain.Text

/-- The value of a digit, in small or capital letters above nine. -/
def digit? (base : Nat) (c : Char) : Option Nat :=
  let value :=
    if c.isDigit then c.toNat - '0'.toNat
    else if 'a' ≤ c ∧ c ≤ 'f' then c.toNat - 'a'.toNat + 10
    else if 'A' ≤ c ∧ c ≤ 'F' then c.toNat - 'A'.toNat + 10
    else base
  if value < base then some value else none

/-- The value of a text that is nothing but digits, and has at least one. -/
def natural? (base : Nat) (digits : List Char) : Option Nat :=
  if digits.isEmpty then none
  else digits.foldlM (fun n c => (digit? base c).map (base * n + ·)) 0

/-- The character of a code point. -/
def charOfCode? (code : Nat) : Option Char :=
  if code.isValidChar then some (Char.ofNat code) else none

/-- Reads the code of `places` hexadecimal digits. -/
def hexadecimal (places : Nat) : Reader Nat := do
  natural? 16 (← Reader.take places)

end IdentityChain.Text
