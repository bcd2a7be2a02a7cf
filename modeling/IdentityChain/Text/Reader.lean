/-!
# Readers

A reader takes a value off the front of a text and leaves the rest, or fails.
`Reader.whole?` is the value of a text that a reader takes to its end.
-/

namespace IdentityChain

/-- Takes a value off the front of a text. -/
abbrev Reader (α : Type) := StateT (List Char) Option α

namespace Reader

variable {α : Type}

/-- The next character, which is left where it is. -/
def peek? : Reader (Option Char) := do return (← get).head?

/-- Takes the next character. -/
def char : Reader Char
  | [] => none
  | c :: rest => some (c, rest)

/-- Takes the next character, which has to be `expected`. -/
def literal (expected : Char) : Reader Unit := do guard ((← char) = expected)

/-- Takes the characters up to the first that fails the test. -/
def takeWhile (test : Char → Bool) : Reader (List Char)
  | text => some (text.takeWhile test, text.dropWhile test)

/-- Drops the characters up to the first that fails the test. -/
def skipWhile (test : Char → Bool) : Reader Unit := modify (·.dropWhile test)

/-- Takes exactly `n` characters. -/
def take (n : Nat) : Reader (List Char)
  | text => if n ≤ text.length then some (text.take n, text.drop n) else none

/-- The value of a text that the reader takes to its end. -/
def whole? (reader : Reader α) (text : List Char) : Option α :=
  match reader.run text with
  | some (value, []) => some value
  | _ => none

end Reader

end IdentityChain
