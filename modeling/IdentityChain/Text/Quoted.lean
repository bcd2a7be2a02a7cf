import IdentityChain.Text.Invisible

/-!
# Quoted texts

A text between double quotes, as diagnostic messages show it. Quotes,
backslashes and the common controls are written with a backslash, invisible
characters by code point, and every other character as it is.
-/

namespace IdentityChain.Text

/-- How one character stands inside a quoted text. -/
def quotedChar (c : Char) : List Char :=
  match c with
  | '"' => ['\\', '"']
  | '\\' => ['\\', '\\']
  | '\t' => ['\\', 't']
  | '\n' => ['\\', 'n']
  | '\r' => ['\\', 'r']
  | '\x00' => ['\\', '0']
  | c =>
    if isInvisible c then ['\\', 'u', '\x7b'] ++ Nat.toDigits 16 c.toNat ++ ['\x7d'] else [c]

/-- The text between quotes. -/
def quoted (s : String) : String :=
  String.ofList ('"' :: s.toList.flatMap quotedChar ++ ['"'])

/-- The elements of a list, separated by a comma and a space. -/
def commaSeparated (parts : List String) : String := String.intercalate ", " parts

/-- A list in brackets. -/
def bracketed (parts : List String) : String := "[" ++ commaSeparated parts ++ "]"

end IdentityChain.Text
