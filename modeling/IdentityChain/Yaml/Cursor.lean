/-!
# Cursors in a YAML text

The characters of a YAML text, and a cursor that walks over them and knows its
line, its column, and how many bytes it has passed. Line breaks of every kind
but two are unified beforehand; the line and paragraph separators stay what
they are.
-/

namespace IdentityChain.Yaml

/-- Whether a character may stand in a text: neither a control nor a non-character. -/
def isAllowed (c : Char) : Bool :=
  let n := c.toNat
  n = 0x9 || n = 0xa || n = 0xd || (0x20 ≤ n && n ≤ 0x7e) || n = 0x85 ||
    (0xa0 ≤ n && n ≤ 0xfffd) || 0x10000 ≤ n

/-- Whether a character ends a line. -/
def isBreak (c : Char) : Bool := c = '\n' || c = '\u2028' || c = '\u2029'

/-- Whether a character is a space or a tab. -/
def isBlank (c : Char) : Bool := c = ' ' || c = '\t'

/-- Whether a character may stand in a name. -/
def isNameChar (c : Char) : Bool := c.isAlphanum || c = '_' || c = '-'

/-- Whether a character structures collections in brackets. -/
def isFlowIndicator (c : Char) : Bool :=
  c = ',' || c = '[' || c = ']' || c = '\x7b' || c = '\x7d'

/-- The text with a line feed for each carriage return, for both together, and for each next-line
character. -/
def unifyBreaks : List Char → List Char
  | [] => []
  | '\r' :: '\n' :: rest => '\n' :: unifyBreaks rest
  | c :: rest => (if c = '\r' || c = '\u0085' then '\n' else c) :: unifyBreaks rest

/-- A place in a text. -/
structure Cursor where
  rest : List Char
  /-- The number of bytes before the place. -/
  index : Nat
  line : Nat
  column : Nat
  deriving DecidableEq, Repr

namespace Cursor

/-- The start of a text. -/
def start (text : List Char) : Cursor := ⟨text, 0, 0, 0⟩

/-- The place after the next character. -/
def advance (cursor : Cursor) : Cursor :=
  match cursor.rest with
  | [] => cursor
  | c :: rest =>
    if isBreak c then ⟨rest, cursor.index + c.utf8Size, cursor.line + 1, 0⟩
    else ⟨rest, cursor.index + c.utf8Size, cursor.line, cursor.column + 1⟩

/-- Whether a blank, a line break or the end follows after `n` characters. -/
def gapAfter (cursor : Cursor) (n : Nat) : Bool :=
  match cursor.rest.drop n with
  | [] => true
  | c :: _ => isBlank c || isBreak c

/-- Whether the cursor stands before a mark between documents. -/
def atDocumentMark (cursor : Cursor) : Bool :=
  cursor.column = 0 && cursor.gapAfter 3 &&
    (cursor.rest.take 3 = ['-', '-', '-'] || cursor.rest.take 3 = ['.', '.', '.'])

end Cursor

/-- Takes a value off a text at a cursor and moves the cursor, or fails. -/
abbrev Scan (α : Type) := StateT Cursor Option α

namespace Scan

/-- The next character, which is left where it is. -/
def peek? : Scan (Option Char) := do return (← get).rest.head?

/-- Whether the next character is a given one. -/
def sees (c : Char) : Scan Bool := do return (← peek?) = some c

/-- Takes the next character. -/
def char : Scan Char := do
  let c ← (← get).rest.head?
  modify Cursor.advance
  return c

/-- Takes the next character, which has to be `expected`. -/
def literal (expected : Char) : Scan Unit := do guard ((← char) = expected)

/-- Takes `n` characters. -/
def take : Nat → Scan (List Char)
  | 0 => pure []
  | n + 1 => do
    let c ← char
    return c :: (← take n)

/-- Takes the characters up to the first that fails the test. -/
def takeWhile (test : Char → Bool) : Scan (List Char) := do
  take ((← get).rest.takeWhile test).length

/-- Skips the characters up to the first that fails the test. -/
def skipWhile (test : Char → Bool) : Scan Unit := do
  let _ ← takeWhile test

/-- Skips a byte order mark at the start of a line. It takes a column. -/
def skipOrderMark : Scan Unit := do
  if (← get).column = 0 && (← sees '\ufeff') then modify Cursor.advance

/-- Skips a comment, if one starts here. -/
def skipComment : Scan Unit := do
  if ← sees '#' then skipWhile fun c => !isBreak c

/-- Skips the rest of a line that holds nothing but blanks and a comment. -/
def endLine : Scan Unit := do
  skipWhile isBlank
  skipComment
  match ← peek? with
  | none => pure ()
  | some c =>
    guard (isBreak c)
    modify Cursor.advance

end Scan

end IdentityChain.Yaml
