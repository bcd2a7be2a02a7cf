import IdentityChain.Text.Digits
import IdentityChain.Yaml.Cursor

/-!
# Tags of a YAML text

A tag names the type of a node. It is written whole between angle brackets, or
as a handle between exclamation marks and a suffix, where a directive at the
start of the document gives the text that the handle stands for. Any byte may
be written in it by its two hexadecimal digits.
-/

namespace IdentityChain.Yaml

/-- The text of a tag. In the place of escaped bytes that make no character stands `none`. -/
abbrev TagText := List (Option Char)

namespace TagText

/-- The text of some characters. -/
def ofChars (text : List Char) : TagText := text.map some

/-- The text before a null character, which ends it. -/
def beforeNull (text : TagText) : TagText := text.takeWhile (· ≠ some '\x00')

end TagText

/-- A tag as it is written; without a handle the suffix is all of it. -/
structure Tag where
  handle : List Char
  suffix : TagText
  deriving DecidableEq, Repr

/-- What handles stand for. -/
abbrev Handles := List (List Char × TagText)

namespace Handles

/-- The two handles that need no directive. -/
def standard : Handles :=
  [(['!'], .ofChars ['!']), (['!', '!'], .ofChars "tag:yaml.org,2002:".toList)]

/-- The text of a tag; its handle has to be known. -/
def expand? (handles : Handles) (tag : Tag) : Option TagText :=
  if tag.handle.isEmpty then some tag.suffix
  else (handles.lookup tag.handle).map (· ++ tag.suffix)

end Handles

namespace Scan

/-- Takes a byte in its escaped form: a percent sign and two hexadecimal digits. -/
def escapedByte : Scan Nat := do
  literal '%'
  Text.natural? 16 (← take 2)

/-- Takes bytes that continue a character, and adds their bits to a code. -/
def continuation (code : Nat) : Nat → Scan Nat
  | 0 => pure code
  | n + 1 => do
    let byte ← escapedByte
    guard (0x80 ≤ byte ∧ byte < 0xc0)
    continuation (code * 0x40 + (byte - 0x80)) n

/-- The character of a code that is at least the least one of its number of bytes. -/
def encoded? (least code : Nat) : Option Char :=
  if least ≤ code then Text.charOfCode? code else none

/-- Takes the escaped bytes of a character, the first of which tells how many follow. Bytes of that
form need not make a character. -/
def escapedBytes : Scan (Option Char) := do
  let first ← escapedByte
  if first < 0x80 then return encoded? 0 first
  else if first < 0xc0 then failure
  else if first < 0xe0 then return encoded? 0x80 (← continuation (first - 0xc0) 1)
  else if first < 0xf0 then return encoded? 0x800 (← continuation (first - 0xe0) 2)
  else if first < 0xf8 then return encoded? 0x10000 (← continuation (first - 0xf0) 3)
  else failure

/-- The characters of a tag besides those of names. -/
def tagSigns : List Char :=
  [';', '/', '?', ':', '@', '&', '=', '+', '$', '.', '%', '!', '~', '*', '\'', '(', ')']

/-- Whether a character may stand in a tag. Inside angle brackets that includes some that structure
collections. -/
def isTagChar (bracketed : Bool) (c : Char) : Bool :=
  isNameChar c || tagSigns.contains c || (bracketed && [',', '[', ']'].contains c)

/-- Takes characters of a tag. -/
def tagText (bracketed : Bool) : Nat → Scan TagText
  | 0 => pure []
  | fuel + 1 => do
    match (← peek?).filter (isTagChar bracketed) with
    | none => pure []
    | some c =>
      let c ← if c = '%' then escapedBytes else some <$> char
      return c :: (← tagText bracketed fuel)

/-- Takes the characters of a tag, of which there has to be one. -/
def someTagText (bracketed : Bool) : Scan TagText := do
  let text ← tagText bracketed ((← get).rest.length + 1)
  guard !text.isEmpty
  return text.beforeNull

/-- Takes an exclamation mark, a name, and another exclamation mark if there is one. -/
def handle : Scan (List Char) := do
  literal '!'
  let name ← takeWhile isNameChar
  if ← sees '!' then
    modify Cursor.advance
    return '!' :: name ++ ['!']
  else return '!' :: name

/-- Takes a tag. A gap has to follow it, or a comma inside brackets. -/
def tag (flow : Bool) : Scan Tag := do
  let written ←
    if (← get).rest.take 2 = ['!', '<'] then do
      let _ ← take 2
      let text ← someTagText true
      literal '>'
      pure ⟨[], text⟩
    else do
      let front ← handle
      if 1 < front.length ∧ front.getLast? = some '!' then
        pure ⟨front, ← someTagText false⟩
      else
        let more ← tagText false ((← get).rest.length + 1)
        let suffix := (TagText.ofChars (front.drop 1) ++ more).beforeNull
        pure (if suffix.isEmpty then ⟨[], .ofChars ['!']⟩ else ⟨['!'], suffix⟩)
  let cursor ← get
  guard (cursor.gapAfter 0 || (flow && cursor.rest.head? = some ','))
  return written

end Scan

end IdentityChain.Yaml
