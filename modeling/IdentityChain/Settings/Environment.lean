import IdentityChain.Settings.Layer
import IdentityChain.Text.Blank
import IdentityChain.Text.Digits

/-!
# Settings in the environment

Variables whose name starts with `AUTH_REGISTRY_`, in any case, are settings;
the rest of the name in small letters is the key. A dot in a key makes a
mapping. A value that reads as a truth value, a number, a quoted text, or a
bracketed list or mapping is that, and so is a bare text without the blanks
around it. A text of which only the front can be read is taken as it stands.
-/

namespace IdentityChain.SettingsEnvironment

/-- What the names of settings start with, in small letters. -/
def mark : String := "auth_registry_"

/-- The key of a variable's name, if it names a setting. -/
def key? (name : String) : Option String :=
  let lower := (String.ofList (Text.trimmed name.toList)).toLower
  if mark.isPrefixOf lower then
    let key := String.ofList (Text.trimmed (lower.toList.drop mark.length))
    if (key.splitOn ".").any (·.isEmpty) then none else some key
  else none

/-- Whether a character may stand around the values inside a text. -/
def isSpace (c : Char) : Bool :=
  c = ' ' || c = '\t' || c = '\n' || c = '\r' || c = '\x0c'

/-- Whether a character ends a bare word. -/
def isSeparator (c : Char) : Bool :=
  c = ',' || c = '[' || c = ']' || c = '\x7b' || c = '\x7d'

/-- Whether a character may stand in a bare key. -/
def isKeyChar (c : Char) : Bool := c.isAlphanum || c = '_' || c = '-'

/-- An integer in decimal digits after an optional sign. -/
def integer? (text : List Char) : Option Int :=
  match text with
  | '-' :: digits => (Text.natural? 10 digits).map fun n => -n
  | '+' :: digits => (Text.natural? 10 digits).map Int.ofNat
  | digits => (Text.natural? 10 digits).map Int.ofNat

/-- The value of a bare text: a double if it has a point, an integer if it fits 64 bits, signed or
unsigned, and the text without the blanks around it otherwise. -/
def bare (text : List Char) : SettingValue :=
  let word := Text.trimmed text
  let float := if word.contains '.' then Binary64.ofText? word else none
  match float with
  | some x => .float x
  | none =>
    match (integer? word).filter fun n => n ∈ IntRange.signed64 ∨ n ∈ IntRange.unsigned64 with
    | some n => .int n
    | none => .text (String.ofList word)

/-- Reads the rest of an escape, after its backslash. -/
def readEscape : Reader Char := do
  match ← Reader.char with
  | '"' => pure '"'
  | '\\' => pure '\\'
  | 'b' => pure '\x08'
  | 'f' => pure '\x0c'
  | 'n' => pure '\n'
  | 'r' => pure '\r'
  | 't' => pure '\t'
  | 'u' => Text.charOfCode? (← Text.hexadecimal 4)
  | 'U' => Text.charOfCode? (← Text.hexadecimal 8)
  | _ => failure

/-- Reads a quoted text after its opening quote, as the characters before the first escape and all
that follow; `fuel` bounds its length. -/
def readQuoted : Nat → Reader (List Char × List Char)
  | 0 => failure
  | fuel + 1 => do
    match ← Reader.char with
    | '"' => pure ([], [])
    | '\\' =>
      let c ← readEscape
      let (front, rest) ← readQuoted fuel
      return ([], c :: front ++ rest)
    | c =>
      guard (c = '\t' ∨ (0x20 ≤ c.toNat ∧ c.toNat ≠ 0x7f))
      let (front, rest) ← readQuoted fuel
      return (c :: front, rest)

/-- The front of a text in at most `bytes` bytes of UTF-8. -/
def takeBytes : Nat → List Char → List Char
  | _, [] => []
  | bytes, c :: rest =>
    if c.utf8Size ≤ bytes then c :: takeBytes (bytes - c.utf8Size) rest else []

/-- Reads a quoted text after its opening quote. If it holds an escape, the characters before the
first one are kept up to as many bytes as they are characters. -/
def readString (fuel : Nat) : Reader String := do
  let (front, rest) ← readQuoted fuel
  let kept := if rest.isEmpty then front else takeBytes front.length front
  return String.ofList (kept ++ rest)

/-- Reads a key and the equals sign after it. -/
def readKey (fuel : Nat) : Reader Unit := do
  Reader.skipWhile isSpace
  if (← Reader.peek?) = some '"' then
    Reader.literal '"'
    let _ ← readString fuel
  else
    guard (!(← Reader.takeWhile isKeyChar).isEmpty)
  Reader.skipWhile isSpace
  Reader.literal '='

mutual

/-- Reads a value, with the space around it; `fuel` bounds the length of what is read. -/
def readValue : Nat → Reader SettingValue
  | 0 => failure
  | fuel + 1 => do
    Reader.skipWhile isSpace
    let value ← match ← get with
      | 't' :: 'r' :: 'u' :: 'e' :: rest =>
        set rest
        pure (.bool true)
      | 'f' :: 'a' :: 'l' :: 's' :: 'e' :: rest =>
        set rest
        pure (.bool false)
      | '"' :: rest =>
        set rest
        pure (.text (← readString fuel))
      | '\'' :: c :: '\'' :: rest =>
        set rest
        pure (.text (String.singleton c))
      | '\'' :: _ => failure
      | '[' :: rest =>
        set rest
        readItems fuel ']' (pure ())
        pure .sequence
      | '\x7b' :: rest =>
        set rest
        readItems fuel '\x7d' (readKey fuel)
        pure .table
      | _ => pure (bare (← Reader.takeWhile fun c => !isSeparator c))
    Reader.skipWhile isSpace
    return value

/-- Reads the values of a list or a mapping, each after what `readFront` reads, up to the closing
bracket. -/
def readItems : Nat → Char → Reader Unit → Reader Unit
  | 0, _, _ => failure
  | fuel + 1, closing, readFront => do
    if (← Reader.peek?) = some closing then Reader.literal closing
    else
      readFront
      let _ ← readValue fuel
      let c ← Reader.char
      if c = ',' then readItems fuel closing readFront else guard (c = closing)

end

/-- The value of a variable. -/
def value (text : String) : SettingValue :=
  ((readValue (text.length + 1)).whole? text.toList).getD (.text text)

/-- A setting under the first part of a key; what is under its later parts makes a mapping. -/
def nested (key : String) (value : SettingValue) : String × SettingValue :=
  match key.splitOn "." with
  | first :: _ :: _ => (first, .table)
  | _ => (key, value)

/-- The layer of the environment's variables. -/
def layer (environment : List (String × String)) : SettingsLayer :=
  Table.ofList (environment.filterMap fun (name, text) =>
    (key? name).map fun key => nested key (value text))

end IdentityChain.SettingsEnvironment
