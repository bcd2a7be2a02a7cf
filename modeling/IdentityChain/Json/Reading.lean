import IdentityChain.Decimal.Scaling
import IdentityChain.Json.Basic
import IdentityChain.Text.Digits

/-!
# Reading JSON

`Json.read?` is the value of a JSON text. A number without fraction and
exponent is an integer if it fits 64 bits, signed or unsigned; negative zero
and every other number is a double. Of two fields with one key the later
counts.
-/

namespace IdentityChain.Json

/-- Whether a character may stand between tokens. -/
def isSpace (c : Char) : Bool := c = ' ' || c = '\t' || c = '\n' || c = '\r'

/-- Whether a numeral is written as JSON wants it: with digits before and after the point and no
zero in front of other digits. -/
def isNumber (numeral : Numeral) : Bool :=
  !numeral.whole.isEmpty && numeral.fraction.all (!·.isEmpty) &&
    (numeral.whole.length = 1 || numeral.whole.head? != some '0')

/-- The value of a numeral with a sign. -/
def ofNumeral? (negative : Bool) (numeral : Numeral) : Option Json :=
  let magnitude : Int := digitsValue numeral.whole
  let n := if negative then -magnitude else magnitude
  let isInteger := numeral.isWhole && !(negative && magnitude = 0) &&
    (n ∈ IntRange.signed64 || n ∈ IntRange.unsigned64)
  if isInteger then some (.int n)
  else (ScaledWord.ofNumeral numeral).toBinary64?.map fun x =>
    .float (if negative then x.negated else x)

/-- Reads a number. -/
def readNumber : Reader Json := do
  let negative := (← Reader.peek?) = some '-'
  if negative then Reader.literal '-'
  let (numeral, rest) := Numeral.scan (← get)
  set rest
  guard (isNumber numeral)
  ofNumeral? negative numeral

/-- Reads the code unit of an escape, after its `u`. The two halves of a character above the first
65,536 follow each other. -/
def readCode : Reader Char := do
  let unit ← Text.hexadecimal 4
  if 0xd800 ≤ unit ∧ unit < 0xdc00 then
    Reader.literal '\\'
    Reader.literal 'u'
    let second ← Text.hexadecimal 4
    guard (0xdc00 ≤ second ∧ second < 0xe000)
    Text.charOfCode? (0x10000 + (unit - 0xd800) * 0x400 + (second - 0xdc00))
  else Text.charOfCode? unit

/-- Reads the rest of an escape, after its backslash. -/
def readEscape : Reader Char := do
  match ← Reader.char with
  | '"' => pure '"'
  | '\\' => pure '\\'
  | '/' => pure '/'
  | 'b' => pure '\x08'
  | 'f' => pure '\x0c'
  | 'n' => pure '\n'
  | 'r' => pure '\r'
  | 't' => pure '\t'
  | 'u' => readCode
  | _ => failure

/-- Reads a string after its opening quote; `fuel` bounds its length. -/
def readString : Nat → Reader (List Char)
  | 0 => failure
  | fuel + 1 => do
    match ← Reader.char with
    | '"' => pure []
    | '\\' =>
      let c ← readEscape
      return c :: (← readString fuel)
    | c =>
      guard (0x20 ≤ c.toNat)
      return c :: (← readString fuel)

/-- Reads a given word. -/
def readWord (word : String) (value : Json) : Reader Json := do
  word.toList.forM Reader.literal
  return value

mutual

/-- Reads a value, with the space around it; `fuel` bounds the length of what is read. -/
def readValue : Nat → Reader Json
  | 0 => failure
  | fuel + 1 => do
    Reader.skipWhile isSpace
    let value ← match ← Reader.peek? with
      | some 'n' => readWord "null" .null
      | some 't' => readWord "true" (.bool true)
      | some 'f' => readWord "false" (.bool false)
      | some '"' =>
        Reader.literal '"'
        pure (.str (String.ofList (← readString fuel)))
      | some '[' =>
        Reader.literal '['
        Reader.skipWhile isSpace
        if (← Reader.peek?) = some ']' then
          Reader.literal ']'
          pure (.arr [])
        else pure (.arr (← readElements fuel))
      | some '\x7b' =>
        Reader.literal '\x7b'
        Reader.skipWhile isSpace
        if (← Reader.peek?) = some '\x7d' then
          Reader.literal '\x7d'
          pure (.obj [])
        else pure (.ofFields (← readFields fuel))
      | _ => readNumber
    Reader.skipWhile isSpace
    return value

/-- Reads the elements of an array up to its closing bracket. -/
def readElements : Nat → Reader (List Json)
  | 0 => failure
  | fuel + 1 => do
    let value ← readValue fuel
    match ← Reader.char with
    | ']' => pure [value]
    | ',' => return value :: (← readElements fuel)
    | _ => failure

/-- Reads the fields of an object up to its closing brace. -/
def readFields : Nat → Reader (List (String × Json))
  | 0 => failure
  | fuel + 1 => do
    Reader.skipWhile isSpace
    Reader.literal '"'
    let key ← readString fuel
    Reader.skipWhile isSpace
    Reader.literal ':'
    let value ← readValue fuel
    match ← Reader.char with
    | '\x7d' => pure [(String.ofList key, value)]
    | ',' => return (String.ofList key, value) :: (← readFields fuel)
    | _ => failure

end

/-- The value of a JSON text. -/
def read? (text : String) : Option Json :=
  (readValue (text.length + 1)).whole? text.toList

end IdentityChain.Json
