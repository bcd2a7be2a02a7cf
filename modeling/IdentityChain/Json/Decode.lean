import IdentityChain.Json.Compact
import IdentityChain.Text.Quoted
import IdentityChain.Table.Basic
import IdentityChain.Time.Reading

/-!
# Decoding JSON

A `Decoder α` turns a JSON value into an `α` or says why it cannot. The refusals
are the constructors of `DecodeError`; `DecodeError.message` gives their text.
A decoder of a list or a table refuses with the first refusal of its elements,
in order.
-/

namespace IdentityChain

/-- What a decoder wants to see. -/
inductive Expected where
  | string
  | boolean
  | int32
  | int64
  | word64
  | sequence
  | table
  | unit
  | variant
  | time
  | record (name : String)
  | elements (record : String) (fields : Nat)
  | tuple (size : Nat)
  deriving DecidableEq, Repr

/-- The text of what a decoder wants. -/
def Expected.text : Expected → String
  | .string => "a string"
  | .boolean => "a boolean"
  | .int32 => "i32"
  | .int64 => "i64"
  | .word64 => "u64"
  | .sequence => "a sequence"
  | .table => "a map"
  | .unit => "unit"
  | .variant => "string or map"
  | .time => "an RFC 3339 formatted date and time string"
  | .record name => "struct " ++ name
  | .elements name fields => "struct " ++ name ++ " with " ++ toString fields ++ " elements"
  | .tuple size => "a tuple of size " ++ toString size

/-- Why a JSON value was refused. -/
inductive DecodeError where
  /-- The value is of another type. -/
  | wrongType (found : Json) (expected : Expected)
  /-- The integer does not fit. -/
  | outOfRange (found : Int) (expected : Expected)
  /-- A required field is absent. -/
  | missingField (name : String)
  /-- A strict record does not have this field. -/
  | unknownField (name : String) (known : List String)
  /-- An enumeration does not have this variant. -/
  | unknownVariant (name : String) (known : List String)
  /-- An object that should name a variant does not have exactly one key. -/
  | notOneKey
  /-- An array is too short for what it should hold. -/
  | tooShort (length : Nat) (expected : Expected)
  /-- An array is too long for what it should hold. -/
  | tooLong (length : Nat)
  /-- A string is not a time. -/
  | notTime (cause : TimeError)
  deriving DecidableEq

namespace DecodeError

/-- A value in the words of a refusal. -/
def foundText : Json → String
  | .null => "null"
  | .bool b => "boolean `" ++ (if b then "true" else "false") ++ "`"
  | .int n => "integer `" ++ toString n ++ "`"
  | .float x => "floating point `" ++ Json.floatLayout.render x ++ "`"
  | .str s => "string " ++ Text.quoted s
  | .arr _ => "sequence"
  | .obj _ => "map"

/-- The names that were possible. -/
def oneOf (names : List String) : String :=
  match names.map fun name => "`" ++ name ++ "`" with
  | [only] => only
  | [first, second] => first ++ " or " ++ second
  | many => "one of " ++ Text.commaSeparated many

/-- The text of a refusal. -/
def message : DecodeError → String
  | .wrongType found expected =>
    "invalid type: " ++ foundText found ++ ", expected " ++ expected.text
  | .outOfRange found expected =>
    "invalid value: integer `" ++ toString found ++ "`, expected " ++ expected.text
  | .missingField name => "missing field `" ++ name ++ "`"
  | .unknownField name known => "unknown field `" ++ name ++ "`, expected " ++ oneOf known
  | .unknownVariant name known => "unknown variant `" ++ name ++ "`, expected " ++ oneOf known
  | .notOneKey => "invalid value: map, expected map with a single key"
  | .tooShort length expected =>
    "invalid length " ++ toString length ++ ", expected " ++ expected.text
  | .tooLong length =>
    "invalid length " ++ toString length ++ ", expected fewer elements in array"
  | .notTime cause => cause.message

end DecodeError

/-- Turns a JSON value into an `α`. -/
abbrev Decoder (α : Type) := Json → Except DecodeError α

namespace Decoder

/-- Any value. -/
def any : Decoder Json := .ok

/-- A string. -/
def string : Decoder String
  | .str s => .ok s
  | found => .error (.wrongType found .string)

/-- A truth value. -/
def boolean : Decoder Bool
  | .bool b => .ok b
  | found => .error (.wrongType found .boolean)

/-- An integer in a range. A double is never an integer. -/
def integer (expected : Expected) (range : IntRange) : Decoder Int
  | .int n => if n ∈ range then .ok n else .error (.outOfRange n expected)
  | found => .error (.wrongType found expected)

/-- A signed integer of 64 bits. -/
def int64 : Decoder Int64 := fun value =>
  (integer .int64 .signed64 value).map Int64.ofInt

/-- A signed integer of 32 bits. -/
def int32 : Decoder Int := integer .int32 .signed32

/-- An unsigned integer of 64 bits. -/
def word64 : Decoder Nat := fun value => (integer .word64 .unsigned64 value).map Int.toNat

/-- A value that may be null. -/
def nullable {α : Type} (decode : Decoder α) : Decoder (Option α)
  | .null => .ok none
  | value => (decode value).map some

/-- A list of values. -/
def list {α : Type} (decode : Decoder α) : Decoder (List α)
  | .arr elements => elements.mapM decode
  | found => .error (.wrongType found .sequence)

/-- A list of fields decoded in their order. -/
def fields {α : Type} (decode : Decoder α) (entries : List (String × Json)) :
    Except DecodeError (List (String × α)) :=
  entries.mapM fun (key, value) => (decode value).map (key, ·)

/-- A table of values. -/
def table {α : Type} (decode : Decoder α) : Decoder (Table α)
  | .obj entries => (fields decode entries).map Table.ofList
  | found => .error (.wrongType found .table)

/-- Two values, as an array. -/
def pair {α β : Type} (first : Decoder α) (second : Decoder β) : Decoder (α × β)
  | .arr [] => .error (.tooShort 0 (.tuple 2))
  | .arr [value] => do
    let _ ← first value
    throw (.tooShort 1 (.tuple 2))
  | .arr (value :: other :: rest) => do
    let a ← first value
    let b ← second other
    if rest.isEmpty then pure (a, b) else throw (.tooLong (rest.length + 2))
  | found => .error (.wrongType found (.tuple 2))

/-- A written time. -/
def time : Decoder Instant
  | .str s => (Instant.read s).mapError .notTime
  | found => .error (.wrongType found .time)

/-- A variant by its name. -/
def variantNamed {α : Type} (cases : List (String × α)) (name : String) : Except DecodeError α :=
  match cases.lookup name with
  | some case => .ok case
  | none => .error (.unknownVariant name (cases.map (·.1)))

/-- A variant of an enumeration: its name, or an object whose only key is the name and holds
null. -/
def variant {α : Type} (cases : List (String × α)) : Decoder α
  | .str name => variantNamed cases name
  | .obj [(name, content)] => do
    let case ← variantNamed cases name
    match content with
    | .null => pure case
    | found => throw (.wrongType found .unit)
  | .obj _ => .error .notOneKey
  | found => .error (.wrongType found .variant)

end Decoder

end IdentityChain
