import IdentityChain.Json.Decode

/-!
# Records in JSON

A record is described by its fields in declaration order, each with its decoder
and with what stands for it when it is absent. From that description
`RecordFormat.decode` reads two forms.

* An object. Its entries are decoded in key order, so the first bad entry in
  that order is reported, and only then the first absent required field in
  declaration order.
* An array of the fields in declaration order, which may end before fields
  that have a default.
-/

namespace IdentityChain

/-- One field of a record. -/
structure Field (α : Type) where
  name : String
  decode : Decoder α
  /-- What stands for the field in an object without it. -/
  absent : Option α
  /-- What stands for the field in an array that ends before it. -/
  cut : Option α

namespace Field

variable {α : Type}

/-- A field that must be there. -/
def required (name : String) (decode : Decoder α) : Field α := ⟨name, decode, none, none⟩

/-- A field that may be left out of either form. -/
def defaulted (name : String) (decode : Decoder α) (value : α) : Field α :=
  ⟨name, decode, some value, some value⟩

/-- A field that may be null, and may be left out of an object. -/
def optional (name : String) (decode : Decoder α) : Field (Option α) :=
  ⟨name, decode.nullable, some none, none⟩

end Field

/-- The fields of a record in declaration order, around the function that makes the record. -/
inductive Fields : Type → Type 1 where
  | make {α : Type} (record : α) : Fields α
  | andThen {α β : Type} (front : Fields (β → α)) (field : Field β) : Fields α

namespace Fields

/-- The names of the fields. -/
def names : {α : Type} → Fields α → List String
  | _, .make _ => []
  | _, .andThen front field => front.names ++ [field.name]

/-- Decodes one entry of an object for its refusal alone; `none` if there is no such field. -/
def check? : {α : Type} → Fields α → String → Json → Option (Except DecodeError Unit)
  | _, .make _, _, _ => none
  | _, .andThen front field, key, value =>
    if key = field.name then some ((field.decode value).map fun _ => ()) else front.check? key value

/-- The record of an object's entries, each field by its name. -/
def ofEntries : {α : Type} → Fields α → List (String × Json) → Except DecodeError α
  | _, .make record, _ => .ok record
  | _, .andThen front field, entries => do
    let record ← front.ofEntries entries
    match entries.lookup field.name with
    | some value => record <$> field.decode value
    | none =>
      match field.absent with
      | some value => pure (record value)
      | none => throw (.missingField field.name)

/-- The record of the elements of an array, each field by its place, and the elements after the
last field. `short` is the refusal of an array that ends too early. -/
def ofElements : {α : Type} → Fields α → DecodeError → List Json →
    Except DecodeError (α × List Json)
  | _, .make record, _, elements => .ok (record, elements)
  | _, .andThen front field, short, elements => do
    match ← front.ofElements short elements with
    | (record, value :: rest) => (fun content => (record content, rest)) <$> field.decode value
    | (record, []) =>
      match field.cut with
      | some value => pure (record value, [])
      | none => throw short

end Fields

/-- The JSON forms of a record. -/
structure RecordFormat (α : Type) where
  name : String
  /-- Whether an object may hold no other keys than the fields. -/
  strict : Bool
  fields : Fields α

namespace RecordFormat

variable {α : Type}

/-- Checks the entries of an object in order. -/
def checkEntries (format : RecordFormat α) : List (String × Json) → Except DecodeError Unit
  | [] => .ok ()
  | (key, value) :: rest => do
    match format.fields.check? key value with
    | some outcome => outcome
    | none => if format.strict then throw (.unknownField key format.fields.names)
    checkEntries format rest

/-- Reads a record from an object or an array. -/
def decode (format : RecordFormat α) : Decoder α
  | .obj entries => do
    format.checkEntries entries
    format.fields.ofEntries entries
  | .arr elements => do
    let short := .tooShort elements.length (.elements format.name format.fields.names.length)
    let (record, rest) ← format.fields.ofElements short elements
    if rest.isEmpty then pure record else throw (.tooLong elements.length)
  | found => .error (.wrongType found (.record format.name))

end RecordFormat

end IdentityChain
