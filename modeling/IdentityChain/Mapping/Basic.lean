import IdentityChain.Configuration.Item
import IdentityChain.Fault

/-!
# Typed items

An item may hold the settings of a type of its own. A `JsonForm` writes values
of the type as JSON and reads them back; a `Mapper` does so for one item's bag.
Only values that are written as objects can be kept in a bag.
-/

namespace IdentityChain

/-- Why a value cannot be written as JSON. -/
inductive EncodeError where
  | keyNotString
  deriving DecidableEq, Repr

/-- The text of an encoding error. -/
def EncodeError.message : EncodeError → String
  | .keyNotString => "key must be a string"

/-- How values of a type stand in JSON. -/
structure JsonForm (α : Type) where
  encode : α → Except EncodeError Json
  decode : Decoder α

/-- Keeps values of a type in one item. -/
structure Mapper (α : Type) where
  item : String
  toBag : α → Except PublicFault Bag
  ofBag : Bag → Except PublicFault α

namespace Mapper

variable {α : Type}

/-- The bag of a JSON value. -/
def bagOf (item : String) : Json → Except PublicFault Bag
  | .obj fields => .ok (Table.ofList fields)
  | other => .error (.configurationInvalid item ("expected an object, got " ++ other.compact))

/-- The mapper of an item for a type with a JSON form. -/
def ofForm (item : String) (form : JsonForm α) : Mapper α where
  item := item
  toBag value :=
    match form.encode value with
    | .ok json => bagOf item json
    | .error cause => .error (.configurationInvalid item cause.message)
  ofBag bag :=
    match form.decode bag.toJson with
    | .ok value => .ok value
    | .error cause => .error (.configurationInvalid item cause.message)

end Mapper

end IdentityChain
