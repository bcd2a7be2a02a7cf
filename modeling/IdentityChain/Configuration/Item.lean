import IdentityChain.Configuration.Bag
import IdentityChain.Json.Record

/-!
# Items as operators see them

A configured source appears in the registry under one or both of two
capabilities. An `Item` shows one of them with the configuration behind it, and
an `ItemUpdate` is the edit that an operator sends back.
-/

namespace IdentityChain

/-- What a source can do. -/
inductive Capability where
  /-- Verify credentials. -/
  | signIn
  /-- Resolve users by name. -/
  | lookup
  deriving DecidableEq, Repr

namespace Capability

/-- The written name of a capability. -/
def label : Capability → String
  | .signIn => "AuthenticationProvider"
  | .lookup => "UserLookupService"

/-- A capability by its written name. -/
def decode : Decoder Capability :=
  Decoder.variant [(label .signIn, .signIn), (label .lookup, .lookup)]

/-- The written name as JSON. -/
def toJson (capability : Capability) : Json := .str capability.label

end Capability

/-- One capability of a configured source, with its configuration. -/
structure Item where
  name : String
  kind : Capability
  order : Option Int64
  enabled : Bool
  properties : Bag
  deriving DecidableEq

namespace Item

/-- The item of a bag. -/
def ofBag (name : String) (kind : Capability) (properties : Bag) : Item :=
  ⟨name, kind, properties.order?, properties.enabled, properties⟩

/-- The JSON forms of an item. -/
def format : RecordFormat Item where
  name := "AuthenticationItem"
  strict := false
  fields := Fields.make Item.mk
    |>.andThen (.required "name" Decoder.string)
    |>.andThen (.required "kind" Capability.decode)
    |>.andThen (.optional "order" Decoder.int64)
    |>.andThen (.required "enabled" Decoder.boolean)
    |>.andThen (.required "properties" Bag.decode)

/-- The item as JSON. -/
def toJson (item : Item) : Json :=
  .ofFields [("name", .str item.name), ("kind", item.kind.toJson), ("order", .ofOrder item.order),
    ("enabled", .bool item.enabled), ("properties", item.properties.toJson)]

end Item

/-- The place and the switch that an operator wants for an item. -/
structure ItemUpdate where
  name : String
  order : Option Int64
  enabled : Bool
  deriving DecidableEq, Repr

namespace ItemUpdate

/-- The JSON forms of an update; without a switch the item is to be disabled. -/
def format : RecordFormat ItemUpdate where
  name := "AuthenticationItemUpdate"
  strict := false
  fields := Fields.make ItemUpdate.mk
    |>.andThen (.required "name" Decoder.string)
    |>.andThen (.optional "order" Decoder.int64)
    |>.andThen (.defaulted "enabled" Decoder.boolean false)

/-- The update as JSON. -/
def toJson (update : ItemUpdate) : Json :=
  .ofFields [("name", .str update.name), ("order", .ofOrder update.order),
    ("enabled", .bool update.enabled)]

/-- The two properties that the update writes. -/
def edit (update : ItemUpdate) : Bag :=
  (Bag.empty.withOrder update.order).withEnabled update.enabled

end ItemUpdate

end IdentityChain
