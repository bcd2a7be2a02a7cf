import IdentityChain.Mapping.Forms

/-!
# Sample types

Two record types that typed items can hold: a banner with a text and a switch,
and the address of a directory server with a place in the priority sequence,
which shares a reserved key.
-/

namespace IdentityChain

/-- A text that may be shown. -/
structure Banner where
  text : String
  visible : Bool
  deriving DecidableEq, Repr

/-- The JSON form of a banner. -/
def Banner.form : JsonForm Banner :=
  .ofRecord "Banner"
    (ScalarFields.make Banner.mk
      |>.andThen "text" .string Banner.text
      |>.andThen "visible" .boolean Banner.visible)

/-- The address of a directory server. -/
structure ServerAddress where
  url : String
  order : Int64
  deriving DecidableEq, Repr

/-- The JSON form of directory server settings. -/
def ServerAddress.form : JsonForm ServerAddress :=
  .ofRecord "LdapSettings"
    (ScalarFields.make ServerAddress.mk
      |>.andThen "url" .string ServerAddress.url
      |>.andThen "order" .int64 ServerAddress.order)

end IdentityChain
