import IdentityChain.Configuration.Item
import IdentityChain.Text.Blank
import IdentityChain.Time.Written

/-!
# Users

What a source knows about a user, the credentials that a user presents, and the
outcome of a successful sign-in. A password never leaves the registry: it is
neither written to JSON nor read from it, and descriptions show a placeholder.
-/

namespace IdentityChain

/-- A set of role names. -/
abbrev Roles := Table Unit

namespace Roles

/-- The set of the names in a list. -/
def ofList (names : List String) : Roles := Table.ofList (names.map (·, ()))

/-- The names, ascending. -/
def names (roles : Roles) : List String := roles.keys

/-- A set of roles is read from a list of strings. -/
def decode : Decoder Roles := fun value => (Decoder.list Decoder.string value).map ofList

/-- The names as JSON. -/
def toJson (roles : Roles) : Json := .arr (roles.names.map .str)

end Roles

/-- How a description shows a secret. -/
def redacted : String := "SecretBox<str>([REDACTED])"

/-- A truth value in a description. -/
def describeBool (b : Bool) : String := if b then "true" else "false"

/-- What a source knows about a user. -/
structure Profile where
  username : String
  password : Option String
  enabled : Bool
  roles : Roles
  deriving DecidableEq

namespace Profile

/-- The JSON forms of a profile. -/
def format : RecordFormat Profile where
  name := "UserDetails"
  strict := false
  fields := Fields.make (fun username enabled roles => ⟨username, none, enabled, roles⟩)
    |>.andThen (.required "username" Decoder.string)
    |>.andThen (.required "enabled" Decoder.boolean)
    |>.andThen (.required "roles" Roles.decode)

/-- The profile as JSON. -/
def toJson (profile : Profile) : Json :=
  .ofFields [("username", .str profile.username), ("enabled", .bool profile.enabled),
    ("roles", profile.roles.toJson)]

/-- The profile for a log. -/
def describe (profile : Profile) : String :=
  let password := match profile.password with
    | some _ => "Some(" ++ redacted ++ ")"
    | none => "None"
  let roles := "\x7b" ++ Text.commaSeparated (profile.roles.names.map Text.quoted) ++ "\x7d"
  "UserDetails \x7b username: " ++ Text.quoted profile.username ++ ", password: " ++ password ++
    ", enabled: " ++ describeBool profile.enabled ++ ", roles: " ++ roles ++ " \x7d"

end Profile

/-- A username and a password presented for verification. -/
structure Credentials where
  username : String
  password : String
  deriving DecidableEq, Repr

/-- The credentials for a log. -/
def Credentials.describe (credentials : Credentials) : String :=
  "Credentials \x7b username: " ++ Text.quoted credentials.username ++ ", password: " ++ redacted ++
    " \x7d"

/-- A successful sign-in. -/
structure Authentication where
  username : String
  /-- The item whose provider accepted the credentials. -/
  provider : String
  roles : Roles
  deriving DecidableEq

namespace Authentication

/-- The JSON forms of a sign-in. -/
def format : RecordFormat Authentication where
  name := "Authentication"
  strict := false
  fields := Fields.make Authentication.mk
    |>.andThen (.required "username" Decoder.string)
    |>.andThen (.required "provider" Decoder.string)
    |>.andThen (.required "roles" Roles.decode)

/-- The sign-in as JSON. -/
def toJson (authentication : Authentication) : Json :=
  .ofFields [("username", .str authentication.username),
    ("provider", .str authentication.provider), ("roles", authentication.roles.toJson)]

end Authentication

/-- A user as the cache keeps it. -/
structure UserRecord where
  username : String
  /-- The item whose lookup service produced the record; blank for a locally managed user. -/
  sourceId : String
  lastUpdate : Instant
  profile : Profile
  deriving DecidableEq

namespace UserRecord

/-- Whether the record came from a lookup service. -/
def hasSource (record : UserRecord) : Bool := !Text.blank record.sourceId

/-- The JSON forms of a record. -/
def format : RecordFormat UserRecord where
  name := "CachedUser"
  strict := false
  fields := Fields.make UserRecord.mk
    |>.andThen (.required "username" Decoder.string)
    |>.andThen (.required "source_id" Decoder.string)
    |>.andThen (.required "last_update" Decoder.time)
    |>.andThen (.required "details" Profile.format.decode)

/-- The record as JSON. -/
def toJson (record : UserRecord) : Json :=
  .ofFields [("username", .str record.username), ("source_id", .str record.sourceId),
    ("last_update", .str record.lastUpdate.written), ("details", record.profile.toJson)]

end UserRecord

end IdentityChain
