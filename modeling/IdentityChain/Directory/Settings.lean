import IdentityChain.User

/-!
# Settings of a static directory

The item of a static directory lists its accounts and says which capabilities
it offers. Its keys, apart from the reserved ones, are `mode` and `users`; both
may be absent, and no other key is accepted.
-/

namespace IdentityChain

/-- Which capabilities a directory offers. -/
inductive DirectoryMode where
  | signIn
  | lookup
  | both
  deriving DecidableEq, Repr

/-- A mode by its name. -/
def DirectoryMode.decode : Decoder DirectoryMode :=
  Decoder.variant [("provider", .signIn), ("lookup", .lookup), ("both", .both)]

/-- One listed account. -/
structure ListedUser where
  username : String
  password : String
  roles : List String
  enabled : Bool
  deriving DecidableEq, Repr

namespace ListedUser

/-- The JSON forms of a listed account. -/
def format : RecordFormat ListedUser where
  name := "StaticUser"
  strict := true
  fields := Fields.make ListedUser.mk
    |>.andThen (.required "username" Decoder.string)
    |>.andThen (.required "password" Decoder.string)
    |>.andThen (.defaulted "roles" (Decoder.list Decoder.string) [])
    |>.andThen (.defaulted "enabled" Decoder.boolean true)

/-- The account for a log. -/
def describe (user : ListedUser) : String :=
  "StaticUser \x7b username: " ++ Text.quoted user.username ++ ", password: " ++
    Text.quoted "[REDACTED]" ++ ", roles: " ++ Text.bracketed (user.roles.map Text.quoted) ++
    ", enabled: " ++ describeBool user.enabled ++ " \x7d"

end ListedUser

/-- The settings of a directory. -/
structure DirectorySettings where
  mode : DirectoryMode
  users : List ListedUser
  deriving DecidableEq, Repr

/-- The JSON forms of the settings. -/
def DirectorySettings.format : RecordFormat DirectorySettings where
  name := "StaticIdentityPluginConfig"
  strict := true
  fields := Fields.make DirectorySettings.mk
    |>.andThen (.defaulted "mode" DirectoryMode.decode .both)
    |>.andThen (.defaulted "users" (Decoder.list ListedUser.format.decode) [])

end IdentityChain
