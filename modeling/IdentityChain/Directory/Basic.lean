import IdentityChain.Directory.Settings
import IdentityChain.Source

/-!
# Static directories

A directory whose accounts are listed in its own item. If a username is listed
twice, the later entry is the account. A wrong password and an unknown user are
refused alike, and a disabled account is reported only to who knows its
password.
-/

namespace IdentityChain

/-- An account of a directory. -/
structure Account where
  password : String
  roles : Roles
  enabled : Bool
  deriving DecidableEq

/-- Accounts by username, under the name of the item that lists them. -/
structure Directory where
  item : String
  accounts : Table Account
  deriving DecidableEq

namespace Directory

/-- The directory of an item. -/
def ofSettings (item : String) (settings : DirectorySettings) : Directory :=
  let accounts := settings.users.map fun user =>
    (user.username, Account.mk user.password (Roles.ofList user.roles) user.enabled)
  ⟨item, Table.ofList accounts⟩

/-- Verifies a username and a password. -/
def verify (directory : Directory) (credentials : Credentials) :
    Except AuthenticationFault Authentication :=
  match directory.accounts.get? credentials.username with
  | none => .error (.badCredentials credentials.username)
  | some account =>
    if account.password ≠ credentials.password then .error (.badCredentials credentials.username)
    else if account.enabled then .ok ⟨credentials.username, directory.item, account.roles⟩
    else .error (.accountStatus (credentials.username ++ " is disabled"))

/-- The profile of an account. -/
def find? (directory : Directory) (username : String) : Option Profile :=
  (directory.accounts.get? username).map fun account =>
    ⟨username, some account.password, account.enabled, account.roles⟩

/-- The directory as a provider. -/
def toProvider (directory : Directory) : Provider where
  supports _ := true
  verify credentials := (directory.verify credentials).map some
  metered := false

/-- The directory as a lookup service. -/
def toLookupService (directory : Directory) : LookupService where
  reply username :=
    let outcome := match directory.find? username with
      | some profile => LookupAnswer.found profile
      | none => .notFound
    ⟨outcome, .millis 0⟩
  metered := false

/-- The directory as a source with the capabilities of its mode. -/
def toSource (directory : Directory) : DirectoryMode → Source
  | .signIn => .provider directory.toProvider
  | .lookup => .lookup directory.toLookupService
  | .both => .both directory.toProvider directory.toLookupService

/-- The kind of items that list a directory. -/
def kind : String := "static"

/-- The settings in an item's bag. -/
def settings? (bag : Bag) : Except DecodeError DirectorySettings :=
  DirectorySettings.format.decode bag.ownProperties.toJson

/-- Builds the source of an item. -/
def build (item : String) (bag : Bag) : Except String Source :=
  match settings? bag with
  | .ok settings => .ok ((ofSettings item settings).toSource settings.mode)
  | .error refusal => .error ("invalid static identity configuration: " ++ refusal.message)

/-- The factory of static directories. -/
def factory : Factory := ⟨kind, build⟩

end Directory

end IdentityChain
