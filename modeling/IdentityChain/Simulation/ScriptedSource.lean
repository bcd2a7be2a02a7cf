import IdentityChain.Source

/-!
# Scripted sources

A source that follows a script in its item's bag: which users it knows, which
of them are locked, what it calls them, how long it takes and how it fails. All
its users have one password. Scripted sources stand in for remote ones when a
registry is rehearsed.
-/

namespace IdentityChain

/-- How a scripted source behaves. -/
inductive ScriptMode where
  | normal
  /-- Every call fails. -/
  | fail
  /-- No lookup is ever answered. -/
  | hang
  /-- Nobody is known, and credentials are neither accepted nor refused. -/
  | abstain
  deriving DecidableEq, Repr

/-- Which capabilities a scripted source has. -/
inductive ScriptRole where
  | signIn
  | lookup
  | both
  deriving DecidableEq, Repr

/-- What a scripted source does. -/
structure Script where
  item : String
  /-- A role that all its users have, to tell scripts apart. -/
  tag : String
  mode : ScriptMode
  users : List String
  locked : List String
  /-- The usernames whose credentials it does not support. -/
  unsupported : List String
  /-- The names under which it reports its users. -/
  reported : Table String
  /-- How many milliseconds a lookup takes. -/
  delay : Nat

namespace Script

/-- The strings of a list; nothing else counts. -/
def strings (bag : Bag) (key : String) : List String :=
  match bag.get? key with
  | some (.arr elements) => elements.filterMap Json.asString?
  | _ => []

/-- The mode of a bag. -/
def modeOf (bag : Bag) : Except String ScriptMode :=
  match (bag.get? "mode").bind Json.asString? with
  | none => .ok .normal
  | some "normal" => .ok .normal
  | some "fail" => .ok .fail
  | some "hang" => .ok .hang
  | some "abstain" => .ok .abstain
  | some other => .error ("unknown mode `" ++ other ++ "`")

/-- The role of a bag. -/
def roleOf (bag : Bag) : Except String ScriptRole :=
  match (bag.get? "role").bind Json.asString? with
  | none => .ok .both
  | some "provider" => .ok .signIn
  | some "lookup" => .ok .lookup
  | some "both" => .ok .both
  | some other => .error ("unknown role `" ++ other ++ "`")

/-- The aliases of a bag. -/
def aliasOf (bag : Bag) : Table String :=
  match bag.get? "alias" with
  | some (.obj fields) =>
    Table.ofList (fields.filterMap fun (key, value) => value.asString?.map (key, ·))
  | _ => .empty

/-- The delay of a bag. -/
def delayOf (bag : Bag) : Nat :=
  match bag.get? "delay_ms" with
  | some (.int n) => n.toNat
  | _ => 0

/-- The name under which a user is reported. -/
def reportedName (script : Script) (username : String) : String :=
  (script.reported.get? username).getD username

/-- The roles of every user. -/
def roles (script : Script) : Roles := Roles.ofList [script.item, script.tag]

/-- The password of every user. -/
def password : String := "secret"

/-- What the source says about a username. -/
def outcome (script : Script) (username : String) : LookupAnswer :=
  match script.mode with
  | .fail => .failed (script.item ++ " is down")
  | .normal =>
    if script.users.contains username then
      .found ⟨script.reportedName username, none, !script.locked.contains username, script.roles⟩
    else .notFound
  | .hang | .abstain => .notFound

/-- The script as a lookup service. -/
def toLookupService (script : Script) : LookupService where
  reply username :=
    ⟨script.outcome username, if script.mode = .hang then .never else .millis script.delay⟩
  metered := true

/-- What the source says about credentials. -/
def verify (script : Script) (credentials : Credentials) :
    Except AuthenticationFault (Option Authentication) :=
  let username := credentials.username
  match script.mode with
  | .fail => .error (.internal (script.item ++ " is down"))
  | .abstain => .ok none
  | .normal | .hang =>
    if script.locked.contains username then .error (.accountStatus username)
    else if script.users.contains username && credentials.password == password then
      .ok (some ⟨script.reportedName username, script.tag, script.roles⟩)
    else .error (.badCredentials (script.item ++ " rejected " ++ username))

/-- The script as a provider. -/
def toProvider (script : Script) : Provider where
  supports credentials := !script.unsupported.contains credentials.username
  verify := script.verify
  metered := true

/-- The source of an item's bag. A bag may ask for its own failure under `fail_build`. -/
def build (tag item : String) (bag : Bag) : Except String Source := do
  match (bag.get? "fail_build").bind Json.asString? with
  | some reason => throw reason
  | none => pure ()
  let mode ← modeOf bag
  let role ← roleOf bag
  let script : Script :=
    ⟨item, tag, mode, strings bag "users", strings bag "locked", strings bag "unsupported",
      aliasOf bag, delayOf bag⟩
  match role with
  | .signIn => pure (.provider script.toProvider)
  | .lookup => pure (.lookup script.toLookupService)
  | .both => pure (.both script.toProvider script.toLookupService)

/-- The factory of scripted sources of one kind. -/
def factory (kind tag : String) : Factory := ⟨kind, build tag⟩

end Script

end IdentityChain
