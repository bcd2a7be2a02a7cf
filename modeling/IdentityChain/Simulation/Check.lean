import IdentityChain.Registry.Basic

/-!
# Checks

Conditions on a trial configuration or a trial snapshot, for rehearsing
reconfigurations. A check that consults sources reports its calls.
-/

namespace IdentityChain

/-- A condition on a trial snapshot. -/
inductive SnapshotCheck where
  | accept
  | refuse
  /-- The credentials sign a user in. -/
  | signsIn (credentials : Credentials)
  /-- A lookup service, enabled or not, finds the user however long it takes. -/
  | resolves (service username : String)
  /-- The first enabled provider is this one. -/
  | firstProvider (name : String)
  | version (n : Nat)
  /-- The snapshot has this many entries. -/
  | entryCount (n : Nat)

/-- The check as a validator. -/
def SnapshotCheck.validate : SnapshotCheck → Validator
  | .accept, _ => .plain true
  | .refuse, _ => .plain false
  | .signsIn credentials, snapshot =>
    let (answer, calls) := snapshot.signIn credentials
    ⟨answer.toOption.isSome, calls⟩
  | .resolves service username, snapshot =>
    match snapshot.lookup? service with
    | none => .plain false
    | some entry =>
      let reply := entry.service.reply username
      let found := match reply.outcome with
        | .found _ => decide (reply.latency ≠ .never)
        | _ => false
      ⟨found, [Snapshot.lookupCall entry]⟩
  | .firstProvider name, snapshot =>
    .plain (decide (snapshot.enabledProviders.head?.map (·.name) = some name))
  | .version n, snapshot => .plain (decide (snapshot.version = n))
  | .entryCount n, snapshot => .plain (decide (snapshot.entries.length = n))

/-- A condition on trial items. -/
inductive ItemsCheck where
  | accept
  | refuse
  | hasItem (name : String)
  | holds (need : Requirement)

/-- The check as a trial. -/
def ItemsCheck.trial : ItemsCheck → Trial
  | .accept, _ => .plain true
  | .refuse, _ => .plain false
  | .hasItem name, items => .plain (items.contains name)
  | .holds need, items => .plain (need.isMetBy items)

/-- How many metered calls one capability of an item has taken. -/
def meteredCalls (calls : List Call) (capability : Capability) (item : String) : Nat :=
  calls.countP fun call => decide (call = ⟨capability, item, true⟩)

end IdentityChain
