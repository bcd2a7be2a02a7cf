import IdentityChain.Catalog.Rank
import IdentityChain.Source

/-!
# Catalog snapshots

A snapshot holds the two chains that one configuration describes: its providers
and its lookup services, each in priority order, the disabled ones included.
`Snapshot.build` makes it from the items. Items without a string under `type`
are settings blocks and no sources; of the items that cannot be built the first
by name is reported.
-/

namespace IdentityChain

/-- A source of one capability in its place. -/
structure Entry (α : Type) where
  name : String
  order : Option Int64
  enabled : Bool
  service : α

namespace Entry

variable {α β : Type}

/-- The place of an entry in the priority sequence. -/
def rank (entry : Entry α) : Rank := ⟨entry.order, entry.name⟩

/-- The entry of a part of its service, if the service has that part. -/
def part? (entry : Entry α) (part : α → Option β) : Option (Entry β) :=
  (part entry.service).map fun service => ⟨entry.name, entry.order, entry.enabled, service⟩

/-- The entry for a log, under the words for its type and its name. -/
def describe (type name : String) (entry : Entry α) : String :=
  let order := match entry.order with
    | some n => "Some(" ++ toString n.toInt ++ ")"
    | none => "None"
  type ++ " \x7b " ++ name ++ ": " ++ Text.quoted entry.name ++ ", order: " ++ order ++
    ", enabled: " ++ describeBool entry.enabled ++ ", .. \x7d"

end Entry

/-- The two chains of one configuration. -/
structure Snapshot where
  /-- The number of reloads up to this one; zero before the first. -/
  version : Nat
  providers : List (Entry Provider)
  lookups : List (Entry LookupService)

namespace Snapshot

/-- The snapshot before the first reload. -/
def empty : Snapshot := ⟨0, [], []⟩

/-- The providers that are asked, in order. -/
def enabledProviders (snapshot : Snapshot) : List (Entry Provider) :=
  snapshot.providers.filter (·.enabled)

/-- The lookup services that are asked, in order. -/
def enabledLookups (snapshot : Snapshot) : List (Entry LookupService) :=
  snapshot.lookups.filter (·.enabled)

/-- A lookup service by its item's name, enabled or not. -/
def lookup? (snapshot : Snapshot) (name : String) : Option (Entry LookupService) :=
  snapshot.lookups.find? (·.name == name)

/-- Every entry by name and capability, enabled or not. -/
def entries (snapshot : Snapshot) : List (String × Capability) :=
  snapshot.providers.map (fun entry => (entry.name, .signIn)) ++
    snapshot.lookups.map (fun entry => (entry.name, .lookup))

/-- A provider for a log. -/
def describeProvider : Entry Provider → String := Entry.describe "ProviderEntry" "name"

/-- A lookup service for a log. -/
def describeLookup : Entry LookupService → String := Entry.describe "LookupServiceEntry" "source_id"

/-- The snapshot for a log. -/
def describe (snapshot : Snapshot) : String :=
  "CatalogSnapshot \x7b version: " ++ toString snapshot.version ++ ", providers: " ++
    Text.bracketed (snapshot.providers.map describeProvider) ++ ", lookup_services: " ++
    Text.bracketed (snapshot.lookups.map describeLookup) ++ " \x7d"

/-- The source of one item; `none` if the item is no source. -/
def sourceOf? (factories : Table Factory) (name : String) (bag : Bag) :
    Except Fault (Option (Entry Source)) :=
  match bag.kind? with
  | none => .ok none
  | some kind =>
    match factories.get? kind with
    | none => .error (.configurationInvalid name ("unknown type `" ++ kind ++ "`"))
    | some factory =>
      match factory.build name bag with
      | .error reason => .error (.configurationInvalid name reason)
      | .ok source => .ok (some ⟨name, bag.order?, bag.enabled, source⟩)

/-- The sources of some items, in their order. -/
def sources (factories : Table Factory) : List (String × Bag) → Except Fault (List (Entry Source))
  | [] => .ok []
  | (name, bag) :: rest => do
    let found ← sourceOf? factories name bag
    let entries ← sources factories rest
    pure (found.toList ++ entries)

/-- The two chains of some sources. -/
def ofSources (version : Nat) (entries : List (Entry Source)) : Snapshot where
  version := version
  providers := sortByRank Entry.rank (entries.filterMap (·.part? Source.provider?))
  lookups := sortByRank Entry.rank (entries.filterMap (·.part? Source.lookup?))

/-- The snapshot of a configuration. -/
def build (factories : Table Factory) (version : Nat) (items : Configuration) :
    Except Fault Snapshot :=
  (sources factories items.entries).map (ofSources version)

end Snapshot

end IdentityChain
