import IdentityChain.Proofs.Catalog.Membership
import IdentityChain.Proofs.Resolution.Outcome
import IdentityChain.Proofs.SignIn.Deciding

/-!
# Who takes part

Sign-in and resolution ask enabled entries alone. The items behind these are in
service: enabled, and of a declared kind (`Configuration.inService`). An entry
is enabled and built from a configuration exactly if it is built from its items
in service (`Entry.builtFrom_inService`), so disabled items and settings blocks
have no part in what the walks see. They take part in building all the same: one
that cannot be built leaves no snapshot to compare.
-/

namespace IdentityChain

/-- Whether the item is enabled and declares a kind. -/
def Bag.inService (bag : Bag) : Bool := bag.enabled && bag.kind?.isSome

/-- The items that are enabled and declare a kind. -/
def Configuration.inService (items : Configuration) : Configuration where
  entries := items.entries.filter fun item => item.2.inService
  ascending := items.ascending.filter _

theorem Configuration.get?_inService {items : Configuration} {name : String} {bag : Bag} :
    items.inService.get? name = some bag ↔
      items.get? name = some bag ∧ bag.inService = true := by
  rw [← Table.mem_entries_iff, ← Table.mem_entries_iff]
  exact List.mem_filter

variable {α : Type} {factories : Table Factory} {items : Configuration}

/-- The enabled entries of a configuration are the entries of its items in service. -/
theorem Entry.builtFrom_inService {part : Source → Option α} {entry : Entry α} :
    entry.BuiltFrom factories items.inService part ↔
      entry.BuiltFrom factories items part ∧ entry.enabled = true := by
  constructor
  · rintro ⟨bag, source, present, found, made⟩
    obtain ⟨present, active⟩ := Configuration.get?_inService.1 present
    obtain ⟨-, -, -, enabled⟩ := Entry.part?_eq_some_iff.1 made
    obtain ⟨-, -, switched⟩ := Snapshot.place_of_sourceOf? found
    have on : bag.enabled = true := (Bool.and_eq_true_iff.1 active).1
    exact ⟨⟨bag, source, present, found, made⟩, (enabled.trans switched).trans on⟩
  · rintro ⟨⟨bag, source, present, found, made⟩, on⟩
    obtain ⟨-, -, -, enabled⟩ := Entry.part?_eq_some_iff.1 made
    obtain ⟨kind, factory, declared, -, -, -, -, switched⟩ := Snapshot.sourceOf?_eq_some found
    have active : bag.inService = true := by
      rw [Bag.inService, ← switched, ← enabled, on, declared]
      rfl
    exact ⟨bag, source, Configuration.get?_inService.2 ⟨present, active⟩, found, made⟩

/-- Of the entries that the items describe, the enabled ones are those of the items in service. -/
theorem mem_enabled_iff {part : Source → Option α} {entries : List (Entry α)}
    (members : ∀ entry, entry ∈ entries ↔ entry.BuiltFrom factories items part)
    {entry : Entry α} :
    entry ∈ entries.filter (·.enabled) ↔ entry.BuiltFrom factories items.inService part := by
  rw [List.mem_filter, members, Entry.builtFrom_inService]

/-- The items in service decide which entries of a chain are asked, and in which order. -/
theorem Chain.enabled_ext {other : Configuration} {part : Source → Option α}
    {entries others : List (Entry α)} (chain : Chain entries) (chain' : Chain others)
    (members : ∀ entry, entry ∈ entries ↔ entry.BuiltFrom factories items part)
    (members' : ∀ entry, entry ∈ others ↔ entry.BuiltFrom factories other part)
    (same : items.inService = other.inService) :
    entries.filter (·.enabled) = others.filter (·.enabled) := by
  refine (chain.filter _).ext (chain'.filter _) fun entry => ?_
  rw [mem_enabled_iff members, mem_enabled_iff members', same]

namespace Snapshot

variable {other : Configuration} {version version' : Nat} {snapshot snapshot' : Snapshot}

theorem enabledProviders_of_inService (h : build factories version items = .ok snapshot)
    (h' : build factories version' other = .ok snapshot')
    (same : items.inService = other.inService) :
    snapshot.enabledProviders = snapshot'.enabledProviders :=
  (chain_providers_of_build h).enabled_ext (chain_providers_of_build h')
    (fun _ => mem_providers_iff h) (fun _ => mem_providers_iff h') same

theorem enabledLookups_of_inService (h : build factories version items = .ok snapshot)
    (h' : build factories version' other = .ok snapshot')
    (same : items.inService = other.inService) :
    snapshot.enabledLookups = snapshot'.enabledLookups :=
  (chain_lookups_of_build h).enabled_ext (chain_lookups_of_build h')
    (fun _ => mem_lookups_iff h) (fun _ => mem_lookups_iff h') same

/-- A sign-in depends on the enabled providers alone. -/
theorem signIn_congr (same : snapshot.enabledProviders = snapshot'.enabledProviders)
    (credentials : Credentials) : snapshot.signIn credentials = snapshot'.signIn credentials := by
  rw [signIn, signIn, same]

/-- A resolution depends on the enabled lookup services alone. -/
theorem resolve_congr (same : snapshot.enabledLookups = snapshot'.enabledLookups)
    (limits : ResolutionLimits) (now : Instant) (cache : UserCache) (username : String) :
    snapshot.resolve limits now cache username = snapshot'.resolve limits now cache username := by
  rw [resolve, resolve, same]

end Snapshot

/-- Two configurations that build and have the same items in service cannot be told apart by signing
in or by resolving a user: the answers, the calls to the sources and what becomes of the cache are
the same, whatever their disabled items and settings blocks hold. -/
theorem inService_decides_walks {other : Configuration} {version version' : Nat}
    {snapshot snapshot' : Snapshot}
    (built : Snapshot.build factories version items = .ok snapshot)
    (built' : Snapshot.build factories version' other = .ok snapshot')
    (same : items.inService = other.inService) :
    (∀ credentials, snapshot.signIn credentials = snapshot'.signIn credentials) ∧
    ∀ limits now cache username,
      snapshot.resolve limits now cache username =
        snapshot'.resolve limits now cache username :=
  ⟨Snapshot.signIn_congr (Snapshot.enabledProviders_of_inService built built' same),
    Snapshot.resolve_congr (Snapshot.enabledLookups_of_inService built built' same)⟩

namespace Rehearsal

/-- The two items in sequence, between a disabled one that knows a user and a block of settings. -/
def crowdedItems : Configuration :=
  Table.ofList [("a", stub 1), ("b", stub 2),
    ("off", Table.ofList [("enabled", .bool false), ("order", .int 0), ("type", .str "stub"),
      ("users", .arr [.str "ann"])]),
    ("policy", Table.ofList [("min_length", .int 8)])]

end Rehearsal

/-- A disabled source before all others and a block of settings make no difference. -/
theorem inService_decides_walks_rehearsal :
    ∃ plain crowded,
      Snapshot.build Rehearsal.factories 1 Rehearsal.items = .ok plain ∧
      Snapshot.build Rehearsal.factories 2 Rehearsal.crowdedItems = .ok crowded ∧
      Rehearsal.items.inService = Rehearsal.crowdedItems.inService ∧
      crowded.providers.map (·.name) = ["off", "a", "b"] ∧
      (∀ credentials, plain.signIn credentials = crowded.signIn credentials) ∧
      ∀ limits now cache username,
        plain.resolve limits now cache username = crowded.resolve limits now cache username := by
  obtain ⟨plain, built⟩ : ∃ snapshot,
      Snapshot.build Rehearsal.factories 1 Rehearsal.items = .ok snapshot := ⟨_, rfl⟩
  obtain ⟨crowded, built'⟩ : ∃ snapshot,
      Snapshot.build Rehearsal.factories 2 Rehearsal.crowdedItems = .ok snapshot := ⟨_, rfl⟩
  have same : Rehearsal.items.inService = Rehearsal.crowdedItems.inService := by rfl
  have names : (Snapshot.build Rehearsal.factories 2 Rehearsal.crowdedItems).map
      (·.providers.map (·.name)) = .ok ["off", "a", "b"] := by rfl
  rw [built'] at names
  exact ⟨plain, crowded, built, built', same, Except.ok.inj names,
    inService_decides_walks built built' same⟩

end IdentityChain
