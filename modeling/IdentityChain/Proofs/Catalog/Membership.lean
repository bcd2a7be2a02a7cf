import IdentityChain.Proofs.Catalog.Chains

/-!
# Who stands in a chain

A configuration builds if each of its items can be built or is no source
(`Snapshot.buildable_iff`). The entries of the snapshot are then those that the
items describe one by one (`Entry.BuiltFrom`), each in the place that the bag of
its item gives it (`Entry.Reads`), and nothing else of the configuration decides
whether an entry is there. As a chain is in strict order, its members alone
determine it (`Chain.ext`): two configurations that describe the same entries
have the same chain.
-/

namespace IdentityChain

variable {α : Type} {factories : Table Factory}

/-- Chains of the same entries are equal. -/
theorem Chain.ext {entries others : List (Entry α)} (chain : Chain entries) (chain' : Chain others)
    (same : ∀ entry, entry ∈ entries ↔ entry ∈ others) : entries = others := by
  have perm : entries.Perm others :=
    (List.perm_ext_iff_of_nodup chain.distinct.of_map chain'.distinct.of_map).2 same
  exact perm.eq_of_pairwise (fun a b _ _ ab ba => (Rank.Before.irrefl _ (ab.trans ba)).elim)
    chain.ascending chain'.ascending

/-- The item under the entry's name is a source that has this part, in this place. -/
def Entry.BuiltFrom (factories : Table Factory) (items : Configuration)
    (part : Source → Option α) (entry : Entry α) : Prop :=
  ∃ bag source, items.get? entry.name = some bag ∧
    Snapshot.sourceOf? factories entry.name bag = .ok (some source) ∧
    source.part? part = some entry

/-- The entry has the place and the switch that its item's bag gives it. -/
def Entry.Reads (items : Configuration) (entry : Entry α) : Prop :=
  ∃ bag, items.get? entry.name = some bag ∧ entry.order = bag.order? ∧ entry.enabled = bag.enabled

namespace Entry

variable {part : Source → Option α} {source : Entry Source} {entry : Entry α}

/-- A part stands in the place of the whole. -/
theorem part?_eq_some_iff : source.part? part = some entry ↔
    part source.service = some entry.service ∧
      entry.name = source.name ∧ entry.order = source.order ∧ entry.enabled = source.enabled := by
  rw [part?, Option.map_eq_some_iff]
  constructor
  · rintro ⟨service, found, rfl⟩
    exact ⟨found, rfl, rfl, rfl⟩
  · rintro ⟨found, name, order, enabled⟩
    refine ⟨entry.service, found, ?_⟩
    rw [← name, ← order, ← enabled]

/-- An entry stands where the bag of its item puts it. -/
theorem BuiltFrom.reads {items : Configuration} (built : entry.BuiltFrom factories items part) :
    entry.Reads items := by
  obtain ⟨bag, source, present, found, made⟩ := built
  obtain ⟨-, -, order, enabled⟩ := part?_eq_some_iff.1 made
  obtain ⟨-, placed, switched⟩ := Snapshot.place_of_sourceOf? found
  exact ⟨bag, present, order.trans placed, enabled.trans switched⟩

end Entry

namespace Snapshot

variable {items : Configuration} {snapshot : Snapshot} {version : Nat}

/-! ## Sources one by one -/

/-- Some items are sources exactly if each of them can be built or is no source. -/
theorem sources_ok_iff {items : List (String × Bag)} :
    (∃ entries, sources factories items = .ok entries) ↔
      ∀ item ∈ items, ∃ source, sourceOf? factories item.1 item.2 = .ok source := by
  induction items with
  | nil => exact ⟨fun _ _ member => (by cases member), fun _ => ⟨[], rfl⟩⟩
  | cons item rest ih =>
    obtain ⟨name, bag⟩ := item
    rw [List.forall_mem_cons, ← ih]
    constructor
    · rintro ⟨entries, built⟩
      obtain ⟨source, others, found, built, -⟩ := sources_cons_eq_ok built
      exact ⟨⟨source, found⟩, others, built⟩
    · rintro ⟨⟨source, found⟩, others, built⟩
      dsimp only at found
      refine ⟨source.toList ++ others, ?_⟩
      rw [sources, found, built]
      rfl

/-- Each item that is a source is among the sources, and nothing else is. -/
theorem mem_sources_iff {items : List (String × Bag)} {entries : List (Entry Source)}
    (h : sources factories items = .ok entries) {entry : Entry Source} :
    entry ∈ entries ↔
      ∃ item ∈ items, sourceOf? factories item.1 item.2 = .ok (some entry) := by
  induction items generalizing entries with
  | nil =>
    cases h
    constructor
    · intro member
      cases member
    · rintro ⟨item, member, -⟩
      cases member
  | cons item rest ih =>
    obtain ⟨name, bag⟩ := item
    obtain ⟨source, others, found, built, rfl⟩ := sources_cons_eq_ok h
    rw [List.mem_append, Option.mem_toList, ih built, List.exists_mem_cons_iff, found,
      Except.ok.injEq]

/-- The parts of the sources of a configuration, put in order, are the entries that its items
describe. -/
theorem mem_parts_iff {entries : List (Entry Source)}
    (built : sources factories items.entries = .ok entries) (part : Source → Option α)
    {entry : Entry α} :
    entry ∈ sortByRank Entry.rank (entries.filterMap (·.part? part)) ↔
      entry.BuiltFrom factories items part := by
  rw [(sortByRank_perm Entry.rank _).mem_iff, List.mem_filterMap]
  constructor
  · rintro ⟨source, listed, made⟩
    obtain ⟨⟨name, bag⟩, member, found⟩ := (mem_sources_iff built).1 listed
    obtain ⟨named, -⟩ := place_of_sourceOf? found
    obtain ⟨-, same, -⟩ := Entry.part?_eq_some_iff.1 made
    obtain rfl : entry.name = name := same.trans named
    exact ⟨bag, source, Table.mem_entries_iff.1 member, found, made⟩
  · rintro ⟨bag, source, present, found, made⟩
    have member : (entry.name, bag) ∈ items.entries := Table.mem_entries_iff.2 present
    exact ⟨source, (mem_sources_iff built).2 ⟨_, member, found⟩, made⟩

/-! ## Built snapshots -/

/-- A configuration builds exactly if each of its items can be built or is no source. -/
theorem buildable_iff : Buildable factories items ↔
    ∀ name bag, items.get? name = some bag →
      ∃ source, sourceOf? factories name bag = .ok source := by
  have listed : (∃ entries, sources factories items.entries = .ok entries) ↔
      Buildable factories items := by
    constructor
    · rintro ⟨entries, built⟩
      exact ⟨ofSources 0 entries, by rw [build, built]; rfl⟩
    · rintro ⟨snapshot, built⟩
      obtain ⟨entries, built, -⟩ := build_eq_ok built
      exact ⟨entries, built⟩
  rw [← listed, sources_ok_iff]
  constructor
  · intro each name bag present
    exact each (name, bag) (Table.mem_entries_iff.2 present)
  · rintro each ⟨name, bag⟩ member
    exact each name bag (Table.mem_entries_iff.1 member)

/-- The providers of a snapshot are those that the items describe. -/
theorem mem_providers_iff (h : build factories version items = .ok snapshot)
    {entry : Entry Provider} :
    entry ∈ snapshot.providers ↔ entry.BuiltFrom factories items Source.provider? := by
  obtain ⟨entries, built, rfl⟩ := build_eq_ok h
  exact mem_parts_iff built Source.provider?

/-- The lookup services of a snapshot are those that the items describe. -/
theorem mem_lookups_iff (h : build factories version items = .ok snapshot)
    {entry : Entry LookupService} :
    entry ∈ snapshot.lookups ↔ entry.BuiltFrom factories items Source.lookup? := by
  obtain ⟨entries, built, rfl⟩ := build_eq_ok h
  exact mem_parts_iff built Source.lookup?

/-- The providers of a configuration stand where its bags put them. -/
theorem reads_providers_of_build (h : build factories version items = .ok snapshot) :
    ∀ entry ∈ snapshot.providers, entry.Reads items :=
  fun _ member => ((mem_providers_iff h).1 member).reads

/-- The lookup services of a configuration stand where its bags put them. -/
theorem reads_lookups_of_build (h : build factories version items = .ok snapshot) :
    ∀ entry ∈ snapshot.lookups, entry.Reads items :=
  fun _ member => ((mem_lookups_iff h).1 member).reads

end Snapshot

end IdentityChain
