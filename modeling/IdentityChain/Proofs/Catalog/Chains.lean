import IdentityChain.Proofs.Catalog.Building
import Mathlib.Data.List.Nodup

/-!
# The order of a built chain

A configuration names each item once, so in a chain built from it no two
entries share a name and hence no two share a rank: the chain is strictly
ascending in the priority sequence (`Snapshot.chain_providers_of_build`,
`Snapshot.chain_lookups_of_build`). The calls that a walk makes to such a chain
can be counted by name: one to each entry that is asked, and none to any other
(`Chain.count_calls`).
-/

namespace IdentityChain

variable {α : Type}

/-- Entries of different names in priority order. -/
structure Chain (entries : List (Entry α)) : Prop where
  distinct : (entries.map (·.name)).Nodup
  ascending : entries.Pairwise fun a b => a.rank.Before b.rank

namespace Chain

theorem filter {entries : List (Entry α)} (chain : Chain entries) (keep : Entry α → Bool) :
    Chain (entries.filter keep) where
  distinct := chain.distinct.sublist ((List.filter_sublist).map _)
  ascending := chain.ascending.filter keep

/-- Sorting by rank puts entries of different names in strict order. -/
theorem sorted {entries : List (Entry α)} (distinct : (entries.map (·.name)).Nodup) :
    Chain (sortByRank Entry.rank entries) := by
  have perm := (sortByRank_perm Entry.rank entries).map (·.name)
  exact ⟨perm.nodup_iff.2 distinct, sortByRank_strict distinct⟩

/-- If part of a chain is asked, each entry of that part is called once and no other is called. -/
theorem count_calls {entries asked : List (Entry α)} (chain : Chain entries) {call : Entry α → Call}
    (named : ∀ entry, (call entry).item = entry.name) (part : asked.Sublist entries)
    {entry : Entry α} (member : entry ∈ entries) :
    (entry ∈ asked → ((asked.map call).map (·.item)).count entry.name = 1) ∧
    (entry ∉ asked → ((asked.map call).map (·.item)).count entry.name = 0) := by
  have items : (asked.map call).map (·.item) = asked.map (·.name) := by
    rw [List.map_map]
    exact List.map_congr_left fun entry _ => named entry
  rw [items]
  constructor
  · intro called
    have distinct := chain.distinct.sublist (part.map (·.name))
    exact List.count_eq_one_of_mem distinct (List.mem_map_of_mem called)
  · intro spared
    refine List.count_eq_zero.2 fun listed => ?_
    obtain ⟨other, called, same⟩ := List.mem_map.1 listed
    have eq := List.inj_on_of_nodup_map chain.distinct (part.subset called) member same
    exact spared (eq ▸ called)

/-- The enabled entries stand in priority order, and if part of them is asked, each entry of that
part is called once and no other entry of the chain is called. -/
theorem calls_to_enabled {entries asked : List (Entry α)} (chain : Chain entries)
    {call : Entry α → Call} (named : ∀ entry, (call entry).item = entry.name)
    (part : asked.Sublist (entries.filter (·.enabled))) :
    (entries.filter (·.enabled)).Pairwise (fun a b => a.rank.Before b.rank) ∧
    ∀ entry ∈ entries,
      (entry ∈ asked → ((asked.map call).map (·.item)).count entry.name = 1) ∧
      (entry ∉ asked → ((asked.map call).map (·.item)).count entry.name = 0) :=
  ⟨(chain.filter (·.enabled)).ascending,
    fun _ member => chain.count_calls named (part.trans List.filter_sublist) member⟩

end Chain

namespace Snapshot

variable {factories : Table Factory}

/-- The source of an item is what the factory of its kind builds, in the place of the item. -/
theorem sourceOf?_eq_some {name : String} {bag : Bag} {entry : Entry Source}
    (h : sourceOf? factories name bag = .ok (some entry)) :
    ∃ kind factory, bag.kind? = some kind ∧ factories.get? kind = some factory ∧
      factory.build name bag = .ok entry.service ∧
      entry.name = name ∧ entry.order = bag.order? ∧ entry.enabled = bag.enabled := by
  unfold sourceOf? at h
  split at h
  · cases h
  · rename_i kind declared
    split at h
    · cases h
    · rename_i factory known
      split at h
      · cases h
      · rename_i source built
        cases h
        exact ⟨kind, factory, declared, known, built, rfl, rfl, rfl⟩

/-- The source of an item stands where the item's bag puts it. -/
theorem place_of_sourceOf? {name : String} {bag : Bag} {entry : Entry Source}
    (h : sourceOf? factories name bag = .ok (some entry)) :
    entry.name = name ∧ entry.order = bag.order? ∧ entry.enabled = bag.enabled := by
  obtain ⟨kind, factory, -, -, -, place⟩ := sourceOf?_eq_some h
  exact place

/-- Items are sources if the first is, or is none, and the others are. -/
theorem sources_cons_eq_ok {name : String} {bag : Bag} {rest : List (String × Bag)}
    {entries : List (Entry Source)} (h : sources factories ((name, bag) :: rest) = .ok entries) :
    ∃ source others, sourceOf? factories name bag = .ok source ∧
      sources factories rest = .ok others ∧ entries = source.toList ++ others := by
  obtain ⟨source, found, h⟩ := Except.bind_eq_ok h
  obtain ⟨others, built, h⟩ := Except.bind_eq_ok h
  exact ⟨source, others, found, built, (Except.ok.inj h).symm⟩

/-- The sources of some items stand under the names of these items, in their order. -/
theorem names_of_sources {items : List (String × Bag)} {entries : List (Entry Source)}
    (h : sources factories items = .ok entries) :
    (entries.map (·.name)).Sublist (items.map (·.1)) := by
  induction items generalizing entries with
  | nil =>
    cases h
    exact .slnil
  | cons item rest ih =>
    obtain ⟨name, bag⟩ := item
    obtain ⟨source, others, found, built, rfl⟩ := sources_cons_eq_ok h
    cases source with
    | none => exact (ih built).cons name
    | some entry =>
      obtain ⟨rfl, -, -⟩ := place_of_sourceOf? found
      exact (ih built).cons_cons entry.name

/-- The parts of some sources keep their names. -/
theorem names_of_parts (part : Source → Option α) (entries : List (Entry Source)) :
    ((entries.filterMap (·.part? part)).map (·.name)).Sublist (entries.map (·.name)) := by
  induction entries with
  | nil => exact .slnil
  | cons entry rest ih =>
    cases found : part entry.service with
    | none =>
      have none : entry.part? part = none := by rw [Entry.part?, found]; rfl
      simp only [List.filterMap_cons, none]
      exact ih.cons entry.name
    | some service =>
      have some : entry.part? part =
          some ⟨entry.name, entry.order, entry.enabled, service⟩ := by rw [Entry.part?, found]; rfl
      simp only [List.filterMap_cons, some]
      exact ih.cons_cons entry.name

/-- The parts of the sources of a configuration, put in order, are a chain. -/
theorem chain_parts {items : Configuration} {entries : List (Entry Source)}
    (built : sources factories items.entries = .ok entries) (part : Source → Option α) :
    Chain (sortByRank Entry.rank (entries.filterMap (·.part? part))) := by
  have names := items.keys_nodup.sublist (names_of_sources built)
  exact .sorted (names.sublist (names_of_parts part entries))

section Built

variable {version : Nat} {items : Configuration} {snapshot : Snapshot}

/-- The providers that a configuration describes are a chain. -/
theorem chain_providers_of_build (h : build factories version items = .ok snapshot) :
    Chain snapshot.providers := by
  obtain ⟨entries, built, rfl⟩ := build_eq_ok h
  exact chain_parts built Source.provider?

/-- The lookup services that a configuration describes are a chain. -/
theorem chain_lookups_of_build (h : build factories version items = .ok snapshot) :
    Chain snapshot.lookups := by
  obtain ⟨entries, built, rfl⟩ := build_eq_ok h
  exact chain_parts built Source.lookup?

end Built

end Snapshot

end IdentityChain
