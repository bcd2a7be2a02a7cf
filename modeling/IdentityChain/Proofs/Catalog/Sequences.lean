import IdentityChain.Proofs.Catalog.Refusals
import IdentityChain.Simulation.ScriptedSource
import Mathlib.Data.Bool.Basic
import Mathlib.Data.Prod.Lex

/-!
# One priority sequence

All sources of a configuration stand in one sequence, and both chains of its
snapshot are cut from it: sorting the parts of the sources is taking the parts
of the sorted sources (`sortByRank_parts`). So two items that can do both stand
the same way in both chains.

With the faults of building this determines what building does: a configuration
without refused items has exactly one snapshot of a version, and
`Configuration.Describes` says which (`Snapshot.build_eq_ok_iff`).
-/

namespace IdentityChain

variable {α : Type} {factories : Table Factory} {items : Configuration}

/-! ## Keys -/

/-- The place in the priority sequence as a key: entries without an order come last, the others by
their order; then the bytes of the names decide. -/
def Rank.key (rank : Rank) : Bool ×ₗ Int ×ₗ List UInt8 :=
  toLex (rank.order.isNone, toLex ((rank.order.getD 0).toInt, Text.bytes rank.name))

/-- Ranks stand in the order of their keys. -/
theorem Rank.before_iff_key_lt {a b : Rank} : a.Before b ↔ a.key < b.key := by
  obtain ⟨x, n⟩ := a
  obtain ⟨y, m⟩ := b
  unfold key
  rw [Prod.Lex.toLex_lt_toLex, Prod.Lex.toLex_lt_toLex, ← Text.lt_iff_bytes_lt]
  cases x <;> cases y <;> simp [Before, Int64.lt_iff_toInt_lt, Int64.toInt_inj]

/-- Different ranks have different keys. -/
theorem Rank.key_inj {a b : Rank} : a.key = b.key ↔ a = b := by
  refine ⟨fun same => ?_, fun same => same ▸ rfl⟩
  have stuck : ∀ {c d : Rank}, c.key = d.key → ¬ c.Before d := by
    intro c d same before
    rw [before_iff_key_lt, same, ← before_iff_key_lt] at before
    exact before.irrefl
  rcases Before.total a b with before | eq | after
  · exact (stuck same before).elim
  · exact eq
  · exact (stuck same.symm after).elim

/-! ## Sorting and taking parts -/

/-- The parts of sources in strict order are in strict order. -/
theorem Chain.parts {entries : List (Entry Source)} (chain : Chain entries)
    (part : Source → Option α) : Chain (entries.filterMap (·.part? part)) where
  distinct := chain.distinct.sublist (Snapshot.names_of_parts part entries)
  ascending := by
    refine chain.ascending.filterMap _ fun a b before x made y made' => ?_
    obtain ⟨-, name, order, -⟩ := Entry.part?_eq_some_iff.1 made
    obtain ⟨-, name', order', -⟩ := Entry.part?_eq_some_iff.1 made'
    rw [Entry.rank, Entry.rank, name, order, name', order']
    exact before

/-- The parts of some sources in priority order are cut from the sources in priority order. -/
theorem sortByRank_parts {entries : List (Entry Source)}
    (distinct : (entries.map (·.name)).Nodup) (part : Source → Option α) :
    sortByRank Entry.rank (entries.filterMap (·.part? part)) =
      (sortByRank Entry.rank entries).filterMap (·.part? part) := by
  have parts := Chain.sorted (distinct.sublist (Snapshot.names_of_parts part entries))
  refine parts.ext ((Chain.sorted distinct).parts part) fun entry => ?_
  rw [(sortByRank_perm Entry.rank _).mem_iff]
  exact (((sortByRank_perm Entry.rank entries).filterMap _).mem_iff).symm

theorem names_of_sorted_parts {entries : List (Entry Source)}
    (distinct : (entries.map (·.name)).Nodup) (part : Source → Option α) :
    ((sortByRank Entry.rank (entries.filterMap (·.part? part))).map (·.name)).Sublist
      ((sortByRank Entry.rank entries).map (·.name)) := by
  rw [sortByRank_parts distinct]
  exact Snapshot.names_of_parts part _

section Parts

variable [DecidableEq α] {part whole : List α}

/-- A part of a list without repetitions is what is left of the list when all else is taken out. -/
theorem filter_mem_eq_part (sub : part.Sublist whole) (distinct : whole.Nodup) :
    whole.filter (· ∈ part) = part := by
  induction sub with
  | slnil => rfl
  | @cons part whole x sub ih =>
    obtain ⟨fresh, distinct⟩ := List.nodup_cons.1 distinct
    have absent : x ∉ part := fun member => fresh (sub.subset member)
    rw [List.filter_cons_of_neg (by simpa using absent), ih distinct]
  | @cons_cons part whole x sub ih =>
    obtain ⟨fresh, distinct⟩ := List.nodup_cons.1 distinct
    have same : whole.filter (· ∈ x :: part) = whole.filter (· ∈ part) := by
      refine List.filter_congr fun y member => ?_
      have ne : y ≠ x := fun eq => fresh (eq ▸ member)
      rw [decide_eq_decide, List.mem_cons, or_iff_right ne]
    rw [List.filter_cons_of_pos (by simp), same, ih distinct]

/-- Two members of a part of a list stand in the part as they stand in the whole. -/
theorem pair_sublist_iff (sub : part.Sublist whole) (distinct : whole.Nodup) {a b : α}
    (first : a ∈ part) (second : b ∈ part) : [a, b].Sublist part ↔ [a, b].Sublist whole := by
  constructor
  · exact fun pair => pair.trans sub
  · intro pair
    have kept : [a, b].filter (· ∈ part) = [a, b] := by simp [first, second]
    have cut := pair.filter (· ∈ part)
    rw [filter_mem_eq_part sub distinct, kept] at cut
    exact cut

end Parts

/-! ## What a configuration describes -/

/-- The entry is one part of the source that the factory of its item's kind builds, in the place
that the item's bag gives it. -/
def Entry.OfItem (factories : Table Factory) (items : Configuration) (part : Source → Option α)
    (entry : Entry α) : Prop :=
  ∃ bag kind factory source, items.get? entry.name = some bag ∧ bag.kind? = some kind ∧
    factories.get? kind = some factory ∧ factory.build entry.name bag = .ok source ∧
    part source = some entry.service ∧ entry.order = bag.order? ∧ entry.enabled = bag.enabled

/-- The kind, the place and the switch of an entry are what stands in the JSON of its item. -/
theorem Entry.OfItem.written {part : Source → Option α} {entry : Entry α}
    (described : entry.OfItem factories items part) :
    ∃ bag kind, items.get? entry.name = some bag ∧ bag.get? "type" = some (.str kind) ∧
      (factories.get? kind).isSome = true ∧
      (∀ n : Int64, entry.order = some n ↔ bag.get? "order" = some (.int n.toInt)) ∧
      (entry.enabled = false ↔ bag.get? "enabled" = some (.bool false)) := by
  obtain ⟨bag, kind, factory, -, present, declared, known, -, -, order, enabled⟩ := described
  refine ⟨bag, kind, present, Bag.kind?_eq_some_iff.1 declared, Option.isSome_of_eq_some known,
    fun n => ?_, ?_⟩
  · rw [order, Bag.order?_eq_some_iff]
  · rw [enabled, Bag.enabled_eq_false_iff]

/-- The entries are the parts of the items' sources, each once, in the order of their keys. -/
structure Configuration.Lists (factories : Table Factory) (items : Configuration)
    (part : Source → Option α) (entries : List (Entry α)) : Prop where
  mem_iff : ∀ entry, entry ∈ entries ↔ entry.OfItem factories items part
  once : (entries.map (·.name)).Nodup
  ascending : entries.Pairwise fun a b => a.rank.key < b.rank.key

/-- What the snapshot of a configuration is. -/
structure Configuration.Describes (factories : Table Factory) (items : Configuration)
    (version : Nat) (snapshot : Snapshot) : Prop where
  version_eq : snapshot.version = version
  providers : items.Lists factories Source.provider? snapshot.providers
  lookups : items.Lists factories Source.lookup? snapshot.lookups
  /-- Items that stand in both chains stand the same way in both. -/
  aligned : ∀ a b, a ∈ snapshot.providers.map (·.name) → a ∈ snapshot.lookups.map (·.name) →
    b ∈ snapshot.providers.map (·.name) → b ∈ snapshot.lookups.map (·.name) →
    ([a, b].Sublist (snapshot.providers.map (·.name)) ↔
      [a, b].Sublist (snapshot.lookups.map (·.name)))
  /-- A lookup service is found under its name whatever its switch says, and nothing else is. -/
  lookup?_iff : ∀ name entry, snapshot.lookup? name = some entry ↔
    entry ∈ snapshot.lookups ∧ entry.name = name

theorem Entry.builtFrom_iff_ofItem {part : Source → Option α} {entry : Entry α} :
    entry.BuiltFrom factories items part ↔ entry.OfItem factories items part := by
  constructor
  · rintro ⟨bag, source, present, found, made⟩
    obtain ⟨service, -, order, enabled⟩ := part?_eq_some_iff.1 made
    obtain ⟨kind, factory, declared, known, built, -, place, switch⟩ :=
      Snapshot.sourceOf?_eq_some found
    exact ⟨bag, kind, factory, source.service, present, declared, known, built, service,
      order.trans place, enabled.trans switch⟩
  · rintro ⟨bag, kind, factory, source, present, declared, known, built, service, order, enabled⟩
    refine ⟨bag, ⟨entry.name, bag.order?, bag.enabled, source⟩, present, ?_,
      part?_eq_some_iff.2 ⟨service, rfl, order, enabled⟩⟩
    rw [Snapshot.sourceOf?, declared]
    dsimp only
    rw [known]
    dsimp only
    rw [built]

/-- A chain of what the items build is listed by them. -/
theorem Chain.lists {part : Source → Option α} {entries : List (Entry α)} (chain : Chain entries)
    (members : ∀ entry, entry ∈ entries ↔ entry.BuiltFrom factories items part) :
    items.Lists factories part entries where
  mem_iff entry := (members entry).trans Entry.builtFrom_iff_ofItem
  once := chain.distinct
  ascending := chain.ascending.imp Rank.before_iff_key_lt.1

/-- The items list one chain only. -/
theorem Configuration.Lists.unique {part : Source → Option α} {entries others : List (Entry α)}
    (lists : items.Lists factories part entries) (lists' : items.Lists factories part others) :
    entries = others := by
  have chain : Chain entries := ⟨lists.once, lists.ascending.imp Rank.before_iff_key_lt.2⟩
  have chain' : Chain others := ⟨lists'.once, lists'.ascending.imp Rank.before_iff_key_lt.2⟩
  exact chain.ext chain' fun entry => (lists.mem_iff entry).trans (lists'.mem_iff entry).symm

/-- A configuration describes one snapshot of a version only. -/
theorem Configuration.Describes.unique {version : Nat} {snapshot other : Snapshot}
    (describes : items.Describes factories version snapshot)
    (describes' : items.Describes factories version other) : snapshot = other := by
  obtain ⟨number, providers, lookups⟩ := snapshot
  obtain ⟨number', providers', lookups'⟩ := other
  have version_eq : number = number' := describes.version_eq.trans describes'.version_eq.symm
  have providers_eq : providers = providers' := describes.providers.unique describes'.providers
  have lookups_eq : lookups = lookups' := describes.lookups.unique describes'.lookups
  rw [version_eq, providers_eq, lookups_eq]

/-! ## Built snapshots -/

namespace Snapshot

variable {version : Nat} {snapshot : Snapshot}

/-- The names in both chains are cut from one sequence of names. -/
theorem names_of_build (h : build factories version items = .ok snapshot) :
    ∃ names : List String, names.Nodup ∧ (snapshot.providers.map (·.name)).Sublist names ∧
      (snapshot.lookups.map (·.name)).Sublist names := by
  obtain ⟨entries, built, rfl⟩ := build_eq_ok h
  have distinct := items.keys_nodup.sublist (names_of_sources built)
  exact ⟨(sortByRank Entry.rank entries).map (·.name), (Chain.sorted distinct).distinct,
    names_of_sorted_parts distinct _, names_of_sorted_parts distinct _⟩

/-- In a chain an entry is found under its name. -/
theorem find?_name_iff {entries : List (Entry α)} (distinct : (entries.map (·.name)).Nodup)
    {name : String} {entry : Entry α} :
    entries.find? (·.name == name) = some entry ↔ entry ∈ entries ∧ entry.name = name := by
  constructor
  · intro found
    have named := List.find?_some found
    exact ⟨List.mem_of_find?_eq_some found, beq_iff_eq.1 named⟩
  · rintro ⟨member, rfl⟩
    cases found : entries.find? (·.name == entry.name) with
    | none => exact absurd (List.find?_eq_none.1 found entry member) (by simp)
    | some other =>
      have named := List.find?_some found
      have listed := List.mem_of_find?_eq_some found
      rw [List.inj_on_of_nodup_map distinct listed member (beq_iff_eq.1 named)]

/-- A snapshot is what its configuration describes. -/
theorem describes_of_build (h : build factories version items = .ok snapshot) :
    items.Describes factories version snapshot where
  version_eq := version_of_build h
  providers := (chain_providers_of_build h).lists fun _ => mem_providers_iff h
  lookups := (chain_lookups_of_build h).lists fun _ => mem_lookups_iff h
  aligned a b provider service provider' service' := by
    obtain ⟨names, distinct, providers, lookups⟩ := names_of_build h
    rw [pair_sublist_iff providers distinct provider provider',
      pair_sublist_iff lookups distinct service service']
  lookup?_iff name entry := find?_name_iff (chain_lookups_of_build h).distinct

/-- Building gives the snapshot that the configuration describes, if none of the items is
refused. -/
theorem build_eq_ok_iff : build factories version items = .ok snapshot ↔
    (∀ name bag reason, items.get? name = some bag → ¬ bag.Refused factories name reason) ∧
      items.Describes factories version snapshot := by
  rw [← buildable_iff_none_refused]
  constructor
  · exact fun built => ⟨.of_build built, describes_of_build built⟩
  · rintro ⟨buildable, describes⟩
    obtain ⟨other, built⟩ := buildable.build version
    rw [built, describes.unique (describes_of_build built)]

end Snapshot

/-- A configuration fails to build exactly if some item is refused. The fault is then that of the
refused item whose name comes first by its bytes, whatever its switch says; otherwise the snapshot
is the one that the configuration describes. -/
theorem build_refuses_or_describes (factories : Table Factory) (version : Nat)
    (items : Configuration) :
    ((∃ fault, Snapshot.build factories version items = .error fault) ↔
      ∃ name bag reason, items.get? name = some bag ∧ bag.Refused factories name reason) ∧
    (∀ fault, Snapshot.build factories version items = .error fault ↔
      ∃ name reason, items.FirstRefused factories name reason ∧
        fault = .configurationInvalid name reason) ∧
    ∀ snapshot, Snapshot.build factories version items = .ok snapshot ↔
      (∀ name bag reason, items.get? name = some bag → ¬ bag.Refused factories name reason) ∧
        items.Describes factories version snapshot := by
  refine ⟨⟨?_, ?_⟩, fun fault => Snapshot.build_eq_error_iff, fun snapshot =>
    Snapshot.build_eq_ok_iff⟩
  · rintro ⟨fault, failed⟩
    obtain ⟨name, reason, ⟨⟨bag, present, refused⟩, -⟩, -⟩ := Snapshot.build_eq_error_iff.1 failed
    exact ⟨name, bag, reason, present, refused⟩
  · rintro ⟨name, bag, reason, present, refused⟩
    cases built : Snapshot.build factories version items with
    | error fault => exact ⟨fault, rfl⟩
    | ok snapshot =>
      exact ((Snapshot.build_eq_ok_iff.1 built).1 name bag reason present refused).elim

/-- Of two refused items the one that comes first by name is reported, though it is disabled. -/
example : Snapshot.build Table.empty 1
    (Table.ofList [("b", Table.ofList [("type", .str "ghost")]),
      ("a", Table.ofList [("enabled", .bool false), ("type", .str "wraith")])]) =
    .error (.configurationInvalid "a" "unknown type `wraith`") := by
  rfl

/-- Two sources of both capabilities, one without an order, a disabled lookup service before them,
and a block of settings. -/
theorem build_refuses_or_describes_rehearsal :
    let factories := Factory.byKind [Script.factory "stub" "A"]
    let items : Configuration := Table.ofList
      [("a", Table.ofList [("order", .str "first"), ("type", .str "stub")]),
        ("b", Table.ofList [("order", .int 2), ("type", .str "stub")]),
        ("c", Table.ofList [("enabled", .bool false), ("order", .int 1), ("role", .str "lookup"),
          ("type", .str "stub")]),
        ("d", Table.ofList [("note", .str "none")])]
    ∃ snapshot, Snapshot.build factories 1 items = .ok snapshot ∧
      snapshot.providers.map Entry.rank = [⟨some 2, "b"⟩, ⟨none, "a"⟩] ∧
      snapshot.lookups.map Entry.rank = [⟨some 1, "c"⟩, ⟨some 2, "b"⟩, ⟨none, "a"⟩] ∧
      items.Describes factories 1 snapshot ∧
      ∃ entry, snapshot.lookup? "c" = some entry ∧ entry.enabled = false := by
  intro factories items
  obtain ⟨-, -, describes⟩ := build_refuses_or_describes factories 1 items
  obtain ⟨snapshot, built, providers, lookups⟩ : ∃ snapshot,
      Snapshot.build factories 1 items = .ok snapshot ∧
      snapshot.providers.map Entry.rank = [⟨some 2, "b"⟩, ⟨none, "a"⟩] ∧
      snapshot.lookups.map Entry.rank = [⟨some 1, "c"⟩, ⟨some 2, "b"⟩, ⟨none, "a"⟩] :=
    ⟨_, rfl, rfl, rfl⟩
  have described := ((describes snapshot).1 built).2
  have ranked : ⟨some 1, "c"⟩ ∈ snapshot.lookups.map Entry.rank := by
    rw [lookups]
    exact List.mem_cons_self
  obtain ⟨entry, member, rank⟩ := List.mem_map.1 ranked
  have name : entry.name = "c" := congrArg Rank.name rank
  have here : (items.get? "c").bind (·.get? "enabled") = some (.bool false) := by rfl
  obtain ⟨bag, -, present, -, -, -, disabled⟩ :=
    ((described.lookups.mem_iff entry).1 member).written
  rw [name] at present
  rw [present] at here
  exact ⟨snapshot, built, providers, lookups, described, entry,
    (described.lookup?_iff "c" entry).2 ⟨member, name⟩, disabled.2 here⟩

end IdentityChain
