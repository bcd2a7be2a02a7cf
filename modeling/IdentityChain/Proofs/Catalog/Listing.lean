import IdentityChain.Proofs.Catalog.Membership
import IdentityChain.Proofs.Catalog.Sequences
import IdentityChain.Registry.Basic

/-!
# The listing of a snapshot

A listing joins two sources: the entries of a snapshot, whose places were fixed
when it was built, and the bags that are stored now (`Snapshot.joined`). It puts
the items in strict priority order, a provider before the lookup service of the
same item (`Item.Ahead`).

Where the snapshot is the one that the stored items build, both sources name the
same places. Then the enabled items of each capability are the chain that
sign-in or resolution walks: both are in strict order and have the same ranks.
-/

namespace IdentityChain

/-! ## The order of items -/

namespace Item

/-- The place of an item in the priority sequence. -/
def rank (item : Item) : Rank := ⟨item.order, item.name⟩

/-- An item stands before those of a later rank, a provider also before the lookup service of the
same rank. -/
def Ahead (a b : Item) : Prop :=
  a.rank.Before b.rank ∨ (a.rank = b.rank ∧ a.kind = .signIn ∧ b.kind = .lookup)

/-- The place of an item in a listing as a key: that of its rank, then providers come first. -/
def key (item : Item) : (Bool ×ₗ Int ×ₗ List UInt8) ×ₗ Bool :=
  toLex (item.rank.key, decide (item.kind = .lookup))

/-- Items stand in the order of their keys. -/
theorem ahead_iff_key_lt {a b : Item} : a.Ahead b ↔ a.key < b.key := by
  unfold Ahead key
  rw [Prod.Lex.toLex_lt_toLex, Rank.before_iff_key_lt, Rank.key_inj]
  cases a.kind <;> cases b.kind <;> simp

/-- Whether an item is an enabled source of a capability. -/
def offers (kind : Capability) (item : Item) : Bool := item.enabled && decide (item.kind = kind)

theorem kind_of_offers {kind : Capability} {item : Item} (offered : item.offers kind = true) :
    item.kind = kind :=
  of_decide_eq_true (Bool.and_eq_true_iff.1 offered).2

theorem listedBefore_iff {a b : Item} : Registry.listedBefore a b = true ↔ a.Ahead b := by
  unfold Registry.listedBefore
  rw [Bool.or_eq_true, Bool.and_eq_true, decide_eq_true_iff, decide_eq_true_iff, decide_eq_true_iff]
  rfl

theorem Ahead.asymm {a b : Item} (ab : a.Ahead b) : ¬ b.Ahead a := by
  rintro (ba | ⟨same, provider, service⟩)
  · rcases ab with ab | ⟨same, -, -⟩
    · exact Rank.Before.irrefl _ (ab.trans ba)
    · exact Rank.Before.irrefl _ (same ▸ ba)
  · rcases ab with ab | ⟨-, provider', service'⟩
    · exact Rank.Before.irrefl _ (same ▸ ab)
    · cases provider.symm.trans service'

/-- Items of different names or capabilities stand one before the other. -/
theorem Ahead.total {a b : Item} (different : (a.name, a.kind) ≠ (b.name, b.kind)) :
    a.Ahead b ∨ b.Ahead a := by
  rcases Rank.Before.total a.rank b.rank with before | same | after
  · exact .inl (.inl before)
  · have name : a.name = b.name := congrArg Rank.name same
    cases first : a.kind <;> cases second : b.kind
    · exact (different (by rw [name, first, second])).elim
    · exact .inl (.inr ⟨same, first, second⟩)
    · exact .inr (.inr ⟨same.symm, second, first⟩)
    · exact (different (by rw [name, first, second])).elim
  · exact .inr (.inl after)

theorem Ahead.split {a b : Item} (ab : a.Ahead b) (c : Item) : a.Ahead c ∨ c.Ahead b := by
  rcases ab with ab | ⟨same, provider, service⟩
  · exact (ab.split c.rank).imp .inl .inl
  · rcases Rank.Before.total a.rank c.rank with before | here | after
    · exact .inl (.inl before)
    · cases kind : c.kind with
      | signIn => exact .inr (.inr ⟨here.symm.trans same, kind, service⟩)
      | lookup => exact .inl (.inr ⟨here, provider, kind⟩)
    · exact .inr (.inl (same ▸ after))

theorem strictWeak_listedBefore : StrictWeak Registry.listedBefore where
  asymm ab := eq_false_of_ne_true fun ba => (listedBefore_iff.1 ab).asymm (listedBefore_iff.1 ba)
  split c ab := ((listedBefore_iff.1 ab).split c).imp listedBefore_iff.2 listedBefore_iff.2

/-- Items of different names or capabilities are put in strict order. -/
theorem sorted {items : List Item}
    (distinct : (items.map fun item => (item.name, item.kind)).Nodup) :
    (sortBy Registry.listedBefore items).Pairwise Ahead := by
  refine (sortBy_strict strictWeak_listedBefore ?_ distinct).imp listedBefore_iff.1
  exact fun ne => (Ahead.total ne).imp listedBefore_iff.2 listedBefore_iff.2

/-- The enabled items of one capability stand in strict order of their ranks. -/
theorem ranks_offers {items : List Item} (ordered : items.Pairwise Ahead) (kind : Capability) :
    ((items.filter (offers kind)).map rank).Pairwise Rank.Before := by
  refine List.pairwise_map.2 ((ordered.filter _).imp_of_mem ?_)
  intro a b first second ahead
  rcases ahead with before | ⟨-, provider, service⟩
  · exact before
  · have here := kind_of_offers (List.mem_filter.1 first).2
    have there := kind_of_offers (List.mem_filter.1 second).2
    cases (provider.symm.trans here).trans (service.symm.trans there).symm

end Item

/-! ## Entries and their bags -/

namespace Snapshot

variable {α : Type}

/-- The items of a chain, each with its current bag. -/
def itemsOf (kind : Capability) (current : Configuration) (chain : List (Entry α)) : List Item :=
  chain.map fun entry => Item.ofBag entry.name kind ((current.get? entry.name).getD .empty)

theorem filter_itemsOf_of_ne {kind other : Capability} (ne : kind ≠ other) (current : Configuration)
    (chain : List (Entry α)) : (itemsOf kind current chain).filter (Item.offers other) = [] := by
  refine List.filter_eq_nil_iff.2 fun item member => ?_
  obtain ⟨entry, -, rfl⟩ := List.mem_map.1 member
  exact fun offered => ne (Item.kind_of_offers offered)

/-- The enabled items of a chain whose places are those of the current bags have the ranks of its
enabled entries. -/
theorem ranks_itemsOf {kind : Capability} {current : Configuration} {chain : List (Entry α)}
    (reads : ∀ entry ∈ chain, entry.Reads current) :
    ((itemsOf kind current chain).filter (Item.offers kind)).map Item.rank =
      (chain.filter (·.enabled)).map Entry.rank := by
  induction chain with
  | nil => rfl
  | cons entry rest ih =>
    have others := ih fun other member => reads other (List.mem_cons_of_mem _ member)
    obtain ⟨bag, present, order, enabled⟩ := reads entry List.mem_cons_self
    have shown : Item.ofBag entry.name kind ((current.get? entry.name).getD .empty) =
        ⟨entry.name, kind, entry.order, entry.enabled, bag⟩ := by
      rw [present, order, enabled]
      rfl
    rw [itemsOf, List.map_cons, shown, ← itemsOf, List.filter_cons, List.filter_cons, Item.offers,
      decide_eq_true rfl, Bool.and_true]
    cases entry.enabled with
    | true => exact congrArg (entry.rank :: ·) others
    | false => exact others

variable {snapshot : Snapshot} {current : Configuration}

/-- Every entry of a snapshot with its current bag. -/
def joined (snapshot : Snapshot) (current : Configuration) : List Item :=
  snapshot.entries.map fun (name, kind) => Item.ofBag name kind ((current.get? name).getD .empty)

theorem joined_eq_append (snapshot : Snapshot) (current : Configuration) :
    snapshot.joined current =
      itemsOf .signIn current snapshot.providers ++ itemsOf .lookup current snapshot.lookups := by
  rw [joined, entries, List.map_append, List.map_map, List.map_map]
  rfl

theorem entries_joined (snapshot : Snapshot) (current : Configuration) :
    (snapshot.joined current).map (fun item => (item.name, item.kind)) = snapshot.entries := by
  rw [joined, List.map_map]
  exact List.map_id' snapshot.entries

/-- An entry whose item is stored is shown with the stored bag, and with its place and switch. -/
theorem properties_of_mem_joined
    (stored : ∀ entry ∈ snapshot.entries, (current.get? entry.1).isSome = true) {item : Item}
    (member : item ∈ snapshot.joined current) :
    current.get? item.name = some item.properties ∧
      item.order = item.properties.order? ∧ item.enabled = item.properties.enabled := by
  obtain ⟨⟨name, kind⟩, listed, rfl⟩ := List.mem_map.1 member
  obtain ⟨bag, present⟩ := Option.isSome_iff_exists.1 (stored _ listed)
  dsimp only
  rw [present]
  exact ⟨present, rfl, rfl⟩

/-- The listing of a snapshot over the items that are stored. -/
def listing (snapshot : Snapshot) (current : Configuration) : List Item :=
  sortBy Registry.listedBefore (snapshot.joined current)

theorem listing_perm (snapshot : Snapshot) (current : Configuration) :
    (snapshot.listing current).Perm (snapshot.joined current) := sortBy_perm _ _

theorem listing_ordered (distinct : snapshot.entries.Nodup) :
    (snapshot.listing current).Pairwise Item.Ahead :=
  Item.sorted (by rw [entries_joined]; exact distinct)

/-- Where the entries of a capability have the places of the current bags, its enabled items are
listed in the order of its enabled entries. -/
theorem ranks_listing {kind : Capability} {chain : List (Entry α)}
    (distinct : snapshot.entries.Nodup)
    (only : (snapshot.joined current).filter (Item.offers kind) =
      (itemsOf kind current chain).filter (Item.offers kind))
    (ordered : Chain chain) (reads : ∀ entry ∈ chain, entry.Reads current) :
    ((snapshot.listing current).filter (Item.offers kind)).map Item.rank =
      (chain.filter (·.enabled)).map Entry.rank := by
  have perm := ((snapshot.listing_perm current).filter (Item.offers kind)).map Item.rank
  rw [only, ranks_itemsOf reads] at perm
  have ahead : (snapshot.listing current).Pairwise Item.Ahead := listing_ordered distinct
  have listed := Item.ranks_offers ahead kind
  have walked : ((chain.filter (·.enabled)).map Entry.rank).Pairwise Rank.Before :=
    List.pairwise_map.2 (ordered.filter (·.enabled)).ascending
  exact perm.eq_of_pairwise
    (fun a b _ _ ab ba => (Rank.Before.irrefl a (ab.trans ba)).elim) listed walked

/-- The entries of two chains are different by name or by capability. -/
theorem nodup_entries (providers : Chain snapshot.providers) (lookups : Chain snapshot.lookups) :
    snapshot.entries.Nodup := by
  have named {β : Type} {chain : List (Entry β)} (kind : Capability) (ordered : Chain chain) :
      (chain.map fun entry => (entry.name, kind)).Nodup := by
    refine .of_map Prod.fst ?_
    rw [List.map_map]
    exact ordered.distinct
  refine List.nodup_append.2 ⟨named .signIn providers, named .lookup lookups, ?_⟩
  intro provider offered service found same
  obtain ⟨_, -, rfl⟩ := List.mem_map.1 offered
  obtain ⟨_, -, rfl⟩ := List.mem_map.1 found
  cases congrArg Prod.snd same

section Built

variable {factories : Table Factory} {version : Nat}

/-- Every entry of a snapshot stands under the name of an item that it was built from. -/
theorem stored_of_build (h : build factories version current = .ok snapshot) :
    ∀ entry ∈ snapshot.entries, (current.get? entry.1).isSome = true := by
  intro entry member
  rcases List.mem_append.1 member with provider | service
  · obtain ⟨source, listed, rfl⟩ := List.mem_map.1 provider
    obtain ⟨bag, present, -⟩ := reads_providers_of_build h source listed
    exact Option.isSome_of_eq_some present
  · obtain ⟨source, listed, rfl⟩ := List.mem_map.1 service
    obtain ⟨bag, present, -⟩ := reads_lookups_of_build h source listed
    exact Option.isSome_of_eq_some present

/-- The listing of the items that the snapshot was built from shows its enabled providers. -/
theorem enabledProviders_of_listing (h : build factories version current = .ok snapshot) :
    ((snapshot.listing current).filter (Item.offers .signIn)).map Item.rank =
      snapshot.enabledProviders.map Entry.rank := by
  have providers := chain_providers_of_build h
  refine ranks_listing (nodup_entries providers (chain_lookups_of_build h)) ?_ providers
    (reads_providers_of_build h)
  have none : (itemsOf .lookup current snapshot.lookups).filter (Item.offers .signIn) = [] :=
    filter_itemsOf_of_ne (by decide) current _
  rw [joined_eq_append, List.filter_append, none, List.append_nil]

/-- The listing of the items that the snapshot was built from shows its enabled lookup services. -/
theorem enabledLookups_of_listing (h : build factories version current = .ok snapshot) :
    ((snapshot.listing current).filter (Item.offers .lookup)).map Item.rank =
      snapshot.enabledLookups.map Entry.rank := by
  have lookups := chain_lookups_of_build h
  refine ranks_listing (nodup_entries (chain_providers_of_build h) lookups) ?_ lookups
    (reads_lookups_of_build h)
  have none : (itemsOf .signIn current snapshot.providers).filter (Item.offers .lookup) = [] :=
    filter_itemsOf_of_ne (by decide) current _
  rw [joined_eq_append, List.filter_append, none, List.nil_append]

end Built

end Snapshot

end IdentityChain
