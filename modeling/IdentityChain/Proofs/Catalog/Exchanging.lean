import IdentityChain.Proofs.Catalog.Placing
import IdentityChain.Proofs.Configuration.Exchange
import Mathlib.Data.List.Nodup

/-!
# Exchanged orders in a chain

A configuration ranks its items, and the names in a chain stand in the sequence
of their ranks (`Configuration.InSequence`): one stands before another exactly
if its rank does (`InSequence.pair_iff`). An exchange of two orders leaves the
rank of every other item, so what becomes of a sequence is a matter of comparing
ranks before and after.

Whether the two items still offer a capability is up to their factories, which
see the order. All other items stay whatever the factories do (`OthersStay`), and
so do the two unless their factories read it (`mem_names_enabled_iff`). Where
they do stay they are exchanged (`ExchangedNames`).
-/

namespace IdentityChain

variable {α : Type}

/-! ## Sequences of names -/

theorem Rank.Before.asymm {a b : Rank} (ab : a.Before b) : ¬ b.Before a :=
  fun ba => irrefl a (ab.trans ba)

/-- Different orders decide alone. -/
theorem Rank.before_iff_of_ne {n m : Int64} (ne : n ≠ m) {x y : String} :
    Before ⟨some n, x⟩ ⟨some m, y⟩ ↔ n < m :=
  or_iff_left fun same => ne same.1

namespace Configuration

variable {items : Configuration} {names : List String} {x y : String}

/-- The place of an item in the priority sequence. -/
def rank (items : Configuration) (name : String) : Rank := ⟨items.order? name, name⟩

/-- The names stand in the priority sequence of the items. -/
def InSequence (items : Configuration) (names : List String) : Prop :=
  names.Pairwise fun x y => (items.rank x).Before (items.rank y)

theorem InSequence.nodup (ordered : items.InSequence names) : names.Nodup := by
  refine List.Pairwise.imp ?_ ordered
  rintro x y before rfl
  exact before.irrefl

/-- One name stands before another exactly if its rank does. -/
theorem InSequence.pair_iff (ordered : items.InSequence names) :
    [x, y].Sublist names ↔ x ∈ names ∧ y ∈ names ∧ (items.rank x).Before (items.rank y) := by
  constructor
  · intro pair
    refine ⟨pair.subset List.mem_cons_self, pair.subset (.tail _ List.mem_cons_self), ?_⟩
    exact List.pairwise_iff_forall_sublist.1 ordered pair
  · rintro ⟨first, second, before⟩
    obtain ⟨front, rest, rfl⟩ := List.append_of_mem first
    obtain ⟨-, -, ahead⟩ := List.pairwise_append.1 ordered
    rcases List.mem_append.1 second with early | late
    · exact (before.asymm (ahead y early x List.mem_cons_self)).elim
    · rcases List.mem_cons.1 late with rfl | late
      · exact (before.irrefl).elim
      · exact ((List.singleton_sublist.2 late).cons_cons x).trans (List.sublist_append_right _ _)

/-- Names of the same ranks stand alike in both sequences. -/
theorem InSequence.pair_congr {others : Configuration} {new : List String}
    (ordered : items.InSequence names) (ordered' : others.InSequence new)
    (memX : x ∈ new ↔ x ∈ names) (memY : y ∈ new ↔ y ∈ names)
    (rankX : others.rank x = items.rank x) (rankY : others.rank y = items.rank y) :
    [x, y].Sublist new ↔ [x, y].Sublist names := by
  rw [ordered.pair_iff, ordered'.pair_iff, memX, memY, rankX, rankY]

end Configuration

/-- An entry in its place has the rank of its item. -/
theorem Entry.Reads.rank_eq {items : Configuration} {entry : Entry α} (reads : entry.Reads items) :
    entry.rank = items.rank entry.name := by
  obtain ⟨bag, present, order, -⟩ := reads
  rw [rank, Configuration.rank, Configuration.order?, present, order]
  rfl

/-- The names of a chain stand in the sequence of the items that it was built from. -/
theorem Chain.inSequence {items : Configuration} {entries : List (Entry α)} (chain : Chain entries)
    (reads : ∀ entry ∈ entries, entry.Reads items) :
    items.InSequence (entries.map (·.name)) := by
  refine List.pairwise_map.2 (chain.ascending.imp_of_mem fun {a b} first second before => ?_)
  rw [← (reads a first).rank_eq, ← (reads b second).rank_eq]
  exact before

/-! ## Ranks before and after -/

section Ranks

variable {first second : String} {before after : Configuration}
  {firstOrder secondOrder : Int64} {old new : List String}

namespace Exchanged

section

variable (exchanged : Exchanged first second before after)
include exchanged

theorem rank_of_notMem {name : String} (other : name ∉ [first, second]) :
    after.rank name = before.rank name := by
  have notFirst : name ≠ first := fun eq => other (eq ▸ List.mem_cons_self)
  have notSecond : name ≠ second := fun eq => other (eq ▸ .tail _ List.mem_cons_self)
  rw [Configuration.rank, exchanged.order?_swap, Equiv.swap_apply_of_ne_of_ne notFirst notSecond,
    Configuration.rank]

theorem rank_first : after.rank first = ⟨before.order? second, first⟩ := by
  rw [Configuration.rank, exchanged.order?_swap, Equiv.swap_apply_left]

theorem rank_second : after.rank second = ⟨before.order? first, second⟩ := by
  rw [Configuration.rank, exchanged.order?_swap, Equiv.swap_apply_right]

/-- The one that an item is exchanged with takes the order of the item. -/
theorem rank_swap (name : String) :
    after.rank (Equiv.swap first second name) =
      ⟨before.order? name, Equiv.swap first second name⟩ := by
  rw [Configuration.rank, exchanged.order?_swap, Equiv.swap_apply_self]

/-- Two names with equal orders stand to each other as before. -/
theorem pair_kept (ordered : before.InSequence old) (ordered' : after.InSequence new)
    (here : [first, second] ⊆ old) (there : [first, second] ⊆ new)
    (same : before.order? first = before.order? second) :
    [first, second].Sublist new ↔ [first, second].Sublist old := by
  have isFirst : first ∈ [first, second] := List.mem_cons_self
  have isSecond : second ∈ [first, second] := .tail _ List.mem_cons_self
  have rankFirst : after.rank first = before.rank first := by
    rw [exchanged.rank_first, ← same, Configuration.rank]
  have rankSecond : after.rank second = before.rank second := by
    rw [exchanged.rank_second, same, Configuration.rank]
  exact ordered.pair_congr ordered' (iff_of_true (there isFirst) (here isFirst))
    (iff_of_true (there isSecond) (here isSecond)) rankFirst rankSecond

end

variable (exchanged : Exchanged first second before after)
  (hasFirst : before.order? first = some firstOrder)
  (hasSecond : before.order? second = some secondOrder)
include exchanged hasFirst hasSecond

/-- What takes the place of an item stands before what takes the place of a later one, if their
orders are not the same. -/
theorem before_swap {x y : String}
    (untied : ∀ n, before.order? x = some n → ∀ m, before.order? y = some m → n ≠ m)
    (ahead : (before.rank x).Before (before.rank y)) :
    (after.rank (Equiv.swap first second x)).Before (after.rank (Equiv.swap first second y)) := by
  rw [exchanged.rank_swap, exchanged.rank_swap]
  unfold Configuration.rank at ahead
  -- The two have an order, so an item without one is neither of them.
  have unmoved : ∀ {z}, before.order? z = none → Equiv.swap first second z = z := by
    intro z none
    refine Equiv.swap_apply_of_ne_of_ne ?_ ?_
    · rintro rfl
      cases hasFirst.symm.trans none
    · rintro rfl
      cases hasSecond.symm.trans none
  cases orderX : before.order? x with
  | some n =>
    cases orderY : before.order? y with
    | some m =>
      rw [orderX, orderY, Rank.before_iff_of_ne (untied n orderX m orderY)] at ahead
      exact (Rank.before_iff_of_ne (untied n orderX m orderY)).2 ahead
    | none => trivial
  | none =>
    cases orderY : before.order? y with
    | some m =>
      rw [orderX, orderY] at ahead
      exact ahead.elim
    | none =>
      rw [orderX, orderY] at ahead
      rw [unmoved orderX, unmoved orderY]
      exact ahead

/-- Two names with different orders change sides. -/
theorem pair_turned (ordered : before.InSequence old) (ordered' : after.InSequence new)
    (here : [first, second] ⊆ old) (there : [first, second] ⊆ new)
    (ne : firstOrder ≠ secondOrder) :
    [first, second].Sublist new ↔ [second, first].Sublist old := by
  have isFirst : first ∈ [first, second] := List.mem_cons_self
  have isSecond : second ∈ [first, second] := .tail _ List.mem_cons_self
  rw [ordered.pair_iff, ordered'.pair_iff, exchanged.rank_first, exchanged.rank_second,
    Configuration.rank, Configuration.rank, hasFirst, hasSecond, Rank.before_iff_of_ne ne.symm,
    Rank.before_iff_of_ne ne.symm]
  exact ⟨fun ⟨_, _, less⟩ => ⟨here isSecond, here isFirst, less⟩,
    fun ⟨_, _, less⟩ => ⟨there isFirst, there isSecond, less⟩⟩

/-- If no two orders are the same, the new sequence is the old one with the two exchanged. -/
theorem names_swapped (ordered : before.InSequence old) (ordered' : after.InSequence new)
    (others : ∀ name, name ∉ [first, second] → (name ∈ new ↔ name ∈ old))
    (here : [first, second] ⊆ old) (there : [first, second] ⊆ new)
    (untied : (old.filterMap before.order?).Nodup) :
    new = old.map (Equiv.swap first second) := by
  have sequence : after.InSequence (old.map (Equiv.swap first second)) := by
    refine List.pairwise_map.2 ((ordered.and (List.pairwise_filterMap.1 untied)).imp ?_)
    rintro x y ⟨ahead, different⟩
    exact exchanged.before_swap hasFirst hasSecond different ahead
  have perm : new.Perm (old.map (Equiv.swap first second)) := by
    refine (List.perm_ext_iff_of_nodup ordered'.nodup sequence.nodup).2 fun name => ?_
    rw [List.mem_map_of_involutive (Equiv.swap_apply_self first second)]
    by_cases listed : name ∈ [first, second]
    · refine iff_of_true (there listed) (here ?_)
      rcases List.mem_cons.1 listed with rfl | listed
      · rw [Equiv.swap_apply_left]
        exact .tail _ List.mem_cons_self
      · obtain rfl := List.mem_singleton.1 listed
        rw [Equiv.swap_apply_right]
        exact List.mem_cons_self
    · have notFirst : name ≠ first := fun eq => listed (eq ▸ List.mem_cons_self)
      have notSecond : name ≠ second := fun eq => listed (eq ▸ .tail _ List.mem_cons_self)
      rw [Equiv.swap_apply_of_ne_of_ne notFirst notSecond]
      exact others name listed
  exact perm.eq_of_pairwise (fun _ _ _ _ ab ba => (ab.asymm ba).elim) ordered' sequence

end Exchanged

end Ranks

/-- Some names apart, none comes or goes, and any two stand to each other as before. -/
structure OthersStay (named old new : List String) : Prop where
  mem_iff : ∀ name, name ∉ named → (name ∈ new ↔ name ∈ old)
  pair_iff : ∀ x y, x ∉ named → y ∉ named → ([x, y].Sublist new ↔ [x, y].Sublist old)

/-- The names in a chain of which two have exchanged their orders. -/
structure ExchangedNames (items : Configuration) (first second : String) (old new : List String) :
    Prop extends OthersStay [first, second] old new where
  /-- Nor does one of the two come or go. -/
  stay : ∀ name ∈ [first, second], (name ∈ new ↔ name ∈ old)
  /-- If both are in the chain, they change sides unless their orders are equal. -/
  turned : [first, second] ⊆ old → items.order? first ≠ items.order? second →
    ([first, second].Sublist new ↔ [second, first].Sublist old) ∧
      ([second, first].Sublist new ↔ [first, second].Sublist old)
  kept : [first, second] ⊆ old → items.order? first = items.order? second →
    ([first, second].Sublist new ↔ [first, second].Sublist old) ∧
      ([second, first].Sublist new ↔ [second, first].Sublist old)
  /-- If no two orders in the chain are the same, they take each other's place, and every other
  name keeps its own. -/
  swapped : [first, second] ⊆ old → (old.filterMap items.order?).Nodup →
    new = old.map (Equiv.swap first second)

/-- Sequences of ranks that are exchanged, where neither of the two comes or goes. -/
theorem Exchanged.names_exchanged {first second : String} {before after : Configuration}
    {firstOrder secondOrder : Int64} {old new : List String}
    (exchanged : Exchanged first second before after)
    (hasFirst : before.order? first = some firstOrder)
    (hasSecond : before.order? second = some secondOrder) (ordered : before.InSequence old)
    (ordered' : after.InSequence new) (others : OthersStay [first, second] old new)
    (stay : ∀ name ∈ [first, second], (name ∈ new ↔ name ∈ old)) :
    ExchangedNames before first second old new := by
  have there : [first, second] ⊆ old → [first, second] ⊆ new :=
    fun here name listed => (stay name listed).2 (here listed)
  have mirrored : ∀ {names}, [first, second] ⊆ names → [second, first] ⊆ names :=
    fun within name listed => within ((List.Perm.swap first second []).subset listed)
  refine ⟨others, stay, fun here different => ?turned, fun here same => ?kept,
    fun here untied => ?swapped⟩
  case turned =>
    have ne : firstOrder ≠ secondOrder := fun eq => different (by rw [hasFirst, hasSecond, eq])
    constructor
    · exact exchanged.pair_turned hasFirst hasSecond ordered ordered' here (there here) ne
    · exact exchanged.comm.pair_turned hasSecond hasFirst ordered ordered' (mirrored here)
        (mirrored (there here)) ne.symm
  case kept =>
    constructor
    · exact exchanged.pair_kept ordered ordered' here (there here) same
    · exact exchanged.comm.pair_kept ordered ordered' (mirrored here) (mirrored (there here))
        same.symm
  case swapped =>
    exact exchanged.names_swapped hasFirst hasSecond ordered ordered' others.mem_iff here
      (there here) untied

/-! ## Chains before and after -/

section Chains

variable {factories : Table Factory} {before after : Configuration} {part : Source → Option α}
  {entries others : List (Entry α)}

section Edited

variable {named keys : List String} (inner : keys ⊆ Bag.placeKeys) (outside : Bag.enabledKey ∉ keys)
include outside

/-- The switch of an item stays where the edit does not name it. -/
theorem Configuration.DiffersAt.enabled_eq (differs : before.DiffersAt named keys after)
    {entry old : Entry α} (reads : entry.Reads after) (reads' : old.Reads before)
    (same : entry.name = old.name) : entry.enabled = old.enabled := by
  obtain ⟨bag, present, -, enabled⟩ := reads
  obtain ⟨bag', present', -, enabled'⟩ := reads'
  obtain ⟨earlier, kept, -, agree⟩ := differs.earlier present
  obtain rfl : earlier = bag' := Option.some.inj (kept.symm.trans (same ▸ present'))
  rw [enabled, enabled', Bag.enabled, Bag.enabled, agree _ outside]

include inner

theorem mem_names_enabled_of_differs
    (members : ∀ entry, entry ∈ entries ↔ entry.BuiltFrom factories before part)
    (members' : ∀ entry, entry ∈ others ↔ entry.BuiltFrom factories after part)
    (differs : before.DiffersAt named keys after) {name : String}
    (ignores : name ∈ named → before.IgnoresAt factories keys name)
    (listed : name ∈ (others.filter (·.enabled)).map (·.name)) :
    name ∈ (entries.filter (·.enabled)).map (·.name) := by
  obtain ⟨entry, member, rfl⟩ := List.mem_map.1 listed
  obtain ⟨member, on⟩ := List.mem_filter.1 member
  have built := (members' entry).1 member
  obtain ⟨old, built', continues⟩ := built.continues inner ignores differs
  have same := differs.enabled_eq outside built.reads built'.reads continues.name_eq
  rw [same] at on
  exact List.mem_map.2
    ⟨old, List.mem_filter.2 ⟨(members old).2 built', on⟩, continues.name_eq.symm⟩

/-- An edit that leaves the switch lets no enabled entry come or go, unless the factory of an item
that it names reads what it changes. -/
theorem mem_names_enabled_iff
    (members : ∀ entry, entry ∈ entries ↔ entry.BuiltFrom factories before part)
    (members' : ∀ entry, entry ∈ others ↔ entry.BuiltFrom factories after part)
    (differs : before.DiffersAt named keys after) {name : String}
    (ignores : name ∈ named → before.IgnoresAt factories keys name) :
    name ∈ (others.filter (·.enabled)).map (·.name) ↔
      name ∈ (entries.filter (·.enabled)).map (·.name) :=
  ⟨mem_names_enabled_of_differs inner outside members members' differs ignores,
    mem_names_enabled_of_differs inner outside members' members differs.symm
      fun listed => (ignores listed).of_differs inner differs⟩

end Edited

variable {first second : String} {firstOrder secondOrder : Int64}

/-- What becomes of the names in a chain when two of the items that it is built from exchange their
orders. -/
structure ChainExchange (factories : Table Factory) (items : Configuration)
    (first second : String) (old new : List String) : Prop where
  others : OthersStay [first, second] old new
  exchanged : (∀ name ∈ [first, second], (name ∈ new ↔ name ∈ old)) →
    ExchangedNames items first second old new
  stay : ∀ name ∈ [first, second], items.IgnoresAt factories [Bag.orderKey] name →
    (name ∈ new ↔ name ∈ old)

/-- Items whose factories do not read the order are exchanged. -/
theorem ChainExchange.of_ignored {items : Configuration} {old new : List String}
    (exchange : ChainExchange factories items first second old new)
    (ignored : ∀ name ∈ [first, second], items.IgnoresAt factories [Bag.orderKey] name) :
    ExchangedNames items first second old new :=
  exchange.exchanged fun name listed => exchange.stay name listed (ignored name listed)

/-- The enabled entries of the exchanged configuration against those of the one before. -/
theorem Chain.exchange (chain : Chain entries) (chain' : Chain others)
    (members : ∀ entry, entry ∈ entries ↔ entry.BuiltFrom factories before part)
    (members' : ∀ entry, entry ∈ others ↔ entry.BuiltFrom factories after part)
    (exchanged : Exchanged first second before after)
    (hasFirst : before.order? first = some firstOrder)
    (hasSecond : before.order? second = some secondOrder) :
    ChainExchange factories before first second ((entries.filter (·.enabled)).map (·.name))
      ((others.filter (·.enabled)).map (·.name)) := by
  have ordered := (chain.filter (·.enabled)).inSequence fun entry member =>
    ((members entry).1 (List.mem_of_mem_filter member)).reads
  have ordered' := (chain'.filter (·.enabled)).inSequence fun entry member =>
    ((members' entry).1 (List.mem_of_mem_filter member)).reads
  have differs : before.DiffersAt [first, second] [Bag.orderKey] after :=
    exchanged.differsAt List.mem_cons_self
  have mem_iff : ∀ name,
      (name ∈ [first, second] → before.IgnoresAt factories [Bag.orderKey] name) → _ :=
    fun name ignores => mem_names_enabled_iff Bag.order_subset_placeKeys (by decide) members
      members' differs ignores
  generalize (entries.filter (·.enabled)).map (·.name) = old,
    (others.filter (·.enabled)).map (·.name) = new at *
  have stay : OthersStay [first, second] old new := by
    have others_iff := fun name (other : name ∉ [first, second]) =>
      mem_iff name fun listed => (other listed).elim
    refine ⟨others_iff, fun x y otherX otherY => ?_⟩
    exact ordered.pair_congr ordered' (others_iff x otherX) (others_iff y otherY)
      (exchanged.rank_of_notMem otherX) (exchanged.rank_of_notMem otherY)
  exact ⟨stay, exchanged.names_exchanged hasFirst hasSecond ordered ordered' stay,
    fun name _ ignores => mem_iff name fun _ => ignores⟩

namespace Snapshot

variable {version version' : Nat} {earlier later : Snapshot}

theorem exchange_providers (h : build factories version before = .ok earlier)
    (h' : build factories version' after = .ok later)
    (exchanged : Exchanged first second before after)
    (hasFirst : before.order? first = some firstOrder)
    (hasSecond : before.order? second = some secondOrder) :
    ChainExchange factories before first second (earlier.enabledProviders.map (·.name))
      (later.enabledProviders.map (·.name)) :=
  (chain_providers_of_build h).exchange (chain_providers_of_build h')
    (fun _ => mem_providers_iff h) (fun _ => mem_providers_iff h') exchanged hasFirst hasSecond

theorem exchange_lookups (h : build factories version before = .ok earlier)
    (h' : build factories version' after = .ok later)
    (exchanged : Exchanged first second before after)
    (hasFirst : before.order? first = some firstOrder)
    (hasSecond : before.order? second = some secondOrder) :
    ChainExchange factories before first second (earlier.enabledLookups.map (·.name))
      (later.enabledLookups.map (·.name)) :=
  (chain_lookups_of_build h).exchange (chain_lookups_of_build h')
    (fun _ => mem_lookups_iff h) (fun _ => mem_lookups_iff h') exchanged hasFirst hasSecond

end Snapshot

end Chains

end IdentityChain
