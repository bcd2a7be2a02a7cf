import IdentityChain.Proofs.Catalog.Placing

/-!
# Places that are written differently

An order or a switch can be written in many ways that are read alike: no order
as null, as a fraction or not at all. A snapshot has what is read. So where no
source depends on how its place is written, items that are read to have the same
places build the same snapshot (`Snapshot.build_of_placedAlike`), and an
operator sees the same listing, the bags apart (`Snapshot.bare_listing`).
-/

namespace IdentityChain

variable {α : Type} {factories : Table Factory} {before after : Configuration}

/-! ## The same sources -/

/-- An entry is built from the source of the item under its name. -/
theorem Entry.builtFrom_iff {items : Configuration} {part : Source → Option α} {entry : Entry α} :
    entry.BuiltFrom factories items part ↔ ∃ source,
      (items.get? entry.name).map (Snapshot.sourceOf? factories entry.name) =
        some (.ok (some source)) ∧ source.part? part = some entry := by
  constructor
  · rintro ⟨bag, source, present, found, made⟩
    exact ⟨source, by rw [present, Option.map_some, found], made⟩
  · rintro ⟨source, found, made⟩
    obtain ⟨bag, present, found⟩ := Option.map_eq_some_iff.1 found
    exact ⟨bag, source, present, found, made⟩

/-- Items that are the same sources as before build the same snapshot. -/
theorem Snapshot.build_of_sameSources {version : Nat} {snapshot : Snapshot}
    (h : build factories version before = .ok snapshot)
    (same : ∀ name, (after.get? name).map (sourceOf? factories name) =
      (before.get? name).map (sourceOf? factories name)) :
    build factories version after = .ok snapshot := by
  have buildable : Buildable factories after := by
    refine buildable_iff.2 fun name bag found => ?_
    have moved := same name
    rw [found] at moved
    obtain ⟨old, kept, source⟩ := Option.map_eq_some_iff.1 moved.symm
    rw [← source]
    exact buildable_iff.1 (.of_build h) name old kept
  obtain ⟨other, built⟩ := buildable.build version
  have providers : other.providers = snapshot.providers := by
    refine (chain_providers_of_build built).ext (chain_providers_of_build h) fun entry => ?_
    rw [mem_providers_iff built, mem_providers_iff h, Entry.builtFrom_iff, Entry.builtFrom_iff,
      same]
  have lookups : other.lookups = snapshot.lookups := by
    refine (chain_lookups_of_build built).ext (chain_lookups_of_build h) fun entry => ?_
    rw [mem_lookups_iff built, mem_lookups_iff h, Entry.builtFrom_iff, Entry.builtFrom_iff, same]
  have numbered : other.version = snapshot.version := by
    rw [version_of_build built, version_of_build h]
  obtain ⟨_, _, _⟩ := other
  obtain rfl := providers
  obtain rfl := lookups
  obtain rfl := numbered
  exact built

/-- Places that are read alike hold the same entry. -/
theorem Entry.placed_congr {bag other : Bag} (alike : other.place = bag.place) (entry : Entry α) :
    entry.placed other = entry.placed bag := by
  obtain ⟨order, enabled⟩ := Prod.mk.inj alike
  rw [placed, placed, order, enabled]

/-- An edit of places and switches that leaves them as they are read leaves every source, if no
factory sees how they are written. -/
theorem Configuration.PlacedAlike.sameSources {named : List String}
    (alike : before.PlacedAlike after) (ignore : Factory.AllIgnore Bag.placeKeys factories)
    (differs : before.DiffersAt named Bag.placeKeys after) (name : String) :
    (after.get? name).map (Snapshot.sourceOf? factories name) =
      (before.get? name).map (Snapshot.sourceOf? factories name) := by
  have read := alike name
  cases found : after.get? name with
  | none =>
    rw [found] at read
    rw [Option.map_eq_none_iff.1 read.symm]
  | some bag =>
    obtain ⟨old, kept, -, moved⟩ :=
      differs.earlierSource (fun _ => id) (fun _ => ignore.ignoresAt before name) found
    rw [found, kept] at read
    have same : (Entry.placed bag : Entry Source → Entry Source) = Entry.placed old :=
      funext (Entry.placed_congr (Option.some.inj read))
    rw [same, Snapshot.sourceOf?_placed_self] at moved
    rw [kept, Option.map_some, Option.map_some, moved]

theorem Snapshot.build_of_placedAlike {named : List String} {version : Nat} {snapshot : Snapshot}
    (h : build factories version before = .ok snapshot)
    (ignore : Factory.AllIgnore Bag.placeKeys factories)
    (differs : before.DiffersAt named Bag.placeKeys after) (alike : before.PlacedAlike after) :
    build factories version after = .ok snapshot :=
  build_of_sameSources h (alike.sameSources ignore differs)

/-! ## The same listing -/

/-- Name, capability, place and switch of an item. -/
def Item.bare (item : Item) : Item := { item with properties := .empty }

theorem Item.bare_ofBag {bag other : Bag} (alike : other.place = bag.place) (name : String)
    (kind : Capability) : (ofBag name kind other).bare = (ofBag name kind bag).bare := by
  obtain ⟨order, enabled⟩ := Prod.mk.inj alike
  rw [bare, bare, ofBag, ofBag, order, enabled]

namespace Snapshot

/-- The entries of a snapshot are shown alike over items that are placed alike. -/
theorem bare_joined (alike : before.PlacedAlike after) (snapshot : Snapshot) :
    (snapshot.joined after).map Item.bare = (snapshot.joined before).map Item.bare := by
  rw [joined, joined, List.map_map, List.map_map]
  refine List.map_congr_left ?_
  rintro ⟨name, kind⟩ -
  refine Item.bare_ofBag ?_ name kind
  rw [← Option.getD_map Bag.place, alike, Option.getD_map]

theorem bare_listing (alike : before.PlacedAlike after) {snapshot : Snapshot}
    (distinct : snapshot.entries.Nodup) :
    (snapshot.listing after).map Item.bare = (snapshot.listing before).map Item.bare := by
  have perm : ((snapshot.listing after).map Item.bare).Perm
      ((snapshot.listing before).map Item.bare) := by
    refine ((snapshot.listing_perm after).map Item.bare).trans ?_
    rw [bare_joined alike]
    exact ((snapshot.listing_perm before).map Item.bare).symm
  -- The sequence of items is a matter of their places alone.
  have ordered : ∀ current, ((snapshot.listing current).map Item.bare).Pairwise Item.Ahead :=
    fun current => List.pairwise_map.2 (listing_ordered distinct)
  exact perm.eq_of_pairwise (fun _ _ _ _ ab ba => (ab.asymm ba).elim) (ordered after)
    (ordered before)

end Snapshot

end IdentityChain
