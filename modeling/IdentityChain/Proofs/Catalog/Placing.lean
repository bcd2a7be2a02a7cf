import IdentityChain.Proofs.Catalog.Listing
import IdentityChain.Proofs.Configuration.Arranging

/-!
# Edits of place and switch

Order and switch belong to the registry. A factory gets them with the whole bag
and may ignore one of them or both (`Factory.Ignores`), as one does that reads
an item's own properties alone (`Factory.ReadsOwn`). An edit of keys that the
factory ignores moves the source of an item and changes nothing else of it
(`Snapshot.sourceOf?_placed`).

Hence such an edit never keeps a configuration from building, and the snapshots
before and after it hold the same sources: every entry of the one continues an
entry of the other (`Snapshot.rearranged_of_build`). What an edit does not name
stays whatever its factory reads, so all is asked of the named items alone.
-/

namespace IdentityChain

variable {α : Type} {factories : Table Factory} {keys : List String}

/-! ## One item -/

theorem Bag.order_subset_placeKeys : [orderKey] ⊆ placeKeys :=
  List.cons_subset_cons _ (List.nil_subset _)

/-- What the factory builds does not depend on the values under some keys. -/
def Factory.Ignores (keys : List String) (factory : Factory) : Prop :=
  ∀ name {bag other : Bag}, (∀ key, key ∉ keys → other.get? key = bag.get? key) →
    factory.build name other = factory.build name bag

/-- No factory depends on the values under some keys. -/
def Factory.AllIgnore (keys : List String) (factories : Table Factory) : Prop :=
  ∀ kind factory, factories.get? kind = some factory → factory.Ignores keys

/-- A factory that ignores some keys ignores each of them. -/
theorem Factory.Ignores.mono {factory : Factory} {others : List String}
    (ignores : factory.Ignores keys) (inner : others ⊆ keys) : factory.Ignores others :=
  fun name _ _ agree => ignores name fun key outside => agree key fun listed =>
    outside (inner listed)

theorem Factory.AllIgnore.mono {others : List String} (ignore : AllIgnore keys factories)
    (inner : others ⊆ keys) : AllIgnore others factories :=
  fun kind factory known => (ignore kind factory known).mono inner

/-- The factories of a table are among those that it was made of. -/
theorem Factory.allIgnore_byKind {list : List Factory}
    (each : ∀ factory ∈ list, factory.Ignores keys) : AllIgnore keys (byKind list) := by
  intro kind factory known
  obtain ⟨_, member, same⟩ := List.mem_map.1 (Table.mem_of_get?_ofList known)
  cases same
  exact each factory member

/-- The factory reads an item's own properties alone. -/
def Factory.ReadsOwn (factory : Factory) : Prop :=
  ∀ name {bag other : Bag}, other.ownProperties = bag.ownProperties →
    factory.build name other = factory.build name bag

/-- The bags declare the same source. -/
structure Bag.SameSource (bag other : Bag) : Prop where
  kind_eq : other.kind? = bag.kind?
  own_eq : other.ownProperties = bag.ownProperties

/-- Place and switch are no part of the source. -/
theorem Bag.SameSource.of_placed {bag other : Bag}
    (same : ∀ key, key ∉ placeKeys → other.get? key = bag.get? key) : SameSource bag other where
  kind_eq := by
    rw [kind?, kind?, same typeKey (by decide)]
  own_eq := by
    refine Table.ext_get? fun key => ?_
    rw [ownProperties, ownProperties, Table.get?_filterKeys, Table.get?_filterKeys]
    cases reserved : reservedKeys.contains key with
    | true => rfl
    | false =>
      have other : key ∉ placeKeys := by
        intro placed
        have listed : key ∈ reservedKeys := List.mem_append_left [typeKey] placed
        rw [List.contains_iff_mem.2 listed] at reserved
        cases reserved
      rw [same key other]

/-- Place and switch are no own properties. -/
theorem Factory.ReadsOwn.ignores {factory : Factory} (own : factory.ReadsOwn) :
    factory.Ignores Bag.placeKeys :=
  fun name _ _ agree => own name (Bag.SameSource.of_placed agree).own_eq

/-- The entry in the place that a bag gives it. -/
def Entry.placed (bag : Bag) (entry : Entry α) : Entry α :=
  { entry with order := bag.order?, enabled := bag.enabled }

/-- Every source of the configuration is built from its item's own properties. -/
def Configuration.ReadsOwn (factories : Table Factory) (items : Configuration) : Prop :=
  ∀ name bag kind factory, items.get? name = some bag → bag.kind? = some kind →
    factories.get? kind = some factory → factory.ReadsOwn

/-- The source of an item, if it is one, does not depend on the values under some keys. -/
def Configuration.IgnoresAt (factories : Table Factory) (keys : List String)
    (items : Configuration) (name : String) : Prop :=
  ∀ bag kind factory, items.get? name = some bag → bag.kind? = some kind →
    factories.get? kind = some factory → factory.Ignores keys

theorem Factory.AllIgnore.ignoresAt (ignore : AllIgnore keys factories) (items : Configuration)
    (name : String) : items.IgnoresAt factories keys name :=
  fun _ kind factory _ _ known => ignore kind factory known

theorem Configuration.ReadsOwn.ignoresAt {items : Configuration} (own : items.ReadsOwn factories)
    (name : String) : items.IgnoresAt factories Bag.placeKeys name :=
  fun bag kind factory present declared known =>
    (own name bag kind factory present declared known).ignores

namespace Snapshot

variable {name : String} {bag other : Bag}

/-- A bag that differs in ignored keys alone has the same source built in another place. -/
theorem sourceOf?_placed (inner : keys ⊆ Bag.placeKeys)
    (agree : ∀ key, key ∉ keys → other.get? key = bag.get? key)
    (ignores : ∀ kind factory, bag.kind? = some kind → factories.get? kind = some factory →
      factory.Ignores keys) :
    sourceOf? factories name other =
      (sourceOf? factories name bag).map (Option.map (Entry.placed other)) := by
  have same : bag.SameSource other := .of_placed fun key outside =>
    agree key fun listed => outside (inner listed)
  unfold sourceOf?
  rw [same.kind_eq]
  cases declared : bag.kind? with
  | none => rfl
  | some kind =>
    dsimp only
    cases known : factories.get? kind with
    | none => rfl
    | some factory =>
      dsimp only
      rw [ignores kind factory declared known name agree]
      cases factory.build name bag with
      | error reason => rfl
      | ok source => rfl

/-- A source stands where its bag puts it. -/
theorem sourceOf?_placed_self (factories : Table Factory) (name : String) (bag : Bag) :
    (sourceOf? factories name bag).map (Option.map (Entry.placed bag)) =
      sourceOf? factories name bag := by
  cases found : sourceOf? factories name bag with
  | error fault => rfl
  | ok source =>
    cases source with
    | none => rfl
    | some entry =>
      obtain ⟨-, order, enabled⟩ := place_of_sourceOf? found
      have unmoved : entry.placed bag = entry := by rw [Entry.placed, ← order, ← enabled]
      show Except.ok (some (entry.placed bag)) = _
      rw [unmoved]

end Snapshot

/-! ## All items -/

section Edited

variable {named : List String} {before after : Configuration}

/-- Behind every item stands its earlier bag, which agrees on the other keys. -/
theorem Configuration.DiffersAt.earlier (differs : before.DiffersAt named keys after)
    {name : String} {bag : Bag} (found : after.get? name = some bag) :
    ∃ old : Bag, before.get? name = some old ∧ (name ∉ named → bag = old) ∧
      ∀ key, key ∉ keys → bag.get? key = old.get? key := by
  obtain ⟨old, kept, agree⟩ := differs.symm.get?_eq_some found
  refine ⟨old, kept, fun unnamed => ?_, fun key other => ?_⟩
  · exact Option.some.inj ((differs.symm.get?_eq_some_of_notMem found unnamed).symm.trans kept)
  · exact (agree key fun listed => other listed.2).symm

/-- The earlier bag of an item builds the same source in its own place. -/
theorem Configuration.DiffersAt.earlierSource (differs : before.DiffersAt named keys after)
    (inner : keys ⊆ Bag.placeKeys) {name : String}
    (ignores : name ∈ named → before.IgnoresAt factories keys name) {bag : Bag}
    (found : after.get? name = some bag) :
    ∃ old : Bag, before.get? name = some old ∧ (name ∉ named → bag = old) ∧
      Snapshot.sourceOf? factories name bag =
        (Snapshot.sourceOf? factories name old).map (Option.map (Entry.placed bag)) := by
  obtain ⟨old, kept, unnamed, agree⟩ := differs.earlier found
  refine ⟨old, kept, unnamed, ?_⟩
  by_cases listed : name ∈ named
  · exact Snapshot.sourceOf?_placed inner agree fun kind factory =>
      ignores listed old kind factory kept
  · rw [unnamed listed, Snapshot.sourceOf?_placed_self]

theorem Configuration.IgnoresAt.of_differs {name : String}
    (ignores : before.IgnoresAt factories keys name) (inner : keys ⊆ Bag.placeKeys)
    (differs : before.DiffersAt named keys after) : after.IgnoresAt factories keys name := by
  intro bag kind factory found declared known
  obtain ⟨old, kept, -, agree⟩ := differs.earlier found
  have same : old.SameSource bag := .of_placed fun key outside =>
    agree key fun listed => outside (inner listed)
  exact ignores old kind factory kept (same.kind_eq.symm.trans declared) known

/-- An edit of ignored places and switches never keeps a configuration from building. -/
theorem Snapshot.Buildable.of_ignored (buildable : Buildable factories before)
    (inner : keys ⊆ Bag.placeKeys)
    (ignores : ∀ name ∈ named, before.IgnoresAt factories keys name)
    (differs : before.DiffersAt named keys after) : Buildable factories after := by
  refine buildable_iff.2 fun name bag found => ?_
  obtain ⟨old, kept, -, moved⟩ := differs.earlierSource inner (ignores name) found
  obtain ⟨source, built⟩ := buildable_iff.1 buildable name old kept
  rw [built] at moved
  exact ⟨_, moved⟩

theorem Snapshot.Buildable.of_differs (buildable : Buildable factories before)
    (own : before.ReadsOwn factories) (differs : before.DiffersAt named Bag.placeKeys after) :
    Buildable factories after :=
  buildable.of_ignored (fun _ => id) (fun name _ => own.ignoresAt name) differs

/-- The entry has the service of an earlier one, and also its place and switch unless its item is
among those named. -/
structure Entry.Continues (named : List String) (old entry : Entry α) : Prop where
  name_eq : entry.name = old.name
  service_eq : entry.service = old.service
  unnamed : entry.name ∉ named → entry = old

/-- An entry of the edited configuration continues one that was there before. -/
theorem Entry.BuiltFrom.continues {part : Source → Option α} {entry : Entry α}
    (built : entry.BuiltFrom factories after part) (inner : keys ⊆ Bag.placeKeys)
    (ignores : entry.name ∈ named → before.IgnoresAt factories keys entry.name)
    (differs : before.DiffersAt named keys after) :
    ∃ old : Entry α, old.BuiltFrom factories before part ∧ Continues named old entry := by
  obtain ⟨bag, source, present, found, made⟩ := built
  obtain ⟨service, name, order, enabled⟩ := part?_eq_some_iff.1 made
  obtain ⟨old, kept, same, moved⟩ := differs.earlierSource inner ignores present
  rw [found] at moved
  obtain ⟨_, earlier, moved⟩ := Except.map_eq_ok moved.symm
  obtain ⟨first, rfl, rfl⟩ := Option.map_eq_some_iff.1 moved
  let predecessor : Entry α := { entry with order := first.order, enabled := first.enabled }
  have part : first.part? part = some predecessor := part?_eq_some_iff.2 ⟨service, name, rfl, rfl⟩
  refine ⟨predecessor, ⟨old, first, kept, earlier, part⟩, rfl, rfl, fun unnamed => ?_⟩
  -- The same bag builds the same source in the same place.
  obtain rfl := same unnamed
  have unmoved : first = first.placed bag := by
    rw [earlier, Except.ok.injEq, Option.some.injEq] at found
    exact found
  rw [← unmoved] at order enabled
  show entry = { entry with order := first.order, enabled := first.enabled }
  rw [← order, ← enabled]

/-- The entries that the edited items describe continue those that they described before. -/
theorem continue_of_builtFrom {part : Source → Option α} {entries others : List (Entry α)}
    (members : ∀ entry, entry ∈ entries ↔ entry.BuiltFrom factories before part)
    (members' : ∀ entry, entry ∈ others ↔ entry.BuiltFrom factories after part)
    (inner : keys ⊆ Bag.placeKeys) (ignores : ∀ name, before.IgnoresAt factories keys name)
    (differs : before.DiffersAt named keys after) :
    ∀ entry ∈ others, ∃ old ∈ entries, Entry.Continues named old entry := by
  intro entry member
  obtain ⟨old, built, continues⟩ :=
    ((members' entry).1 member).continues inner (fun _ => ignores entry.name) differs
  exact ⟨old, (members old).2 built, continues⟩

/-- The snapshots have the same entries with the same services, and only entries of the named items
are moved or switched. -/
structure Snapshot.Rearranged (named : List String) (earlier later : Snapshot) : Prop where
  entries_perm : later.entries.Perm earlier.entries
  providers : ∀ entry ∈ later.providers, ∃ old ∈ earlier.providers, Entry.Continues named old entry
  lookups : ∀ entry ∈ later.lookups, ∃ old ∈ earlier.lookups, Entry.Continues named old entry

namespace Snapshot

variable {version version' : Nat} {earlier later : Snapshot}

theorem entries_subset
    (providers : ∀ entry ∈ later.providers, ∃ old ∈ earlier.providers,
      Entry.Continues named old entry)
    (lookups : ∀ entry ∈ later.lookups, ∃ old ∈ earlier.lookups,
      Entry.Continues named old entry) : later.entries ⊆ earlier.entries := by
  intro item member
  rcases List.mem_append.1 member with provider | service
  · obtain ⟨entry, listed, rfl⟩ := List.mem_map.1 provider
    obtain ⟨old, kept, continues⟩ := providers entry listed
    exact List.mem_append_left _ (List.mem_map.2 ⟨old, kept, by rw [continues.name_eq]⟩)
  · obtain ⟨entry, listed, rfl⟩ := List.mem_map.1 service
    obtain ⟨old, kept, continues⟩ := lookups entry listed
    exact List.mem_append_right _ (List.mem_map.2 ⟨old, kept, by rw [continues.name_eq]⟩)

/-- An edit of places and switches rearranges what the items build. -/
theorem rearranged_of_build (h : build factories version before = .ok earlier)
    (h' : build factories version' after = .ok later) (own : before.ReadsOwn factories)
    (differs : before.DiffersAt named Bag.placeKeys after) : Rearranged named earlier later := by
  have inner : Bag.placeKeys ⊆ Bag.placeKeys := fun _ => id
  have ignores := own.ignoresAt
  have providers := continue_of_builtFrom (fun _ => mem_providers_iff h)
    (fun _ => mem_providers_iff h') inner ignores differs
  have lookups := continue_of_builtFrom (fun _ => mem_lookups_iff h)
    (fun _ => mem_lookups_iff h') inner ignores differs
  -- The edit can be undone by another one of its kind.
  have ignores' := fun name => (ignores name).of_differs inner differs
  have providers' := continue_of_builtFrom (fun _ => mem_providers_iff h')
    (fun _ => mem_providers_iff h) inner ignores' differs.symm
  have lookups' := continue_of_builtFrom (fun _ => mem_lookups_iff h')
    (fun _ => mem_lookups_iff h) inner ignores' differs.symm
  have distinct := nodup_entries (chain_providers_of_build h) (chain_lookups_of_build h)
  have distinct' := nodup_entries (chain_providers_of_build h') (chain_lookups_of_build h')
  have perm : later.entries.Perm earlier.entries := by
    refine (List.perm_ext_iff_of_nodup distinct' distinct).2 fun item => ⟨?_, ?_⟩
    · exact fun member => entries_subset providers lookups member
    · exact fun member => entries_subset providers' lookups' member
  exact ⟨perm, providers, lookups⟩

end Snapshot

end Edited

end IdentityChain
