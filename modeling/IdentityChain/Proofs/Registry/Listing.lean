import IdentityChain.Proofs.Catalog.Listing
import IdentityChain.Proofs.Registry.Versions

/-!
# What operators see

An operator lists the entries of the published snapshot with the bags that the
store holds now. Others may have written since the snapshot was built, but items
are only ever added or edited, so behind every published entry there is a bag
(`Anchored`) and the listing never has to make one up.
-/

namespace IdentityChain

/-- The entries of the published snapshot are two chains of items that are stored. -/
structure Anchored (state : RegistryState SharedStore) : Prop where
  providers : Chain state.published.providers
  lookups : Chain state.published.lookups
  stored : ∀ entry ∈ state.published.entries, (state.store.items.get? entry.1).isSome = true

section Runs

variable {factories : Table Factory} {limits : ResolutionLimits}

theorem frame_grows (factories : Table Factory) (limits : ResolutionLimits) :
    Frame (.contended factories limits) fun before after =>
      before.store.items.Grows after.store.items where
  refl state := .refl state.store.items
  trans h h' := h.trans h'
  read _ state := state.store.grows_interleaved
  readAll state := state.store.grows_interleaved
  calls _ state := .refl state.store.items

theorem writes_grows (factories : Table Factory) (limits : ResolutionLimits) :
    Frame.Writes (.contended factories limits) fun before after =>
      before.store.items.Grows after.store.items where
  commit batch trial state :=
    state.store.grows_interleaved.trans (Configuration.grows_commitOnTrial _ batch trial)
  publish _ state := .refl state.store.items

/-- No operation removes an item. -/
theorem grows_operation (factories : Table Factory) (limits : ResolutionLimits)
    (operation : Operation) (state : RegistryState SharedStore) :
    state.store.items.Grows
      ((operation.action (.contended factories limits)).runOn state).2.store.items :=
  (frame_grows factories limits).operation (fun _ => writes_grows factories limits)
    (fun _ _ state => .refl state.store.items) state

/-- Nothing is published before the first load. -/
theorem Anchored.initial (store : SharedStore) (now : Instant) :
    Anchored (Registry.initialState store now) where
  providers := ⟨.nil, .nil⟩
  lookups := ⟨.nil, .nil⟩
  stored _ member := nomatch member

/-- Every operation publishes entries of items that it has just read, or none; the items of the
entries before it are still there. -/
theorem Anchored.operation {before : RegistryState SharedStore} (anchored : Anchored before)
    (operation : Operation) :
    Anchored ((operation.action (.contended factories limits)).runOn before).2 := by
  have grown := grows_operation factories limits operation before
  have step := publication_step (.contended factories limits) operation before
  generalize ((operation.action _).runOn before).1 = result,
    ((operation.action _).runOn before).2 = after at step grown ⊢
  cases step with
  | published reads read numbered built =>
    rename_i store all
    -- Whatever the others wrote before it, the reading is what the store holds after it.
    obtain ⟨found, left⟩ := Prod.mk.inj ((Store.readAll_contended store).symm.trans read)
    obtain rfl := Except.ok.inj found
    rw [left] at built
    exact ⟨Snapshot.chain_providers_of_build built, Snapshot.chain_lookups_of_build built,
      Snapshot.stored_of_build built⟩
  | kept failed same =>
    refine ⟨?_, ?_, ?_⟩
    · rw [same]
      exact anchored.providers
    · rw [same]
      exact anchored.lookups
    · rw [same]
      exact fun entry member => grown entry.1 (anchored.stored entry member)

theorem Anchored.after {start : RegistryState SharedStore} (anchored : Anchored start)
    (events : List Event) :
    Anchored ((Registry.contended factories limits).after events start) := by
  refine Registry.after_induction (fun state event anchored => ?_) events anchored
  cases event with
  | call operation => exact anchored.operation operation
  | clock now => exact ⟨anchored.providers, anchored.lookups, anchored.stored⟩

/-- The listing joins the published snapshot with the items of its own reading. -/
theorem listing_runOn (factories : Table Factory) (limits : ResolutionLimits)
    (state : RegistryState SharedStore) :
    (Registry.contended factories limits).listing.runOn state =
      (.ok (state.published.listing state.store.interleaved.items),
        { state with store := state.store.interleaved }) := rfl

/-- At every point of every run, whatever others have written since the last load: the listing
succeeds and leaves the published snapshot; it shows each entry of the snapshot once, with the bag
that the store holds under its name and with the place and the switch of that bag, in strict
priority order. Where the snapshot is the one that the current items build, the enabled items of a
capability are its enabled entries in their sequence. -/
theorem listing_joins_entries (factories : Table Factory) (limits : ResolutionLimits)
    (store : SharedStore) (now : Instant) (events : List Event) :
    let registry := Registry.contended factories limits
    let state := registry.after events (Registry.initialState store now)
    let current := state.store.interleaved.items
    let entries := state.published.providers.map (fun entry => (entry.name, Capability.signIn)) ++
      state.published.lookups.map (fun entry => (entry.name, Capability.lookup))
    ∃ listed,
      registry.listing.runOn state =
        (.ok listed, { state with store := state.store.interleaved }) ∧
      (listed.map fun item => (item.name, item.kind)).Perm entries ∧ entries.Nodup ∧
      (∀ item ∈ listed, current.get? item.name = some item.properties ∧
        item.order = item.properties.order? ∧ item.enabled = item.properties.enabled) ∧
      listed.Pairwise (fun a b => a.key < b.key) ∧
      ∀ version, Snapshot.build factories version current = .ok state.published →
        (listed.filter (Item.offers .signIn)).map Item.rank =
          state.published.enabledProviders.map Entry.rank ∧
        (listed.filter (Item.offers .lookup)).map Item.rank =
          state.published.enabledLookups.map Entry.rank := by
  intro registry state current entries
  have anchored : Anchored state := (Anchored.initial store now).after events
  have distinct := Snapshot.nodup_entries anchored.providers anchored.lookups
  have stored : ∀ entry ∈ state.published.entries, (current.get? entry.1).isSome = true :=
    fun entry member =>
      state.store.grows_interleaved entry.1 (anchored.stored entry member)
  have perm := state.published.listing_perm current
  have shown := perm.map fun item => (item.name, item.kind)
  rw [Snapshot.entries_joined] at shown
  refine ⟨state.published.listing current, listing_runOn factories limits state, shown, distinct,
    fun item member => ?_, (Snapshot.listing_ordered distinct).imp Item.ahead_iff_key_lt.1,
    fun version built => ?_⟩
  · exact Snapshot.properties_of_mem_joined stored (perm.mem_iff.1 member)
  · exact ⟨Snapshot.enabledProviders_of_listing built, Snapshot.enabledLookups_of_listing built⟩

/-- Others move the first item behind the second before the second operation on the store. -/
def Rehearsal.overtaken : SharedStore :=
  ⟨items, [[], [Batch.empty.merge "a" (Bag.empty.withOrder (some 9))]]⟩

/-- After the reload the listing and the chain agree on the new sequence, and the item that was
moved is shown with the bag that the others left: its new place, and its kind as before. -/
theorem listing_joins_entries_rehearsal :
    let events : List Event := [.call .init, .call .reload]
    let state := Rehearsal.contended.after events (Rehearsal.start Rehearsal.overtaken)
    ∃ listed, (Rehearsal.contended.listing.runOn state).1 = .ok listed ∧
      (listed.filter (Item.offers .signIn)).map Item.rank = [⟨some 2, "b"⟩, ⟨some 9, "a"⟩] ∧
      ∃ item ∈ listed, item.name = "a" ∧ item.kind = .signIn ∧ item.order = some 9 ∧
        item.properties.entries = [("order", .int 9), ("type", .str "stub")] := by
  intro events state
  obtain ⟨listed, run, shown, -, current, -, agree⟩ := listing_joins_entries Rehearsal.factories
    Rehearsal.limits Rehearsal.overtaken ⟨0, 0⟩ events
  have built : Snapshot.build Rehearsal.factories 2 state.store.interleaved.items =
      .ok state.published := by rfl
  have walked : state.published.enabledProviders.map Entry.rank =
      [⟨some 2, "b"⟩, ⟨some 9, "a"⟩] := by rfl
  have published : ("a", Capability.signIn) ∈ state.published.entries := by decide
  have moved : state.store.interleaved.items.get? "a" = some (Rehearsal.stub 9) := by rfl
  obtain ⟨item, member, named⟩ := List.mem_map.1 (shown.mem_iff.2 published)
  obtain ⟨name, kind⟩ := Prod.mk.inj named
  obtain ⟨bag, order, -⟩ := current item member
  have properties : item.properties = Rehearsal.stub 9 := by
    rw [name] at bag
    exact Option.some.inj (bag.symm.trans moved)
  rw [properties] at order
  refine ⟨listed, congrArg Prod.fst run, (agree 2 built).1.trans walked, item, member, name, kind,
    order, ?_⟩
  rw [properties]
  decide

end Runs

end IdentityChain
