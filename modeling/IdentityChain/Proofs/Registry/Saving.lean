import IdentityChain.Proofs.Catalog.Saving
import IdentityChain.Proofs.Registry.Placing

/-!
# Saving what is listed

An operator who sends back the places and switches of a listing asks for what is
read of the items. The registry writes it out, where the items may have had it
in another form or not at all, and that is the only change.
-/

namespace IdentityChain

/-- The update that asks for what is shown of an item. -/
def Item.toUpdate (item : Item) : ItemUpdate := ⟨item.name, item.order, item.enabled⟩

variable {factories : Table Factory} {limits : ResolutionLimits}

/-- What is shown of an entry is what is read of the item that it was built from. -/
theorem Snapshot.place_of_listed {version : Nat} {current : Configuration} {snapshot : Snapshot}
    (h : build factories version current = .ok snapshot) {update : ItemUpdate}
    (listed : update ∈ (snapshot.listing current).map Item.toUpdate) :
    (current.get? update.name).map Bag.place = some (update.order, update.enabled) := by
  obtain ⟨item, shown, rfl⟩ := List.mem_map.1 listed
  have member := (snapshot.listing_perm current).mem_iff.1 shown
  obtain ⟨present, order, enabled⟩ := properties_of_mem_joined (stored_of_build h) member
  dsimp only [Item.toUpdate]
  rw [present, order, enabled]
  rfl

/-- Without other writers the listing joins the published snapshot with the stored items. -/
theorem Registry.listing_inMemory (state : RegistryState Configuration) :
    (inMemory factories limits).listing.runOn state =
      (.ok (state.published.listing state.store), state) := rfl

/-- Over a store in memory whose chains are in sync, and where no factory reads an order or a
switch. Of a listing an operator sends back updates with the places and the switches that it shows,
in any order, of each entry once, more often or not at all. The call succeeds. Then a listing shows
the same items in the same sequence, their bags apart, and the chains are the same under the next
version. The saved items have their places and switches written out, in whatever form they had them
before, and no other property of any item differs. -/
theorem saving_listing_keeps_chains {before : RegistryState Configuration}
    (sync : InSync factories before) (ignore : Factory.AllIgnore Bag.placeKeys factories) :
    let registry := Registry.inMemory factories limits
    ∃ listed, registry.listing.runOn before = (.ok listed, before) ∧
      ∀ updates, updates ⊆ listed.map Item.toUpdate →
        ∃ after, (registry.arrange updates).runOn before = (.ok (), after) ∧
          (∃ relisted, registry.listing.runOn after = (.ok relisted, after) ∧
            relisted.map Item.bare = listed.map Item.bare) ∧
          after.published = before.published.atVersion (before.published.version + 1) ∧
          Arranged updates before.store after.store := by
  intro registry
  refine ⟨_, Registry.listing_inMemory before, fun updates saved => ?_⟩
  have read : ∀ update ∈ updates,
      (before.store.get? update.name).map Bag.place = some (update.order, update.enabled) :=
    fun update member => Snapshot.place_of_listed sync (saved member)
  have present : ∀ update ∈ updates, (before.store.get? update.name).isSome = true := by
    intro update member
    rw [← Option.isSome_map, read update member]
    rfl
  have arranged : Arranged updates before.store
      ((Batch.empty.stageAll updates).mergeInto before.store) := Batch.arranged_mergeInto present
  have alike := arranged.placedAlike read
  have rebuilt := Snapshot.build_atVersion
    (Snapshot.build_of_placedAlike sync ignore arranged.toDiffersAt alike)
    (before.published.version + 1)
  obtain ⟨next, built, run⟩ := Registry.live_of_buildable (Registry.stage_arrange present) rfl
    (Batch.isMetBy_stageAll updates before.store) (.of_build rebuilt)
  obtain rfl := Except.ok.inj (rebuilt.symm.trans built)
  refine ⟨_, run, ⟨_, Registry.listing_inMemory _, ?_⟩, rfl, arranged⟩
  have distinct := Snapshot.nodup_entries (Snapshot.chain_providers_of_build sync)
    (Snapshot.chain_lookups_of_build sync)
  exact Snapshot.bare_listing alike distinct

namespace Rehearsal

/-- Three directories whose places and switches are not written as they are read, and a block of
settings. -/
def wing : Configuration :=
  let hall := directoryBag 1 "both" [account "ann" "secret" true]
  Table.ofList [("attic", hall.insert Bag.orderKey (.int 9223372036854775808)),
    ("cellar", hall.insert Bag.enabledKey (.str "no")),
    ("policy", Table.ofList [("order", .str "low")]),
    ("roof", hall.insert Bag.orderKey .null)]

/-- The wing is loaded. -/
def inWing : RegistryState Configuration :=
  ((Registry.inMemory staticFactories Rehearsal.limits).init.runOn (start wing)).2

/-- The providers of the wing back to front, and one of the lookup services as well. -/
def backToFront : List ItemUpdate :=
  [⟨"roof", none, true⟩, ⟨"attic", none, true⟩, ⟨"cellar", some 1, true⟩, ⟨"roof", none, true⟩]

end Rehearsal

/-- What is saved of the wing is written out, and the block of settings stays. -/
theorem saving_listing_keeps_chains_rehearsal :
    let registry := Registry.inMemory Rehearsal.staticFactories Rehearsal.limits
    let before := Rehearsal.inWing
    ∃ after, (registry.arrange Rehearsal.backToFront).runOn before = (.ok (), after) ∧
      after.published = before.published.atVersion (before.published.version + 1) ∧
      after.store.value? "attic" Bag.orderKey = some .null ∧
      after.store.value? "cellar" Bag.enabledKey = some (.bool true) ∧
      after.store.value? "policy" Bag.orderKey = some (.str "low") := by
  dsimp only
  have started : ((Registry.inMemory Rehearsal.staticFactories Rehearsal.limits).init.runOn
      (Rehearsal.start Rehearsal.wing)).1 = .ok () := by rfl
  have sync : InSync Rehearsal.staticFactories Rehearsal.inWing := .of_init started
  obtain ⟨listed, run, saved⟩ := @saving_listing_keeps_chains Rehearsal.staticFactories
    Rehearsal.limits Rehearsal.inWing sync Rehearsal.staticFactories_ignore
  have shown : (Rehearsal.inWing.published.listing Rehearsal.inWing.store).map Item.toUpdate =
      [⟨"cellar", some 1, true⟩, ⟨"cellar", some 1, true⟩, ⟨"attic", none, true⟩,
        ⟨"attic", none, true⟩, ⟨"roof", none, true⟩, ⟨"roof", none, true⟩] := by rfl
  obtain rfl := Except.ok.inj (congrArg Prod.fst ((Registry.listing_inMemory _).symm.trans run))
  rw [shown] at saved
  obtain ⟨after, live, -, published, arranged⟩ := saved Rehearsal.backToFront (by decide)
  have attic : ItemUpdate.last? Rehearsal.backToFront "attic" = some ⟨"attic", none, true⟩ := by
    rfl
  have cellar : ItemUpdate.last? Rehearsal.backToFront "cellar" =
      some ⟨"cellar", some 1, true⟩ := by rfl
  have policy : Rehearsal.inWing.store.value? "policy" Bag.orderKey = some (.str "low") := by rfl
  have unlisted : ¬ ("policy" ∈ Rehearsal.backToFront.map (·.name) ∧
      Bag.orderKey ∈ Bag.placeKeys) := by decide
  exact ⟨after, live, published, arranged.unordered attic rfl, arranged.enabled cellar,
    (arranged.others _ _ unlisted).trans policy⟩

end IdentityChain
