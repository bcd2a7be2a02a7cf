import IdentityChain.Proofs.Registry.Reordering

/-!
# Bulk updates among other writers

A bulk update reads each listed item, so over a shared store the others can
write after every one of its readings. It asks of the items only that they are
there, and since nobody removes an item, what was found when it was read is
still found at the commit. The commit then writes the last update of each
listed item over whatever the others have left, and nothing else.
-/

namespace IdentityChain

/-- The store after some readings, each followed by what the others write. -/
def SharedStore.afterReads (store : SharedStore) (count : Nat) : SharedStore :=
  SharedStore.interleaved^[count] store

/-- The items that a reading meets after some earlier ones. -/
def SharedStore.itemsAt (store : SharedStore) (count : Nat) : Configuration :=
  (store.afterReads count).items

/-- Items stay from one reading to the next. -/
theorem SharedStore.grows_itemsAt (store : SharedStore) {i j : Nat} (le : i ≤ j) :
    (store.itemsAt i).Grows (store.itemsAt j) := by
  induction le with
  | refl => exact .refl _
  | @step j le ih =>
    have next : store.itemsAt (j + 1) = (store.afterReads j).interleaved.items := by
      rw [itemsAt, afterReads, Function.iterate_succ_apply']
      rfl
    rw [next]
    exact ih.trans (grows_interleaved _)

/-- What was found when it was read is there when all has been read. -/
theorem ItemUpdate.AllFound.present {store : SharedStore} {updates : List ItemUpdate}
    (found : AllFound store.itemsAt updates) :
    ∀ update ∈ updates, ((store.itemsAt updates.length).get? update.name).isSome = true := by
  intro update member
  obtain ⟨i, listed⟩ := List.mem_iff_getElem?.1 member
  have before : i < updates.length := (List.getElem?_eq_some_iff.1 listed).1
  exact store.grows_itemsAt (Nat.le_of_lt before) update.name (found i update listed)

namespace Registry

variable {factories : Table Factory} {limits : ResolutionLimits}

/-- The ways in which a bulk update ends over a shared store. -/
inductive ArrangeStep (registry : Registry SharedStore) (updates : List ItemUpdate)
    (before after : RegistryState SharedStore) : Except Fault Unit → Prop where
  | missing {i : Nat} {update : ItemUpdate}
      (first : ItemUpdate.FirstMissing before.store.itemsAt updates i update)
      (stopped : after = { before with store := before.store.afterReads (i + 1) }) :
      ArrangeStep registry updates before after
        (.error (.configurationInvalid update.name "no such item"))
  | arranged
      (found : ItemUpdate.AllFound before.store.itemsAt updates)
      (accepted : ((before.store.itemsAt updates.length).commitOnTrial
        (Batch.empty.stageAll updates) (registry.trial none)).1.accepted = true)
      (merged : after.store.items =
        (Batch.empty.stageAll updates).mergeInto (before.store.itemsAt updates.length)) :
      ArrangeStep registry updates before after (.ok ())
  | rejected
      (found : ItemUpdate.AllFound before.store.itemsAt updates)
      (refused : ((before.store.itemsAt updates.length).commitOnTrial
        (Batch.empty.stageAll updates) (registry.trial none)).1.accepted = false)
      (kept : after.store.items = before.store.itemsAt updates.length)
      (published_eq : after.published = before.published) :
      ArrangeStep registry updates before after
        (.error (rejection (Batch.empty.stageAll updates)))

theorem arrange_step (updates : List ItemUpdate) (before : RegistryState SharedStore) :
    ArrangeStep (shared factories limits) updates before
      (((shared factories limits).arrange updates).runOn before).2
      (((shared factories limits).arrange updates).runOn before).1 := by
  have readable := shared_readable factories limits
  rw [arrange]
  rcases ItemUpdate.firstMissing_or_allFound before.store.itemsAt updates with
    ⟨i, update, first⟩ | found
  · have reported := stageUpdates_of_firstMissing readable first .empty
    rw [Action.runOn_bind_error reported]
    exact .missing first rfl
  · have staged := stageUpdates_of_allFound readable found .empty
    rw [Action.runOn_bind_ok staged]
    rcases reconfigure_shared (Batch.empty.stageAll updates) none
      { before with store := before.store.afterReads updates.length } with
      ⟨live, accepted, -, merged⟩ | ⟨rejected, refused, same⟩
    · have ended := ArrangeStep.arranged found accepted merged
      rw [← live] at ended
      exact ended
    · have ended := ArrangeStep.rejected found refused same.items_eq same.published_eq
      rw [← rejected] at ended
      exact ended

end Registry

/-- Whatever others commit after the readings of a bulk update: the first listed item that is
missing when it is read is reported, and nothing is committed. If all are found, the call succeeds
exactly if its commit is accepted, and else it is rejected and leaves what the others have written.
If it succeeds, all have been found, and each of them has its last update; no item has come or gone
since just before the commit, and no other property differs. -/
theorem arrange_keeps_last_updates (factories : Table Factory) (limits : ResolutionLimits)
    (updates : List ItemUpdate) (before : RegistryState SharedStore) :
    let registry := Registry.shared factories limits
    let seen := before.store.itemsAt
    let current := seen updates.length
    let batch := Batch.empty.stageAll updates
    let result := ((registry.arrange updates).runOn before).1
    let after := ((registry.arrange updates).runOn before).2
    (∀ i update, ItemUpdate.FirstMissing seen updates i update →
      result = .error (.configurationInvalid update.name "no such item") ∧
        after = { before with store := before.store.afterReads (i + 1) }) ∧
    (ItemUpdate.AllFound seen updates →
      (result = .ok () ↔ (current.commitOnTrial batch (registry.trial none)).1.accepted = true) ∧
      (result ≠ .ok () → result = .error (Registry.rejection batch) ∧
        after.store.items = current ∧ after.published = before.published)) ∧
    (result = .ok () → ItemUpdate.AllFound seen updates ∧
      Arranged updates current after.store.items) := by
  intro registry seen current batch result after
  have step : Registry.ArrangeStep registry updates before after result :=
    Registry.arrange_step updates before
  generalize result = ended, after = last at step ⊢
  cases step with
  | missing first stopped =>
    refine ⟨fun i update other => ?_, fun found => ?_, nofun⟩
    · obtain ⟨rfl, rfl⟩ := first.unique other
      exact ⟨rfl, stopped⟩
    · exact (first.not_allFound found).elim
  | arranged found accepted merged =>
    refine ⟨fun i update first => (first.not_allFound found).elim, fun _ => ?_, fun _ => ?_⟩
    · exact ⟨⟨fun _ => accepted, fun _ => rfl⟩, fun failed => (failed rfl).elim⟩
    · rw [merged]
      exact ⟨found, Batch.arranged_mergeInto found.present⟩
  | rejected found refused kept published_eq =>
    refine ⟨fun i update first => (first.not_allFound found).elim, fun _ => ?_, nofun⟩
    refine ⟨⟨nofun, fun accepted => ?_⟩, fun _ => ⟨rfl, kept, published_eq⟩⟩
    cases refused.symm.trans accepted

/-- An item is listed twice, and others write to the other one and add a third meanwhile: the last
update of each stands, and so does what the others have written elsewhere. An item that they add
only once it has been missed comes too late. -/
theorem arrange_keeps_last_updates_rehearsal :
    let edit := Batch.empty.merge "b" (Table.ofList [("note", .str "seen"), ("order", .int 9)])
    let item := Batch.empty.merge "c" (Rehearsal.stub 3)
    let updates : List ItemUpdate := [⟨"a", some 5, false⟩, ⟨"b", some 6, true⟩, ⟨"a", none, true⟩]
    let missing : List ItemUpdate := [⟨"a", none, true⟩, ⟨"c", none, true⟩]
    let early := Rehearsal.start (SharedStore.mk Rehearsal.items [[edit], [], [item]])
    let late := Rehearsal.start (SharedStore.mk Rehearsal.items [[], [item]])
    let registry := Registry.shared Rehearsal.factories Rehearsal.limits
    let after := ((registry.arrange updates).runOn early).2
    (((registry.arrange updates).runOn early).1 = .ok () ∧
      Arranged updates (early.store.itemsAt updates.length) after.store.items ∧
      after.store.items.value? "a" "order" = some .null ∧
      after.store.items.value? "b" "order" = some (.int 6) ∧
      after.store.items.value? "a" "enabled" = some (.bool true) ∧
      after.store.items.value? "b" "note" = some (.str "seen") ∧
      (after.store.items.get? "c").isSome = true) ∧
    ((registry.arrange missing).runOn late).1 =
      .error (.configurationInvalid "c" "no such item") := by
  intro edit item updates missing early late
  dsimp only
  have live : (((Registry.shared Rehearsal.factories Rehearsal.limits).arrange updates).runOn
      early).1 = .ok () := by rfl
  obtain ⟨-, -, arranged⟩ :=
    arrange_keeps_last_updates Rehearsal.factories Rehearsal.limits updates early
  obtain ⟨-, kept⟩ := arranged live
  have last : ItemUpdate.last? updates "a" = some ⟨"a", none, true⟩ := by rfl
  have only : ItemUpdate.last? updates "b" = some ⟨"b", some 6, true⟩ := by rfl
  have noted : (early.store.itemsAt updates.length).value? "b" "note" = some (.str "seen") := by rfl
  have added : ((early.store.itemsAt updates.length).get? "c").isSome = true := by rfl
  have unnamed : ¬ ("b" ∈ updates.map (·.name) ∧ "note" ∈ Bag.placeKeys) :=
    fun named => absurd named.2 (by decide)
  obtain ⟨missed, -, -⟩ :=
    arrange_keeps_last_updates Rehearsal.factories Rehearsal.limits missing late
  have first : ItemUpdate.FirstMissing late.store.itemsAt missing 1 ⟨"c", none, true⟩ := by
    constructor
    case listed => rfl
    case missing => rfl
    case earlier =>
      intro j other before listed
      obtain rfl : j = 0 := Nat.lt_one_iff.1 before
      cases listed
      rfl
  exact ⟨⟨live, kept, kept.unordered last rfl, kept.ordered only rfl, kept.enabled last,
    (kept.others _ _ unnamed).trans noted, (kept.present "c").trans added⟩, (missed 1 _ first).1⟩

end IdentityChain
