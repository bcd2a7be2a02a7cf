import IdentityChain.Proofs.Configuration.Exchange
import IdentityChain.Proofs.Directory.Sources
import IdentityChain.Proofs.Registry.Reading
import IdentityChain.Proofs.Registry.Trials

/-!
# Calls that place items

A bulk update of items that exist and an exchange of orders that are there
(`Placement`) stage nothing but places and switches, and what they require holds
when nobody else writes. So where no factory reads those keys the merged items
build, the batch is tried on them, and the call goes live. Static directories
are such sources: the strict reading of their settings never sees an order or a
switch.
-/

namespace IdentityChain

/-- The calls that do no more than place the named items, on some items: the listed items are there,
or both exchanged ones and their orders. -/
inductive Placement (items : Configuration) : Reconfiguration → List String → Prop where
  | arrange {updates : List ItemUpdate}
      (present : ∀ update ∈ updates, (items.get? update.name).isSome = true) :
      Placement items (.arrange updates) (updates.map (·.name))
  | reorder {first second : String} {firstOrder secondOrder : Int64}
      (hasFirst : (items.get? first).bind Bag.order? = some firstOrder)
      (hasSecond : (items.get? second).bind Bag.order? = some secondOrder) :
      Placement items (.reorder first second) [first, second]

/-- A placement is not validated. -/
theorem Placement.validator?_eq_none {items : Configuration} {call : Reconfiguration}
    {named : List String} (placement : Placement items call named) : call.validator? = none := by
  cases placement with
  | arrange present => rfl
  | reorder hasFirst hasSecond => rfl

namespace Configuration

variable {items : Configuration} {name : String} {order : Int64}

theorem orderOf_eq_ok (has : items.order? name = some order) :
    items.orderOf name = .ok order := by
  obtain ⟨bag, found, carried⟩ := Option.bind_eq_some_iff.1 has
  rw [orderOf, itemOf, found]
  show requiredOrder name bag = .ok order
  rw [requiredOrder, carried]

/-- An item that is not there or carries no order is reported by its name. -/
theorem orderOf_eq_error (none : items.order? name = none) :
    ∃ reason, items.orderOf name = .error (.configurationInvalid name reason) := by
  rw [orderOf, itemOf]
  unfold order? at none
  cases found : items.get? name with
  | none => exact ⟨_, rfl⟩
  | some bag =>
    rw [found] at none
    have uncarried : bag.order? = Option.none := none
    refine ⟨"missing `order`", ?_⟩
    show requiredOrder name bag = _
    rw [requiredOrder, uncarried]

end Configuration

namespace Registry

variable {factories : Table Factory} {limits : ResolutionLimits}
  {before : RegistryState Configuration} {call : Reconfiguration} {named : List String}

theorem inMemory_readable (factories : Table Factory) (limits : ResolutionLimits) :
    (inMemory factories limits).store.Readable (fun items => items) id := Store.memory_readable

theorem requireOrder_inMemory (name : String) :
    ((inMemory factories limits).requireOrder name).runOn before =
      (before.store.orderOf name, before) :=
  requireOrder_runOn (inMemory_readable factories limits) name before

/-- Updates of items that are there are staged. -/
theorem stage_arrange {updates : List ItemUpdate}
    (present : ∀ update ∈ updates, (before.store.get? update.name).isSome = true) :
    (((Reconfiguration.arrange updates).stage (inMemory factories limits)).runOn before).1 =
      .ok (Batch.empty.stageAll updates) := by
  have found : ItemUpdate.AllFound (fun i => id^[i] before.store) updates := by
    intro i update listed
    show ((id^[i] before.store).get? update.name).isSome = true
    rw [Function.iterate_id]
    exact present update (List.mem_of_getElem? listed)
  exact congrArg Prod.fst
    (stageUpdates_of_allFound (inMemory_readable factories limits) found .empty)

/-- An exchange of orders that are there is staged. -/
theorem stage_reorder {first second : String} {firstOrder secondOrder : Int64}
    (hasFirst : before.store.order? first = some firstOrder)
    (hasSecond : before.store.order? second = some secondOrder) :
    (((Reconfiguration.reorder first second).stage (inMemory factories limits)).runOn before).1 =
      .ok (exchange first second firstOrder secondOrder) := by
  have read : ∀ {name order}, before.store.order? name = some order →
      ((inMemory factories limits).requireOrder name).runOn before = (.ok order, before) := by
    intro name order has
    rw [requireOrder_inMemory, Configuration.orderOf_eq_ok has]
  rw [Reconfiguration.stage, Action.runOn_bind_ok (read hasFirst),
    Action.runOn_bind_ok (read hasSecond)]
  rfl

/-- Items that carry their orders meet what their exchange requires. -/
theorem isMetBy_exchange_of_orders {first second : String} {firstOrder secondOrder : Int64}
    {items : Configuration} (hasFirst : items.order? first = some firstOrder)
    (hasSecond : items.order? second = some secondOrder) :
    (exchange first second firstOrder secondOrder).isMetBy items = true :=
  isMetBy_exchange.2 ⟨Configuration.order?_eq_some_iff.1 hasFirst,
    Configuration.order?_eq_some_iff.1 hasSecond⟩

/-- A placement stages a batch that can be merged and edits places and switches alone. -/
theorem stage_of_placement (placement : Placement before.store call named) :
    ∃ batch, ((call.stage (inMemory factories limits)).runOn before).1 = .ok batch ∧
      batch.isMetBy before.store = true ∧
      before.store.DiffersAt named Bag.placeKeys (batch.mergeInto before.store) := by
  cases placement with
  | @arrange updates present =>
    exact ⟨_, stage_arrange present, Batch.isMetBy_stageAll updates before.store,
      (Batch.arranged_mergeInto present).toDiffersAt⟩
  | @reorder first second firstOrder secondOrder hasFirst hasSecond =>
    have met := isMetBy_exchange_of_orders hasFirst hasSecond
    exact ⟨_, stage_reorder hasFirst hasSecond, met,
      (exchanged_of_isMetBy met).differsAt List.mem_cons_self⟩

/-- Over a store in memory a call that brings no validator goes live if what it requires holds and
the merged items build. -/
theorem live_of_buildable {batch : Batch}
    (reached : ((call.stage (inMemory factories limits)).runOn before).1 = .ok batch)
    (unvalidated : call.validator? = none) (met : batch.isMetBy before.store = true)
    (buildable : Snapshot.Buildable factories (batch.mergeInto before.store)) :
    ∃ next, Snapshot.build factories (before.published.version + 1)
        (batch.mergeInto before.store) = .ok next ∧
      (call.action (inMemory factories limits)).runOn before =
        (.ok (), { before with store := batch.mergeInto before.store, published := next }) := by
  obtain ⟨trial, merged⟩ := buildable
  have tried : Tried factories before.store batch trial := ⟨met, merged⟩
  refine ⟨_, Snapshot.build_atVersion merged (before.published.version + 1), ?_⟩
  rw [action_of_staged reached, reconfigure_tried tried, unvalidated]
  show (_, { before with
    store := batch.mergeInto before.store
    published := _
    calls := before.calls ++ [] }) = _
  rw [List.append_nil]

/-- A call is rejected without a trace if the merged items do not build. -/
theorem rejected_of_unbuildable {batch : Batch}
    (reached : ((call.stage (inMemory factories limits)).runOn before).1 = .ok batch)
    (unbuildable : ¬ Snapshot.Buildable factories (batch.mergeInto before.store)) :
    (call.action (inMemory factories limits)).runOn before =
      (.error (rejection batch), before) := by
  have untried : ∀ trial, ¬ Tried factories before.store batch trial :=
    fun trial tried => unbuildable ⟨trial, tried.built⟩
  rw [action_of_staged reached, reconfigure_untried untried]

end Registry

/-- Over a store in memory whose items build and whose sources are all static directories, no bulk
update of existing items and no exchange of two existing orders is refused. The next snapshot holds
the same entries, each with the same service, and those of items that the call does not name in the
same place. -/
theorem placement_keeps_static_sources {factories : Table Factory} {limits : ResolutionLimits}
    {before : RegistryState Configuration} {call : Reconfiguration} {named : List String}
    {version : Nat} {earlier : Snapshot}
    (known : factories.get? Directory.kind = some Directory.factory)
    (static : before.store.AllStatic)
    (built : Snapshot.build factories version before.store = .ok earlier)
    (placement : Placement before.store call named) :
    let registry := Registry.inMemory factories limits
    let result := ((call.action registry).runOn before).1
    let after := ((call.action registry).runOn before).2
    result = .ok () ∧
      Snapshot.build factories (before.published.version + 1) after.store = .ok after.published ∧
      Snapshot.Rearranged named earlier after.published := by
  have own : before.store.ReadsOwn factories := static.readsOwn known
  obtain ⟨batch, reached, met, differs⟩ := Registry.stage_of_placement placement
  have buildable : Snapshot.Buildable factories (batch.mergeInto before.store) :=
    Snapshot.Buildable.of_differs (.of_build built) own differs
  obtain ⟨next, live, run⟩ :=
    Registry.live_of_buildable reached placement.validator?_eq_none met buildable
  dsimp only
  rw [run]
  exact ⟨rfl, live, Snapshot.rearranged_of_build built live own differs⟩

namespace Rehearsal

/-- Two directories, and a block of settings. -/
def directories : Configuration :=
  Table.ofList [("hall", directoryBag 1 "both" [account "ann" "secret" true]),
    ("policy", Table.ofList [("order", .int 7)]),
    ("side", directoryBag 2 "provider" [account "bob" "hidden" false])]

end Rehearsal

/-- Two directories change places, and one of them is disabled together with a block of settings. -/
theorem placement_keeps_static_sources_rehearsal :
    let registry := Registry.inMemory Rehearsal.staticFactories Rehearsal.limits
    let before := Rehearsal.start Rehearsal.directories
    let updates : List ItemUpdate := [⟨"side", none, false⟩, ⟨"policy", some 3, false⟩]
    let reordered := (registry.reorder "hall" "side").runOn before
    let arranged := (registry.arrange updates).runOn before
    ∃ earlier, Snapshot.build Rehearsal.staticFactories 0 Rehearsal.directories = .ok earlier ∧
      (reordered.1 = .ok () ∧
        Snapshot.Rearranged ["hall", "side"] earlier reordered.2.published) ∧
      arranged.1 = .ok () ∧
        Snapshot.Rearranged ["side", "policy"] earlier arranged.2.published := by
  have known : Rehearsal.staticFactories.get? Directory.kind = some Directory.factory := by rfl
  have static : Rehearsal.directories.AllStatic := by decide +kernel
  obtain ⟨earlier, built⟩ : ∃ earlier,
      Snapshot.build Rehearsal.staticFactories 0 Rehearsal.directories = .ok earlier := ⟨_, rfl⟩
  intro registry before updates reordered arranged
  have reorder : Placement before.store (.reorder "hall" "side") ["hall", "side"] :=
    .reorder (by rfl) (by rfl)
  have arrange : Placement before.store (.arrange updates) ["side", "policy"] := by
    refine .arrange ?_
    decide +kernel
  obtain ⟨live, -, same⟩ := placement_keeps_static_sources known static built reorder
  obtain ⟨live', -, same'⟩ := placement_keeps_static_sources known static built arrange
  exact ⟨earlier, built, ⟨live, same⟩, live', same'⟩

end IdentityChain
