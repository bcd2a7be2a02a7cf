import IdentityChain.Proofs.Configuration.Merging
import IdentityChain.Proofs.Mapping.RoundTrips
import IdentityChain.Proofs.Registry.Runs
import Mathlib.Data.List.Nodup

/-!
# Typed items after a write

A typed write is a merge: the properties of the value are written over those
that the item held, and the others stay (`held_of_put`). A typed read takes the
whole bag (`typedItem_of_read`). So what is read back, until the next write, is
what the mapper makes of the merged bag. That is the value itself if the item
held nothing else, and also if the mapper passes over what else there is; a type
that reads every property finds the old ones beside the new.
-/

namespace IdentityChain

variable {σ α : Type} {items : σ → Configuration} {registry : Registry σ}

/-! ## Until the next write -/

/-- Whether the operation may write items. -/
def Operation.writes : Operation → Bool
  | .reconfigure _ => true
  | .init | .reload | .signIn _ | .resolve _ | .profileOf _ | .listing | .readItem _
  | .typedItem _ => false

/-- None of the events may write items. -/
def Quiet (events : List Event) : Prop :=
  ∀ operation, .call operation ∈ events → operation.writes = false

theorem items_of_reload (atomic : registry.store.Atomic items) (before : RegistryState σ) :
    items (registry.reload.runOn before).2.store = items before.store := by
  have step := reload_step atomic before
  generalize (registry.reload.runOn before).1 = result, (registry.reload.runOn before).2 = after
    at step ⊢
  cases step with
  | live read kept built => exact kept
  | unread unread same => exact same.items_eq
  | unbuilt unbuilt same => exact same.items_eq

/-- Only reconfigurations change the items. -/
theorem items_of_not_writes (contract : registry.store.Contract items) {operation : Operation}
    (quiet : operation.writes = false) (before : RegistryState σ) :
    items ((operation.action registry).runOn before).2.store = items before.store := by
  cases operation with
  | init => exact items_of_reload contract.toAtomic before
  | reload => exact items_of_reload contract.toAtomic before
  | reconfigure call => cases quiet
  | _ => exact (unchanged_of_not_publishes contract rfl before).items_eq

/-- Without a write the items stay. -/
theorem items_of_quiet (contract : registry.store.Contract items) {events : List Event}
    (quiet : Quiet events) (state : RegistryState σ) :
    items (registry.after events state).store = items state.store := by
  induction events generalizing state with
  | nil => rfl
  | cons event rest ih =>
    rw [Registry.after_cons, ih fun operation member => quiet operation (.tail _ member)]
    cases event with
    | clock now => rfl
    | call operation => exact items_of_not_writes contract (quiet operation (.head _)) state

/-! ## Writing and reading -/

/-- A typed write that succeeds has merged the properties of the value into the item. -/
theorem held_of_put (contract : registry.store.Contract items) {mapper : Mapper α} {value : α}
    {before : RegistryState σ} (put : ((registry.putItem mapper value).runOn before).1 = .ok ()) :
    ∃ properties, mapper.toBag value = .ok properties ∧
      (items ((registry.putItem mapper value).runOn before).2.store).get? mapper.item =
        some (Batch.edited properties ((items before.store).get? mapper.item)) := by
  have step := call_step contract (.putItem mapper value) before
  change CallStep registry items _ before ((registry.putItem mapper value).runOn before).2
    ((registry.putItem mapper value).runOn before).1 at step
  generalize ((registry.putItem mapper value).runOn before).2 = after at step ⊢
  rw [put] at step
  cases step with
  | staged run batch_eq read step =>
    cases step with
    | live committed accepted read' merged built =>
      obtain ⟨properties, written, batch_eq⟩ := Except.bind_eq_ok batch_eq
      cases batch_eq
      refine ⟨properties, Except.mapError_eq_ok written, ?_⟩
      rw [merged, read.items_eq, Batch.get?_mergeInto, Batch.get?_edits_merge, if_pos rfl]
      rfl

/-- A typed read whose store does not fail answers what the mapper makes of the item. -/
theorem typedItem_of_read (contract : registry.store.Contract items) (mapper : Mapper α)
    {state : RegistryState σ} {found : Option Bag}
    (read : (registry.store.read mapper.item state.store).1 = .ok found) :
    ((registry.typedItem mapper).runOn state).1 =
      Configuration.typed mapper ((items state.store).get? mapper.item) := by
  rw [← contract.read_ok read]
  have ran : (registry.readItem mapper.item).runOn state =
      (.ok found, { state with store := (registry.store.read mapper.item state.store).2 }) := by
    rw [Registry.readItem, Action.runOn_onStore, read]
  rw [Registry.typedItem, Action.runOn_bind_ok ran]
  cases found with
  | none => rfl
  | some bag =>
    dsimp only
    rw [Action.runOn_map]
    rfl

/-- Properties written over a bag without other keys are the whole bag. -/
theorem Batch.edited_eq_of_covered {properties : Bag} {old : Option Bag}
    (covered : ∀ bag, old = some bag → bag.keys ⊆ properties.keys) :
    edited properties old = properties := by
  refine Table.ext_get? fun key => ?_
  rw [get?_edited]
  cases old with
  | none => exact Option.or_none
  | some bag =>
    cases written : properties.get? key with
    | some value => rfl
    | none =>
      have absent : key ∉ properties.keys := fun listed => by
        have present := Table.mem_keys_iff.1 listed
        rw [written] at present
        cases present
      have unheld : ¬ (bag.get? key).isSome = true := fun held =>
        absent (covered bag rfl (Table.mem_keys_iff.2 held))
      exact Option.not_isSome_iff_eq_none.1 unheld

/-- The merged bag includes what was written. -/
theorem Batch.includes_edited (properties : Bag) (old : Option Bag) :
    (edited properties old).Includes properties := by
  intro key value written
  rw [get?_edited, written]
  rfl

/-- After a typed write that succeeds, while nothing else writes and the item can be read, a typed
read answers what the mapper makes of the properties of the value over those that the item held. It
is the value exactly if the mapper reads the value from them; so it is if the item was new or held
nothing under other keys, and so it is always for a mapper that ignores other keys. -/
theorem typedItem_after_put (contract : registry.store.Contract items) {mapper : Mapper α}
    (roundTrips : mapper.RoundTrips) {value : α} {before : RegistryState σ}
    (put : ((registry.putItem mapper value).runOn before).1 = .ok ()) :
    ∃ properties, mapper.toBag value = .ok properties ∧
      let old := (items before.store).get? mapper.item
      let held := Batch.edited properties old
      ∀ events, Quiet events → ∀ found,
        let later := registry.after events ((registry.putItem mapper value).runOn before).2
        (registry.store.read mapper.item later.store).1 = .ok found →
        let answer := ((registry.typedItem mapper).runOn later).1
        answer = ((mapper.ofBag held).mapError Fault.ofPublic).map some ∧
          (answer = .ok (some value) ↔ mapper.ofBag held = .ok value) ∧
          ((∀ bag, old = some bag → bag.keys ⊆ properties.keys) → answer = .ok (some value)) ∧
          (mapper.IgnoresOthers → answer = .ok (some value)) := by
  obtain ⟨properties, written, kept⟩ := held_of_put contract put
  refine ⟨properties, written, ?_⟩
  intro old held events quiet found later read answer
  have stored : (items later.store).get? mapper.item = some held := by
    rw [items_of_quiet contract quiet]
    exact kept
  have answer_eq : answer = ((mapper.ofBag held).mapError Fault.ofPublic).map some := by
    have typed : answer = Configuration.typed mapper _ := typedItem_of_read contract mapper read
    rw [typed, stored]
    rfl
  have answers : answer = .ok (some value) ↔ mapper.ofBag held = .ok value := by
    rw [answer_eq]
    cases mapper.ofBag held with
    | error fault => exact ⟨nofun, nofun⟩
    | ok other =>
      show Except.ok (some other) = .ok (some value) ↔ _
      rw [Except.ok.injEq, Option.some.injEq, Except.ok.injEq]
  refine ⟨answer_eq, answers, fun covered => answers.2 ?_, fun ignores => answers.2 ?_⟩
  · have held_eq : held = properties := Batch.edited_eq_of_covered covered
    rw [held_eq]
    exact roundTrips value properties written
  · exact ignores value properties written held (Batch.includes_edited properties old)

/-- The address of a directory is read back from an item that is a source and has other properties,
across a reload that fails; a table of integers from an item that held one of its keys. -/
theorem typedItem_after_put_rehearsal :
    let registry := Registry.unreliable Rehearsal.factories Rehearsal.limits
    let before := Rehearsal.start (UnreliableStore.mk
      (Table.ofList [("a", Rehearsal.stub 1), ("n", Table.ofList [("x", .int 1)])])
      [none, none, some (.unreachable "down")])
    let events : List Event := [.call .reload, .clock ⟨60, 0⟩, .call (.resolve "ann")]
    let address := Mapper.ofForm "a" ServerAddress.form
    let counts := Mapper.ofForm "n" .counts
    let server : ServerAddress := ⟨"ldap.example", 7⟩
    let numbers : Table Int64 := Table.ofList [("x", 2), ("y", 3)]
    let moved := registry.after events ((registry.putItem address server).runOn before).2
    let counted := registry.after events ((registry.putItem counts numbers).runOn before).2
    (((registry.putItem address server).runOn before).1 = .ok () ∧
      ((registry.typedItem address).runOn moved).1 = .ok (some server)) ∧
    ((registry.putItem counts numbers).runOn before).1 = .ok () ∧
      ((registry.typedItem counts).runOn counted).1 = .ok (some numbers) := by
  intro registry before events address counts server numbers moved counted
  have contract := Registry.unreliable_contract Rehearsal.factories Rehearsal.limits
  have quiet : Quiet events := by
    intro operation member
    simp only [events, List.mem_cons, Event.call.injEq, reduceCtorEq, List.not_mem_nil, or_false,
      false_or] at member
    rcases member with rfl | rfl <;> rfl
  have ignores : address.IgnoresOthers := ServerAddress.ignoresOthers "a"
  have put : ((registry.putItem address server).runOn before).1 = .ok () := by decide +kernel
  have put' : ((registry.putItem counts numbers).runOn before).1 = .ok () := by decide +kernel
  obtain ⟨_, _, reads⟩ := typedItem_after_put contract ignores.roundTrips put
  obtain ⟨properties, written, reads'⟩ := typedItem_after_put contract (roundTrips_counts "n") put'
  have properties_eq : Table.ofList [("x", .int 2), ("y", .int 3)] = properties :=
    Except.ok.inj written
  have covered : ∀ bag, before.store.items.get? "n" = some bag → bag.keys ⊆ properties.keys := by
    intro bag found
    have bag_eq : Table.ofList [("x", .int 1)] = bag := Option.some.inj found
    rw [← bag_eq, ← properties_eq]
    decide
  have read : (registry.store.read "a" moved.store).1 =
      .ok (some (Table.ofList [("order", .int 7), ("type", .str "stub"),
        ("url", .str "ldap.example")])) := by decide +kernel
  have read' : (registry.store.read "n" counted.store).1 =
      .ok (some (Table.ofList [("x", .int 2), ("y", .int 3)])) := by decide +kernel
  obtain ⟨-, -, -, back⟩ := reads events quiet _ read
  obtain ⟨-, -, back', -⟩ := reads' events quiet _ read'
  exact ⟨⟨put, back ignores⟩, put', back' covered⟩

/-- A value is not always read back: a table of integers comes with those that the item held. -/
theorem not_always_read_back :
    ¬ ∀ (α : Type) (mapper : Mapper α) (factories : Table Factory) (limits : ResolutionLimits)
        (before : RegistryState Configuration) (value : α),
      let registry := Registry.inMemory factories limits
      mapper.RoundTrips → ((registry.putItem mapper value).runOn before).1 = .ok () →
      ((registry.typedItem mapper).runOn ((registry.putItem mapper value).runOn before).2).1 =
        .ok (some value) := by
  intro always
  let items : Configuration := Table.ofList [("c", Table.ofList [("a", .int 1)])]
  let before := Rehearsal.start items
  let numbers : Table Int64 := Table.ofList [("b", 2)]
  have readBack := always _ (Mapper.ofForm "c" .counts) Rehearsal.factories Rehearsal.limits before
    numbers (roundTrips_counts "c") (by decide +kernel)
  have joined : ((Registry.typedItem (Registry.inMemory Rehearsal.factories Rehearsal.limits)
      (Mapper.ofForm "c" .counts)).runOn
        ((Registry.putItem (Registry.inMemory Rehearsal.factories Rehearsal.limits)
          (Mapper.ofForm "c" .counts) numbers).runOn before).2).1 =
      .ok (some (Table.ofList [("a", 1), ("b", 2)])) := by decide +kernel
  have different : (Table.ofList [("a", 1), ("b", 2)] : Table Int64) ≠ numbers := by decide
  exact different (Option.some.inj (Except.ok.inj (joined.symm.trans readBack)))

end IdentityChain
