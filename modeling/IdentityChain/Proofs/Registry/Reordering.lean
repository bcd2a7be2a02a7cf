import IdentityChain.Proofs.Configuration.Exchange
import IdentityChain.Proofs.Registry.Reading
import IdentityChain.Proofs.Registry.Runs

/-!
# Reordering among other writers

An exchange of two orders reads the one, then the other, and commits in a third
step; over a shared store the items can differ at each of the three. What the
commit does is decided by the items it meets: the exchange goes through only if
both items still carry the orders that were read, and then those are the orders
that change places, whatever else the others have written.
-/

namespace IdentityChain

/-- A registry over a store with other writers. -/
def Registry.shared (factories : Table Factory) (limits : ResolutionLimits) :
    Registry SharedStore := ⟨.shared, factories, limits⟩

namespace Registry

variable {factories : Table Factory} {limits : ResolutionLimits}

theorem shared_readable (factories : Table Factory) (limits : ResolutionLimits) :
    (shared factories limits).store.Readable SharedStore.items SharedStore.interleaved :=
  Store.shared_readable

/-- The exchange is committed after two readings, each followed by what the others write. -/
theorem reorder_shared (first second : String) (state : RegistryState SharedStore) :
    ((shared factories limits).reorder first second).runOn state =
      let between := { state with store := state.store.interleaved }
      let current := { state with store := state.store.interleaved.interleaved }
      match state.store.items.orderOf first with
      | .error fault => (.error fault, between)
      | .ok firstOrder =>
        match between.store.items.orderOf second with
        | .error fault => (.error fault, current)
        | .ok secondOrder =>
          ((shared factories limits).reconfigure
            (exchange first second firstOrder secondOrder) none).runOn current := by
  rw [reorder, Action.runOn_bind, requireOrder_runOn (shared_readable factories limits)]
  cases state.store.items.orderOf first with
  | error fault => rfl
  | ok firstOrder =>
    show Action.runOn _ _ = _
    rw [Action.runOn_bind, requireOrder_runOn (shared_readable factories limits)]
    dsimp only
    cases state.store.interleaved.items.orderOf second with
    | error fault => rfl
    | ok secondOrder => rfl

/-- Over a shared store a batch is merged and live, or rejected without a trace. -/
theorem reconfigure_shared (batch : Batch) (validator : Option Validator)
    (state : RegistryState SharedStore) :
    let registry := shared factories limits
    let verdict := (state.store.items.commitOnTrial batch (registry.trial validator)).1
    let result := ((registry.reconfigure batch validator).runOn state).1
    let after := ((registry.reconfigure batch validator).runOn state).2
    (result = .ok () ∧ verdict.accepted = true ∧ batch.isMetBy state.store.items = true ∧
      after.store.items = batch.mergeInto state.store.items) ∨
    (result = .error (rejection batch) ∧ verdict.accepted = false ∧
      Unchanged SharedStore.items state after) := by
  intro registry verdict result after
  cases accepted : verdict.accepted with
  | false =>
    have kept : (state.store.items.commitOnTrial batch (registry.trial validator)).2 =
        state.store.items := Configuration.commitOnTrial_refused accepted
    have run : (registry.reconfigure batch validator).runOn state =
        (.error (rejection batch),
          { state with
            store := { state.store with
              items := (state.store.items.commitOnTrial batch (registry.trial validator)).2 }
            calls := state.calls ++ verdict.calls }) := by
      rw [reconfigure_runOn]
      show (if verdict.accepted = true then _ else _) = _
      rw [accepted]
      rfl
    refine .inr ⟨congrArg Prod.fst run, rfl, ?_, ?_⟩
    · show ((registry.reconfigure batch validator).runOn state).2.store.items = _
      rw [run]
      exact kept
    · show ((registry.reconfigure batch validator).runOn state).2.published = _
      rw [run]
  | true =>
    obtain ⟨met, -, -⟩ := Configuration.commitOnTrial_accepted accepted
    have step : CommitStep registry SharedStore.items batch validator state after result :=
      reconfigure_step Store.shared_atomic batch validator state
    generalize result = ended, after = last at step
    cases step with
    | live committed accepted' read merged built => exact .inl ⟨rfl, rfl, met, merged⟩
    | refused unaccepted same =>
      have refused : verdict.accepted = false := unaccepted verdict rfl
      cases refused.symm.trans accepted
    | stranded committed accepted' unread merged buildable published_eq => cases unread

/-- The ways in which a reordering ends over a shared store. The orders are read off the items at
the two readings, and all else is decided by the items at the commit. -/
inductive ReorderStep (registry : Registry SharedStore) (first second : String)
    (before after : RegistryState SharedStore) : Except Fault Unit → Prop where
  | unread {fault : Fault}
      (missing : ∀ firstOrder secondOrder, before.store.items.orderOf first = .ok firstOrder →
        before.store.interleaved.items.orderOf second ≠ .ok secondOrder)
      (published_eq : after.published = before.published) :
      ReorderStep registry first second before after (.error fault)
  | exchanged {firstOrder secondOrder : Int64}
      (readFirst : before.store.items.orderOf first = .ok firstOrder)
      (readSecond : before.store.interleaved.items.orderOf second = .ok secondOrder)
      (accepted : (before.store.interleaved.interleaved.items.commitOnTrial
        (exchange first second firstOrder secondOrder) (registry.trial none)).1.accepted = true)
      (met : (exchange first second firstOrder secondOrder).isMetBy
        before.store.interleaved.interleaved.items = true)
      (merged : after.store.items = (exchange first second firstOrder secondOrder).mergeInto
        before.store.interleaved.interleaved.items) :
      ReorderStep registry first second before after (.ok ())
  | rejected {firstOrder secondOrder : Int64}
      (readFirst : before.store.items.orderOf first = .ok firstOrder)
      (readSecond : before.store.interleaved.items.orderOf second = .ok secondOrder)
      (refused : (before.store.interleaved.interleaved.items.commitOnTrial
        (exchange first second firstOrder secondOrder) (registry.trial none)).1.accepted = false)
      (kept : after.store.items = before.store.interleaved.interleaved.items)
      (published_eq : after.published = before.published) :
      ReorderStep registry first second before after
        (.error (rejection (exchange first second firstOrder secondOrder)))

theorem reorder_step (first second : String) (before : RegistryState SharedStore) :
    ReorderStep (shared factories limits) first second before
      (((shared factories limits).reorder first second).runOn before).2
      (((shared factories limits).reorder first second).runOn before).1 := by
  rw [reorder_shared]
  cases readFirst : before.store.items.orderOf first with
  | error fault => exact .unread (fun _ _ ok => by cases readFirst.symm.trans ok) rfl
  | ok firstOrder =>
    dsimp only
    cases readSecond : before.store.interleaved.items.orderOf second with
    | error fault => exact .unread (fun _ _ _ ok => by cases readSecond.symm.trans ok) rfl
    | ok secondOrder =>
      rcases reconfigure_shared (exchange first second firstOrder secondOrder) none
        { before with store := before.store.interleaved.interleaved } with
        ⟨live, accepted, met, merged⟩ | ⟨rejected, refused, same⟩
      · rw [live]
        exact .exchanged readFirst readSecond accepted met merged
      · rw [rejected]
        exact .rejected readFirst readSecond refused same.items_eq same.published_eq

end Registry

/-- Whatever others commit after the two readings of a reordering. It succeeds if and only if its
commit is accepted, and then the orders that stood there just before are exchanged and nothing else
is changed. If an order is no longer the one that was read, the call is rejected, and what is left
is what the others have written. -/
theorem reorder_exchanges_or_rejects (factories : Table Factory) (limits : ResolutionLimits)
    (first second : String) (items : Configuration) (between later : List Batch)
    (arrivals : List (List Batch)) (before : RegistryState SharedStore) :
    let registry := Registry.shared factories limits
    let start := { before with store := ⟨items, between :: later :: arrivals⟩ }
    let moved := items.commitAll between
    let current := moved.commitAll later
    let result := ((registry.reorder first second).runOn start).1
    let after := ((registry.reorder first second).runOn start).2
    (result = .ok () ↔ ∃ firstOrder secondOrder, items.orderOf first = .ok firstOrder ∧
      moved.orderOf second = .ok secondOrder ∧
      (current.commitOnTrial (Registry.exchange first second firstOrder secondOrder)
        (registry.trial none)).1.accepted = true) ∧
    (result = .ok () → Exchanged first second current after.store.items ∧
      after.store.items.orders.Perm current.orders) ∧
    ∀ firstOrder secondOrder, items.orderOf first = .ok firstOrder →
      moved.orderOf second = .ok secondOrder →
      current.value? first Bag.orderKey ≠ some (.ofInt64 firstOrder) ∨
        current.value? second Bag.orderKey ≠ some (.ofInt64 secondOrder) →
      (∃ message, result = .error (.commitRejected message)) ∧
        after.store.items = current ∧ after.published = before.published := by
  intro registry start moved current result after
  have step : Registry.ReorderStep registry first second start after result :=
    Registry.reorder_step first second start
  generalize result = ended, after = last at step ⊢
  cases step with
  | unread missing published_eq =>
    refine ⟨⟨nofun, ?_⟩, nofun, ?_⟩
    · rintro ⟨firstOrder, secondOrder, readFirst, readSecond, -⟩
      exact (missing _ _ readFirst readSecond).elim
    · intro firstOrder secondOrder readFirst readSecond
      exact (missing _ _ readFirst readSecond).elim
  | exchanged readFirst readSecond accepted met merged =>
    obtain ⟨firstNow, secondNow⟩ := Registry.isMetBy_exchange.1 met
    refine ⟨⟨fun _ => ⟨_, _, readFirst, readSecond, accepted⟩, fun _ => rfl⟩, fun _ => ?_, ?_⟩
    · have exchanged := Registry.exchanged_of_isMetBy met
      rw [merged]
      exact ⟨exchanged, exchanged.orders_perm (Configuration.isSome_get?_of_value? firstNow)
        (Configuration.isSome_get?_of_value? secondNow)⟩
    · intro firstOrder secondOrder readFirst' readSecond' differ
      -- What was accepted still carried the orders that were read.
      cases readFirst.symm.trans readFirst'
      cases readSecond.symm.trans readSecond'
      exact (differ.elim (· firstNow) (· secondNow)).elim
  | rejected readFirst readSecond refused kept published_eq =>
    refine ⟨⟨nofun, ?_⟩, nofun, fun _ _ _ _ _ => ⟨⟨_, rfl⟩, kept, published_eq⟩⟩
    rintro ⟨firstOrder, secondOrder, readFirst', readSecond', accepted⟩
    cases readFirst.symm.trans readFirst'
    cases readSecond.symm.trans readSecond'
    cases refused.symm.trans accepted

/-- An edit between the two readings and a new item before the commit do not disturb an exchange;
a new order does. -/
theorem reorder_exchanges_or_rejects_rehearsal :
    let registry := Registry.shared Rehearsal.factories Rehearsal.limits
    let edit := Batch.empty.merge "a" (Table.ofList [("note", .str "seen")])
    let item := Batch.empty.merge "c" (Rehearsal.stub 3)
    let move := Batch.empty.merge "a" (Bag.empty.withOrder (some 9))
    let calm := Rehearsal.start (SharedStore.mk Rehearsal.items [[edit], [item]])
    let late := Rehearsal.start (SharedStore.mk Rehearsal.items [[edit], [move]])
    let edited := Rehearsal.items.commitAll [edit]
    let reorder := (registry.reorder "a" "b").runOn
    ((reorder calm).1 = .ok () ∧
      Exchanged "a" "b" (edited.commitAll [item]) (reorder calm).2.store.items ∧
      (reorder calm).2.store.items.orders.Perm (edited.commitAll [item]).orders) ∧
    ((∃ message, (reorder late).1 = .error (.commitRejected message)) ∧
      (reorder late).2.store.items = edited.commitAll [move] ∧
      (reorder late).2.published = late.published) := by
  intro registry edit item move calm late edited reorder
  have live : (reorder calm).1 = .ok () := by rfl
  have whenCalm := reorder_exchanges_or_rejects Rehearsal.factories Rehearsal.limits "a" "b"
    Rehearsal.items [edit] [item] [] calm
  have whenLate := reorder_exchanges_or_rejects Rehearsal.factories Rehearsal.limits "a" "b"
    Rehearsal.items [edit] [move] [] late
  have moved : (edited.commitAll [move]).value? "a" Bag.orderKey = some (.ofInt64 9) := by rfl
  refine ⟨⟨live, whenCalm.2.1 live⟩, whenLate.2.2 1 2 (by rfl) (by rfl) (.inl ?_)⟩
  intro same
  cases moved.symm.trans same

end IdentityChain
