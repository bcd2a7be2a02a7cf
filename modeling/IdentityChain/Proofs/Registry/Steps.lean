import IdentityChain.Proofs.Catalog.Building
import IdentityChain.Proofs.Registry.Frames
import IdentityChain.Proofs.Registry.Staging

/-!
# What one call does

One inversion lemma for each way in which a call ends, over any store that
keeps its contract; a reload and a commit ask only that the store is atomic. A
reload publishes what the items describe or changes nothing (`reload_step`). A
commit is refused and changes nothing, or is followed by a reload; that reload
can fail only because the items cannot be read back, and the commit is then
stranded: the items have changed and the published snapshot has not
(`reconfigure_step`). `operation_step` sums up every operation, and the
invariants of runs follow from it.
-/

namespace IdentityChain

variable {σ : Type} {items : σ → Configuration} {registry : Registry σ}

/-- Neither the items nor the published snapshot differ. -/
structure Unchanged (items : σ → Configuration) (before after : RegistryState σ) : Prop where
  items_eq : items after.store = items before.store
  published_eq : after.published = before.published

theorem Untouched.unchanged {before after : RegistryState σ} (h : Untouched items before after) :
    Unchanged items before after := ⟨h.items_eq, h.published_eq⟩

theorem Unchanged.after_untouched {before staged after : RegistryState σ}
    (h : Unchanged items staged after) (read : Untouched items before staged) :
    Unchanged items before after :=
  ⟨h.items_eq.trans read.items_eq, h.published_eq.trans read.published_eq⟩

/-! ## Reloading -/

theorem reload_runOn (registry : Registry σ) (state : RegistryState σ) :
    registry.reload.runOn state =
      match registry.store.readAll state.store with
      | (.error fault, store) => (.error fault, { state with store := store })
      | (.ok all, store) =>
        match Snapshot.build registry.factories (state.published.version + 1) all with
        | .error fault => (.error fault, { state with store := store })
        | .ok next => (.ok (), { state with store := store, published := next }) := by
  unfold Registry.reload
  rw [Action.runOn_bind, Action.runOn_onStore]
  cases registry.store.readAll state.store with
  | mk result store =>
    cases result with
    | error fault => rfl
    | ok all =>
      simp only [Action.runOn_bind, Action.runOn_get, Action.runOn_mk_pure, Action.runOn_modify]
      cases Snapshot.build registry.factories (state.published.version + 1) all <;> rfl

/-- A reload that succeeds publishes what the items in the store describe. -/
theorem build_of_reload {start : RegistryState σ}
    (reloaded : (registry.reload.runOn start).1 = .ok ()) :
    ∃ items, (registry.store.readAll start.store).1 = .ok items ∧
      Snapshot.build registry.factories (start.published.version + 1) items =
        .ok (registry.reload.runOn start).2.published := by
  rw [reload_runOn] at reloaded ⊢
  cases read : registry.store.readAll start.store with
  | mk result store =>
    rw [read] at reloaded
    cases result with
    | error fault => cases reloaded
    | ok items =>
      dsimp only at reloaded ⊢
      cases built : Snapshot.build registry.factories (start.published.version + 1) items with
      | error fault => rw [built] at reloaded; cases reloaded
      | ok next => exact ⟨items, rfl, built⟩

/-- The ways in which a reload ends. -/
inductive ReloadStep (registry : Registry σ) (items : σ → Configuration)
    (before after : RegistryState σ) : Except Fault Unit → Prop where
  | live
      (read : ∃ all, (registry.store.readAll before.store).1 = .ok all)
      (kept : items after.store = items before.store)
      (built : Snapshot.build registry.factories (before.published.version + 1)
        (items before.store) = .ok after.published) :
      ReloadStep registry items before after (.ok ())
  | unread {fault : Fault}
      (unread : (registry.store.readAll before.store).1 = .error fault)
      (same : Unchanged items before after) :
      ReloadStep registry items before after (.error fault)
  | unbuilt {fault : Fault}
      (unbuilt : Snapshot.build registry.factories (before.published.version + 1)
        (items before.store) = .error fault)
      (same : Unchanged items before after) :
      ReloadStep registry items before after (.error fault)

theorem reload_step (atomic : registry.store.Atomic items) (before : RegistryState σ) :
    ReloadStep registry items before (registry.reload.runOn before).2
      (registry.reload.runOn before).1 := by
  have kept := atomic.items_readAll before.store
  have all_eq : ∀ all, (registry.store.readAll before.store).1 = .ok all →
      all = items before.store := fun all => atomic.readAll_ok
  rw [reload_runOn]
  cases read : registry.store.readAll before.store with
  | mk result store =>
    rw [read] at kept all_eq
    cases result with
    | error fault => exact .unread (by rw [read]) ⟨kept, rfl⟩
    | ok all =>
      obtain rfl := all_eq all rfl
      cases built : Snapshot.build registry.factories (before.published.version + 1)
          (items before.store) with
      | error fault =>
        simp only [built]
        exact .unbuilt built ⟨kept, rfl⟩
      | ok next =>
        simp only [built]
        exact .live ⟨_, by rw [read]⟩ kept built

/-! ## Committing -/

/-- A trial is passed only by items that build. -/
theorem buildable_of_trial {validator : Option Validator} {all : Configuration}
    (h : (registry.trial validator all).accepted = true) :
    Snapshot.Buildable registry.factories all := by
  unfold Registry.trial at h
  split at h
  · cases h
  · rename_i snapshot built
    exact ⟨snapshot, built⟩

theorem reconfigure_runOn (registry : Registry σ) (batch : Batch) (validator : Option Validator)
    (state : RegistryState σ) :
    (registry.reconfigure batch validator).runOn state =
      match registry.store.commitOnTrial batch (registry.trial validator) state.store with
      | (.error fault, store) => (.error fault, { state with store := store })
      | (.ok verdict, store) =>
        let committed := { state with store := store, calls := state.calls ++ verdict.calls }
        if verdict.accepted then registry.reload.runOn committed
        else (.error (Registry.rejection batch), committed) := by
  unfold Registry.reconfigure
  rw [Action.runOn_bind, Action.runOn_onStore]
  cases registry.store.commitOnTrial batch (registry.trial validator) state.store with
  | mk result store =>
    cases result with
    | error fault => rfl
    | ok verdict =>
      simp only [Action.runOn_bind, Action.runOn_recordCalls]
      split <;> rfl

/-- The ways in which the commit of a batch and what follows it end. -/
inductive CommitStep (registry : Registry σ) (items : σ → Configuration) (batch : Batch)
    (validator : Option Validator) (before after : RegistryState σ) :
    Except Fault Unit → Prop where
  | live {verdict : Verdict} {store : σ}
      (committed : registry.store.commitOnTrial batch (registry.trial validator) before.store =
        (.ok verdict, store))
      (accepted : verdict.accepted = true)
      (read : ∃ all, (registry.store.readAll store).1 = .ok all)
      (merged : items after.store = batch.mergeInto (items before.store))
      (built : Snapshot.build registry.factories (before.published.version + 1)
        (items after.store) = .ok after.published) :
      CommitStep registry items batch validator before after (.ok ())
  | refused {fault : Fault}
      (unaccepted : ∀ verdict,
        (registry.store.commitOnTrial batch (registry.trial validator) before.store).1 =
          .ok verdict → verdict.accepted = false)
      (same : Unchanged items before after) :
      CommitStep registry items batch validator before after (.error fault)
  | stranded {fault : Fault} {verdict : Verdict} {store : σ}
      (committed : registry.store.commitOnTrial batch (registry.trial validator) before.store =
        (.ok verdict, store))
      (accepted : verdict.accepted = true)
      (unread : (registry.store.readAll store).1 = .error fault)
      (merged : items after.store = batch.mergeInto (items before.store))
      (buildable : Snapshot.Buildable registry.factories (items after.store))
      (published_eq : after.published = before.published) :
      CommitStep registry items batch validator before after (.error fault)

theorem reconfigure_step (atomic : registry.store.Atomic items) (batch : Batch)
    (validator : Option Validator) (before : RegistryState σ) :
    CommitStep registry items batch validator before
      ((registry.reconfigure batch validator).runOn before).2
      ((registry.reconfigure batch validator).runOn before).1 := by
  have refused : (∀ verdict, (registry.store.commitOnTrial batch (registry.trial validator)
      before.store).1 = .ok verdict → verdict.accepted = false) →
      items (registry.store.commitOnTrial batch (registry.trial validator) before.store).2 =
        items before.store := atomic.refused
  rw [reconfigure_runOn]
  cases committed : registry.store.commitOnTrial batch (registry.trial validator) before.store with
  | mk result store =>
    rw [committed] at refused
    cases result with
    | error fault =>
      have unaccepted : ∀ verdict : Verdict, Except.error fault = .ok verdict →
          verdict.accepted = false := fun _ h => by cases h
      exact .refused (by rw [committed]; exact unaccepted) ⟨refused unaccepted, rfl⟩
    | ok verdict =>
      cases accepted : verdict.accepted with
      | false =>
        have unaccepted : ∀ given : Verdict, Except.ok verdict = (.ok given : Except Fault _) →
            given.accepted = false := fun _ h => by cases h; exact accepted
        simp only [accepted]
        exact .refused (by rw [committed]; exact unaccepted) ⟨refused unaccepted, rfl⟩
      | true =>
        obtain ⟨-, passed, merged⟩ := atomic.accepted (by rw [committed]) accepted
        rw [committed] at merged
        have buildable := buildable_of_trial passed
        have step := reload_step atomic
          { before with store := store, calls := before.calls ++ verdict.calls }
        simp only [accepted, if_true]
        generalize (registry.reload.runOn _).1 = result, (registry.reload.runOn _).2 = after
          at step ⊢
        cases step with
        | live read kept built =>
          rw [← kept] at built
          exact .live committed accepted read (kept.trans merged) built
        | unread unread same =>
          have now : items after.store = batch.mergeInto (items before.store) :=
            same.items_eq.trans merged
          exact .stranded committed accepted unread now (by rw [now]; exact buildable)
            same.published_eq
        | unbuilt unbuilt same =>
          -- The trial has built the same items already.
          obtain ⟨snapshot, built⟩ := buildable.build (before.published.version + 1)
          rw [← merged] at built
          cases built.symm.trans unbuilt

/-! ## Calls -/

/-- The ways in which a reconfiguration ends. -/
inductive CallStep (registry : Registry σ) (items : σ → Configuration) (call : Reconfiguration)
    (before after : RegistryState σ) : Except Fault Unit → Prop where
  | unstaged {fault : Fault}
      (failed : ((call.stage registry).runOn before).1 = .error fault)
      (same : Unchanged items before after) :
      CallStep registry items call before after (.error fault)
  | staged {batch : Batch} {staged : RegistryState σ} {result : Except Fault Unit}
      (run : (call.stage registry).runOn before = (.ok batch, staged))
      (batch_eq : call.batchOn (items before.store) = .ok batch)
      (read : Untouched items before staged)
      (step : CommitStep registry items batch call.validator? staged after result) :
      CallStep registry items call before after result

theorem call_step (contract : registry.store.Contract items) (call : Reconfiguration)
    (before : RegistryState σ) :
    CallStep registry items call before ((call.action registry).runOn before).2
      ((call.action registry).runOn before).1 := by
  have reads := reads_stage contract call
  have read := reads.untouched before
  have batch_eq : ∀ batch, ((call.stage registry).runOn before).1 = .ok batch →
      call.batchOn (items before.store) = .ok batch := fun batch => reads.answers
  rw [Reconfiguration.action_eq]
  cases run : (call.stage registry).runOn before with
  | mk result staged =>
    rw [run] at read batch_eq
    cases result with
    | error fault =>
      rw [Action.runOn_bind_error run]
      exact .unstaged (by rw [run]) read.unchanged
    | ok batch =>
      rw [Action.runOn_bind_ok run]
      exact .staged run (batch_eq batch rfl) read
        (reconfigure_step contract.toAtomic batch _ staged)

/-- The ways in which an operation ends. -/
inductive OperationStep (registry : Registry σ) (items : σ → Configuration)
    (operation : Operation) (before after : RegistryState σ) : Except Fault Unit → Prop where
  | kept {result : Except Fault Unit}
      (failed : operation.publishes = true → ∃ fault, result = .error fault)
      (same : Unchanged items before after) :
      OperationStep registry items operation before after result
  | live
      (publishes : operation.publishes = true)
      (built : Snapshot.build registry.factories (before.published.version + 1)
        (items after.store) = .ok after.published) :
      OperationStep registry items operation before after (.ok ())
  | stranded {fault : Fault}
      (unread : ∃ store, (registry.store.readAll store).1 = .error fault)
      (buildable : Snapshot.Buildable registry.factories (items after.store))
      (published_eq : after.published = before.published) :
      OperationStep registry items operation before after (.error fault)

theorem OperationStep.of_reload {operation : Operation} {before after : RegistryState σ}
    {result : Except Fault Unit} (publishes : operation.publishes = true)
    (step : ReloadStep registry items before after result) :
    OperationStep registry items operation before after result := by
  cases step with
  | live read kept built =>
    rw [← kept] at built
    exact .live publishes built
  | unread unread same => exact .kept (fun _ => ⟨_, rfl⟩) same
  | unbuilt unbuilt same => exact .kept (fun _ => ⟨_, rfl⟩) same

theorem OperationStep.of_call {call : Reconfiguration} {before after : RegistryState σ}
    {result : Except Fault Unit} (step : CallStep registry items call before after result) :
    OperationStep registry items (.reconfigure call) before after result := by
  cases step with
  | unstaged failed same => exact .kept (fun _ => ⟨_, rfl⟩) same
  | staged run batch_eq read step =>
    cases step with
    | live committed accepted read' merged built =>
      rw [read.published_eq] at built
      exact .live rfl built
    | refused unaccepted same => exact .kept (fun _ => ⟨_, rfl⟩) (same.after_untouched read)
    | stranded committed accepted unread merged buildable published_eq =>
      exact .stranded ⟨_, unread⟩ buildable (published_eq.trans read.published_eq)

/-- Reading holds the items and the chains where they are. -/
theorem frame_unchanged (contract : registry.store.Contract items) :
    Frame registry (Unchanged items) where
  refl _ := ⟨rfl, rfl⟩
  trans h h' := ⟨h'.items_eq.trans h.items_eq, h'.published_eq.trans h.published_eq⟩
  read name state := ⟨contract.items_read name state.store, rfl⟩
  readAll state := ⟨contract.items_readAll state.store, rfl⟩
  calls _ _ := ⟨rfl, rfl⟩

/-- An operation that publishes nothing changes neither the items nor the chains. -/
theorem unchanged_of_not_publishes (contract : registry.store.Contract items)
    {operation : Operation} (quiet : operation.publishes = false) (before : RegistryState σ) :
    Unchanged items before ((operation.action registry).runOn before).2 := by
  refine (frame_unchanged contract).operation ?_ (fun username _ state => ⟨rfl, rfl⟩) before
  intro publishes
  cases quiet.symm.trans publishes

theorem operation_step (contract : registry.store.Contract items) (operation : Operation)
    (before : RegistryState σ) :
    OperationStep registry items operation before ((operation.action registry).runOn before).2
      ((operation.action registry).runOn before).1 := by
  cases publishes : operation.publishes with
  | false =>
    refine .kept (fun yes => ?_) (unchanged_of_not_publishes contract publishes before)
    rw [publishes] at yes
    cases yes
  | true =>
    cases operation with
    | init => exact .of_reload rfl (reload_step contract.toAtomic before)
    | reload => exact .of_reload rfl (reload_step contract.toAtomic before)
    | reconfigure call => exact .of_call (call_step contract call before)
    | signIn credentials => cases publishes
    | resolve username => cases publishes
    | profileOf username => cases publishes
    | listing => cases publishes
    | readItem name => cases publishes
    | typedItem mapper => cases publishes

end IdentityChain
