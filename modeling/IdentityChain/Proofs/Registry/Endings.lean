import IdentityChain.Proofs.Registry.Runs

/-!
# How a reconfiguration ends

A reconfiguration is meant to end in one of two ways: its batch is merged and
live, or nothing has changed (`Settled`). There is a third. Once the store has
accepted the batch, the items still have to be read back for the reload, and
that read can fail. The call then reports a fault, the edit stays in the store,
and the chains stay those of the configuration before it (`Stranded`). No other
failure, at whatever point of the call, leaves a trace.
-/

namespace IdentityChain

variable {σ : Type} {registry : Registry σ} {items : σ → Configuration}
  {call : Reconfiguration} {before after : RegistryState σ}

/-- The two ways in which a reconfiguration is meant to end. -/
inductive Settled (registry : Registry σ) (items : σ → Configuration) (call : Reconfiguration)
    (before after : RegistryState σ) : Except Fault Unit → Prop where
  | reloaded {batch : Batch}
      (staged : call.batchOn (items before.store) = .ok batch)
      (merged : items after.store = batch.mergeInto (items before.store))
      (built : Snapshot.build registry.factories (before.published.version + 1)
        (items after.store) = .ok after.published) :
      Settled registry items call before after (.ok ())
  | rejected {fault : Fault}
      (same : Unchanged items before after) :
      Settled registry items call before after (.error fault)

/-- The store accepts a batch that changes the items, and cannot be read back. -/
structure Stranded (registry : Registry σ) (items : σ → Configuration) (call : Reconfiguration)
    (before : RegistryState σ) (batch : Batch) (fault : Fault) : Prop where
  accepted : ∃ staged verdict store,
    (call.stage registry).runOn before = (.ok batch, staged) ∧
      registry.store.commitOnTrial batch (registry.trial call.validator?) staged.store =
        (.ok verdict, store) ∧
      verdict.accepted = true ∧
      (registry.store.readAll store).1 = .error fault
  changes : batch.mergeInto (items before.store) ≠ items before.store

/-- What a stranded call leaves behind. -/
structure LeftBehind (items : σ → Configuration) (batch : Batch)
    (before after : RegistryState σ) : Prop where
  merged : items after.store = batch.mergeInto (items before.store)
  published_eq : after.published = before.published

namespace CallStep

variable {result : Except Fault Unit}

/-- A call that is not stranded is settled. -/
theorem settled (step : CallStep registry items call before after result)
    (passed : ∀ batch fault, ¬ Stranded registry items call before batch fault) :
    Settled registry items call before after result := by
  cases step with
  | unstaged failed same => exact .rejected same
  | staged run batch_eq read step =>
    cases step with
    | live committed accepted read' merged built =>
      rw [read.items_eq] at merged
      rw [read.published_eq] at built
      exact .reloaded batch_eq merged built
    | refused unaccepted same => exact .rejected (same.after_untouched read)
    | stranded committed accepted unread merged buildable published_eq =>
      rename_i batch staged fault verdict store
      rw [read.items_eq] at merged
      by_cases same : batch.mergeInto (items before.store) = items before.store
      · exact .rejected ⟨merged.trans same, published_eq.trans read.published_eq⟩
      · exact (passed batch fault
          ⟨⟨staged, verdict, store, run, committed, accepted, unread⟩, same⟩).elim

/-- A stranded call ends in the fault of the read, and its batch stays in the store alone. -/
theorem leftBehind (step : CallStep registry items call before after result) {batch : Batch}
    {fault : Fault} (stranded : Stranded registry items call before batch fault) :
    result = .error fault ∧ LeftBehind items batch before after := by
  obtain ⟨staged, verdict, store, run, committed, accepted, unread⟩ := stranded.accepted
  cases step with
  | unstaged failed same =>
    rw [run] at failed
    cases failed
  | staged run' batch_eq read step =>
    cases run.symm.trans run'
    cases step with
    | live committed' accepted' read' merged built =>
      cases committed.symm.trans committed'
      obtain ⟨all, ok⟩ := read'
      cases ok.symm.trans unread
    | refused unaccepted same =>
      have refused := unaccepted verdict (by rw [committed])
      cases refused.symm.trans accepted
    | stranded committed' accepted' unread' merged buildable published_eq =>
      cases committed.symm.trans committed'
      cases unread.symm.trans unread'
      rw [read.items_eq] at merged
      exact ⟨rfl, merged, published_eq.trans read.published_eq⟩

end CallStep

/-- What is left behind is not settled. -/
theorem LeftBehind.not_settled {batch : Batch} {fault : Fault}
    (left : LeftBehind items batch before after)
    (changes : batch.mergeInto (items before.store) ≠ items before.store) :
    ¬ Settled registry items call before after (.error fault) := by
  intro settled
  cases settled with
  | rejected same => exact changes (left.merged.symm.trans same.items_eq)

/-- A reconfiguration ends in one of the two ways it is meant to, unless it is stranded; then it
reports the failed read, its batch is merged and the published snapshot is still the old one. -/
theorem settled_iff_not_stranded (contract : registry.store.Contract items)
    (call : Reconfiguration) (before : RegistryState σ) :
    let result := ((call.action registry).runOn before).1
    let after := ((call.action registry).runOn before).2
    (Settled registry items call before after result ↔
      ∀ batch fault, ¬ Stranded registry items call before batch fault) ∧
    ∀ batch fault, Stranded registry items call before batch fault →
      result = .error fault ∧ LeftBehind items batch before after := by
  have step := call_step contract call before
  refine ⟨⟨fun settled batch fault stranded => ?_, step.settled⟩,
    fun batch fault => step.leftBehind⟩
  obtain ⟨failed, left⟩ := step.leftBehind stranded
  rw [failed] at settled
  exact left.not_settled stranded.changes settled

/-- The third operation on the store fails: after a first load and an accepted commit, the read of
all items. -/
def Rehearsal.unreadOnce : UnreliableStore :=
  ⟨Rehearsal.items, [none, none, some (.unreachable "down")]⟩

/-- An edit that moves an item and is stranded. -/
theorem settled_iff_not_stranded_rehearsal :
    let registry := Registry.unreliable Rehearsal.factories Rehearsal.limits
    let call : Reconfiguration := .mergeItem "a" (Rehearsal.stub 3)
    let before := (registry.init.runOn (Rehearsal.start Rehearsal.unreadOnce)).2
    let after := ((call.action registry).runOn before).2
    Stranded registry UnreliableStore.items call before
        (Batch.empty.merge "a" (Rehearsal.stub 3)) (.configurationRead "down") ∧
      ((call.action registry).runOn before).1 = .error (.configurationRead "down") ∧
      LeftBehind UnreliableStore.items (Batch.empty.merge "a" (Rehearsal.stub 3)) before after := by
  intro registry call before after
  have stranded : Stranded registry UnreliableStore.items call before
      (Batch.empty.merge "a" (Rehearsal.stub 3)) (.configurationRead "down") :=
    ⟨⟨before, .plain true, _, rfl, rfl, rfl, rfl⟩, by decide +kernel⟩
  have ends := settled_iff_not_stranded
    (Registry.unreliable_contract Rehearsal.factories Rehearsal.limits) call before
  exact ⟨stranded, ends.2 _ _ stranded⟩

/-- A store that keeps its contract does not make every reconfiguration settle. -/
theorem not_always_settled :
    ¬ ∀ (registry : Registry UnreliableStore) (items : UnreliableStore → Configuration),
      registry.store.Contract items → ∀ call before,
        Settled registry items call before ((call.action registry).runOn before).2
          ((call.action registry).runOn before).1 := by
  intro always
  let registry := Registry.unreliable Rehearsal.factories Rehearsal.limits
  let call : Reconfiguration := .mergeItem "a" (Rehearsal.stub 3)
  let before := (registry.init.runOn (Rehearsal.start Rehearsal.unreadOnce)).2
  have settled := always registry UnreliableStore.items
    (Registry.unreliable_contract Rehearsal.factories Rehearsal.limits) call before
  have failed : ((call.action registry).runOn before).1 = .error (.configurationRead "down") := by
    rfl
  have moved : (((call.action registry).runOn before).2.store.items.get? "a").bind Bag.order? =
      some 3 := by rfl
  have stood : (before.store.items.get? "a").bind Bag.order? = some 1 := by rfl
  rw [failed] at settled
  cases settled with
  | rejected same =>
    rw [same.items_eq, stood] at moved
    cases moved

end IdentityChain
