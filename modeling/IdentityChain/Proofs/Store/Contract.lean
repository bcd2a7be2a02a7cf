import IdentityChain.Configuration.Store

/-!
# What a store promises

The registry knows a store by its three operations alone. `Store.Contract` says
what it may rely on: an operation may fail at any time, but a read that does
not fail answers from the items, and a commit is all or nothing. The items are
a view of the store's state, so that nothing is said of what else a store keeps.
`Store.Atomic` is the part of it that survives other writers.

`Store.memory` keeps the contract and never fails. `Store.unreliable` keeps it
and fails as its plan says, which may be at any operation.
-/

namespace IdentityChain

namespace Store

variable {σ : Type}

/-- Items are read whole, and are changed by accepted commits alone. -/
structure Atomic (store : Store σ) (items : σ → Configuration) : Prop where
  items_readAll : ∀ state, items (store.readAll state).2 = items state
  readAll_ok : ∀ {state all}, (store.readAll state).1 = .ok all → all = items state
  /-- An accepted batch had its requirements met and passed the trial of the merged items, which
  then replace the items. -/
  accepted : ∀ {batch trial state verdict},
    (store.commitOnTrial batch trial state).1 = .ok verdict → verdict.accepted = true →
    batch.isMetBy (items state) = true ∧
      (trial (batch.mergeInto (items state))).accepted = true ∧
      items (store.commitOnTrial batch trial state).2 = batch.mergeInto (items state)
  /-- A refused or failed commit leaves every item as it was. -/
  refused : ∀ {batch trial state},
    (∀ verdict, (store.commitOnTrial batch trial state).1 = .ok verdict →
      verdict.accepted = false) →
    items (store.commitOnTrial batch trial state).2 = items state

/-- Nobody else writes between the operations either, and every answer is about the items. -/
structure Contract (store : Store σ) (items : σ → Configuration) : Prop
    extends store.Atomic items where
  /-- A read changes no item. -/
  items_read : ∀ name state, items (store.read name state).2 = items state
  /-- A read that does not fail finds what is there. -/
  read_ok : ∀ {name state found}, (store.read name state).1 = .ok found →
    found = (items state).get? name

/-- Items that cannot be read are reported as such. -/
def ReportsUnreadable (store : Store σ) : Prop :=
  ∀ state fault, (store.readAll state).1 = .error fault →
    ∃ reason, fault = .configurationRead reason

end Store

namespace Configuration

variable {items : Configuration} {batch : Batch} {trial : Trial}

/-- An accepted batch is merged whole. -/
theorem commitOnTrial_accepted (h : (items.commitOnTrial batch trial).1.accepted = true) :
    batch.isMetBy items = true ∧ (trial (batch.mergeInto items)).accepted = true ∧
      (items.commitOnTrial batch trial).2 = batch.mergeInto items := by
  unfold commitOnTrial at h ⊢
  split at h
  · rename_i met
    rw [if_pos met]
    exact ⟨met, h, if_pos h⟩
  · cases h

/-- A refused batch changes nothing. -/
theorem commitOnTrial_refused (h : (items.commitOnTrial batch trial).1.accepted = false) :
    (items.commitOnTrial batch trial).2 = items := by
  unfold commitOnTrial at h ⊢
  split at h
  · rename_i met
    rw [if_pos met]
    have no : ¬ (trial (batch.mergeInto items)).accepted = true := by
      simpa only [Bool.not_eq_true] using h
    exact if_neg no
  · rename_i unmet
    rw [if_neg unmet]

end Configuration

namespace Store

theorem memory_contract : memory.Contract (fun items => items) where
  items_read _ _ := rfl
  read_ok h := by cases h; rfl
  items_readAll _ := rfl
  readAll_ok h := by cases h; rfl
  accepted h yes := by cases h; exact Configuration.commitOnTrial_accepted yes
  refused no := Configuration.commitOnTrial_refused (no _ rfl)

end Store

/-- How an operation of a store fails. -/
inductive Outage where
  /-- It ends in a fault. -/
  | unreachable (reason : String)
  /-- A commit is refused without a trial; a read is not affected. -/
  | refusal
  deriving DecidableEq, Repr

/-- A store in memory whose coming operations fail by a plan. -/
structure UnreliableStore where
  items : Configuration
  /-- What each coming operation meets; those past the end of the plan meet nothing. -/
  plan : List (Option Outage)

namespace UnreliableStore

/-- What the next operation meets. -/
def outage (store : UnreliableStore) : Option Outage := store.plan.head?.join

/-- The store when an operation is over that changed no item. -/
def later (store : UnreliableStore) : UnreliableStore := { store with plan := store.plan.tail }

/-- Reads one item. -/
def read (name : String) (store : UnreliableStore) : Except Fault (Option Bag) × UnreliableStore :=
  match store.outage with
  | some (.unreachable reason) => (.error (.configurationRead reason), store.later)
  | some .refusal | none => (.ok (store.items.get? name), store.later)

/-- Reads all items. -/
def readAll (store : UnreliableStore) : Except Fault Configuration × UnreliableStore :=
  match store.outage with
  | some (.unreachable reason) => (.error (.configurationRead reason), store.later)
  | some .refusal | none => (.ok store.items, store.later)

/-- Commits a batch on trial. -/
def commitOnTrial (batch : Batch) (trial : Trial) (store : UnreliableStore) :
    Except Fault Verdict × UnreliableStore :=
  match store.outage with
  | some (.unreachable reason) => (.error (.configurationRead reason), store.later)
  | some .refusal => (.ok (.plain false), store.later)
  | none =>
    let (verdict, items) := store.items.commitOnTrial batch trial
    (.ok verdict, { store.later with items := items })

end UnreliableStore

/-- The operations of an unreliable store. -/
def Store.unreliable : Store UnreliableStore where
  read := UnreliableStore.read
  readAll := UnreliableStore.readAll
  commitOnTrial := UnreliableStore.commitOnTrial

namespace Store

/-- Whatever the plan, the contract holds. -/
theorem unreliable_contract : unreliable.Contract UnreliableStore.items where
  items_read name store := by
    show (UnreliableStore.read name store).2.items = _
    unfold UnreliableStore.read
    split <;> rfl
  read_ok {name store found} h := by
    change (UnreliableStore.read name store).1 = _ at h
    unfold UnreliableStore.read at h
    split at h <;> cases h <;> rfl
  items_readAll store := by
    show store.readAll.2.items = _
    unfold UnreliableStore.readAll
    split <;> rfl
  readAll_ok {store all} h := by
    change store.readAll.1 = _ at h
    unfold UnreliableStore.readAll at h
    split at h <;> cases h <;> rfl
  accepted {batch trial store verdict} h yes := by
    show _ ∧ _ ∧ (UnreliableStore.commitOnTrial batch trial store).2.items = _
    change (UnreliableStore.commitOnTrial batch trial store).1 = _ at h
    unfold UnreliableStore.commitOnTrial at h ⊢
    split at h
    · cases h
    · cases h; cases yes
    · cases h; exact Configuration.commitOnTrial_accepted yes
  refused {batch trial store} no := by
    show (UnreliableStore.commitOnTrial batch trial store).2.items = _
    change ∀ verdict, (UnreliableStore.commitOnTrial batch trial store).1 = .ok verdict → _ at no
    unfold UnreliableStore.commitOnTrial at no ⊢
    split at no
    · rfl
    · rfl
    · exact Configuration.commitOnTrial_refused (no _ rfl)

theorem unreliable_reportsUnreadable : unreliable.ReportsUnreadable := by
  intro store fault h
  change store.readAll.1 = _ at h
  unfold UnreliableStore.readAll at h
  split at h <;> cases h
  exact ⟨_, rfl⟩

end Store

end IdentityChain
