import IdentityChain.Proofs.Configuration.Arranging
import IdentityChain.Proofs.Registry.Operations
import IdentityChain.Proofs.Store.Shared
import Mathlib.Logic.Function.Iterate

/-!
# One reading after another

A store that can always be read answers from its items and goes on to its next
state (`Store.Readable`), which shows what others have written meanwhile. A call
that reads several items therefore sees one configuration after another. Staging
a list of updates needs each item only when it is read: either all of them are
found (`ItemUpdate.AllFound`), or the first that is missing is reported and the
rest is not read (`ItemUpdate.FirstMissing`).

Both inductions go along the list and carry the state of the store: the
configurations that the rest of the list meets are those from the second on.
-/

namespace IdentityChain

variable {σ : Type} {items : σ → Configuration} {next : σ → σ}

/-- Reading an item never fails: it answers from the items and goes on to the next state. -/
structure Store.Readable (store : Store σ) (items : σ → Configuration) (next : σ → σ) : Prop where
  read_eq : ∀ name state, store.read name state = (.ok ((items state).get? name), next state)

theorem Store.memory_readable : memory.Readable (fun items => items) id := ⟨fun _ _ => rfl⟩

theorem Store.shared_readable : shared.Readable SharedStore.items SharedStore.interleaved :=
  ⟨fun _ _ => rfl⟩

namespace ItemUpdate

variable {seen : Nat → Configuration} {updates rest : List ItemUpdate} {update : ItemUpdate}

/-- Each listed item is there when it is read; `seen i` is what the `i`-th reading meets. -/
def AllFound (seen : Nat → Configuration) (updates : List ItemUpdate) : Prop :=
  ∀ i update, updates[i]? = some update → ((seen i).get? update.name).isSome = true

/-- The `i`-th update is the first whose item is missing when it is read. -/
structure FirstMissing (seen : Nat → Configuration) (updates : List ItemUpdate) (i : Nat)
    (update : ItemUpdate) : Prop where
  listed : updates[i]? = some update
  missing : (seen i).get? update.name = none
  earlier : ∀ j other, j < i → updates[j]? = some other →
    ((seen j).get? other.name).isSome = true

theorem allFound_cons : AllFound seen (update :: rest) ↔
    ((seen 0).get? update.name).isSome = true ∧ AllFound (fun i => seen (i + 1)) rest := by
  constructor
  · intro found
    exact ⟨found 0 update rfl, fun i other listed => found (i + 1) other listed⟩
  · rintro ⟨first, others⟩ i other listed
    cases i with
    | zero =>
      cases listed
      exact first
    | succ i => exact others i other listed

theorem FirstMissing.cons {i : Nat} {missing : ItemUpdate}
    (found : ((seen 0).get? update.name).isSome = true)
    (first : FirstMissing (fun i => seen (i + 1)) rest i missing) :
    FirstMissing seen (update :: rest) (i + 1) missing where
  listed := first.listed
  missing := first.missing
  earlier j other before listed := by
    cases j with
    | zero =>
      cases listed
      exact found
    | succ j => exact first.earlier j other (Nat.lt_of_succ_lt_succ before) listed

theorem FirstMissing.tail {i : Nat} {missing : ItemUpdate}
    (first : FirstMissing seen (update :: rest) (i + 1) missing) :
    ((seen 0).get? update.name).isSome = true ∧
      FirstMissing (fun i => seen (i + 1)) rest i missing :=
  ⟨first.earlier 0 update (Nat.succ_pos i) rfl, first.listed, first.missing,
    fun j other before listed => first.earlier (j + 1) other (Nat.succ_lt_succ before) listed⟩

theorem FirstMissing.not_allFound {i : Nat} (first : FirstMissing seen updates i update) :
    ¬ AllFound seen updates := by
  intro found
  have present := found i update first.listed
  rw [first.missing] at present
  cases present

theorem FirstMissing.not_lt {i j : Nat} {other : ItemUpdate}
    (first : FirstMissing seen updates i update) (first' : FirstMissing seen updates j other) :
    ¬ i < j := by
  intro before
  have present := first'.earlier i update before first.listed
  rw [first.missing] at present
  cases present

/-- There is at most one. -/
theorem FirstMissing.unique {i j : Nat} {other : ItemUpdate}
    (first : FirstMissing seen updates i update) (first' : FirstMissing seen updates j other) :
    i = j ∧ update = other := by
  obtain rfl : i = j :=
    Nat.le_antisymm (Nat.not_lt.1 (first'.not_lt first)) (Nat.not_lt.1 (first.not_lt first'))
  exact ⟨rfl, Option.some.inj (first.listed.symm.trans first'.listed)⟩

/-- Some item is the first to be missing, or all are found. -/
theorem firstMissing_or_allFound (seen : Nat → Configuration) (updates : List ItemUpdate) :
    (∃ i update, FirstMissing seen updates i update) ∨ AllFound seen updates := by
  induction updates generalizing seen with
  | nil => exact .inr fun i update listed => by cases listed
  | cons update rest ih =>
    cases found : (seen 0).get? update.name with
    | none => exact .inl ⟨0, update, rfl, found, fun j _ before => (Nat.not_lt_zero j before).elim⟩
    | some bag =>
      have present := Option.isSome_of_eq_some found
      rcases ih fun i => seen (i + 1) with ⟨i, missing, first⟩ | others
      · exact .inl ⟨i + 1, missing, first.cons present⟩
      · exact .inr (allFound_cons.2 ⟨present, others⟩)

end ItemUpdate

namespace Registry

variable {registry : Registry σ}

/-- An item is read off the items as they are. -/
theorem requireItem_runOn (readable : registry.store.Readable items next) (name : String)
    (state : RegistryState σ) :
    (registry.requireItem name).runOn state =
      ((items state.store).itemOf name, { state with store := next state.store }) := by
  have read : (registry.readItem name).runOn state =
      (.ok ((items state.store).get? name), { state with store := next state.store }) := by
    rw [readItem, Action.runOn_onStore, readable.read_eq]
  rw [requireItem, Action.runOn_bind_ok read, Configuration.itemOf]
  cases (items state.store).get? name with
  | some bag => rfl
  | none => rfl

theorem requireOrder_runOn (readable : registry.store.Readable items next) (name : String)
    (state : RegistryState σ) :
    (registry.requireOrder name).runOn state =
      ((items state.store).orderOf name, { state with store := next state.store }) := by
  have read := requireItem_runOn readable name state
  rw [requireOrder, Configuration.orderOf]
  cases found : (items state.store).itemOf name with
  | error fault =>
    rw [found] at read
    exact Action.runOn_bind_error read _
  | ok bag =>
    rw [found] at read
    rw [Action.runOn_bind_ok read]
    show _ = (Configuration.requiredOrder name bag, _)
    unfold Configuration.requiredOrder
    cases bag.order? with
    | some order => rfl
    | none => rfl

/-- If every item is found, all updates are staged. -/
theorem stageUpdates_of_allFound (readable : registry.store.Readable items next)
    {updates : List ItemUpdate} {state : RegistryState σ}
    (found : ItemUpdate.AllFound (fun i => items (next^[i] state.store)) updates) (batch : Batch) :
    (registry.stageUpdates updates batch).runOn state =
      (.ok (batch.stageAll updates),
        { state with store := next^[updates.length] state.store }) := by
  induction updates generalizing state batch with
  | nil => rfl
  | cons update rest ih =>
    obtain ⟨first, others⟩ := ItemUpdate.allFound_cons.1 found
    obtain ⟨bag, present⟩ := Option.isSome_iff_exists.1 first
    have read := requireItem_runOn readable update.name state
    rw [Configuration.itemOf, show (items state.store).get? update.name = some bag from present]
      at read
    have staged := @ih { state with store := next state.store } others
    rw [stageUpdates, Action.runOn_bind_ok read]
    exact staged (batch.merge update.name update.edit)

/-- The first item that is missing is reported, and no later one is read. -/
theorem stageUpdates_of_firstMissing (readable : registry.store.Readable items next)
    {updates : List ItemUpdate} {state : RegistryState σ} {i : Nat} {missing : ItemUpdate}
    (first : ItemUpdate.FirstMissing (fun i => items (next^[i] state.store)) updates i missing)
    (batch : Batch) :
    (registry.stageUpdates updates batch).runOn state =
      (.error (.configurationInvalid missing.name "no such item"),
        { state with store := next^[i + 1] state.store }) := by
  induction updates generalizing state batch i with
  | nil => cases first.listed
  | cons update rest ih =>
    have read := requireItem_runOn readable update.name state
    rw [Configuration.itemOf] at read
    cases i with
    | zero =>
      obtain rfl : update = missing := Option.some.inj first.listed
      rw [show (items state.store).get? update.name = none from first.missing] at read
      exact Action.runOn_bind_error read _
    | succ i =>
      obtain ⟨found, later⟩ := first.tail
      obtain ⟨bag, present⟩ := Option.isSome_iff_exists.1 found
      rw [show (items state.store).get? update.name = some bag from present] at read
      have reported := @ih { state with store := next state.store } i later
      rw [stageUpdates, Action.runOn_bind_ok read]
      exact reported (batch.merge update.name update.edit)

end Registry

end IdentityChain
