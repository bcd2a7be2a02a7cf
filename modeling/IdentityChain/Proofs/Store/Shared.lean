import IdentityChain.Proofs.Configuration.Merging
import IdentityChain.Proofs.Store.Contract

/-!
# A store with other writers

The items of a shared store may change between any two operations: after each
read of an item the other writers commit what has arrived. Their batches are
committed like any other, each where its requirements hold. A reading of all
items and a commit are one step each, so `Store.shared` is atomic, though it
does not keep the contract of a store to oneself.

In `Store.contended` the others may write before every operation, so that their
batches fall between any two of them.

Whoever writes, no item is ever removed (`Configuration.Grows`).
-/

namespace IdentityChain

namespace Configuration

/-- The items after some batches, each merged where its requirements hold. -/
def commitAll (items : Configuration) (batches : List Batch) : Configuration :=
  batches.foldl (fun items batch => (items.commit batch).2) items

end Configuration

/-- A store in memory with other writers. -/
structure SharedStore where
  items : Configuration
  /-- What the others commit after each coming read of an item. -/
  arrivals : List (List Batch)

/-- The store once the others have committed what has arrived. -/
def SharedStore.interleaved (store : SharedStore) : SharedStore where
  items := store.items.commitAll (store.arrivals.headD [])
  arrivals := store.arrivals.tail

/-- The operations of a shared store. -/
def Store.shared : Store SharedStore where
  read name store := (.ok (store.items.get? name), store.interleaved)
  readAll store := (.ok store.items, store)
  commitOnTrial batch trial store :=
    let (verdict, items) := store.items.commitOnTrial batch trial
    (.ok verdict, { store with items := items })

/-- An operation of the store in memory, once the others have committed what has arrived. -/
def SharedStore.afterArrivals {α : Type} (operation : Configuration → α × Configuration)
    (store : SharedStore) : α × SharedStore :=
  let current := store.interleaved
  ((operation current.items).1, { current with items := (operation current.items).2 })

/-- The operations of a store in memory before each of which others may write. -/
def Store.contended : Store SharedStore where
  read name := SharedStore.afterArrivals (memory.read name)
  readAll := SharedStore.afterArrivals memory.readAll
  commitOnTrial batch trial := SharedStore.afterArrivals (memory.commitOnTrial batch trial)

/-- A reading shows what the others have left, and leaves it so. -/
theorem Store.readAll_contended (store : SharedStore) :
    contended.readAll store = (.ok store.interleaved.items, store.interleaved) := rfl

theorem Store.shared_atomic : shared.Atomic SharedStore.items where
  items_readAll _ := rfl
  readAll_ok h := by cases h; rfl
  accepted h yes := by cases h; exact Configuration.commitOnTrial_accepted yes
  refused no := Configuration.commitOnTrial_refused (no _ rfl)

/-! ## Items stay -/

namespace Configuration

/-- Every item is still there. -/
def Grows (before after : Configuration) : Prop :=
  ∀ name, (before.get? name).isSome = true → (after.get? name).isSome = true

theorem Grows.refl (items : Configuration) : Grows items items := fun _ present => present

theorem Grows.trans {first second third : Configuration} (h : Grows first second)
    (h' : Grows second third) : Grows first third :=
  fun name present => h' name (h name present)

theorem grows_mergeInto (batch : Batch) (items : Configuration) :
    Grows items (batch.mergeInto items) := by
  intro name present
  rw [Batch.isSome_get?_mergeInto, present, Bool.or_true]

theorem grows_commit (items : Configuration) (batch : Batch) :
    Grows items (items.commit batch).2 := by
  unfold commit
  split
  · exact grows_mergeInto batch items
  · exact .refl items

theorem grows_commitOnTrial (items : Configuration) (batch : Batch) (trial : Trial) :
    Grows items (items.commitOnTrial batch trial).2 := by
  cases accepted : (items.commitOnTrial batch trial).1.accepted with
  | true =>
    obtain ⟨-, -, merged⟩ := commitOnTrial_accepted accepted
    rw [merged]
    exact grows_mergeInto batch items
  | false =>
    rw [commitOnTrial_refused accepted]
    exact .refl items

theorem grows_commitAll (items : Configuration) (batches : List Batch) :
    Grows items (items.commitAll batches) := by
  induction batches generalizing items with
  | nil => exact .refl items
  | cons batch rest ih => exact (grows_commit items batch).trans (ih _)

end Configuration

theorem SharedStore.grows_interleaved (store : SharedStore) :
    store.items.Grows store.interleaved.items :=
  Configuration.grows_commitAll store.items _

end IdentityChain
