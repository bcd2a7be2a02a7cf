import IdentityChain.Configuration.Store

/-!
# A troubled store

A store in memory whose reads and commits can be made to fail, and into which
other writers commit between the registry's reads and its own commit. It counts
the commits that are asked of it.
-/

namespace IdentityChain

/-- A store with its troubles. -/
structure TroubledStore where
  items : Configuration
  /-- Reading one item fails. -/
  failReads : Bool
  /-- Reading all items fails. -/
  failReadAll : Bool
  /-- Committing fails. -/
  failCommits : Bool
  /-- Commits are refused without a trial. -/
  rejectCommits : Bool
  /-- What other writers commit after the next read of an item. -/
  interleaved : List (String × Batch)
  /-- The commits asked for so far. -/
  commits : Nat

namespace TroubledStore

/-- A store without troubles. -/
def ofItems (items : Configuration) : TroubledStore :=
  ⟨items, false, false, false, false, [], 0⟩

/-- The fault of a store that cannot be read. -/
def unreachable : Fault := .configurationRead "store unreachable"

/-- The first batch for an item, and the list without it. -/
def takeFirst (name : String) : List (String × Batch) → Option (Batch × List (String × Batch))
  | [] => none
  | (item, batch) :: rest =>
    if item = name then some (batch, rest)
    else (takeFirst name rest).map fun (found, others) => (found, (item, batch) :: others)

/-- Lets the other writer commit that waits for a read of an item. -/
def afterRead (store : TroubledStore) (name : String) : TroubledStore :=
  match takeFirst name store.interleaved with
  | none => store
  | some (batch, rest) => { store with items := (store.items.commit batch).2, interleaved := rest }

/-- Reads an item; then another writer may commit. -/
def read (name : String) (store : TroubledStore) : Except Fault (Option Bag) × TroubledStore :=
  if store.failReads then (.error unreachable, store)
  else (.ok (store.items.get? name), store.afterRead name)

/-- Reads all items. -/
def readAll (store : TroubledStore) : Except Fault Configuration × TroubledStore :=
  if store.failReadAll then (.error unreachable, store) else (.ok store.items, store)

/-- Commits a batch on trial. -/
def commitOnTrial (batch : Batch) (trial : Trial) (store : TroubledStore) :
    Except Fault Verdict × TroubledStore :=
  let store := { store with commits := store.commits + 1 }
  if store.failCommits then (.error (.internal "disk full"), store)
  else if store.rejectCommits then (.ok (.plain false), store)
  else
    let (verdict, items) := store.items.commitOnTrial batch trial
    (.ok verdict, { store with items := items })

end TroubledStore

/-- The operations of a troubled store. -/
def Store.troubled : Store TroubledStore where
  read := TroubledStore.read
  readAll := TroubledStore.readAll
  commitOnTrial := TroubledStore.commitOnTrial

end IdentityChain
