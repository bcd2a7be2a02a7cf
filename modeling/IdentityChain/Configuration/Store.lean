import IdentityChain.Configuration.Batch
import IdentityChain.Source

/-!
# Stores

Where a configuration is kept. A store is seen through three operations on a
state of its own: reading one item, reading all of them, and committing a batch
on trial. `Store.memory` keeps the items in memory and never fails;
`Configuration.commitOnTrial` is its commit.
-/

namespace IdentityChain

/-- What a trial says about a configuration, and the calls to sources that it took to find out. -/
structure Verdict where
  accepted : Bool
  calls : List Call
  deriving DecidableEq, Repr

/-- The verdict that takes no calls. -/
def Verdict.plain (accepted : Bool) : Verdict := ⟨accepted, []⟩

/-- Decides whether a configuration may be kept. -/
abbrev Trial := Configuration → Verdict

/-- The operations of a store on its state. A commit reports the verdict on the merged items, or a
plain refusal if a requirement of the batch does not hold. -/
structure Store (σ : Type) where
  read : String → σ → Except Fault (Option Bag) × σ
  readAll : σ → Except Fault Configuration × σ
  commitOnTrial : Batch → Trial → σ → Except Fault Verdict × σ

namespace Configuration

/-- Merges a batch whose requirements hold. -/
def commit (items : Configuration) (batch : Batch) : Bool × Configuration :=
  if batch.isMetBy items then (true, batch.mergeInto items) else (false, items)

/-- Merges a batch whose requirements hold, provided the trial accepts the outcome. -/
def commitOnTrial (items : Configuration) (batch : Batch) (trial : Trial) :
    Verdict × Configuration :=
  if batch.isMetBy items then
    let merged := batch.mergeInto items
    let verdict := trial merged
    (verdict, if verdict.accepted then merged else items)
  else (.plain false, items)

/-- The bags of a JSON object of objects; the first entry that is not an object is reported. -/
def itemsOf : List (String × Json) → Except Fault (List (String × Bag))
  | [] => .ok []
  | (name, .obj properties) :: rest => do
    let items ← itemsOf rest
    pure ((name, Table.ofList properties) :: items)
  | (name, _) :: _ => .error (.configurationInvalid name "expected an object of properties")

/-- The configuration that a document describes. -/
def ofDocument : Json → Except Fault Configuration
  | .obj entries => (itemsOf entries).map Table.ofList
  | _ => .error (.configurationInvalid "<root>" "expected an object of items")

end Configuration

/-- A store that keeps its items in memory. -/
def Store.memory : Store Configuration where
  read name items := (.ok (items.get? name), items)
  readAll items := (.ok items, items)
  commitOnTrial batch trial items :=
    let (verdict, items) := items.commitOnTrial batch trial
    (.ok verdict, items)

end IdentityChain
