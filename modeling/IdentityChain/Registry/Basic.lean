import IdentityChain.Catalog.SignIn
import IdentityChain.Mapping.Basic
import IdentityChain.Configuration.Store
import IdentityChain.Resolution

/-!
# The registry

The registry joins a property store, the published snapshot of its chains and
the user cache. Its operations are `Action`s: they end in a result or a fault
and leave a new state. A reconfiguration stages the keys it changes into one
batch and commits it on trial, the trial being that the merged items build and
that the operator's validator, if there is one, accepts the snapshot built from
them. Only after an accepted commit is the catalog reloaded.
-/

namespace IdentityChain

/-- What an operation of the registry can change. -/
structure RegistryState (σ : Type) where
  store : σ
  /-- The snapshot that sign-in and resolution use. -/
  published : Snapshot
  cache : UserCache
  /-- The time on the clock. -/
  now : Instant
  /-- Every call to a source so far. -/
  calls : List Call

/-- An operation of the registry. -/
abbrev Action (σ : Type) := ExceptT Fault (StateM (RegistryState σ))

namespace Action

variable {σ α : Type}

/-- Runs an operation. -/
def runOn (action : Action σ α) (state : RegistryState σ) : Except Fault α × RegistryState σ :=
  action.run.run state

/-- The action of a function from states to results and states. -/
def ofFunction (f : RegistryState σ → Except Fault α × RegistryState σ) : Action σ α :=
  ExceptT.mk (fun state => f state)

/-- An operation on the store alone. -/
def onStore (f : σ → Except Fault α × σ) : Action σ α :=
  ofFunction fun state =>
    let (result, store) := f state.store
    (result, { state with store := store })

/-- Records calls to sources. -/
def recordCalls (calls : List Call) : Action σ Unit :=
  modify fun state => { state with calls := state.calls ++ calls }

end Action

/-- Decides whether a snapshot may go live. -/
abbrev Validator := Snapshot → Verdict

/-- A registry over a store: what stays fixed while it runs. -/
structure Registry (σ : Type) where
  store : Store σ
  factories : Table Factory
  limits : ResolutionLimits

namespace Registry

variable {σ α : Type} (registry : Registry σ)

/-- The state of a registry that has loaded nothing. -/
def initialState (store : σ) (now : Instant) : RegistryState σ where
  store := store
  published := .empty
  cache := .empty
  now := now
  calls := []

/-- The registry's catalog for a log: the kinds it can build, and the published version. -/
def describe (state : RegistryState σ) : String :=
  "ProviderCatalog \x7b factories: " ++
    Text.bracketed (registry.factories.keys.map Text.quoted) ++ ", version: " ++
    toString state.published.version ++ ", .. \x7d"

/-- Reads one item. -/
def readItem (name : String) : Action σ (Option Bag) := Action.onStore (registry.store.read name)

/-- Rebuilds the chains from the store and publishes them. If the store cannot be read or an item
cannot be built, the published snapshot stays. -/
def reload : Action σ Unit := do
  let items ← Action.onStore registry.store.readAll
  let state ← get
  let version := state.published.version + 1
  let next ← ExceptT.mk (pure (Snapshot.build registry.factories version items))
  modify fun state => { state with published := next }

/-- Loads the catalog for the first time. -/
def init : Action σ Unit := registry.reload

/-- Signs a user in by the published providers. -/
def signIn (_ : Registry σ) (credentials : Credentials) : Action σ Authentication :=
  Action.ofFunction fun state =>
    let (answer, calls) := state.published.signIn credentials
    (answer, { state with calls := state.calls ++ calls })

/-- Resolves a user by the cache and the published lookup services. -/
def resolve (username : String) : Action σ UserRecord :=
  Action.ofFunction fun state =>
    let outcome := state.published.resolve registry.limits state.now state.cache username
    (outcome.result,
      { state with cache := outcome.cache, calls := state.calls ++ outcome.calls })

/-- The profile of a user. -/
def profileOf (username : String) : Action σ Profile := do
  let record ← registry.resolve username
  pure record.profile

/-- The order of two items in a listing: by rank, then providers before lookup services. -/
def listedBefore (a b : Item) : Bool :=
  let rank (item : Item) : Rank := ⟨item.order, item.name⟩
  decide ((rank a).Before (rank b)) ||
    (decide (rank a = rank b) && decide (a.kind = .signIn ∧ b.kind = .lookup))

/-- Every entry of the published snapshot with its stored configuration, in priority order. -/
def listing : Action σ (List Item) := do
  let items ← Action.onStore registry.store.readAll
  let state ← get
  let listed := state.published.entries.map fun (name, kind) =>
    Item.ofBag name kind ((items.get? name).getD .empty)
  pure (sortBy listedBefore listed)

/-- What has to hold for merged items to be kept: they build, and the validator accepts. -/
def trial (validator : Option Validator) : Trial := fun items =>
  match Snapshot.build registry.factories 0 items with
  | .error _ => .plain false
  | .ok snapshot =>
    match validator with
    | some validate => validate snapshot
    | none => .plain true

/-- The fault of a batch that was not committed. -/
def rejection (batch : Batch) : Fault :=
  .commitRejected ("change to " ++ Text.bracketed batch.names ++ " was not applied")

/-- Commits a batch on trial, and reloads if it was accepted. -/
def reconfigure (batch : Batch) (validator : Option Validator) : Action σ Unit := do
  let verdict ← Action.onStore (registry.store.commitOnTrial batch (registry.trial validator))
  Action.recordCalls verdict.calls
  if verdict.accepted then registry.reload else throw (rejection batch)

/-- The bag of an item that has to exist. -/
def requireItem (name : String) : Action σ Bag := do
  match ← registry.readItem name with
  | some bag => pure bag
  | none => throw (.configurationInvalid name "no such item")

/-- The order of an item that has to exist and carry one. -/
def requireOrder (name : String) : Action σ Int64 := do
  let bag ← registry.requireItem name
  match bag.order? with
  | some order => pure order
  | none => throw (.configurationInvalid name "missing `order`")

/-- The batch that exchanges two orders, provided both items still carry them. -/
def exchange (first second : String) (firstOrder secondOrder : Int64) : Batch :=
  Batch.empty
    |>.merge first (Bag.empty.withOrder (some secondOrder))
    |>.merge second (Bag.empty.withOrder (some firstOrder))
    |>.require first Bag.orderKey (.ofInt64 firstOrder)
    |>.require second Bag.orderKey (.ofInt64 secondOrder)

/-- Exchanges the orders of two items. -/
def reorder (first second : String) : Action σ Unit := do
  let firstOrder ← registry.requireOrder first
  let secondOrder ← registry.requireOrder second
  registry.reconfigure (exchange first second firstOrder secondOrder) none

/-- Stages updates of items that have to exist, in order. -/
def stageUpdates : List ItemUpdate → Batch → Action σ Batch
  | [], batch => pure batch
  | update :: rest, batch => do
    let _ ← registry.requireItem update.name
    stageUpdates rest (batch.merge update.name update.edit)

/-- Sets order and switch of many items at once. -/
def arrange (updates : List ItemUpdate) : Action σ Unit := do
  let batch ← registry.stageUpdates updates .empty
  registry.reconfigure batch none

/-- Merges properties into an item. -/
def mergeItem (name : String) (properties : Bag) : Action σ Unit :=
  registry.reconfigure (Batch.empty.merge name properties) none

/-- Merges properties into an item, provided a validator accepts the outcome. -/
def testItem (name : String) (properties : Bag) (validator : Validator) : Action σ Unit :=
  registry.reconfigure (Batch.empty.merge name properties) (some validator)

/-- Runs the conversion of a mapper. -/
def mapped (_ : Registry σ) (outcome : Except PublicFault α) : Action σ α :=
  ExceptT.mk (pure (outcome.mapError Fault.ofPublic))

/-- Reads a typed item. -/
def typedItem (mapper : Mapper α) : Action σ (Option α) := do
  match ← registry.readItem mapper.item with
  | none => pure none
  | some bag => some <$> registry.mapped (mapper.ofBag bag)

/-- Writes a typed item. -/
def putItem (mapper : Mapper α) (value : α) : Action σ Unit := do
  let properties ← registry.mapped (mapper.toBag value)
  registry.mergeItem mapper.item properties

/-- Writes a typed item, provided a validator accepts the outcome. -/
def testTypedItem (mapper : Mapper α) (value : α) (validator : Validator) : Action σ Unit := do
  let properties ← registry.mapped (mapper.toBag value)
  registry.testItem mapper.item properties validator

end Registry

end IdentityChain
