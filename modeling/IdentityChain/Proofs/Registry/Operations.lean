import IdentityChain.Proofs.Registry.Actions

/-!
# Calls and runs

The interface of the registry as data: a `Reconfiguration` is a call that
changes the configuration, an `Operation` is any call, and an `Event` is a call
or a move of the clock. `Registry.after` is where a run of events leads, so
what is proved of every list of events holds at every point of every run.

The six reconfigurations differ only in what they stage. Each is its `stage`,
which reads the store and gathers a batch, followed by `Registry.reconfigure`
(`Reconfiguration.action_eq`). `Reconfiguration.batchOn` is the batch as a
function of the items alone.
-/

namespace IdentityChain

variable {σ : Type}

/-- A call that changes the configuration. -/
inductive Reconfiguration : Type 1 where
  | reorder (first second : String)
  | arrange (updates : List ItemUpdate)
  | mergeItem (name : String) (properties : Bag)
  | testItem (name : String) (properties : Bag) (validator : Validator)
  | putItem {α : Type} (mapper : Mapper α) (value : α)
  | testTypedItem {α : Type} (mapper : Mapper α) (value : α) (validator : Validator)

namespace Configuration

/-- The bag found under a name that has to exist. -/
def required (name : String) : Option Bag → Except Fault Bag
  | some bag => .ok bag
  | none => .error (.configurationInvalid name "no such item")

/-- The order of a bag that has to carry one. -/
def requiredOrder (name : String) (bag : Bag) : Except Fault Int64 :=
  match bag.order? with
  | some order => .ok order
  | none => .error (.configurationInvalid name "missing `order`")

/-- What a mapper makes of the bag found under its name. -/
def typed {α : Type} (mapper : Mapper α) : Option Bag → Except Fault (Option α)
  | none => .ok none
  | some bag => ((mapper.ofBag bag).mapError Fault.ofPublic).map some

/-- The bag of an item that has to exist. -/
def itemOf (items : Configuration) (name : String) : Except Fault Bag :=
  required name (items.get? name)

/-- The order of an item that has to exist and carry one. -/
def orderOf (items : Configuration) (name : String) : Except Fault Int64 :=
  items.itemOf name >>= requiredOrder name

/-- The batch of some updates over what is staged already. -/
def batchOfUpdates (items : Configuration) : List ItemUpdate → Batch → Except Fault Batch
  | [], batch => .ok batch
  | update :: rest, batch => do
    let _ ← items.itemOf update.name
    items.batchOfUpdates rest (batch.merge update.name update.edit)

end Configuration

namespace Reconfiguration

/-- The call as an action of a registry. -/
def action (registry : Registry σ) : Reconfiguration → Action σ Unit
  | .reorder first second => registry.reorder first second
  | .arrange updates => registry.arrange updates
  | .mergeItem name properties => registry.mergeItem name properties
  | .testItem name properties validator => registry.testItem name properties validator
  | .putItem mapper value => registry.putItem mapper value
  | .testTypedItem mapper value validator => registry.testTypedItem mapper value validator

/-- The validator that has to accept the outcome, if the call brings one. -/
def validator? : Reconfiguration → Option Validator
  | .testItem _ _ validator | .testTypedItem _ _ validator => some validator
  | .reorder _ _ | .arrange _ | .mergeItem _ _ | .putItem _ _ => none

/-- What the call does before its commit. -/
def stage (registry : Registry σ) : Reconfiguration → Action σ Batch
  | .reorder first second => do
    let firstOrder ← registry.requireOrder first
    let secondOrder ← registry.requireOrder second
    pure (Registry.exchange first second firstOrder secondOrder)
  | .arrange updates => registry.stageUpdates updates .empty
  | .mergeItem name properties | .testItem name properties _ =>
    pure (Batch.empty.merge name properties)
  | .putItem mapper value | .testTypedItem mapper value _ => do
    let properties ← registry.mapped (mapper.toBag value)
    pure (Batch.empty.merge mapper.item properties)

/-- The batch that the call stages on some items, or the fault it finds in them. -/
def batchOn (items : Configuration) : Reconfiguration → Except Fault Batch
  | .reorder first second => do
    let firstOrder ← items.orderOf first
    let secondOrder ← items.orderOf second
    pure (Registry.exchange first second firstOrder secondOrder)
  | .arrange updates => items.batchOfUpdates updates .empty
  | .mergeItem name properties | .testItem name properties _ =>
    .ok (Batch.empty.merge name properties)
  | .putItem mapper value | .testTypedItem mapper value _ => do
    let properties ← (mapper.toBag value).mapError Fault.ofPublic
    pure (Batch.empty.merge mapper.item properties)

/-- Every call stages a batch and reconfigures by it. -/
theorem action_eq (registry : Registry σ) (call : Reconfiguration) :
    call.action registry =
      call.stage registry >>= fun batch => registry.reconfigure batch call.validator? := by
  cases call with
  | reorder first second =>
    simp only [action, stage, Registry.reorder, bind_assoc, pure_bind]; rfl
  | arrange updates => rfl
  | mergeItem name properties => simp only [action, stage, pure_bind]; rfl
  | testItem name properties validator => simp only [action, stage, pure_bind]; rfl
  | putItem mapper value =>
    simp only [action, stage, Registry.putItem, bind_assoc, pure_bind]; rfl
  | testTypedItem mapper value validator =>
    simp only [action, stage, Registry.testTypedItem, bind_assoc, pure_bind]; rfl

end Reconfiguration

/-- A call to the registry. -/
inductive Operation : Type 1 where
  | init
  | reload
  | reconfigure (call : Reconfiguration)
  | signIn (credentials : Credentials)
  | resolve (username : String)
  | profileOf (username : String)
  | listing
  | readItem (name : String)
  | typedItem {α : Type} (mapper : Mapper α)

namespace Operation

/-- The operation as an action of a registry that answers with success or a fault. -/
def action (registry : Registry σ) : Operation → Action σ Unit
  | .init => registry.init
  | .reload => registry.reload
  | .reconfigure call => call.action registry
  | .signIn credentials => discard (registry.signIn credentials)
  | .resolve username => discard (registry.resolve username)
  | .profileOf username => discard (registry.profileOf username)
  | .listing => discard registry.listing
  | .readItem name => discard (registry.readItem name)
  | .typedItem mapper => discard (registry.typedItem mapper)

/-- Whether the operation publishes a snapshot when it succeeds. -/
def publishes : Operation → Bool
  | .init | .reload | .reconfigure _ => true
  | .signIn _ | .resolve _ | .profileOf _ | .listing | .readItem _ | .typedItem _ => false

end Operation

/-- What happens to a registry. -/
inductive Event : Type 1 where
  | call (operation : Operation)
  | clock (now : Instant)

namespace Registry

/-- The state after one event. -/
def follow (registry : Registry σ) (state : RegistryState σ) : Event → RegistryState σ
  | .call operation => ((operation.action registry).runOn state).2
  | .clock now => { state with now := now }

/-- The state after a run of events. -/
def after (registry : Registry σ) (events : List Event) (state : RegistryState σ) :
    RegistryState σ :=
  events.foldl registry.follow state

@[simp] theorem after_cons (registry : Registry σ) (event : Event) (events : List Event)
    (state : RegistryState σ) :
    registry.after (event :: events) state = registry.after events (registry.follow state event) :=
  rfl

theorem after_append (registry : Registry σ) (first second : List Event)
    (state : RegistryState σ) :
    registry.after (first ++ second) state = registry.after second (registry.after first state) :=
  List.foldl_append

/-- What every event keeps, every run keeps. -/
theorem after_induction {registry : Registry σ} {Holds : RegistryState σ → Prop}
    (step : ∀ state event, Holds state → Holds (registry.follow state event))
    (events : List Event) {state : RegistryState σ} (start : Holds state) :
    Holds (registry.after events state) := by
  induction events generalizing state with
  | nil => exact start
  | cons event events ih => exact ih (step state event start)

end Registry

end IdentityChain
