import IdentityChain.Proofs.Registry.Operations

/-!
# What holds across an operation

An operation is a sequence of steps that each read the store, commit to it, or
change one other part of the state. A relation between states that goes through
sequencing and holds across each of these steps holds across the whole operation
(`Frame.operation`), whatever the store answers and however the operation ends.

Not every relation holds across every step. `Frame` asks for the steps that all
operations may take; the steps of an operation that publishes (`Frame.Writes`)
and those of a resolution are asked for only where the operation takes them.
-/

namespace IdentityChain

variable {σ α β : Type} {registry : Registry σ}
  {R : RegistryState σ → RegistryState σ → Prop}

/-- The relation holds between the states before and after the action. -/
def Action.Along (R : RegistryState σ → RegistryState σ → Prop) (action : Action σ α) : Prop :=
  ∀ state, R state (action.runOn state).2

/-- A relation that goes through sequencing and holds across every reading of the store. -/
structure Frame (registry : Registry σ) (R : RegistryState σ → RegistryState σ → Prop) : Prop where
  refl : ∀ state, R state state
  trans : ∀ {first second third}, R first second → R second third → R first third
  read : ∀ name state, R state { state with store := (registry.store.read name state.store).2 }
  readAll : ∀ state, R state { state with store := (registry.store.readAll state.store).2 }
  calls : ∀ calls state, R state { state with calls := state.calls ++ calls }

/-- The relation holds across a commit and across the publication of a snapshot. -/
structure Frame.Writes (registry : Registry σ) (R : RegistryState σ → RegistryState σ → Prop) :
    Prop where
  commit : ∀ batch trial state,
    R state { state with store := (registry.store.commitOnTrial batch trial state.store).2 }
  publish : ∀ next state, R state { state with published := next }

/-- The user that the operation resolves, if it resolves one. -/
def Operation.resolves? : Operation → Option String
  | .resolve username | .profileOf username => some username
  | .init | .reload | .reconfigure _ | .signIn _ | .listing | .readItem _ | .typedItem _ => none

/-- An operation that resolves a user leaves what resolving the user leaves. -/
theorem state_operation_resolves (registry : Registry σ) {operation : Operation}
    {username : String} (resolves : operation.resolves? = some username)
    (state : RegistryState σ) :
    ((operation.action registry).runOn state).2 = ((registry.resolve username).runOn state).2 := by
  cases operation with
  | resolve name =>
    cases resolves
    rw [Operation.action, Action.runOn_discard]
  | profileOf name =>
    cases resolves
    have mapped : registry.profileOf username = (·.profile) <$> registry.resolve username := by
      rw [← bind_pure_comp]
      rfl
    rw [Operation.action, Action.runOn_discard, mapped, Action.runOn_map]
  | init => cases resolves
  | reload => cases resolves
  | reconfigure call => cases resolves
  | signIn credentials => cases resolves
  | listing => cases resolves
  | readItem name => cases resolves
  | typedItem mapper => cases resolves

namespace Frame

open IdentityChain.Action (Along)

/-! ## Sequencing -/

theorem pure (frame : Frame registry R) (a : α) : Along R (pure a : Action σ α) := frame.refl

theorem throw (frame : Frame registry R) (fault : Fault) :
    Along R (throw fault : Action σ α) := frame.refl

theorem get (frame : Frame registry R) : Along R (get : Action σ (RegistryState σ)) := frame.refl

/-- A result that is there already moves nothing. -/
theorem result (frame : Frame registry R) (result : Except Fault α) :
    Along R (ExceptT.mk (.pure result) : Action σ α) := frame.refl

theorem bind (frame : Frame registry R) {action : Action σ α} {next : α → Action σ β}
    (h : Along R action) (h' : ∀ a, Along R (next a)) : Along R (action >>= next) := by
  intro state
  have first := h state
  cases run : action.runOn state with
  | mk result after =>
    rw [run] at first
    cases result with
    | ok a =>
      rw [Action.runOn_bind_ok run]
      exact frame.trans first (h' a after)
    | error fault =>
      rw [Action.runOn_bind_error run]
      exact first

theorem map {action : Action σ α} (h : Along R action) (f : α → β) : Along R (f <$> action) := by
  intro state
  rw [Action.runOn_map]
  exact h state

theorem discard {action : Action σ α} (h : Along R action) : Along R (discard action) := map h _

/-! ## The operations -/

variable (frame : Frame registry R)
include frame

theorem readItem (name : String) : Along R (registry.readItem name) := frame.read name

theorem requireItem (name : String) : Along R (registry.requireItem name) := by
  unfold Registry.requireItem
  refine frame.bind (frame.readItem name) fun found => ?_
  cases found with
  | some bag => exact frame.pure bag
  | none => exact frame.throw _

theorem requireOrder (name : String) : Along R (registry.requireOrder name) := by
  unfold Registry.requireOrder
  refine frame.bind (frame.requireItem name) fun bag => ?_
  cases bag.order? with
  | some order => exact frame.pure order
  | none => exact frame.throw _

theorem stageUpdates (updates : List ItemUpdate) (batch : Batch) :
    Along R (registry.stageUpdates updates batch) := by
  induction updates generalizing batch with
  | nil => exact frame.pure batch
  | cons update rest ih =>
    unfold Registry.stageUpdates
    exact frame.bind (frame.requireItem update.name) fun _ => ih _

/-- What a reconfiguration does before its commit only reads. -/
theorem stage (call : Reconfiguration) : Along R (call.stage registry) := by
  cases call with
  | reorder first second =>
    refine frame.bind (frame.requireOrder first) fun firstOrder => ?_
    exact frame.bind (frame.requireOrder second) fun secondOrder => frame.pure _
  | arrange updates => exact frame.stageUpdates updates .empty
  | mergeItem name properties => exact frame.pure _
  | testItem name properties validator => exact frame.pure _
  | putItem mapper value => exact frame.bind (frame.result _) fun _ => frame.pure _
  | testTypedItem mapper value validator =>
    exact frame.bind (frame.result _) fun _ => frame.pure _

theorem listing : Along R registry.listing := by
  unfold Registry.listing
  exact frame.bind frame.readAll fun all => frame.bind frame.get fun state => frame.pure _

theorem typedItem (mapper : Mapper α) : Along R (registry.typedItem mapper) := by
  unfold Registry.typedItem
  refine frame.bind (frame.readItem mapper.item) fun found => ?_
  cases found with
  | none => exact frame.pure none
  | some bag => exact map (frame.result _) some

theorem reload (writes : Writes registry R) : Along R registry.reload := by
  unfold Registry.reload
  refine frame.bind frame.readAll fun all => frame.bind frame.get fun state => ?_
  exact frame.bind (frame.result _) fun next => writes.publish next

theorem reconfigure (writes : Writes registry R) (batch : Batch) (validator : Option Validator) :
    Along R (registry.reconfigure batch validator) := by
  unfold Registry.reconfigure
  refine frame.bind (writes.commit batch _) fun verdict => ?_
  refine frame.bind (frame.calls verdict.calls) fun _ => ?_
  cases verdict.accepted with
  | true => exact frame.reload writes
  | false => exact frame.throw _

/-- What holds across the steps of an operation holds across the operation. -/
theorem operation {operation : Operation}
    (writes : operation.publishes = true → Writes registry R)
    (resolve : ∀ username, operation.resolves? = some username →
      Along R (registry.resolve username)) :
    Along R (operation.action registry) := by
  cases operation with
  | init => exact frame.reload (writes rfl)
  | reload => exact frame.reload (writes rfl)
  | reconfigure call =>
    rw [Operation.action, Reconfiguration.action_eq]
    exact frame.bind (frame.stage call) fun batch => frame.reconfigure (writes rfl) batch _
  | signIn credentials => exact discard fun state => frame.calls _ state
  | resolve username => exact discard (resolve username rfl)
  | profileOf username =>
    intro state
    have resolves : (Operation.profileOf username).resolves? = some username := rfl
    rw [state_operation_resolves registry resolves state]
    exact resolve username rfl state
  | listing => exact discard frame.listing
  | readItem name => exact discard (frame.readItem name)
  | typedItem mapper => exact discard (frame.typedItem mapper)

end Frame

end IdentityChain
