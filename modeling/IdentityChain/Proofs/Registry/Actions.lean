import IdentityChain.Registry.Basic

/-!
# Running actions

What `Action.runOn` makes of each way to build an action: an action after
another runs on the state that the first one left, unless the first one ended
in a fault, which ends the whole. The operations of the registry are read off
these equations and never unfolded to the transformers beneath.
-/

namespace IdentityChain.Action

variable {σ α β : Type}

@[simp] theorem runOn_get (state : RegistryState σ) :
    (get : Action σ (RegistryState σ)).runOn state = (.ok state, state) := rfl

@[simp] theorem runOn_modify (f : RegistryState σ → RegistryState σ) (state : RegistryState σ) :
    (modify f : Action σ Unit).runOn state = (.ok (), f state) := rfl

/-- A result that is there already leaves the state. -/
@[simp] theorem runOn_mk_pure (result : Except Fault α) (state : RegistryState σ) :
    runOn (ExceptT.mk (pure result)) state = (result, state) := rfl

/-- An operation on the store leaves all but the store. -/
@[simp] theorem runOn_onStore (f : σ → Except Fault α × σ) (state : RegistryState σ) :
    (onStore f).runOn state = ((f state.store).1, { state with store := (f state.store).2 }) := rfl

@[simp] theorem runOn_recordCalls (calls : List Call) (state : RegistryState σ) :
    (recordCalls calls : Action σ Unit).runOn state =
      (.ok (), { state with calls := state.calls ++ calls }) := rfl

/-- One action after another. -/
theorem runOn_bind (first : Action σ α) (next : α → Action σ β) (state : RegistryState σ) :
    (first >>= next).runOn state =
      match first.runOn state with
      | (.ok a, after) => (next a).runOn after
      | (.error fault, after) => (.error fault, after) := by
  show ((first.run >>= ExceptT.bindCont next).run state : Except Fault β × RegistryState σ) = _
  unfold runOn
  simp only [bind, StateT.bind, StateT.run]
  cases first.run state with
  | mk result after => cases result <;> rfl

theorem runOn_bind_ok {first : Action σ α} {state after : RegistryState σ} {a : α}
    (h : first.runOn state = (.ok a, after)) (next : α → Action σ β) :
    (first >>= next).runOn state = (next a).runOn after := by
  rw [runOn_bind, h]

theorem runOn_bind_error {first : Action σ α} {state after : RegistryState σ} {fault : Fault}
    (h : first.runOn state = (.error fault, after)) (next : α → Action σ β) :
    (first >>= next).runOn state = (.error fault, after) := by
  rw [runOn_bind, h]

/-- A function of the result does not touch the state. -/
theorem runOn_map (f : α → β) (action : Action σ α) (state : RegistryState σ) :
    (f <$> action).runOn state = ((action.runOn state).1.map f, (action.runOn state).2) := by
  rw [← bind_pure_comp, runOn_bind]
  cases action.runOn state with
  | mk result after => cases result <;> rfl

/-- Dropping the answer keeps the state. -/
@[simp] theorem runOn_discard (action : Action σ α) (state : RegistryState σ) :
    (discard action).runOn state =
      ((action.runOn state).1.map fun _ => (), (action.runOn state).2) :=
  runOn_map _ action state

end IdentityChain.Action
