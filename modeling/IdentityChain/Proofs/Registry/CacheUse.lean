import IdentityChain.Proofs.Registry.Frames

/-!
# Which operations use the user cache

An operation that resolves no user leaves the cache and the clock alone,
whatever the store does and however the operation ends (`keepsCache_operation`).
One that does leaves the cache of `RegistryState.resolution`, the resolution of
the user in the state at hand. No promise of the store is needed for either.
-/

namespace IdentityChain

variable {σ α : Type}

/-- Neither the user cache nor the clock differs. -/
structure SameCache (before after : RegistryState σ) : Prop where
  cache_eq : after.cache = before.cache
  now_eq : after.now = before.now

theorem SameCache.refl (state : RegistryState σ) : SameCache state state := ⟨rfl, rfl⟩

theorem SameCache.trans {first second third : RegistryState σ} (h : SameCache first second)
    (h' : SameCache second third) : SameCache first third :=
  ⟨h'.cache_eq.trans h.cache_eq, h'.now_eq.trans h.now_eq⟩

/-- The action leaves the user cache and the clock alone. -/
def KeepsCache (action : Action σ α) : Prop := ∀ state, SameCache state (action.runOn state).2

section Operations

variable (registry : Registry σ)

theorem frame_sameCache : Frame registry SameCache where
  refl := .refl
  trans := .trans
  read _ _ := ⟨rfl, rfl⟩
  readAll _ := ⟨rfl, rfl⟩
  calls _ _ := ⟨rfl, rfl⟩

theorem writes_sameCache : Frame.Writes registry SameCache where
  commit _ _ _ := ⟨rfl, rfl⟩
  publish _ _ := ⟨rfl, rfl⟩

/-- An operation that resolves no user leaves the cache and the clock alone. -/
theorem keepsCache_operation {operation : Operation} (none : operation.resolves? = none) :
    KeepsCache (operation.action registry) := by
  refine (frame_sameCache registry).operation (fun _ => writes_sameCache registry) ?_
  intro username resolves
  cases none.symm.trans resolves

/-- The resolution of a user in a state. -/
def RegistryState.resolution (limits : ResolutionLimits) (state : RegistryState σ)
    (username : String) : Resolution :=
  state.published.resolve limits state.now state.cache username

theorem runOn_resolve (username : String) (state : RegistryState σ) :
    (registry.resolve username).runOn state =
      ((state.resolution registry.limits username).result,
        { state with
          cache := (state.resolution registry.limits username).cache
          calls := state.calls ++ (state.resolution registry.limits username).calls }) := rfl

/-- No operation moves the clock. -/
theorem now_operation (operation : Operation) (state : RegistryState σ) :
    ((operation.action registry).runOn state).2.now = state.now := by
  cases resolves : operation.resolves? with
  | none => exact (keepsCache_operation registry resolves state).now_eq
  | some username => rw [state_operation_resolves registry resolves, runOn_resolve]

end Operations

end IdentityChain
