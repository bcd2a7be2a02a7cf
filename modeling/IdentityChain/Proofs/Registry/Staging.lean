import IdentityChain.Proofs.Registry.Operations
import IdentityChain.Proofs.Store.Contract

/-!
# Reading before a commit

Whatever a reconfiguration does before its commit only reads. `Reads` says so
of an action: it leaves all but the store's own affairs, and what it answers,
unless it ends in a fault, is a function of the items. The relation goes
through sequencing (`Reads.bind`), so it holds of every way to stage a batch,
and `Reconfiguration.batchOn` is what `Reconfiguration.stage` gathers
(`reads_stage`). A store that keeps its contract is all that is asked.
-/

namespace IdentityChain

variable {σ α β : Type} {items : σ → Configuration}

/-- The items are the same, and nothing but the store may differ. -/
structure Untouched (items : σ → Configuration) (before after : RegistryState σ) : Prop where
  rest_eq : after = { before with store := after.store }
  items_eq : items after.store = items before.store

namespace Untouched

theorem refl (state : RegistryState σ) : Untouched items state state := ⟨rfl, rfl⟩

theorem trans {first second third : RegistryState σ} (h : Untouched items first second)
    (h' : Untouched items second third) : Untouched items first third := by
  refine ⟨?_, h'.items_eq.trans h.items_eq⟩
  rw [h'.rest_eq, h.rest_eq]

theorem published_eq {before after : RegistryState σ} (h : Untouched items before after) :
    after.published = before.published := by
  rw [h.rest_eq]

end Untouched

/-- The action only reads, and `answer` is what it reads off the items. -/
structure Reads (items : σ → Configuration) (action : Action σ α)
    (answer : Configuration → Except Fault α) : Prop where
  untouched : ∀ state, Untouched items state (action.runOn state).2
  answers : ∀ {state a}, (action.runOn state).1 = .ok a → answer (items state.store) = .ok a

namespace Reads

variable {action : Action σ α} {answer answer' : Configuration → Except Fault α}

theorem of_eq (h : Reads items action answer) (eq : ∀ all, answer all = answer' all) :
    Reads items action answer' where
  untouched := h.untouched
  answers ok := by rw [← eq]; exact h.answers ok

theorem pure (a : α) : Reads items (pure a : Action σ α) fun _ => .ok a where
  untouched := .refl
  answers ok := ok

theorem throw (fault : Fault) : Reads items (throw fault : Action σ α) fun _ => .error fault where
  untouched := .refl
  answers ok := ok

/-- A conversion reads nothing at all. -/
theorem mapped (registry : Registry σ) (outcome : Except PublicFault α) :
    Reads items (registry.mapped outcome) fun _ => outcome.mapError Fault.ofPublic where
  untouched := .refl
  answers ok := ok

/-- One reading action after another reads both answers off the same items. -/
theorem bind {next : α → Action σ β} {nextAnswer : α → Configuration → Except Fault β}
    (h : Reads items action answer) (h' : ∀ a, Reads items (next a) (nextAnswer a)) :
    Reads items (action >>= next) fun all => answer all >>= fun a => nextAnswer a all := by
  constructor
  · intro state
    have first := h.untouched state
    cases run : action.runOn state with
    | mk result after =>
      rw [run] at first
      cases result with
      | ok a =>
        rw [Action.runOn_bind_ok run]
        exact first.trans ((h' a).untouched after)
      | error fault =>
        rw [Action.runOn_bind_error run]
        exact first
  · intro state b ok
    have first := h.untouched state
    have answered : ∀ a, (action.runOn state).1 = .ok a → answer (items state.store) = .ok a :=
      fun a => h.answers
    cases run : action.runOn state with
    | mk result after =>
      rw [run] at first answered
      cases result with
      | ok a =>
        rw [Action.runOn_bind_ok run] at ok
        have second := (h' a).answers ok
        rw [first.items_eq] at second
        show answer (items state.store) >>= _ = _
        rw [answered a rfl]
        exact second
      | error fault =>
        rw [Action.runOn_bind_error run] at ok
        cases ok

theorem map (h : Reads items action answer) (f : α → β) :
    Reads items (f <$> action) fun all => (answer all).map f where
  untouched state := by rw [Action.runOn_map]; exact h.untouched state
  answers {state b} ok := by
    rw [Action.runOn_map] at ok
    obtain ⟨a, result, rfl⟩ := Except.map_eq_ok ok
    rw [h.answers result]
    rfl

end Reads

section Staging

variable {registry : Registry σ}

theorem reads_readItem (contract : registry.store.Contract items) (name : String) :
    Reads items (registry.readItem name) fun all => .ok (all.get? name) where
  untouched state := ⟨rfl, contract.items_read name state.store⟩
  answers ok := by rw [contract.read_ok ok]

theorem reads_typedItem (contract : registry.store.Contract items) (mapper : Mapper α) :
    Reads items (registry.typedItem mapper) fun all =>
      .ok (all.get? mapper.item) >>= Configuration.typed mapper := by
  unfold Registry.typedItem
  refine (reads_readItem contract mapper.item).bind fun found => ?_
  cases found with
  | none => exact .pure none
  | some bag => exact (Reads.mapped registry _).map some

theorem reads_requireItem (contract : registry.store.Contract items) (name : String) :
    Reads items (registry.requireItem name) (·.itemOf name) := by
  have answered : Reads items (registry.requireItem name) fun all =>
      .ok (all.get? name) >>= Configuration.required name := by
    unfold Registry.requireItem
    refine (reads_readItem contract name).bind fun found => ?_
    cases found with
    | some bag => exact .pure bag
    | none => exact .throw _
  exact answered.of_eq fun _ => rfl

theorem reads_requireOrder (contract : registry.store.Contract items) (name : String) :
    Reads items (registry.requireOrder name) (·.orderOf name) := by
  unfold Registry.requireOrder
  refine (reads_requireItem contract name).bind fun bag => ?_
  unfold Configuration.requiredOrder
  cases bag.order? with
  | some order => exact .pure order
  | none => exact .throw _

theorem reads_stageUpdates (contract : registry.store.Contract items) (updates : List ItemUpdate)
    (batch : Batch) :
    Reads items (registry.stageUpdates updates batch) (·.batchOfUpdates updates batch) := by
  induction updates generalizing batch with
  | nil => exact .pure batch
  | cons update rest ih =>
    unfold Registry.stageUpdates
    exact (reads_requireItem contract update.name).bind fun _ => ih _

/-- Every reconfiguration reads its batch off the items. -/
theorem reads_stage (contract : registry.store.Contract items) (call : Reconfiguration) :
    Reads items (call.stage registry) (call.batchOn ·) := by
  cases call with
  | reorder first second =>
    refine (reads_requireOrder contract first).bind fun firstOrder => ?_
    exact (reads_requireOrder contract second).bind fun secondOrder => .pure _
  | arrange updates => exact reads_stageUpdates contract updates .empty
  | mergeItem name properties => exact .pure _
  | testItem name properties validator => exact .pure _
  | putItem mapper value => exact (Reads.mapped registry _).bind fun _ => .pure _
  | testTypedItem mapper value validator => exact (Reads.mapped registry _).bind fun _ => .pure _

end Staging

end IdentityChain
