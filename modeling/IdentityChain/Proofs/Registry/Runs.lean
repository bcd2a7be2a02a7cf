import IdentityChain.Proofs.Registry.Steps
import IdentityChain.Simulation.ScriptedSource

/-!
# What runs preserve

Two invariants of a registry, each kept by every operation and so by every run.

Over a store in memory the chains never drift from the configuration: the
published snapshot is the one that its version and the stored items build
(`InSync`). Over a store that may fail this is too much to ask, since a reload
may find the store unreachable after an accepted commit. What survives every
failure is that the registry never writes items that do not build (`Sound`), so
a configuration that went live once can be loaded ever after.
-/

namespace IdentityChain

/-- A registry over a store in memory. -/
def Registry.inMemory (factories : Table Factory) (limits : ResolutionLimits) :
    Registry Configuration := ⟨.memory, factories, limits⟩

theorem Registry.inMemory_contract (factories : Table Factory) (limits : ResolutionLimits) :
    (inMemory factories limits).store.Contract fun items => items := Store.memory_contract

/-- A registry over a store whose operations may fail. -/
def Registry.unreliable (factories : Table Factory) (limits : ResolutionLimits) :
    Registry UnreliableStore := ⟨.unreliable, factories, limits⟩

theorem Registry.unreliable_contract (factories : Table Factory) (limits : ResolutionLimits) :
    (unreliable factories limits).store.Contract UnreliableStore.items := Store.unreliable_contract

theorem Registry.unreliable_reportsUnreadable (factories : Table Factory)
    (limits : ResolutionLimits) : (unreliable factories limits).store.ReportsUnreadable :=
  Store.unreliable_reportsUnreadable

/-! ## A small registry -/

namespace Rehearsal

/-- One kind of scripted source. -/
def factories : Table Factory := Factory.byKind [Script.factory "stub" "A"]

def limits : ResolutionLimits := ⟨⟨300, 0⟩, 5000⟩

/-- A bag of the one kind, at a place in the sequence. -/
def stub (order : Int) : Bag := Table.ofList [("order", .int order), ("type", .str "stub")]

/-- A bag of a kind that no factory builds. -/
def ghost : Bag := Table.ofList [("type", .str "ghost")]

/-- Two items in sequence. -/
def items : Configuration := Table.ofList [("a", stub 1), ("b", stub 2)]

/-- Nothing is loaded yet. -/
def start {σ : Type} (store : σ) : RegistryState σ := Registry.initialState store ⟨0, 0⟩

end Rehearsal

/-! ## The chains describe the configuration -/

/-- The published snapshot is the one that its version and the stored items build. -/
def InSync (factories : Table Factory) (state : RegistryState Configuration) : Prop :=
  Snapshot.build factories state.published.version state.store = .ok state.published

section InSync

variable {factories : Table Factory} {limits : ResolutionLimits}

/-- What has just been built is in sync, whatever its version. -/
theorem InSync.of_build {version : Nat} {state : RegistryState Configuration}
    (built : Snapshot.build factories version state.store = .ok state.published) :
    InSync factories state := by
  have numbered := Snapshot.version_of_build built
  rw [InSync, numbered]
  exact built

/-- Every operation keeps the chains in sync, whether it succeeds or not. -/
theorem InSync.operation {before : RegistryState Configuration} (sync : InSync factories before)
    (operation : Operation) :
    InSync factories ((operation.action (.inMemory factories limits)).runOn before).2 := by
  have step := operation_step (Registry.inMemory_contract factories limits) operation before
  generalize ((operation.action _).runOn before).1 = result,
    ((operation.action _).runOn before).2 = after at step ⊢
  cases step with
  | kept failed same =>
    have stored : after.store = before.store := same.items_eq
    rw [InSync, stored, same.published_eq]
    exact sync
  | live publishes built => exact .of_build built
  | stranded unread =>
    -- A store in memory can always be read back.
    obtain ⟨store, unread⟩ := unread
    cases unread

/-- A first load that succeeds brings the chains in sync, wherever the registry stood before. -/
theorem InSync.of_init {start : RegistryState Configuration}
    (started : ((Registry.inMemory factories limits).init.runOn start).1 = .ok ()) :
    InSync factories ((Registry.inMemory factories limits).init.runOn start).2 := by
  have step := reload_step (Registry.inMemory_contract factories limits).toAtomic start
  rw [Registry.init] at started ⊢
  generalize ((Registry.inMemory factories limits).reload.runOn start).1 = result,
    ((Registry.inMemory factories limits).reload.runOn start).2 = after at step started ⊢
  cases step with
  | live read kept built =>
    have stored : after.store = start.store := kept
    rw [← stored] at built
    exact .of_build built
  | unread unread same => cases started
  | unbuilt unbuilt same => cases started

/-- After a first load that succeeds, the published snapshot is at every point of every run the
one that its version and the stored items build. -/
theorem published_eq_build_after (events : List Event) (start : RegistryState Configuration)
    (started : ((Registry.inMemory factories limits).init.runOn start).1 = .ok ()) :
    let registry := Registry.inMemory factories limits
    let state := registry.after events (registry.init.runOn start).2
    Snapshot.build factories state.published.version state.store = .ok state.published := by
  have step : ∀ state event, InSync factories state →
      InSync factories ((Registry.inMemory factories limits).follow state event) := by
    intro state event sync
    cases event with
    | call operation => exact sync.operation operation
    | clock now => exact sync
  exact Registry.after_induction step events (.of_init started)

/-- A refused edit, an exchange and a new item: two snapshots after the first, in sync. -/
theorem published_eq_build_after_rehearsal :
    let registry := Registry.inMemory Rehearsal.factories Rehearsal.limits
    let events : List Event := [.call (.reconfigure (.mergeItem "b" Rehearsal.ghost)),
      .call (.reconfigure (.reorder "a" "b")), .clock ⟨60, 0⟩,
      .call (.reconfigure (.mergeItem "c" (Rehearsal.stub 3)))]
    let state := registry.after events
      (registry.init.runOn (Rehearsal.start Rehearsal.items)).2
    (registry.init.runOn (Rehearsal.start Rehearsal.items)).1 = .ok () ∧
      state.published.version = 3 ∧
      Snapshot.build Rehearsal.factories state.published.version state.store =
        .ok state.published :=
  ⟨by rfl, by rfl, published_eq_build_after _ _ (by rfl)⟩

end InSync

/-! ## The configuration can be loaded -/

/-- The items are those of the start, or they build. -/
def Sound {σ : Type} (factories : Table Factory) (items : σ → Configuration)
    (initial : Configuration) (state : RegistryState σ) : Prop :=
  items state.store = initial ∨ Snapshot.Buildable factories (items state.store)

section Sound

variable {σ : Type} {registry : Registry σ} {items : σ → Configuration}

/-- Every operation leaves the items as they were or writes items that build. -/
theorem items_operation (contract : registry.store.Contract items) (operation : Operation)
    (before : RegistryState σ) :
    Sound registry.factories items (items before.store)
      ((operation.action registry).runOn before).2 := by
  have step := operation_step contract operation before
  generalize ((operation.action registry).runOn before).1 = result,
    ((operation.action registry).runOn before).2 = after at step ⊢
  cases step with
  | kept failed same => exact .inl same.items_eq
  | live publishes built => exact .inr (.of_build built)
  | stranded unread buildable published_eq => exact .inr buildable

/-- An operation that publishes and succeeds leaves items that build. -/
theorem buildable_of_published (contract : registry.store.Contract items) {operation : Operation}
    (publishes : operation.publishes = true) {before : RegistryState σ}
    (succeeded : ((operation.action registry).runOn before).1 = .ok ()) :
    Snapshot.Buildable registry.factories
      (items ((operation.action registry).runOn before).2.store) := by
  have step := operation_step contract operation before
  generalize ((operation.action registry).runOn before).1 = result,
    ((operation.action registry).runOn before).2 = after at step succeeded ⊢
  cases step with
  | kept failed same =>
    obtain ⟨fault, failed⟩ := failed publishes
    cases failed.symm.trans succeeded
  | live publishes built => exact .of_build built
  | stranded unread buildable published_eq => exact buildable

theorem Sound.follow {initial : Configuration} (contract : registry.store.Contract items)
    {state : RegistryState σ} (sound : Sound registry.factories items initial state)
    (event : Event) : Sound registry.factories items initial (registry.follow state event) := by
  cases event with
  | clock now => exact sound
  | call operation =>
    rcases items_operation contract operation state with same | buildable
    · rcases sound with first | buildable
      · exact .inl (same.trans first)
      · refine .inr ?_
        rw [Registry.follow, same]
        exact buildable
    · exact .inr buildable

theorem Sound.after {initial : Configuration} (contract : registry.store.Contract items)
    {state : RegistryState σ} (sound : Sound registry.factories items initial state)
    (events : List Event) :
    Sound registry.factories items initial (registry.after events state) :=
  Registry.after_induction (fun _ event sound => sound.follow contract event) events sound

/-- Items that build once build at every later point. -/
theorem buildable_after (contract : registry.store.Contract items) {state : RegistryState σ}
    (buildable : Snapshot.Buildable registry.factories (items state.store))
    (events : List Event) :
    Snapshot.Buildable registry.factories (items (registry.after events state).store) := by
  have sound : Sound registry.factories items (items state.store) state := .inl rfl
  rcases sound.after contract events with same | buildable
  · rw [same]
    exact buildable
  · exact buildable

/-- A reload of items that build fails only if they cannot be read. -/
theorem reload_of_buildable (contract : registry.store.Contract items)
    (reports : registry.store.ReportsUnreadable) {state : RegistryState σ}
    (buildable : Snapshot.Buildable registry.factories (items state.store)) :
    (registry.reload.runOn state).1 = .ok () ∨
      ∃ reason, (registry.reload.runOn state).1 = .error (.configurationRead reason) := by
  have step := reload_step contract.toAtomic state
  generalize (registry.reload.runOn state).1 = result, (registry.reload.runOn state).2 = after
    at step ⊢
  cases step with
  | live read kept built => exact .inl rfl
  | unread unread same =>
    obtain ⟨reason, rfl⟩ := reports _ _ unread
    exact .inr ⟨reason, rfl⟩
  | unbuilt unbuilt same =>
    obtain ⟨snapshot, built⟩ := buildable.build (state.published.version + 1)
    cases built.symm.trans unbuilt

/-- At every point of every run the items are those of the start or build, and once an operation
has published a snapshot, no later reload finds an item that cannot be built. -/
theorem items_sound_and_reload_never_invalid (contract : registry.store.Contract items)
    (reports : registry.store.ReportsUnreadable) (start : RegistryState σ) :
    (∀ events, items (registry.after events start).store = items start.store ∨
      ∃ snapshot, Snapshot.build registry.factories 0
        (items (registry.after events start).store) = .ok snapshot) ∧
    ∀ events (operation : Operation) later, operation.publishes = true →
      ((operation.action registry).runOn (registry.after events start)).1 = .ok () →
      ∀ item reason,
        (registry.reload.runOn
          (registry.after (events ++ .call operation :: later) start)).1 ≠
          .error (.configurationInvalid item reason) := by
  refine ⟨fun events => ?_, fun events operation later publishes succeeded item reason => ?_⟩
  · have sound : Sound registry.factories items (items start.store) start := .inl rfl
    exact sound.after contract events
  · have once := buildable_of_published contract publishes succeeded
    have buildable := buildable_after contract once later
    rw [Registry.after_append, Registry.after_cons, Registry.follow]
    rcases reload_of_buildable contract reports buildable with live | ⟨cause, unread⟩
    · rw [live]
      intro h
      cases h
    · rw [unread]
      intro h
      cases h

/-- From items that do not build, through failures of every kind: the third repair goes live, and
the later reload does not find the item that was refused in between. -/
theorem items_sound_and_reload_never_invalid_rehearsal :
    let registry := Registry.unreliable Rehearsal.factories Rehearsal.limits
    let start := Rehearsal.start (UnreliableStore.mk
      (Table.ofList [("a", Rehearsal.ghost), ("b", Rehearsal.stub 2)])
      [none, some (.unreachable "down"), some .refusal, none, none, none,
        some (.unreachable "down")])
    let repair : Operation := .reconfigure (.mergeItem "a" (Rehearsal.stub 1))
    let events : List Event := [.call .init, .call repair, .call repair]
    let later : List Event := [.call (.reconfigure (.mergeItem "b" Rehearsal.ghost))]
    (Snapshot.build Rehearsal.factories 0 start.store.items).toOption = none ∧
      ((repair.action registry).runOn (registry.after events start)).1 = .ok () ∧
      ∀ item reason,
        (registry.reload.runOn (registry.after (events ++ .call repair :: later) start)).1 ≠
          .error (.configurationInvalid item reason) := by
  intro registry start repair events later
  have live : ((repair.action registry).runOn (registry.after events start)).1 = .ok () := by rfl
  have sound := items_sound_and_reload_never_invalid
    (Registry.unreliable_contract Rehearsal.factories Rehearsal.limits)
    (Registry.unreliable_reportsUnreadable Rehearsal.factories Rehearsal.limits) start
  exact ⟨by rfl, live, sound.2 events repair later rfl live⟩

end Sound

end IdentityChain
