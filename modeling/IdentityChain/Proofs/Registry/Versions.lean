import IdentityChain.Proofs.Registry.Runs
import IdentityChain.Proofs.Store.Shared

/-!
# What is published, and under which version

Nothing is asked of the store here. Its operations may fail, refuse, or answer
whatever they like, and what others write to it shows in what they answer. Still
a snapshot is published only by a load or a reconfiguration that succeeds, it is
what the items of that operation's own reading build, and it carries the next
version (`publication_step`). A trial has the version zero, which no published
snapshot carries but the empty one of the start.

So the version counts the publications of a run (`version_after`), and a
snapshot is known by its version (`published_of_version_eq`).
-/

namespace IdentityChain

variable {σ : Type} {registry : Registry σ}

/-- The state of the store in which an operation reads all the items: a load reads them at once, a
reconfiguration when its commit has been accepted. -/
inductive ReadsFrom (registry : Registry σ) (before : RegistryState σ) : Operation → σ → Prop where
  | init : ReadsFrom registry before .init before.store
  | reload : ReadsFrom registry before .reload before.store
  | reconfigure {call : Reconfiguration} {batch : Batch} {staged : RegistryState σ}
      {verdict : Verdict} {store : σ}
      (run : (call.stage registry).runOn before = (.ok batch, staged))
      (committed : registry.store.commitOnTrial batch (registry.trial call.validator?)
        staged.store = (.ok verdict, store))
      (accepted : verdict.accepted = true) :
      ReadsFrom registry before (.reconfigure call) store

/-- The ways in which an operation ends, by what it publishes. -/
inductive PublicationStep (registry : Registry σ) (operation : Operation)
    (before after : RegistryState σ) : Except Fault Unit → Prop where
  | published {store : σ} {all : Configuration}
      (reads : ReadsFrom registry before operation store)
      (read : registry.store.readAll store = (.ok all, after.store))
      (numbered : after.published.version = before.published.version + 1)
      (built : Snapshot.build registry.factories after.published.version all =
        .ok after.published) :
      PublicationStep registry operation before after (.ok ())
  | kept {result : Except Fault Unit}
      (failed : operation.publishes = true → ∃ fault, result = .error fault)
      (same : after.published = before.published) :
      PublicationStep registry operation before after result

/-! ## One operation -/

theorem frame_published (registry : Registry σ) :
    Frame registry fun before after => after.published = before.published where
  refl _ := rfl
  trans h h' := h'.trans h
  read _ _ := rfl
  readAll _ := rfl
  calls _ _ := rfl

/-- A reload that starts where the operation reads the items publishes for that operation. -/
theorem reload_publishes {operation : Operation} {before staged : RegistryState σ}
    (reads : ReadsFrom registry before operation staged.store)
    (same : staged.published = before.published) :
    PublicationStep registry operation before (registry.reload.runOn staged).2
      (registry.reload.runOn staged).1 := by
  rw [reload_runOn]
  cases read : registry.store.readAll staged.store with
  | mk result store =>
    cases result with
    | error fault => exact .kept (fun _ => ⟨fault, rfl⟩) same
    | ok all =>
      dsimp only
      cases built : Snapshot.build registry.factories (staged.published.version + 1) all with
      | error fault => exact .kept (fun _ => ⟨fault, rfl⟩) same
      | ok next =>
        have version := Snapshot.version_of_build built
        rw [← version] at built
        rw [same] at version
        exact .published reads read version built

theorem reconfigure_publishes {call : Reconfiguration} {batch : Batch}
    {before staged : RegistryState σ}
    (run : (call.stage registry).runOn before = (.ok batch, staged))
    (same : staged.published = before.published) :
    PublicationStep registry (.reconfigure call) before
      ((registry.reconfigure batch call.validator?).runOn staged).2
      ((registry.reconfigure batch call.validator?).runOn staged).1 := by
  rw [reconfigure_runOn]
  cases committed : registry.store.commitOnTrial batch (registry.trial call.validator?)
      staged.store with
  | mk result store =>
    cases result with
    | error fault => exact .kept (fun _ => ⟨fault, rfl⟩) same
    | ok verdict =>
      dsimp only
      cases accepted : verdict.accepted with
      | false => exact .kept (fun _ => ⟨_, rfl⟩) same
      | true =>
        let live := { staged with store := store, calls := staged.calls ++ verdict.calls }
        have reads : ReadsFrom registry before (.reconfigure call) live.store :=
          .reconfigure run committed accepted
        exact reload_publishes reads same

theorem publication_step (registry : Registry σ) (operation : Operation)
    (before : RegistryState σ) :
    PublicationStep registry operation before ((operation.action registry).runOn before).2
      ((operation.action registry).runOn before).1 := by
  cases publishes : operation.publishes with
  | false =>
    have never : ¬ operation.publishes = true := by
      rw [publishes]
      exact Bool.false_ne_true
    have same := (frame_published registry).operation (fun yes => (never yes).elim)
      (fun _ _ _ => rfl) before
    exact .kept (fun yes => (never yes).elim) same
  | true =>
    cases operation with
    | init => exact reload_publishes .init rfl
    | reload => exact reload_publishes .reload rfl
    | reconfigure call =>
      have same := (frame_published registry).stage call before
      rw [Operation.action, Reconfiguration.action_eq]
      cases run : (call.stage registry).runOn before with
      | mk result staged =>
        rw [run] at same
        cases result with
        | error fault =>
          rw [Action.runOn_bind_error run]
          exact .kept (fun _ => ⟨fault, rfl⟩) same
        | ok batch =>
          rw [Action.runOn_bind_ok run]
          exact reconfigure_publishes run same
    | signIn credentials => cases publishes
    | resolve username => cases publishes
    | profileOf username => cases publishes
    | listing => cases publishes
    | readItem name => cases publishes
    | typedItem mapper => cases publishes

/-! ## Runs -/

/-- Whether the event is a load or a reconfiguration that succeeds. -/
def Event.isPublication (registry : Registry σ) (state : RegistryState σ) : Event → Bool
  | .call operation => operation.publishes && ((operation.action registry).runOn state).1.isOk
  | .clock _ => false

/-- How many loads and reconfigurations of a run succeed. -/
def Registry.publications (registry : Registry σ) : List Event → RegistryState σ → Nat
  | [], _ => 0
  | event :: events, state =>
    (event.isPublication registry state).toNat +
      registry.publications events (registry.follow state event)

/-- An event that is no publication leaves the snapshot; one that is raises the version by one. -/
theorem published_follow (registry : Registry σ) (state : RegistryState σ) (event : Event) :
    (event.isPublication registry state = false ∧
      (registry.follow state event).published = state.published) ∨
    (event.isPublication registry state = true ∧
      (registry.follow state event).published.version = state.published.version + 1) := by
  cases event with
  | clock now => exact .inl ⟨rfl, rfl⟩
  | call operation =>
    have step := publication_step registry operation state
    show ((operation.publishes && ((operation.action registry).runOn state).1.isOk) = false ∧
        ((operation.action registry).runOn state).2.published = state.published) ∨
      ((operation.publishes && ((operation.action registry).runOn state).1.isOk) = true ∧
        ((operation.action registry).runOn state).2.published.version =
          state.published.version + 1)
    generalize ((operation.action registry).runOn state).1 = result,
      ((operation.action registry).runOn state).2 = after at step ⊢
    cases step with
    | published reads read numbered built =>
      have publishes : operation.publishes = true := by cases reads <;> rfl
      refine .inr ⟨?_, numbered⟩
      rw [publishes]
      rfl
    | kept failed same =>
      refine .inl ⟨?_, same⟩
      cases publishes : operation.publishes with
      | false => rfl
      | true =>
        obtain ⟨fault, rfl⟩ := failed publishes
        rfl

/-- The version counts the publications. -/
theorem version_after (registry : Registry σ) (events : List Event) (state : RegistryState σ) :
    (registry.after events state).published.version =
      state.published.version + registry.publications events state := by
  induction events generalizing state with
  | nil => rfl
  | cons event events ih =>
    rw [Registry.after_cons, ih, Registry.publications]
    rcases published_follow registry state event with ⟨no, same⟩ | ⟨yes, numbered⟩
    · rw [no, same, Bool.toNat_false, Nat.zero_add]
    · rw [yes, numbered, Bool.toNat_true, Nat.add_assoc]

/-- A run without a publication ends with the snapshot that it began with. -/
theorem published_of_publications_eq_zero {events : List Event} {state : RegistryState σ}
    (none : registry.publications events state = 0) :
    (registry.after events state).published = state.published := by
  induction events generalizing state with
  | nil => rfl
  | cons event events ih =>
    rw [Registry.publications] at none
    obtain ⟨first, others⟩ := Nat.add_eq_zero_iff.1 none
    rw [Registry.after_cons, ih others]
    rcases published_follow registry state event with ⟨-, same⟩ | ⟨yes, -⟩
    · exact same
    · rw [yes] at first
      cases first

theorem publications_le_length (registry : Registry σ) (events : List Event)
    (state : RegistryState σ) : registry.publications events state ≤ events.length := by
  induction events generalizing state with
  | nil => exact Nat.le_refl 0
  | cons event events ih =>
    have first := Bool.toNat_le (event.isPublication registry state)
    have others := ih (registry.follow state event)
    rw [Registry.publications, List.length_cons]
    omega

/-- Two snapshots of a run with one version are one snapshot. -/
theorem published_of_version_eq {events : List Event} {state : RegistryState σ}
    (same : (registry.after events state).published.version = state.published.version) :
    (registry.after events state).published = state.published := by
  rw [version_after] at same
  exact published_of_publications_eq_zero (Nat.add_eq_left.1 same)

/-- From a registry that has loaded nothing, over any store: at every point of every run the next
operation publishes what its own reading builds, under the next version, or leaves the published
snapshot; a move of the clock leaves it. The version is the number of loads and reconfigurations
that have succeeded, so it never decreases, and no two different snapshots carry the same; none
carries the version of a trial but the empty one. A run of fewer events than the largest number of
64 bits leaves room there for the next version. -/
theorem versions_count_publications (registry : Registry σ) (store : σ) (now : Instant)
    (events : List Event) :
    let start := Registry.initialState store now
    let state := registry.after events start
    (∀ operation, PublicationStep registry operation state
      ((operation.action registry).runOn state).2 ((operation.action registry).runOn state).1) ∧
    (∀ later, (registry.follow state (.clock later)).published = state.published) ∧
    state.published.version = registry.publications events start ∧
    (∀ later, state.published.version ≤
        (registry.after (events ++ later) start).published.version ∧
      ((registry.after (events ++ later) start).published.version = state.published.version →
        (registry.after (events ++ later) start).published = state.published)) ∧
    (state.published.version = 0 → state.published = .empty) ∧
    (events.length < UInt64.size - 1 → state.published.version + 1 < UInt64.size) := by
  intro start state
  have counted : state.published.version = registry.publications events start := by
    rw [version_after registry events start]
    exact Nat.zero_add _
  refine ⟨fun operation => publication_step registry operation state, fun later => rfl, counted,
    fun later => ?_, fun none => ?_, fun short => ?_⟩
  · rw [Registry.after_append]
    refine ⟨?_, published_of_version_eq⟩
    rw [version_after registry later]
    exact Nat.le_add_right _ _
  · rw [counted] at none
    exact published_of_publications_eq_zero none
  · have bound := publications_le_length registry events start
    omega

/-- A registry over a store in memory before each of whose operations others may write. -/
def Registry.contended (factories : Table Factory) (limits : ResolutionLimits) :
    Registry SharedStore := ⟨.contended, factories, limits⟩

namespace Rehearsal

abbrev contended : Registry SharedStore := .contended Rehearsal.factories Rehearsal.limits

/-- Others add an item that cannot be built before the second operation on the store. -/
def crowded : SharedStore := ⟨items, [[], [Batch.empty.merge "c" ghost]]⟩

/-- A load, a reload of items that cannot be built, and the repair. -/
abbrev repair : List Event :=
  [.call .init, .call .reload, .call (.reconfigure (.mergeItem "c" (stub 3)))]

end Rehearsal

/-- The load and the repair publish, the reload between them does not. -/
theorem versions_count_publications_rehearsal :
    let state := Rehearsal.contended.after Rehearsal.repair (Rehearsal.start Rehearsal.crowded)
    Rehearsal.contended.publications Rehearsal.repair (Rehearsal.start Rehearsal.crowded) = 2 ∧
      state.published.version = 2 := by
  intro state
  have counted :
      Rehearsal.contended.publications Rehearsal.repair (Rehearsal.start Rehearsal.crowded) = 2 :=
    by rfl
  obtain ⟨-, -, version, -⟩ := versions_count_publications Rehearsal.contended
    Rehearsal.crowded ⟨0, 0⟩ Rehearsal.repair
  exact ⟨counted, version.trans counted⟩

end IdentityChain
