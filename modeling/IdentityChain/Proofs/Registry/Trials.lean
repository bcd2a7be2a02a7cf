import IdentityChain.Proofs.Registry.Runs
import IdentityChain.Simulation.Check

/-!
# What was tried goes live

Over a store in memory a commit and the reload after it see the same items, so
the snapshot that is published is the one that was tried, under its own version.
`Tried` names that snapshot. A batch that is tried on none is rejected before any
validator is asked (`reconfigure_untried`); for one that is, the verdict of the
validator on the trial snapshot decides all the rest (`reconfigure_tried`).

A run of a validator leaves the calls that it makes behind, so the calls of a
registry tell how often a validator has run, and on what.
-/

namespace IdentityChain

variable {factories : Table Factory} {limits : ResolutionLimits}

/-- The batch is tried on `trial`: its requirements hold, and `trial` is what the merged items
build. -/
structure Tried (factories : Table Factory) (items : Configuration) (batch : Batch)
    (trial : Snapshot) : Prop where
  met : batch.isMetBy items = true
  built : Snapshot.build factories 0 (batch.mergeInto items) = .ok trial

/-- There is at most one trial snapshot. -/
theorem Tried.unique {items : Configuration} {batch : Batch} {trial trial' : Snapshot}
    (tried : Tried factories items batch trial) (tried' : Tried factories items batch trial') :
    trial' = trial := by
  cases tried.built.symm.trans tried'.built
  rfl

/-- What a validator says of a trial snapshot; without one the snapshot is accepted. -/
def verdictOn (trial : Snapshot) (validator : Option Validator) : Verdict :=
  (validator.map (· trial)).getD (.plain true)

theorem accepted_verdictOn_iff {trial : Snapshot} {validator : Option Validator} :
    (verdictOn trial validator).accepted = true ↔
      ∀ validate, validator = some validate → (validate trial).accepted = true := by
  cases validator with
  | none => exact ⟨fun _ _ brings => (by cases brings), fun _ => rfl⟩
  | some validate =>
    constructor
    · intro accepted _ brings
      cases brings
      exact accepted
    · intro accepts
      exact accepts validate rfl

namespace Registry

theorem commitOnTrial_inMemory (batch : Batch) (trial : Trial) (items : Configuration) :
    (inMemory factories limits).store.commitOnTrial batch trial items =
      (.ok (items.commitOnTrial batch trial).1, (items.commitOnTrial batch trial).2) := rfl

/-- A batch that is tried on no snapshot is rejected without a trace. -/
theorem reconfigure_untried {batch : Batch} {state : RegistryState Configuration}
    (untried : ∀ trial, ¬ Tried factories state.store batch trial) (validator : Option Validator) :
    ((inMemory factories limits).reconfigure batch validator).runOn state =
      (.error (rejection batch), state) := by
  have verdict : state.store.commitOnTrial batch ((inMemory factories limits).trial validator) =
      (.plain false, state.store) := by
    unfold Configuration.commitOnTrial
    split
    · rename_i met
      have refused : (inMemory factories limits).trial validator (batch.mergeInto state.store) =
          .plain false := by
        unfold trial
        split
        · rfl
        · rename_i snapshot built
          exact (untried snapshot ⟨met, built⟩).elim
      dsimp only
      rw [refused]
      rfl
    · rfl
  have committed : (inMemory factories limits).store.commitOnTrial batch
      ((inMemory factories limits).trial validator) state.store =
      (.ok (.plain false), state.store) := by
    rw [commitOnTrial_inMemory, verdict]
  rw [reconfigure_runOn, committed]
  show (_, { state with calls := state.calls ++ [] }) = _
  rw [List.append_nil]

/-- A batch that is tried goes live as it was tried, or is rejected, as the verdict on the trial
snapshot has it. -/
theorem reconfigure_tried {batch : Batch} {state : RegistryState Configuration} {trial : Snapshot}
    (tried : Tried factories state.store batch trial) (validator : Option Validator) :
    ((inMemory factories limits).reconfigure batch validator).runOn state =
      let verdict := verdictOn trial validator
      let asked := { state with calls := state.calls ++ verdict.calls }
      if verdict.accepted then
        (.ok (), { asked with
          store := batch.mergeInto state.store
          published := trial.atVersion (state.published.version + 1) })
      else (.error (rejection batch), asked) := by
  have given : (inMemory factories limits).trial validator (batch.mergeInto state.store) =
      verdictOn trial validator := by
    unfold Registry.trial
    rw [show Snapshot.build (inMemory factories limits).factories 0 _ = _ from tried.built]
    cases validator <;> rfl
  have committed : (inMemory factories limits).store.commitOnTrial batch
      ((inMemory factories limits).trial validator) state.store =
      (.ok (verdictOn trial validator),
        if (verdictOn trial validator).accepted then batch.mergeInto state.store
        else state.store) := by
    rw [commitOnTrial_inMemory, Configuration.commitOnTrial, if_pos tried.met]
    dsimp only
    rw [given]
  rw [reconfigure_runOn, committed]
  dsimp only
  cases accepted : (verdictOn trial validator).accepted with
  | false => rfl
  | true =>
    have read : (inMemory factories limits).store.readAll (batch.mergeInto state.store) =
        (.ok (batch.mergeInto state.store), batch.mergeInto state.store) := rfl
    have again : Snapshot.build (inMemory factories limits).factories
        (state.published.version + 1) (batch.mergeInto state.store) =
        .ok (trial.atVersion (state.published.version + 1)) :=
      Snapshot.build_atVersion tried.built (state.published.version + 1)
    rw [if_pos rfl, if_pos rfl, if_pos rfl, reload_runOn]
    dsimp only
    rw [read]
    dsimp only
    rw [again]

/-- Over a store in memory nothing has changed when a call reaches its commit. -/
theorem action_of_staged {call : Reconfiguration} {before : RegistryState Configuration}
    {batch : Batch}
    (reached : ((call.stage (inMemory factories limits)).runOn before).1 = .ok batch) :
    (call.action (inMemory factories limits)).runOn before =
      ((inMemory factories limits).reconfigure batch call.validator?).runOn before := by
  have read := (reads_stage (inMemory_contract factories limits) call).untouched before
  have stored : ((call.stage (inMemory factories limits)).runOn before).2.store = before.store :=
    read.items_eq
  have same : ((call.stage (inMemory factories limits)).runOn before).2 = before := by
    rw [read.rest_eq, stored]
  rw [Reconfiguration.action_eq, Action.runOn_bind_ok (Prod.ext reached same)]

/-- The ways in which a call that reaches its commit ends. -/
inductive TrialStep (factories : Table Factory) (validator : Option Validator) (batch : Batch)
    (before : RegistryState Configuration) :
    Except Fault Unit × RegistryState Configuration → Prop where
  | untried
      (untried : ∀ trial, ¬ Tried factories before.store batch trial) :
      TrialStep factories validator batch before (.error (rejection batch), before)
  | refused {trial : Snapshot}
      (tried : Tried factories before.store batch trial)
      (refused : (verdictOn trial validator).accepted = false) :
      TrialStep factories validator batch before
        (.error (rejection batch),
          { before with calls := before.calls ++ (verdictOn trial validator).calls })
  | live {trial : Snapshot}
      (tried : Tried factories before.store batch trial)
      (accepted : (verdictOn trial validator).accepted = true) :
      TrialStep factories validator batch before
        (.ok (), { before with
          store := batch.mergeInto before.store
          published := trial.atVersion (before.published.version + 1)
          calls := before.calls ++ (verdictOn trial validator).calls })

theorem trial_step {call : Reconfiguration} {before : RegistryState Configuration} {batch : Batch}
    (reached : ((call.stage (inMemory factories limits)).runOn before).1 = .ok batch) :
    TrialStep factories call.validator? batch before
      ((call.action (inMemory factories limits)).runOn before) := by
  rw [action_of_staged reached]
  by_cases tried : ∃ trial, Tried factories before.store batch trial
  · obtain ⟨trial, tried⟩ := tried
    rw [reconfigure_tried tried]
    dsimp only
    split
    · rename_i accepted
      exact .live tried accepted
    · rename_i refused
      exact .refused tried (Bool.not_eq_true _ ▸ refused)
  · have untried := not_exists.1 tried
    rw [reconfigure_untried untried]
    exact .untried untried

/-- The calls that a call leaves behind are those of the verdict on the trial snapshot. -/
theorem TrialStep.calls_eq {validator : Option Validator} {batch : Batch}
    {before after : RegistryState Configuration} {result : Except Fault Unit}
    (step : TrialStep factories validator batch before (result, after)) :
    (∀ trial, Tried factories before.store batch trial →
      after.calls = before.calls ++ (verdictOn trial validator).calls) ∧
    ((∀ trial, ¬ Tried factories before.store batch trial) → after.calls = before.calls) := by
  cases step with
  | untried untried => exact ⟨fun trial tried => (untried trial tried).elim, fun _ => rfl⟩
  | refused tried refused =>
    refine ⟨fun trial tried' => ?_, fun untried => (untried _ tried).elim⟩
    rw [tried.unique tried']
  | live tried accepted =>
    refine ⟨fun trial tried' => ?_, fun untried => (untried _ tried).elim⟩
    rw [tried.unique tried']

/-- Two calls with one batch do the same if their validators say the same of the trial snapshot. -/
theorem action_congr {call other : Reconfiguration} {before : RegistryState Configuration}
    {batch : Batch}
    (reached : ((call.stage (inMemory factories limits)).runOn before).1 = .ok batch)
    (reached' : ((other.stage (inMemory factories limits)).runOn before).1 = .ok batch)
    (agree : ∀ trial, Tried factories before.store batch trial →
      other.validator?.map (· trial) = call.validator?.map (· trial)) :
    (other.action (inMemory factories limits)).runOn before =
      (call.action (inMemory factories limits)).runOn before := by
  rw [action_of_staged reached, action_of_staged reached']
  by_cases tried : ∃ trial, Tried factories before.store batch trial
  · obtain ⟨trial, tried⟩ := tried
    have same : verdictOn trial other.validator? = verdictOn trial call.validator? :=
      congrArg (·.getD (.plain true)) (agree trial tried)
    rw [reconfigure_tried tried, reconfigure_tried tried, same]
  · have untried := not_exists.1 tried
    rw [reconfigure_untried untried, reconfigure_untried untried]

/-- A validator that accepts every snapshot changes nothing but the calls that it makes itself. -/
theorem testItem_of_accepting {validate : Validator}
    (accepting : ∀ snapshot, (validate snapshot).accepted = true) (name : String)
    (properties : Bag) (before : RegistryState Configuration) :
    let tested := ((inMemory factories limits).testItem name properties validate).runOn before
    let merged := ((inMemory factories limits).mergeItem name properties).runOn before
    tested.1 = merged.1 ∧ tested.2 = { merged.2 with calls := tested.2.calls } := by
  unfold testItem mergeItem
  by_cases tried : ∃ trial, Tried factories before.store (Batch.empty.merge name properties) trial
  · obtain ⟨trial, tried⟩ := tried
    have yes : (verdictOn trial (some validate)).accepted = true := accepting trial
    rw [reconfigure_tried tried, reconfigure_tried tried]
    dsimp only
    rw [if_pos yes]
    exact ⟨rfl, rfl⟩
  · have untried := not_exists.1 tried
    rw [reconfigure_untried untried, reconfigure_untried untried]
    exact ⟨rfl, rfl⟩

end Registry

/-- A call that reaches its commit succeeds if and only if its batch is tried on a snapshot and its
validator, if it brings one, accepts that snapshot; then the merged items are in the store and the
snapshot that was tried is published, under the next version. The validator runs on the trial
snapshot and leaves the calls of that one run, or it does not run at all; what it would say of any
other snapshot does not matter. So to test an item by a validator that accepts everything is to
merge it. -/
theorem live_iff_validated {call : Reconfiguration} {before : RegistryState Configuration}
    {batch : Batch}
    (reached : ((call.stage (Registry.inMemory factories limits)).runOn before).1 = .ok batch) :
    let registry := Registry.inMemory factories limits
    let result := ((call.action registry).runOn before).1
    let after := ((call.action registry).runOn before).2
    (result = .ok () ↔ ∃ trial, Tried factories before.store batch trial ∧
      ∀ validate, call.validator? = some validate → (validate trial).accepted = true) ∧
    (result = .ok () → after.store = batch.mergeInto before.store ∧
      ∃ trial, Tried factories before.store batch trial ∧
        after.published = trial.atVersion (before.published.version + 1)) ∧
    (∀ trial validate, Tried factories before.store batch trial →
      call.validator? = some validate → after.calls = before.calls ++ (validate trial).calls) ∧
    ((∀ trial, ¬ Tried factories before.store batch trial) ∨ call.validator? = none →
      after.calls = before.calls) ∧
    (∀ other : Reconfiguration, ((other.stage registry).runOn before).1 = .ok batch →
      (∀ trial, Tried factories before.store batch trial →
        other.validator?.map (· trial) = call.validator?.map (· trial)) →
      (other.action registry).runOn before = (call.action registry).runOn before) ∧
    ∀ name properties validate, (∀ snapshot, (validate snapshot).accepted = true) →
      let tested := (registry.testItem name properties validate).runOn before
      let merged := (registry.mergeItem name properties).runOn before
      tested.1 = merged.1 ∧ tested.2 = { merged.2 with calls := tested.2.calls } := by
  intro registry result after
  have step : Registry.TrialStep factories call.validator? batch before (result, after) :=
    Registry.trial_step reached
  obtain ⟨ofTried, ofUntried⟩ := step.calls_eq
  refine ⟨?_, ?_, ?_, ?_, fun other reached' agree => Registry.action_congr reached reached' agree,
    fun name properties validate accepting =>
      Registry.testItem_of_accepting accepting name properties before⟩
  · generalize result = ended, after = last at step
    cases step with
    | untried untried =>
      refine ⟨nofun, ?_⟩
      rintro ⟨trial, tried, -⟩
      exact (untried trial tried).elim
    | refused tried refused =>
      refine ⟨nofun, ?_⟩
      rintro ⟨trial, tried', accepts⟩
      obtain rfl := tried.unique tried'
      cases refused.symm.trans (accepted_verdictOn_iff.2 accepts)
    | live tried accepted =>
      exact ⟨fun _ => ⟨_, tried, accepted_verdictOn_iff.1 accepted⟩, fun _ => rfl⟩
  · generalize result = ended, after = last at step ⊢
    intro succeeded
    cases step with
    | untried untried => cases succeeded
    | refused tried refused => cases succeeded
    | live tried accepted => exact ⟨rfl, _, tried, rfl⟩
  · intro trial validate tried brings
    rw [ofTried trial tried, brings]
    rfl
  · rintro (untried | none)
    · exact ofUntried untried
    · by_cases tried : ∃ trial, Tried factories before.store batch trial
      · obtain ⟨trial, tried⟩ := tried
        rw [ofTried trial tried, none]
        exact List.append_nil _
      · exact ofUntried (not_exists.1 tried)

namespace Rehearsal

/-- The kinds and limits of the rehearsals over a store in memory. -/
abbrev registry : Registry Configuration := .inMemory Rehearsal.factories Rehearsal.limits

/-- Puts an item at the end of the sequence, and lets a user in there. -/
def demotion : Bag := Table.ofList [("order", .int 9), ("users", .arr [.str "ann"])]

/-- The user can sign in. -/
def admitsAnn : Validator := (SnapshotCheck.signsIn ⟨"ann", "secret"⟩).validate

end Rehearsal

/-- An edit that goes live because a user can sign in after it: the trial asks both providers, once
each, in the order that the edit gives them. -/
theorem live_iff_validated_rehearsal :
    let batch := Batch.empty.merge "a" Rehearsal.demotion
    let call : Reconfiguration := .testItem "a" Rehearsal.demotion Rehearsal.admitsAnn
    let before := (Rehearsal.registry.init.runOn (Rehearsal.start Rehearsal.items)).2
    let after := ((call.action Rehearsal.registry).runOn before).2
    ((call.stage Rehearsal.registry).runOn before).1 = .ok batch ∧
      ((call.action Rehearsal.registry).runOn before).1 = .ok () ∧
      after.store = batch.mergeInto before.store ∧
      (∃ trial, Tried Rehearsal.factories before.store batch trial ∧
        after.published = trial.atVersion (before.published.version + 1) ∧
        after.calls = before.calls ++ (Rehearsal.admitsAnn trial).calls) ∧
      after.calls = [⟨.signIn, "b", true⟩, ⟨.signIn, "a", true⟩] := by
  intro batch call before after
  have reached : ((call.stage Rehearsal.registry).runOn before).1 = .ok batch := by rfl
  have succeeded : ((call.action Rehearsal.registry).runOn before).1 = .ok () := by rfl
  have calls : after.calls = [⟨.signIn, "b", true⟩, ⟨.signIn, "a", true⟩] := by rfl
  obtain ⟨-, live, asked, -, -, -⟩ :=
    @live_iff_validated Rehearsal.factories Rehearsal.limits call before batch reached
  obtain ⟨merged, trial, tried, published⟩ := live succeeded
  exact ⟨reached, succeeded, merged, ⟨trial, tried, published, asked trial _ tried rfl⟩, calls⟩

end IdentityChain
