import IdentityChain.Proofs.Store.Shared
import Mathlib.Data.List.Forall2

/-!
# Runs of commits

The items of a store in memory are changed by plain commits and by commits on
trial (`CommitCall`). One step lemma says what both can do (`CommitCall.run_step`): the
batch is merged whole if its requirements hold and the call approves of the
outcome, and else nothing happens. A run is a fold of such steps, so its outcome
is that of the accepted batches alone (`afterCommits_eq_foldl`), calls that
answer alike may be exchanged anywhere in it (`trace_congr`), and it loses no
item and no property (`Retains`).
-/

namespace IdentityChain

/-- A call that may change the items of a store. -/
inductive CommitCall where
  | plain (batch : Batch)
  | onTrial (batch : Batch) (trial : Trial)

namespace CommitCall

/-- The batch that is to be merged. -/
def batch : CommitCall → Batch
  | .plain batch => batch
  | .onTrial batch _ => batch

/-- Whether the merged items may be kept: a plain commit has no objections. -/
def approves : CommitCall → Configuration → Bool
  | .plain _, _ => true
  | .onTrial _ trial, merged => (trial merged).accepted

/-- The answer of the call and the items that it leaves. -/
def run (items : Configuration) : CommitCall → Bool × Configuration
  | .plain batch => items.commit batch
  | .onTrial batch trial =>
    let (verdict, after) := items.commitOnTrial batch trial
    (verdict.accepted, after)

/-- Every requirement holds in the items, and the call approves of the merged ones. -/
structure Accepted (call : CommitCall) (items : Configuration) : Prop where
  met : ∀ need ∈ call.batch.required, need.Holds items
  approved : call.approves (call.batch.mergeInto items) = true

/-- The calls are one, or one is a plain commit and the other a trial of the same batch that
accepts all items. -/
inductive Alike : CommitCall → CommitCall → Prop where
  | same (call : CommitCall) : Alike call call
  | tried {batch : Batch} {trial : Trial} (accepts : ∀ all, (trial all).accepted = true) :
      Alike (.plain batch) (.onTrial batch trial)
  | untried {batch : Batch} {trial : Trial} (accepts : ∀ all, (trial all).accepted = true) :
      Alike (.onTrial batch trial) (.plain batch)

end CommitCall

theorem Batch.isMetBy_iff {batch : Batch} {items : Configuration} :
    batch.isMetBy items = true ↔ ∀ need ∈ batch.required, need.Holds items := by
  simp only [isMetBy, List.all_eq_true, Requirement.isMetBy_iff]

/-! ## One call -/

/-- What a call can answer and leave. -/
inductive CommitCall.RunStep (call : CommitCall) (before : Configuration) :
    Bool × Configuration → Prop where
  | merged (accepted : call.Accepted before) :
      RunStep call before (true, call.batch.mergeInto before)
  | kept (refused : ¬ call.Accepted before) : RunStep call before (false, before)

/-- A batch whose requirements hold is accepted if the trial accepts the merged items. -/
theorem Configuration.accepted_commitOnTrial {items : Configuration} {batch : Batch}
    {trial : Trial} (met : batch.isMetBy items = true)
    (approved : (trial (batch.mergeInto items)).accepted = true) :
    (items.commitOnTrial batch trial).1.accepted = true := by
  unfold commitOnTrial
  rw [if_pos met]
  exact approved

theorem CommitCall.run_step (call : CommitCall) (before : Configuration) :
    RunStep call before (call.run before) := by
  cases call with
  | plain batch =>
    by_cases met : batch.isMetBy before = true
    · have merged : CommitCall.run before (.plain batch) = (true, batch.mergeInto before) :=
        if_pos met
      rw [merged]
      exact .merged ⟨Batch.isMetBy_iff.1 met, rfl⟩
    · have kept : CommitCall.run before (.plain batch) = (false, before) := if_neg met
      rw [kept]
      exact .kept fun accepted => met (Batch.isMetBy_iff.2 accepted.met)
  | onTrial batch trial =>
    show RunStep _ before ((before.commitOnTrial batch trial).1.accepted,
      (before.commitOnTrial batch trial).2)
    cases verdict : (before.commitOnTrial batch trial).1.accepted with
    | true =>
      obtain ⟨met, approved, merged⟩ := Configuration.commitOnTrial_accepted verdict
      rw [merged]
      exact .merged ⟨Batch.isMetBy_iff.1 met, approved⟩
    | false =>
      rw [Configuration.commitOnTrial_refused verdict]
      refine .kept fun accepted => ?_
      have met := Batch.isMetBy_iff.2 accepted.met
      cases verdict.symm.trans (Configuration.accepted_commitOnTrial met accepted.approved)

namespace CommitCall

variable {call other : CommitCall} {items : Configuration}

theorem run_of_accepted (accepted : call.Accepted items) :
    call.run items = (true, call.batch.mergeInto items) := by
  have step := run_step call items
  generalize call.run items = outcome at step ⊢
  cases step with
  | merged _ => rfl
  | kept refused => exact (refused accepted).elim

theorem run_of_refused (refused : ¬ call.Accepted items) : call.run items = (false, items) := by
  have step := run_step call items
  generalize call.run items = outcome at step ⊢
  cases step with
  | merged accepted => exact (refused accepted).elim
  | kept _ => rfl

/-- Alike calls are about one batch and approve of the same items. -/
theorem Alike.accepted_iff (alike : Alike call other) :
    call.Accepted items ↔ other.Accepted items := by
  cases alike with
  | same => exact Iff.rfl
  | tried accepts => exact ⟨fun h => ⟨h.met, accepts _⟩, fun h => ⟨h.met, rfl⟩⟩
  | untried accepts => exact ⟨fun h => ⟨h.met, rfl⟩, fun h => ⟨h.met, accepts _⟩⟩

/-- Alike calls answer alike. -/
theorem Alike.run_eq (alike : Alike call other) : call.run items = other.run items := by
  have batch_eq : call.batch = other.batch := by cases alike <;> rfl
  by_cases accepted : call.Accepted items
  · rw [run_of_accepted accepted, run_of_accepted (alike.accepted_iff.1 accepted), batch_eq]
  · rw [run_of_refused accepted, run_of_refused (mt alike.accepted_iff.2 accepted)]

end CommitCall

/-! ## Runs -/

namespace Configuration

/-- The items after some calls. -/
def afterCommits (items : Configuration) (calls : List CommitCall) : Configuration :=
  calls.foldl (fun items call => (call.run items).2) items

/-- What some calls answer, each with the items that it leaves. -/
def trace (items : Configuration) : List CommitCall → List (Bool × Configuration)
  | [] => []
  | call :: rest => call.run items :: trace (call.run items).2 rest

/-- The batches of the calls that answer yes, in order. -/
def acceptedBatches (items : Configuration) : List CommitCall → List Batch
  | [] => []
  | call :: rest =>
    let others := acceptedBatches (call.run items).2 rest
    if (call.run items).1 then call.batch :: others else others

/-- No item and no property is lost. -/
structure Retains (before after : Configuration) : Prop where
  items : before.Grows after
  properties : ∀ name key, (before.value? name key).isSome = true →
    (after.value? name key).isSome = true

variable {items : Configuration} {calls others : List CommitCall}

theorem Retains.refl (items : Configuration) : Retains items items :=
  ⟨.refl items, fun _ _ held => held⟩

theorem Retains.trans {first second third : Configuration} (h : first.Retains second)
    (h' : second.Retains third) : first.Retains third :=
  ⟨h.items.trans h'.items, fun name key held => h'.properties name key (h.properties name key held)⟩

theorem retains_mergeInto (batch : Batch) (items : Configuration) :
    items.Retains (batch.mergeInto items) where
  items := grows_mergeInto batch items
  properties name key held := by
    rw [Batch.value?_mergeInto]
    cases value? batch.edits name key with
    | none => exact held
    | some staged => rfl

theorem retains_run (call : CommitCall) (items : Configuration) :
    items.Retains (call.run items).2 := by
  have step := call.run_step items
  generalize call.run items = outcome at step ⊢
  cases step with
  | merged _ => exact retains_mergeInto call.batch items
  | kept _ => exact .refl items

theorem retains_afterCommits (items : Configuration) (calls : List CommitCall) :
    items.Retains (items.afterCommits calls) := by
  induction calls generalizing items with
  | nil => exact .refl items
  | cons call rest ih => exact (retains_run call items).trans (ih _)

theorem afterCommits_append (items : Configuration) (front rest : List CommitCall) :
    items.afterCommits (front ++ rest) = (items.afterCommits front).afterCommits rest :=
  List.foldl_append

/-- A run does what its accepted batches do. -/
theorem afterCommits_eq_foldl (items : Configuration) (calls : List CommitCall) :
    items.afterCommits calls =
      (items.acceptedBatches calls).foldl (fun items batch => batch.mergeInto items) items := by
  induction calls generalizing items with
  | nil => rfl
  | cons call rest ih =>
    show afterCommits (call.run items).2 rest = _
    rw [ih, acceptedBatches]
    by_cases accepted : call.Accepted items
    · rw [CommitCall.run_of_accepted accepted]
      rfl
    · rw [CommitCall.run_of_refused accepted]
      rfl

/-- Calls that answer alike may be exchanged at any places of a run. -/
theorem trace_congr (alike : List.Forall₂ CommitCall.Alike calls others) :
    items.trace calls = items.trace others := by
  induction alike generalizing items with
  | nil => rfl
  | cons first _ ih => rw [trace, trace, first.run_eq, ih]

theorem afterCommits_congr (alike : List.Forall₂ CommitCall.Alike calls others) :
    items.afterCommits calls = items.afterCommits others := by
  induction alike generalizing items with
  | nil => rfl
  | @cons first second _ _ same _ ih =>
    show afterCommits (first.run items).2 _ = afterCommits (second.run items).2 _
    rw [same.run_eq, ih]

end Configuration

/-- Whatever calls are made to a store in memory, each answers yes exactly if the requirements of
its batch hold at that moment and the call approves of the items with the batch merged in. Then
these replace the items; otherwise nothing changes. So the run leaves what its accepted batches
leave, merged in order. A plain commit and a trial that accepts everything may stand for each other
anywhere in the run: every answer and all items are the same. No item and no property that was there
at some point is lost later. An integer is required to be there as that integer, and never met by a
double, or the other way round. -/
theorem commits_all_or_nothing (items : Configuration) (calls : List CommitCall) :
    (∀ front call rest, calls = front ++ call :: rest →
      let now := items.afterCommits front
      let outcome := call.run now
      (outcome.1 = true ↔ (∀ need ∈ call.batch.required, need.Holds now) ∧
        call.approves (call.batch.mergeInto now) = true) ∧
      (outcome.1 = true → outcome.2 = call.batch.mergeInto now) ∧
      (outcome.1 = false → outcome.2 = now) ∧
      items.afterCommits (front ++ [call]) = outcome.2) ∧
    items.afterCommits calls =
      (items.acceptedBatches calls).foldl (fun items batch => batch.mergeInto items) items ∧
    (∀ others, List.Forall₂ CommitCall.Alike calls others →
      items.trace calls = items.trace others ∧
        items.afterCommits calls = items.afterCommits others) ∧
    (∀ front rest, calls = front ++ rest →
      (items.afterCommits front).Retains (items.afterCommits calls)) ∧
    ∀ (now : Configuration) item key,
      (∀ n, (Requirement.mk item key (.int n)).Holds now ↔
        now.value? item key = some (.int n)) ∧
      ∀ x, (Requirement.mk item key (.float x)).Holds now →
        ∃ y, now.value? item key = some (.float y) := by
  refine ⟨?each, items.afterCommits_eq_foldl calls, ?alike, ?retained, ?numbers⟩
  case each =>
    intro front call rest _ now outcome
    have after : items.afterCommits (front ++ [call]) = outcome.2 :=
      Configuration.afterCommits_append items front [call]
    by_cases accepted : call.Accepted now
    · have merged : outcome = (true, call.batch.mergeInto now) :=
        CommitCall.run_of_accepted accepted
      rw [after, merged]
      exact ⟨iff_of_true rfl ⟨accepted.met, accepted.approved⟩, fun _ => rfl, nofun, rfl⟩
    · have kept : outcome = (false, now) := CommitCall.run_of_refused accepted
      rw [after, kept]
      exact ⟨iff_of_false nofun fun both => accepted ⟨both.1, both.2⟩, nofun, fun _ => rfl, rfl⟩
  case alike =>
    intro others alike
    exact ⟨Configuration.trace_congr alike, Configuration.afterCommits_congr alike⟩
  case retained =>
    intro front rest split
    rw [split, Configuration.afterCommits_append]
    exact Configuration.retains_afterCommits _ rest
  case numbers =>
    intro now item key
    exact ⟨fun n => Requirement.holds_int_iff, fun x => Requirement.Holds.float⟩

/-- An order is changed, so that a batch that requires the old one is refused, and one that requires
the new one as a double; a batch that the trial objects to is refused as well. To try the first
batch before it is merged makes no difference. -/
theorem commits_all_or_nothing_rehearsal :
    let items : Configuration := Table.ofList [("ldap", Table.ofList [("order", .int 1)])]
    let seven : Binary64 := ⟨0x401c000000000000⟩
    let moved := Batch.empty.merge "ldap" (Table.ofList [("order", .int 7)])
    let added := Batch.empty.merge "desk" (Table.ofList [("note", .null)])
    let stale := added.require "ldap" "order" (.int 1)
    let double := added.require "ldap" "order" (.float seven)
    let front : List CommitCall := [.plain moved]
    let rest : List CommitCall := [.plain double, .onTrial added fun _ => .plain false,
      .onTrial added fun merged => .plain (merged.contains "desk")]
    let calls := front ++ .plain stale :: rest
    let tried : CommitCall := .onTrial moved fun _ => .plain true
    let now := items.afterCommits front
    (CommitCall.run now (.plain stale)).1 = false ∧ (CommitCall.run now (.plain stale)).2 = now ∧
      ¬ (Requirement.mk "ldap" "order" (.float seven)).Holds now ∧
      items.trace calls = items.trace (tried :: .plain stale :: rest) ∧
      now.Retains (items.afterCommits calls) ∧
      ((items.afterCommits calls).get? "desk").isSome = true := by
  intro items seven moved added stale double front rest calls tried now
  obtain ⟨each, -, alike, retained, numbers⟩ := commits_all_or_nothing items calls
  obtain ⟨answer, -, kept, -⟩ := each front (.plain stale) rest rfl
  obtain ⟨integer, float⟩ := numbers now "ldap" "order"
  have order : now.value? "ldap" "order" = some (.int 7) := by rfl
  have refused : (CommitCall.run now (.plain stale)).1 = false := by
    rw [Bool.eq_false_iff]
    intro accepted
    have needed := (answer.1 accepted).1 ⟨"ldap", "order", .int 1⟩ List.mem_cons_self
    cases order.symm.trans ((integer 1).1 needed)
  have unmet : ¬ (Requirement.mk "ldap" "order" (.float seven)).Holds now := by
    intro holds
    obtain ⟨y, found⟩ := float seven holds
    cases order.symm.trans found
  have same : List.Forall₂ CommitCall.Alike calls (tried :: .plain stale :: rest) :=
    .cons (.tried fun _ => rfl) (List.forall₂_same.2 fun call _ => .same call)
  have there : ((items.afterCommits calls).get? "desk").isSome = true := by rfl
  exact ⟨refused, kept refused, unmet, (alike _ same).1,
    retained front (.plain stale :: rest) rfl, there⟩

end IdentityChain
