import IdentityChain.Proofs.Configuration.Merging
import Mathlib.Data.List.Induction
import Mathlib.Tactic.SplitIfs
import Mathlib.Tactic.Tauto

/-!
# Staging and applying

A batch is built by calls that stage an edit or add a requirement
(`StagingCall`). An edit that is staged over others is merged into its item
after them (`Batch.mergeInto_merge`), so the batch as a whole does to the items
what its calls do one after the other (`Batch.mergeInto_staged`). What becomes
of a property is then read off the calls: the last one that edits it decides
(`StagingCall.value?_applyAll`).

The other two laws are about the values that a batch stages. Values that stand
already are not changed by writing them again (`Batch.mergeInto_mergeInto`), and
edits that share no property of an item may be staged in either order
(`Batch.merge_comm`).
-/

namespace IdentityChain

/-- The two bags have no key in common. -/
def Bag.Disjoint (first second : Bag) : Prop :=
  ∀ key, first.get? key = none ∨ second.get? key = none

/-- A call that builds a batch. -/
inductive StagingCall where
  | merge (name : String) (edit : Bag)
  | require (item key : String) (value : Json)
  deriving DecidableEq

namespace StagingCall

/-- The batch after the call. -/
def stage : Batch → StagingCall → Batch
  | batch, .merge name edit => batch.merge name edit
  | batch, .require item key value => batch.require item key value

/-- The items once the call's edit is merged into its item. A requirement edits nothing. -/
def apply : Configuration → StagingCall → Configuration
  | items, .merge name edit => Batch.applyEdit items name edit
  | items, .require _ _ _ => items

/-- The items once the edits of some calls are merged in, one after the other. -/
def applyAll (items : Configuration) (calls : List StagingCall) : Configuration :=
  calls.foldl apply items

/-- The item that the call edits. -/
def item? : StagingCall → Option String
  | .merge name _ => some name
  | .require _ _ _ => none

/-- The value that the call stages for a property. -/
def value? (name key : String) : StagingCall → Option Json
  | .merge item edit => if name = item then edit.get? key else none
  | .require _ _ _ => none

/-- The last value that is staged for a property. -/
def lastValue? (calls : List StagingCall) (name key : String) : Option Json :=
  (calls.filterMap (value? name key)).getLast?

variable {items : Configuration}

theorem lastValue?_concat (calls : List StagingCall) (call : StagingCall) (name key : String) :
    lastValue? (calls ++ [call]) name key =
      (call.value? name key).or (lastValue? calls name key) := by
  rw [lastValue?, List.filterMap_append, List.getLast?_append]
  cases staged : call.value? name key with
  | none => simp [lastValue?, staged]
  | some value => simp [staged]

/-- A property takes its value from the call, or else keeps it. -/
theorem value?_apply (items : Configuration) (call : StagingCall) (name key : String) :
    (apply items call).value? name key = (call.value? name key).or (items.value? name key) := by
  cases call with
  | require item other value => rfl
  | merge item edit =>
    show (Batch.applyEdit items item edit).value? name key = _
    rw [Batch.value?_applyEdit, value?]
    by_cases here : name = item
    · rw [if_pos here, if_pos here, here]
    · rw [if_neg here, if_neg here, Option.none_or]

/-- An item is there if it was or the call edits it. -/
theorem isSome_get?_apply (items : Configuration) (call : StagingCall) (name : String) :
    ((apply items call).get? name).isSome = true ↔
      call.item? = some name ∨ (items.get? name).isSome = true := by
  cases call with
  | require item other value => simp [apply, item?]
  | merge item edit =>
    show ((Batch.applyEdit items item edit).get? name).isSome = true ↔ _
    rw [Batch.get?_applyEdit]
    by_cases here : name = item
    · simp [here, item?]
    · simp [here, item?, Ne.symm here]

/-- The last call that edits a property decides it. -/
theorem value?_applyAll (items : Configuration) (calls : List StagingCall) (name key : String) :
    (applyAll items calls).value? name key =
      (lastValue? calls name key).or (items.value? name key) := by
  induction calls using List.reverseRecOn with
  | nil => rfl
  | append_singleton calls call ih =>
    rw [applyAll, List.foldl_append]
    show (apply (applyAll items calls) call).value? name key = _
    rw [value?_apply, ih, lastValue?_concat, Option.or_assoc]

theorem isSome_get?_applyAll (items : Configuration) (calls : List StagingCall) (name : String) :
    ((applyAll items calls).get? name).isSome = true ↔
      name ∈ calls.filterMap item? ∨ (items.get? name).isSome = true := by
  induction calls using List.reverseRecOn with
  | nil => simp [applyAll]
  | append_singleton calls call ih =>
    rw [applyAll, List.foldl_append]
    show ((apply (applyAll items calls) call).get? name).isSome = true ↔ _
    have here : name ∈ [call].filterMap item? ↔ call.item? = some name := by simp
    rw [isSome_get?_apply, ih, List.filterMap_append, List.mem_append, here]
    tauto

end StagingCall

namespace Batch

/-- The batch that some calls build, in order. -/
def staged (calls : List StagingCall) : Batch := calls.foldl StagingCall.stage .empty

/-- An edit staged over others is merged into its item after them. -/
theorem mergeInto_merge (batch : Batch) (name : String) (edit : Bag) (items : Configuration) :
    (batch.merge name edit).mergeInto items = applyEdit (batch.mergeInto items) name edit := by
  refine Configuration.ext_value? (fun other => ?present) fun other key => ?same
  case present =>
    rw [isSome_get?_mergeInto, get?_edits_merge, get?_applyEdit]
    by_cases here : other = name
    · rw [if_pos here, if_pos here]
      rfl
    · rw [if_neg here, if_neg here, isSome_get?_mergeInto]
  case same =>
    rw [value?_mergeInto, value?_edits_merge, value?_applyEdit]
    by_cases here : other = name
    · rw [if_pos here, if_pos here, here, value?_mergeInto, Option.or_assoc]
    · rw [if_neg here, if_neg here, value?_mergeInto]

/-- What a call adds to a batch is done after what the batch does. -/
theorem mergeInto_stage (batch : Batch) (call : StagingCall) (items : Configuration) :
    (call.stage batch).mergeInto items = call.apply (batch.mergeInto items) := by
  cases call with
  | merge name edit => exact mergeInto_merge batch name edit items
  | require item key value => rfl

/-- A batch does at once what its calls do one after the other. -/
theorem mergeInto_staged (calls : List StagingCall) (items : Configuration) :
    (staged calls).mergeInto items = StagingCall.applyAll items calls := by
  induction calls using List.reverseRecOn with
  | nil => rfl
  | append_singleton calls call ih =>
    rw [staged, List.foldl_append, StagingCall.applyAll, List.foldl_append]
    show (call.stage (staged calls)).mergeInto items =
      call.apply (StagingCall.applyAll items calls)
    rw [mergeInto_stage, ih]

/-- Requirements do not matter to what a batch does. -/
theorem applyAll_filter_item? (calls : List StagingCall) (items : Configuration) :
    StagingCall.applyAll items (calls.filter (·.item?.isSome)) =
      StagingCall.applyAll items calls := by
  induction calls generalizing items with
  | nil => rfl
  | cons call rest ih =>
    cases call with
    | merge name edit => exact ih _
    | require item key value => exact ih items

/-- To apply a batch again changes nothing. -/
theorem mergeInto_mergeInto (batch : Batch) (items : Configuration) :
    batch.mergeInto (batch.mergeInto items) = batch.mergeInto items := by
  refine Configuration.ext_value? (fun name => ?present) fun name key => ?same
  case present => simp only [isSome_get?_mergeInto, Bool.or_self_left]
  case same => simp only [value?_mergeInto, ← Option.or_assoc, Option.or_self]

/-- Edits of different items, or of different properties of one, are merged in either order. -/
theorem applyEdit_comm (items : Configuration) {name other : String} {edit otherEdit : Bag}
    (apart : name = other → edit.Disjoint otherEdit) :
    applyEdit (applyEdit items name edit) other otherEdit =
      applyEdit (applyEdit items other otherEdit) name edit := by
  refine Configuration.ext_value? (fun item => ?present) fun item key => ?same
  case present =>
    simp only [get?_applyEdit]
    split_ifs <;> rfl
  case same =>
    simp only [value?_applyEdit]
    by_cases here : name = other
    · -- One item: at most one of the edits has the key.
      subst here
      rcases apart rfl key with absent | absent <;> by_cases edited : item = name <;>
        simp [absent, edited]
    · have elsewhere : ¬ other = name := fun eq => here eq.symm
      by_cases first : item = name
      · simp [first, here]
      · simp [first, elsewhere]

/-- Such edits are staged in either order. -/
theorem merge_comm (batch : Batch) {name other : String} {edit otherEdit : Bag}
    (apart : name = other → edit.Disjoint otherEdit) :
    (batch.merge name edit).merge other otherEdit =
      (batch.merge other otherEdit).merge name edit := by
  have same : ((batch.merge name edit).merge other otherEdit).edits =
      ((batch.merge other otherEdit).merge name edit).edits := by
    simp only [edits_merge]
    exact applyEdit_comm batch.edits apart
  exact congrArg (Batch.mk · batch.required) same

/-- Two adjacent calls that stage such edits may be exchanged. -/
theorem staged_exchanged (front rest : List StagingCall) {name other : String}
    {edit otherEdit : Bag} (apart : name = other → edit.Disjoint otherEdit) :
    staged (front ++ .merge other otherEdit :: .merge name edit :: rest) =
      staged (front ++ .merge name edit :: .merge other otherEdit :: rest) := by
  simp only [staged, List.foldl_append, List.foldl_cons, StagingCall.stage]
  rw [merge_comm _ apart]

end Batch

/-- A missing item is created with the bag of its first edit. -/
theorem StagingCall.apply_of_missing {items : Configuration} {name : String}
    (missing : items.get? name = none) (edit : Bag) :
    apply items (.merge name edit) = items.insert name edit := by
  show items.insert name (Batch.edited edit (items.get? name)) = _
  rw [missing]
  rfl

/-- To apply a batch is to merge its staged edits into their items one after the other, in the
order of the calls that built it. An item is there afterwards if it was or is edited; a missing one
is created with the bag of its first edit, be it empty. The last value that is staged for a property
stands, and properties without one are as before. Requirements do nothing. So a batch that is
applied twice is applied once, and two adjacent edits of different items, or of different properties
of one, may change places: the same edits are staged, with the same effect on all items. -/
theorem staging_applies_stepwise (calls : List StagingCall) :
    let batch := Batch.staged calls
    (∀ items, batch.mergeInto items = StagingCall.applyAll items calls) ∧
    (∀ items name, ((batch.mergeInto items).get? name).isSome = true ↔
      name ∈ calls.filterMap StagingCall.item? ∨ (items.get? name).isSome = true) ∧
    (∀ (items : Configuration) name edit, items.get? name = none →
      StagingCall.apply items (.merge name edit) = items.insert name edit) ∧
    (∀ items name key, (batch.mergeInto items).value? name key =
      (StagingCall.lastValue? calls name key).or (items.value? name key)) ∧
    (∀ items, (Batch.staged (calls.filter (·.item?.isSome))).mergeInto items =
      batch.mergeInto items) ∧
    (∀ items, batch.mergeInto (batch.mergeInto items) = batch.mergeInto items) ∧
    ∀ front rest name other edit otherEdit,
      calls = front ++ .merge name edit :: .merge other otherEdit :: rest →
      (name = other → edit.Disjoint otherEdit) →
      let exchanged := Batch.staged (front ++ .merge other otherEdit :: .merge name edit :: rest)
      exchanged.edits = batch.edits ∧
        ∀ items, exchanged.mergeInto items = batch.mergeInto items := by
  intro batch
  have stepwise : ∀ items, batch.mergeInto items = StagingCall.applyAll items calls :=
    Batch.mergeInto_staged calls
  refine ⟨stepwise, ?present, ?created, ?last, ?required, batch.mergeInto_mergeInto, ?exchanged⟩
  case present =>
    intro items name
    rw [stepwise, StagingCall.isSome_get?_applyAll]
  case created => exact fun items name edit missing => StagingCall.apply_of_missing missing edit
  case last =>
    intro items name key
    rw [stepwise, StagingCall.value?_applyAll]
  case required =>
    intro items
    rw [Batch.mergeInto_staged, Batch.applyAll_filter_item?, stepwise]
  case exchanged =>
    intro front rest name other edit otherEdit split apart
    have same : Batch.staged (front ++ .merge other otherEdit :: .merge name edit :: rest) =
        batch := by
      rw [Batch.staged_exchanged front rest apart, ← split]
    exact ⟨congrArg Batch.edits same, fun items => by rw [same]⟩

/-- An item is edited three times around a requirement that does not hold, and another one is
created empty. The first two edits share no property, and the last one is of another item than the
one before it. -/
theorem staging_applies_stepwise_rehearsal :
    let place : Bag := Table.ofList [("order", .int 1)]
    let address : Bag := Table.ofList [("url", .str "ldap.example")]
    let later : Bag := Table.ofList [("order", .int 2)]
    let calls : List StagingCall := [.merge "ldap" place, .merge "ldap" address,
      .require "ldap" "order" (.int 9), .merge "desk" Bag.empty, .merge "ldap" later]
    let items : Configuration := Table.ofList [("ldap", Table.ofList [("note", .null)])]
    let batch := Batch.staged calls
    let others := Batch.staged [.merge "ldap" address, .merge "ldap" place,
      .require "ldap" "order" (.int 9), .merge "desk" Bag.empty, .merge "ldap" later]
    let after := batch.mergeInto items
    (after.value? "ldap" "order" = some (.int 2) ∧ after.value? "ldap" "note" = some .null) ∧
    ((after.get? "desk").isSome = true ∧
      StagingCall.apply items (.merge "desk" Bag.empty) = items.insert "desk" Bag.empty) ∧
    others.edits = batch.edits ∧ batch.mergeInto after = after := by
  intro place address later calls items batch others after
  obtain ⟨-, present, created, last, -, twice, exchange⟩ := staging_applies_stepwise calls
  have apart : place.Disjoint address := by
    intro key
    by_cases url : key = "url"
    · exact .inl (by rw [url]; rfl)
    · exact .inr (by simp [address, Table.get?_ofList, Table.lastOf, url])
  have listed : "desk" ∈ calls.filterMap StagingCall.item? := by decide +kernel
  have order : StagingCall.lastValue? calls "ldap" "order" = some (.int 2) := by rfl
  have note : StagingCall.lastValue? calls "ldap" "note" = none := by rfl
  have noted : items.value? "ldap" "note" = some .null := by rfl
  obtain ⟨staged, -⟩ := exchange [] _ "ldap" "ldap" place address rfl fun _ => apart
  refine ⟨⟨?_, ?_⟩, ⟨(present items "desk").2 (.inl listed), ?_⟩, staged, twice items⟩
  · rw [last, order]
    rfl
  · rw [last, note, noted]
    rfl
  · exact created items "desk" Bag.empty (by rfl)

end IdentityChain
