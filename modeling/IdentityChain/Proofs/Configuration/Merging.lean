import IdentityChain.Configuration.Store

/-!
# What a merge writes

A batch read key by key: a property that it stages is replaced, every other one
stays (`value?_mergeInto`), and an item that it stages is there afterwards
(`isSome_get?_mergeInto`). Items and properties that a batch does not name are
out of its reach, whatever else it holds.
-/

namespace IdentityChain

namespace Configuration

/-- The value of a property of an item. -/
def value? (items : Configuration) (name key : String) : Option Json :=
  (items.get? name).bind (·.get? key)

/-- Configurations of the same items with the same properties are equal. -/
theorem ext_value? {items others : Configuration}
    (present : ∀ name, (items.get? name).isSome = (others.get? name).isSome)
    (same : ∀ name key, items.value? name key = others.value? name key) : items = others := by
  refine Table.ext_get? fun name => ?_
  have present := present name
  have same := same name
  unfold value? at same
  cases found : items.get? name with
  | none =>
    rw [found] at present
    exact (Option.not_isSome_iff_eq_none.1 (Bool.eq_false_iff.1 present.symm)).symm
  | some bag =>
    rw [found] at present same
    obtain ⟨other, found'⟩ := Option.isSome_iff_exists.1 present.symm
    rw [found'] at same
    rw [found', Option.some_inj]
    exact Table.ext_get? same

end Configuration

namespace Batch

variable {items : Configuration}

/-- What becomes of an item under an edit of it. -/
def edited (edit : Bag) : Option Bag → Bag
  | some current => current.merge edit
  | none => edit

/-- The edit decides the properties that it names. -/
theorem get?_edited (edit : Bag) (current : Option Bag) (key : String) :
    (edited edit current).get? key = (edit.get? key).or (current.bind (·.get? key)) := by
  cases current with
  | none =>
    show edit.get? key = (edit.get? key).or none
    rw [Option.or_none]
  | some bag => exact Table.get?_merge bag edit key

theorem get?_applyEdit (items : Configuration) (name : String) (edit : Bag) (other : String) :
    (applyEdit items name edit).get? other =
      if other = name then some (edited edit (items.get? name)) else items.get? other := by
  rw [applyEdit, Table.get?_alter]
  rfl

/-- A property takes its value from the edit of its item, or else keeps it. -/
theorem value?_applyEdit (items : Configuration) (name : String) (edit : Bag)
    (other key : String) :
    (applyEdit items name edit).value? other key =
      if other = name then (edit.get? key).or (items.value? name key)
      else items.value? other key := by
  unfold Configuration.value?
  rw [get?_applyEdit]
  by_cases here : other = name
  · rw [if_pos here, if_pos here]
    exact get?_edited edit (items.get? name) key
  · rw [if_neg here, if_neg here]

/-- An edit is staged over what is staged for its item already. -/
theorem edits_merge (batch : Batch) (name : String) (edit : Bag) :
    (batch.merge name edit).edits = applyEdit batch.edits name edit := rfl

theorem get?_edits_merge (batch : Batch) (name : String) (edit : Bag) (other : String) :
    (batch.merge name edit).edits.get? other =
      if other = name then some (edited edit (batch.edits.get? name))
      else batch.edits.get? other := by
  rw [edits_merge, get?_applyEdit]

theorem value?_edits_merge (batch : Batch) (name : String) (edit : Bag) (other key : String) :
    Configuration.value? (batch.merge name edit).edits other key =
      if other = name then (edit.get? key).or (Configuration.value? batch.edits name key)
      else Configuration.value? batch.edits other key := by
  rw [edits_merge, value?_applyEdit]

/-- The edits of a batch are under different names, so each meets the item as it was. -/
theorem get?_mergeInto (batch : Batch) (items : Configuration) (name : String) :
    (batch.mergeInto items).get? name =
      match batch.edits.get? name with
      | some edit => some (edited edit (items.get? name))
      | none => items.get? name := by
  obtain ⟨⟨edits, ascending⟩, required⟩ := batch
  show (edits.foldl _ items).get? name = match edits.lookup name with
    | some edit => some (edited edit (items.get? name))
    | none => items.get? name
  clear required
  induction edits generalizing items with
  | nil => rfl
  | cons entry rest ih =>
    obtain ⟨first, edit⟩ := entry
    obtain ⟨least, ascending⟩ := List.pairwise_cons.1 ascending
    rw [List.foldl_cons, ih _ ascending, get?_applyEdit, Table.lookup_cons_ite]
    by_cases here : name = first
    · subst here
      rw [Table.lookup_eq_none_of_lt least, if_pos rfl, if_pos rfl]
    · rw [if_neg here, if_neg here]

/-- A property takes its value from the batch, or else keeps it. -/
theorem value?_mergeInto (batch : Batch) (items : Configuration) (name key : String) :
    (batch.mergeInto items).value? name key =
      (Configuration.value? batch.edits name key).or (items.value? name key) := by
  unfold Configuration.value?
  rw [get?_mergeInto]
  cases batch.edits.get? name with
  | none => rfl
  | some edit => exact get?_edited edit (items.get? name) key

/-- An item is there if it was or is staged. -/
theorem isSome_get?_mergeInto (batch : Batch) (items : Configuration) (name : String) :
    ((batch.mergeInto items).get? name).isSome =
      ((batch.edits.get? name).isSome || (items.get? name).isSome) := by
  rw [get?_mergeInto]
  cases batch.edits.get? name with
  | none => rfl
  | some edit => rfl

end Batch

/-! ## Requirements -/

/-- No other value counts as equal to an integer. -/
theorem Json.equal_int_iff {value : Json} {n : Int} :
    value.equal (.int n) = true ↔ value = .int n := by
  rw [equal_iff]
  cases value with
  | int m => rfl
  | _ => constructor <;> intro h <;> cases h

namespace Requirement

/-- The property is there and holds an equal value. -/
def Holds (need : Requirement) (items : Configuration) : Prop :=
  ∃ current, items.value? need.item need.key = some current ∧ current.equal need.value = true

theorem isMetBy_iff {need : Requirement} {items : Configuration} :
    need.isMetBy items = true ↔ need.Holds items := by
  unfold isMetBy Holds Configuration.value?
  cases (items.get? need.item).bind (·.get? need.key) with
  | none => simp
  | some current => simp

/-- An integer is required to stand there as it is written. -/
theorem holds_int_iff {item key : String} {n : Int} {items : Configuration} :
    (Requirement.mk item key (.int n)).Holds items ↔ items.value? item key = some (.int n) := by
  simp only [Holds, Json.equal_int_iff, exists_eq_right]

theorem isMetBy_ofInt64 {item key : String} {n : Int64} {items : Configuration} :
    (Requirement.mk item key (.ofInt64 n)).isMetBy items = true ↔
      items.value? item key = some (.ofInt64 n) := isMetBy_iff.trans holds_int_iff

/-- Where a double is required, a double stands. -/
theorem Holds.float {item key : String} {x : Binary64} {items : Configuration}
    (holds : (Requirement.mk item key (.float x)).Holds items) :
    ∃ y, items.value? item key = some (.float y) := by
  obtain ⟨current, found, equal⟩ := holds
  rw [Json.equal_iff] at equal
  cases current with
  | float y => exact ⟨y, found⟩
  | _ => cases equal

end Requirement

end IdentityChain
