import IdentityChain.Configuration.Item
import IdentityChain.Proofs.Configuration.Merging
import Mathlib.Data.List.Induction

/-!
# Arranging items

Staging a list of updates collapses it: of several updates of one item the last
decides both the place and the switch (`Batch.value?_edits_stageAll`). Merged
into a configuration that has all the listed items, the staged batch gives each
of them its last update and leaves everything else (`Batch.arranged_mergeInto`).

`Configuration.DiffersAt` bounds what an edit of any kind may touch: some keys of
some items.
-/

namespace IdentityChain

/-! ## Bounded edits -/

/-- Only the named items differ, under the given keys. -/
structure Configuration.DiffersAt (names keys : List String) (before after : Configuration) :
    Prop where
  /-- Every other property of every item is the same. -/
  others : ∀ name key, ¬ (name ∈ names ∧ key ∈ keys) →
    after.value? name key = before.value? name key
  /-- No item comes or goes. -/
  present : ∀ name, (after.get? name).isSome = (before.get? name).isSome

namespace Configuration.DiffersAt

variable {names keys : List String} {before after : Configuration}

theorem symm (differs : DiffersAt names keys before after) : DiffersAt names keys after before where
  others name key outside := (differs.others name key outside).symm
  present name := (differs.present name).symm

/-- An item is still there, with the same properties outside the keys. -/
theorem get?_eq_some (differs : DiffersAt names keys before after) {name : String} {bag : Bag}
    (found : before.get? name = some bag) :
    ∃ other : Bag, after.get? name = some other ∧
      ∀ key, ¬ (name ∈ names ∧ key ∈ keys) → other.get? key = bag.get? key := by
  have present := differs.present name
  rw [found] at present
  obtain ⟨other, kept⟩ := Option.isSome_iff_exists.1 present
  refine ⟨other, kept, fun key outside => ?_⟩
  have same := differs.others name key outside
  rw [value?, value?, kept, found] at same
  exact same

/-- An item that is not named is the same. -/
theorem get?_eq_some_of_notMem (differs : DiffersAt names keys before after) {name : String}
    {bag : Bag} (found : before.get? name = some bag) (unnamed : name ∉ names) :
    after.get? name = some bag := by
  obtain ⟨other, kept, same⟩ := differs.get?_eq_some found
  have eq : other = bag := Table.ext_get? fun key => same key fun named => unnamed named.1
  rw [kept, eq]

end Configuration.DiffersAt

/-! ## Updates -/

/-- The keys of an item's place and switch. -/
def Bag.placeKeys : List String := [orderKey, enabledKey]

/-- The place and the switch that a bag is read to have, however they are written. -/
def Bag.place (bag : Bag) : Option Int64 × Bool := (bag.order?, bag.enabled)

/-- Every item is read to have the same place and switch in both configurations. -/
def Configuration.PlacedAlike (before after : Configuration) : Prop :=
  ∀ name, (after.get? name).map Bag.place = (before.get? name).map Bag.place

/-- An order that is written is read back, and null is read as none. -/
theorem Json.asInt64?_ofOrder (order : Option Int64) : (Json.ofOrder order).asInt64? = order := by
  cases order with
  | none => rfl
  | some n => exact Json.asInt64?_ofInt64 n

namespace ItemUpdate

theorem get?_edit_order (update : ItemUpdate) :
    update.edit.get? Bag.orderKey = some (.ofOrder update.order) := by
  have other : ¬ Bag.orderKey = Bag.enabledKey := by decide
  rw [edit, Bag.withEnabled, Table.get?_insert, if_neg other, Bag.withOrder,
    Table.get?_insert_self]

theorem get?_edit_enabled (update : ItemUpdate) :
    update.edit.get? Bag.enabledKey = some (.bool update.enabled) := by
  rw [edit, Bag.withEnabled, Table.get?_insert_self]

theorem get?_edit_of_notMem (update : ItemUpdate) {key : String} (other : key ∉ Bag.placeKeys) :
    update.edit.get? key = none := by
  have notOrder : ¬ key = Bag.orderKey := fun eq => other (eq ▸ .head _)
  have notEnabled : ¬ key = Bag.enabledKey := fun eq => other (eq ▸ .tail _ (.head _))
  rw [edit, Bag.withEnabled, Table.get?_insert, if_neg notEnabled, Bag.withOrder,
    Table.get?_insert, if_neg notOrder]
  rfl

theorem isSome_get?_edit (update : ItemUpdate) {key : String} (written : key ∈ Bag.placeKeys) :
    (update.edit.get? key).isSome = true := by
  rcases List.mem_cons.1 written with rfl | written
  · rw [get?_edit_order]
    rfl
  · rw [List.mem_singleton.1 written, get?_edit_enabled]
    rfl

/-- The last update of an item. -/
def last? (updates : List ItemUpdate) (name : String) : Option ItemUpdate :=
  (updates.filter (·.name = name)).getLast?

theorem last?_concat (updates : List ItemUpdate) (update : ItemUpdate) (name : String) :
    last? (updates ++ [update]) name =
      if update.name = name then some update else last? updates name := by
  rw [last?, List.filter_append, List.filter_cons]
  by_cases here : update.name = name
  · rw [if_pos here, decide_eq_true here]
    exact List.getLast?_concat
  · rw [if_neg here, decide_eq_false here, last?]
    exact congrArg List.getLast? (List.append_nil _)

/-- The last update of an item is one of its updates. -/
theorem mem_of_last? {updates : List ItemUpdate} {name : String} {update : ItemUpdate}
    (last : last? updates name = some update) : update ∈ updates ∧ update.name = name := by
  have kept := List.mem_filter.1 (List.mem_of_getLast? last)
  exact ⟨kept.1, of_decide_eq_true kept.2⟩

/-- An item has a last update if it has any. -/
theorem isSome_last? {updates : List ItemUpdate} {name : String} :
    (last? updates name).isSome = true ↔ name ∈ updates.map (·.name) := by
  rw [last?, List.getLast?_isSome, ne_eq, List.filter_eq_nil_iff, List.mem_map]
  simp only [decide_eq_true_iff, not_forall, not_not, exists_prop]

end ItemUpdate

/-- The listed items have the places and the switches of their last updates, and nothing else
differs. -/
structure Arranged (updates : List ItemUpdate) (before after : Configuration) : Prop
    extends before.DiffersAt (updates.map (·.name)) Bag.placeKeys after where
  ordered : ∀ {name update} {n : Int64}, ItemUpdate.last? updates name = some update →
    update.order = some n → after.value? name Bag.orderKey = some (.int n.toInt)
  /-- No order is kept as null. -/
  unordered : ∀ {name update}, ItemUpdate.last? updates name = some update →
    update.order = none → after.value? name Bag.orderKey = some .null
  enabled : ∀ {name update}, ItemUpdate.last? updates name = some update →
    after.value? name Bag.enabledKey = some (.bool update.enabled)

namespace Arranged

variable {updates : List ItemUpdate} {before after : Configuration}

/-- The order of an arranged item is that of its last update. -/
theorem value?_order (arranged : Arranged updates before after) {name : String}
    {update : ItemUpdate} (last : ItemUpdate.last? updates name = some update) :
    after.value? name Bag.orderKey = some (.ofOrder update.order) := by
  cases order : update.order with
  | some n => exact arranged.ordered last order
  | none => exact arranged.unordered last order

/-- An arranged item is read to have the place and the switch of its last update. -/
theorem place_eq (arranged : Arranged updates before after) {name : String} {update : ItemUpdate}
    {bag : Bag} (last : ItemUpdate.last? updates name = some update)
    (found : after.get? name = some bag) : bag.place = (update.order, update.enabled) := by
  have order := arranged.value?_order last
  have enabled := arranged.enabled last
  rw [Configuration.value?, found] at order enabled
  change bag.get? Bag.orderKey = _ at order
  change bag.get? Bag.enabledKey = _ at enabled
  rw [Bag.place, Bag.order?, order, Bag.enabled, enabled]
  exact congrArg (·, update.enabled) (Json.asInt64?_ofOrder update.order)

/-- Updates that say what is read of their items leave every place and switch as it is read. -/
theorem placedAlike (arranged : Arranged updates before after)
    (read : ∀ update ∈ updates,
      (before.get? update.name).map Bag.place = some (update.order, update.enabled)) :
    before.PlacedAlike after := by
  intro name
  cases found : after.get? name with
  | none =>
    have absent : before.get? name = none := by
      rw [← Option.not_isSome_iff_eq_none, ← arranged.present, found]
      exact Bool.false_ne_true
    rw [absent]
  | some bag =>
    cases last : ItemUpdate.last? updates name with
    | some update =>
      obtain ⟨listed, rfl⟩ := ItemUpdate.mem_of_last? last
      rw [read update listed, ← arranged.place_eq last found]
      rfl
    | none =>
      have unlisted : name ∉ updates.map (·.name) := by
        intro listed
        have some := ItemUpdate.isSome_last?.2 listed
        rw [last] at some
        cases some
      rw [arranged.symm.get?_eq_some_of_notMem found unlisted]

end Arranged

/-! ## Staging -/

namespace Batch

/-- The batch with some updates staged, in order. -/
def stageAll (batch : Batch) (updates : List ItemUpdate) : Batch :=
  updates.foldl (fun batch update => batch.merge update.name update.edit) batch

theorem stageAll_concat (batch : Batch) (updates : List ItemUpdate) (update : ItemUpdate) :
    batch.stageAll (updates ++ [update]) =
      (batch.stageAll updates).merge update.name update.edit := by
  rw [stageAll, List.foldl_append]
  rfl

/-- Updates require nothing. -/
theorem required_stageAll (batch : Batch) (updates : List ItemUpdate) :
    (batch.stageAll updates).required = batch.required := by
  induction updates generalizing batch with
  | nil => rfl
  | cons update rest ih => exact ih _

theorem isMetBy_stageAll (updates : List ItemUpdate) (items : Configuration) :
    (empty.stageAll updates).isMetBy items = true := by
  rw [isMetBy, required_stageAll]
  rfl

/-- The last update of an item decides both keys, as every update writes them both. -/
theorem value?_edits_stageAll (updates : List ItemUpdate) (name key : String) :
    Configuration.value? (empty.stageAll updates).edits name key =
      (ItemUpdate.last? updates name).bind (·.edit.get? key) := by
  induction updates using List.reverseRecOn with
  | nil => rfl
  | append_singleton updates update ih =>
    rw [stageAll_concat, value?_edits_merge, ItemUpdate.last?_concat]
    by_cases here : name = update.name
    · rw [if_pos here, if_pos here.symm, ← here, ih]
      show (update.edit.get? key).or _ = update.edit.get? key
      by_cases written : key ∈ Bag.placeKeys
      · exact Option.or_of_isSome (update.isSome_get?_edit written)
      · -- What no update writes is not staged by the earlier ones either.
        rw [update.get?_edit_of_notMem written, Option.none_or]
        cases ItemUpdate.last? updates name with
        | none => rfl
        | some earlier => exact earlier.get?_edit_of_notMem written
    · have elsewhere : ¬ update.name = name := fun eq => here eq.symm
      rw [if_neg here, if_neg elsewhere, ih]

/-- The listed items are staged, and no others. -/
theorem isSome_edits_stageAll (updates : List ItemUpdate) (name : String) :
    ((empty.stageAll updates).edits.get? name).isSome = true ↔ name ∈ updates.map (·.name) := by
  induction updates using List.reverseRecOn with
  | nil =>
    constructor
    · intro staged
      cases staged
    · intro listed
      cases listed
  | append_singleton updates update ih =>
    rw [stageAll_concat, get?_edits_merge, List.map_append, List.mem_append, ← ih]
    by_cases here : name = update.name
    · rw [if_pos here]
      exact iff_of_true rfl (.inr (List.mem_singleton.2 here))
    · rw [if_neg here]
      exact ⟨.inl, fun either => either.resolve_right fun last => here (List.mem_singleton.1 last)⟩

/-- Merged where all the listed items are, the staged updates arrange them. -/
theorem arranged_mergeInto {updates : List ItemUpdate} {items : Configuration}
    (present : ∀ update ∈ updates, (items.get? update.name).isSome = true) :
    Arranged updates items ((empty.stageAll updates).mergeInto items) := by
  have written : ∀ {name update}, ItemUpdate.last? updates name = some update →
      ((empty.stageAll updates).mergeInto items).value? name Bag.orderKey =
        some (.ofOrder update.order) := by
    intro name update last
    rw [value?_mergeInto, value?_edits_stageAll, last]
    show (update.edit.get? Bag.orderKey).or _ = _
    rw [update.get?_edit_order]
    rfl
  refine ⟨⟨?others, ?present⟩, fun last order => ?ordered, fun last order => ?unordered, ?enabled⟩
  case others =>
    intro name key other
    rw [value?_mergeInto, value?_edits_stageAll]
    cases last : ItemUpdate.last? updates name with
    | none => rfl
    | some update =>
      have listed : name ∈ updates.map (·.name) :=
        ItemUpdate.isSome_last?.1 (Option.isSome_of_eq_some last)
      have unwritten : key ∉ Bag.placeKeys := fun written => other ⟨listed, written⟩
      show (update.edit.get? key).or _ = _
      rw [update.get?_edit_of_notMem unwritten, Option.none_or]
  case present =>
    intro name
    rw [isSome_get?_mergeInto]
    cases staged : ((empty.stageAll updates).edits.get? name).isSome with
    | false => rfl
    | true =>
      obtain ⟨update, listed, rfl⟩ := List.mem_map.1 ((isSome_edits_stageAll updates name).1 staged)
      rw [present update listed]
      rfl
  case ordered =>
    rw [written last, order]
    rfl
  case unordered =>
    rw [written last, order]
    rfl
  case enabled =>
    intro name update last
    rw [value?_mergeInto, value?_edits_stageAll, last]
    show (update.edit.get? Bag.enabledKey).or _ = _
    rw [update.get?_edit_enabled]
    rfl

end Batch

end IdentityChain
