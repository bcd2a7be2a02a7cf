import IdentityChain.Proofs.Configuration.Arranging
import IdentityChain.Registry.Basic
import Mathlib.Data.List.Nodup
import Mathlib.Logic.Equiv.Basic

/-!
# Exchanging two orders

What the batch of an exchange requires and what it writes. Its requirements are
that both items still carry the orders that were read, so where it is accepted
it writes each of them under the other name and nothing else
(`exchanged_of_isMetBy`). The items may be the same: their two requirements then
speak of one value, and their two edits are one. An exchange permutes the orders
that stand in the configuration (`Exchanged.orders_perm`), and a second one
undoes it (`Exchanged.undone`).
-/

namespace IdentityChain

namespace Configuration

/-- The orders of all items, as they are written. -/
def orders (items : Configuration) : List Json :=
  items.entries.filterMap fun entry => entry.2.get? Bag.orderKey

theorem orders_eq (items : Configuration) :
    items.orders = items.keys.filterMap (items.value? · Bag.orderKey) := by
  rw [orders, Table.keys, List.filterMap_map]
  refine List.filterMap_congr fun entry mem => ?_
  have found : items.get? entry.1 = some entry.2 := Table.mem_entries_iff.1 mem
  show _ = items.value? entry.1 Bag.orderKey
  rw [value?, found]
  rfl

/-- The order that an item carries, if it is there and carries one. -/
def order? (items : Configuration) (name : String) : Option Int64 :=
  (items.get? name).bind Bag.order?

theorem order?_eq (items : Configuration) (name : String) :
    items.order? name = (items.value? name Bag.orderKey).bind Json.asInt64? := by
  rw [value?, Option.bind_assoc]
  rfl

/-- An order that can be read is written as that integer. -/
theorem order?_eq_some_iff {items : Configuration} {name : String} {order : Int64} :
    items.order? name = some order ↔ items.value? name Bag.orderKey = some (.ofInt64 order) := by
  rw [order?_eq, Option.bind_eq_some_iff]
  simp only [Json.asInt64?_eq_some_iff, exists_eq_right]

theorem isSome_get?_of_value? {items : Configuration} {name key : String} {value : Json}
    (h : items.value? name key = some value) : (items.get? name).isSome = true := by
  obtain ⟨bag, found, -⟩ := Option.bind_eq_some_iff.1 h
  rw [found]
  rfl

end Configuration

/-- The orders of two items are exchanged, and nothing else differs. -/
structure Exchanged (first second : String) (before after : Configuration) : Prop where
  first_order : after.value? first Bag.orderKey = before.value? second Bag.orderKey
  second_order : after.value? second Bag.orderKey = before.value? first Bag.orderKey
  /-- Every other property of every item is the same. -/
  others : ∀ name key, ¬ (key = Bag.orderKey ∧ (name = first ∨ name = second)) →
    after.value? name key = before.value? name key
  /-- No item comes or goes. -/
  present : ∀ name, (after.get? name).isSome = (before.get? name).isSome

namespace Exchanged

variable {first second : String} {before after : Configuration}

/-- Every order is found where the exchange of the two names points. -/
theorem value?_swap (exchanged : Exchanged first second before after) (name : String) :
    after.value? name Bag.orderKey =
      before.value? (Equiv.swap first second name) Bag.orderKey := by
  rw [Equiv.swap_apply_def]
  by_cases isFirst : name = first
  · rw [if_pos isFirst, isFirst]
    exact exchanged.first_order
  · rw [if_neg isFirst]
    by_cases isSecond : name = second
    · rw [if_pos isSecond, isSecond]
      exact exchanged.second_order
    · rw [if_neg isSecond]
      refine exchanged.others name Bag.orderKey ?_
      rintro ⟨-, either⟩
      exact either.elim isFirst isSecond

/-- An item carries the order of the one that it is exchanged with. -/
theorem order?_swap (exchanged : Exchanged first second before after) (name : String) :
    after.order? name = before.order? (Equiv.swap first second name) := by
  rw [Configuration.order?_eq, Configuration.order?_eq, exchanged.value?_swap]

theorem comm (exchanged : Exchanged first second before after) :
    Exchanged second first before after where
  first_order := exchanged.second_order
  second_order := exchanged.first_order
  others name key other := exchanged.others name key fun ⟨isOrder, either⟩ =>
    other ⟨isOrder, either.symm⟩
  present := exchanged.present

theorem symm (exchanged : Exchanged first second before after) :
    Exchanged first second after before where
  first_order := exchanged.second_order.symm
  second_order := exchanged.first_order.symm
  others name key other := (exchanged.others name key other).symm
  present name := (exchanged.present name).symm

/-- There is one way to exchange two orders. -/
theorem unique {other : Configuration} (exchanged : Exchanged first second before after)
    (exchanged' : Exchanged first second before other) : other = after := by
  refine Configuration.ext_value? (fun name => ?_) fun name key => ?_
  · rw [exchanged.present, exchanged'.present]
  · by_cases isOrder : key = Bag.orderKey
    · rw [isOrder, exchanged.value?_swap, exchanged'.value?_swap]
    · rw [exchanged.others name key fun moved => isOrder moved.1,
        exchanged'.others name key fun moved => isOrder moved.1]

/-- Exchanging two orders twice leaves everything as it was. -/
theorem undone {last : Configuration} (exchanged : Exchanged first second before after)
    (again : Exchanged first second after last) : last = before :=
  exchanged.symm.unique again

/-- An exchange is an edit of the two orders. -/
theorem differsAt (exchanged : Exchanged first second before after) {keys : List String}
    (order : Bag.orderKey ∈ keys) : before.DiffersAt [first, second] keys after where
  present := exchanged.present
  others name key outside := by
    refine exchanged.others name key ?_
    rintro ⟨rfl, either⟩
    refine outside ⟨?_, order⟩
    rcases either with rfl | rfl
    · exact List.mem_cons_self
    · exact List.mem_cons_of_mem _ List.mem_cons_self

theorem keys_perm (exchanged : Exchanged first second before after)
    (hasFirst : (before.get? first).isSome = true)
    (hasSecond : (before.get? second).isSome = true) :
    (after.keys.map (Equiv.swap first second)).Perm before.keys := by
  have nodup : (after.keys.map (Equiv.swap first second)).Nodup :=
    after.keys_nodup.map (Equiv.injective _)
  refine (List.perm_ext_iff_of_nodup nodup before.keys_nodup).2 fun name => ?_
  rw [List.mem_map_of_involutive (Equiv.swap_apply_self first second), Table.mem_keys_iff,
    Table.mem_keys_iff, exchanged.present, Equiv.swap_apply_def]
  by_cases isFirst : name = first
  · rw [if_pos isFirst, isFirst, hasFirst, hasSecond]
  · rw [if_neg isFirst]
    by_cases isSecond : name = second
    · rw [if_pos isSecond, isSecond, hasFirst, hasSecond]
    · rw [if_neg isSecond]

/-- The same orders stand in the configuration, each as often as before. -/
theorem orders_perm (exchanged : Exchanged first second before after)
    (hasFirst : (before.get? first).isSome = true)
    (hasSecond : (before.get? second).isSome = true) : after.orders.Perm before.orders := by
  have moved : after.orders =
      (after.keys.map (Equiv.swap first second)).filterMap (before.value? · Bag.orderKey) := by
    rw [Configuration.orders_eq, List.filterMap_map]
    exact List.filterMap_congr fun name _ => exchanged.value?_swap name
  rw [moved, before.orders_eq]
  exact (exchanged.keys_perm hasFirst hasSecond).filterMap _

end Exchanged

namespace Registry

variable {first second : String} {firstOrder secondOrder : Int64} {items : Configuration}

/-- The exchange names no property but the two orders. If the items are the same, the second edit
wins. -/
theorem value?_edits_exchange (name key : String) :
    Configuration.value? (exchange first second firstOrder secondOrder).edits name key =
      if key = Bag.orderKey then
        if name = second then some (.ofInt64 firstOrder)
        else if name = first then some (.ofInt64 secondOrder) else none
      else none := by
  have order : ∀ n : Int64, (Bag.empty.withOrder (some n)).get? key =
      if key = Bag.orderKey then some (.ofInt64 n) else none := by
    intro n
    rw [Bag.withOrder, Table.get?_insert]
    rfl
  have unstaged : ∀ other, Configuration.value? Batch.empty.edits other key = none := fun _ => rfl
  show Configuration.value? ((Batch.empty.merge first _).merge second _).edits name key = _
  rw [Batch.value?_edits_merge, Batch.value?_edits_merge, Batch.value?_edits_merge, order, order]
  by_cases isOrder : key = Bag.orderKey
  · rw [if_pos isOrder, if_pos isOrder, if_pos isOrder]
    by_cases isSecond : name = second
    · rw [if_pos isSecond, if_pos isSecond]
      rfl
    · rw [if_neg isSecond, if_neg isSecond]
      rfl
  · rw [if_neg isOrder, if_neg isOrder, if_neg isOrder]
    simp only [Option.none_or, unstaged, ite_self]

theorem isSome_edits_exchange {name : String}
    (h : ((exchange first second firstOrder secondOrder).edits.get? name).isSome = true) :
    name = first ∨ name = second := by
  have staged : ((Batch.empty.merge first (Bag.empty.withOrder (some secondOrder))).merge second
      (Bag.empty.withOrder (some firstOrder))).edits.get? name ≠ none :=
    Option.isSome_iff_ne_none.1 h
  rw [Batch.get?_edits_merge] at staged
  by_cases isSecond : name = second
  · exact .inr isSecond
  · rw [if_neg isSecond, Batch.get?_edits_merge] at staged
    by_cases isFirst : name = first
    · exact .inl isFirst
    · rw [if_neg isFirst] at staged
      exact (staged rfl).elim

/-- The exchange is possible where both items still carry the orders that were read. -/
theorem isMetBy_exchange :
    (exchange first second firstOrder secondOrder).isMetBy items = true ↔
      items.value? first Bag.orderKey = some (.ofInt64 firstOrder) ∧
        items.value? second Bag.orderKey = some (.ofInt64 secondOrder) := by
  show [Requirement.mk first Bag.orderKey (.ofInt64 firstOrder),
    Requirement.mk second Bag.orderKey (.ofInt64 secondOrder)].all (·.isMetBy items) = true ↔ _
  simp only [List.all_cons, List.all_nil, Bool.and_true, Bool.and_eq_true,
    Requirement.isMetBy_ofInt64]

/-- Where the exchange is possible, merging it exchanges the two orders that stand there. -/
theorem exchanged_of_isMetBy
    (met : (exchange first second firstOrder secondOrder).isMetBy items = true) :
    Exchanged first second items
      ((exchange first second firstOrder secondOrder).mergeInto items) := by
  obtain ⟨firstNow, secondNow⟩ := isMetBy_exchange.1 met
  constructor
  case first_order =>
    rw [Batch.value?_mergeInto, value?_edits_exchange, if_pos rfl, secondNow]
    by_cases same : first = second
    · rw [if_pos same]
      rw [same] at firstNow
      exact firstNow.symm.trans secondNow
    · rw [if_neg same, if_pos rfl]
      rfl
  case second_order =>
    rw [Batch.value?_mergeInto, value?_edits_exchange, if_pos rfl, if_pos rfl, firstNow]
    rfl
  case others =>
    intro name key other
    rw [Batch.value?_mergeInto, value?_edits_exchange]
    by_cases isOrder : key = Bag.orderKey
    · have isSecond : name ≠ second := fun eq => other ⟨isOrder, .inr eq⟩
      have isFirst : name ≠ first := fun eq => other ⟨isOrder, .inl eq⟩
      rw [if_pos isOrder, if_neg isSecond, if_neg isFirst]
      rfl
    · rw [if_neg isOrder]
      rfl
  case present =>
    intro name
    rw [Batch.isSome_get?_mergeInto]
    cases staged : ((exchange first second firstOrder secondOrder).edits.get? name).isSome with
    | false => rfl
    | true =>
      -- Both items that are staged are there: their orders were found.
      rcases isSome_edits_exchange staged with rfl | rfl
      · rw [Configuration.isSome_get?_of_value? firstNow]
        rfl
      · rw [Configuration.isSome_get?_of_value? secondNow]
        rfl

end Registry

end IdentityChain
