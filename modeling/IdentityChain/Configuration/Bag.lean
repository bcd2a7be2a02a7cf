import IdentityChain.Json.Decode
import IdentityChain.Table.Lemmas

/-!
# Property bags

The configuration of one item is a bag of JSON values under string keys. Three
keys mean something to the registry: `order` places the item in the priority
sequence, `enabled` lets it take part in the chains, and `type` names the
factory that builds it. All other keys belong to the source that the item
configures.
-/

namespace IdentityChain

/-- The configuration of one item. -/
abbrev Bag := Table Json

/-- All items by name. -/
abbrev Configuration := Table Bag

/-- The integer of a JSON value, if it fits 64 bits with a sign. -/
def Json.asInt64? : Json → Option Int64
  | .int n => if n ∈ IntRange.signed64 then some (Int64.ofInt n) else none
  | _ => none

/-- The JSON value of an integer. -/
def Json.ofInt64 (n : Int64) : Json := .int n.toInt

/-- An integer or null. -/
def Json.ofOrder : Option Int64 → Json
  | some n => .ofInt64 n
  | none => .null

theorem Json.asInt64?_ofInt64 (n : Int64) : (Json.ofInt64 n).asInt64? = some n := by
  simp only [ofInt64, asInt64?, if_pos (IntRange.toInt_mem_signed64 n), Int64.ofInt_toInt]

/-- An integer of 64 bits stands for itself only. -/
theorem Json.asInt64?_eq_some_iff {value : Json} {n : Int64} :
    value.asInt64? = some n ↔ value = .ofInt64 n := by
  constructor
  · intro h
    unfold asInt64? at h
    split at h
    · split at h
      · rename_i m fits
        cases h
        rw [ofInt64, IntRange.toInt_ofInt_of_mem fits]
      · cases h
    · cases h
  · rintro rfl
    exact asInt64?_ofInt64 n

namespace Bag

/-- The key of the item's place in the priority sequence. -/
def orderKey : String := "order"

/-- The key of the item's switch. -/
def enabledKey : String := "enabled"

/-- The key of the item's source kind. -/
def typeKey : String := "type"

/-- The keys that mean something to the registry. -/
def reservedKeys : List String := [orderKey, enabledKey, typeKey]

/-- The bag without properties. -/
def empty : Bag := Table.empty

/-- The item's order, if it is an integer of 64 bits. -/
def order? (bag : Bag) : Option Int64 := (bag.get? orderKey).bind Json.asInt64?

/-- The bag with an order; no order is kept as null. -/
def withOrder (bag : Bag) (order : Option Int64) : Bag := bag.insert orderKey (.ofOrder order)

/-- Whether the item is enabled: it is unless the key holds `false`. -/
def enabled (bag : Bag) : Bool := ((bag.get? enabledKey).bind Json.asBool?).getD true

/-- The bag with the switch on or off. -/
def withEnabled (bag : Bag) (on : Bool) : Bag := bag.insert enabledKey (.bool on)

/-- The kind of source that the item declares. -/
def kind? (bag : Bag) : Option String := (bag.get? typeKey).bind Json.asString?

/-- The bag without the reserved keys. -/
def ownProperties (bag : Bag) : Bag := bag.filterKeys fun key => !reservedKeys.contains key

/-- The bag as a JSON object. -/
def toJson (bag : Bag) : Json := .obj bag.entries

/-- Whether two bags hold equal values under the same keys. -/
def equal (a b : Bag) : Bool := a.toJson.equal b.toJson

/-- Any object is a bag. -/
def decode : Decoder Bag := Decoder.table Decoder.any

/-- An order is an integer under its key. -/
theorem order?_eq_some_iff {bag : Bag} {n : Int64} :
    bag.order? = some n ↔ bag.get? "order" = some (.int n.toInt) := by
  rw [order?, Option.bind_eq_some_iff]
  simp only [Json.asInt64?_eq_some_iff, exists_eq_right]
  rfl

/-- An item is disabled by `false` under its key and by nothing else. -/
theorem enabled_eq_false_iff {bag : Bag} :
    bag.enabled = false ↔ bag.get? "enabled" = some (.bool false) := by
  change ((bag.get? "enabled").bind Json.asBool?).getD true = false ↔ _
  cases bag.get? "enabled" with
  | none => simp
  | some json => cases json <;> simp [Json.asBool?]

/-- A kind is a string under its key. -/
theorem kind?_eq_some_iff {bag : Bag} {kind : String} :
    bag.kind? = some kind ↔ bag.get? "type" = some (.str kind) := by
  change (bag.get? "type").bind Json.asString? = some kind ↔ _
  cases bag.get? "type" with
  | none => simp
  | some json => cases json <;> simp [Json.asString?]

@[simp] theorem order?_withOrder (bag : Bag) (order : Option Int64) :
    (bag.withOrder order).order? = order := by
  cases order with
  | none => simp [order?, withOrder, Json.ofOrder, Json.asInt64?]
  | some n => simp [order?, withOrder, Json.ofOrder, Json.asInt64?_ofInt64]

@[simp] theorem enabled_withEnabled (bag : Bag) (on : Bool) :
    (bag.withEnabled on).enabled = on := by
  simp [enabled, withEnabled, Json.asBool?]

end Bag

namespace Configuration

/-- The configuration as a JSON object of objects. -/
def toJson (items : Configuration) : Json :=
  .obj (items.entries.map fun (name, bag) => (name, bag.toJson))

end Configuration

end IdentityChain
