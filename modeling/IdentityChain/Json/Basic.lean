import IdentityChain.Decimal.Binary64
import IdentityChain.Table.Basic

/-!
# JSON values

A JSON value as configuration holds it. A number is an integer or a double, and
the two are never equal. The fields of an object stand in ascending key order
wherever a value is made, so equality of values is plain equality; it is
decided by `Json.same`. Configuration is compared by `Json.equal`, for which
the two zeros among the doubles are one.
-/

namespace IdentityChain

/-- A JSON value. -/
inductive Json where
  | null
  | bool (b : Bool)
  | int (n : Int)
  | float (x : Binary64)
  | str (s : String)
  | arr (elements : List Json)
  | obj (fields : List (String × Json))

namespace Json

mutual

/-- Whether two values are the same. -/
def same : Json → Json → Bool
  | .null, .null => true
  | .bool a, .bool b => a == b
  | .int a, .int b => a == b
  | .float a, .float b => a == b
  | .str a, .str b => a == b
  | .arr xs, .arr ys => sameAll xs ys
  | .obj xs, .obj ys => sameFields xs ys
  | _, _ => false
termination_by structural a => a

/-- Whether two lists hold the same values. -/
def sameAll : List Json → List Json → Bool
  | [], [] => true
  | x :: xs, y :: ys => same x y && sameAll xs ys
  | _, _ => false
termination_by structural xs => xs

/-- Whether two lists hold the same fields. -/
def sameFields : List (String × Json) → List (String × Json) → Bool
  | [], [] => true
  | x :: xs, y :: ys => sameField x y && sameFields xs ys
  | _, _ => false
termination_by structural xs => xs

/-- Whether two fields have the same key and value. -/
def sameField : String × Json → String × Json → Bool
  | (k, x), (j, y) => k == j && same x y
termination_by structural a => a

end

mutual

theorem same_iff : ∀ a b : Json, same a b = true ↔ a = b
  | .null, b => by cases b <;> simp [same]
  | .bool _, b => by cases b <;> simp [same]
  | .int _, b => by cases b <;> simp [same]
  | .float _, b => by cases b <;> simp [same]
  | .str _, b => by cases b <;> simp [same]
  | .arr xs, b => by cases b <;> simp [same, sameAll_iff xs]
  | .obj xs, b => by cases b <;> simp [same, sameFields_iff xs]

theorem sameAll_iff : ∀ xs ys : List Json, sameAll xs ys = true ↔ xs = ys
  | [], ys => by cases ys <;> simp [sameAll]
  | x :: xs, ys => by cases ys <;> simp [sameAll, same_iff x, sameAll_iff xs]

theorem sameFields_iff : ∀ xs ys : List (String × Json), sameFields xs ys = true ↔ xs = ys
  | [], ys => by cases ys <;> simp [sameFields]
  | x :: xs, ys => by cases ys <;> simp [sameFields, sameField_iff x, sameFields_iff xs]

theorem sameField_iff : ∀ a b : String × Json, sameField a b = true ↔ a = b
  | (_, x), (_, _) => by simp [sameField, same_iff x]

end

instance : DecidableEq Json := fun a b => decidable_of_iff _ (same_iff a b)

instance : Inhabited Json := ⟨.null⟩

mutual

/-- The value with a plain zero for every negative zero. -/
def unsignedZeros : Json → Json
  | .null => .null
  | .bool b => .bool b
  | .int n => .int n
  | .float x => .float (if x.significand = 0 then .zero else x)
  | .str s => .str s
  | .arr elements => .arr (unsignedZerosAll elements)
  | .obj fields => .obj (unsignedZerosFields fields)
termination_by structural value => value

/-- The values of a list with plain zeros. -/
def unsignedZerosAll : List Json → List Json
  | [] => []
  | value :: rest => unsignedZeros value :: unsignedZerosAll rest
termination_by structural values => values

/-- The fields of an object with plain zeros. -/
def unsignedZerosFields : List (String × Json) → List (String × Json)
  | [] => []
  | field :: rest => unsignedZerosField field :: unsignedZerosFields rest
termination_by structural fields => fields

/-- One field with plain zeros. -/
def unsignedZerosField : String × Json → String × Json
  | (key, value) => (key, unsignedZeros value)
termination_by structural field => field

end

/-- Whether two values are equal as numbers and texts are: up to the sign of zeros. -/
def equal (a b : Json) : Bool := a.unsignedZeros.same b.unsignedZeros

theorem equal_iff {a b : Json} : a.equal b = true ↔ a.unsignedZeros = b.unsignedZeros :=
  same_iff _ _

@[simp] theorem equal_self (a : Json) : a.equal a = true := equal_iff.2 rfl

/-- The text of a string value. -/
def asString? : Json → Option String
  | .str s => some s
  | _ => none

/-- The truth value of a Boolean. -/
def asBool? : Json → Option Bool
  | .bool b => some b
  | _ => none

/-- A JSON object of some fields. -/
def ofFields (fields : List (String × Json)) : Json := .obj (Table.ofList fields).entries

end Json

end IdentityChain
