import IdentityChain.Mapping.Basic

/-!
# Common JSON forms

The forms of types that typed items are made of: any JSON value, integers,
tables of integers, records of scalars, values that may be missing, and tables
under keys that are no strings, which have no JSON text unless they are empty.

The fields of a record are described once, by `ScalarFields`: what reads a
record and what writes it are both taken from that description.
-/

namespace IdentityChain

/-- How a scalar stands in JSON. -/
structure Scalar (α : Type) where
  write : α → Json
  read : Decoder α

namespace Scalar

/-- Texts. -/
def string : Scalar String := ⟨.str, Decoder.string⟩

/-- Truth values. -/
def boolean : Scalar Bool := ⟨.bool, Decoder.boolean⟩

/-- Integers of 64 bits. -/
def int64 : Scalar Int64 := ⟨.ofInt64, Decoder.int64⟩

end Scalar

/-- The fields of a record `ρ` in declaration order, each with its place in the record, around the
function that makes the record. -/
inductive ScalarFields (ρ : Type) : Type → Type 1 where
  | make {α : Type} (record : α) : ScalarFields ρ α
  | andThen {α β : Type} (front : ScalarFields ρ (β → α)) (name : String) (scalar : Scalar β)
      (get : ρ → β) : ScalarFields ρ α

namespace ScalarFields

variable {ρ : Type}

/-- The fields for reading; none of them may be absent. -/
def toFields : {α : Type} → ScalarFields ρ α → Fields α
  | _, .make record => .make record
  | _, .andThen front name scalar _ => .andThen front.toFields (.required name scalar.read)

/-- The fields of a record as they are written. -/
def written : {α : Type} → ScalarFields ρ α → ρ → List (String × Json)
  | _, .make _, _ => []
  | _, .andThen front name scalar get, record =>
    front.written record ++ [(name, scalar.write (get record))]

end ScalarFields

namespace JsonForm

variable {α : Type}

/-- Any JSON value stands for itself. -/
def any : JsonForm Json := ⟨.ok, Decoder.any⟩

/-- Integers of 32 bits. -/
def int32 : JsonForm Int := ⟨fun n => .ok (.int n), Decoder.int32⟩

/-- Tables of integers of 64 bits. -/
def counts : JsonForm (Table Int64) where
  encode counts := .ok (.obj (counts.entries.map fun (key, n) => (key, .ofInt64 n)))
  decode := Decoder.table Decoder.int64

/-- Records of scalars. Keys that are no fields are ignored. -/
def ofRecord (name : String) (fields : ScalarFields α α) : JsonForm α where
  encode record := .ok (.ofFields (fields.written record))
  decode := RecordFormat.decode ⟨name, false, fields.toFields⟩

/-- Values that may be missing; a missing one is null. -/
def nullable (form : JsonForm α) : JsonForm (Option α) where
  encode
    | some value => form.encode value
    | none => .ok .null
  decode := form.decode.nullable

/-- Tables under pairs of integers, as lists of entries. -/
def pairKeyed : JsonForm (List ((Int64 × Int64) × Int64)) where
  encode
    | [] => .ok (.obj [])
    | _ => .error .keyNotString
  decode
    | .obj [] => .ok []
    | .obj ((key, _) :: _) => .error (.wrongType (.str key) (.tuple 2))
    | found => .error (.wrongType found .table)

end JsonForm

end IdentityChain
