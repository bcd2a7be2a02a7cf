import IdentityChain.Fault
import IdentityChain.Json.Record
import Mathlib.Data.List.Forall2

/-!
# What decoders accept

For each decoder, the JSON values that it accepts and what it makes of them. A
record is read field by field: what a field takes from the entries of an object
is `Field.InEntries`, and what it takes from the elements of an array
`Field.InElements`. Every entry of the object is looked at
(`RecordFormat.checkEntries_eq_ok_iff`); a strict record has no entries but
those that a field accepts (`Fields.Admits`).
-/

namespace IdentityChain

variable {α β : Type}

/-! ## Two steps -/

section Results

variable {ε : Type} {result : Except ε α} {b : β}

theorem Except.bind_eq_ok_iff {next : α → Except ε β} :
    result >>= next = .ok b ↔ ∃ a, result = .ok a ∧ next a = .ok b := by
  constructor
  · exact Except.bind_eq_ok
  · rintro ⟨a, rfl, ended⟩
    exact ended

theorem Except.map_eq_ok_iff {f : α → β} :
    result.map f = .ok b ↔ ∃ a, result = .ok a ∧ f a = b := by
  constructor
  · exact Except.map_eq_ok
  · rintro ⟨a, rfl, rfl⟩
    rfl

end Results

/-! ## Values -/

namespace Decoder

theorem string_eq_ok_iff {json : Json} {s : String} : string json = .ok s ↔ json = .str s := by
  cases json <;> simp [string]

theorem boolean_eq_ok_iff {json : Json} {b : Bool} : boolean json = .ok b ↔ json = .bool b := by
  cases json <;> simp [boolean]

/-- Elements are decoded one by one. -/
theorem mapM_eq_ok_iff {decode : Decoder α} {elements : List Json} {values : List α} :
    elements.mapM decode = .ok values ↔
      List.Forall₂ (fun json value => decode json = .ok value) elements values := by
  induction elements generalizing values with
  | nil =>
    constructor
    · rintro ⟨⟩
      exact .nil
    · rintro ⟨⟩
      rfl
  | cons json rest ih =>
    rw [List.mapM_cons]
    constructor
    · intro decoded
      obtain ⟨value, first, decoded⟩ := Except.bind_eq_ok decoded
      obtain ⟨others, tail, decoded⟩ := Except.bind_eq_ok decoded
      cases decoded
      exact .cons first (ih.1 tail)
    · rintro ⟨⟩
      rename_i value others first tail
      rw [first, ih.2 tail]
      rfl

theorem list_eq_ok_iff {decode : Decoder α} {json : Json} {values : List α} :
    list decode json = .ok values ↔ ∃ elements, json = .arr elements ∧
      List.Forall₂ (fun json value => decode json = .ok value) elements values := by
  cases json with
  | arr elements =>
    rw [list, mapM_eq_ok_iff]
    simp
  | _ => simp [list]

theorem list_string_eq_ok_iff {json : Json} {values : List String} :
    list string json = .ok values ↔ json = .arr (values.map .str) := by
  have each : ∀ elements, List.Forall₂ (fun json value => string json = .ok value) elements values ↔
      elements = values.map .str := by
    intro elements
    simp only [string_eq_ok_iff]
    rw [← List.forall₂_map_right_iff (R := Eq), List.forall₂_eq_eq_eq]
  simp only [list_eq_ok_iff, each, exists_eq_right]

theorem variantNamed_eq_ok_iff {variants : List (String × α)} {name : String} {made : α} :
    variantNamed variants name = .ok made ↔ variants.lookup name = some made := by
  unfold variantNamed
  cases variants.lookup name <;> simp

/-- A variant is read from its name, alone or over null. -/
theorem variant_eq_ok_iff {variants : List (String × α)} {json : Json} {made : α} :
    variant variants json = .ok made ↔ ∃ name, variants.lookup name = some made ∧
      (json = .str name ∨ json = .obj [(name, .null)]) := by
  match json with
  | .str name => simp [variant, variantNamed_eq_ok_iff]
  | .obj [(name, content)] =>
    show variantNamed variants name >>= _ = _ ↔ _
    rw [Except.bind_eq_ok_iff]
    constructor
    · rintro ⟨found, named, decoded⟩
      cases content with
      | null =>
        cases decoded
        exact ⟨name, variantNamed_eq_ok_iff.1 named, .inr rfl⟩
      | _ => cases decoded
    · rintro ⟨other, listed, named | named⟩
      · cases named
      · cases named
        exact ⟨made, variantNamed_eq_ok_iff.2 listed, rfl⟩
  | .obj [] => simp [variant]
  | .obj (_ :: _ :: _) => simp [variant]
  | .null | .bool _ | .int _ | .float _ | .arr _ => simp [variant]

end Decoder

/-! ## Fields -/

namespace Field

variable {name : String} {decode : Decoder α} {value default : α}

/-- What stands for a field in the entries of an object. -/
inductive InEntries (field : Field α) (entries : List (String × Json)) : α → Prop where
  | present {json : Json} {value : α} (found : entries.lookup field.name = some json)
      (decoded : field.decode json = .ok value) : InEntries field entries value
  | absent {value : α} (missing : entries.lookup field.name = none)
      (default : field.absent = some value) : InEntries field entries value

/-- What stands for a field in the elements of an array that are left, and which of them are left
after it. -/
inductive InElements (field : Field α) : List Json → α → List Json → Prop where
  | next {json : Json} {rest : List Json} {value : α} (decoded : field.decode json = .ok value) :
      InElements field (json :: rest) value rest
  | cut {value : α} (default : field.cut = some value) : InElements field [] value []

end Field

namespace Fields

/-- Some field has the key and accepts the value; of fields of one name the last is asked. -/
def Admits : {α : Type} → Fields α → String → Json → Prop
  | _, .make _, _, _ => False
  | _, .andThen front field, key, json =>
    key = field.name ∧ (∃ value, field.decode json = .ok value) ∨
      key ≠ field.name ∧ front.Admits key json

theorem check?_eq_ok_iff {fields : Fields α} {key : String} {json : Json} :
    fields.check? key json = some (.ok ()) ↔ fields.Admits key json := by
  induction fields with
  | make record => exact iff_of_false nofun id
  | andThen front field ih =>
    rw [check?, Admits]
    by_cases here : key = field.name
    · simp [here, Except.map_eq_ok_iff]
    · simp [here, ih]

theorem ofEntries_andThen_iff {front : Fields (β → α)} {field : Field β}
    {entries : List (String × Json)} {record : α} :
    (front.andThen field).ofEntries entries = .ok record ↔
      ∃ finish value, front.ofEntries entries = .ok finish ∧ field.InEntries entries value ∧
        finish value = record := by
  rw [ofEntries, Except.bind_eq_ok_iff]
  constructor
  · rintro ⟨finish, others, made⟩
    cases found : entries.lookup field.name with
    | some json =>
      rw [found] at made
      obtain ⟨value, decoded, made⟩ := Except.map_eq_ok made
      exact ⟨finish, value, others, .present found decoded, made⟩
    | none =>
      rw [found] at made
      cases default : field.absent with
      | none =>
        rw [default] at made
        cases made
      | some value =>
        rw [default] at made
        cases made
        exact ⟨finish, value, others, .absent found default, rfl⟩
  · rintro ⟨finish, value, others, stands, rfl⟩
    refine ⟨finish, others, ?_⟩
    cases stands with
    | present found decoded =>
      rw [found]
      dsimp only
      rw [decoded]
      rfl
    | absent missing default =>
      rw [missing]
      dsimp only
      rw [default]
      rfl

theorem ofElements_andThen_iff {front : Fields (β → α)} {field : Field β} {short : DecodeError}
    {elements rest : List Json} {record : α} :
    (front.andThen field).ofElements short elements = .ok (record, rest) ↔
      ∃ finish left value, front.ofElements short elements = .ok (finish, left) ∧
        field.InElements left value rest ∧ finish value = record := by
  rw [ofElements, Except.bind_eq_ok_iff]
  constructor
  · rintro ⟨⟨finish, left⟩, others, made⟩
    cases left with
    | cons json left =>
      obtain ⟨value, decoded, made⟩ := Except.map_eq_ok made
      cases made
      exact ⟨finish, _, value, others, .next decoded, rfl⟩
    | nil =>
      dsimp only at made
      cases default : field.cut with
      | none =>
        rw [default] at made
        cases made
      | some value =>
        rw [default] at made
        cases made
        exact ⟨finish, [], value, others, .cut default, rfl⟩
  · rintro ⟨finish, left, value, others, taken, rfl⟩
    refine ⟨(finish, left), others, ?_⟩
    cases taken with
    | next decoded =>
      dsimp only
      rw [decoded]
      rfl
    | cut default =>
      dsimp only
      rw [default]
      rfl

end Fields

namespace Field

variable {name : String} {decode : Decoder α} {entries : List (String × Json)}
  {elements rest : List Json} {value default : α}

theorem inEntries_required_iff : (required name decode).InEntries entries value ↔
    ∃ json, entries.lookup name = some json ∧ decode json = .ok value := by
  constructor
  · rintro (⟨found, decoded⟩ | ⟨-, ⟨⟩⟩)
    exact ⟨_, found, decoded⟩
  · rintro ⟨json, found, decoded⟩
    exact .present found decoded

theorem inEntries_defaulted_iff : (defaulted name decode default).InEntries entries value ↔
    (∃ json, entries.lookup name = some json ∧ decode json = .ok value) ∨
      entries.lookup name = none ∧ value = default := by
  constructor
  · rintro (⟨found, decoded⟩ | ⟨missing, ⟨⟩⟩)
    · exact .inl ⟨_, found, decoded⟩
    · exact .inr ⟨missing, rfl⟩
  · rintro (⟨json, found, decoded⟩ | ⟨missing, rfl⟩)
    · exact .present found decoded
    · exact .absent missing rfl

theorem inElements_required_iff : (required name decode).InElements elements value rest ↔
    ∃ json, elements = json :: rest ∧ decode json = .ok value := by
  constructor
  · rintro (decoded | ⟨⟨⟩⟩)
    exact ⟨_, rfl, decoded⟩
  · rintro ⟨json, rfl, decoded⟩
    exact .next decoded

theorem inElements_defaulted_iff : (defaulted name decode default).InElements elements value rest ↔
    (∃ json, elements = json :: rest ∧ decode json = .ok value) ∨
      elements = [] ∧ rest = [] ∧ value = default := by
  constructor
  · rintro (decoded | ⟨⟨⟩⟩)
    · exact .inl ⟨_, rfl, decoded⟩
    · exact .inr ⟨rfl, rfl, rfl⟩
  · rintro (⟨json, rfl, decoded⟩ | ⟨rfl, rfl, rfl⟩)
    · exact .next decoded
    · exact .cut rfl

end Field

/-! ## Records -/

namespace RecordFormat

variable {format : RecordFormat α} {record : α}

/-- Each entry is that of a field which accepts it, or of no field. -/
theorem checkEntries_eq_ok_iff {entries : List (String × Json)} :
    format.checkEntries entries = .ok () ↔ ∀ entry ∈ entries,
      format.fields.check? entry.1 entry.2 = some (.ok ()) ∨
        format.fields.check? entry.1 entry.2 = none ∧ format.strict = false := by
  induction entries with
  | nil => exact iff_of_true rfl nofun
  | cons entry rest ih =>
    obtain ⟨key, json⟩ := entry
    rw [List.forall_mem_cons, ← ih, checkEntries]
    cases checked : format.fields.check? key json with
    | none =>
      cases strict : format.strict with
      | true => simp [throw, throwThe, MonadExceptOf.throw, bind, Except.bind]
      | false => simp
    | some outcome => cases outcome <;> simp [bind, Except.bind]

/-- A strict record has no other entries. -/
theorem checkEntries_iff_admits (format : RecordFormat α) (strict : format.strict = true)
    {entries : List (String × Json)} : format.checkEntries entries = .ok () ↔
      ∀ entry ∈ entries, format.fields.Admits entry.1 entry.2 := by
  simp [checkEntries_eq_ok_iff, Fields.check?_eq_ok_iff, strict]

theorem decode_obj_eq_ok_iff {entries : List (String × Json)} :
    format.decode (.obj entries) = .ok record ↔
      format.checkEntries entries = .ok () ∧ format.fields.ofEntries entries = .ok record := by
  rw [decode, Except.bind_eq_ok_iff]
  constructor
  · rintro ⟨⟨⟩, made⟩
    exact made
  · intro made
    exact ⟨(), made⟩

/-- An array must be used up. -/
theorem decode_arr_eq_ok_iff {elements : List Json} :
    format.decode (.arr elements) = .ok record ↔
      format.fields.ofElements
        (.tooShort elements.length (.elements format.name format.fields.names.length)) elements =
        .ok (record, []) := by
  rw [decode, Except.bind_eq_ok_iff]
  constructor
  · rintro ⟨⟨made, rest⟩, read, ended⟩
    cases rest with
    | nil =>
      cases ended
      exact read
    | cons json rest => cases ended
  · intro read
    exact ⟨(record, []), read, rfl⟩

end RecordFormat

end IdentityChain
