import IdentityChain.Proofs.Json.Decoding
import IdentityChain.Simulation.SampleTypes

/-!
# Reading back what was written

A mapper may read back what it writes from the bag that it wrote
(`Mapper.RoundTrips`), or even from a bag with other properties beside
(`Mapper.IgnoresOthers`). Records of scalars do the latter, as they read the
properties that they write and no others (`ignoresOthers_ofRecord`). Tables of
integers read every property, and do the former only (`roundTrips_counts`).
-/

namespace IdentityChain

variable {α ρ : Type}

/-- The bag holds every property of another one. -/
def Bag.Includes (bag properties : Bag) : Prop :=
  ∀ key value, properties.get? key = some value → bag.get? key = some value

namespace Mapper

/-- Every value is read from the bag that it is written as. -/
def RoundTrips (mapper : Mapper α) : Prop :=
  ∀ value properties, mapper.toBag value = .ok properties → mapper.ofBag properties = .ok value

/-- Every value is read from any bag that includes the one that it is written as. -/
def IgnoresOthers (mapper : Mapper α) : Prop :=
  ∀ value properties, mapper.toBag value = .ok properties →
    ∀ bag : Bag, bag.Includes properties → mapper.ofBag bag = .ok value

theorem IgnoresOthers.roundTrips {mapper : Mapper α} (ignores : mapper.IgnoresOthers) :
    mapper.RoundTrips :=
  fun value properties written =>
    ignores value properties written properties fun _ _ found => found

theorem ofBag_ofForm {form : JsonForm α} {bag : Bag} {value : α} (item : String)
    (decoded : form.decode bag.toJson = .ok value) : (ofForm item form).ofBag bag = .ok value := by
  unfold ofForm
  dsimp only
  rw [decoded]

end Mapper

/-! ## Scalars -/

/-- The scalar reads what it writes. -/
def Scalar.Lawful (scalar : Scalar α) : Prop :=
  ∀ value, scalar.read (scalar.write value) = .ok value

theorem Decoder.int64_ofInt64 (n : Int64) : Decoder.int64 (.ofInt64 n) = .ok n := by
  show (if n.toInt ∈ IntRange.signed64 then Except.ok n.toInt
    else .error (DecodeError.outOfRange n.toInt .int64)).map Int64.ofInt = _
  rw [if_pos (IntRange.toInt_mem_signed64 n)]
  exact congrArg Except.ok (Int64.ofInt_toInt n)

theorem Scalar.string_lawful : string.Lawful := fun _ => rfl

theorem Scalar.boolean_lawful : boolean.Lawful := fun _ => rfl

theorem Scalar.int64_lawful : int64.Lawful := Decoder.int64_ofInt64

/-! ## Records of scalars -/

namespace ScalarFields

/-- Every scalar reads what it writes. -/
def Lawful : {β : Type} → ScalarFields ρ β → Prop
  | _, .make _ => True
  | _, .andThen front _ scalar _ => front.Lawful ∧ scalar.Lawful

/-- What the fields of a record make. -/
def remade (record : ρ) : {β : Type} → ScalarFields ρ β → β
  | _, .make made => made
  | _, .andThen front _ _ get => front.remade record (get record)

/-- The fields have different names and lawful scalars, and a record is made of its fields. -/
structure Describe (fields : ScalarFields ρ ρ) : Prop where
  distinct : fields.toFields.names.Nodup
  lawful : fields.Lawful
  remade_eq : ∀ record, fields.remade record = record

variable {β : Type} {fields : ScalarFields ρ β} {record : ρ} {bag : Bag}

theorem names_written (fields : ScalarFields ρ β) (record : ρ) :
    (fields.written record).map (·.1) = fields.toFields.names := by
  induction fields with
  | make made => rfl
  | andThen front name scalar get ih =>
    rw [written, List.map_append, ih]
    rfl

/-- A record is read off any bag in which its fields stand as they are written. -/
theorem ofEntries_of_written (lawful : fields.Lawful)
    (stands : ∀ entry ∈ fields.written record, bag.get? entry.1 = some entry.2) :
    fields.toFields.ofEntries bag.entries = .ok (fields.remade record) := by
  induction fields with
  | make made => rfl
  | andThen front name scalar get ih =>
    obtain ⟨lawful, readsBack⟩ := lawful
    have others := ih lawful fun entry member => stands entry (List.mem_append_left _ member)
    have here : bag.entries.lookup name = some (scalar.write (get record)) :=
      stands _ (List.mem_append_right _ List.mem_cons_self)
    exact Fields.ofEntries_andThen_iff.2 ⟨_, get record, others,
      Field.inEntries_required_iff.2 ⟨_, here, readsBack _⟩, rfl⟩

/-- No entry of such a bag is refused. -/
theorem check?_of_written (lawful : fields.Lawful)
    (stands : ∀ entry ∈ fields.written record, bag.get? entry.1 = some entry.2)
    {key : String} {value : Json} (found : bag.get? key = some value) :
    fields.toFields.check? key value = some (.ok ()) ∨ fields.toFields.check? key value = none := by
  induction fields with
  | make made => exact .inr rfl
  | andThen front name scalar get ih =>
    obtain ⟨lawful, readsBack⟩ := lawful
    have others := ih lawful fun entry member => stands entry (List.mem_append_left _ member)
    have here := stands _ (List.mem_append_right _ List.mem_cons_self)
    rw [toFields, Fields.check?]
    by_cases same : key = name
    · subst same
      obtain rfl := Option.some.inj (found.symm.trans here)
      refine .inl ?_
      show (if key = key then some ((scalar.read (scalar.write (get record))).map fun _ => ())
        else _) = _
      rw [if_pos rfl, readsBack]
      rfl
    · show (if key = name then _ else front.toFields.check? key value) = some (.ok ()) ∨
        (if key = name then _ else front.toFields.check? key value) = none
      rw [if_neg same]
      exact others

end ScalarFields

theorem Mapper.toBag_ofRecord (item name : String) (fields : ScalarFields α α) (record : α) :
    (ofForm item (.ofRecord name fields)).toBag record =
      .ok (Table.ofList (fields.written record)) := by
  show Except.ok (Table.ofList (Table.ofList (fields.written record)).entries) = _
  rw [Table.ofList_entries]

/-- Records of scalars are read whatever else is in the bag. -/
theorem ignoresOthers_ofRecord {fields : ScalarFields α α} (describe : fields.Describe)
    (item name : String) : (Mapper.ofForm item (.ofRecord name fields)).IgnoresOthers := by
  intro record properties written bag includes
  rw [Mapper.toBag_ofRecord] at written
  cases written
  have distinct : ((fields.written record).map (·.1)).Nodup := by
    rw [ScalarFields.names_written]
    exact describe.distinct
  have stands : ∀ entry ∈ fields.written record, bag.get? entry.1 = some entry.2 :=
    fun entry member => includes _ _ (Table.get?_ofList_of_mem distinct member)
  have checked : RecordFormat.checkEntries ⟨name, false, fields.toFields⟩ bag.entries = .ok () := by
    refine RecordFormat.checkEntries_eq_ok_iff.2 fun entry member => ?_
    have found := Table.mem_entries_iff.1 member
    exact (ScalarFields.check?_of_written describe.lawful stands found).imp_right (⟨·, rfl⟩)
  have decoded : RecordFormat.decode ⟨name, false, fields.toFields⟩ bag.toJson = .ok record := by
    refine RecordFormat.decode_obj_eq_ok_iff.2 ⟨checked, ?_⟩
    rw [ScalarFields.ofEntries_of_written describe.lawful stands, describe.remade_eq]
  exact Mapper.ofBag_ofForm item decoded

theorem Banner.ignoresOthers (item : String) :
    (Mapper.ofForm item Banner.form).IgnoresOthers := by
  refine ignoresOthers_ofRecord ⟨by decide, ?_, fun _ => rfl⟩ item _
  exact ⟨⟨trivial, Scalar.string_lawful⟩, Scalar.boolean_lawful⟩

theorem ServerAddress.ignoresOthers (item : String) :
    (Mapper.ofForm item ServerAddress.form).IgnoresOthers := by
  refine ignoresOthers_ofRecord ⟨by decide, ?_, fun _ => rfl⟩ item _
  exact ⟨⟨trivial, Scalar.string_lawful⟩, Scalar.int64_lawful⟩

/-! ## Tables of integers -/

theorem Decoder.fields_ofInt64 (entries : List (String × Int64)) :
    Decoder.fields Decoder.int64 (entries.map fun (key, n) => (key, .ofInt64 n)) = .ok entries := by
  induction entries with
  | nil => rfl
  | cons entry rest ih =>
    obtain ⟨key, n⟩ := entry
    unfold fields at ih ⊢
    rw [List.map_cons, List.mapM_cons, ih]
    dsimp only
    rw [int64_ofInt64]
    rfl

/-- Tables of integers are read from the bags that they are written as. -/
theorem roundTrips_counts (item : String) : (Mapper.ofForm item .counts).RoundTrips := by
  intro counts properties written
  have ascending : (counts.entries.map fun (key, n) => (key, Json.ofInt64 n)).Pairwise
      fun a b => a.1 < b.1 := List.pairwise_map.2 counts.ascending
  have written_eq : Table.ofList (counts.entries.map fun (key, n) => (key, Json.ofInt64 n)) =
      properties := Except.ok.inj written
  have entries_eq : properties.entries = counts.entries.map fun (key, n) => (key, .ofInt64 n) := by
    rw [← written_eq]
    exact congrArg Table.entries (Table.ofList_entries ⟨_, ascending⟩)
  have decoded : JsonForm.counts.decode properties.toJson = .ok counts := by
    show (Decoder.fields Decoder.int64 properties.entries).map Table.ofList = _
    rw [entries_eq, Decoder.fields_ofInt64]
    exact congrArg Except.ok (Table.ofList_entries counts)
  exact Mapper.ofBag_ofForm item decoded

end IdentityChain
