import IdentityChain.Proofs.Mapping.RoundTrips

/-!
# Writing back what was read

A mapper that writes back what it reads adds nothing to the bag that it read
(`Mapper.WritesBack`). This is the other half of a round trip, and it asks for
more of a type: that a value is read from one JSON value only, and that the
fields of a record are what it was made of (`ScalarFields.Faithful`). The types
that settings are kept in are like that (`JsonForm.Plain`): a record has each of
its fields under a key of the bag, and a table or a JSON value is the whole bag
(`writesBack_of_plain`).
-/

namespace IdentityChain

variable {α ρ β : Type}

/-- What was read from a bag is written as properties that the bag includes. -/
def Mapper.WritesBack (mapper : Mapper α) : Prop :=
  ∀ bag value, mapper.ofBag bag = .ok value →
    ∃ properties, mapper.toBag value = .ok properties ∧ bag.Includes properties

/-! ## Scalars -/

/-- Texts, truth values and integers. -/
inductive Scalar.Plain : {α : Type} → Scalar α → Prop where
  | string : Plain .string
  | boolean : Plain .boolean
  | int64 : Plain .int64

theorem Decoder.eq_ofInt64 {json : Json} {n : Int64} (read : int64 json = .ok n) :
    json = .ofInt64 n := by
  obtain ⟨m, found, rfl⟩ := Except.map_eq_ok read
  cases json with
  | int k =>
    change (if k ∈ IntRange.signed64 then Except.ok k else _) = _ at found
    by_cases fits : k ∈ IntRange.signed64
    · rw [if_pos fits] at found
      cases found
      rw [Json.ofInt64, IntRange.toInt_ofInt_of_mem fits]
    · rw [if_neg fits] at found
      cases found
  | _ => cases found

/-- A plain scalar is read from what it is written as, and from nothing else. -/
theorem Scalar.Plain.write_eq {scalar : Scalar α} (plain : scalar.Plain) {json : Json} {value : α}
    (read : scalar.read json = .ok value) : scalar.write value = json := by
  cases plain with
  | string => exact (Decoder.string_eq_ok_iff.1 read).symm
  | boolean => exact (Decoder.boolean_eq_ok_iff.1 read).symm
  | int64 => exact (Decoder.eq_ofInt64 read).symm

/-! ## Records of scalars -/

namespace ScalarFields

/-- One value for each field. -/
def Values : {β : Type} → ScalarFields ρ β → Type
  | _, .make _ => Unit
  | _, @andThen _ _ γ front _ _ _ => front.Values × γ

/-- What is made of the values. -/
def build : {β : Type} → (fields : ScalarFields ρ β) → fields.Values → β
  | _, .make made, _ => made
  | _, .andThen front _ _ _, values => front.build values.1 values.2

/-- The values of the fields in a record. -/
def view : {β : Type} → (fields : ScalarFields ρ β) → ρ → fields.Values
  | _, .make _, _ => ()
  | _, .andThen front _ _ get, record => (front.view record, get record)

/-- Every field is a plain scalar. -/
def Plain : {β : Type} → ScalarFields ρ β → Prop
  | _, .make _ => True
  | _, .andThen front _ scalar _ => front.Plain ∧ scalar.Plain

/-- The values that a record is made of are plain, and its fields. -/
structure Faithful (fields : ScalarFields ρ ρ) : Prop where
  plain : fields.Plain
  view_build : ∀ values, fields.view (fields.build values) = values

/-- What is read off a bag is made of values, and every record of these values stands in the bag as
it is written. -/
theorem written_of_ofEntries {fields : ScalarFields ρ β} (plain : fields.Plain) {bag : Bag}
    {made : β} (read : fields.toFields.ofEntries bag.entries = .ok made) :
    ∃ values, made = fields.build values ∧ ∀ record, fields.view record = values →
      ∀ entry ∈ fields.written record, bag.get? entry.1 = some entry.2 := by
  induction fields with
  | make made =>
    cases read
    refine ⟨(), rfl, ?_⟩
    intro record _ entry member
    cases member
  | andThen front name scalar get ih =>
    obtain ⟨plain, plainHere⟩ := plain
    obtain ⟨finish, value, others, here, rfl⟩ := Fields.ofEntries_andThen_iff.1 read
    obtain ⟨json, found, decoded⟩ := Field.inEntries_required_iff.1 here
    obtain ⟨values, rfl, stands⟩ := ih plain others
    refine ⟨(values, value), rfl, ?_⟩
    intro record seen entry member
    obtain ⟨seen, here⟩ := Prod.mk.inj seen
    rcases List.mem_append.1 member with early | last
    · exact stands record seen entry early
    · obtain rfl := List.mem_singleton.1 last
      dsimp only
      rw [here, plainHere.write_eq decoded]
      exact found

end ScalarFields

namespace Mapper

theorem decode_of_ofBag {form : JsonForm α} {item : String} {bag : Bag} {value : α}
    (read : (ofForm item form).ofBag bag = .ok value) : form.decode bag.toJson = .ok value := by
  unfold ofForm at read
  dsimp only at read
  cases decoded : form.decode bag.toJson with
  | error cause =>
    rw [decoded] at read
    cases read
  | ok other =>
    rw [decoded] at read
    cases read
    rfl

/-- A record is written as properties that the bag includes which it was read from. -/
theorem includes_of_ofRecord {fields : ScalarFields ρ ρ} (faithful : fields.Faithful)
    {name : String} {bag : Bag} {record : ρ}
    (decoded : (JsonForm.ofRecord name fields).decode bag.toJson = .ok record) :
    bag.Includes (Table.ofList (fields.written record)) := by
  obtain ⟨values, rfl, stands⟩ := ScalarFields.written_of_ofEntries faithful.plain
    (RecordFormat.decode_obj_eq_ok_iff.1 decoded).2
  intro key value written
  exact stands _ (faithful.view_build values) (key, value) (Table.mem_of_get?_ofList written)

end Mapper

/-! ## Tables of integers -/

/-- Integers are read from what they are written as, and from nothing else. -/
theorem Decoder.eq_of_fields_int64 {entries : List (String × Json)} {read : List (String × Int64)}
    (decoded : fields int64 entries = .ok read) :
    entries = read.map fun (key, n) => (key, .ofInt64 n) := by
  induction entries generalizing read with
  | nil =>
    cases decoded
    rfl
  | cons entry rest ih =>
    obtain ⟨key, json⟩ := entry
    unfold fields at decoded
    rw [List.mapM_cons] at decoded
    obtain ⟨_, first, decoded⟩ := Except.bind_eq_ok decoded
    obtain ⟨tail, others, decoded⟩ := Except.bind_eq_ok decoded
    obtain ⟨n, here, rfl⟩ := Except.map_eq_ok first
    cases decoded
    rw [List.map_cons, eq_ofInt64 here, ← ih others]

/-- A table of integers that was read from a bag is written as the bag. -/
theorem Mapper.toBag_of_counts {item : String} {bag : Bag} {counts : Table Int64}
    (decoded : JsonForm.counts.decode bag.toJson = .ok counts) :
    (ofForm item .counts).toBag counts = .ok bag := by
  obtain ⟨entries, read, rfl⟩ := Except.map_eq_ok decoded
  have written := Decoder.eq_of_fields_int64 read
  -- The entries are as ascending as those of the bag, so they are all of their table.
  have ascending : entries.Pairwise fun a b => a.1 < b.1 := by
    have ordered := bag.ascending
    rw [written, List.pairwise_map] at ordered
    exact ordered
  have kept : (Table.ofList entries).entries = entries :=
    congrArg Table.entries (Table.ofList_entries ⟨entries, ascending⟩)
  show Except.ok (Table.ofList ((Table.ofList entries).entries.map
    fun (key, n) => (key, Json.ofInt64 n))) = _
  rw [kept, ← written, Table.ofList_entries]

/-! ## The types of settings -/

/-- The forms of settings: any JSON value, tables of integers, and records of texts, truth values
and integers, which may be missing. -/
inductive JsonForm.Plain : {α : Type} → JsonForm α → Prop where
  | any : Plain .any
  | counts : Plain .counts
  | record {ρ : Type} {fields : ScalarFields ρ ρ} (name : String) (faithful : fields.Faithful) :
      Plain (.ofRecord name fields)
  | nullable {ρ : Type} {fields : ScalarFields ρ ρ} (name : String) (faithful : fields.Faithful) :
      Plain (.nullable (.ofRecord name fields))

/-- Settings that were read are written back as they stand. -/
theorem writesBack_of_plain {form : JsonForm α} (plain : form.Plain) (item : String) :
    (Mapper.ofForm item form).WritesBack := by
  intro bag value read
  have decoded := Mapper.decode_of_ofBag read
  cases plain with
  | any =>
    cases decoded
    refine ⟨bag, ?_, fun _ _ held => held⟩
    exact congrArg Except.ok (Table.ofList_entries bag)
  | counts => exact ⟨bag, Mapper.toBag_of_counts decoded, fun _ _ held => held⟩
  | record name faithful =>
    exact ⟨_, Mapper.toBag_ofRecord item name _ value, Mapper.includes_of_ofRecord faithful decoded⟩
  | @nullable ρ fields name faithful =>
    -- A bag is an object, so the record is not missing.
    change ((JsonForm.ofRecord name fields).decode bag.toJson).map some = .ok value at decoded
    obtain ⟨record, present, rfl⟩ := Except.map_eq_ok decoded
    exact ⟨_, Mapper.toBag_ofRecord item name fields record,
      Mapper.includes_of_ofRecord faithful present⟩

theorem Banner.form_plain : form.Plain :=
  .record "Banner" ⟨⟨⟨trivial, .string⟩, .boolean⟩, fun _ => rfl⟩

theorem ServerAddress.form_plain : form.Plain :=
  .record "LdapSettings" ⟨⟨⟨trivial, .string⟩, .int64⟩, fun _ => rfl⟩

end IdentityChain
