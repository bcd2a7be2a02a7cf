import IdentityChain.Proofs.Mapping.WritingBack
import IdentityChain.Proofs.Registry.Placing

/-!
# Writing a typed item back

A typed write merges the properties of a value into its item. If the item holds
them already the merge is empty (`Batch.mergeInto_of_includes`): the store stays
whether the batch is committed or not, and what is committed and loaded is what
was there. So it is with settings that were just read.
-/

namespace IdentityChain

variable {α : Type}

/-- An item that holds the properties already is the same after they are merged into it. -/
theorem Batch.edited_of_includes {properties bag : Bag} (includes : bag.Includes properties) :
    edited properties (some bag) = bag := by
  apply Table.ext_get?
  intro key
  rw [get?_edited]
  cases written : properties.get? key with
  | none => rfl
  | some value =>
    rw [includes key value written]
    rfl

theorem Batch.mergeInto_of_includes {items : Configuration} {name : String} {bag properties : Bag}
    (held : items.get? name = some bag) (includes : bag.Includes properties) :
    (empty.merge name properties).mergeInto items = items := by
  apply Table.ext_get?
  intro other
  rw [get?_mergeInto, get?_edits_merge]
  by_cases here : other = name
  · rw [if_pos here, here, held]
    exact congrArg some (edited_of_includes includes)
  · rw [if_neg here]
    rfl

namespace Registry

variable {factories : Table Factory} {limits : ResolutionLimits}
  {before : RegistryState Configuration}

/-- A typed write stages the properties of the value for its item. -/
theorem stage_putItem {mapper : Mapper α} {value : α} {properties : Bag}
    (written : mapper.toBag value = .ok properties) :
    (((Reconfiguration.putItem mapper value).stage (inMemory factories limits)).runOn before).1 =
      .ok (Batch.empty.merge mapper.item properties) := by
  rw [Reconfiguration.stage, mapped, written]
  rfl

/-- What a typed read without other writers finds is what the mapper reads from the stored item. -/
theorem held_of_typedItem {mapper : Mapper α} {value : α}
    (read : (((inMemory factories limits).typedItem mapper).runOn before).1 = .ok (some value)) :
    ∃ bag, before.store.get? mapper.item = some bag ∧ mapper.ofBag bag = .ok value := by
  have answer : Configuration.typed mapper (before.store.get? mapper.item) = .ok (some value) :=
    (reads_typedItem (inMemory_contract factories limits) mapper).answers read
  cases held : before.store.get? mapper.item with
  | none =>
    rw [held] at answer
    cases answer
  | some bag =>
    rw [held] at answer
    obtain ⟨other, decoded, same⟩ := Except.map_eq_ok answer
    cases same
    exact ⟨bag, rfl, Except.mapError_eq_ok decoded⟩

end Registry

/-- Over a store in memory, settings that were read from an item are written back. Every item of
the store stays as it is, whether the write succeeds or is rejected, which are its only ends. It
succeeds if and only if the items build; so it does if the chains are in sync, and then they are
published once more under the next version. -/
theorem writing_back_keeps_items {factories : Table Factory} {limits : ResolutionLimits}
    {before : RegistryState Configuration} {form : JsonForm α} (plain : form.Plain) {item : String}
    {value : α}
    (read : (((Registry.inMemory factories limits).typedItem (.ofForm item form)).runOn before).1 =
      .ok (some value)) :
    let registry := Registry.inMemory factories limits
    let result := ((registry.putItem (.ofForm item form) value).runOn before).1
    let after := ((registry.putItem (.ofForm item form) value).runOn before).2
    after.store = before.store ∧
    (result = .ok () ∨ ∃ message, result = .error (.commitRejected message)) ∧
    (result = .ok () ↔ Snapshot.Buildable factories before.store) ∧
    (result ≠ .ok () → after = before) ∧
    (InSync factories before → result = .ok () ∧
      after.published = before.published.atVersion (before.published.version + 1)) := by
  obtain ⟨bag, held, decoded⟩ := Registry.held_of_typedItem read
  obtain ⟨properties, written, includes⟩ := writesBack_of_plain plain item bag value decoded
  have merged : (Batch.empty.merge item properties).mergeInto before.store = before.store :=
    Batch.mergeInto_of_includes held includes
  have reached : (((Reconfiguration.putItem (.ofForm item form) value).stage
      (Registry.inMemory factories limits)).runOn before).1 =
      .ok (Batch.empty.merge item properties) := Registry.stage_putItem written
  dsimp only
  by_cases buildable : Snapshot.Buildable factories before.store
  case pos =>
    obtain ⟨next, built, run⟩ :=
      Registry.live_of_buildable reached rfl rfl (by rw [merged]; exact buildable)
    change ((Registry.inMemory factories limits).putItem (.ofForm item form) value).runOn before =
      _ at run
    rw [merged] at built run
    rw [run]
    refine ⟨rfl, .inl rfl, iff_of_true rfl buildable, fun failed => (failed rfl).elim, ?_⟩
    intro sync
    exact ⟨rfl, Except.ok.inj (built.symm.trans (Snapshot.build_atVersion sync _))⟩
  case neg =>
    have run := Registry.rejected_of_unbuildable reached (by rw [merged]; exact buildable)
    change ((Registry.inMemory factories limits).putItem (.ofForm item form) value).runOn before =
      _ at run
    rw [run]
    refine ⟨rfl, .inr ⟨_, rfl⟩, iff_of_false nofun buildable, fun _ => rfl, ?_⟩
    intro sync
    exact (buildable (.of_build sync)).elim

namespace Rehearsal

/-- A directory, and two blocks of settings with keys that their types do not have. -/
def lobby : Configuration :=
  Table.ofList [("desk", directoryBag 1 "both" [account "ann" "secret" true]),
    ("ldap", Table.ofList [("order", .int 3), ("retries", .int 18446744073709551615),
      ("url", .str "ldap.example")]),
    ("notice", Table.ofList [("author", .null), ("text", .str "hello"), ("visible", .bool true)])]

/-- The lobby is loaded. -/
def inLobby : RegistryState Configuration :=
  ((Registry.inMemory staticFactories limits).init.runOn (start lobby)).2

/-- The lobby with an item that cannot be built. -/
def haunted : RegistryState Configuration := start (lobby.insert "attic" ghost)

end Rehearsal

/-- The address of a directory is written back where the chains are in sync, and a banner that may
be missing where the items do not build. -/
theorem writing_back_keeps_items_rehearsal :
    let registry := Registry.inMemory Rehearsal.staticFactories Rehearsal.limits
    let address := Mapper.ofForm "ldap" ServerAddress.form
    let notice := Mapper.ofForm "notice" (.nullable Banner.form)
    let put := (registry.putItem address ⟨"ldap.example", 3⟩).runOn Rehearsal.inLobby
    let refused := (registry.putItem notice (some ⟨"hello", true⟩)).runOn Rehearsal.haunted
    (put.1 = .ok () ∧ put.2.store = Rehearsal.inLobby.store ∧
      put.2.published = Rehearsal.inLobby.published.atVersion 2) ∧
    (∃ message, refused.1 = .error (.commitRejected message)) ∧ refused.2 = Rehearsal.haunted := by
  dsimp only
  have started : ((Registry.inMemory Rehearsal.staticFactories Rehearsal.limits).init.runOn
      (Rehearsal.start Rehearsal.lobby)).1 = .ok () := by rfl
  have sync : InSync Rehearsal.staticFactories Rehearsal.inLobby := .of_init started
  have version : Rehearsal.inLobby.published.version = 1 := by rfl
  obtain ⟨stored, -, -, -, live⟩ := @writing_back_keeps_items _ Rehearsal.staticFactories
    Rehearsal.limits Rehearsal.inLobby _ ServerAddress.form_plain "ldap" ⟨"ldap.example", 3⟩
    (by rfl)
  obtain ⟨succeeded, published⟩ := live sync
  rw [version] at published
  have plain : (JsonForm.nullable Banner.form).Plain :=
    .nullable "Banner" ⟨⟨⟨trivial, .string⟩, .boolean⟩, fun _ => rfl⟩
  obtain ⟨-, ends, builds, kept, -⟩ := @writing_back_keeps_items _ Rehearsal.staticFactories
    Rehearsal.limits Rehearsal.haunted _ plain "notice" (some ⟨"hello", true⟩) (by rfl)
  have unbuildable : ¬ Snapshot.Buildable Rehearsal.staticFactories Rehearsal.haunted.store := by
    rintro ⟨snapshot, built⟩
    cases built
  have failed := fun succeeded => unbuildable (builds.1 succeeded)
  exact ⟨⟨succeeded, stored, published⟩, ends.resolve_left failed, kept failed⟩

end IdentityChain
