import IdentityChain.Proofs.Directory.Serving
import IdentityChain.Proofs.Json.Decoding

/-!
# How a static directory is written

The grammar of a directory's settings, said without the decoder: the forms of a
mode (`DirectoryMode.Written`), those of a listed account (`ListedUser.Written`),
and the bags that hold settings (`DirectorySettings.WrittenIn`). The decoder
accepts the grammar and nothing else (`Directory.settings?_eq_ok_iff`), so an
item builds exactly if its bag is written in it, and the source is that of the
settings that stand there.

An object may hold its keys in any order; an entry that is looked up is the
first of its key, but none goes unchecked.
-/

namespace IdentityChain

/-! ## Modes -/

namespace DirectoryMode

/-- The written name of a mode. -/
def label : DirectoryMode → String
  | .signIn => "provider"
  | .lookup => "lookup"
  | .both => "both"

/-- The written forms of a mode: its name, alone or over null. -/
inductive Written (mode : DirectoryMode) : Json → Prop where
  | name : Written mode (.str mode.label)
  | variant : Written mode (.obj [(mode.label, .null)])

theorem decode_eq_ok_iff {mode : DirectoryMode} {json : Json} :
    decode json = .ok mode ↔ mode.Written json := by
  have named : ∀ name, List.lookup name [("provider", signIn), ("lookup", lookup), ("both", both)] =
      some mode ↔ name = mode.label := by
    intro name
    simp only [Table.lookup_cons_ite, List.lookup_nil]
    cases mode <;> simp only [label] <;> split_ifs <;> simp_all
  rw [decode, Decoder.variant_eq_ok_iff]
  constructor
  · rintro ⟨name, listed, written⟩
    rw [named] at listed
    subst listed
    rcases written with rfl | rfl
    · exact .name
    · exact .variant
  · rintro (_ | _)
    · exact ⟨_, (named _).2 rfl, .inl rfl⟩
    · exact ⟨_, (named _).2 rfl, .inr rfl⟩

end DirectoryMode

/-! ## Accounts -/

namespace ListedUser

/-- What may stand under a key of an account. -/
inductive Property : String → Json → Prop where
  | username (s : String) : Property "username" (.str s)
  | password (s : String) : Property "password" (.str s)
  | roles (names : List String) : Property "roles" (.arr (names.map .str))
  | enabled (b : Bool) : Property "enabled" (.bool b)

/-- An account has no other keys. -/
theorem Property.named {key : String} {json : Json} (property : Property key json) :
    key ∈ ["username", "password", "roles", "enabled"] := by
  cases property <;> decide

/-- The properties of an account in an object. Only the roles and the switch may be absent, and then
there are no roles and the account is enabled. -/
structure StandsIn (user : ListedUser) (fields : List (String × Json)) : Prop where
  known : ∀ field ∈ fields, Property field.1 field.2
  username : fields.lookup "username" = some (.str user.username)
  password : fields.lookup "password" = some (.str user.password)
  roles : fields.lookup "roles" = some (.arr (user.roles.map .str)) ∨
    fields.lookup "roles" = none ∧ user.roles = []
  enabled : fields.lookup "enabled" = some (.bool user.enabled) ∨
    fields.lookup "enabled" = none ∧ user.enabled = true

/-- The written forms of an account: an object of its properties, or an array of two to four of them
in their order. -/
inductive Written : ListedUser → Json → Prop where
  | object {user : ListedUser} {fields : List (String × Json)} (stands : user.StandsIn fields) :
      Written user (.obj fields)
  | two (username password : String) :
      Written ⟨username, password, [], true⟩ (.arr [.str username, .str password])
  | three (username password : String) (roles : List String) :
      Written ⟨username, password, roles, true⟩
        (.arr [.str username, .str password, .arr (roles.map .str)])
  | four (username password : String) (roles : List String) (enabled : Bool) :
      Written ⟨username, password, roles, enabled⟩
        (.arr [.str username, .str password, .arr (roles.map .str), .bool enabled])

theorem admits_iff {key : String} {json : Json} :
    format.fields.Admits key json ↔ Property key json := by
  simp only [format, Fields.Admits, Field.required, Field.defaulted, Decoder.string_eq_ok_iff,
    Decoder.boolean_eq_ok_iff, Decoder.list_string_eq_ok_iff]
  constructor
  · rintro (⟨rfl, b, rfl⟩ | ⟨-, ⟨rfl, names, rfl⟩ | ⟨-, ⟨rfl, s, rfl⟩ |
      ⟨-, ⟨rfl, s, rfl⟩ | ⟨-, none⟩⟩⟩⟩)
    · exact .enabled b
    · exact .roles names
    · exact .password s
    · exact .username s
    · exact none.elim
  · rintro (s | s | names | b) <;> simp

theorem ofEntries_eq_ok_iff {fields : List (String × Json)} {user : ListedUser}
    (known : ∀ field ∈ fields, Property field.1 field.2) :
    format.fields.ofEntries fields = .ok user ↔ user.StandsIn fields := by
  simp only [format, Fields.ofEntries_andThen_iff, Field.inEntries_required_iff,
    Field.inEntries_defaulted_iff, Decoder.string_eq_ok_iff, Decoder.boolean_eq_ok_iff,
    Decoder.list_string_eq_ok_iff, exists_eq_right]
  -- The last field is read last, so it is the outermost.
  constructor
  · rintro ⟨_, enabled, ⟨_, roles, ⟨_, password, ⟨_, username, ⟨⟩, first, rfl⟩, second, rfl⟩, third,
      rfl⟩, fourth, rfl⟩
    exact ⟨known, first, second, third, fourth⟩
  · intro stands
    exact ⟨_, user.enabled, ⟨_, user.roles, ⟨_, user.password, ⟨_, user.username, rfl,
      stands.username, rfl⟩, stands.password, rfl⟩, stands.roles, rfl⟩, stands.enabled, rfl⟩

theorem ofElements_eq_ok_iff {elements : List Json} {user : ListedUser} {short : DecodeError} :
    format.fields.ofElements short elements = .ok (user, []) ↔ user.Written (.arr elements) := by
  simp only [format, Fields.ofElements_andThen_iff, Field.inElements_required_iff,
    Field.inElements_defaulted_iff, Decoder.string_eq_ok_iff, Decoder.boolean_eq_ok_iff,
    Decoder.list_string_eq_ok_iff]
  constructor
  · rintro ⟨_, left, enabled, ⟨_, _, roles, ⟨_, _, password, ⟨_, _, username, ⟨⟩,
      ⟨_, rfl, rfl⟩, rfl⟩, ⟨_, rfl, rfl⟩, rfl⟩, third, rfl⟩, fourth, rfl⟩
    rcases third with ⟨_, rfl, rfl⟩ | ⟨rfl, rfl, rfl⟩
    · rcases fourth with ⟨_, rfl, rfl⟩ | ⟨rfl, -, rfl⟩
      · exact .four username password roles enabled
      · exact .three username password roles
    · -- An array that ends before the roles has no switch either.
      rcases fourth with ⟨_, ⟨⟩, -⟩ | ⟨-, -, rfl⟩
      exact .two username password
  · rintro (_ | _ | _ | _) <;> simp [Fields.ofElements]

theorem decode_eq_ok_iff {user : ListedUser} {json : Json} :
    format.decode json = .ok user ↔ user.Written json := by
  cases json with
  | obj fields =>
    simp only [RecordFormat.decode_obj_eq_ok_iff, format.checkEntries_iff_admits rfl, admits_iff]
    constructor
    · rintro ⟨known, made⟩
      exact .object ((ofEntries_eq_ok_iff known).1 made)
    · rintro ⟨stands⟩
      exact ⟨stands.known, (ofEntries_eq_ok_iff stands.known).2 stands⟩
  | arr elements => rw [RecordFormat.decode_arr_eq_ok_iff, ofElements_eq_ok_iff]
  | _ => exact iff_of_false nofun nofun

end ListedUser

/-! ## Settings -/

/-- Keys that mean nothing to the registry are the source's own. -/
theorem Bag.get?_ownProperties {bag : Bag} {key : String} (own : key ∉ reservedKeys) :
    bag.ownProperties.get? key = bag.get? key := by
  rw [ownProperties, Table.get?_filterKeys, if_pos]
  simpa using own

theorem Bag.get?_ownProperties_eq_some_iff {bag : Bag} {key : String} {json : Json} :
    bag.ownProperties.get? key = some json ↔ key ∉ reservedKeys ∧ bag.get? key = some json := by
  rw [ownProperties, Table.get?_filterKeys]
  by_cases own : key ∈ reservedKeys <;> simp [own]

namespace DirectorySettings

variable {settings : DirectorySettings} {bag : Bag}

/-- The settings stand in a bag. Whatever is under the reserved keys, there are no other keys than
those of the settings. Both may be absent, and then the directory has both capabilities and no
users. -/
structure WrittenIn (settings : DirectorySettings) (bag : Bag) : Prop where
  known : ∀ key ∈ bag.keys, key ∈ ["order", "enabled", "type"] ∨ key = "mode" ∨ key = "users"
  mode : (∃ json, bag.get? "mode" = some json ∧ settings.mode.Written json) ∨
    bag.get? "mode" = none ∧ settings.mode = .both
  users : (∃ elements, bag.get? "users" = some (.arr elements) ∧
      List.Forall₂ (fun json user => ListedUser.Written user json) elements settings.users) ∨
    bag.get? "users" = none ∧ settings.users = []

/-- What may stand under a key of the settings. -/
inductive Property : String → Json → Prop where
  | mode {mode : DirectoryMode} {json : Json} (written : mode.Written json) : Property "mode" json
  | users {users : List ListedUser} {elements : List Json}
      (written : List.Forall₂ (fun json user => ListedUser.Written user json) elements users) :
      Property "users" (.arr elements)

theorem list_users_eq_ok_iff {json : Json} {users : List ListedUser} :
    Decoder.list ListedUser.format.decode json = .ok users ↔ ∃ elements, json = .arr elements ∧
      List.Forall₂ (fun json user => ListedUser.Written user json) elements users := by
  simp only [Decoder.list_eq_ok_iff, ListedUser.decode_eq_ok_iff]

theorem admits_iff {key : String} {json : Json} :
    format.fields.Admits key json ↔ Property key json := by
  simp only [format, Fields.Admits, Field.defaulted, DirectoryMode.decode_eq_ok_iff,
    list_users_eq_ok_iff]
  constructor
  · rintro (⟨rfl, users, elements, rfl, written⟩ | ⟨-, ⟨rfl, mode, written⟩ | ⟨-, none⟩⟩)
    · exact .users written
    · exact .mode written
    · exact none.elim
  · rintro (written | written)
    · exact .inr ⟨by decide, .inl ⟨rfl, _, written⟩⟩
    · exact .inl ⟨rfl, _, _, rfl, written⟩

/-- Nothing of the settings is left unread. -/
theorem forall_property_iff : (∀ entry ∈ bag.ownProperties.entries, Property entry.1 entry.2) ↔
    ∀ key json, key ∉ Bag.reservedKeys → bag.get? key = some json → Property key json := by
  constructor
  · intro each key json own found
    exact each (key, json)
      (Table.mem_entries_iff.2 (Bag.get?_ownProperties_eq_some_iff.2 ⟨own, found⟩))
  · rintro each ⟨key, json⟩ listed
    obtain ⟨own, found⟩ := Bag.get?_ownProperties_eq_some_iff.1 (Table.mem_entries_iff.1 listed)
    exact each key json own found

theorem WrittenIn.property (written : settings.WrittenIn bag) {key : String} {json : Json}
    (own : key ∉ Bag.reservedKeys) (found : bag.get? key = some json) : Property key json := by
  have there : key ∈ bag.keys := Table.mem_keys_iff.2 (Option.isSome_of_eq_some found)
  rcases written.known key there with reserved | rfl | rfl
  · exact absurd reserved own
  · rcases written.mode with ⟨_, there, written⟩ | ⟨missing, -⟩
    · cases found.symm.trans there
      exact .mode written
    · cases found.symm.trans missing
  · rcases written.users with ⟨_, there, written⟩ | ⟨missing, -⟩
    · cases found.symm.trans there
      exact .users written
    · cases found.symm.trans missing

theorem decode_eq_ok_iff :
    format.decode bag.ownProperties.toJson = .ok settings ↔ settings.WrittenIn bag := by
  have mode_own : bag.ownProperties.entries.lookup "mode" = bag.get? "mode" :=
    Bag.get?_ownProperties (by decide)
  have users_own : bag.ownProperties.entries.lookup "users" = bag.get? "users" :=
    Bag.get?_ownProperties (by decide)
  rw [Bag.toJson, RecordFormat.decode_obj_eq_ok_iff, format.checkEntries_iff_admits rfl]
  simp only [admits_iff, forall_property_iff]
  simp only [format, Fields.ofEntries_andThen_iff, Field.inEntries_defaulted_iff,
    DirectoryMode.decode_eq_ok_iff, list_users_eq_ok_iff, mode_own, users_own]
  constructor
  · rintro ⟨each, _, users, ⟨_, mode, ⟨⟩, first, rfl⟩, second, rfl⟩
    refine ⟨fun key there => ?_, first, ?_⟩
    · obtain ⟨json, found⟩ := Option.isSome_iff_exists.1 (Table.mem_keys_iff.1 there)
      by_cases reserved : key ∈ Bag.reservedKeys
      · exact .inl reserved
      · rcases each key json reserved found with _ | _
        · exact .inr (.inl rfl)
        · exact .inr (.inr rfl)
    · rcases second with ⟨_, found, elements, rfl, listed⟩ | absent
      · exact .inl ⟨elements, found, listed⟩
      · exact .inr absent
  · intro written
    refine ⟨fun _ _ => written.property, _, settings.users,
      ⟨_, settings.mode, rfl, written.mode, rfl⟩, ?_, rfl⟩
    rcases written.users with ⟨elements, found, listed⟩ | absent
    · exact .inl ⟨_, found, elements, rfl, listed⟩
    · exact .inr absent

/-- A bag holds at most one setting of a directory. -/
theorem WrittenIn.unique {other : DirectorySettings} (written : settings.WrittenIn bag)
    (others : other.WrittenIn bag) : other = settings :=
  Except.ok.inj ((decode_eq_ok_iff.2 others).symm.trans (decode_eq_ok_iff.2 written))

/-- Every element under the users is an account. -/
theorem WrittenIn.account (written : settings.WrittenIn bag) {elements : List Json} {json : Json}
    (found : bag.get? "users" = some (.arr elements)) (listed : json ∈ elements) :
    ∃ user ∈ settings.users, user.Written json := by
  rcases written.users with ⟨_, there, each⟩ | ⟨missing, -⟩
  · cases found.symm.trans there
    obtain ⟨i, bound, rfl⟩ := List.getElem_of_mem listed
    have bound' : i < settings.users.length := each.length_eq ▸ bound
    exact ⟨settings.users[i], List.getElem_mem bound', each.get bound bound'⟩
  · cases found.symm.trans missing

/-- Null stands for a key of the settings, or for a property of an account. -/
inductive NullIn (bag : Bag) : Prop where
  | setting {key : String} (own : key ∉ ["order", "enabled", "type"])
      (found : bag.get? key = some .null)
  | property {elements : List Json} {fields : List (String × Json)} {key : String}
      (found : bag.get? "users" = some (.arr elements)) (listed : .obj fields ∈ elements)
      (null : (key, .null) ∈ fields)
  | element {elements values : List Json} (found : bag.get? "users" = some (.arr elements))
      (listed : .arr values ∈ elements) (null : .null ∈ values)

/-- Null is not another way to leave something out. -/
theorem WrittenIn.not_nullIn (written : settings.WrittenIn bag) : ¬ NullIn bag := by
  rintro (⟨own, found⟩ | ⟨found, listed, null⟩ | ⟨found, listed, null⟩)
  · obtain ⟨⟨⟩⟩ := written.property own found
  · obtain ⟨user, -, ⟨stands⟩⟩ := written.account found listed
    cases stands.known _ null
  · obtain ⟨user, -, stands⟩ := written.account found listed
    cases stands <;> simp at null

end DirectorySettings

/-! ## Sources -/

namespace Directory

variable {bag : Bag}

theorem settings?_eq_ok_iff {settings : DirectorySettings} :
    settings? bag = .ok settings ↔ settings.WrittenIn bag :=
  DirectorySettings.decode_eq_ok_iff

/-- An item builds if its bag holds settings. -/
theorem build_iff_writtenIn {item : String} :
    (∃ source, build item bag = .ok source) ↔
      ∃ settings : DirectorySettings, settings.WrittenIn bag := by
  simp only [build_eq_ok_iff, settings?_eq_ok_iff]
  constructor
  · rintro ⟨_, settings, written, -⟩
    exact ⟨settings, written⟩
  · rintro ⟨settings, written⟩
    exact ⟨_, settings, written, rfl⟩

/-- A source that is built serves the users that stand in the bag. -/
theorem serves_of_build {item : String} {source : Source} {settings : DirectorySettings}
    (built : build item bag = .ok source) (written : settings.WrittenIn bag) :
    source.Serves item settings := by
  obtain ⟨_, settled, rfl⟩ := build_eq_ok_iff.1 built
  obtain rfl := written.unique (settings?_eq_ok_iff.1 settled)
  exact source_serves item _

/-- What is not in the grammar is refused with the decoder's reason. -/
theorem build_eq_error (item : String)
    (bad : ∀ settings : DirectorySettings, ¬ settings.WrittenIn bag) :
    ∃ refusal, settings? bag = .error refusal ∧
      build item bag = .error ("invalid static identity configuration: " ++ refusal.message) := by
  unfold build
  cases read : settings? bag with
  | error refusal => exact ⟨refusal, rfl, rfl⟩
  | ok settings => exact absurd (settings?_eq_ok_iff.1 read) (bad settings)

end Directory

/-- An item builds a directory exactly if its bag is written in the grammar of settings, and another
bag is refused. What is built serves the settings that stand in the bag: it has a provider exactly
if the mode is that of sign-in or of both, a lookup service exactly if it is that of lookup or of
both, and either answers by the last listed entry of a user, and knows nobody else. A bag holds one
setting at most, and none if null stands where something could be left out. -/
theorem build_accepts_grammar (item : String) (bag : Bag) :
    ((∃ source, Directory.build item bag = .ok source) ↔
      ∃ settings : DirectorySettings, settings.WrittenIn bag) ∧
    ((∀ settings : DirectorySettings, ¬ settings.WrittenIn bag) → ∃ refusal : DecodeError,
      Directory.build item bag =
        .error ("invalid static identity configuration: " ++ refusal.message)) ∧
    (∀ source, Directory.build item bag = .ok source →
      ∀ settings : DirectorySettings, settings.WrittenIn bag → source.Serves item settings) ∧
    (∀ settings other : DirectorySettings, settings.WrittenIn bag → other.WrittenIn bag →
      other = settings) ∧
    (DirectorySettings.NullIn bag → ∀ settings : DirectorySettings, ¬ settings.WrittenIn bag) := by
  refine ⟨Directory.build_iff_writtenIn, fun bad => ?_,
    fun _ built _ written => Directory.serves_of_build built written,
    fun _ _ written => written.unique, fun null _ written => written.not_nullIn null⟩
  obtain ⟨refusal, -, refused⟩ := Directory.build_eq_error item bad
  exact ⟨refusal, refused⟩

namespace Rehearsal

/-- An account as an object, without a switch. -/
def annFields : List (String × Json) :=
  [("password", .str "secret"), ("roles", .arr [.str "reader"]), ("username", .str "ann")]

/-- A disabled account as an array. -/
def bobElements : List Json := [.str "bob", .str "hidden", .arr [], .bool false]

/-- The settings of a lookup service for the two, among reserved keys of odd values. -/
def lookupDesk : Bag := Table.ofList [("order", .null), ("enabled", .str "no"), ("type", .arr []),
  ("mode", .obj [("lookup", .null)]), ("users", .arr [.obj annFields, .arr bobElements])]

/-- The settings of a directory of one account, without a mode. -/
def openDesk : Bag := Table.ofList [("users", .arr [.arr bobElements])]

def ann : ListedUser := ⟨"ann", "secret", ["reader"], true⟩

def bob : ListedUser := ⟨"bob", "hidden", [], false⟩

theorem ann_standsIn : ann.StandsIn annFields := by
  refine ⟨?_, rfl, rfl, .inl rfl, .inr ⟨rfl, rfl⟩⟩
  simp only [annFields, List.forall_mem_cons]
  exact ⟨.password "secret", .roles ["reader"], .username "ann", nofun⟩

theorem bob_written : bob.Written (.arr bobElements) := .four "bob" "hidden" [] false

theorem writtenIn_lookupDesk : DirectorySettings.WrittenIn ⟨.lookup, [ann, bob]⟩ lookupDesk where
  known := by decide
  mode := .inl ⟨.obj [("lookup", .null)], by decide, .variant⟩
  users := .inl ⟨[.obj annFields, .arr bobElements], by decide,
    .cons (.object ann_standsIn) (.cons bob_written .nil)⟩

theorem writtenIn_openDesk : DirectorySettings.WrittenIn ⟨.both, [bob]⟩ openDesk where
  known := by decide
  mode := .inr ⟨by decide, rfl⟩
  users := .inl ⟨[.arr bobElements], by decide, .cons bob_written .nil⟩

end Rehearsal

/-- Reserved keys of odd values do not matter, a mode may be an object, and the accounts may be an
object and an array. What is built finds who is listed and nobody else. Without a mode it signs them
in as well. With null for the mode, or a misspelt switch, the item is refused. -/
theorem build_accepts_grammar_rehearsal :
    let typo : List (String × Json) := [("enabld", .bool false), ("password", .str "secret"),
      ("username", .str "ann")]
    let nullMode : Bag := Rehearsal.openDesk.insert "mode" .null
    let misspelt : Bag := Table.ofList [("users", .arr [.obj typo])]
    (∃ source service, Directory.build "desk" Rehearsal.lookupDesk = .ok source ∧
      source.provider?.isSome = false ∧ source.lookup? = some service ∧
      (∃ roles : Roles, (∀ role, role ∈ roles.names ↔ role ∈ ["reader"]) ∧
        service.reply "ann" = ⟨.found ⟨"ann", some "secret", true, roles⟩, .millis 0⟩) ∧
      service.reply "cat" = ⟨.notFound, .millis 0⟩) ∧
    (∃ source provider, Directory.build "desk" Rehearsal.openDesk = .ok source ∧
      source.provider? = some provider ∧ source.lookup?.isSome = true ∧
      provider.verify ⟨"bob", "hidden"⟩ = .error (.accountStatus "bob is disabled") ∧
      provider.verify ⟨"ann", "secret"⟩ = .error (.badCredentials "ann")) ∧
    (∃ reason, Directory.build "desk" nullMode = .error reason) ∧
    ∃ reason, Directory.build "desk" misspelt = .error reason := by
  intro typo nullMode misspelt
  have nullMode_null : nullMode.get? "mode" = some .null := Table.get?_insert_self _ _ _
  have misspelt_users : misspelt.get? "users" = some (.arr [.obj typo]) := by decide
  have unread : ∀ settings : DirectorySettings, ¬ settings.WrittenIn misspelt := by
    intro settings written
    obtain ⟨_, -, ⟨stands⟩⟩ := written.account misspelt_users List.mem_cons_self
    exact absurd (stands.known _ List.mem_cons_self).named (by decide)
  obtain ⟨builds, -, serves, -⟩ := build_accepts_grammar "desk" Rehearsal.lookupDesk
  obtain ⟨builds', -, serves', -⟩ := build_accepts_grammar "desk" Rehearsal.openDesk
  obtain ⟨-, refused, -, -, null⟩ := build_accepts_grammar "desk" nullMode
  obtain ⟨-, refused', -⟩ := build_accepts_grammar "desk" misspelt
  obtain ⟨source, built⟩ := builds.2 ⟨_, Rehearsal.writtenIn_lookupDesk⟩
  obtain ⟨source', built'⟩ := builds'.2 ⟨_, Rehearsal.writtenIn_openDesk⟩
  have served := serves source built _ Rehearsal.writtenIn_lookupDesk
  have served' := serves' source' built' _ Rehearsal.writtenIn_openDesk
  have noProvider : source.provider?.isSome = false := by
    rw [← Bool.not_eq_true, served.provider_iff]
    decide
  obtain ⟨service, offered⟩ := Option.isSome_iff_exists.1 (served.lookup_iff.2 (.inl rfl))
  obtain ⟨provider, offered'⟩ := Option.isSome_iff_exists.1 (served'.provider_iff.2 (.inr rfl))
  have answered := served.lookup offered
  have opened := served'.provider offered'
  have listed : DirectorySettings.last? ⟨.lookup, [Rehearsal.ann, Rehearsal.bob]⟩ "ann" =
      some Rehearsal.ann := by rfl
  have unlisted : ∀ user, DirectorySettings.last? ⟨.both, [Rehearsal.bob]⟩ "ann" = some user →
      user.password ≠ "secret" := nofun
  obtain ⟨refusal, error⟩ := refused (null (.setting (by decide) nullMode_null))
  obtain ⟨refusal', error'⟩ := refused' unread
  exact ⟨⟨source, service, built, noProvider, offered, answered.found listed, answered.unknown rfl⟩,
    ⟨source', provider, built', offered', served'.lookup_iff.2 (.inr rfl),
      opened.disabled rfl rfl rfl, opened.refused unlisted⟩,
    ⟨_, error⟩, ⟨_, error'⟩⟩

end IdentityChain
