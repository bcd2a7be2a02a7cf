import IdentityChain.Directory.Basic
import IdentityChain.Table.Lemmas
import Mathlib.Data.List.Induction

/-!
# The accounts of a static directory

The settings of a directory may list a user more than once. The last entry of
the user is the account (`Directory.get?_accounts`), and it alone decides what
the directory answers: `Directory.verify_answers` reads the answer to credentials
off it, and `Directory.find?_eq` the profile. An entry that a later one
overrides may as well not be there (`DirectorySettings.last?_without`).
-/

namespace IdentityChain

namespace Table

variable {α β : Type}

theorem lastOf_concat (es : List (String × α)) (k j : String) (v : α) :
    lastOf (es ++ [(k, v)]) j = if j = k then some v else lastOf es j := by
  rw [lastOf, List.reverse_append]
  exact lookup_cons_ite j k v es.reverse

/-- The last of some pairs under a key is made of the last value with the key. -/
theorem lastOf_map (key : β → String) (value : β → α) (values : List β) (k : String) :
    lastOf (values.map fun x => (key x, value x)) k =
      (values.filter (key · = k)).getLast?.map value := by
  induction values using List.reverseRecOn with
  | nil => rfl
  | append_singleton values last ih =>
    rw [List.map_append, List.map_singleton, lastOf_concat, ih, List.filter_append]
    by_cases here : k = key last
    · simp [here]
    · simp [here, Ne.symm here]

end Table

/-- A set of roles has the names of its list. -/
theorem Roles.mem_names_ofList {names : List String} {role : String} :
    role ∈ (ofList names).names ↔ role ∈ names := by
  rw [Roles.names, Table.mem_keys_iff, ofList, Table.get?_ofList,
    Table.lastOf_map (fun name => name)]
  simp

/-- The account that an entry describes. -/
def ListedUser.account (user : ListedUser) : Account :=
  ⟨user.password, Roles.ofList user.roles, user.enabled⟩

/-- The profile that an entry describes. -/
def ListedUser.profile (user : ListedUser) : Profile :=
  ⟨user.username, some user.password, user.enabled, Roles.ofList user.roles⟩

namespace DirectorySettings

variable {settings : DirectorySettings} {username : String}

/-- The last entry of a user. -/
def last? (settings : DirectorySettings) (username : String) : Option ListedUser :=
  (settings.users.filter (·.username = username)).getLast?

/-- The last entry of a user is one of the user's entries. -/
theorem mem_of_last? {user : ListedUser} (last : settings.last? username = some user) :
    user ∈ settings.users ∧ user.username = username := by
  have kept := List.mem_filter.1 (List.mem_of_getLast? last)
  exact ⟨kept.1, of_decide_eq_true kept.2⟩

/-- An entry that a later one overrides is nobody's last. -/
theorem last?_without {front rest : List ListedUser} {earlier later : ListedUser}
    (listed : settings.users = front ++ earlier :: rest) (after : later ∈ rest)
    (overrides : later.username = earlier.username) (username : String) :
    last? { settings with users := front ++ rest } username = settings.last? username := by
  rw [last?, last?, listed]
  by_cases its : earlier.username = username
  case neg => simp [List.filter_append, its]
  case pos =>
    -- The later entry is kept along with it, so it does not come last.
    have kept : later ∈ rest.filter (·.username = username) :=
      List.mem_filter.2 ⟨after, decide_eq_true (overrides.trans its)⟩
    obtain ⟨last, found⟩ : ∃ last, (rest.filter (·.username = username)).getLast? = some last :=
      Option.isSome_iff_exists.1 (List.getLast?_isSome.2 (List.ne_nil_of_mem kept))
    simp [List.filter_append, List.getLast?_append, List.getLast?_cons, its, found]

end DirectorySettings

namespace Directory

variable {item : String} {settings : DirectorySettings} {credentials : Credentials}

theorem get?_accounts (item : String) (settings : DirectorySettings) (username : String) :
    (ofSettings item settings).accounts.get? username =
      (settings.last? username).map ListedUser.account := by
  show (Table.ofList (settings.users.map fun user => (user.username, user.account))).get? username =
    _
  rw [Table.get?_ofList, Table.lastOf_map]
  rfl

/-- What is found of a user is in the last entry. -/
theorem find?_eq (item : String) (settings : DirectorySettings) (username : String) :
    (ofSettings item settings).find? username =
      (settings.last? username).map ListedUser.profile := by
  rw [find?, get?_accounts]
  cases last : settings.last? username with
  | none => rfl
  | some user =>
    obtain ⟨-, rfl⟩ := DirectorySettings.mem_of_last? last
    rfl

/-- What a directory answers, by the last entry of the user. -/
inductive Answers (item : String) (credentials : Credentials) :
    Option ListedUser → Except AuthenticationFault Authentication → Prop where
  | accepted {user : ListedUser} (right : user.password = credentials.password)
      (enabled : user.enabled = true) :
      Answers item credentials (some user)
        (.ok ⟨credentials.username, item, Roles.ofList user.roles⟩)
  | disabled {user : ListedUser} (right : user.password = credentials.password)
      (disabled : user.enabled = false) :
      Answers item credentials (some user)
        (.error (.accountStatus (credentials.username ++ " is disabled")))
  | wrong {user : ListedUser} (wrong : user.password ≠ credentials.password) :
      Answers item credentials (some user) (.error (.badCredentials credentials.username))
  | unlisted : Answers item credentials none (.error (.badCredentials credentials.username))

theorem verify_answers (item : String) (settings : DirectorySettings) (credentials : Credentials) :
    Answers item credentials (settings.last? credentials.username)
      ((ofSettings item settings).verify credentials) := by
  unfold verify
  rw [get?_accounts]
  cases settings.last? credentials.username with
  | none => exact .unlisted
  | some user =>
    show Answers item credentials (some user)
      (if user.password ≠ credentials.password then _
      else if user.enabled then _ else .error (.accountStatus _))
    by_cases wrong : user.password ≠ credentials.password
    · rw [if_pos wrong]
      exact .wrong wrong
    · rw [if_neg wrong]
      cases enabled : user.enabled with
      | true => exact .accepted (not_not.1 wrong) enabled
      | false => exact .disabled (not_not.1 wrong) enabled

namespace Answers

variable {entry : Option ListedUser} {answer other : Except AuthenticationFault Authentication}

theorem eq_ok_iff (answers : Answers item credentials entry answer) (signedIn : Authentication) :
    answer = .ok signedIn ↔
      ∃ user, entry = some user ∧ user.password = credentials.password ∧ user.enabled = true ∧
        signedIn = ⟨credentials.username, item, Roles.ofList user.roles⟩ := by
  cases answers with
  | @accepted user right enabled =>
    constructor
    · rintro ⟨⟩
      exact ⟨user, rfl, right, enabled, rfl⟩
    · rintro ⟨_, ⟨⟩, -, -, rfl⟩
      rfl
  | disabled _ disabled =>
    refine iff_of_false nofun ?_
    rintro ⟨_, ⟨⟩, -, enabled, -⟩
    cases enabled.symm.trans disabled
  | wrong wrong =>
    refine iff_of_false nofun ?_
    rintro ⟨_, ⟨⟩, right, -⟩
    exact wrong right
  | unlisted => exact iff_of_false nofun nofun

theorem eq_accountStatus_iff (answers : Answers item credentials entry answer) (reason : String) :
    answer = .error (.accountStatus reason) ↔
      (∃ user, entry = some user ∧ user.password = credentials.password ∧ user.enabled = false) ∧
        reason = credentials.username ++ " is disabled" := by
  cases answers with
  | accepted _ enabled =>
    refine iff_of_false nofun ?_
    rintro ⟨⟨_, ⟨⟩, -, disabled⟩, -⟩
    cases enabled.symm.trans disabled
  | @disabled user right disabled =>
    constructor
    · rintro ⟨⟩
      exact ⟨⟨user, rfl, right, disabled⟩, rfl⟩
    · rintro ⟨-, rfl⟩
      rfl
  | wrong wrong =>
    refine iff_of_false nofun ?_
    rintro ⟨⟨_, ⟨⟩, right, -⟩, -⟩
    exact wrong right
  | unlisted => exact iff_of_false nofun nofun

theorem eq_badCredentials_iff (answers : Answers item credentials entry answer) :
    answer = .error (.badCredentials credentials.username) ↔
      ∀ user, entry = some user → user.password ≠ credentials.password := by
  cases answers with
  | accepted right _ => exact iff_of_false nofun fun wrong => wrong _ rfl right
  | disabled right _ => exact iff_of_false nofun fun wrong => wrong _ rfl right
  | wrong wrong =>
    refine iff_of_true rfl ?_
    rintro _ ⟨⟩
    exact wrong
  | unlisted => exact iff_of_true rfl nofun

/-- The last entry leaves no choice of the answer. -/
theorem unique (answers : Answers item credentials entry answer)
    (others : Answers item credentials entry other) : answer = other := by
  cases answers with
  | @accepted user right enabled =>
    exact ((others.eq_ok_iff _).2 ⟨user, rfl, right, enabled, rfl⟩).symm
  | @disabled user right disabled =>
    exact ((others.eq_accountStatus_iff _).2 ⟨⟨user, rfl, right, disabled⟩, rfl⟩).symm
  | wrong wrong =>
    refine (others.eq_badCredentials_iff.2 ?_).symm
    rintro _ ⟨⟩
    exact wrong
  | unlisted => exact (others.eq_badCredentials_iff.2 nofun).symm

end Answers

end Directory

/-- The last entry of a user decides what a directory answers, and it alone: entries that it
overrides may as well not be listed. The credentials are accepted exactly if there is an entry, it
has the password and is enabled, and then with its set of roles; the account is reported exactly if
it has the password and is disabled; otherwise the credentials are bad. What is found of the user is
in the same entry, so the credentials are accepted exactly if what is found is enabled and has the
password, with the roles that are found. The password of an overridden entry is bad unless the last
one has it, too. -/
theorem last_entry_decides (item : String) (settings : DirectorySettings)
    (credentials : Credentials) :
    let directory := Directory.ofSettings item settings
    let answer := directory.verify credentials
    let found := directory.find? credentials.username
    let entry := settings.last? credentials.username
    (∀ signedIn, answer = .ok signedIn ↔
      ∃ user, entry = some user ∧ user.password = credentials.password ∧ user.enabled = true ∧
        signedIn = ⟨credentials.username, item, Roles.ofList user.roles⟩) ∧
    (∀ reason, answer = .error (.accountStatus reason) ↔
      (∃ user, entry = some user ∧ user.password = credentials.password ∧ user.enabled = false) ∧
        reason = credentials.username ++ " is disabled") ∧
    (answer = .error (.badCredentials credentials.username) ↔
      ∀ user, entry = some user → user.password ≠ credentials.password) ∧
    found = entry.map (fun user =>
      ⟨credentials.username, some user.password, user.enabled, Roles.ofList user.roles⟩) ∧
    (∀ names role, role ∈ (Roles.ofList names).names ↔ role ∈ names) ∧
    (∀ signedIn, answer = .ok signedIn ↔
      ∃ profile, found = some profile ∧ profile.enabled = true ∧
        profile.password = some credentials.password ∧
        signedIn = ⟨credentials.username, item, profile.roles⟩) ∧
    (∀ front earlier rest, settings.users = front ++ earlier :: rest →
      (∃ later ∈ rest, later.username = earlier.username) →
      let without := Directory.ofSettings item { settings with users := front ++ rest }
      without.verify credentials = answer ∧ without.find? credentials.username = found ∧
        (credentials = ⟨earlier.username, earlier.password⟩ →
          (∀ user, entry = some user → user.password ≠ earlier.password) →
          answer = .error (.badCredentials credentials.username))) ∧
    ∀ other : DirectorySettings, other.last? credentials.username = entry →
      (Directory.ofSettings item other).verify credentials = answer ∧
        (Directory.ofSettings item other).find? credentials.username = found := by
  intro directory answer found entry
  have answers : Directory.Answers item credentials entry answer :=
    Directory.verify_answers item settings credentials
  have found_eq : found = entry.map ListedUser.profile :=
    Directory.find?_eq item settings credentials.username
  have named : ∀ user, entry = some user → user.username = credentials.username :=
    fun user last => (DirectorySettings.mem_of_last? last).2
  have alone : ∀ other : DirectorySettings, other.last? credentials.username = entry →
      (Directory.ofSettings item other).verify credentials = answer ∧
        (Directory.ofSettings item other).find? credentials.username = found := by
    intro other same
    have others := Directory.verify_answers item other credentials
    rw [same] at others
    rw [Directory.find?_eq, same, found_eq]
    exact ⟨others.unique answers, rfl⟩
  refine ⟨answers.eq_ok_iff, answers.eq_accountStatus_iff, answers.eq_badCredentials_iff, ?found,
    fun _ _ => Roles.mem_names_ofList, ?agree, ?overridden, alone⟩
  case found =>
    rw [found_eq]
    cases last : entry with
    | none => rfl
    | some user =>
      rw [← named user last]
      rfl
  case agree =>
    intro signedIn
    rw [answers.eq_ok_iff, found_eq]
    constructor
    · rintro ⟨user, last, right, enabled, rfl⟩
      exact ⟨user.profile, by rw [last]; rfl, enabled, congrArg some right, rfl⟩
    · rintro ⟨profile, seen, enabled, right, rfl⟩
      obtain ⟨user, last, rfl⟩ := Option.map_eq_some_iff.1 seen
      exact ⟨user, last, Option.some.inj right, enabled, rfl⟩
  case overridden =>
    rintro front earlier rest listed ⟨later, after, overrides⟩
    have same := DirectorySettings.last?_without listed after overrides credentials.username
    obtain ⟨verified, looked⟩ := alone _ same
    refine ⟨verified, looked, ?_⟩
    rintro rfl wrong
    exact answers.eq_badCredentials_iff.2 wrong

/-- A user is listed twice, with another password and other roles, one of them twice. The last
entry's password is accepted and the other one is not, as if the first entry were not there; nor
does it matter who else is listed. -/
theorem last_entry_decides_rehearsal :
    let former : ListedUser := ⟨"ann", "old", ["admin"], true⟩
    let current : ListedUser := ⟨"ann", "secret", ["reader", "reader"], true⟩
    let gone : ListedUser := ⟨"bob", "secret", [], false⟩
    let settings : DirectorySettings := ⟨.both, [former, gone, current]⟩
    let directory := Directory.ofSettings "desk" settings
    let without := Directory.ofSettings "desk" ⟨.both, [gone, current]⟩
    let only := Directory.ofSettings "desk" ⟨.lookup, [current]⟩
    let signedIn : Authentication := ⟨"ann", "desk", Roles.ofList ["reader", "reader"]⟩
    directory.verify ⟨"ann", "secret"⟩ = .ok signedIn ∧
      directory.verify ⟨"ann", "old"⟩ = .error (.badCredentials "ann") ∧
      without.find? "ann" = directory.find? "ann" ∧
      only.verify ⟨"ann", "secret"⟩ = directory.verify ⟨"ann", "secret"⟩ ∧
      directory.verify ⟨"bob", "secret"⟩ = .error (.accountStatus "bob is disabled") := by
  intro former current gone settings directory without only signedIn
  have last : settings.last? "ann" = some current := by rfl
  have last' : settings.last? "bob" = some gone := by rfl
  obtain ⟨accepted, -, -, -, -, -, -, alone⟩ :=
    last_entry_decides "desk" settings ⟨"ann", "secret"⟩
  obtain ⟨-, -, -, -, -, -, overridden, -⟩ := last_entry_decides "desk" settings ⟨"ann", "old"⟩
  obtain ⟨-, disabled, -⟩ := last_entry_decides "desk" settings ⟨"bob", "secret"⟩
  obtain ⟨-, found, refused⟩ := overridden [] former [gone, current] rfl
    ⟨current, List.mem_cons_of_mem _ List.mem_cons_self, rfl⟩
  have other : ∀ user, settings.last? "ann" = some user → user.password ≠ "old" := by
    intro user same
    cases last.symm.trans same
    decide
  exact ⟨(accepted _).2 ⟨current, last, rfl, rfl, rfl⟩, refused rfl other, found,
    (alone ⟨.lookup, [current]⟩ (by rfl)).1, (disabled _).2 ⟨⟨gone, last', rfl, rfl⟩, rfl⟩⟩

end IdentityChain
