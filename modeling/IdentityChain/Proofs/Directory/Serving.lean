import IdentityChain.Proofs.Directory.Accounts
import IdentityChain.Proofs.Directory.Sources

/-!
# What a static directory serves

What the two capabilities of a directory answer, said of the listed users alone:
for every username the last entry decides, with its roles as a set, and whoever
is not listed is unknown (`Provider.Serves`, `LookupService.Serves`). The mode
says which of the two a source has (`Source.Serves`).
-/

namespace IdentityChain

variable {item : String} {settings : DirectorySettings}

/-- The provider signs in exactly the listed users, by their last entries. -/
structure Provider.Serves (provider : Provider) (item : String) (settings : DirectorySettings) :
    Prop where
  supports : ∀ credentials, provider.supports credentials = true
  accepted : ∀ {credentials user}, settings.last? credentials.username = some user →
    user.password = credentials.password → user.enabled = true →
    ∃ roles : Roles, (∀ role, role ∈ roles.names ↔ role ∈ user.roles) ∧
      provider.verify credentials = .ok (some ⟨credentials.username, item, roles⟩)
  disabled : ∀ {credentials user}, settings.last? credentials.username = some user →
    user.password = credentials.password → user.enabled = false →
    provider.verify credentials =
      .error (.accountStatus (credentials.username ++ " is disabled"))
  /-- Whoever is not listed has no right password. -/
  refused : ∀ {credentials}, (∀ user, settings.last? credentials.username = some user →
      user.password ≠ credentials.password) →
    provider.verify credentials = .error (.badCredentials credentials.username)

/-- The lookup service finds exactly the listed users, at once and by their last entries. -/
structure LookupService.Serves (service : LookupService) (settings : DirectorySettings) :
    Prop where
  found : ∀ {username user}, settings.last? username = some user →
    ∃ roles : Roles, (∀ role, role ∈ roles.names ↔ role ∈ user.roles) ∧
      service.reply username =
        ⟨.found ⟨username, some user.password, user.enabled, roles⟩, .millis 0⟩
  unknown : ∀ {username}, settings.last? username = none →
    service.reply username = ⟨.notFound, .millis 0⟩

/-- The source has the capabilities of the mode, and each of them serves the listed users. -/
structure Source.Serves (source : Source) (item : String) (settings : DirectorySettings) :
    Prop where
  provider_iff : source.provider?.isSome = true ↔
    settings.mode = .signIn ∨ settings.mode = .both
  lookup_iff : source.lookup?.isSome = true ↔ settings.mode = .lookup ∨ settings.mode = .both
  provider : ∀ {provider}, source.provider? = some provider → provider.Serves item settings
  lookup : ∀ {service}, source.lookup? = some service → service.Serves settings

namespace Directory

theorem provider_serves (item : String) (settings : DirectorySettings) :
    (ofSettings item settings).toProvider.Serves item settings where
  supports _ := rfl
  accepted {credentials user} last right enabled := by
    refine ⟨Roles.ofList user.roles, fun _ => Roles.mem_names_ofList, ?_⟩
    have answer := ((verify_answers item settings credentials).eq_ok_iff _).2
      ⟨user, last, right, enabled, rfl⟩
    exact congrArg (Except.map some) answer
  disabled {credentials user} last right disabled := by
    have answer := ((verify_answers item settings credentials).eq_accountStatus_iff _).2
      ⟨⟨user, last, right, disabled⟩, rfl⟩
    exact congrArg (Except.map some) answer
  refused {credentials} wrong := by
    have answer := (verify_answers item settings credentials).eq_badCredentials_iff.2 wrong
    exact congrArg (Except.map some) answer

theorem lookup_serves (item : String) (settings : DirectorySettings) :
    (ofSettings item settings).toLookupService.Serves settings where
  found {username user} last := by
    refine ⟨Roles.ofList user.roles, fun _ => Roles.mem_names_ofList, ?_⟩
    obtain ⟨-, rfl⟩ := DirectorySettings.mem_of_last? last
    simp only [toLookupService, find?_eq, last]
    rfl
  unknown {username} unlisted := by
    simp only [toLookupService, find?_eq, unlisted]
    rfl

theorem source_serves (item : String) (settings : DirectorySettings) :
    ((ofSettings item settings).toSource settings.mode).Serves item settings where
  provider_iff := by
    simp only [Option.isSome_iff_exists, provider?_toSource_eq_some_iff, exists_and_left,
      exists_eq, and_true]
  lookup_iff := by
    simp only [Option.isSome_iff_exists, lookup?_toSource_eq_some_iff, exists_and_left,
      exists_eq, and_true]
  provider offered := by
    obtain ⟨-, rfl⟩ := provider?_toSource_eq_some_iff.1 offered
    exact provider_serves item settings
  lookup offered := by
    obtain ⟨-, rfl⟩ := lookup?_toSource_eq_some_iff.1 offered
    exact lookup_serves item settings

end Directory

end IdentityChain
