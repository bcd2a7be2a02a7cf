import IdentityChain.Proofs.Catalog.Participation
import IdentityChain.Proofs.Directory.Sources
import IdentityChain.Proofs.SignIn.Deciding

/-!
# What a failed sign-in discloses

A static directory looks at the password before it looks at anything else of an
account, so it answers a guess in one way unless the guess opens it
(`Directory.verify_step`). Such an answer leaves the sign-in undecided, and one
that the guess does open decides it. Along a chain of directories the walk
therefore ends in the same refusal of the username whenever the guess opens none
of them, whatever accounts they hold, and in something else whenever it opens
one.
-/

namespace IdentityChain

/-! ## One directory -/

namespace Directory

/-- The credentials open the directory: the account of the username has the password. -/
def Opens (directory : Directory) (credentials : Credentials) : Prop :=
  ∃ account, directory.accounts.get? credentials.username = some account ∧
    account.password = credentials.password

/-- The answers of a directory. -/
inductive VerifyStep (directory : Directory) (credentials : Credentials) :
    Except AuthenticationFault Authentication → Prop where
  | refused (closed : ¬ directory.Opens credentials) :
      VerifyStep directory credentials (.error (.badCredentials credentials.username))
  | accepted {roles : Roles} (opens : directory.Opens credentials) :
      VerifyStep directory credentials (.ok ⟨credentials.username, directory.item, roles⟩)
  | suspended {reason : String} (opens : directory.Opens credentials) :
      VerifyStep directory credentials (.error (.accountStatus reason))

theorem verify_step (directory : Directory) (credentials : Credentials) :
    VerifyStep directory credentials (directory.verify credentials) := by
  unfold verify
  cases found : directory.accounts.get? credentials.username with
  | none =>
    refine .refused ?_
    rintro ⟨account, known, -⟩
    cases found.symm.trans known
  | some account =>
    dsimp only
    by_cases wrong : account.password ≠ credentials.password
    · rw [if_pos wrong]
      refine .refused ?_
      rintro ⟨other, known, right⟩
      cases found.symm.trans known
      exact wrong right
    · have opens : directory.Opens credentials := ⟨account, found, not_not.1 wrong⟩
      rw [if_neg wrong]
      cases account.enabled with
      | true => exact .accepted opens
      | false => exact .suspended opens

end Directory

namespace Entry

variable {credentials : Credentials} {entry : Entry Provider} {directory : Directory}

/-- The answer of a directory's entry is that of the directory. -/
theorem verify_of_directory (listed : entry.service = directory.toProvider)
    (credentials : Credentials) :
    entry.service.verify credentials = (directory.verify credentials).map some := by
  rw [listed]
  rfl

/-- A directory that the credentials open decides. -/
theorem decides_of_opens (listed : entry.service = directory.toProvider)
    (opens : directory.Opens credentials) : ∃ answer, entry.Decides credentials answer := by
  have verified := verify_of_directory listed credentials
  have step := directory.verify_step credentials
  generalize directory.verify credentials = result at verified step
  cases step with
  | refused closed => exact (closed opens).elim
  | accepted opens => exact ⟨_, .accepted verified⟩
  | suspended opens => exact ⟨_, .suspended verified⟩

/-- A directory that the credentials do not open refuses the username. -/
theorem verify_of_closed (listed : entry.service = directory.toProvider)
    (closed : ¬ directory.Opens credentials) :
    entry.service.verify credentials = .error (.badCredentials credentials.username) := by
  rw [verify_of_directory listed]
  have step := directory.verify_step credentials
  generalize directory.verify credentials = result at step
  cases step with
  | refused closed => rfl
  | accepted opens => exact (closed opens).elim
  | suspended opens => exact (closed opens).elim

/-- Who refuses the credentials does not decide. -/
theorem undecided_of_refused {reason : String}
    (verified : entry.service.verify credentials = .error (.badCredentials reason)) :
    entry.Undecided credentials := by
  intro answer decides
  cases decides with
  | accepted verified' => cases verified.symm.trans verified'
  | suspended verified' => cases verified.symm.trans verified'
  | broken verified' => cases verified.symm.trans verified'

/-- Nobody's decision is a refusal of the credentials. -/
theorem Decides.ne_refusal {answer : Except Fault Authentication}
    (decides : entry.Decides credentials answer) (reason : String) :
    answer ≠ .error (.authentication (.badCredentials reason)) := by
  cases decides <;> nofun

end Entry

/-! ## Chains of directories -/

namespace Snapshot

variable {snapshot : Snapshot} {credentials : Credentials}

/-- There are enabled providers, and they are static directories. -/
structure StaticChain (snapshot : Snapshot) : Prop where
  enabled : snapshot.enabledProviders ≠ []
  directories : ∀ entry ∈ snapshot.enabledProviders,
    ∃ directory : Directory, entry.service = directory.toProvider

/-- Some enabled provider is a directory that the credentials open. -/
def Opens (snapshot : Snapshot) (credentials : Credentials) : Prop :=
  ∃ entry ∈ snapshot.enabledProviders, ∃ directory : Directory,
    entry.service = directory.toProvider ∧ directory.Opens credentials

/-- The last refusal is somebody's. -/
theorem refusal?_of_lastRefusal? {chain : List (Entry Provider)} {reason : String}
    (last : lastRefusal? credentials chain = some reason) :
    ∃ entry ∈ chain, entry.refusal? credentials = some reason :=
  List.mem_filterMap.1 (List.mem_of_getLast? last)

/-- A directory supports all credentials. -/
theorem StaticChain.eligibleProviders_eq (chain : snapshot.StaticChain)
    (credentials : Credentials) :
    snapshot.eligibleProviders credentials = snapshot.enabledProviders := by
  refine List.filter_eq_self.2 fun entry member => ?_
  obtain ⟨directory, listed⟩ := chain.directories entry member
  rw [listed]
  rfl

/-- Credentials that open no directory are refused by their username. -/
theorem StaticChain.signIn_of_closed (chain : snapshot.StaticChain)
    (closed : ¬ snapshot.Opens credentials) :
    (snapshot.signIn credentials).1 =
      .error (.authentication (.badCredentials credentials.username)) := by
  have refused : ∀ entry ∈ snapshot.enabledProviders,
      entry.service.verify credentials = .error (.badCredentials credentials.username) := by
    intro entry member
    obtain ⟨directory, listed⟩ := chain.directories entry member
    refine Entry.verify_of_closed listed fun opens => ?_
    exact closed ⟨entry, member, directory, listed, opens⟩
  have undecided : ∀ entry ∈ snapshot.eligibleProviders credentials,
      entry.Undecided credentials := by
    rw [chain.eligibleProviders_eq]
    exact fun entry member => Entry.undecided_of_refused (refused entry member)
  rw [signIn_of_enabled chain.enabled, signInAlong_of_undecided
    (fun _ member => supports_of_mem_eligibleProviders member) undecided, Option.or_none,
    chain.eligibleProviders_eq]
  -- Whoever has the last word, it is the username.
  cases last : lastRefusal? credentials snapshot.enabledProviders with
  | none => rfl
  | some reason =>
    obtain ⟨entry, member, said⟩ := refusal?_of_lastRefusal? last
    rw [Entry.refusal?, refused entry member] at said
    cases said
    rfl

/-- Credentials that open a directory are not refused, whoever refuses them before. -/
theorem StaticChain.signIn_of_opens (chain : snapshot.StaticChain)
    (opens : snapshot.Opens credentials) (reason : String) :
    (snapshot.signIn credentials).1 ≠ .error (.authentication (.badCredentials reason)) := by
  obtain ⟨entry, member, directory, listed, opens⟩ := opens
  obtain ⟨decision, decides⟩ := Entry.decides_of_opens listed opens
  rw [signIn_of_enabled chain.enabled]
  rcases firstDecisive_or_undecided credentials (snapshot.eligibleProviders credentials) with
    ⟨passed, first, rest, answer, walk⟩ | undecided
  · rw [signInAlong_of_firstDecisive
      (fun _ member => supports_of_mem_eligibleProviders member) walk]
    exact walk.decides.ne_refusal reason
  · rw [chain.eligibleProviders_eq] at undecided
    exact (undecided entry member decision decides).elim

/-- Where the items in service are all static directories, their chain is one. -/
theorem staticChain_of_build {factories : Table Factory} {items : Configuration} {version : Nat}
    (built : build factories version items = .ok snapshot)
    (known : factories.get? Directory.kind = some Directory.factory)
    (static : items.inService.AllStatic) (enabled : snapshot.enabledProviders ≠ []) :
    snapshot.StaticChain where
  enabled := enabled
  directories entry member := by
    have described : entry.BuiltFrom factories items.inService Source.provider? :=
      (mem_enabled_iff fun _ => mem_providers_iff built).1 member
    obtain ⟨bag, settings, -, -, listed⟩ := described.directory static known
    exact ⟨_, listed⟩

end Snapshot

/-- Over a chain of static directories the answer to a sign-in is the refusal of the username
exactly if the credentials open no enabled directory. So two guesses at one username that open
nothing are answered alike, by whatever such chains: nothing tells an unknown user from a wrong
password or a disabled account. -/
theorem signIn_hides_accounts {snapshot : Snapshot} (chain : snapshot.StaticChain)
    (credentials : Credentials) :
    ((snapshot.signIn credentials).1 =
        .error (.authentication (.badCredentials credentials.username)) ↔
      ¬ snapshot.Opens credentials) ∧
    ∀ (other : Snapshot) (guess : Credentials), other.StaticChain →
      guess.username = credentials.username →
      ¬ snapshot.Opens credentials → ¬ other.Opens guess →
      (snapshot.signIn credentials).1 = (other.signIn guess).1 := by
  refine ⟨⟨fun refused opens => ?_, chain.signIn_of_closed⟩, ?_⟩
  · exact chain.signIn_of_opens opens credentials.username refused
  · intro other guess chain' same closed closed'
    rw [chain.signIn_of_closed closed, chain'.signIn_of_closed closed', same]

namespace Rehearsal

/-- A directory that lists a user twice, one that has the user disabled, and a disabled one. -/
def halls : Configuration :=
  Table.ofList [("attic", (directoryBag 0 "both" [account "ann" "old" true]).withEnabled false),
    ("hall", directoryBag 1 "both" [account "ann" "old" true, account "ann" "secret" true]),
    ("side", directoryBag 2 "provider" [account "ann" "hidden" false])]

/-- A directory that does not list the user. -/
def elsewhere : Configuration :=
  Table.ofList [("hall", directoryBag 1 "both" [account "bob" "guess" true])]

/-- Who refuses a user has an enabled provider. -/
theorem staticChain_of_refused {items : Configuration} {snapshot : Snapshot}
    {credentials : Credentials} {cause : AuthenticationFault}
    (built : Snapshot.build staticFactories 1 items = .ok snapshot)
    (static : items.inService.AllStatic)
    (refused : (snapshot.signIn credentials).1 = .error (.authentication cause)) :
    snapshot.StaticChain := by
  refine Snapshot.staticChain_of_build built (by rfl) static fun none => ?_
  rw [Snapshot.signIn, none] at refused
  cases refused

end Rehearsal

/-- A password that is superseded in one directory and opens only a disabled one is answered like a
guess at a user who is not listed at all. -/
theorem signIn_hides_accounts_rehearsal :
    ∃ known unknown,
      Snapshot.build Rehearsal.staticFactories 1 Rehearsal.halls = .ok known ∧
      Snapshot.build Rehearsal.staticFactories 1 Rehearsal.elsewhere = .ok unknown ∧
      known.StaticChain ∧ unknown.StaticChain ∧ ¬ known.Opens ⟨"ann", "old"⟩ ∧
      (known.signIn ⟨"ann", "old"⟩).1 = (unknown.signIn ⟨"ann", "guess"⟩).1 := by
  obtain ⟨known, built⟩ : ∃ snapshot,
      Snapshot.build Rehearsal.staticFactories 1 Rehearsal.halls = .ok snapshot := ⟨_, rfl⟩
  obtain ⟨unknown, built'⟩ : ∃ snapshot,
      Snapshot.build Rehearsal.staticFactories 1 Rehearsal.elsewhere = .ok snapshot := ⟨_, rfl⟩
  have refused : (Snapshot.build Rehearsal.staticFactories 1 Rehearsal.halls).map
      (fun snapshot => (snapshot.signIn ⟨"ann", "old"⟩).1) =
      .ok (.error (.authentication (.badCredentials "ann"))) := by rfl
  have refused' : (Snapshot.build Rehearsal.staticFactories 1 Rehearsal.elsewhere).map
      (fun snapshot => (snapshot.signIn ⟨"ann", "guess"⟩).1) =
      .ok (.error (.authentication (.badCredentials "ann"))) := by rfl
  rw [built] at refused
  rw [built'] at refused'
  have chain : known.StaticChain :=
    Rehearsal.staticChain_of_refused built (by decide +kernel) (Except.ok.inj refused)
  have chain' : unknown.StaticChain :=
    Rehearsal.staticChain_of_refused built' (by decide +kernel) (Except.ok.inj refused')
  obtain ⟨closed, alike⟩ := signIn_hides_accounts chain ⟨"ann", "old"⟩
  obtain ⟨closed', -⟩ := signIn_hides_accounts chain' ⟨"ann", "guess"⟩
  have shut := closed.1 (Except.ok.inj refused)
  have shut' := closed'.1 (Except.ok.inj refused')
  exact ⟨known, unknown, built, built', chain, chain', shut, alike unknown _ chain' rfl shut shut'⟩

end IdentityChain
