import IdentityChain.Catalog.SignIn
import IdentityChain.Proofs.Catalog.Chains
import IdentityChain.Proofs.Registry.Runs

/-!
# Who decides a sign-in

A provider decides a sign-in if it accepts the credentials, finds that the
account may not sign in, or fails (`Entry.Decides`); one that abstains or
refuses the credentials leaves it to those after it. A walk sees only the
providers that support the credentials (`signInAlong_filter`), and it either
ends at the first of them that decides (`FirstDecisive`) or asks them all
(`firstDecisive_or_undecided`). In the latter case the last refusal is the
answer, whatever abstentions come after it.

The induction along the chain carries the last refusal so far, which a later
one replaces and an abstention does not.
-/

namespace IdentityChain

namespace Entry

/-- What a provider that decides makes the answer: the sign-in under the name of its item, or its
fault. -/
inductive Decides (credentials : Credentials) (entry : Entry Provider) :
    Except Fault Authentication → Prop where
  | accepted {authentication : Authentication}
      (verified : entry.service.verify credentials = .ok (some authentication)) :
      Decides credentials entry (.ok { authentication with provider := entry.name })
  | suspended {reason : String}
      (verified : entry.service.verify credentials = .error (.accountStatus reason)) :
      Decides credentials entry (.error (.authentication (.accountStatus reason)))
  | broken {reason : String}
      (verified : entry.service.verify credentials = .error (.internal reason)) :
      Decides credentials entry (.error (.authentication (.internal reason)))

/-- The provider leaves the sign-in to those after it. -/
def Undecided (credentials : Credentials) (entry : Entry Provider) : Prop :=
  ∀ answer, ¬ entry.Decides credentials answer

/-- The reason for which the provider refuses the credentials, if it does. -/
def refusal? (credentials : Credentials) (entry : Entry Provider) : Option String :=
  match entry.service.verify credentials with
  | .error (.badCredentials reason) => some reason
  | .error (.accountStatus _) | .error (.internal _) | .ok _ => none

end Entry

/-- The walk along a chain ends at `entry`, the first provider that decides. -/
structure FirstDecisive (credentials : Credentials) (chain passed : List (Entry Provider))
    (entry : Entry Provider) (rest : List (Entry Provider))
    (answer : Except Fault Authentication) : Prop where
  chain_eq : chain = passed ++ entry :: rest
  undecided : ∀ other ∈ passed, other.Undecided credentials
  decides : entry.Decides credentials answer

namespace Snapshot

variable {credentials : Credentials} {chain passed rest : List (Entry Provider)}
  {entry : Entry Provider} {answer : Except Fault Authentication}

/-! ## One walk -/

theorem signInAlong_cons_unsupported (unsupported : entry.service.supports credentials = false)
    (rest : List (Entry Provider)) (refusal : Option String) :
    signInAlong credentials (entry :: rest) refusal = signInAlong credentials rest refusal := by
  rw [signInAlong, unsupported]
  rfl

theorem signInAlong_cons_decides (supported : entry.service.supports credentials = true)
    (decides : entry.Decides credentials answer) (rest : List (Entry Provider))
    (refusal : Option String) :
    signInAlong credentials (entry :: rest) refusal = (answer, [signInCall entry]) := by
  rw [signInAlong, supported]
  cases decides with
  | accepted verified => simp only [verified]; rfl
  | suspended verified => simp only [verified]; rfl
  | broken verified => simp only [verified]; rfl

/-- A provider that does not decide is called, and leaves its refusal behind if it has one. -/
theorem signInAlong_cons_undecided (supported : entry.service.supports credentials = true)
    (undecided : entry.Undecided credentials) (rest : List (Entry Provider))
    (refusal : Option String) :
    signInAlong credentials (entry :: rest) refusal =
      let onward := signInAlong credentials rest ((entry.refusal? credentials).or refusal)
      (onward.1, signInCall entry :: onward.2) := by
  rw [signInAlong, supported, Entry.refusal?]
  cases verified : entry.service.verify credentials with
  | ok found =>
    cases found with
    | none => rfl
    | some authentication => exact (undecided _ (.accepted verified)).elim
  | error cause =>
    cases cause with
    | badCredentials reason => rfl
    | accountStatus reason => exact (undecided _ (.suspended verified)).elim
    | internal reason => exact (undecided _ (.broken verified)).elim

/-- A walk does not see the providers that do not support the credentials. -/
theorem signInAlong_filter (credentials : Credentials) (chain : List (Entry Provider))
    (refusal : Option String) :
    signInAlong credentials (chain.filter (·.service.supports credentials)) refusal =
      signInAlong credentials chain refusal := by
  induction chain generalizing refusal with
  | nil => rfl
  | cons entry rest ih =>
    cases supported : entry.service.supports credentials with
    | false =>
      have dropped : ¬ entry.service.supports credentials = true := by
        rw [supported]
        exact Bool.false_ne_true
      rw [List.filter_cons, if_neg dropped, signInAlong_cons_unsupported supported, ih]
    | true =>
      rw [List.filter_cons, if_pos supported]
      by_cases decides : ∃ answer, entry.Decides credentials answer
      · obtain ⟨answer, decides⟩ := decides
        rw [signInAlong_cons_decides supported decides,
          signInAlong_cons_decides supported decides]
      · have undecided : entry.Undecided credentials := not_exists.1 decides
        rw [signInAlong_cons_undecided supported undecided,
          signInAlong_cons_undecided supported undecided, ih]

/-- A walk that ends calls the providers up to the one that decides, each once. -/
theorem signInAlong_of_firstDecisive
    (supported : ∀ entry ∈ chain, entry.service.supports credentials = true)
    (first : FirstDecisive credentials chain passed entry rest answer) (refusal : Option String) :
    signInAlong credentials chain refusal = (answer, (passed ++ [entry]).map signInCall) := by
  obtain ⟨rfl, undecided, decides⟩ := first
  induction passed generalizing refusal with
  | nil => exact signInAlong_cons_decides (supported entry List.mem_cons_self) decides rest refusal
  | cons other passed ih =>
    have others := ih ((other.refusal? credentials).or refusal)
      (fun other mem => undecided other (List.mem_cons_of_mem _ mem))
      (fun other mem => supported other (List.mem_cons_of_mem _ mem))
    rw [List.cons_append, signInAlong_cons_undecided (supported other List.mem_cons_self)
      (undecided other List.mem_cons_self), others]
    rfl

/-- The reason of the last provider of a chain that refuses the credentials. -/
def lastRefusal? (credentials : Credentials) (chain : List (Entry Provider)) : Option String :=
  (chain.filterMap (·.refusal? credentials)).getLast?

theorem lastRefusal?_cons (entry : Entry Provider) (rest : List (Entry Provider)) :
    lastRefusal? credentials (entry :: rest) =
      (lastRefusal? credentials rest).or (entry.refusal? credentials) := by
  unfold lastRefusal?
  rw [List.filterMap_cons]
  cases entry.refusal? credentials with
  | none => rw [Option.or_none]
  | some reason =>
    rw [List.getLast?_cons]
    cases (rest.filterMap (·.refusal? credentials)).getLast? <;> rfl

/-- A walk on which nobody decides calls every provider once, and ends in the last refusal. -/
theorem signInAlong_of_undecided
    (supported : ∀ entry ∈ chain, entry.service.supports credentials = true)
    (undecided : ∀ entry ∈ chain, entry.Undecided credentials) (refusal : Option String) :
    signInAlong credentials chain refusal =
      (.error (.authentication (.badCredentials
        (((lastRefusal? credentials chain).or refusal).getD credentials.username))),
        chain.map signInCall) := by
  induction chain generalizing refusal with
  | nil => rfl
  | cons entry rest ih =>
    have others := ih (fun other mem => supported other (List.mem_cons_of_mem _ mem))
      (fun other mem => undecided other (List.mem_cons_of_mem _ mem))
      ((entry.refusal? credentials).or refusal)
    rw [signInAlong_cons_undecided (supported entry List.mem_cons_self)
      (undecided entry List.mem_cons_self), others, lastRefusal?_cons, Option.or_assoc]
    rfl

/-- Every walk ends at a first provider that decides, or nobody decides. -/
theorem firstDecisive_or_undecided (credentials : Credentials) (chain : List (Entry Provider)) :
    (∃ passed entry rest answer, FirstDecisive credentials chain passed entry rest answer) ∨
    ∀ entry ∈ chain, entry.Undecided credentials := by
  induction chain with
  | nil => exact .inr fun entry mem => by cases mem
  | cons entry rest ih =>
    by_cases decides : ∃ answer, entry.Decides credentials answer
    · obtain ⟨answer, decides⟩ := decides
      exact .inl ⟨[], entry, rest, answer, rfl, fun other mem => (by cases mem), decides⟩
    · have undecided : entry.Undecided credentials := not_exists.1 decides
      rcases ih with ⟨passed, last, after, answer, first⟩ | others
      · refine .inl ⟨entry :: passed, last, after, answer, ?_, ?_, first.decides⟩
        · rw [first.chain_eq, List.cons_append]
        · exact List.forall_mem_cons.2 ⟨undecided, first.undecided⟩
      · exact .inr (List.forall_mem_cons.2 ⟨undecided, others⟩)

/-! ## One sign-in -/

/-- The enabled providers that support the credentials, in order. -/
def eligibleProviders (snapshot : Snapshot) (credentials : Credentials) : List (Entry Provider) :=
  snapshot.enabledProviders.filter (·.service.supports credentials)

theorem signIn_of_enabled {snapshot : Snapshot} (enabled : snapshot.enabledProviders ≠ [])
    (credentials : Credentials) :
    snapshot.signIn credentials =
      signInAlong credentials (snapshot.eligibleProviders credentials) none := by
  have some : ¬ snapshot.enabledProviders.isEmpty = true := fun none =>
    enabled (List.isEmpty_iff.1 none)
  rw [signIn, if_neg some, eligibleProviders, signInAlong_filter]

theorem supports_of_mem_eligibleProviders {snapshot : Snapshot}
    (member : entry ∈ snapshot.eligibleProviders credentials) :
    entry.service.supports credentials = true :=
  (List.mem_filter.1 member).2

/-- In a built snapshot the enabled providers stand in priority order; each one that is asked is
called once, and no other is called. -/
theorem signInCalls_of_build {snapshot : Snapshot} {factories : Table Factory} {version : Nat}
    {items : Configuration} (built : build factories version items = .ok snapshot)
    {asked : List (Entry Provider)} (part : asked <+: snapshot.eligibleProviders credentials) :
    snapshot.enabledProviders.Pairwise (fun a b => a.rank.Before b.rank) ∧
    ∀ entry ∈ snapshot.providers,
      (entry ∈ asked → ((asked.map signInCall).map (·.item)).count entry.name = 1) ∧
      (entry ∉ asked → ((asked.map signInCall).map (·.item)).count entry.name = 0) :=
  (chain_providers_of_build built).calls_to_enabled (fun _ => rfl)
    (part.sublist.trans List.filter_sublist)

end Snapshot

/-- Without an enabled provider nobody is asked and sign-in is not configured. Otherwise the enabled
providers that support the credentials are asked in order up to the first that decides, whose
decision is the answer; if none decides they are all asked, and the answer is the last refusal, or
the username if there is none. No provider is called twice, and no other one is called. -/
theorem signIn_decided_by_first (snapshot : Snapshot) (credentials : Credentials) :
    let outcome := snapshot.signIn credentials
    let eligible := snapshot.eligibleProviders credentials
    (snapshot.enabledProviders = [] → outcome = (.error .notConfigured, [])) ∧
    (snapshot.enabledProviders ≠ [] → ∃ asked : List (Entry Provider),
      outcome.2 = asked.map Snapshot.signInCall ∧
      ((∃ passed entry rest, FirstDecisive credentials eligible passed entry rest outcome.1 ∧
          asked = passed ++ [entry]) ∨
        ((∀ entry ∈ eligible, entry.Undecided credentials) ∧ asked = eligible ∧
          outcome.1 = .error (.authentication (.badCredentials
            ((Snapshot.lastRefusal? credentials eligible).getD credentials.username))))) ∧
      ∀ factories version items, Snapshot.build factories version items = .ok snapshot →
        snapshot.enabledProviders.Pairwise (fun a b => a.rank.Before b.rank) ∧
        ∀ entry ∈ snapshot.providers,
          (entry ∈ asked → (outcome.2.map (·.item)).count entry.name = 1) ∧
          (entry ∉ asked → (outcome.2.map (·.item)).count entry.name = 0)) := by
  intro outcome eligible
  refine ⟨fun none => ?_, fun enabled => ?_⟩
  · show snapshot.signIn credentials = _
    rw [Snapshot.signIn, none]
    rfl
  · have walk : outcome = Snapshot.signInAlong credentials eligible none :=
      Snapshot.signIn_of_enabled enabled credentials
    have supported : ∀ entry ∈ eligible, entry.service.supports credentials = true :=
      fun _ member => Snapshot.supports_of_mem_eligibleProviders member
    rcases Snapshot.firstDecisive_or_undecided credentials eligible with
      ⟨passed, entry, rest, answer, first⟩ | undecided
    · rw [Snapshot.signInAlong_of_firstDecisive supported first none] at walk
      have begins : (passed ++ [entry]) <+: eligible :=
        ⟨rest, by rw [first.chain_eq, List.append_assoc, List.singleton_append]⟩
      rw [walk]
      exact ⟨passed ++ [entry], rfl, .inl ⟨passed, entry, rest, first, rfl⟩,
        fun _ _ _ built => Snapshot.signInCalls_of_build built begins⟩
    · rw [Snapshot.signInAlong_of_undecided supported undecided none, Option.or_none] at walk
      rw [walk]
      exact ⟨eligible, rfl, .inr ⟨undecided, rfl, rfl⟩,
        fun _ _ _ built => Snapshot.signInCalls_of_build built (List.prefix_refl _)⟩

namespace Rehearsal

/-- A scripted provider. -/
def provider (item : String) (order : Int64) (enabled : Bool) (mode : ScriptMode)
    (users unsupported : List String) : Entry Provider :=
  ⟨item, some order, enabled,
    Script.toProvider ⟨item, "A", mode, users, [], unsupported, .empty, 0⟩⟩

/-- The bag of a scripted provider. -/
def providerBag (order : Int) (script : List (String × Json)) : Bag :=
  Table.ofList ([("order", .int order), ("role", .str "provider"), ("type", .str "stub")] ++ script)

/-- Of five providers one is disabled, one does not support the user, and two abstain. -/
def gates : Configuration :=
  let users : String × Json := ("users", .arr [.str "ann"])
  Table.ofList [("off", providerBag 0 [("enabled", .bool false), users]),
    ("other", providerBag 1 [("unsupported", .arr [.str "ann"])]),
    ("mute", providerBag 2 [("mode", .str "abstain")]), ("strict", providerBag 3 [users]),
    ("tired", providerBag 4 [("mode", .str "abstain")])]

def gatesSnapshot : Snapshot :=
  ⟨1, [provider "off" 0 false .normal ["ann"] [], provider "other" 1 true .normal [] ["ann"],
    provider "mute" 2 true .abstain [] [], provider "strict" 3 true .normal ["ann"] [],
    provider "tired" 4 true .abstain [] []], []⟩

end Rehearsal

/-- A wrong password: the refusal outlasts the abstention after it, and neither the disabled
provider nor the one that does not support the user is called. -/
theorem signIn_decided_by_first_rehearsal :
    let snapshot := Rehearsal.gatesSnapshot
    let outcome := snapshot.signIn ⟨"ann", "guess"⟩
    Snapshot.build Rehearsal.factories 1 Rehearsal.gates = .ok snapshot ∧
      snapshot.enabledProviders ≠ [] ∧
      outcome.1 = .error (.authentication (.badCredentials "strict rejected ann")) ∧
      (outcome.2.map (·.item)).count "tired" = 1 ∧
      (outcome.2.map (·.item)).count "other" = 0 := by
  intro snapshot outcome
  have built : Snapshot.build Rehearsal.factories 1 Rehearsal.gates = .ok snapshot := by rfl
  have enabled : snapshot.enabledProviders ≠ [] := fun none => by cases none
  have refused : outcome.1 = .error (.authentication (.badCredentials "strict rejected ann")) := by
    rfl
  obtain ⟨asked, -, ends, counted⟩ := (signIn_decided_by_first snapshot ⟨"ann", "guess"⟩).2 enabled
  obtain ⟨-, counts⟩ := counted _ _ _ built
  rcases ends with ⟨passed, entry, rest, first, -⟩ | ⟨-, all, -⟩
  · -- Nobody's decision is a refusal.
    have decides := first.decides
    rw [refused] at decides
    cases decides
  · let other := Rehearsal.provider "other" 1 true .normal [] ["ann"]
    let tired := Rehearsal.provider "tired" 4 true .abstain [] []
    have otherListed : other ∈ snapshot.providers := .tail _ (.head _)
    have tiredListed : tired ∈ snapshot.providers := .tail _ (.tail _ (.tail _ (.tail _ (.head _))))
    have tiredAsked : tired ∈ asked := by
      rw [all]
      exact .tail _ (.tail _ (.head _))
    have otherNotAsked : other ∉ asked := by
      rw [all]
      intro asked
      cases (Snapshot.supports_of_mem_eligibleProviders asked)
    exact ⟨built, enabled, refused, (counts tired tiredListed).1 tiredAsked,
      (counts other otherListed).2 otherNotAsked⟩

end IdentityChain
