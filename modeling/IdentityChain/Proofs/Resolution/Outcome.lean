import IdentityChain.Proofs.Catalog.Sequences
import IdentityChain.Proofs.Resolution.Walking

/-!
# What a resolution does

The whole of a resolution: its result, the services it asks, and what becomes of
the cache. The chain alone decides which services are asked
(`FirstFound.unique`). In the chain of a built snapshot no two services share a
name, so that the calls to a service can be counted by its name: it is called
once if it is asked, and otherwise not at all (`Chain.count_calls`).
-/

namespace IdentityChain

namespace FirstFound

variable {username : String} {timeout : Nat} {chain passed rest : List (Entry LookupService)}
  {entry : Entry LookupService} {profile : Profile}

/-- Where two walks along one chain end, neither goes on. -/
theorem passed_eq_nil {others rest' : List (Entry LookupService)} {entry' : Entry LookupService}
    (answered : (entry.service.reply username).inTime timeout = .found profile)
    (silent : ∀ other ∈ others, other.Silent username timeout)
    (same : entry :: rest = others ++ entry' :: rest') : others = [] := by
  cases others with
  | nil => rfl
  | cons first others =>
    cases same
    exact (silent entry List.mem_cons_self profile answered).elim

/-- The chain decides which services are asked. -/
theorem unique {passed' rest' : List (Entry LookupService)} {entry' : Entry LookupService}
    {profile' : Profile} (found : FirstFound username timeout chain passed entry rest profile)
    (found' : FirstFound username timeout chain passed' entry' rest' profile') :
    passed' = passed ∧ entry' = entry := by
  have same : passed ++ entry :: rest = passed' ++ entry' :: rest' :=
    found.chain_eq.symm.trans found'.chain_eq
  rcases List.append_eq_append_iff.1 same with ⟨others, longer, tail⟩ | ⟨others, shorter, tail⟩
  · have none : others = [] := by
      refine passed_eq_nil found.answered (fun other mem => found'.silent other ?_) tail
      rw [longer]
      exact List.mem_append_right _ mem
    subst none
    cases tail
    exact ⟨by rw [longer, List.append_nil], rfl⟩
  · have none : others = [] := by
      refine passed_eq_nil found'.answered (fun other mem => found.silent other ?_) tail
      rw [shorter]
      exact List.mem_append_right _ mem
    subst none
    cases tail
    exact ⟨by rw [shorter, List.append_nil], rfl⟩

end FirstFound

namespace Snapshot

variable {snapshot : Snapshot}

/-- In a built snapshot the services that are asked stand in priority order; each is called once,
and no other is called. -/
theorem calls_of_build {factories : Table Factory} {version : Nat} {items : Configuration}
    (built : build factories version items = .ok snapshot) {asked : List (Entry LookupService)}
    (part : asked <+: snapshot.enabledLookups) :
    snapshot.enabledLookups.Pairwise (fun a b => a.rank.key < b.rank.key) ∧
    ∀ entry ∈ snapshot.lookups,
      (entry ∈ asked → ((asked.map lookupCall).map (·.item)).count entry.name = 1) ∧
      (entry ∉ asked → ((asked.map lookupCall).map (·.item)).count entry.name = 0) := by
  have called : ∀ entry : Entry LookupService, (lookupCall entry).item = entry.name := fun _ => rfl
  obtain ⟨ascending, counted⟩ :=
    (chain_lookups_of_build built).calls_to_enabled called part.sublist
  exact ⟨ascending.imp Rank.before_iff_key_lt.1, counted⟩

theorem mem_enabledLookups_iff {entry : Entry LookupService} :
    entry ∈ snapshot.enabledLookups ↔ entry ∈ snapshot.lookups ∧ entry.enabled = true :=
  List.mem_filter

end Snapshot

/-- A resolution is served from the cache without a call if the record there is fresh. Otherwise it
asks the enabled services in order up to the first that finds the user within the timeout, returns
what that one says, and holds it under the name that it says, every other record as before; if there
is none it asks them all, fails, and the user's record is gone, and no other. No service is called
twice, and failed or late answers count as answers that the user is unknown. -/
theorem resolve_asks_up_to_first (snapshot : Snapshot) (limits : ResolutionLimits) (now : Instant)
    (cache : UserCache) (username : String) :
    let outcome := snapshot.resolve limits now cache username
    let silenced := (snapshot.silenced limits.timeout).resolve limits now cache username
    (∀ entry, entry ∈ snapshot.enabledLookups ↔
      entry ∈ snapshot.lookups ∧ entry.enabled = true) ∧
    (∀ reply profile, LookupReply.inTime reply limits.timeout = .found profile ↔
      reply.outcome = .found profile ∧ ∃ n ≤ limits.timeout, reply.latency = .millis n) ∧
    ∃ asked : List (Entry LookupService),
      outcome.calls = asked.map Snapshot.lookupCall ∧
      (∀ record, cache.find? username = some record → record.isFreshAt now limits.ttl = true →
        asked = [] ∧ outcome.result = .ok record ∧ outcome.cache = cache) ∧
      ((∀ record, cache.find? username = some record →
          record.isFreshAt now limits.ttl = false) →
        (∀ passed entry rest profile,
          FirstFound username limits.timeout snapshot.enabledLookups passed entry rest profile →
          asked = passed ++ [entry] ∧
            outcome.result = .ok ⟨profile.username, entry.name, now, profile⟩ ∧
            ∀ other, outcome.cache.find? other =
              if other = profile.username then
                some ⟨profile.username, entry.name, now, profile⟩
              else cache.find? other) ∧
        ((∀ entry ∈ snapshot.enabledLookups, entry.Silent username limits.timeout) →
          asked = snapshot.enabledLookups ∧
            outcome.result = .error (.userNotResolvable username) ∧
            ∀ other, outcome.cache.find? other =
              if other = username then none else cache.find? other)) ∧
      (∀ factories version items, Snapshot.build factories version items = .ok snapshot →
        snapshot.enabledLookups.Pairwise (fun a b => a.rank.key < b.rank.key) ∧
        ∀ entry ∈ snapshot.lookups,
          (entry ∈ asked → (outcome.calls.map (·.item)).count entry.name = 1) ∧
          (entry ∉ asked → (outcome.calls.map (·.item)).count entry.name = 0)) ∧
      silenced.result = outcome.result ∧ silenced.cache = outcome.cache := by
  intro outcome silenced
  have same : silenced = outcome := Snapshot.resolve_silenced snapshot limits now cache username
  have step : Snapshot.ResolveStep snapshot limits now cache username outcome :=
    snapshot.resolve_step limits now cache username
  refine ⟨fun _ => Snapshot.mem_enabledLookups_iff,
    fun _ _ => LookupReply.inTime_eq_found_iff, ?_⟩
  rw [same]
  generalize outcome = ended at step ⊢
  cases step with
  | served fresh =>
    obtain ⟨held, isFresh⟩ := UserCache.freshAt?_eq_some_iff.1 fresh
    -- Nobody is asked, which is a part of every chain.
    refine ⟨[], rfl, ?_, ?_, fun _ _ _ built => Snapshot.calls_of_build built ⟨_, rfl⟩, rfl, rfl⟩
    · intro record found _
      cases held.symm.trans found
      exact ⟨rfl, rfl, rfl⟩
    · intro stale
      cases isFresh.symm.trans (stale _ held)
  | @found passed rest entry profile unserved found =>
    have stale := UserCache.freshAt?_eq_none_iff.1 unserved
    refine ⟨passed ++ [entry], rfl, ?_, fun _ => ⟨?_, ?_⟩,
      fun _ _ _ built => Snapshot.calls_of_build built found.asked_begins, rfl, rfl⟩
    · intro record held fresh
      cases fresh.symm.trans (stale record held)
    · -- Any other account of where the walk ends is the same account.
      intro passed' entry' rest' profile' found'
      obtain ⟨rfl, rfl⟩ := found.unique found'
      cases found.answered.symm.trans found'.answered
      exact ⟨rfl, rfl, UserCache.find?_upsert cache _⟩
    · intro silent
      exact (found.not_silent silent).elim
  | unknown unserved silent =>
    have stale := UserCache.freshAt?_eq_none_iff.1 unserved
    refine ⟨snapshot.enabledLookups, rfl, ?_, fun _ => ⟨?_, fun _ => ⟨rfl, rfl, ?_⟩⟩,
      fun _ _ _ built => Snapshot.calls_of_build built (List.prefix_refl _), rfl, rfl⟩
    · intro record held fresh
      cases fresh.symm.trans (stale record held)
    · intro passed entry rest profile found
      exact (found.not_silent silent).elim
    · exact UserCache.find?_evict cache username

namespace Rehearsal

/-- A scripted lookup service. -/
def service (item : String) (order : Int64) (enabled : Bool) (mode : ScriptMode)
    (users : List String) (delay : Nat) : Entry LookupService :=
  ⟨item, some order, enabled,
    Script.toLookupService ⟨item, "A", mode, users, [], [], .empty, delay⟩⟩

/-- The bag of a scripted lookup service. -/
def serviceBag (order : Int) (script : List (String × Json)) : Bag :=
  Table.ofList ([("order", .int order), ("role", .str "lookup"), ("type", .str "stub")] ++ script)

/-- Of five services that could know a user one is disabled, one is down and one is late. -/
def mixed : Configuration :=
  let users : String × Json := ("users", .arr [.str "ann"])
  Table.ofList [("off", serviceBag 0 [("enabled", .bool false), users]),
    ("down", serviceBag 1 [("mode", .str "fail"), users]),
    ("late", serviceBag 2 [("delay_ms", .int 9000), users]),
    ("up", serviceBag 3 [users]), ("spare", serviceBag 4 [users])]

def mixedSnapshot : Snapshot :=
  ⟨1, [], [service "off" 0 false .normal ["ann"] 0, service "down" 1 true .fail ["ann"] 0,
    service "late" 2 true .normal ["ann"] 9000, service "up" 3 true .normal ["ann"] 0,
    service "spare" 4 true .normal ["ann"] 0]⟩

end Rehearsal

/-- Over a stale record: the service that is down and the late one are passed over, the next one
answers, and neither the one after it nor the disabled one is called. The answer takes the place of
the stale record, and another user's record stays. A second earlier nobody is called. -/
theorem resolve_asks_up_to_first_rehearsal :
    let snapshot := Rehearsal.mixedSnapshot
    let ann : Profile := ⟨"ann", none, true, Roles.ofList ["up", "A"]⟩
    let bob : UserRecord := ⟨"bob", "off", ⟨0, 0⟩, ⟨"bob", none, true, Roles.ofList []⟩⟩
    let former : UserRecord := ⟨"ann", "off", ⟨0, 0⟩, ann⟩
    let cache := (UserCache.empty.upsert bob).upsert former
    let outcome := snapshot.resolve Rehearsal.limits ⟨300, 0⟩ cache "ann"
    Snapshot.build Rehearsal.factories 1 Rehearsal.mixed = .ok snapshot ∧
      outcome.result = .ok ⟨"ann", "up", ⟨300, 0⟩, ann⟩ ∧
      outcome.cache.find? "ann" = some ⟨"ann", "up", ⟨300, 0⟩, ann⟩ ∧
      outcome.cache.find? "bob" = some bob ∧
      (outcome.calls.map (·.item)).count "late" = 1 ∧
      (outcome.calls.map (·.item)).count "spare" = 0 ∧
      (outcome.calls.map (·.item)).count "off" = 0 ∧
      (snapshot.resolve Rehearsal.limits ⟨299, 0⟩ cache "ann").calls = [] := by
  intro snapshot ann bob former cache outcome
  obtain ⟨-, -, asked, -, -, walks, counted, -, -⟩ :=
    resolve_asks_up_to_first snapshot Rehearsal.limits ⟨300, 0⟩ cache "ann"
  obtain ⟨-, -, early, called, served, -⟩ :=
    resolve_asks_up_to_first snapshot Rehearsal.limits ⟨299, 0⟩ cache "ann"
  let off := Rehearsal.service "off" 0 false .normal ["ann"] 0
  let down := Rehearsal.service "down" 1 true .fail ["ann"] 0
  let late := Rehearsal.service "late" 2 true .normal ["ann"] 9000
  let up := Rehearsal.service "up" 3 true .normal ["ann"] 0
  let spare := Rehearsal.service "spare" 4 true .normal ["ann"] 0
  have built : Snapshot.build Rehearsal.factories 1 Rehearsal.mixed = .ok snapshot := by rfl
  have held : cache.find? "ann" = some former := UserCache.find?_upsert _ former "ann"
  have stale : ∀ record, cache.find? "ann" = some record →
      record.isFreshAt ⟨300, 0⟩ Rehearsal.limits.ttl = false := by
    intro record found
    cases held.symm.trans found
    decide
  have found : FirstFound "ann" 5000 snapshot.enabledLookups [down, late] up [spare] ann := by
    refine ⟨rfl, List.forall_mem_cons.2 ⟨?_, List.forall_mem_cons.2 ⟨?_, nofun⟩⟩, rfl⟩
    · intro profile answered
      cases answered
    · intro profile answered
      cases answered
  obtain ⟨rfl, result, holds⟩ := (walks stale).1 _ _ _ _ found
  obtain ⟨-, counts⟩ := counted _ _ _ built
  have lateListed : late ∈ snapshot.lookups := .tail _ (.tail _ (.head _))
  have spareListed : spare ∈ snapshot.lookups := .tail _ (.tail _ (.tail _ (.tail _ (.head _))))
  have offListed : off ∈ snapshot.lookups := .head _
  have lateAsked : late ∈ [down, late] ++ [up] := .tail _ (.head _)
  have notAsked : ∀ entry : Entry LookupService, entry.name ∉ ["down", "late", "up"] →
      entry ∉ [down, late] ++ [up] :=
    fun entry unnamed asked => unnamed (List.mem_map_of_mem (f := fun entry => entry.name) asked)
  have before : cache.find? "bob" = some bob := UserCache.find?_upsert _ former "bob"
  obtain ⟨rfl, -, -⟩ := served former held (by decide)
  have uncalled : (snapshot.resolve Rehearsal.limits ⟨299, 0⟩ cache "ann").calls = [] := called
  exact ⟨built, result, holds "ann", (holds "bob").trans before,
    (counts late lateListed).1 lateAsked,
    (counts spare spareListed).2 (notAsked spare (by decide)),
    (counts off offListed).2 (notAsked off (by decide)), uncalled⟩

end IdentityChain
