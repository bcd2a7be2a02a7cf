import IdentityChain.Proofs.Catalog.Chains
import IdentityChain.Proofs.Registry.Runs
import IdentityChain.Proofs.UserCache.Freshness

/-!
# The walk along the lookup services

A walk ends at the first service that finds the user in time (`FirstFound`), or
it passes every service of the chain. These are the only two ways
(`firstFound_or_silent`), and each of them fixes the answer and the calls of
`Snapshot.findAlong`. With the fresh record that saves the walk they are the
three ways in which a resolution ends (`resolve_step`), from which all that is
proved of resolutions is read.

A walk cannot tell a failed or late answer from a prompt one that the user is
unknown (`resolve_silenced`).
-/

namespace IdentityChain

/-- What is found is seen if it comes within the timeout, its last millisecond included. -/
theorem LookupReply.inTime_eq_found_iff {reply : LookupReply} {timeout : Nat} {profile : Profile} :
    reply.inTime timeout = .found profile ↔
      reply.outcome = .found profile ∧ ∃ n ≤ timeout, reply.latency = .millis n := by
  obtain ⟨outcome, latency⟩ := reply
  cases latency with
  | never => simp [inTime, Latency.within]
  | millis n => by_cases early : n ≤ timeout <;> simp [inTime, Latency.within, early]

/-- The service does not find the user within `timeout` milliseconds. -/
def Entry.Silent (username : String) (timeout : Nat) (entry : Entry LookupService) : Prop :=
  ∀ profile, (entry.service.reply username).inTime timeout ≠ .found profile

/-- The walk along a chain ends at `entry`, the first service that finds the user in time. -/
structure FirstFound (username : String) (timeout : Nat)
    (chain passed : List (Entry LookupService)) (entry : Entry LookupService)
    (rest : List (Entry LookupService)) (profile : Profile) : Prop where
  chain_eq : chain = passed ++ entry :: rest
  silent : ∀ other ∈ passed, other.Silent username timeout
  answered : (entry.service.reply username).inTime timeout = .found profile

namespace FirstFound

variable {username : String} {timeout : Nat} {chain passed rest : List (Entry LookupService)}
  {entry : Entry LookupService} {profile : Profile}

/-- The services that are asked begin the chain. -/
theorem asked_begins (found : FirstFound username timeout chain passed entry rest profile) :
    (passed ++ [entry]) <+: chain := by
  refine ⟨rest, ?_⟩
  rw [found.chain_eq, List.append_assoc, List.singleton_append]

theorem mem_chain (found : FirstFound username timeout chain passed entry rest profile) :
    entry ∈ chain :=
  found.asked_begins.subset (List.mem_append_right _ List.mem_cons_self)

theorem not_silent (found : FirstFound username timeout chain passed entry rest profile) :
    ¬ ∀ other ∈ chain, other.Silent username timeout := by
  intro silent
  exact silent entry found.mem_chain profile found.answered

end FirstFound

namespace Snapshot

variable {username : String} {timeout : Nat} {chain passed rest : List (Entry LookupService)}
  {entry : Entry LookupService} {profile : Profile}

/-! ## One walk -/

theorem findAlong_cons_found
    (answered : (entry.service.reply username).inTime timeout = .found profile)
    (rest : List (Entry LookupService)) :
    findAlong username timeout (entry :: rest) =
      (some (entry.name, profile), [lookupCall entry]) := by
  unfold findAlong
  rw [answered]

theorem findAlong_cons_silent (silent : entry.Silent username timeout)
    (rest : List (Entry LookupService)) :
    findAlong username timeout (entry :: rest) =
      ((findAlong username timeout rest).1,
        lookupCall entry :: (findAlong username timeout rest).2) := by
  rw [findAlong]
  cases answer : (entry.service.reply username).inTime timeout with
  | found profile => exact (silent profile answer).elim
  | notFound => rfl
  | failed reason => rfl

/-- A walk that ends calls the services up to the one that finds the user, each once. -/
theorem findAlong_of_firstFound
    (found : FirstFound username timeout chain passed entry rest profile) :
    findAlong username timeout chain =
      (some (entry.name, profile), (passed ++ [entry]).map lookupCall) := by
  obtain ⟨rfl, silent, answered⟩ := found
  induction passed with
  | nil => exact findAlong_cons_found answered rest
  | cons other passed ih =>
    have first := silent other List.mem_cons_self
    have others := ih fun other mem => silent other (List.mem_cons_of_mem _ mem)
    rw [List.cons_append, findAlong_cons_silent first, others]
    rfl

/-- A walk that finds nobody calls every service once. -/
theorem findAlong_of_silent (silent : ∀ entry ∈ chain, entry.Silent username timeout) :
    findAlong username timeout chain = (none, chain.map lookupCall) := by
  induction chain with
  | nil => rfl
  | cons entry rest ih =>
    have first := silent entry List.mem_cons_self
    have others := ih fun other mem => silent other (List.mem_cons_of_mem _ mem)
    rw [findAlong_cons_silent first, others]
    rfl

/-- Every walk ends at a first service that finds the user, or finds nobody. -/
theorem firstFound_or_silent (username : String) (timeout : Nat)
    (chain : List (Entry LookupService)) :
    (∃ passed entry rest profile,
      FirstFound username timeout chain passed entry rest profile) ∨
    ∀ entry ∈ chain, entry.Silent username timeout := by
  induction chain with
  | nil => exact .inr fun entry mem => by cases mem
  | cons entry rest ih =>
    by_cases found : ∃ profile, (entry.service.reply username).inTime timeout = .found profile
    · obtain ⟨profile, answered⟩ := found
      exact .inl ⟨[], entry, rest, profile, rfl, fun other mem => (by cases mem), answered⟩
    · have first : entry.Silent username timeout :=
        fun profile answered => found ⟨profile, answered⟩
      rcases ih with ⟨passed, last, after, profile, walk⟩ | silent
      · refine .inl ⟨entry :: passed, last, after, profile, ?_, ?_, walk.answered⟩
        · rw [walk.chain_eq, List.cons_append]
        · exact List.forall_mem_cons.2 ⟨first, walk.silent⟩
      · exact .inr (List.forall_mem_cons.2 ⟨first, silent⟩)

/-! ## One resolution -/

section Resolve

variable {snapshot : Snapshot} {limits : ResolutionLimits} {now : Instant} {cache : UserCache}
  {record : UserRecord}

theorem resolve_of_fresh (fresh : cache.freshAt? now limits.ttl username = some record) :
    snapshot.resolve limits now cache username = ⟨.ok record, cache, []⟩ := by
  unfold resolve
  rw [fresh]

theorem resolve_of_firstFound (unserved : cache.freshAt? now limits.ttl username = none)
    (found : FirstFound username limits.timeout snapshot.enabledLookups passed entry rest
      profile) :
    snapshot.resolve limits now cache username =
      ⟨.ok (UserCache.recordOf entry.name now profile),
        cache.upsert (UserCache.recordOf entry.name now profile),
        (passed ++ [entry]).map lookupCall⟩ := by
  unfold resolve
  rw [unserved, findAlong_of_firstFound found]
  rfl

theorem resolve_of_silent (unserved : cache.freshAt? now limits.ttl username = none)
    (silent : ∀ entry ∈ snapshot.enabledLookups, entry.Silent username limits.timeout) :
    snapshot.resolve limits now cache username =
      ⟨.error (.userNotResolvable username), (cache.evict username).2,
        snapshot.enabledLookups.map lookupCall⟩ := by
  unfold resolve
  rw [unserved, findAlong_of_silent silent]

end Resolve

/-- The ways in which a resolution ends. -/
inductive ResolveStep (snapshot : Snapshot) (limits : ResolutionLimits) (now : Instant)
    (cache : UserCache) (username : String) : Resolution → Prop where
  | served {record : UserRecord}
      (fresh : cache.freshAt? now limits.ttl username = some record) :
      ResolveStep snapshot limits now cache username ⟨.ok record, cache, []⟩
  | found {passed rest : List (Entry LookupService)} {entry : Entry LookupService}
      {profile : Profile}
      (unserved : cache.freshAt? now limits.ttl username = none)
      (found : FirstFound username limits.timeout snapshot.enabledLookups passed entry rest
        profile) :
      ResolveStep snapshot limits now cache username
        ⟨.ok (UserCache.recordOf entry.name now profile),
          cache.upsert (UserCache.recordOf entry.name now profile),
          (passed ++ [entry]).map lookupCall⟩
  | unknown
      (unserved : cache.freshAt? now limits.ttl username = none)
      (silent : ∀ entry ∈ snapshot.enabledLookups, entry.Silent username limits.timeout) :
      ResolveStep snapshot limits now cache username
        ⟨.error (.userNotResolvable username), (cache.evict username).2,
          snapshot.enabledLookups.map lookupCall⟩

theorem resolve_step (snapshot : Snapshot) (limits : ResolutionLimits) (now : Instant)
    (cache : UserCache) (username : String) :
    ResolveStep snapshot limits now cache username
      (snapshot.resolve limits now cache username) := by
  cases fresh : cache.freshAt? now limits.ttl username with
  | some record =>
    rw [resolve_of_fresh fresh]
    exact .served fresh
  | none =>
    rcases firstFound_or_silent username limits.timeout snapshot.enabledLookups with
      ⟨passed, entry, rest, profile, found⟩ | silent
    · rw [resolve_of_firstFound fresh found]
      exact .found fresh found
    · rw [resolve_of_silent fresh silent]
      exact .unknown fresh silent

/-! ## Other services in the same chain -/

/-- The same chains with other lookup services under the names. -/
def withLookups (snapshot : Snapshot) (service : Entry LookupService → LookupService) : Snapshot :=
  { snapshot with
    lookups := snapshot.lookups.map fun entry => { entry with service := service entry } }

theorem enabledLookups_withLookups (snapshot : Snapshot)
    (service : Entry LookupService → LookupService) :
    (snapshot.withLookups service).enabledLookups =
      snapshot.enabledLookups.map fun entry => { entry with service := service entry } :=
  List.filter_map

end Snapshot

/-- The service with every failed or late answer replaced by a prompt one that the user is
unknown. -/
def LookupService.silenced (timeout : Nat) (service : LookupService) : LookupService where
  reply username :=
    match (service.reply username).inTime timeout with
    | .found profile => ⟨.found profile, (service.reply username).latency⟩
    | .notFound | .failed _ => ⟨.notFound, .millis 0⟩
  metered := service.metered

namespace LookupService

variable {service : LookupService} {username : String} {timeout : Nat}

/-- What is found in time is found in time by the silenced service, and all else is unknown. -/
theorem inTime_silenced (service : LookupService) (username : String) (timeout : Nat) :
    ((service.silenced timeout).reply username).inTime timeout =
      match (service.reply username).inTime timeout with
      | .found profile => .found profile
      | .notFound | .failed _ => .notFound := by
  cases answer : (service.reply username).inTime timeout with
  | found profile =>
    simp only [silenced, answer]
    exact LookupReply.inTime_eq_found_iff.2 ⟨rfl, (LookupReply.inTime_eq_found_iff.1 answer).2⟩
  | notFound => simp only [silenced, answer]; rfl
  | failed reason => simp only [silenced, answer]; rfl

end LookupService

namespace Snapshot

/-- The chains with every lookup service silenced. -/
def silenced (timeout : Nat) (snapshot : Snapshot) : Snapshot :=
  snapshot.withLookups fun entry => entry.service.silenced timeout

theorem findAlong_silenced (username : String) (timeout : Nat)
    (chain : List (Entry LookupService)) :
    findAlong username timeout
        (chain.map fun entry => { entry with service := entry.service.silenced timeout }) =
      findAlong username timeout chain := by
  induction chain with
  | nil => rfl
  | cons entry rest ih =>
    rw [List.map_cons, findAlong, findAlong, ih, LookupService.inTime_silenced]
    cases (entry.service.reply username).inTime timeout <;> rfl

/-- To a resolution a service that fails or is late is one that does not know the user. -/
theorem resolve_silenced (snapshot : Snapshot) (limits : ResolutionLimits) (now : Instant)
    (cache : UserCache) (username : String) :
    (snapshot.silenced limits.timeout).resolve limits now cache username =
      snapshot.resolve limits now cache username := by
  unfold resolve
  rw [silenced, enabledLookups_withLookups, findAlong_silenced]

end Snapshot

end IdentityChain
