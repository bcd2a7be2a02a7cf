import IdentityChain.Proofs.Registry.CacheUse
import IdentityChain.Proofs.Resolution.Walking

/-!
# Histories of the user cache

What can happen around the user cache: calls to the registry and moves of the
clock, changes made to the cache itself, and changes of mind upstream. A source
is a function of the question, so that it can answer differently tomorrow only
because something occurred; an `Occurrence.upstream` replaces every lookup
service of the published snapshot at will. `Registry.history` is where a list of
occurrences leads.

Only a resolution that walks the chain puts a record into the cache on its own
account. `Produced` says all there is to say of such a record: which service was
called, what it answered, and when.
-/

namespace IdentityChain

variable {σ : Type}

/-- A change made to the cache itself. -/
inductive CacheChange where
  /-- Keeps what a source said; a blank source makes it the record of a managed user. -/
  | store (sourceId : String) (profile : Profile)
  | upsert (record : UserRecord)
  | evict (username : String)

namespace CacheChange

/-- The user whose record is changed. -/
def username : CacheChange → String
  | .store _ profile => profile.username
  | .upsert record => record.username
  | .evict username => username

/-- Whether the change puts a record into the cache. -/
def writes : CacheChange → Bool
  | .store _ _ | .upsert _ => true
  | .evict _ => false

/-- The cache after the change. -/
def applyTo (now : Instant) (cache : UserCache) : CacheChange → UserCache
  | .store sourceId profile => (cache.store sourceId now profile).2
  | .upsert record => cache.upsert record
  | .evict username => (cache.evict username).2

variable {change : CacheChange} {now : Instant} {cache : UserCache} {username : String}

/-- A change of one record leaves all others. -/
theorem find?_applyTo_of_ne (other : change.username ≠ username) :
    (change.applyTo now cache).find? username = cache.find? username := by
  cases change with
  | store sourceId profile => exact (UserCache.find?_upsert ..).trans (if_neg other.symm)
  | upsert record => exact (UserCache.find?_upsert ..).trans (if_neg other.symm)
  | evict name => exact (UserCache.find?_evict ..).trans (if_neg other.symm)

/-- A change that writes nothing leaves no record that was not there. -/
theorem find?_of_find?_applyTo {record : UserRecord} (unwritten : change.writes = false)
    (held : (change.applyTo now cache).find? username = some record) :
    cache.find? username = some record := by
  cases change with
  | store sourceId profile => cases unwritten
  | upsert record => cases unwritten
  | evict name =>
    rw [applyTo, UserCache.find?_evict] at held
    split at held
    · cases held
    · exact held

end CacheChange

/-- What happens to a registry and its user cache. -/
inductive Occurrence : Type 1 where
  | event (event : Event)
  /-- From now on the published lookup services answer as these do, by item. -/
  | upstream (services : String → LookupService)
  | direct (change : CacheChange)

namespace Registry

/-- The state after one occurrence. -/
def undergo (registry : Registry σ) (state : RegistryState σ) : Occurrence → RegistryState σ
  | .event event => registry.follow state event
  | .upstream services =>
    { state with published := state.published.withLookups fun entry => services entry.name }
  | .direct change => { state with cache := change.applyTo state.now state.cache }

/-- The state after some occurrences. -/
def history (registry : Registry σ) (occurrences : List Occurrence) (state : RegistryState σ) :
    RegistryState σ :=
  occurrences.foldl registry.undergo state

theorem history_concat (registry : Registry σ) (occurrences : List Occurrence)
    (occurrence : Occurrence) (state : RegistryState σ) :
    registry.history (occurrences ++ [occurrence]) state =
      registry.undergo (registry.history occurrences state) occurrence :=
  List.foldl_append

theorem cache_undergo_resolves (registry : Registry σ) {operation : Operation} {asked : String}
    (resolves : operation.resolves? = some asked) (state : RegistryState σ) :
    (registry.undergo state (.event (.call operation))).cache =
      (state.resolution registry.limits asked).cache := by
  rw [undergo, follow, state_operation_resolves registry resolves, runOn_resolve]

/-- What an occurrence does to the cache. -/
inductive CacheStep (registry : Registry σ) (state : RegistryState σ) : Occurrence → Prop
  | kept {occurrence : Occurrence}
      (cache_eq : (registry.undergo state occurrence).cache = state.cache) :
      CacheStep registry state occurrence
  | resolved {operation : Operation} {asked : String}
      (resolves : operation.resolves? = some asked)
      (cache_eq : (registry.undergo state (.event (.call operation))).cache =
        (state.resolution registry.limits asked).cache) :
      CacheStep registry state (.event (.call operation))
  | changed {change : CacheChange}
      (cache_eq : (registry.undergo state (.direct change)).cache =
        change.applyTo state.now state.cache) :
      CacheStep registry state (.direct change)

/-- An occurrence leaves the cache alone, resolves a user or changes one record. -/
theorem cacheStep (registry : Registry σ) (state : RegistryState σ) (occurrence : Occurrence) :
    CacheStep registry state occurrence := by
  cases occurrence with
  | event event =>
    cases event with
    | clock now => exact .kept rfl
    | call operation =>
      cases resolves : operation.resolves? with
      | none => exact .kept (keepsCache_operation registry resolves state).cache_eq
      | some asked => exact .resolved resolves (cache_undergo_resolves registry resolves state)
  | upstream services => exact .kept rfl
  | direct change => exact .changed rfl

end Registry

/-- In this state the resolution of `asked` returns the record and keeps it: an enabled service of
the published snapshot is called, finds the user in time, and the record holds its answer, its name
and the time on the clock. -/
structure Produced (limits : ResolutionLimits) (state : RegistryState σ) (asked : String)
    (record : UserRecord) (entry : Entry LookupService) : Prop where
  result_eq : (state.resolution limits asked).result = .ok record
  cache_eq : (state.resolution limits asked).cache = state.cache.upsert record
  called : Snapshot.lookupCall entry ∈ (state.resolution limits asked).calls
  listed : entry ∈ state.published.lookups
  enabled : entry.enabled = true
  answered : (entry.service.reply asked).inTime limits.timeout = .found record.profile
  source_eq : record.sourceId = entry.name
  stamp_eq : record.lastUpdate = state.now
  name_eq : record.username = record.profile.username

section Resolution

variable {limits : ResolutionLimits} {state : RegistryState σ} {asked username : String}
  {record : UserRecord}

theorem produced_of_firstFound {passed rest : List (Entry LookupService)}
    {entry : Entry LookupService} {profile : Profile}
    (unserved : state.cache.freshAt? state.now limits.ttl asked = none)
    (found : FirstFound asked limits.timeout state.published.enabledLookups passed entry rest
      profile) :
    Produced limits state asked (UserCache.recordOf entry.name state.now profile) entry := by
  have outcome : state.resolution limits asked = _ := Snapshot.resolve_of_firstFound unserved found
  obtain ⟨listed, enabled⟩ := List.mem_filter.1 found.mem_chain
  constructor
  · rw [outcome]
  · rw [outcome]
  · rw [outcome]
    exact List.mem_map_of_mem (List.mem_append_right _ List.mem_cons_self)
  · exact listed
  · exact enabled
  · exact found.answered
  · rfl
  · rfl
  · rfl

/-- The ways in which a resolution ends, by what becomes of the cache. -/
inductive ResolutionEnd (limits : ResolutionLimits) (state : RegistryState σ) (asked : String) :
    Prop where
  | served {record : UserRecord}
      (fresh : state.cache.freshAt? state.now limits.ttl asked = some record)
      (result_eq : (state.resolution limits asked).result = .ok record)
      (cache_eq : (state.resolution limits asked).cache = state.cache)
  | produced {record : UserRecord} {entry : Entry LookupService}
      (produced : Produced limits state asked record entry)
  | unknown
      (unserved : state.cache.freshAt? state.now limits.ttl asked = none)
      (result_eq : (state.resolution limits asked).result = .error (.userNotResolvable asked))
      (cache_eq : (state.resolution limits asked).cache = (state.cache.evict asked).2)

theorem resolutionEnd (limits : ResolutionLimits) (state : RegistryState σ) (asked : String) :
    ResolutionEnd limits state asked := by
  have step := state.published.resolve_step limits state.now state.cache asked
  generalize outcome : state.published.resolve limits state.now state.cache asked = ended at step
  have resolution_eq : state.resolution limits asked = ended := outcome
  cases step with
  | served fresh => exact .served fresh (by rw [resolution_eq]) (by rw [resolution_eq])
  | found unserved found => exact .produced (produced_of_firstFound unserved found)
  | unknown unserved silent =>
    exact .unknown unserved (by rw [resolution_eq]) (by rw [resolution_eq])

/-- What a resolution returns was fresh in the cache or is produced by it. -/
theorem fresh_or_produced (returned : (state.resolution limits asked).result = .ok record) :
    state.cache.freshAt? state.now limits.ttl asked = some record ∨
      ∃ entry, Produced limits state asked record entry := by
  cases resolutionEnd limits state asked with
  | served fresh result_eq cache_eq =>
    cases result_eq.symm.trans returned
    exact .inl fresh
  | produced produced =>
    cases produced.result_eq.symm.trans returned
    exact .inr ⟨_, produced⟩
  | unknown unserved result_eq cache_eq => cases result_eq.symm.trans returned

/-- What the cache holds after a resolution it held before or is produced by it. -/
theorem held_or_produced
    (held : (state.resolution limits asked).cache.find? username = some record) :
    state.cache.find? username = some record ∨
      ∃ entry, Produced limits state asked record entry := by
  cases resolutionEnd limits state asked with
  | served fresh result_eq cache_eq =>
    rw [cache_eq] at held
    exact .inl held
  | produced produced =>
    rw [produced.cache_eq, UserCache.find?_upsert] at held
    split at held
    · cases held
      exact .inr ⟨_, produced⟩
    · exact .inl held
  | unknown unserved result_eq cache_eq =>
    rw [cache_eq, UserCache.find?_evict] at held
    split at held
    · cases held
    · exact .inl held

end Resolution

end IdentityChain
