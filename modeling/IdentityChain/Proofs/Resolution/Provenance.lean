import IdentityChain.Proofs.Resolution.Histories
import IdentityChain.Proofs.Resolution.Reuse
import Mathlib.Data.List.Induction

/-!
# Where records come from

In a cache that starts empty and is written by resolutions alone, every record
goes back to a resolution of the history that produced it (`Originates`). What
one occurrence leaves in the cache was there before or is produced by it
(`held_undergo`), and so this holds at every point, through reloads, exchanges,
failing services, changes of mind upstream, and a clock that goes back. A
resolution returns such a record only while it is trusted: a record of a named
source no longer than its time to live.
-/

namespace IdentityChain

variable {σ : Type} {registry : Registry σ} {start state : RegistryState σ}

/-- A resolution of the history produced the record. -/
def Originates (registry : Registry σ) (start : RegistryState σ) (occurrences : List Occurrence)
    (record : UserRecord) : Prop :=
  ∃ earlier operation later asked entry,
    occurrences = earlier ++ .event (.call operation) :: later ∧
    operation.resolves? = some asked ∧
    Produced registry.limits (registry.history earlier start) asked record entry

/-- What went before still did when more has occurred. -/
theorem Originates.concat {occurrences : List Occurrence} {record : UserRecord}
    (origin : Originates registry start occurrences record) (occurrence : Occurrence) :
    Originates registry start (occurrences ++ [occurrence]) record := by
  obtain ⟨earlier, operation, later, asked, entry, rfl, resolves, produced⟩ := origin
  refine ⟨earlier, operation, later ++ [occurrence], asked, entry, ?_, resolves, produced⟩
  rw [List.append_assoc, List.cons_append]

/-- What the cache holds after an occurrence that writes nothing into it directly was there before,
or the occurrence is a resolution that produced it. -/
theorem held_undergo {occurrence : Occurrence}
    (unwritten : ∀ change, occurrence = .direct change → change.writes = false)
    {username : String} {record : UserRecord}
    (held : (registry.undergo state occurrence).cache.find? username = some record) :
    state.cache.find? username = some record ∨
      ∃ operation asked entry, occurrence = .event (.call operation) ∧
        operation.resolves? = some asked ∧
        Produced registry.limits state asked record entry := by
  cases registry.cacheStep state occurrence with
  | kept cache_eq =>
    rw [cache_eq] at held
    exact .inl held
  | resolved resolves cache_eq =>
    rw [cache_eq] at held
    rcases held_or_produced held with before | ⟨entry, produced⟩
    · exact .inl before
    · exact .inr ⟨_, _, entry, rfl, resolves, produced⟩
  | changed cache_eq =>
    rw [cache_eq] at held
    exact .inl (CacheChange.find?_of_find?_applyTo (unwritten _ rfl) held)

/-- Every record in the cache goes back to a resolution of the history. -/
theorem originates_of_held (empty : start.cache = .empty) {occurrences : List Occurrence}
    (unwritten : ∀ change, .direct change ∈ occurrences → change.writes = false)
    {username : String} {record : UserRecord}
    (held : (registry.history occurrences start).cache.find? username = some record) :
    Originates registry start occurrences record := by
  induction occurrences using List.reverseRecOn with
  | nil =>
    rw [Registry.history, List.foldl_nil, empty, UserCache.find?_empty] at held
    cases held
  | append_singleton earlier occurrence ih =>
    rw [Registry.history_concat] at held
    have last : ∀ change, occurrence = .direct change → change.writes = false := by
      rintro change rfl
      exact unwritten change (List.mem_append_right _ List.mem_cons_self)
    rcases held_undergo last held with before | ⟨operation, asked, entry, rfl, resolves, produced⟩
    · have others : ∀ change, .direct change ∈ earlier → change.writes = false :=
        fun change mem => unwritten change (List.mem_append_left _ mem)
      exact (ih others before).concat occurrence
    · exact ⟨earlier, operation, [], asked, entry, rfl, resolves, produced⟩

/-- A clock that is only ever set to instants that can be represented always shows one. -/
theorem inRange_history (representable : start.now.inRange = true) {occurrences : List Occurrence}
    (clocks : ∀ now, .event (.clock now) ∈ occurrences → now.inRange = true) :
    (registry.history occurrences start).now.inRange = true := by
  induction occurrences using List.reverseRecOn with
  | nil => exact representable
  | append_singleton earlier occurrence ih =>
    rw [Registry.history_concat]
    have before := ih fun now mem => clocks now (List.mem_append_left _ mem)
    cases occurrence with
    | event event =>
      cases event with
      | clock now => exact clocks now (List.mem_append_right _ List.mem_cons_self)
      | call operation =>
        rw [Registry.undergo, Registry.follow, now_operation]
        exact before
    | upstream services => exact before
    | direct change => exact before

theorem Originates.inRange (representable : start.now.inRange = true)
    {occurrences : List Occurrence}
    (clocks : ∀ now, .event (.clock now) ∈ occurrences → now.inRange = true)
    {record : UserRecord} (origin : Originates registry start occurrences record) :
    record.lastUpdate.inRange = true := by
  obtain ⟨earlier, operation, later, asked, entry, rfl, resolves, produced⟩ := origin
  rw [produced.stamp_eq]
  exact inRange_history representable fun now mem => clocks now (List.mem_append_left _ mem)

/-- The clock stands before the end of a fresh record's time, which in nanoseconds is no later than
the sum. -/
theorem trusted_of_isFreshAt {record : UserRecord} {now : Instant} {ttl : Duration}
    (clock : now.inRange = true) (stamp : record.lastUpdate.inRange = true)
    (fresh : record.isFreshAt now ttl = true) :
    Text.blank record.sourceId = true ∨
      now.before (record.lastUpdate.after ttl) = true ∧
      (now.inLeap = false → now.total < record.lastUpdate.total + ttl.total) := by
  rcases (UserRecord.isFreshAt_iff clock stamp).1 fresh with managed | inTime
  · exact .inl (UserRecord.hasSource_eq_false_iff.1 managed)
  · refine .inr ⟨inTime, fun outside => ?_⟩
    calc now.total < (record.lastUpdate.after ttl).total :=
          Instant.total_lt_of_before outside inTime
      _ ≤ record.lastUpdate.total + ttl.total := Instant.total_after_le _ _

/-- Every record that a resolution returns was produced by this very resolution, or by an earlier
one of the history. In the second case its source is blank, or the clock, which may have gone back
meanwhile, stands before the end of the record's time to live. -/
theorem resolved_record_provenance (registry : Registry σ) {start : RegistryState σ}
    (empty : start.cache = .empty) (representable : start.now.inRange = true)
    (occurrences : List Occurrence)
    (unwritten : ∀ change, .direct change ∈ occurrences → change.writes = false)
    (clocks : ∀ now, .event (.clock now) ∈ occurrences → now.inRange = true)
    {username : String} {record : UserRecord}
    (returned : ((registry.resolve username).runOn (registry.history occurrences start)).1 =
      .ok record) :
    let state := registry.history occurrences start
    (∃ entry, Produced registry.limits state username record entry) ∨
    (∃ earlier operation later asked entry,
      occurrences = earlier ++ .event (.call operation) :: later ∧
      operation.resolves? = some asked ∧
      Produced registry.limits (registry.history earlier start) asked record entry) ∧
    (Text.blank record.sourceId = true ∨
      state.now.before (record.lastUpdate.after registry.limits.ttl) = true ∧
      (state.now.inLeap = false →
        state.now.total < record.lastUpdate.total + registry.limits.ttl.total)) := by
  intro state
  rcases fresh_or_produced returned with fresh | now
  · obtain ⟨held, trusted⟩ := UserCache.freshAt?_eq_some_iff.1 fresh
    have origin : Originates registry start occurrences record :=
      originates_of_held empty unwritten held
    have clock : state.now.inRange = true := inRange_history representable clocks
    have stamp := origin.inRange representable clocks
    exact .inr ⟨origin, trusted_of_isFreshAt clock stamp trusted⟩
  · exact .inl now

/-- A record that the directory produced under another name is served after the directory has lost
the user and been disabled, as it is not yet 300 seconds old. -/
theorem resolved_record_provenance_rehearsal :
    let registry := Registry.inMemory Rehearsal.factories Rehearsal.limits
    let start := Rehearsal.start Rehearsal.aliased
    let disable := Bag.empty.withEnabled false
    let occurrences : List Occurrence := [.event (.call .init), .event (.clock ⟨100, 0⟩),
      .event (.call (.profileOf "al")), .event (.call (.resolve "bob")), .direct (.evict "bob"),
      .upstream (fun _ => ⟨fun _ => ⟨.notFound, .millis 0⟩, true⟩),
      .event (.call (.reconfigure (.mergeItem "ldap" disable))), .event (.clock ⟨399, 0⟩)]
    let alice : UserRecord :=
      ⟨"alice", "ldap", ⟨100, 0⟩, ⟨"alice", none, true, Roles.ofList ["ldap", "A"]⟩⟩
    let state := registry.history occurrences start
    ((registry.resolve "alice").runOn state).1 = .ok alice ∧
      state.published.enabledLookups.map (·.name) = [] ∧
      (∃ earlier operation later asked entry,
        occurrences = earlier ++ .event (.call operation) :: later ∧
        operation.resolves? = some asked ∧
        Produced registry.limits (registry.history earlier start) asked alice entry) ∧
      state.now.total < alice.lastUpdate.total + registry.limits.ttl.total := by
  intro registry start disable occurrences alice state
  have returned : ((registry.resolve "alice").runOn state).1 = .ok alice := by decide +kernel
  have unwritten : ∀ change, .direct change ∈ occurrences → change.writes = false := by
    intro change mem
    simp only [occurrences, List.mem_cons, reduceCtorEq, Occurrence.direct.injEq, List.not_mem_nil,
      or_false, false_or] at mem
    subst mem
    rfl
  have clocks : ∀ now, .event (.clock now) ∈ occurrences → now.inRange = true := by
    intro now mem
    simp only [occurrences, List.mem_cons, reduceCtorEq, Occurrence.event.injEq,
      Event.clock.injEq, List.not_mem_nil, or_false, false_or] at mem
    rcases mem with rfl | rfl <;> decide
  have uncalled : (state.resolution registry.limits "alice").calls = [] := by decide +kernel
  have named : Text.blank alice.sourceId = false := by decide
  rcases resolved_record_provenance registry rfl (by decide) occurrences unwritten clocks returned
    with ⟨entry, produced⟩ | ⟨origin, blank | ⟨-, total⟩⟩
  · have called := produced.called
    rw [uncalled] at called
    cases called
  · cases named.symm.trans blank
  · exact ⟨returned, by decide +kernel, origin, total (by decide)⟩

end IdentityChain
