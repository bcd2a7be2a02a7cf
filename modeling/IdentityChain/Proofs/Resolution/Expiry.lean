import IdentityChain.Proofs.Catalog.Sequences
import IdentityChain.Proofs.Resolution.Histories
import IdentityChain.Proofs.Resolution.Reuse

/-!
# Records that expire

A resolution stamps the answer of a service with the name of the service's item,
and the cache tells the records of services from managed ones by whether the
stamp is blank. A stamp is as blank as the name. So the answers of a service
expire with their time to live if its item has a name in which something stands
(`walks_of_expired`); those of a service whose item is named by blanks alone are
taken for managed users, and no clock ends them (`served_of_blank`).
-/

namespace IdentityChain

variable {σ : Type}

/-- The user is not served from the cache: a resolution walks the chain of enabled lookup
services. -/
structure RegistryState.Walks (limits : ResolutionLimits) (state : RegistryState σ)
    (username : String) : Prop where
  unserved : state.cache.freshAt? state.now limits.ttl username = none
  calls_eq : (state.resolution limits username).calls =
    (Snapshot.findAlong username limits.timeout state.published.enabledLookups).2

section Resolution

variable {limits : ResolutionLimits} {state later : RegistryState σ} {username asked : String}
  {record : UserRecord} {expiry : Instant}

theorem walks_of_unserved
    (unserved : state.cache.freshAt? state.now limits.ttl username = none) :
    state.Walks limits username := by
  refine ⟨unserved, ?_⟩
  rw [RegistryState.resolution]
  rcases Snapshot.firstFound_or_silent username limits.timeout state.published.enabledLookups with
    ⟨passed, entry, rest, profile, found⟩ | silent
  · rw [Snapshot.resolve_of_firstFound unserved found, Snapshot.findAlong_of_firstFound found]
  · rw [Snapshot.resolve_of_silent unserved silent, Snapshot.findAlong_of_silent silent]

/-- What an answer left in the cache serves neither the user who was asked for nor the one whom the
answer names once the record's time is over. -/
theorem walks_of_expired {entry : Entry LookupService}
    (walked : state.cache.freshAt? state.now limits.ttl asked = none)
    (produced : Produced limits state asked record entry)
    (external : record.hasSource = true) (addable : limits.ttl.addable = true)
    (ends : record.lastUpdate.plus? limits.ttl = some expiry)
    (ended : later.now.before expiry = false)
    (concerned : username = asked ∨ username = record.username)
    (kept : later.cache.find? username = (state.resolution limits asked).cache.find? username) :
    later.Walks limits username := by
  apply walks_of_unserved
  rw [Instant.plus?_eq] at ends
  split at ends
  · rename_i inside
    cases ends
    rw [UserCache.freshAt?_eq_none_iff, kept, produced.cache_eq]
    intro held found
    rw [UserCache.find?_upsert] at found
    split at found
    · cases found
      exact UserRecord.stale_iff.2 ⟨external, addable, inside, ended⟩
    · -- The answer is filed under another name; whatever was there for this user is still stale.
      rename_i other
      obtain rfl : username = asked := concerned.resolve_right other
      refine UserRecord.stale_later (UserCache.freshAt?_eq_none_iff.1 walked held found) ?_
      refine eq_false_of_ne_true fun early => ?_
      have back := Instant.before_of_not_before ended early
      rw [produced.stamp_eq, Instant.after_not_before] at back
      cases back
  · cases ends

/-- A record whose source is blank is served as long as it is kept. -/
theorem served_of_blank (blank : Text.blank record.sourceId = true)
    (kept : state.cache.find? record.username = some record) :
    state.resolution limits record.username = ⟨.ok record, state.cache, []⟩ := by
  have managed := UserRecord.hasSource_eq_false_iff.2 blank
  exact Snapshot.resolve_of_fresh (UserCache.freshAt?_eq_some_iff.2
    ⟨kept, UserRecord.isFreshAt_of_managed managed _ _⟩)

end Resolution

/-- While a snapshot is published that a reload made, a walk that finds the user keeps the answer of
an enabled item's service. The record counts as a service's exactly if the name of the item is not
blank. It then stops serving the users it concerns once its time is over, for as long as nothing
else is kept for them; under a blank name it serves its user for ever. -/
theorem expires_iff_named (registry : Registry σ) {start state : RegistryState σ}
    (reloaded : (registry.reload.runOn start).1 = .ok ())
    (published : state.published = (registry.reload.runOn start).2.published)
    {asked : String} {record : UserRecord}
    (walked : state.cache.freshAt? state.now registry.limits.ttl asked = none)
    (resolved : ((registry.resolve asked).runOn state).1 = .ok record) :
    ∃ items entry, (registry.store.readAll start.store).1 = .ok items ∧
      Entry.OfItem registry.factories items Source.lookup? entry ∧ entry.enabled = true ∧
      (entry.service.reply asked).inTime registry.limits.timeout = .found record.profile ∧
      record.sourceId = entry.name ∧ record.lastUpdate = state.now ∧
      ((registry.resolve asked).runOn state).2.cache.find? record.username = some record ∧
      (record.hasSource = true ↔ Text.blank entry.name = false) ∧
      (Text.blank entry.name = false → registry.limits.ttl.addable = true →
        ∀ expiry, record.lastUpdate.plus? registry.limits.ttl = some expiry →
          ∀ (later : RegistryState σ) username, later.now.before expiry = false →
            username = asked ∨ username = record.username →
            later.cache.find? username =
              ((registry.resolve asked).runOn state).2.cache.find? username →
            later.Walks registry.limits username) ∧
      (Text.blank entry.name = true →
        ∀ later : RegistryState σ, later.cache.find? record.username = some record →
          later.resolution registry.limits record.username = ⟨.ok record, later.cache, []⟩) := by
  obtain ⟨items, read, built⟩ := build_of_reload reloaded
  rw [← published] at built
  rw [runOn_resolve] at resolved ⊢
  rcases fresh_or_produced resolved with fresh | ⟨entry, produced⟩
  · cases walked.symm.trans fresh
  · have described := (Snapshot.describes_of_build built).lookups.mem_iff entry
    have held : (state.resolution registry.limits asked).cache.find? record.username =
        some record := by
      rw [produced.cache_eq, UserCache.find?_upsert, if_pos rfl]
    have external : record.hasSource = true ↔ Text.blank entry.name = false := by
      rw [← produced.source_eq, UserRecord.hasSource, Bool.not_eq_true']
    refine ⟨items, entry, read, described.1 produced.listed, produced.enabled, produced.answered,
      produced.source_eq, produced.stamp_eq, held, external, ?_, ?_⟩
    · intro named addable expiry ends later username ended concerned kept
      exact walks_of_expired walked produced (external.2 named) addable ends ended concerned kept
    · intro blank later kept
      exact served_of_blank (produced.source_eq ▸ blank) kept

namespace Rehearsal

/-- A lookup service under a name of one blank. -/
def unnamed : Configuration := Table.ofList [(" ", serviceBag 1 [("users", .arr [.str "alice"])])]

end Rehearsal

/-- Alice, whom the directory knows as al, is looked up again under both names after 300 seconds. -/
theorem expires_iff_named_rehearsal :
    let registry := Registry.inMemory Rehearsal.factories Rehearsal.limits
    let start := Rehearsal.start Rehearsal.aliased
    let state := (registry.reload.runOn start).2
    let alice : UserRecord :=
      ⟨"alice", "ldap", ⟨0, 0⟩, ⟨"alice", none, true, Roles.ofList ["ldap", "A"]⟩⟩
    let later := { ((registry.resolve "al").runOn state).2 with now := ⟨300, 0⟩ }
    (registry.reload.runOn start).1 = .ok () ∧
      state.cache.freshAt? state.now registry.limits.ttl "al" = none ∧
      ((registry.resolve "al").runOn state).1 = .ok alice ∧
      alice.hasSource = true ∧
      later.Walks registry.limits "al" ∧ later.Walks registry.limits "alice" := by
  intro registry start state alice later
  have reloaded : (registry.reload.runOn start).1 = .ok () := by decide +kernel
  have walked : state.cache.freshAt? state.now registry.limits.ttl "al" = none := by
    decide +kernel
  have resolved : ((registry.resolve "al").runOn state).1 = .ok alice := by decide +kernel
  obtain ⟨items, entry, -, -, -, -, -, -, -, external, expires, -⟩ :=
    expires_iff_named registry reloaded rfl walked resolved
  have source : alice.hasSource = true := by decide
  have walks := expires (external.1 source) (by decide) ⟨300, 0⟩ (by decide) later
  exact ⟨reloaded, walked, resolved, source, walks "al" (by decide) (.inl rfl) rfl,
    walks "alice" (by decide) (.inr rfl) rfl⟩

/-- What a lookup service answers does not always expire: under a blank name it is kept for ever. -/
theorem not_always_external :
    ¬ ∀ (registry : Registry Configuration) (start state : RegistryState Configuration)
        (username : String) (record : UserRecord),
      (registry.reload.runOn start).1 = .ok () →
      state.published = (registry.reload.runOn start).2.published →
      state.cache.freshAt? state.now registry.limits.ttl username = none →
      ((registry.resolve username).runOn state).1 = .ok record →
      record.hasSource = true ∧ ∀ expiry, registry.limits.ttl.addable = true →
        record.lastUpdate.plus? registry.limits.ttl = some expiry →
        ∀ later : RegistryState Configuration, later.now.before expiry = false →
          later.cache.find? record.username = some record →
          later.Walks registry.limits record.username := by
  intro always
  let registry := Registry.inMemory Rehearsal.factories Rehearsal.limits
  let start := Rehearsal.start Rehearsal.unnamed
  let state := (registry.reload.runOn start).2
  let alice : UserRecord :=
    ⟨"alice", " ", ⟨0, 0⟩, ⟨"alice", none, true, Roles.ofList [" ", "A"]⟩⟩
  have resolved : ((registry.resolve "alice").runOn state).1 = .ok alice := by decide +kernel
  obtain ⟨external, -⟩ := always registry start state "alice" alice (by decide +kernel) rfl
    (by decide +kernel) resolved
  have managed : alice.hasSource = false := by decide
  cases managed.symm.trans external

end IdentityChain
