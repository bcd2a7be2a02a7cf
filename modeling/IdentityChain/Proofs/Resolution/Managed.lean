import IdentityChain.Proofs.Resolution.Histories
import IdentityChain.Proofs.Resolution.Reuse
import Mathlib.Data.List.Induction

/-!
# Records of managed users

A record without a source never expires, so a resolution of its user is always
served from the cache and never replaces or evicts it. It is meant to change
through the cache itself alone. It can be lost otherwise in one way: a
resolution of another user walks the chain and the service that answers calls
that user by the managed user's name. The answer is then kept over the managed
record.
-/

namespace IdentityChain

variable {σ : Type} {registry : Registry σ} {state : RegistryState σ} {username : String}
  {record : UserRecord}

/-- A resolution that produces nothing under the name of a managed user leaves the user's record. -/
theorem find?_resolution_of_managed {limits : ResolutionLimits} {asked : String}
    (held : state.cache.find? username = some record) (managed : record.hasSource = false)
    (undisplaced : ∀ written entry, Produced limits state asked written entry →
      written.username = username → written = record) :
    (state.resolution limits asked).cache.find? username = some record := by
  cases resolutionEnd limits state asked with
  | served fresh result_eq cache_eq =>
    rw [cache_eq]
    exact held
  | produced produced =>
    rw [produced.cache_eq, UserCache.find?_upsert]
    split
    · rename_i same
      rw [undisplaced _ _ produced same.symm]
    · exact held
  | unknown unserved result_eq cache_eq =>
    rw [cache_eq, UserCache.find?_evict]
    split
    · rename_i same
      -- The managed user was asked for, but then the cache has a fresh record.
      have stale := UserCache.freshAt?_eq_none_iff.1 unserved record (same ▸ held)
      cases (UserRecord.isFreshAt_of_managed managed _ _).symm.trans stale
    · exact held

/-- An occurrence leaves the record of a managed user unless it changes that record directly or is
a resolution that produces another record under that name. -/
theorem find?_undergo_of_managed {occurrence : Occurrence}
    (held : state.cache.find? username = some record) (managed : record.hasSource = false)
    (spared : ∀ change, occurrence = .direct change → change.username ≠ username)
    (undisplaced : ∀ operation asked written entry, occurrence = .event (.call operation) →
      operation.resolves? = some asked → Produced registry.limits state asked written entry →
      written.username = username → written = record) :
    (registry.undergo state occurrence).cache.find? username = some record := by
  cases registry.cacheStep state occurrence with
  | kept cache_eq =>
    rw [cache_eq]
    exact held
  | resolved resolves cache_eq =>
    rw [cache_eq]
    exact find?_resolution_of_managed held managed fun written entry =>
      undisplaced _ _ written entry rfl resolves
  | changed cache_eq =>
    rw [cache_eq, CacheChange.find?_applyTo_of_ne (spared _ rfl)]
    exact held

/-- While the cache is not changed directly for a managed user, the user's record stays there
unchanged exactly if no resolution of the history produces another record under the user's name. -/
theorem managed_record_stays_iff (registry : Registry σ) {start : RegistryState σ}
    (held : start.cache.find? username = some record)
    (managed : Text.blank record.sourceId = true) (occurrences : List Occurrence)
    (spared : ∀ change, .direct change ∈ occurrences → change.username ≠ username) :
    (∀ earlier, earlier <+: occurrences →
      (registry.history earlier start).cache.find? username = some record) ↔
    ∀ earlier operation asked written entry,
      earlier ++ [.event (.call operation)] <+: occurrences →
      operation.resolves? = some asked →
      Produced registry.limits (registry.history earlier start) asked written entry →
      written.username = username → written = record := by
  constructor
  · -- What a resolution produces under the name is what the cache holds after it.
    intro stays earlier operation asked written entry part resolves produced named
    have after := stays _ part
    rw [Registry.history_concat, Registry.cache_undergo_resolves registry resolves,
      produced.cache_eq, UserCache.find?_upsert, if_pos named.symm] at after
    exact Option.some.inj after
  · -- The state before each occurrence is that of an earlier part of the history, to which the
    -- condition speaks, so the induction takes away the last occurrence.
    intro undisplaced earlier
    induction earlier using List.reverseRecOn with
    | nil => exact fun _ => held
    | append_singleton earlier occurrence ih =>
      intro part
      have before := ih ((List.prefix_append earlier [occurrence]).trans part)
      have occurs : occurrence ∈ occurrences :=
        part.subset (List.mem_append_right _ List.mem_cons_self)
      rw [Registry.history_concat]
      refine find?_undergo_of_managed before (UserRecord.hasSource_eq_false_iff.2 managed) ?_ ?_
      · rintro change rfl
        exact spared change occurs
      · rintro operation asked written entry rfl
        exact undisplaced earlier operation asked written entry part

namespace Rehearsal

/-- The record of a managed user whose name the directory gives to another user. -/
def managedAlice : UserRecord :=
  ⟨"alice", "", ⟨0, 0⟩, ⟨"alice", none, true, Roles.ofList ["local"]⟩⟩

/-- A registry with that user. -/
def managing : RegistryState Configuration :=
  (Registry.inMemory factories limits).history
    [.event (.call .init), .direct (.store "" managedAlice.profile)] (start aliased)

end Rehearsal

/-- The record stays while other users come and go and the managed user is resolved. -/
theorem managed_record_stays_iff_rehearsal :
    let registry := Registry.inMemory Rehearsal.factories Rehearsal.limits
    let occurrences : List Occurrence := [.event (.call (.resolve "bob")),
      .event (.clock ⟨9000, 0⟩), .direct (.evict "bob"), .event (.call (.profileOf "alice"))]
    Rehearsal.managing.cache.find? "alice" = some Rehearsal.managedAlice ∧
      ∀ earlier, earlier <+: occurrences →
        (registry.history earlier Rehearsal.managing).cache.find? "alice" =
          some Rehearsal.managedAlice := by
  intro registry occurrences
  have held : Rehearsal.managing.cache.find? "alice" = some Rehearsal.managedAlice := by
    decide +kernel
  have managed : Text.blank Rehearsal.managedAlice.sourceId = true := by decide
  have spared : ∀ change, .direct change ∈ occurrences → change.username ≠ "alice" := by
    intro change mem
    simp only [occurrences, List.mem_cons, reduceCtorEq, Occurrence.direct.injEq, List.not_mem_nil,
      or_false, false_or] at mem
    subst mem
    decide
  refine ⟨held, (managed_record_stays_iff registry held managed occurrences spared).2 ?_⟩
  intro earlier operation asked written entry part resolves produced named
  have walks : earlier = [] ∧ operation = .resolve "bob" ∨
      earlier = occurrences.take 3 ∧ operation = .profileOf "alice" := by
    obtain ⟨rest, split_eq⟩ := part
    simp [occurrences, List.append_eq_cons_iff, List.cons_eq_append_iff] at split_eq
    rcases split_eq with ⟨rfl, rfl, -⟩ | ⟨rfl, rfl, -⟩
    · exact .inl ⟨rfl, rfl⟩
    · exact .inr ⟨rfl, rfl⟩
  have outcome := produced.result_eq
  rcases walks with ⟨rfl, rfl⟩ | ⟨rfl, rfl⟩
  · cases resolves
    have bob : (Rehearsal.managing.resolution registry.limits "bob").result =
        .ok ⟨"bob", "ldap", ⟨0, 0⟩, ⟨"bob", none, true, Roles.ofList ["ldap", "A"]⟩⟩ := by
      decide +kernel
    cases bob.symm.trans outcome
    exact absurd named (by decide)
  · cases resolves
    have served : ((registry.history (occurrences.take 3) Rehearsal.managing).resolution
        registry.limits "alice").result = .ok Rehearsal.managedAlice := by decide +kernel
    cases served.symm.trans outcome
    rfl

/-- The record of a managed user is not always kept: here another user is resolved, whom the
directory calls by the same name. -/
theorem not_always_kept :
    ¬ ∀ (registry : Registry Configuration) (start : RegistryState Configuration)
        (username : String) (record : UserRecord) (occurrences : List Occurrence),
      start.cache.find? username = some record → Text.blank record.sourceId = true →
      (∀ change, .direct change ∈ occurrences → change.username ≠ username) →
      (registry.history occurrences start).cache.find? username = some record := by
  intro always
  let registry := Registry.inMemory Rehearsal.factories Rehearsal.limits
  let occurrences : List Occurrence := [.event (.call (.resolve "al"))]
  have kept := always registry Rehearsal.managing "alice" Rehearsal.managedAlice occurrences
    (by decide +kernel) (by decide) (by simp [occurrences])
  have lost : (registry.history occurrences Rehearsal.managing).cache.find? "alice" ≠
      some Rehearsal.managedAlice := by decide +kernel
  exact lost kept

end IdentityChain
