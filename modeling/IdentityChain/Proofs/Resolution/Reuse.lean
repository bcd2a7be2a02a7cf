import IdentityChain.Proofs.Resolution.Outcome

/-!
# Asking twice

What a service answers is kept under the username in the answer, and the cache
is searched for the username that was asked for. If these are the same, a second
resolution within the time to live is served from the cache. If the service
knows the user by another name, it is not: the record stands under that other
name, and the chain is walked as before.
-/

namespace IdentityChain

variable {snapshot : Snapshot} {limits : ResolutionLimits} {cache : UserCache} {username : String}
  {now later : Instant}

/-- A record kept now serves its user until its time to live is over. -/
theorem served_later {record : UserRecord} (stamp : record.lastUpdate = now)
    (inTime : later.before (now.after limits.ttl) = true) :
    (cache.upsert record).freshAt? later limits.ttl record.username = some record := by
  rw [UserCache.freshAt?_eq_some_iff, UserCache.find?_upsert, if_pos rfl]
  refine ⟨rfl, UserRecord.isFreshAt_of_before ?_⟩
  rw [stamp]
  exact inTime

/-- A record under another name does not serve the user for whom it was not fresh. -/
theorem unserved_later {record : UserRecord} (other : record.username ≠ username)
    (unserved : cache.freshAt? now limits.ttl username = none)
    (notEarlier : later.before now = false) :
    (cache.upsert record).freshAt? later limits.ttl username = none := by
  rw [UserCache.freshAt?_eq_none_iff] at unserved ⊢
  intro held found
  rw [UserCache.find?_upsert, if_neg other.symm] at found
  exact UserRecord.stale_later (unserved held found) notEarlier

/-- After a walk that found the user, a second resolution within the time to live returns the same
record without a call exactly if the record is of the username that was asked for. Otherwise it asks
the same services again and stamps their answer anew. -/
theorem second_resolve_reuses_iff {record : UserRecord}
    (walked : cache.freshAt? now limits.ttl username = none)
    (resolved : (snapshot.resolve limits now cache username).result = .ok record)
    (notEarlier : later.before now = false)
    (inTime : later.before (now.after limits.ttl) = true) :
    let first := snapshot.resolve limits now cache username
    let second := snapshot.resolve limits later first.cache username
    (second.result = .ok record ∧ second.calls = [] ↔ record.username = username) ∧
    (record.username ≠ username →
      second.result = .ok { record with lastUpdate := later } ∧ second.calls = first.calls) := by
  intro first second
  rcases Snapshot.firstFound_or_silent username limits.timeout snapshot.enabledLookups with
    ⟨passed, entry, rest, profile, found⟩ | silent
  · have first_eq : first = _ := Snapshot.resolve_of_firstFound walked found
    have record_eq : UserCache.recordOf entry.name now profile = record := by
      have result : first.result = .ok record := resolved
      rw [first_eq] at result
      cases result
      rfl
    rw [record_eq] at first_eq
    have kept : first.cache = cache.upsert record := by rw [first_eq]
    have stamp : record.lastUpdate = now := by rw [← record_eq]; rfl
    by_cases same : record.username = username
    · have fresh : first.cache.freshAt? later limits.ttl username = some record := by
        rw [kept, ← same]
        exact served_later stamp inTime
      have second_eq : second = _ := Snapshot.resolve_of_fresh fresh
      rw [second_eq]
      exact ⟨⟨fun _ => same, fun _ => ⟨rfl, rfl⟩⟩, fun other => (other same).elim⟩
    · -- The record stands under another name, and whatever was there for this user is still stale.
      have unserved : first.cache.freshAt? later limits.ttl username = none := by
        rw [kept]
        exact unserved_later same walked notEarlier
      have second_eq : second = _ := Snapshot.resolve_of_firstFound unserved found
      have again : UserCache.recordOf entry.name later profile =
          { record with lastUpdate := later } := by
        rw [← record_eq]
        rfl
      rw [second_eq, first_eq, again]
      refine ⟨⟨fun ⟨_, uncalled⟩ => ?_, fun eq => (same eq).elim⟩, fun _ => ⟨rfl, rfl⟩⟩
      exact (List.append_ne_nil_of_right_ne_nil passed (List.cons_ne_nil entry [])
        (List.map_eq_nil_iff.1 uncalled)).elim
  · rw [Snapshot.resolve_of_silent walked silent] at resolved
    cases resolved

namespace Rehearsal

/-- A service that knows one of its two users by another name. -/
def aliased : Configuration :=
  Table.ofList [("ldap", serviceBag 1 [("alias", .obj [("al", .str "alice")]),
    ("users", .arr [.str "al", .str "bob"])])]

def aliasing : Snapshot :=
  ⟨1, [], [⟨"ldap", some 1, true,
    Script.toLookupService ⟨"ldap", "A", .normal, ["al", "bob"], [], [],
      Table.ofList [("al", "alice")], 0⟩⟩]⟩

end Rehearsal

/-- The user who keeps his name is served, and the one who is renamed is looked up again. -/
theorem second_resolve_reuses_iff_rehearsal :
    let resolve := Rehearsal.aliasing.resolve Rehearsal.limits
    let bob : UserRecord := ⟨"bob", "ldap", ⟨0, 0⟩, ⟨"bob", none, true, Roles.ofList ["ldap", "A"]⟩⟩
    let alice : UserRecord :=
      ⟨"alice", "ldap", ⟨0, 0⟩, ⟨"alice", none, true, Roles.ofList ["ldap", "A"]⟩⟩
    ((resolve ⟨299, 0⟩ (resolve ⟨0, 0⟩ .empty "bob").cache "bob").result = .ok bob ∧
      (resolve ⟨299, 0⟩ (resolve ⟨0, 0⟩ .empty "bob").cache "bob").calls = []) ∧
    (resolve ⟨299, 0⟩ (resolve ⟨0, 0⟩ .empty "al").cache "al").result =
        .ok { alice with lastUpdate := ⟨299, 0⟩ } ∧
      (resolve ⟨299, 0⟩ (resolve ⟨0, 0⟩ .empty "al").cache "al").calls =
        (resolve ⟨0, 0⟩ .empty "al").calls := by
  intro resolve bob alice
  have bobResolved : (resolve ⟨0, 0⟩ .empty "bob").result = .ok bob := by rfl
  have aliceResolved : (resolve ⟨0, 0⟩ .empty "al").result = .ok alice := by rfl
  have notEarlier : Instant.before ⟨299, 0⟩ ⟨0, 0⟩ = false := by decide
  have inTime : Instant.before ⟨299, 0⟩ (Instant.after ⟨0, 0⟩ Rehearsal.limits.ttl) = true := by
    decide
  have bobTwice := second_resolve_reuses_iff (by rfl) bobResolved notEarlier inTime
  have aliceTwice := second_resolve_reuses_iff (by rfl) aliceResolved notEarlier inTime
  exact ⟨bobTwice.1.2 rfl, aliceTwice.2 (by decide)⟩

/-- A record is not always reused. -/
theorem not_always_reused :
    ¬ ∀ (snapshot : Snapshot) (limits : ResolutionLimits) (cache : UserCache) (username : String)
        (now later : Instant) (record : UserRecord),
      cache.freshAt? now limits.ttl username = none →
      (snapshot.resolve limits now cache username).result = .ok record →
      later.before now = false → later.before (now.after limits.ttl) = true →
      let first := snapshot.resolve limits now cache username
      let second := snapshot.resolve limits later first.cache username
      second.result = .ok record ∧ second.calls = [] := by
  intro always
  have reused := always Rehearsal.aliasing Rehearsal.limits .empty "al" ⟨0, 0⟩ ⟨1, 0⟩ _
    rfl rfl (by decide) (by decide)
  have called : (Rehearsal.aliasing.resolve Rehearsal.limits ⟨1, 0⟩
    (Rehearsal.aliasing.resolve Rehearsal.limits ⟨0, 0⟩ .empty "al").cache "al").calls ≠ [] := by
    decide
  exact called reused.2

end IdentityChain
