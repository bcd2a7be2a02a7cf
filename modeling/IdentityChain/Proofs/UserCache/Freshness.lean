import IdentityChain.Proofs.Time.Elapsing
import IdentityChain.UserCache

/-!
# How long a record is served

The look-ups of the cache, and the freshness of a record said without the
limits of representation. A record is fresh exactly as long as it is a managed
one or the clock stands before the end of its time (`isFreshAt_iff`); durations
and sums too great to represent make no exception, as no clock reaches them. A
stale record stays stale while the clock does not go back.
-/

namespace IdentityChain

namespace UserRecord

variable {record : UserRecord} {now later : Instant} {ttl : Duration}

/-- A record without a source is always fresh. -/
theorem isFreshAt_of_managed (managed : record.hasSource = false) (now : Instant)
    (ttl : Duration) : record.isFreshAt now ttl = true := by
  unfold isFreshAt
  rw [managed, Bool.false_and]
  rfl

theorem hasSource_eq_false_iff : record.hasSource = false ↔ Text.blank record.sourceId = true := by
  rw [hasSource, Bool.not_eq_false']

theorem isFreshAt_of_before (inTime : now.before (record.lastUpdate.after ttl) = true) :
    record.isFreshAt now ttl = true := by
  unfold isFreshAt
  rw [Instant.plus?_eq]
  by_cases inside : (record.lastUpdate.after ttl).inRange = true
  · rw [if_pos inside]
    dsimp only
    rw [inTime, ite_self]
  · rw [if_neg inside]
    dsimp only
    rw [ite_self]

/-- A stale record has a source and an end that is representable and not later than the clock. -/
theorem stale_iff : record.isFreshAt now ttl = false ↔
    record.hasSource = true ∧ ttl.addable = true ∧
      (record.lastUpdate.after ttl).inRange = true ∧
      now.before (record.lastUpdate.after ttl) = false := by
  unfold isFreshAt
  rw [Instant.plus?_eq]
  cases record.hasSource <;> cases ttl.addable <;>
    cases (record.lastUpdate.after ttl).inRange <;> simp

/-- A stale record stays stale. -/
theorem stale_later (stale : record.isFreshAt now ttl = false)
    (notEarlier : later.before now = false) : record.isFreshAt later ttl = false := by
  rw [stale_iff] at stale ⊢
  obtain ⟨external, addable, inside, ended⟩ := stale
  refine ⟨external, addable, inside, ?_⟩
  cases ends : later.before (record.lastUpdate.after ttl) with
  | false => rfl
  | true =>
    have early := Instant.before_of_not_before notEarlier ends
    cases ended.symm.trans early

/-- The freshness of a record in exact arithmetic. -/
theorem isFreshAt_iff (clock : now.inRange = true) (stamp : record.lastUpdate.inRange = true) :
    record.isFreshAt now ttl = true ↔
      record.hasSource = false ∨ now.before (record.lastUpdate.after ttl) = true := by
  constructor
  · intro fresh
    cases external : record.hasSource with
    | false => exact .inl rfl
    | true =>
      refine .inr ?_
      cases addable : ttl.addable with
      | false => exact Instant.before_after_of_not_addable clock stamp addable
      | true =>
        cases sum : record.lastUpdate.plus? ttl with
        | none => exact Instant.before_after_of_plus?_eq_none clock stamp sum
        | some expiry =>
          unfold UserRecord.isFreshAt at fresh
          rw [external, addable, Bool.true_and, if_pos rfl, sum] at fresh
          rw [Instant.plus?_eq] at sum
          split at sum
          · cases sum
            exact fresh
          · cases sum
  · rintro (managed | inTime)
    · exact isFreshAt_of_managed managed now ttl
    · exact isFreshAt_of_before inTime

end UserRecord

namespace UserCache

variable {cache : UserCache} {username other : String} {record : UserRecord} {now : Instant}
  {ttl : Duration}

@[simp] theorem find?_empty (username : String) : empty.find? username = none := rfl

@[simp] theorem find?_upsert (cache : UserCache) (record : UserRecord) (username : String) :
    (cache.upsert record).find? username =
      if username = record.username then some record else cache.find? username :=
  Table.get?_insert cache record.username username record

@[simp] theorem find?_evict (cache : UserCache) (username other : String) :
    (cache.evict username).2.find? other = if other = username then none else cache.find? other :=
  Table.get?_erase cache username other

theorem freshAt?_eq_some_iff : cache.freshAt? now ttl username = some record ↔
    cache.find? username = some record ∧ record.isFreshAt now ttl = true := by
  rw [freshAt?, Option.filter_eq_some_iff]

theorem freshAt?_eq_none_iff : cache.freshAt? now ttl username = none ↔
    ∀ record, cache.find? username = some record → record.isFreshAt now ttl = false := by
  rw [freshAt?, Option.filter_eq_none_iff]
  simp only [Bool.not_eq_true]

end UserCache

end IdentityChain
