import IdentityChain.Proofs.Time.Counting
import IdentityChain.Proofs.UserCache.Freshness

/-!
# Freshness in exact arithmetic

For clocks and stamps that are plain numbers of nanoseconds, a record of a
source is fresh exactly while the clock's number is less than the sum of the
stamp's and the time to live (`isFreshAt_iff_total_lt`). Where the sum cannot be
formed, because the duration is out of reach or the calendar ends before, the
record counts as fresh, and so it does in exact arithmetic: no clock gets there.
An earlier clock and a longer time to live therefore never make a fresh record
stale.
-/

namespace IdentityChain

variable {record : UserRecord} {now earlier : Instant} {ttl longer : Duration}

namespace UserRecord

/-- A record is fresh if it has no source or the clock's number is less than that of its end. -/
theorem isFreshAt_iff_total_lt (clock : now.Regular) (stamp : record.lastUpdate.Regular) :
    record.isFreshAt now ttl = true ↔
      Text.blank record.sourceId = true ∨
        now.total < record.lastUpdate.total + ttl.total := by
  have expiry := Instant.inLeap_after (d := ttl) stamp.outside
  rw [isFreshAt_iff clock.inRange stamp.inRange, hasSource_eq_false_iff,
    Instant.before_iff_total_lt clock.outside expiry, Instant.total_after stamp.outside]

/-- No clock shows an instant at or after a sum that cannot be formed. -/
theorem total_lt_of_unformed (clock : now.Regular) (stamp : record.lastUpdate.Regular)
    (unformed : ttl.addable = false ∨ record.lastUpdate.plus? ttl = none) :
    now.total < record.lastUpdate.total + ttl.total := by
  have before : now.before (record.lastUpdate.after ttl) = true := by
    rcases unformed with long | none
    · exact Instant.before_after_of_not_addable clock.inRange stamp.inRange long
    · exact Instant.before_after_of_plus?_eq_none clock.inRange stamp.inRange none
  rw [← Instant.total_after stamp.outside]
  exact Instant.total_lt_of_before clock.outside before

theorem isFreshAt_earlier (clock : now.Regular) (stamp : record.lastUpdate.Regular)
    (clock' : earlier.Regular) (notLater : earlier.total ≤ now.total)
    (fresh : record.isFreshAt now ttl = true) : record.isFreshAt earlier ttl = true := by
  rw [isFreshAt_iff_total_lt clock stamp] at fresh
  rw [isFreshAt_iff_total_lt clock' stamp]
  refine fresh.imp_right fun inTime => ?_
  omega

theorem isFreshAt_longer (clock : now.Regular) (stamp : record.lastUpdate.Regular)
    (notShorter : ttl.total ≤ longer.total) (fresh : record.isFreshAt now ttl = true) :
    record.isFreshAt now longer = true := by
  rw [isFreshAt_iff_total_lt clock stamp] at fresh ⊢
  refine fresh.imp_right fun inTime => ?_
  omega

end UserRecord

/-- A record is fresh exactly if it has no source or the clock stands before the end of its time,
counted in nanoseconds without bounds. A sum is not formed if the duration is out of reach or the
sum lies past the end of the calendar, and then the clock does stand before it. Freshness does not
end when the clock is earlier or the time to live longer. -/
theorem freshness_exact (clock : now.Regular) (stamp : record.lastUpdate.Regular)
    (ttl : Duration) :
    (record.isFreshAt now ttl = true ↔
      Text.blank record.sourceId = true ∨
        now.total < record.lastUpdate.total + ttl.total) ∧
    (ttl.nanos < Instant.second →
      (ttl.addable = false ↔ Duration.reach < ttl.total)) ∧
    (record.lastUpdate.plus? ttl = none ↔
      Instant.horizon ≤ record.lastUpdate.total + ttl.total) ∧
    (ttl.addable = false ∨ record.lastUpdate.plus? ttl = none →
      now.total < record.lastUpdate.total + ttl.total) ∧
    (∀ earlier : Instant, earlier.Regular → earlier.total ≤ now.total →
      record.isFreshAt now ttl = true → record.isFreshAt earlier ttl = true) ∧
    ∀ longer : Duration, ttl.total ≤ longer.total →
      record.isFreshAt now ttl = true → record.isFreshAt now longer = true := by
  refine ⟨UserRecord.isFreshAt_iff_total_lt clock stamp, fun nanos => ?_,
    stamp.plus?_eq_none_iff, UserRecord.total_lt_of_unformed clock stamp,
    fun earlier clock' => UserRecord.isFreshAt_earlier clock stamp clock',
    fun longer => UserRecord.isFreshAt_longer clock stamp⟩
  rw [← Bool.not_eq_true, Duration.addable_iff nanos, Int.not_le]

/-- Over the whole calendar: a record of its first instant is stale in its last one if the time to
live ends there, and fresh if it ends a nanosecond later, where the sum is missing, or is the
longest that can be written, which is out of reach. -/
theorem freshness_exact_rehearsal :
    let profile : Profile := ⟨"ann", none, true, Roles.ofList []⟩
    let record : UserRecord := ⟨"ann", "ldap", ⟨Instant.firstSecond, 0⟩, profile⟩
    let last : Instant := ⟨Instant.lastSecond, 999999999⟩
    let ending : Duration := ⟨16544868105599, 999999999⟩
    let passing : Duration := ⟨16544868105600, 0⟩
    let longest : Duration := ⟨18446744073709551615, 999999999⟩
    record.isFreshAt last ending ≠ true ∧
      (record.lastUpdate.plus? passing = none ∧ record.isFreshAt last passing = true) ∧
      (longest.addable = false ∧ record.isFreshAt last longest = true) := by
  intro profile record last ending passing longest
  have clock : last.Regular := ⟨by decide, by decide⟩
  have stamp : record.lastUpdate.Regular := ⟨by decide, by decide⟩
  have source : Text.blank record.sourceId ≠ true := by decide
  have ended : ¬ last.total < record.lastUpdate.total + ending.total := by decide
  obtain ⟨ended_iff, -, -, -, -, -⟩ := freshness_exact clock stamp ending
  obtain ⟨passed_iff, -, missing_iff, unformed, -, longer⟩ := freshness_exact clock stamp passing
  obtain ⟨-, reach_iff, -, -, -, -⟩ := freshness_exact clock stamp longest
  have missing : record.lastUpdate.plus? passing = none := missing_iff.2 (by decide)
  have passed : record.isFreshAt last passing = true :=
    passed_iff.2 (.inr (unformed (.inr missing)))
  have beyond : longest.addable = false := (reach_iff (by decide)).2 (by decide)
  exact ⟨fun fresh => (ended_iff.1 fresh).elim source ended, ⟨missing, passed⟩,
    beyond, longer longest (by decide) passed⟩

end IdentityChain
