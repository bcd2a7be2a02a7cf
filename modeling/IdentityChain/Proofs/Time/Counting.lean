import IdentityChain.Proofs.Time.Elapsing

/-!
# Instants as numbers

In no leap second an instant is a number of nanoseconds and nothing else: the
order of instants is the order of their numbers (`before_iff_total_lt`), and the
number of a sum is the sum of the numbers (`total_after`). The two limits that
a sum can meet are then numbers too. A duration can be added at all if it has at
most as many milliseconds as fit 64 bits with a sign (`Duration.addable_iff`),
and a sum is missing only past the last second of the calendar
(`plus?_eq_none_iff`).
-/

namespace IdentityChain

/-- The nanoseconds of the longest duration that can be added to an instant. -/
def Duration.reach : Int := IntRange.signed64.greatest * 1000000

/-- Of durations that name less than a second in nanoseconds, those within reach can be added. -/
theorem Duration.addable_iff {d : Duration} (nanos : d.nanos < Instant.second) :
    d.addable = true ↔ (d.total : Int) ≤ reach := by
  have seconds_eq : longest.seconds = 9223372036854775 := by decide
  have nanos_eq : longest.nanos = 807000000 := by decide
  have reach_eq : reach = 9223372036854775807000000 := by decide
  unfold addable
  rw [decide_eq_true_iff, seconds_eq, nanos_eq, reach_eq]
  simp only [Duration.total, Instant.second] at nanos ⊢
  omega

namespace Instant

variable {t u : Instant} {d : Duration}

/-- The instant can be represented and is in no leap second. -/
structure Regular (t : Instant) : Prop where
  inRange : t.inRange = true
  outside : t.inLeap = false

/-- The nanoseconds at which the calendar ends. -/
def horizon : Int := (lastSecond + 1) * second

theorem nanos_lt_of_outside (outside : t.inLeap = false) : t.nanos < second := by
  have below : ¬ second ≤ t.nanos := of_decide_eq_false outside
  omega

/-- Instants outside leap seconds stand in the order of their numbers. -/
theorem before_iff_total_lt (outside : t.inLeap = false) (outside' : u.inLeap = false) :
    t.before u = true ↔ t.total < u.total := by
  refine ⟨total_lt_of_before outside, fun fewer => ?_⟩
  have below := nanos_lt_of_outside outside'
  rw [before_iff]
  simp only [total, second] at below fewer
  omega

/-- From outside a leap second no sum ends in one. -/
theorem inLeap_after (outside : t.inLeap = false) : (t.after d).inLeap = false := by
  have below : (t.nanos + d.total) % second < second := Nat.mod_lt _ (by decide)
  rw [after_outside outside]
  exact decide_eq_false (Nat.not_le.2 below)

/-- The number of a sum is the sum of the numbers. -/
theorem total_after (outside : t.inLeap = false) : (t.after d).total = t.total + d.total := by
  rw [after_outside outside]
  simp only [total, second]
  omega

/-- A sum is missing exactly if it lies past the end of the calendar. -/
theorem Regular.plus?_eq_none_iff (regular : t.Regular) :
    t.plus? d = none ↔ horizon ≤ t.total + d.total := by
  have ahead := seconds_add_le_after t d
  have below := nanos_lt_of_outside (inLeap_after (d := d) regular.outside)
  have start := (inRange_iff.1 regular.inRange).1
  have inside : (t.after d).inRange = true ↔ (t.after d).seconds ≤ lastSecond := by
    rw [inRange_iff]
    omega
  rw [plus?_eq, ← total_after regular.outside]
  simp only [total, horizon, second] at below ⊢
  by_cases early : (t.after d).seconds ≤ lastSecond
  · rw [if_pos (inside.2 early)]
    simp only [reduceCtorEq, false_iff]
    omega
  · rw [if_neg fun yes => early (inside.1 yes)]
    simp only [true_iff]
    omega

end Instant

end IdentityChain
