import IdentityChain.Time.Instant

/-!
# Order and sums of instants

Instants stand in the order of their seconds and, within one second, of their
nanoseconds. `Instant.after` is the sum of an instant and a duration, whether
it can be represented or not; `Instant.plus?` is the same sum where it can be.
A sum lies at least the whole seconds of the duration ahead
(`seconds_add_le_after`), so that one which cannot be represented lies after
every instant that can. Counted in nanoseconds, a sum is at most the sum of the
numbers: it is less only where it leaves a leap second (`total_after_le`).
-/

namespace IdentityChain

/-- The number of nanoseconds of a duration. -/
def Duration.total (d : Duration) : Nat := d.seconds * Instant.second + d.nanos

namespace Instant

/-- The number of nanoseconds from 1970-01-01T00:00:00Z, in which no leap second counts but the one
that the instant is in. -/
def total (t : Instant) : Int := t.seconds * second + t.nanos

/-- The instant a duration after `t`, whether it is representable or not. -/
def after (t : Instant) (d : Duration) : Instant := t.plusNanos d.total

variable {t u v : Instant} {d : Duration}

theorem plus?_eq (t : Instant) (d : Duration) :
    t.plus? d = if (t.after d).inRange then some (t.after d) else none := rfl

theorem inRange_iff : t.inRange = true ↔ firstSecond ≤ t.seconds ∧ t.seconds ≤ lastSecond :=
  decide_eq_true_iff

theorem before_iff :
    t.before u = true ↔ t.seconds < u.seconds ∨ (t.seconds = u.seconds ∧ t.nanos < u.nanos) :=
  decide_eq_true_iff

/-- An instant that is not later than another lies before whatever the other lies before. -/
theorem before_of_not_before (notEarlier : u.before t = false) (h : u.before v = true) :
    t.before v = true := by
  have no : ¬ u.before t = true := by
    rw [notEarlier]
    exact Bool.false_ne_true
  rw [before_iff] at no h ⊢
  omega

/-! ## Sums -/

/-- From outside a leap second every nanosecond counts. -/
theorem after_outside (outside : t.inLeap = false) :
    t.after d =
      ⟨t.seconds + ((t.nanos + d.total) / second : Nat), (t.nanos + d.total) % second⟩ := by
  unfold after plusNanos
  simp only [outside, Bool.false_eq_true, false_and, if_false]
  rw [← Int.natCast_add, ← Int.natCast_ediv, ← Int.natCast_emod, Int.toNat_natCast]

/-- A sum that ends in the leap second in which it starts. -/
theorem after_within (leap : t.inLeap = true) (short : t.nanos + d.total < 2 * second) :
    t.after d = ⟨t.seconds, t.nanos + d.total⟩ := by
  have nanos : second ≤ t.nanos := of_decide_eq_true leap
  unfold after plusNanos
  rw [if_pos ⟨leap, by omega, by omega⟩]
  rfl

/-- A sum that leaves the leap second in which it starts. -/
theorem after_beyond (leap : t.inLeap = true) (long : 2 * second ≤ t.nanos + d.total) :
    t.after d =
      ⟨t.seconds + ((t.nanos + d.total - second) / second : Nat),
        (t.nanos + d.total - second) % second⟩ := by
  have sum_eq : (t.nanos : Int) + (d.total : Nat) - second =
      (t.nanos + d.total - second : Nat) := by omega
  unfold after plusNanos
  rw [if_neg (by omega), if_pos ⟨leap, by omega⟩]
  dsimp only
  rw [sum_eq, ← Int.natCast_ediv, ← Int.natCast_emod, Int.toNat_natCast]

/-- A sum lies ahead by the whole seconds of the duration at least. -/
theorem seconds_add_le_after (t : Instant) (d : Duration) :
    t.seconds + d.seconds ≤ (t.after d).seconds := by
  cases leap : t.inLeap with
  | false =>
    rw [after_outside leap]
    simp only [Duration.total, second]
    omega
  | true =>
    have nanos : second ≤ t.nanos := of_decide_eq_true leap
    by_cases short : t.nanos + d.total < 2 * second
    · rw [after_within leap short]
      simp only [Duration.total, second] at nanos short ⊢
      omega
    · rw [after_beyond leap (by omega)]
      simp only [Duration.total, second] at nanos short ⊢
      omega

/-- A sum does not lie before its start. -/
theorem after_not_before (t : Instant) (d : Duration) : (t.after d).before t = false := by
  refine eq_false_of_ne_true fun early => ?_
  rw [before_iff] at early
  cases leap : t.inLeap with
  | false =>
    rw [after_outside leap] at early
    simp only [second] at early
    omega
  | true =>
    by_cases short : t.nanos + d.total < 2 * second
    · rw [after_within leap short] at early
      dsimp only at early
      omega
    · rw [after_beyond leap (by omega)] at early
      simp only [second] at early short
      omega

theorem total_after_le (t : Instant) (d : Duration) : (t.after d).total ≤ t.total + d.total := by
  cases leap : t.inLeap with
  | false =>
    rw [after_outside leap]
    simp only [total, second]
    omega
  | true =>
    by_cases short : t.nanos + d.total < 2 * second
    · rw [after_within leap short]
      simp only [total]
      omega
    · rw [after_beyond leap (by omega)]
      simp only [total, second] at short ⊢
      omega

/-- Of two instants the first of which is in no leap second, the earlier has fewer nanoseconds. -/
theorem total_lt_of_before (outside : t.inLeap = false) (h : t.before u = true) :
    t.total < u.total := by
  have nanos : ¬ second ≤ t.nanos := of_decide_eq_false outside
  rw [before_iff] at h
  simp only [total, second] at nanos ⊢
  omega

/-! ## Sums out of range -/

/-- A sum that cannot be represented lies after every instant that can. -/
theorem before_after_of_plus?_eq_none (representable : u.inRange = true)
    (start : t.inRange = true) (unrepresentable : t.plus? d = none) :
    u.before (t.after d) = true := by
  have ahead := seconds_add_le_after t d
  have outside : ¬ (t.after d).inRange = true := by
    intro inside
    rw [plus?_eq, if_pos inside] at unrepresentable
    cases unrepresentable
  rw [inRange_iff] at representable start outside
  rw [before_iff]
  omega

/-- A duration that cannot be added to any instant reaches beyond every instant. -/
theorem before_after_of_not_addable (representable : u.inRange = true)
    (start : t.inRange = true) (long : d.addable = false) : u.before (t.after d) = true := by
  have ahead := seconds_add_le_after t d
  have longest : Duration.longest.seconds = 9223372036854775 := by decide
  have least : Duration.longest.seconds ≤ d.seconds := by
    have no := of_decide_eq_false long
    omega
  rw [inRange_iff] at representable start
  simp only [firstSecond, lastSecond] at representable start
  rw [before_iff]
  omega

end Instant

end IdentityChain
