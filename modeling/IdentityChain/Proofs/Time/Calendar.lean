import IdentityChain.Time.Calendar
import Mathlib.Tactic.IntervalCases

/-!
# Days and dates

The two directions of the calendar are inverse to each other. Every day has a
date (`exists_ofDayNumber`), whose number it is (`dayNumber_ofDayNumber`), and
every date that exists is the date of its number (`ofDayNumber_dayNumber`).

Both directions split a 400-year cycle into years that begin in March
(`InCycle`). Of its four centuries the last has one day more than the others,
and of the spans of four years in a century all but the last have one day more
than four years; the terms of `yearOfCycle` correct for these days.
-/

namespace IdentityChain

namespace Date

theorem isLeap_iff {year : Int} :
    isLeap year = true ↔ year % 4 = 0 ∧ (year % 100 ≠ 0 ∨ year % 400 = 0) := by
  simp only [isLeap, Bool.and_eq_true, Bool.or_eq_true, decide_eq_true_iff]

/-! ## Years -/

/-- A day of a year of a cycle, both counted from zero; the years begin in March, so that a leap day
is the last of its year. -/
structure InCycle (year day : Int) : Prop where
  year_nonneg : 0 ≤ year
  year_lt : year < 400
  day_nonneg : 0 ≤ day
  day_lt : day < 365 ∨ day = 365 ∧ isLeap (year + 1) = true

/-- The number of a day in its cycle. -/
def dayOfCycle (year day : Int) : Int := year * 365 + year / 4 - year / 100 + day

/-- The year of a day of a cycle. -/
def yearOfCycle (days : Int) : Int := (days - days / 1460 + days / 36524 - days / 146096) / 365

namespace InCycle

variable {year day : Int}

theorem day_le (place : InCycle year day) : day ≤ 365 := by
  rcases place.day_lt with less | ⟨last, -⟩ <;> omega

theorem dayOfCycle_nonneg (place : InCycle year day) : 0 ≤ dayOfCycle year day := by
  have year_nonneg := place.year_nonneg
  have day_nonneg := place.day_nonneg
  unfold dayOfCycle
  omega

theorem dayOfCycle_lt (place : InCycle year day) : dayOfCycle year day < 146097 := by
  have year_nonneg := place.year_nonneg
  have year_lt := place.year_lt
  have day_lt := place.day_lt
  rw [isLeap_iff] at day_lt
  unfold dayOfCycle
  omega

/-- The year of a day is found again. -/
theorem yearOfCycle_eq (place : InCycle year day) :
    yearOfCycle (dayOfCycle year day) = year := by
  have year_nonneg := place.year_nonneg
  have year_lt := place.year_lt
  have day_nonneg := place.day_nonneg
  have day_lt := place.day_lt
  rw [isLeap_iff] at day_lt
  -- Centuries, spans of four years, and years count separately.
  obtain ⟨c, q, j, centuries, spans, years, rfl⟩ : ∃ c q j, (0 ≤ c ∧ c ≤ 3) ∧ (0 ≤ q ∧ q ≤ 24) ∧
      (0 ≤ j ∧ j ≤ 3) ∧ year = 100 * c + 4 * q + j :=
    ⟨year / 100, year % 100 / 4, year % 4, by omega, by omega, by omega, by omega⟩
  have split : dayOfCycle (100 * c + 4 * q + j) day = 36524 * c + 1461 * q + 365 * j + day := by
    unfold dayOfCycle
    omega
  have leap : day < 365 ∨ day = 365 ∧ j = 3 ∧ (q < 24 ∨ c = 3) := by omega
  rw [split, yearOfCycle]
  generalize counted : 36524 * c + 1461 * q + 365 * j + day = days
  by_cases last : days = 146096
  · omega
  · have century : days / 36524 = c := by omega
    have cycle : days / 146096 = 0 := by omega
    have span : days / 1460 = 25 * c + q + (24 * c + q + 365 * j + day) / 1460 := by omega
    rw [century, cycle, span]
    omega

end InCycle

/-- Every day of a cycle is a day of one of its years. -/
theorem exists_inCycle {days : Int} (nonneg : 0 ≤ days) (lt : days < 146097) :
    ∃ year day, InCycle year day ∧ dayOfCycle year day = days := by
  obtain ⟨c, rest, centuries, rest_nonneg, rest_lt, rfl⟩ : ∃ c rest, (0 ≤ c ∧ c ≤ 3) ∧ 0 ≤ rest ∧
      (rest < 36524 ∨ rest = 36524 ∧ c = 3) ∧ days = 36524 * c + rest := by
    by_cases last : days = 146096
    · exact ⟨3, 36524, by omega, by omega, by omega, by omega⟩
    · exact ⟨days / 36524, days % 36524, by omega, by omega, by omega, by omega⟩
  obtain ⟨q, more, spans, more_nonneg, more_lt, rfl⟩ : ∃ q more, (0 ≤ q ∧ q ≤ 24) ∧ 0 ≤ more ∧
      more < 1461 ∧ rest = 1461 * q + more :=
    ⟨rest / 1461, rest % 1461, by omega, by omega, by omega, by omega⟩
  obtain ⟨j, day, years, day_nonneg, day_lt, rfl⟩ : ∃ j day, (0 ≤ j ∧ j ≤ 3) ∧ 0 ≤ day ∧
      (day < 365 ∨ day = 365 ∧ j = 3) ∧ more = 365 * j + day := by
    by_cases last : more = 1460
    · exact ⟨3, 365, by omega, by omega, by omega, by omega⟩
    · exact ⟨more / 365, more % 365, by omega, by omega, by omega, by omega⟩
  refine ⟨100 * c + 4 * q + j, day, ⟨by omega, by omega, day_nonneg, ?_⟩, ?_⟩
  · rw [isLeap_iff]
    omega
  · unfold dayOfCycle
    omega

/-! ## Months -/

/-- The day of the year with which a month begins, both counted from March. -/
def monthStart (month : Int) : Int := (153 * month + 2) / 5

/-- The month of a day of the year, both counted from March. -/
def monthOf (day : Int) : Int := (5 * day + 2) / 153

/-- The day of the month, counted from zero. -/
def dayOfMonth (day : Int) : Int := day - monthStart (monthOf day)

/-- The month of a day is the one in which it lies. -/
theorem monthOf_eq_iff {day month : Int} :
    monthOf day = month ↔ monthStart month ≤ day ∧ day < monthStart (month + 1) := by
  unfold monthOf monthStart
  omega

/-- A month takes up all the days up to the next one, but February ends with the year. -/
theorem lt_daysInMonth_iff (year : Int) {month : Nat} (first : 1 ≤ month) (last : month ≤ 12)
    (number : Int) : number < daysInMonth year month ↔
      number < monthStart ((month + 9) % 12 + 1) - monthStart ((month + 9) % 12) ∧
        (month = 2 → number < 28 ∨ number = 28 ∧ isLeap year = true) := by
  by_cases february : month = 2
  · subst february
    have length : monthStart (((2 : Nat) + 9) % 12 + 1) - monthStart (((2 : Nat) + 9) % 12) = 30 :=
      by decide
    have days : daysInMonth year 2 = if isLeap year then 29 else 28 := rfl
    rw [length, days]
    cases isLeap year with
    | true =>
      simp only [if_true, and_true, forall_const]
      omega
    | false =>
      simp only [Bool.false_eq_true, if_false, and_false, or_false, forall_const]
      omega
  · have length : (daysInMonth year month : Int) =
        monthStart ((month + 9) % 12 + 1) - monthStart ((month + 9) % 12) := by
      interval_cases month
      all_goals first | exact (february rfl).elim | rfl
    rw [length]
    exact (and_iff_left fun here => (february here).elim).symm

/-! ## Dates -/

/-- The date of a day of a year that begins in March. -/
def ofMarch (year day : Int) : Date :=
  if monthOf day < 10 then ⟨year, (monthOf day + 3).toNat, (dayOfMonth day + 1).toNat⟩
  else ⟨year + 1, (monthOf day - 9).toNat, (dayOfMonth day + 1).toNat⟩

/-- Every day is a day of a year that begins in March. -/
theorem exists_place (days : Int) : ∃ cycle year day, InCycle year day ∧
    days = cycle * 146097 + dayOfCycle year day - 719468 := by
  have nonneg : 0 ≤ (days + 719468) % 146097 := by omega
  have lt : (days + 719468) % 146097 < 146097 := by omega
  obtain ⟨year, day, place, counted⟩ := exists_inCycle nonneg lt
  exact ⟨(days + 719468) / 146097, year, day, place, by omega⟩

/-- Every date is that of a day of a year that begins in March. -/
theorem Exists.exists_place {date : Date} (there : date.Exists) :
    ∃ cycle year day, InCycle year day ∧ date = ofMarch (year + cycle * 400) day := by
  obtain ⟨year, month, number⟩ := date
  obtain ⟨first, last, one, most⟩ := there
  dsimp only at first last one most
  obtain ⟨fits, february⟩ := (lt_daysInMonth_iff year first last (number - 1)).1 (by omega)
  -- January and February belong to the year that began in the last March.
  obtain ⟨march, began⟩ : ∃ march : Int,
      month ≤ 2 ∧ march = year - 1 ∨ 2 < month ∧ march = year := by
    by_cases early : month ≤ 2
    · exact ⟨year - 1, .inl ⟨early, rfl⟩⟩
    · exact ⟨year, .inr ⟨by omega, rfl⟩⟩
  generalize index : ((month : Int) + 9) % 12 = m at fits
  have bounds : 0 ≤ monthStart m ∧ (m = 11 ∧ monthStart m = 337 ∨ monthStart (m + 1) ≤ 337) := by
    unfold monthStart
    omega
  have month_eq : monthOf (monthStart m + (number - 1)) = m := monthOf_eq_iff.2 (by omega)
  have number_eq : dayOfMonth (monthStart m + (number - 1)) = number - 1 := by
    rw [dayOfMonth, month_eq]
    omega
  have whole : march % 400 + march / 400 * 400 = march := by omega
  refine ⟨march / 400, march % 400, monthStart m + (number - 1),
    ⟨by omega, by omega, by omega, ?_⟩, ?_⟩
  · rw [isLeap_iff] at february ⊢
    omega
  · rw [whole, ofMarch, month_eq, number_eq]
    by_cases late : m < 10
    · rw [if_pos late]
      congr 1 <;> omega
    · rw [if_neg late]
      congr 1 <;> omega

namespace InCycle

variable {year day : Int}

theorem monthOf_nonneg (place : InCycle year day) : 0 ≤ monthOf day := by
  have day_nonneg := place.day_nonneg
  unfold monthOf
  omega

theorem monthOf_lt (place : InCycle year day) : monthOf day < 12 := by
  have day_le := place.day_le
  unfold monthOf
  omega

theorem dayOfMonth_nonneg (place : InCycle year day) : 0 ≤ dayOfMonth day := by
  have day_nonneg := place.day_nonneg
  unfold dayOfMonth monthStart monthOf
  omega

theorem ofDayNumber_eq (place : InCycle year day) (cycle : Int) :
    ofDayNumber (cycle * 146097 + dayOfCycle year day - 719468) =
      ofMarch (year + cycle * 400) day := by
  have nonneg := place.dayOfCycle_nonneg
  have lt := place.dayOfCycle_lt
  have year_eq := place.yearOfCycle_eq
  have day_eq : day = dayOfCycle year day - (365 * year + year / 4 - year / 100) := by
    unfold dayOfCycle
    omega
  generalize dayOfCycle year day = counted at *
  have shifted : cycle * 146097 + counted - 719468 + 719468 = cycle * 146097 + counted := by omega
  have whole : (cycle * 146097 + counted) / 146097 = cycle := by omega
  have rest : (cycle * 146097 + counted) % 146097 = counted := by omega
  have month_eq : (5 * day + 2) / 153 = monthOf day := rfl
  have number_eq : day - (153 * monthOf day + 2) / 5 = dayOfMonth day := rfl
  have month_nonneg := place.monthOf_nonneg
  rw [yearOfCycle] at year_eq
  simp only [ofDayNumber, shifted, whole, rest, year_eq, ← day_eq, month_eq, number_eq, ofMarch]
  by_cases early : monthOf day < 10
  · rw [if_pos early, if_pos early, if_neg (by omega)]
  · rw [if_neg early, if_neg early, if_pos (by omega)]

theorem dayNumber_eq (place : InCycle year day) (cycle : Int) :
    (ofMarch (year + cycle * 400) day).dayNumber =
      cycle * 146097 + dayOfCycle year day - 719468 := by
  have year_nonneg := place.year_nonneg
  have year_lt := place.year_lt
  have month_nonneg := place.monthOf_nonneg
  have month_lt := place.monthOf_lt
  have number_nonneg := place.dayOfMonth_nonneg
  have day_eq : day = (153 * monthOf day + 2) / 5 + dayOfMonth day := by
    unfold dayOfMonth monthStart
    omega
  have counted : dayOfCycle year day = year * 365 + year / 4 - year / 100 +
      ((153 * monthOf day + 2) / 5 + dayOfMonth day) := by
    rw [← day_eq, dayOfCycle]
  rw [counted, ofMarch]
  generalize monthOf day = month, dayOfMonth day = number at *
  unfold dayNumber
  by_cases early : month < 10
  · rw [if_pos early]
    dsimp only
    rw [if_neg (by omega)]
    omega
  · rw [if_neg early]
    dsimp only
    rw [if_pos (by omega)]
    omega

/-- The day lies in its month, whatever the month and its year are called. -/
theorem exists_of_index (place : InCycle year day) (cycle : Int) {dateYear : Int} {month : Nat}
    (first : 1 ≤ month) (last : month ≤ 12) (index : ((month : Int) + 9) % 12 = monthOf day)
    (next : month = 2 → dateYear = year + cycle * 400 + 1) :
    (Date.mk dateYear month (dayOfMonth day + 1).toNat).Exists := by
  have nonneg := place.dayOfMonth_nonneg
  have within : day < monthStart (monthOf day + 1) := (monthOf_eq_iff.1 rfl).2
  have fits : dayOfMonth day < daysInMonth dateYear month := by
    rw [lt_daysInMonth_iff dateYear first last, index, dayOfMonth]
    refine ⟨by omega, fun february => ?_⟩
    -- February ends with the year.
    have start : monthStart 11 = 337 := by decide
    have last_month : monthOf day = 11 := by omega
    have day_lt := place.day_lt
    rw [last_month, start, next february]
    rw [isLeap_iff] at day_lt ⊢
    omega
  exact ⟨first, last, by dsimp only; omega, by dsimp only; omega⟩

theorem exists_ofMarch (place : InCycle year day) (cycle : Int) :
    (ofMarch (year + cycle * 400) day).Exists := by
  have nonneg := place.monthOf_nonneg
  have lt := place.monthOf_lt
  rw [ofMarch]
  by_cases early : monthOf day < 10
  · rw [if_pos early]
    exact place.exists_of_index cycle (by omega) (by omega) (by omega) (by omega)
  · rw [if_neg early]
    exact place.exists_of_index cycle (by omega) (by omega) (by omega) fun _ => rfl

end InCycle

/-- The number of the date of a day is the day. -/
theorem dayNumber_ofDayNumber (days : Int) : (ofDayNumber days).dayNumber = days := by
  obtain ⟨cycle, year, day, place, rfl⟩ := exists_place days
  rw [place.ofDayNumber_eq, place.dayNumber_eq]

/-- Every day has a date. -/
theorem exists_ofDayNumber (days : Int) : (ofDayNumber days).Exists := by
  obtain ⟨cycle, year, day, place, rfl⟩ := exists_place days
  rw [place.ofDayNumber_eq]
  exact place.exists_ofMarch cycle

/-- A date that exists is the date of its number. -/
theorem ofDayNumber_dayNumber {date : Date} (there : date.Exists) :
    ofDayNumber date.dayNumber = date := by
  obtain ⟨cycle, year, day, place, rfl⟩ := there.exists_place
  rw [place.dayNumber_eq, place.ofDayNumber_eq]

/-- The leap day at the end of a cycle. -/
example : ofDayNumber (Date.mk 2000 2 29).dayNumber = ⟨2000, 2, 29⟩ := by decide

end Date

end IdentityChain
