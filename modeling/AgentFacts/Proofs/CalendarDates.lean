import AgentFacts.Time.Calendar
import Mathlib.Data.List.Basic

namespace AgentFacts.Calendar

def yearLength (year : Int) : Nat :=
  if isLeapYear year then 366 else 365

theorem daysBeforeYear_succ (year : Int) :
    daysBeforeYear (year + 1) = daysBeforeYear year + yearLength year := by
  simp only [daysBeforeYear, yearLength, isLeapYear, Bool.and_eq_true, Bool.or_eq_true,
    decide_eq_true_eq]
  split <;> omega

theorem daysBeforeMonth_succ (year : Int) (month : Nat) :
    daysBeforeMonth year (month + 1 + 1) =
      daysBeforeMonth year (month + 1) + daysInMonth year (month + 1) := by
  simp [daysBeforeMonth, List.range_succ]

theorem daysBeforeMonth_thirteen (year : Int) : daysBeforeMonth year 13 = yearLength year := by
  cases leap : isLeapYear year <;>
    simp [daysBeforeMonth, List.range_succ, daysInMonth, yearLength, leap]

theorem daysInMonth_le (year : Int) (month : Nat) : daysInMonth year month ≤ 31 := by
  unfold daysInMonth
  split <;> [split; split] <;> omega

/-- A month of the year and a day of that month. -/
structure Date.Exists (d : Date) : Prop where
  month_pos : 1 ≤ d.month
  month_le : d.month ≤ 12
  day_pos : 1 ≤ d.day
  day_le : d.day ≤ daysInMonth d.year d.month

/-- The days of a year, counted from 1 January of year 1. -/
def InYear (year count : Int) : Prop :=
  daysBeforeYear year ≤ count ∧ count < daysBeforeYear (year + 1)

theorem daysBeforeYear_mono {year later : Int} (h : year ≤ later) :
    daysBeforeYear year ≤ daysBeforeYear later := by
  simp only [daysBeforeYear]
  omega

theorem InYear.le {year count other : Int} (h : InYear year count)
    (begun : daysBeforeYear other ≤ count) : other ≤ year := by
  by_contra less
  have := daysBeforeYear_mono (show year + 1 ≤ other by omega)
  have := h.2
  omega

theorem InYear.lt {year count other : Int} (h : InYear year count)
    (before : count < daysBeforeYear other) : year < other := by
  by_contra less
  have := daysBeforeYear_mono (show other ≤ year by omega)
  have := h.1
  omega

/-- The guess is off by one year at most, and then it is seen on which side. -/
theorem guess_near (count : Int) :
    daysBeforeYear (count * 400 / 146097 + 1 - 1) ≤ count ∧
      count < daysBeforeYear (count * 400 / 146097 + 1 + 1 + 1) := by
  simp only [daysBeforeYear]
  omega

/-- The year of a day, as its date tells it. -/
theorem dateOf_eq (day : Int) : ∃ year, InYear year (day + epoch) ∧
    dateOf day = dateInYear year (day + epoch - daysBeforeYear year).toNat := by
  refine ⟨_, ?_, rfl⟩
  obtain ⟨above, below⟩ := guess_near (day + epoch)
  split
  · next before => exact ⟨above, by rwa [Int.sub_add_cancel]⟩
  · split
    · next past => exact ⟨past, below⟩
    · next before past => exact ⟨by omega, by omega⟩

/-- What skipping whole months keeps: the days that are left are those of the months to come. -/
theorem monthFrom_exists (year : Int) (month ordinal later : Nat) (sum : month + later = 11)
    (within : daysBeforeMonth year (month + 1) + ordinal < yearLength year) :
    let date := dateInYear.monthFrom year (month + 1) ordinal later
    date.Exists ∧ date.year = year ∧
      daysBeforeMonth year date.month + date.day = daysBeforeMonth year (month + 1) + ordinal + 1
    := by
  induction later generalizing month ordinal with
  | zero =>
    obtain rfl : month = 11 := sum
    have whole := daysBeforeMonth_succ year 11
    rw [daysBeforeMonth_thirteen] at whole
    exact ⟨⟨by simp [dateInYear.monthFrom], by simp [dateInYear.monthFrom],
      by simp [dateInYear.monthFrom], by simp only [dateInYear.monthFrom]; omega⟩, rfl, rfl⟩
  | succ later ih =>
    simp only [dateInYear.monthFrom]
    split
    · next here => exact ⟨⟨by simp, by simp only; omega, by simp, by simp only; omega⟩, rfl, rfl⟩
    · next past =>
      have skipped := daysBeforeMonth_succ year month
      obtain ⟨found, same, days⟩ := ih (month + 1) (ordinal - daysInMonth year (month + 1))
        (show month + 1 + later = 11 by omega)
        (show daysBeforeMonth year (month + 1 + 1) +
          (ordinal - daysInMonth year (month + 1)) < yearLength year by omega)
      exact ⟨found, same, by omega⟩

theorem dateInYear_exists (year : Int) (ordinal : Nat) (within : ordinal < yearLength year) :
    (dateInYear year ordinal).Exists ∧ (dateInYear year ordinal).year = year ∧
      daysBeforeMonth year (dateInYear year ordinal).month + (dateInYear year ordinal).day =
        ordinal + 1 := by
  have first : daysBeforeMonth year 1 = 0 := rfl
  have found := monthFrom_exists year 0 ordinal 11 rfl (by simpa [first] using within)
  simp only [Nat.zero_add, first] at found
  exact found

/-- Counted from 1 January 1970, a day is in the year of its date, and the date is one that exists
and has the day for its own. -/
theorem dateOf_spec (day : Int) :
    (dateOf day).Exists ∧ InYear (dateOf day).year (day + epoch) ∧ dayOf (dateOf day) = day := by
  obtain ⟨year, inYear, eq⟩ := dateOf_eq day
  have length := daysBeforeYear_succ year
  have ⟨after, before⟩ := inYear
  obtain ⟨found, same, days⟩ :=
    dateInYear_exists year (day + epoch - daysBeforeYear year).toNat (by omega)
  rw [← eq] at found same days
  refine ⟨found, same.symm ▸ inYear, ?_⟩
  simp only [dayOf, same]
  omega

theorem dayOf_newYear (year : Int) : dayOf ⟨year, 1, 1⟩ = daysBeforeYear year - epoch := by
  have none : daysBeforeMonth year 1 = 0 := rfl
  simp only [dayOf, none]
  omega

end AgentFacts.Calendar
