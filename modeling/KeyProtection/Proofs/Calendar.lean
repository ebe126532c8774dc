import Mathlib.Algebra.BigOperators.Intervals
import KeyProtection.DateTime

/-! Dates counted day by day. The closed form of `Date.dayNumber` and the search of
`Date.ofDayNumber` both agree with the plain count of the days of all earlier years and months. -/

namespace KeyProtection

def yearLength (year : Int) : Nat := if isLeapYear year then 366 else 365

namespace Date

/-- Days from the first of January of year 1 to a date, each earlier year and each earlier month of
the year by its own length. -/
def elapsedDays (date : Date) : Nat :=
  ∑ year ∈ Finset.Ico 1 date.year.toNat, yearLength year +
    ∑ month ∈ Finset.Ico 1 date.month, daysInMonth date.year month + (date.day - 1)

def firstOf1970 : Date := ⟨1970, 1, 1, by decide, by decide⟩

theorem total_eq_sum (lengths : List Nat) : total lengths = lengths.sum := List.sum_eq_foldr.symm

theorem daysBeforeYear_eq_sum (year : Nat) (started : 1 ≤ year) :
    daysBeforeYear year = ∑ earlier ∈ Finset.Ico 1 year, yearLength earlier := by
  induction year, started using Nat.le_induction with
  | base => rfl
  | succ year started ih =>
    have length : total (monthLengths year) = yearLength year := sum_monthLengths year
    calc daysBeforeYear (year + 1)
        = daysBeforeYear year + total (monthLengths year) := daysBeforeYear_succ year
      _ = ((∑ earlier ∈ Finset.Ico 1 year, yearLength earlier + yearLength year : Nat) : Int) := by
          rw [ih, length, Int.natCast_add]
      _ = (∑ earlier ∈ Finset.Ico 1 (year + 1), yearLength earlier : Nat) := by
          rw [Finset.sum_Ico_succ_top started]

theorem daysBeforeMonth_succ (year : Int) {month : Nat} (started : 1 ≤ month) (bound : month ≤ 12) :
    daysBeforeMonth year (month + 1) = daysBeforeMonth year month + daysInMonth year month := by
  obtain ⟨index, rfl⟩ : ∃ index, month = index + 1 := ⟨month - 1, by omega⟩
  have inside : index < (monthLengths year).length := by
    have twelve : (monthLengths year).length = 12 := rfl
    omega
  have length : daysInMonth year (index + 1) = (monthLengths year)[index] := by
    simp [daysInMonth, inside]
  rw [length]
  simp [daysBeforeMonth, total_eq_sum, List.sum_take_succ _ _ inside]

theorem daysBeforeMonth_eq_sum (year : Int) (month : Nat) (started : 1 ≤ month) (bound : month ≤ 12) :
    daysBeforeMonth year month = ∑ earlier ∈ Finset.Ico 1 month, daysInMonth year earlier := by
  induction month, started using Nat.le_induction with
  | base => rfl
  | succ month started ih =>
    rw [Finset.sum_Ico_succ_top started, ← ih (by omega)]
    exact daysBeforeMonth_succ year started (by omega)

/-- The day number is the plain count, taken from the first of January 1970. -/
theorem dayNumber_eq_elapsedDays (date : Date) (positive : 1 ≤ date.year) :
    date.dayNumber = (date.elapsedDays : Int) - firstOf1970.elapsedDays := by
  have counted (date : Date) (positive : 1 ≤ date.year) :
      (date.elapsedDays : Int) = date.dayNumber + epoch := by
    have years := daysBeforeYear_eq_sum date.year.toNat (by omega)
    have months := daysBeforeMonth_eq_sum date.year date.month date.month_range.1 date.month_range.2
    have day := date.day_range.1
    rw [Int.toNat_of_nonneg (by omega)] at years
    simp only [elapsedDays, dayNumber, years, months]
    push_cast
    omega
  rw [counted date positive, counted firstOf1970 (by decide)]
  have start : firstOf1970.dayNumber = 0 := by decide
  omega

theorem daysBeforeYear_mono {earlier later : Int} (order : earlier ≤ later) :
    daysBeforeYear earlier ≤ daysBeforeYear later := by
  simp only [daysBeforeYear]
  omega

/-- Years are in the order of their days. -/
theorem le_yearOfDay_iff (year days : Int) : year ≤ yearOfDay days ↔ daysBeforeYear year ≤ days := by
  have lower := daysBeforeYear_yearOfDay_le days
  have upper := lt_daysBeforeYear_yearOfDay_succ days
  constructor
  · intro order
    exact (daysBeforeYear_mono order).trans lower
  · intro begun
    by_contra later
    have order : daysBeforeYear (yearOfDay days + 1) ≤ daysBeforeYear year :=
      daysBeforeYear_mono (by omega)
    omega

theorem daysBeforeMonth_mono (year : Int) {earlier later : Nat} (started : 1 ≤ earlier)
    (order : earlier ≤ later) (bound : later ≤ 13) :
    daysBeforeMonth year earlier ≤ daysBeforeMonth year later := by
  induction later, order using Nat.le_induction with
  | base => exact Nat.le_refl _
  | succ later order ih =>
    have next := daysBeforeMonth_succ year (started.trans order) (by omega)
    exact (ih (by omega)).trans (by omega)

/-- A date lies before the first day of every later month. -/
theorem daysBeforeMonth_add_day_le (date : Date) {later : Nat} (order : date.month < later)
    (bound : later ≤ 13) :
    daysBeforeMonth date.year date.month + date.day ≤ daysBeforeMonth date.year later := by
  have next := daysBeforeMonth_succ date.year date.month_range.1 date.month_range.2
  have later := daysBeforeMonth_mono date.year (Nat.le_add_left 1 date.month) order bound
  have day := date.day_range.2
  omega

/-- The date comes first in the order of years, then of months, then of days of the month. -/
def Precedes (left right : Date) : Prop :=
  left.year < right.year ∨ left.year = right.year ∧
    (left.month < right.month ∨ left.month = right.month ∧ left.day < right.day)

/-- The order of dates is the order of their days. -/
theorem Precedes.dayNumber_lt {left right : Date} (order : left.Precedes right) :
    left.dayNumber < right.dayNumber := by
  have first := left.day_range.1
  have second := right.day_range.1
  rcases order with year | ⟨year, month | ⟨month, day⟩⟩
  · have december := left.month_range.2
    have months := daysBeforeMonth_add_day_le left (by omega : left.month < 13) (Nat.le_refl 13)
    have whole : daysBeforeMonth left.year 13 = total (monthLengths left.year) := rfl
    have next := daysBeforeYear_succ left.year
    have years : daysBeforeYear (left.year + 1) ≤ daysBeforeYear right.year := daysBeforeYear_mono year
    simp only [dayNumber]
    omega
  · have december := right.month_range.2
    have months := daysBeforeMonth_add_day_le left month (by omega)
    rw [year] at months
    simp only [dayNumber, year]
    omega
  · simp only [dayNumber, year, month]
    omega

theorem precedes_trichotomy (left right : Date) :
    left.Precedes right ∨ left = right ∨ right.Precedes left := by
  rcases lt_trichotomy left.year right.year with year | year | year
  · exact .inl (.inl year)
  · rcases lt_trichotomy left.month right.month with month | month | month
    · exact .inl (.inr ⟨year, .inl month⟩)
    · rcases lt_trichotomy left.day right.day with day | day | day
      · exact .inl (.inr ⟨year, .inr ⟨month, day⟩⟩)
      · refine .inr (.inl ?_)
        cases left
        cases right
        simp_all
      · exact .inr (.inr (.inr ⟨year.symm, .inr ⟨month.symm, day⟩⟩))
    · exact .inr (.inr (.inr ⟨year.symm, .inl month⟩))
  · exact .inr (.inr (.inl year))

theorem precedes_of_dayNumber_lt {left right : Date} (order : left.dayNumber < right.dayNumber) :
    left.Precedes right := by
  rcases precedes_trichotomy left right with before | same | after
  · exact before
  · exact absurd order (same ▸ Int.lt_irrefl _)
  · exact absurd after.dayNumber_lt (Int.lt_asymm order)

theorem eq_of_dayNumber_eq {left right : Date} (same : left.dayNumber = right.dayNumber) :
    left = right := by
  rcases precedes_trichotomy left right with before | equal | after
  · exact absurd before.dayNumber_lt (same ▸ Int.lt_irrefl _)
  · exact equal
  · exact absurd after.dayNumber_lt (same ▸ Int.lt_irrefl _)

end Date

end KeyProtection
