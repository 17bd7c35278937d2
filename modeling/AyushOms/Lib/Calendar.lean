import Mathlib.Order.Monotone.Basic
import Mathlib.Algebra.Order.Group.Int
import Mathlib.Algebra.Order.SuccPred
import Mathlib.Data.Int.SuccPred
import Mathlib.Tactic.IntervalCases

/-!
# Cutting the Line into Days, Months and Years

A tiling cuts the integers into consecutive spans and numbers them. Tilings compose: microseconds
are cut into days, days into the months of the Gregorian calendar, and so microseconds into
months. What holds of every span (that each integer lies in exactly one, and that each ends where
the next one starts) is then said once.

The calendar is the proleptic Gregorian one, over all integers: day 1 is the Monday on which the
year 1 starts.

## Main results

- `Tiling.index_eq_iff`: the span of an integer is the one that holds it
- `Date.ofOrdinal_ordinal`, `Date.ordinal_ofOrdinal`: dates are numbered by the days
- `Date.index_months_ordinal`, `Date.index_years_ordinal`: the tilings by months and by years say
  what a date's fields say
-/

namespace AyushOms.Lib

/-! ## Section 1: Tilings -/

/-- The integers, cut into spans: the number of the span an integer lies in, and where each span
starts. -/
structure Tiling where
  index : ℤ → ℤ
  start : ℤ → ℤ
  start_lt_succ : ∀ k, start k < start (k + 1)
  start_index_le : ∀ n, start (index n) ≤ n
  lt_start_succ : ∀ n, n < start (index n + 1)

namespace Tiling

variable (T : Tiling)

theorem start_lt_start {j k : ℤ} (h : j < k) : T.start j < T.start k :=
  strictMono_int_of_lt_succ T.start_lt_succ h

theorem start_le_start {j k : ℤ} (h : j ≤ k) : T.start j ≤ T.start k :=
  (strictMono_int_of_lt_succ T.start_lt_succ).monotone h

theorem start_le_iff {n k : ℤ} : T.start k ≤ n ↔ k ≤ T.index n := by
  constructor
  · intro h
    have hlt : T.start k < T.start (T.index n + 1) := lt_of_le_of_lt h (T.lt_start_succ n)
    by_contra hnot
    exact absurd hlt (not_lt.mpr (T.start_le_start (Int.not_le.mp hnot)))
  · intro h
    exact le_trans (T.start_le_start h) (T.start_index_le n)

theorem lt_start_iff {n k : ℤ} : n < T.start k ↔ T.index n < k := by
  rw [← not_le, ← not_le, T.start_le_iff]

/-- An integer's span is the one that holds it. -/
theorem index_eq_iff {n k : ℤ} : T.index n = k ↔ T.start k ≤ n ∧ n < T.start (k + 1) := by
  rw [T.start_le_iff, T.lt_start_iff]
  omega

@[simp]
theorem index_start (k : ℤ) : T.index (T.start k) = k :=
  T.index_eq_iff.mpr ⟨le_refl _, T.start_lt_succ k⟩

/-- Spans of one length, the one with number 0 starting at `origin`. -/
def every (length : ℤ) (origin : ℤ) (hpos : 0 < length) : Tiling where
  index n := (n - origin) / length
  start k := length * k + origin
  start_lt_succ k := by
    rw [Int.mul_add]
    omega
  start_index_le n := by
    have h := Int.mul_ediv_self_le (x := n - origin) (Int.ne_of_gt hpos)
    omega
  lt_start_succ n := by
    have h := Int.lt_mul_ediv_self_add (x := n - origin) hpos
    rw [Int.mul_add]
    omega

/-- The spans of the second tiling, each made of spans of the first. -/
def comp (fine coarse : Tiling) : Tiling where
  index n := coarse.index (fine.index n)
  start k := fine.start (coarse.start k)
  start_lt_succ k := fine.start_lt_start (coarse.start_lt_succ k)
  start_index_le _ := fine.start_le_iff.mpr (coarse.start_index_le _)
  lt_start_succ _ := fine.lt_start_iff.mpr (coarse.lt_start_succ _)

@[simp]
theorem comp_index (fine coarse : Tiling) (n : ℤ) :
    (fine.comp coarse).index n = coarse.index (fine.index n) := rfl

@[simp]
theorem comp_start (fine coarse : Tiling) (k : ℤ) :
    (fine.comp coarse).start k = fine.start (coarse.start k) := rfl

/-- Each day alone. -/
def days : Tiling := every 1 0 Int.one_pos

@[simp]
theorem days_index (n : ℤ) : days.index n = n := by
  simp only [days, every]
  omega

@[simp]
theorem days_start (k : ℤ) : days.start k = k := by
  simp only [days, every]
  omega

/-- The weeks: they start on Mondays, and number 0 starts on day 1. -/
def weeks : Tiling := every 7 1 (by decide)

@[simp]
theorem weeks_index (n : ℤ) : weeks.index n = (n - 1) / 7 := rfl

@[simp]
theorem weeks_start (k : ℤ) : weeks.start k = 7 * k + 1 := rfl

end Tiling

/-! ## Section 2: Years -/

namespace Calendar

/-- The leap years. -/
def IsLeap (year : ℤ) : Prop := year % 4 = 0 ∧ (year % 100 ≠ 0 ∨ year % 400 = 0)

instance (year : ℤ) : Decidable (IsLeap year) :=
  inferInstanceAs (Decidable (_ ∧ (_ ∨ _)))

/-- The days before a year starts, from the start of the year 1. -/
def daysBeforeYear (year : ℤ) : ℤ :=
  365 * (year - 1) + (year - 1) / 4 - (year - 1) / 100 + (year - 1) / 400

theorem daysBeforeYear_succ (year : ℤ) :
    daysBeforeYear (year + 1) = daysBeforeYear year + if IsLeap year then 366 else 365 := by
  by_cases h : IsLeap year
  · rw [if_pos h]
    unfold IsLeap at h
    unfold daysBeforeYear
    omega
  · rw [if_neg h]
    unfold IsLeap at h
    unfold daysBeforeYear
    omega

/-- The year of a day: counting by the mean length of a year is one year short at most. -/
def yearOf (n : ℤ) : ℤ :=
  let year := (n - 1) * 400 / 146097 + 1
  if daysBeforeYear (year + 1) < n then year + 1 else year

theorem daysBeforeYear_yearOf (n : ℤ) :
    daysBeforeYear (yearOf n) < n ∧ n ≤ daysBeforeYear (yearOf n + 1) := by
  unfold yearOf
  dsimp only
  split <;> unfold daysBeforeYear at * <;> omega

end Calendar

/-- The years. -/
def Tiling.years : Tiling where
  index := Calendar.yearOf
  start year := Calendar.daysBeforeYear year + 1
  start_lt_succ year := by
    rw [Calendar.daysBeforeYear_succ]
    split <;> omega
  start_index_le n := by
    have h := Calendar.daysBeforeYear_yearOf n
    omega
  lt_start_succ n := by
    have h := Calendar.daysBeforeYear_yearOf n
    omega

@[simp]
theorem Tiling.years_index (n : ℤ) : Tiling.years.index n = Calendar.yearOf n := rfl

@[simp]
theorem Tiling.years_start (year : ℤ) :
    Tiling.years.start year = Calendar.daysBeforeYear year + 1 := rfl

/-! ## Section 3: Months -/

namespace Calendar

/-- The days of a month. -/
def daysInMonth (year month : ℤ) : ℤ :=
  if month = 2 then (if IsLeap year then 29 else 28)
  else if month = 4 ∨ month = 6 ∨ month = 9 ∨ month = 11 then 30
  else 31

/-- The days of a year before a month starts. -/
def daysBeforeMonth (year month : ℤ) : ℤ :=
  (367 * month - 362) / 12 + if month ≤ 2 then 0 else if IsLeap year then -1 else -2

theorem daysBeforeMonth_one (year : ℤ) : daysBeforeMonth year 1 = 0 := rfl

theorem daysBeforeMonth_succ {year month : ℤ} (hone : 1 ≤ month) (htwelve : month ≤ 12) :
    daysBeforeMonth year (month + 1) = daysBeforeMonth year month + daysInMonth year month := by
  unfold daysBeforeMonth daysInMonth
  by_cases h : IsLeap year
  · simp only [if_pos h]
    interval_cases month <;> decide
  · simp only [if_neg h]
    interval_cases month <;> decide

/-- The months of a year together make it up. -/
theorem daysBeforeMonth_thirteen (year : ℤ) :
    daysBeforeMonth year 13 = if IsLeap year then 366 else 365 := by
  unfold daysBeforeMonth
  by_cases h : IsLeap year
  · simp only [if_pos h]
    decide
  · simp only [if_neg h]
    decide

theorem daysInMonth_pos (year month : ℤ) : 0 < daysInMonth year month := by
  unfold daysInMonth
  split_ifs <;> decide

/-- The month of a day of a year. -/
def monthOf (year dayOfYear : ℤ) : ℤ :=
  let shifted := if dayOfYear ≤ daysBeforeMonth year 3 then dayOfYear - 1
    else if IsLeap year then dayOfYear else dayOfYear + 1
  (12 * shifted + 373) / 367

theorem daysBeforeMonth_monthOf (year : ℤ) {dayOfYear : ℤ} (hone : 1 ≤ dayOfYear)
    (hlast : dayOfYear ≤ daysBeforeMonth year 13) :
    (1 ≤ monthOf year dayOfYear ∧ monthOf year dayOfYear ≤ 12) ∧
      daysBeforeMonth year (monthOf year dayOfYear) < dayOfYear ∧
        dayOfYear ≤ daysBeforeMonth year (monthOf year dayOfYear + 1) := by
  unfold monthOf
  unfold daysBeforeMonth at *
  by_cases h : IsLeap year
  · simp only [if_pos h] at *
    split_ifs <;> omega
  · simp only [if_neg h] at *
    split_ifs <;> omega

/-- The first day of a month. -/
def firstOfMonth (year month : ℤ) : ℤ := daysBeforeYear year + daysBeforeMonth year month + 1

theorem firstOfMonth_succ (year : ℤ) {month : ℤ} (hone : 1 ≤ month) (htwelve : month ≤ 12) :
    firstOfMonth year (month + 1) = firstOfMonth year month + daysInMonth year month := by
  unfold firstOfMonth
  rw [daysBeforeMonth_succ hone htwelve]
  omega

theorem firstOfMonth_one (year : ℤ) : firstOfMonth year 1 = daysBeforeYear year + 1 := by
  unfold firstOfMonth
  rw [daysBeforeMonth_one]
  omega

/-- A year's thirteenth month is the next year's first. -/
theorem firstOfMonth_thirteen (year : ℤ) : firstOfMonth year 13 = firstOfMonth (year + 1) 1 := by
  rw [firstOfMonth_one, daysBeforeYear_succ]
  unfold firstOfMonth
  rw [daysBeforeMonth_thirteen]

/-- The first day of a month, by the number of the month. -/
def monthStart (k : ℤ) : ℤ := firstOfMonth (k / 12) (k % 12 + 1)

theorem monthStart_eq {year month : ℤ} (hone : 1 ≤ month) (hlast : month ≤ 13) :
    monthStart (12 * year + month - 1) = firstOfMonth year month := by
  unfold monthStart
  by_cases h : month = 13
  · have hyear : (12 * year + month - 1) / 12 = year + 1 := by omega
    have hmonth : (12 * year + month - 1) % 12 + 1 = 1 := by omega
    rw [hyear, hmonth, h, firstOfMonth_thirteen]
  · have hyear : (12 * year + month - 1) / 12 = year := by omega
    have hmonth : (12 * year + month - 1) % 12 + 1 = month := by omega
    rw [hyear, hmonth]

/-- The number of the month a day lies in. -/
def monthIndex (n : ℤ) : ℤ := 12 * yearOf n + monthOf (yearOf n) (n - daysBeforeYear (yearOf n)) - 1

theorem monthOf_bounds (n : ℤ) :
    (1 ≤ monthOf (yearOf n) (n - daysBeforeYear (yearOf n)) ∧
      monthOf (yearOf n) (n - daysBeforeYear (yearOf n)) ≤ 12) ∧
      monthStart (monthIndex n) ≤ n ∧ n < monthStart (monthIndex n + 1) := by
  have hyear := daysBeforeYear_yearOf n
  have hlength : daysBeforeYear (yearOf n + 1) =
      daysBeforeYear (yearOf n) + daysBeforeMonth (yearOf n) 13 := by
    rw [daysBeforeYear_succ, daysBeforeMonth_thirteen]
  obtain ⟨hmonth, hfirst, hlast⟩ := daysBeforeMonth_monthOf (yearOf n)
    (show 1 ≤ n - daysBeforeYear (yearOf n) by omega) (by omega)
  have hstart : monthStart (monthIndex n) =
      firstOfMonth (yearOf n) (monthOf (yearOf n) (n - daysBeforeYear (yearOf n))) :=
    monthStart_eq hmonth.1 (by omega)
  have hnext : monthStart (monthIndex n + 1) =
      firstOfMonth (yearOf n) (monthOf (yearOf n) (n - daysBeforeYear (yearOf n)) + 1) := by
    rw [← monthStart_eq (by omega) (by omega)]
    unfold monthIndex
    congr 1
    omega
  refine ⟨hmonth, ?_⟩
  rw [hstart, hnext]
  unfold firstOfMonth
  omega

theorem monthStart_succ (k : ℤ) :
    monthStart (k + 1) = monthStart k + daysInMonth (k / 12) (k % 12 + 1) := by
  have hnext : k + 1 = 12 * (k / 12) + (k % 12 + 1 + 1) - 1 := by omega
  rw [hnext, monthStart_eq (by omega) (by omega), firstOfMonth_succ _ (by omega) (by omega)]
  rfl

theorem monthStart_lt_succ (k : ℤ) : monthStart k < monthStart (k + 1) := by
  have hpos := daysInMonth_pos (k / 12) (k % 12 + 1)
  rw [monthStart_succ]
  omega

end Calendar

/-- The months: a month of a year has the number `12 * year + month - 1`. -/
def Tiling.months : Tiling where
  index := Calendar.monthIndex
  start := Calendar.monthStart
  start_lt_succ := Calendar.monthStart_lt_succ
  start_index_le n := (Calendar.monthOf_bounds n).2.1
  lt_start_succ n := (Calendar.monthOf_bounds n).2.2

@[simp]
theorem Tiling.months_index (n : ℤ) : Tiling.months.index n = Calendar.monthIndex n := rfl

@[simp]
theorem Tiling.months_start (k : ℤ) : Tiling.months.start k = Calendar.monthStart k := rfl

/-! ## Section 4: Dates -/

/-- A date of the calendar. -/
@[ext]
structure Date where
  year : ℤ
  month : ℤ
  day : ℤ
  one_le_month : 1 ≤ month
  month_le_twelve : month ≤ 12
  one_le_day : 1 ≤ day
  day_le : day ≤ Calendar.daysInMonth year month
  deriving DecidableEq, Repr

namespace Date

open Calendar

/-- The number of a date. -/
def ordinal (date : Date) : ℤ := firstOfMonth date.year date.month + date.day - 1

/-- The date with a number. -/
def ofOrdinal (n : ℤ) : Date where
  year := yearOf n
  month := monthOf (yearOf n) (n - daysBeforeYear (yearOf n))
  day := n - monthStart (monthIndex n) + 1
  one_le_month := (monthOf_bounds n).1.1
  month_le_twelve := (monthOf_bounds n).1.2
  one_le_day := by
    have h := (monthOf_bounds n).2.1
    omega
  day_le := by
    obtain ⟨hmonth, -, hlast⟩ := monthOf_bounds n
    have hyear : monthIndex n / 12 = yearOf n := by
      unfold monthIndex
      omega
    have hmod : monthIndex n % 12 + 1 = monthOf (yearOf n) (n - daysBeforeYear (yearOf n)) := by
      unfold monthIndex
      omega
    rw [monthStart_succ, hyear, hmod] at hlast
    omega

/-- The number of the month of a date. -/
def monthNumber (date : Date) : ℤ := 12 * date.year + date.month - 1

variable (date : Date)

theorem ordinal_eq : date.ordinal = monthStart date.monthNumber + date.day - 1 := by
  unfold ordinal monthNumber
  rw [monthStart_eq date.one_le_month (by have h := date.month_le_twelve; omega)]

/-- The tiling by months says what the year and the month of a date say. -/
theorem index_months_ordinal : Tiling.months.index date.ordinal = date.monthNumber := by
  have hone := date.one_le_month
  have htwelve := date.month_le_twelve
  have hday := date.one_le_day
  have hlast := date.day_le
  have hyear : date.monthNumber / 12 = date.year := by
    unfold monthNumber
    omega
  have hmonth : date.monthNumber % 12 + 1 = date.month := by
    unfold monthNumber
    omega
  rw [Tiling.index_eq_iff, Tiling.months_start, Tiling.months_start, monthStart_succ, hyear,
    hmonth, ordinal_eq]
  omega

/-- The tiling by years says what the year of a date says. -/
theorem index_years_ordinal : Tiling.years.index date.ordinal = date.year := by
  have hbounds := (monthOf_bounds date.ordinal).1
  have hnumber : monthIndex date.ordinal = date.monthNumber := date.index_months_ordinal
  have hone := date.one_le_month
  have htwelve := date.month_le_twelve
  rw [Tiling.years_index]
  unfold monthIndex monthNumber at hnumber
  omega

theorem ofOrdinal_ordinal : ofOrdinal date.ordinal = date := by
  have hyear : yearOf date.ordinal = date.year := date.index_years_ordinal
  have hnumber : monthIndex date.ordinal = date.monthNumber := date.index_months_ordinal
  ext
  · exact hyear
  · show monthOf _ _ = date.month
    unfold monthIndex monthNumber at hnumber
    omega
  · show date.ordinal - monthStart (monthIndex date.ordinal) + 1 = date.day
    rw [hnumber, ordinal_eq]
    omega

theorem ordinal_ofOrdinal (n : ℤ) : (ofOrdinal n).ordinal = n := by
  rw [ordinal_eq]
  show monthStart (monthIndex n) + (n - monthStart (monthIndex n) + 1) - 1 = n
  omega

example : (ofOrdinal 719163).ordinal = 719163 ∧ (ofOrdinal 719163).year = 1970 := by decide

end Date

end AyushOms.Lib
