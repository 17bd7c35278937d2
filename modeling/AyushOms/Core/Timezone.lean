import AyushOms.Core.Values
import AyushOms.Lib.Calendar

/-!
# The Business Day

Python's `date` and aware `datetime`, as far as the backend computes with them, and
`app.core.timezone`: the calendar day of the business is the one in India.

A `date` is a date of the calendar whose year is one of 1 to 9999; an aware `datetime` is an
instant whose reading in UTC is in one of these years. An operation that leaves the range
raises, and so does each step on the way to a result inside it. `replace` and the subtraction
of days raise exceptions of different classes; nothing reads which.

## Main results

- `istDayBounds_eq`: the bounds are those of the span that the tiling by days gives the instant
- `istDayBoundsForDate_partition_iff`: the bounds of the dates cut the timeline as the dates do
-/

namespace AyushOms

open AyushOms.Lib

/-! ## Section 1: The ranges of the two types -/

/-- What arithmetic on a date or a timestamp raises outside its range. -/
def overflowError : PyException := .other "date value out of range"

/-- The microseconds of a day. -/
def microsecondsPerDay : ℤ := 86400000000

/-- 0001-01-01T00:00:00 in UTC. -/
def minInstant : ℤ := -62135596800000000

/-- 9999-12-31T23:59:59.999999 in UTC. -/
def maxInstant : ℤ := 253402300799999999

/-- The instants a `datetime` can hold. -/
def Representable (value : ℤ) : Prop := minInstant ≤ value ∧ value ≤ maxInstant

instance (value : ℤ) : Decidable (Representable value) :=
  inferInstanceAs (Decidable (_ ∧ _))

/-- The result of arithmetic on a timestamp. -/
def checkedInstant (value : ℤ) : Except PyException ℤ :=
  if Representable value then .ok value else .error overflowError

theorem checkedInstant_of {value : ℤ} (h : Representable value) :
    checkedInstant value = .ok value := if_pos h

theorem checkedInstant_error {value : ℤ} (h : ¬ Representable value) :
    checkedInstant value = .error overflowError := if_neg h

theorem checkedInstant_eq_ok {value result : ℤ} :
    checkedInstant value = .ok result ↔ Representable value ∧ value = result := by
  unfold checkedInstant
  split <;> simp_all

/-- The dates a `date` can hold. -/
def Lib.Date.Representable (date : Date) : Prop := 1 ≤ date.year ∧ date.year ≤ 9999

instance (date : Date) : Decidable date.Representable :=
  inferInstanceAs (Decidable (_ ∧ _))

theorem Lib.Date.representable_iff (date : Date) :
    date.Representable ↔ 1 ≤ date.ordinal ∧ date.ordinal ≤ 3652059 := by
  have hfirst : Tiling.years.start 1 = 1 := rfl
  have hend : Tiling.years.start (9999 + 1) = 3652060 := rfl
  have hone := Tiling.years.start_le_iff (n := date.ordinal) (k := 1)
  have hlast := Tiling.years.lt_start_iff (n := date.ordinal) (k := 9999 + 1)
  rw [date.index_years_ordinal, hfirst] at hone
  rw [date.index_years_ordinal, hend] at hlast
  unfold Lib.Date.Representable
  omega

/-- `date(year, month, day)`. -/
def pyDate (year month day : ℤ) : Except PyException Date :=
  if h : (1 ≤ year ∧ year ≤ 9999) ∧ (1 ≤ month ∧ month ≤ 12) ∧
      1 ≤ day ∧ day ≤ Calendar.daysInMonth year month then
    .ok ⟨year, month, day, h.2.1.1, h.2.1.2, h.2.2.1, h.2.2.2⟩
  else .error (.other "ValueError")

/-- `date + timedelta(days=days)`. -/
def Lib.Date.addDays (date : Date) (days : ℤ) : Except PyException Date :=
  if 1 ≤ date.ordinal + days ∧ date.ordinal + days ≤ 3652059 then
    .ok (Date.ofOrdinal (date.ordinal + days))
  else .error overflowError

/-- `date.weekday()`: Monday is 0. -/
def Lib.Date.weekday (date : Date) : ℤ := (date.ordinal + 6) % 7

/-- A number, filled up with zeros. -/
def zeroPadded (width : ℕ) (n : ℤ) : String :=
  let digits := (toString n).toList
  String.ofList (List.replicate (width - digits.length) '0' ++ digits)

/-- `date.isoformat()`. -/
def Lib.Date.isoformat (date : Date) : String :=
  zeroPadded 4 date.year ++ "-" ++ zeroPadded 2 date.month ++ "-" ++ zeroPadded 2 date.day

example : (Date.ofOrdinal 719163).isoformat = "1970-01-01" := by decide

theorem Lib.Date.addDays_of {date : Date} {days : ℤ} (hone : 1 ≤ date.ordinal + days)
    (hlast : date.ordinal + days ≤ 3652059) :
    date.addDays days = .ok (Date.ofOrdinal (date.ordinal + days)) := if_pos ⟨hone, hlast⟩

theorem Lib.Date.addDays_error {date : Date} {days : ℤ}
    (h : ¬ (1 ≤ date.ordinal + days ∧ date.ordinal + days ≤ 3652059)) :
    date.addDays days = .error overflowError := if_neg h

theorem pyDate_of {year month day : ℤ} (hyear : 1 ≤ year ∧ year ≤ 9999)
    (hmonth : 1 ≤ month ∧ month ≤ 12)
    (hday : 1 ≤ day ∧ day ≤ Calendar.daysInMonth year month) :
    pyDate year month day = .ok ⟨year, month, day, hmonth.1, hmonth.2, hday.1, hday.2⟩ :=
  dif_pos ⟨hyear, hmonth, hday⟩

theorem exists_addDays {date : Date} {days : ℤ} (hone : 1 ≤ date.ordinal + days)
    (hlast : date.ordinal + days ≤ 3652059) :
    ∃ shifted, date.addDays days = .ok shifted ∧ shifted.Representable ∧
      shifted.ordinal = date.ordinal + days := by
  refine ⟨_, Date.addDays_of hone hlast, ?_, Date.ordinal_ofOrdinal _⟩
  rw [Date.representable_iff, Date.ordinal_ofOrdinal]
  exact ⟨hone, hlast⟩

/-- The first day of a date's month. -/
theorem exists_firstOfMonth {date : Date} (h : date.Representable) :
    ∃ first, pyDate date.year date.month 1 = .ok first ∧ first.Representable ∧
      first.ordinal = Tiling.months.start date.monthNumber := by
  have hpos := Calendar.daysInMonth_pos date.year date.month
  refine ⟨_, pyDate_of h ⟨date.one_le_month, date.month_le_twelve⟩ ⟨le_refl _, by omega⟩, h, ?_⟩
  rw [Date.ordinal_eq]
  show Calendar.monthStart date.monthNumber + 1 - 1 = Calendar.monthStart date.monthNumber
  omega

/-! ## Section 2: Between dates and instants -/

/-- The days of the line of instants as UTC cuts it, by the number of the date. -/
def utcDays : Tiling := Tiling.every microsecondsPerDay (-719163 * microsecondsPerDay) (by decide)

/-- `datetime(date.year, date.month, date.day, tzinfo=UTC)`. -/
def utcMidnight (date : Date) : ℤ := utcDays.start date.ordinal

/-- `value.date()` of a timestamp in UTC. -/
def utcDate (value : ℤ) : Date := Date.ofOrdinal (utcDays.index value)

theorem utcDays_start (k : ℤ) : utcDays.start k = 86400000000 * k - 62135683200000000 := by
  simp only [utcDays, Tiling.every, microsecondsPerDay]
  rfl

theorem utcDays_index (n : ℤ) : utcDays.index n = (n + 62135683200000000) / 86400000000 := by
  simp only [utcDays, Tiling.every, microsecondsPerDay]
  congr 1

/-! ## Section 3: The day in India -/

/-- `IST_OFFSET`. -/
def istOffset : ℤ := 19800000000

/-- `to_ist`. -/
def toIst (value : ℤ) : Except PyException ℤ := do
  let utc ← checkedInstant value
  checkedInstant (utc + istOffset)

/-- `ist_day_bounds` of a reference. -/
def istDayBounds (reference : ℤ) : Except PyException (ℤ × ℤ) := do
  let istNow ← toIst reference
  let istMidnight := utcMidnight (utcDate istNow)
  let startOfToday ← checkedInstant (istMidnight - istOffset)
  let startOfTomorrow ← checkedInstant (startOfToday + microsecondsPerDay)
  return (startOfToday, startOfTomorrow)

/-- `ist_day_bounds_for_date`. -/
def istDayBoundsForDate (day : Date) : Except PyException (ℤ × ℤ) :=
  -- noon in UTC lies on the same date in India
  istDayBounds (utcMidnight day + 12 * 3600000000)

/-- The days of the line of instants as India cuts it, by the number of the date. -/
def istDays : Tiling :=
  Tiling.every microsecondsPerDay (-719163 * microsecondsPerDay - istOffset) (by decide)

/-- The date in India at an instant. -/
def istDate (value : ℤ) : Date := Date.ofOrdinal (istDays.index value)

theorem istDays_start (k : ℤ) : istDays.start k = 86400000000 * k - 62135703000000000 := by
  simp only [istDays, Tiling.every, microsecondsPerDay, istOffset]
  omega

theorem istDays_index (n : ℤ) : istDays.index n = (n + 62135703000000000) / 86400000000 := by
  simp only [istDays, Tiling.every, microsecondsPerDay, istOffset]
  congr 1

theorem istDays_start_eq (k : ℤ) : istDays.start k = utcDays.start k - istOffset := by
  rw [istDays_start, utcDays_start]
  unfold istOffset
  omega

theorem istDays_start_succ (k : ℤ) :
    istDays.start (k + 1) = istDays.start k + microsecondsPerDay := by
  rw [istDays_start, istDays_start]
  unfold microsecondsPerDay
  omega

/-- Shifting by the offset and reading the date in UTC gives the date in India. -/
theorem utcDate_add_istOffset (value : ℤ) : utcDate (value + istOffset) = istDate value := by
  unfold utcDate istDate
  rw [utcDays_index, istDays_index]
  unfold istOffset
  congr 2
  omega

@[simp]
theorem ordinal_istDate (value : ℤ) : (istDate value).ordinal = istDays.index value :=
  Date.ordinal_ofOrdinal _

theorem toIst_eq_ok {value result : ℤ} :
    toIst value = .ok result ↔
      Representable value ∧ Representable (value + istOffset) ∧ value + istOffset = result := by
  unfold toIst
  rw [bind_eq_ok]
  constructor
  · intro h
    obtain ⟨utc, hutc, hist⟩ := h
    obtain ⟨hvalue, rfl⟩ := checkedInstant_eq_ok.mp hutc
    obtain ⟨hshifted, rfl⟩ := checkedInstant_eq_ok.mp hist
    exact ⟨hvalue, hshifted, rfl⟩
  · intro h
    obtain ⟨hvalue, hshifted, rfl⟩ := h
    exact ⟨value, checkedInstant_of hvalue, checkedInstant_of hshifted⟩

/-- `toIst` answers where the date in India can be held. -/
theorem toIst_returns_iff {value : ℤ} (h : Representable value) :
    toIst value = .ok (value + istOffset) ↔ (istDate value).Representable := by
  rw [toIst_eq_ok, Date.representable_iff, ordinal_istDate, istDays_index]
  unfold Representable minInstant maxInstant istOffset at *
  omega

/-- The bounds of the day in India that an instant lies in, where they can be held. -/
theorem istDayBounds_eq {reference ist : ℤ} (h : toIst reference = .ok ist) :
    istDayBounds reference =
      if Representable (istDays.start (istDays.index reference)) then
        .ok (istDays.start (istDays.index reference), istDays.start (istDays.index reference + 1))
      else .error overflowError := by
  obtain ⟨hreference, hist, rfl⟩ := toIst_eq_ok.mp h
  have hmidnight : utcMidnight (utcDate (reference + istOffset)) - istOffset =
      istDays.start (istDays.index reference) := by
    rw [utcDate_add_istOffset, utcMidnight, ordinal_istDate, istDays_start_eq]
  unfold istDayBounds
  rw [h]
  show (do
    let startOfToday ← checkedInstant (utcMidnight (utcDate (reference + istOffset)) - istOffset)
    let startOfTomorrow ← checkedInstant (startOfToday + microsecondsPerDay)
    return (startOfToday, startOfTomorrow)) = _
  rw [hmidnight]
  by_cases hstart : Representable (istDays.start (istDays.index reference))
  · have hend : Representable (istDays.start (istDays.index reference) + microsecondsPerDay) := by
      have hlt := istDays.start_index_le reference
      unfold Representable minInstant maxInstant istOffset microsecondsPerDay at *
      rw [istDays_start] at *
      omega
    rw [if_pos hstart, checkedInstant_of hstart, istDays_start_succ]
    show (do
      let startOfTomorrow ← checkedInstant
        (istDays.start (istDays.index reference) + microsecondsPerDay)
      return (istDays.start (istDays.index reference), startOfTomorrow)) = _
    rw [checkedInstant_of hend]
    rfl
  · rw [if_neg hstart, checkedInstant_error hstart]
    rfl

/-- The bounds of a date are those of its day in India. -/
theorem istDayBoundsForDate_eq {day : Date} (h : day.Representable) :
    istDayBoundsForDate day =
      if Representable (istDays.start day.ordinal) then
        .ok (istDays.start day.ordinal, istDays.start (day.ordinal + 1))
      else .error overflowError := by
  have hbounds := (Date.representable_iff day).mp h
  have hmidnight : utcMidnight day = 86400000000 * day.ordinal - 62135683200000000 :=
    utcDays_start _
  have hnoon : istDays.index (utcMidnight day + 12 * 3600000000) = day.ordinal := by
    rw [istDays_index]
    omega
  have hist : toIst (utcMidnight day + 12 * 3600000000) =
      .ok (utcMidnight day + 12 * 3600000000 + istOffset) := by
    refine toIst_eq_ok.mpr ⟨?_, ?_, rfl⟩
    · unfold Representable minInstant maxInstant
      omega
    · unfold Representable minInstant maxInstant istOffset
      omega
  unfold istDayBoundsForDate
  rw [istDayBounds_eq hist, hnoon]

/-- The start of a day can be held, unless it is the first day of all. -/
theorem representable_istDays_start {k : ℤ} (hone : 1 ≤ k) (hlast : k ≤ 3652059) :
    Representable (istDays.start k) ↔ 1 < k := by
  unfold Representable minInstant maxInstant
  rw [istDays_start]
  omega

/-- The bounds of the date with a number. -/
theorem istDayBoundsForDate_ofOrdinal {k : ℤ} (hone : 1 ≤ k) (hlast : k ≤ 3652059) :
    istDayBoundsForDate (Date.ofOrdinal k) =
      if 1 < k then .ok (istDays.start k, istDays.start (k + 1)) else .error overflowError := by
  have hordinal : (Date.ofOrdinal k).ordinal = k := Date.ordinal_ofOrdinal k
  have hdate : (Date.ofOrdinal k).Representable := by
    rw [Date.representable_iff, hordinal]
    exact ⟨hone, hlast⟩
  rw [istDayBoundsForDate_eq hdate, hordinal]
  exact if_congr (representable_istDays_start hone hlast) rfl rfl

/-- `ist_day_bounds` gives the bounds of the date in India. -/
theorem istDayBounds_eq_forDate {reference ist : ℤ} (h : toIst reference = .ok ist) :
    istDayBounds reference = istDayBoundsForDate (utcDate ist) := by
  obtain ⟨hreference, -, rfl⟩ := toIst_eq_ok.mp h
  have hdate : (istDate reference).Representable := (toIst_returns_iff hreference).mp h
  rw [istDayBounds_eq h, utcDate_add_istOffset, istDayBoundsForDate_eq hdate, ordinal_istDate]

/-! ## Section 4: The timeline, cut into dates -/

/-- `date.min`. -/
def Lib.Date.min : Date := ⟨1, 1, 1, by decide, by decide, by decide, by decide⟩

/-- `to_ist` of an instant has the date. -/
def IstDated (value : ℤ) (day : Date) : Prop :=
  ∃ ist, toIst value = .ok ist ∧ utcDate ist = day

/-- An instant lies in the bounds of a date: not before the start, and before the end. -/
def InBounds (value : ℤ) (day : Date) : Prop :=
  ∃ start stop, istDayBoundsForDate day = .ok (start, stop) ∧ start ≤ value ∧ value < stop

/-- The bounds of a date end where those of the next date start. -/
def EndsAtNext (day : Date) : Prop :=
  ∃ start stop, istDayBoundsForDate day = .ok (start, stop) ∧
    ∀ next, day.addDays 1 = .ok next → ∃ nextStop, istDayBoundsForDate next = .ok (stop, nextStop)

/-- The first date is the one with number 1. -/
theorem Lib.Date.eq_min_iff (day : Date) : day = Date.min ↔ day.ordinal = 1 := by
  constructor
  · rintro rfl
    rfl
  · intro h
    have hmin : Date.ofOrdinal Date.min.ordinal = Date.min := Date.ofOrdinal_ordinal _
    rw [← Date.ofOrdinal_ordinal day, h]
    exact hmin

theorem istDate_eq_iff {value : ℤ} {day : Date} :
    istDate value = day ↔ istDays.index value = day.ordinal := by
  constructor
  · rintro rfl
    rw [ordinal_istDate]
  · intro h
    rw [istDate, h, Date.ofOrdinal_ordinal]

/-- An instant has a date in India when it can be held and its day is that date's. -/
theorem istDated_iff {value : ℤ} {day : Date} (hday : day.Representable) :
    IstDated value day ↔ Representable value ∧ istDays.index value = day.ordinal := by
  unfold IstDated
  constructor
  · intro h
    obtain ⟨ist, hist, hdate⟩ := h
    obtain ⟨hvalue, -, rfl⟩ := toIst_eq_ok.mp hist
    rw [utcDate_add_istOffset] at hdate
    exact ⟨hvalue, istDate_eq_iff.mp hdate⟩
  · intro h
    obtain ⟨hvalue, hindex⟩ := h
    have hdate : istDate value = day := istDate_eq_iff.mpr hindex
    refine ⟨_, (toIst_returns_iff hvalue).mpr (hdate ▸ hday), ?_⟩
    rw [utcDate_add_istOffset, hdate]

/-- Every date but the first has bounds, and these are of its day. -/
theorem bounds_iff {day : Date} (hday : day.Representable) {start stop : ℤ} :
    istDayBoundsForDate day = .ok (start, stop) ↔
      1 < day.ordinal ∧ istDays.start day.ordinal = start ∧
        istDays.start (day.ordinal + 1) = stop := by
  obtain ⟨hone, hlast⟩ := (Date.representable_iff day).mp hday
  rw [istDayBoundsForDate_eq hday]
  by_cases hfirst : 1 < day.ordinal
  · rw [if_pos ((representable_istDays_start hone hlast).mpr hfirst)]
    simp [hfirst]
  · rw [if_neg fun h => hfirst ((representable_istDays_start hone hlast).mp h)]
    simp [hfirst]

theorem inBounds_iff {value : ℤ} {day : Date} (hday : day.Representable) :
    InBounds value day ↔ 1 < day.ordinal ∧ istDays.index value = day.ordinal := by
  unfold InBounds
  constructor
  · intro h
    obtain ⟨start, stop, hbounds, hstart, hstop⟩ := h
    obtain ⟨hfirst, rfl, rfl⟩ := (bounds_iff hday).mp hbounds
    exact ⟨hfirst, istDays.index_eq_iff.mpr ⟨hstart, hstop⟩⟩
  · intro h
    obtain ⟨hfirst, hindex⟩ := h
    obtain ⟨hstart, hstop⟩ := istDays.index_eq_iff.mp hindex
    exact ⟨_, _, (bounds_iff hday).mpr ⟨hfirst, rfl, rfl⟩, hstart, hstop⟩

/-- The instants of the days between the first and the last can all be held. -/
theorem representable_of_index {value : ℤ} (hfirst : 1 < istDays.index value)
    (hlast : istDays.index value ≤ 3652059) : Representable value := by
  rw [istDays_index] at hfirst hlast
  unfold Representable minInstant maxInstant
  omega

theorem endsAtNext_of {day : Date} (hday : day.Representable) (hfirst : 1 < day.ordinal) :
    EndsAtNext day := by
  refine ⟨_, _, (bounds_iff hday).mpr ⟨hfirst, rfl, rfl⟩, fun next hnext => ?_⟩
  have hone : 1 ≤ day.ordinal + 1 := by omega
  have hlast : day.ordinal + 1 ≤ 3652059 := by
    by_contra hover
    rw [Date.addDays_error fun h => hover h.2] at hnext
    cases hnext
  obtain ⟨next', hnext', hrepresentable, hordinal⟩ := exists_addDays hone hlast
  obtain rfl : next' = next := by
    rw [hnext] at hnext'
    cases hnext'
    rfl
  exact ⟨_, (bounds_iff hrepresentable).mpr ⟨by omega, by rw [hordinal], rfl⟩⟩

/-- The bounds of the dates cut the timeline as the dates in India do: an instant lies in the
bounds of a date exactly when it has that date, and these end where those of the next date start.
The one date of which this does not hold is the first, whose day starts before every timestamp. -/
theorem istDayBoundsForDate_partition_iff {day : Date} (hday : day.Representable) :
    ((∀ value, InBounds value day ↔ IstDated value day) ∧ EndsAtNext day) ↔ day ≠ Date.min := by
  have hbounds := (Date.representable_iff day).mp hday
  rw [Ne, Date.eq_min_iff]
  constructor
  · intro h hmin
    obtain ⟨-, start, stop, hok, -⟩ := h
    obtain ⟨hfirst, -⟩ := (bounds_iff hday).mp hok
    omega
  · intro hmin
    have hfirst : 1 < day.ordinal := by omega
    refine ⟨fun value => ?_, endsAtNext_of hday hfirst⟩
    rw [inBounds_iff hday, istDated_iff hday]
    constructor
    · intro h
      obtain ⟨-, hindex⟩ := h
      exact ⟨representable_of_index (by omega) (by omega), hindex⟩
    · intro h
      exact ⟨hfirst, h.2⟩

/-- At the turn of a year, across the offset. -/
theorem istDayBoundsForDate_partition_newYear :
    (∀ value, InBounds value (Date.ofOrdinal 719163) ↔ IstDated value (Date.ofOrdinal 719163)) ∧
      EndsAtNext (Date.ofOrdinal 719163) :=
  (istDayBoundsForDate_partition_iff (by decide)).mpr (by decide)

/-- The first instant of all is on the first date in India, for which there are no bounds. -/
theorem first_date_without_bounds :
    istDayBoundsForDate Date.min = .error overflowError ∧
      ¬ (InBounds minInstant Date.min ↔ IstDated minInstant Date.min) := by
  have hmin : Date.min.Representable := by decide
  have hdated : IstDated minInstant Date.min := ⟨minInstant + istOffset, by decide, by decide⟩
  refine ⟨by decide, fun h => ?_⟩
  have hfirst := ((inBounds_iff hmin).mp (h.mpr hdated)).1
  exact absurd hfirst (by decide)

/-- The instants that lie in the bounds of some date lie in those of no other. -/
theorem existsUnique_inBounds {value : ℤ} :
    (∃! day : Date, day.Representable ∧ InBounds value day) ↔
      istDays.start 2 ≤ value ∧ value < istDays.start 3652060 := by
  rw [istDays.start_le_iff, istDays.lt_start_iff]
  constructor
  · intro h
    obtain ⟨day, ⟨hday, hin⟩, -⟩ := h
    obtain ⟨hfirst, hindex⟩ := (inBounds_iff hday).mp hin
    have hlast := ((Date.representable_iff day).mp hday).2
    omega
  · intro h
    have hday : (istDate value).Representable := by
      rw [Date.representable_iff, ordinal_istDate]
      omega
    have hin : InBounds value (istDate value) := by
      rw [inBounds_iff hday, ordinal_istDate]
      exact ⟨by omega, rfl⟩
    refine ⟨istDate value, ⟨hday, hin⟩, fun day h => ?_⟩
    exact (istDate_eq_iff.mpr ((inBounds_iff h.1).mp h.2).2).symm

end AyushOms
