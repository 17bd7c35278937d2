import AyushOms.Core.Timezone

/-!
# The Chat Assistant's Date Ranges

`app.chat.datetime_ranges`: the presets of the assistant, resolved to a first and a last instant
by the dates in India, and the period before a range. Left out is `resolve`, which also parses
explicit dates.

The label of a preceding period counts its days with a floating point quotient. The model
rounds the exact one.

## Main results

- `resolvePreset_currentPreset`, `resolvePreset_previousPreset`: a preset of a calendar unit is
  that unit, as long as its two bounds can be held
- `presets_tile_time`: the ranges of the four units cut time without gaps
-/

namespace AyushOms.Chat

open AyushOms.Lib

/-! ## Section 1: Presets -/

/-- `PRESETS`. -/
def presets : List String :=
  ["today", "yesterday", "this_week", "last_week", "this_month", "last_month", "this_year",
    "last_year", "last_7_days", "last_30_days", "last_90_days", "last_24_hours", "week_to_date",
    "month_to_date", "year_to_date", "all_time"]

/-- `_EARLIEST`: 2000-01-01 in UTC. -/
def earliest : Instant := 946684800000000

/-- `ResolvedRange`. -/
structure ResolvedRange where
  dateFrom : Instant
  dateTo : Instant
  label : String
  deriving DecidableEq, Repr

/-- `_ist_midnight_utc`. -/
def istMidnightUtc (date : Date) : Except PyException Instant :=
  checkedInstant (utcMidnight date - istOffset)

/-- `_end_of_ist_day_utc`. -/
def endOfIstDayUtc (date : Date) : Except PyException Instant := do
  let midnight ← istMidnightUtc date
  let next ← checkedInstant (midnight + microsecondsPerDay)
  checkedInstant (next - 1)

/-- `_ist_today`. -/
def istToday (now : Instant) : Except PyException Date := do
  return utcDate (← toIst now)

/-- `_last_day_of_month`. -/
def lastDayOfMonth (date : Date) : Except PyException Date :=
  if date.month = 12 then pyDate date.year date.month 31
  else do
    let next ← pyDate date.year (date.month + 1) 1
    next.addDays (-1)

/-- `ResolvedRange(_ist_midnight_utc(start), _end_of_ist_day_utc(end_day), label)`. -/
def dayRange (start endDay : Date) (label : String) : Except PyException ResolvedRange := do
  let dateFrom ← istMidnightUtc start
  let dateTo ← endOfIstDayUtc endDay
  return ⟨dateFrom, dateTo, label⟩

/-- `preset.strip().lower().replace("-", "_").replace(" ", "_")`. -/
def normalizePreset [PyText] (preset : String) : String :=
  String.ofList ((PyText.lower (pyStrip preset)).toList.map fun c =>
    if c = '-' ∨ c = ' ' then '_' else c)

/-- The range of a normalized preset. -/
def presetRange (preset : String) (today : Date) (refNow : Instant) :
    Except PyException ResolvedRange :=
  if preset = "all_time" then do
    return ⟨earliest, ← endOfIstDayUtc today, "all time"⟩
  else if preset = "today" then dayRange today today "today"
  else if preset = "yesterday" then do
    let y ← today.addDays (-1)
    dayRange y y "yesterday"
  else if preset = "last_24_hours" then do
    return ⟨← checkedInstant (refNow - microsecondsPerDay), refNow, "the last 24 hours"⟩
  else if preset = "this_week" ∨ preset = "week_to_date" then do
    let start ← today.addDays (-today.weekday)
    let endDay ← if preset = "week_to_date" then pure today else start.addDays 6
    dayRange start endDay (if preset = "week_to_date" then "this week so far" else "this week")
  else if preset = "last_week" then do
    let start ← today.addDays (-(today.weekday + 7))
    let endDay ← start.addDays 6
    dayRange start endDay "last week"
  else if preset = "this_month" ∨ preset = "month_to_date" then do
    let start ← pyDate today.year today.month 1
    let endDay ← if preset = "month_to_date" then pure today else lastDayOfMonth today
    dayRange start endDay (if preset = "month_to_date" then "this month so far" else "this month")
  else if preset = "last_month" then do
    let firstThis ← pyDate today.year today.month 1
    let lastPrev ← firstThis.addDays (-1)
    let start ← pyDate lastPrev.year lastPrev.month 1
    dayRange start lastPrev "last month"
  else if preset = "this_year" ∨ preset = "year_to_date" then do
    let start ← pyDate today.year 1 1
    let endDay ← if preset = "year_to_date" then pure today else pyDate today.year 12 31
    dayRange start endDay (if preset = "year_to_date" then "this year so far" else "this year")
  else if preset = "last_year" then do
    let start ← pyDate (today.year - 1) 1 1
    let endDay ← pyDate (today.year - 1) 12 31
    dayRange start endDay "last year"
  else
    match ([7, 30, 90] : List ℕ).find? fun n => preset = "last_" ++ toString n ++ "_days" with
    | some n => do
      let start ← today.addDays (-((n : ℤ) - 1))
      dayRange start today ("the last " ++ toString n ++ " days")
    | none => .error (.other ("Unknown date preset '" ++ preset ++ "'. Valid presets: " ++
        ", ".intercalate presets ++ "."))

/-- `resolve_preset`. -/
def resolvePreset [PyText] (preset : String) (now : Instant) :
    Except PyException ResolvedRange := do
  let today ← istToday now
  let refNow ← checkedInstant now
  presetRange (normalizePreset preset) today refNow

/-- `_humanize_span`. -/
def humanizeSpan (span : ℤ) : String :=
  let days := max 1 (Decimal.roundHalfEven ((span : ℚ) / microsecondsPerDay))
  if days = 1 then "day" else toString days ++ " days"

/-- `previous_period`. -/
def previousPeriod (rng : ResolvedRange) : Except PyException ResolvedRange := do
  -- the last instant is in the range
  let span := rng.dateTo - rng.dateFrom + 1
  let dateFrom ← checkedInstant (rng.dateFrom - span)
  let dateTo ← checkedInstant (rng.dateFrom - 1)
  return ⟨dateFrom, dateTo, "the preceding " ++ humanizeSpan span⟩

/-! ## Section 2: Calendar units -/

/-- The units the presets come in. -/
inductive CalendarUnit where
  | day
  | week
  | month
  | year
  deriving DecidableEq, Repr

namespace CalendarUnit

/-- The preset of the unit that holds now. -/
def currentPreset : CalendarUnit → String
  | day => "today"
  | week => "this_week"
  | month => "this_month"
  | year => "this_year"

/-- The preset of the unit before it. -/
def previousPreset : CalendarUnit → String
  | day => "yesterday"
  | week => "last_week"
  | month => "last_month"
  | year => "last_year"

def currentLabel : CalendarUnit → String
  | day => "today"
  | week => "this week"
  | month => "this month"
  | year => "this year"

def previousLabel : CalendarUnit → String
  | day => "yesterday"
  | week => "last week"
  | month => "last month"
  | year => "last year"

/-- The number of the unit a date lies in, counting on from one unit to the next. Day 1 is a
Monday. -/
def number (date : Date) : CalendarUnit → ℤ
  | day => date.ordinal
  | week => (date.ordinal - 1) / 7
  | month => 12 * date.year + date.month - 1
  | year => date.year

/-- The days of each unit. -/
def tiling : CalendarUnit → Tiling
  | day => Tiling.days
  | week => Tiling.weeks
  | month => Tiling.months
  | year => Tiling.years

/-- The instants of each unit. -/
def instants (u : CalendarUnit) : Tiling := istDays.comp u.tiling

/-- The two bounds of a unit can be held. -/
def Fits (u : CalendarUnit) (k : ℤ) : Prop :=
  Representable (u.instants.start k) ∧ Representable (u.instants.start (k + 1) - 1)

/-- A unit as a range. -/
def range (u : CalendarUnit) (k : ℤ) (label : String) : ResolvedRange :=
  ⟨u.instants.start k, u.instants.start (k + 1) - 1, label⟩

/-- The tilings number the units as the dates do. -/
theorem tiling_index_ordinal (u : CalendarUnit) (date : Date) :
    u.tiling.index date.ordinal = u.number date := by
  cases u with
  | day => exact Tiling.days_index _
  | week => rfl
  | month => exact date.index_months_ordinal
  | year => exact date.index_years_ordinal

theorem instants_index (u : CalendarUnit) (t : ℤ) : u.instants.index t = u.number (istDate t) := by
  rw [← tiling_index_ordinal, ordinal_istDate]
  rfl

/-- A unit holds the instants whose date lies in it. -/
theorem mem_range_iff (u : CalendarUnit) (k t : ℤ) (label : String) :
    (u.range k label).dateFrom ≤ t ∧ t ≤ (u.range k label).dateTo ↔ u.number (istDate t) = k := by
  rw [← instants_index, Tiling.index_eq_iff]
  show u.instants.start k ≤ t ∧ t ≤ u.instants.start (k + 1) - 1 ↔ _
  omega

end CalendarUnit

/-! ## Section 3: From dates to instants -/

theorem istMidnightUtc_eq (date : Date) :
    istMidnightUtc date = checkedInstant (istDays.start date.ordinal) := by
  rw [istDays_start_eq]
  rfl

/-- The range from one date to another runs to the start of the day after. -/
theorem dayRange_of {first last : Date} (hlast : last.Representable)
    (hle : first.ordinal ≤ last.ordinal) (hstart : Representable (istDays.start first.ordinal))
    (label : String) :
    dayRange first last label =
      .ok ⟨istDays.start first.ordinal, istDays.start (last.ordinal + 1) - 1, label⟩ := by
  rw [Date.representable_iff] at hlast
  have hmidnight : Representable (istDays.start last.ordinal) := by
    unfold Representable minInstant maxInstant at *
    rw [istDays_start] at *
    omega
  have hnext : Representable (istDays.start last.ordinal + microsecondsPerDay) := by
    unfold Representable minInstant maxInstant microsecondsPerDay at *
    rw [istDays_start] at *
    omega
  have hend : Representable (istDays.start last.ordinal + microsecondsPerDay - 1) := by
    unfold Representable minInstant maxInstant microsecondsPerDay at *
    rw [istDays_start] at *
    omega
  have hendOfDay : endOfIstDayUtc last =
      .ok (istDays.start last.ordinal + microsecondsPerDay - 1) := by
    unfold endOfIstDayUtc
    rw [istMidnightUtc_eq, bind_eq_ok]
    refine ⟨_, checkedInstant_of hmidnight, ?_⟩
    rw [bind_eq_ok]
    exact ⟨_, checkedInstant_of hnext, checkedInstant_of hend⟩
  unfold dayRange
  rw [bind_eq_ok]
  refine ⟨_, by rw [istMidnightUtc_eq, checkedInstant_of hstart], ?_⟩
  rw [bind_eq_ok]
  refine ⟨_, hendOfDay, ?_⟩
  rw [istDays_start_succ]
  rfl

theorem dayRange_error {first : Date} (h : ¬ Representable (istDays.start first.ordinal))
    (last : Date) (label : String) : dayRange first last label = .error overflowError := by
  unfold dayRange
  rw [istMidnightUtc_eq, checkedInstant_error h]
  rfl

namespace CalendarUnit

variable {u : CalendarUnit} {k : ℤ}

/-- What a preset of a unit answers. -/
def Resolves (u : CalendarUnit) (k : ℤ) (label : String)
    (result : Except PyException ResolvedRange) : Prop :=
  (u.Fits k ∧ result = .ok (u.range k label)) ∨ (¬ u.Fits k ∧ ∃ e, result = .error e)

/-- A unit whose bounds can be held has dates that can be held; one whose first or last date
cannot be held does not fit. -/
theorem Fits.dates (h : u.Fits k) :
    1 ≤ u.tiling.start k ∧ u.tiling.start (k + 1) - 1 ≤ 3652059 := by
  obtain ⟨hfirst, hlast⟩ := h
  have hfirst : Representable (istDays.start (u.tiling.start k)) := hfirst
  have hlast : Representable (istDays.start (u.tiling.start (k + 1)) - 1) := hlast
  unfold Representable minInstant maxInstant at *
  rw [istDays_start] at *
  omega

/-- The range from the first to the last day of a unit. -/
theorem resolves_dayRange {first last : Date} (hfirst : first.ordinal = u.tiling.start k)
    (hlast : last.ordinal = u.tiling.start (k + 1) - 1) (hrep : last.Representable)
    (label : String) : u.Resolves k label (dayRange first last label) := by
  have hle : first.ordinal ≤ last.ordinal := by
    have hlt := u.tiling.start_lt_succ k
    omega
  have hend : istDays.start (last.ordinal + 1) - 1 = u.instants.start (k + 1) - 1 := by
    have hnext : last.ordinal + 1 = u.tiling.start (k + 1) := by omega
    rw [hnext]
    rfl
  have hbegin : istDays.start first.ordinal = u.instants.start k := by
    rw [hfirst]
    rfl
  by_cases hstart : Representable (istDays.start first.ordinal)
  · left
    rw [dayRange_of hrep hle hstart label, hend, hbegin]
    refine ⟨⟨by rwa [hbegin] at hstart, ?_⟩, rfl⟩
    rw [Date.representable_iff] at hrep
    rw [← hend]
    unfold Representable minInstant maxInstant at *
    rw [istDays_start] at *
    omega
  · right
    refine ⟨?_, _, dayRange_error hstart last label⟩
    intro hfits
    exact hstart (by rw [hbegin]; exact hfits.1)

/-- Where a date on the way cannot be held, neither can the unit. -/
theorem resolves_error {e : PyException} {label : String}
    (h : ¬ (1 ≤ u.tiling.start k ∧ u.tiling.start (k + 1) - 1 ≤ 3652059)) :
    u.Resolves k label (.error e) := by
  right
  exact ⟨fun hfits => h hfits.dates, e, rfl⟩

end CalendarUnit

/-! ## Section 4: Dates on the way -/

/-- The last day of a date's month. -/
theorem exists_lastDayOfMonth {date : Date} (h : date.Representable) :
    ∃ last, lastDayOfMonth date = .ok last ∧ last.Representable ∧
      last.ordinal = Tiling.months.start (date.monthNumber + 1) - 1 := by
  have hone := date.one_le_month
  have htwelve := date.month_le_twelve
  have hnext : Tiling.months.start (date.monthNumber + 1) =
      Calendar.firstOfMonth date.year (date.month + 1) := by
    rw [← Calendar.monthStart_eq (by omega) (by omega), Tiling.months_start]
    unfold Date.monthNumber
    congr 1
    omega
  rw [hnext]
  unfold lastDayOfMonth
  by_cases hdecember : date.month = 12
  · have hdays : (31 : ℤ) ≤ Calendar.daysInMonth date.year date.month := by
      rw [hdecember]
      exact le_refl _
    rw [if_pos hdecember]
    refine ⟨_, pyDate_of h ⟨hone, htwelve⟩ ⟨by decide, hdays⟩, h, ?_⟩
    rw [Calendar.firstOfMonth_succ _ hone htwelve]
    show Calendar.firstOfMonth date.year date.month + 31 - 1 = _
    rw [hdecember]
    have hlength : Calendar.daysInMonth date.year 12 = 31 := rfl
    omega
  · rw [if_neg hdecember]
    have hpos := Calendar.daysInMonth_pos date.year (date.month + 1)
    let next : Date := ⟨date.year, date.month + 1, 1, by omega, by omega, le_refl _, by omega⟩
    have hfirst : pyDate date.year (date.month + 1) 1 = .ok next :=
      pyDate_of h ⟨by omega, by omega⟩ ⟨le_refl _, by omega⟩
    have hordinal : next.ordinal = Calendar.firstOfMonth date.year (date.month + 1) := by
      show Calendar.firstOfMonth date.year (date.month + 1) + 1 - 1 = _
      omega
    have hlength := Calendar.firstOfMonth_succ date.year hone htwelve
    have hdate : date.ordinal = Calendar.firstOfMonth date.year date.month + date.day - 1 := rfl
    have hday := date.day_le
    have hdateBounds := (Date.representable_iff date).mp h
    have hnextBounds := (Date.representable_iff next).mp h
    rw [hfirst, ← hordinal]
    exact exists_addDays (by omega) (by omega)

/-- The first and the last day of a year. -/
theorem exists_year {year : ℤ} (h : 1 ≤ year ∧ year ≤ 9999) :
    ∃ first last, pyDate year 1 1 = .ok first ∧ pyDate year 12 31 = .ok last ∧
      last.Representable ∧ first.ordinal = Tiling.years.start year ∧
        last.ordinal = Tiling.years.start (year + 1) - 1 := by
  have hjanuary : Calendar.daysInMonth year 1 = 31 := rfl
  have hdecember : Calendar.daysInMonth year 12 = 31 := rfl
  refine ⟨_, _, pyDate_of h (by decide) ⟨by decide, by omega⟩,
    pyDate_of h (by decide) ⟨by decide, by omega⟩, h, ?_, ?_⟩
  · show Calendar.firstOfMonth year 1 + 1 - 1 = Calendar.daysBeforeYear year + 1
    rw [Calendar.firstOfMonth_one]
    omega
  · show Calendar.firstOfMonth year 12 + 31 - 1 = Calendar.daysBeforeYear (year + 1) + 1 - 1
    have hnext := Calendar.firstOfMonth_succ year (show 1 ≤ 12 by decide) (by decide)
    have hthirteen : Calendar.firstOfMonth year (12 + 1) =
        Calendar.daysBeforeYear (year + 1) + 1 := by
      rw [← Calendar.firstOfMonth_one]
      exact Calendar.firstOfMonth_thirteen year
    omega

/-! ## Section 5: The presets of the units -/

section Presets

open CalendarUnit

variable {today : Date} (htoday : today.Representable) (refNow : Instant)
include htoday

theorem resolves_today : day.Resolves (day.number today) day.currentLabel
    (presetRange day.currentPreset today refNow) := by
  show day.Resolves today.ordinal "today" (dayRange today today "today")
  refine resolves_dayRange ?_ ?_ htoday _
  · show today.ordinal = Tiling.days.start today.ordinal
    simp
  · show today.ordinal = Tiling.days.start (today.ordinal + 1) - 1
    simp

theorem resolves_yesterday : day.Resolves (day.number today - 1) day.previousLabel
    (presetRange day.previousPreset today refNow) := by
  show day.Resolves (today.ordinal - 1) "yesterday" (do
    let y ← today.addDays (-1)
    dayRange y y "yesterday")
  have hbounds := (Date.representable_iff today).mp htoday
  by_cases hfirst : 1 ≤ today.ordinal + -1
  · obtain ⟨y, hy, hrep, hordinal⟩ := exists_addDays hfirst (by omega)
    rw [hy]
    refine resolves_dayRange ?_ ?_ hrep _
    · show y.ordinal = Tiling.days.start (today.ordinal - 1)
      rw [Tiling.days_start]
      omega
    · show y.ordinal = Tiling.days.start (today.ordinal - 1 + 1) - 1
      rw [Tiling.days_start]
      omega
  · rw [Date.addDays_error (by omega)]
    refine resolves_error ?_
    show ¬ (1 ≤ Tiling.days.start (today.ordinal - 1) ∧ _)
    rw [Tiling.days_start]
    omega

theorem resolves_thisWeek : week.Resolves (week.number today) week.currentLabel
    (presetRange week.currentPreset today refNow) := by
  show week.Resolves ((today.ordinal - 1) / 7) "this week" (do
    let start ← today.addDays (-today.weekday)
    let endDay ← start.addDays 6
    dayRange start endDay "this week")
  have hbounds := (Date.representable_iff today).mp htoday
  have hweekday : today.weekday = (today.ordinal + 6) % 7 := rfl
  obtain ⟨start, hstart, -, hmonday⟩ :=
    exists_addDays (show 1 ≤ today.ordinal + -today.weekday by omega) (by omega)
  rw [hstart]
  show week.Resolves _ _ (do
    let endDay ← start.addDays 6
    dayRange start endDay "this week")
  by_cases hsunday : start.ordinal + 6 ≤ 3652059
  · obtain ⟨endDay, hend, hrep, hordinal⟩ := exists_addDays (by omega) hsunday
    rw [hend]
    refine resolves_dayRange ?_ ?_ hrep _
    · show start.ordinal = 7 * ((today.ordinal - 1) / 7) + 1
      omega
    · show endDay.ordinal = 7 * ((today.ordinal - 1) / 7 + 1) + 1 - 1
      omega
  · rw [Date.addDays_error (by omega)]
    refine resolves_error ?_
    show ¬ (_ ∧ 7 * ((today.ordinal - 1) / 7 + 1) + 1 - 1 ≤ 3652059)
    omega

theorem resolves_lastWeek : week.Resolves (week.number today - 1) week.previousLabel
    (presetRange week.previousPreset today refNow) := by
  show week.Resolves ((today.ordinal - 1) / 7 - 1) "last week" (do
    let start ← today.addDays (-(today.weekday + 7))
    let endDay ← start.addDays 6
    dayRange start endDay "last week")
  have hbounds := (Date.representable_iff today).mp htoday
  have hweekday : today.weekday = (today.ordinal + 6) % 7 := rfl
  by_cases hmonday : 1 ≤ today.ordinal + -(today.weekday + 7)
  · obtain ⟨start, hstart, -, hordinal⟩ := exists_addDays hmonday (by omega)
    obtain ⟨endDay, hend, hrep, hsunday⟩ :=
      exists_addDays (show 1 ≤ start.ordinal + 6 by omega) (by omega)
    rw [hstart]
    show week.Resolves _ _ (do
      let endDay ← start.addDays 6
      dayRange start endDay "last week")
    rw [hend]
    refine resolves_dayRange ?_ ?_ hrep _
    · show start.ordinal = 7 * ((today.ordinal - 1) / 7 - 1) + 1
      omega
    · show endDay.ordinal = 7 * ((today.ordinal - 1) / 7 - 1 + 1) + 1 - 1
      omega
  · rw [Date.addDays_error (by omega)]
    refine resolves_error ?_
    show ¬ (1 ≤ 7 * ((today.ordinal - 1) / 7 - 1) + 1 ∧ _)
    omega

theorem resolves_thisMonth : month.Resolves (month.number today) month.currentLabel
    (presetRange month.currentPreset today refNow) := by
  show month.Resolves today.monthNumber "this month" (do
    let start ← pyDate today.year today.month 1
    let endDay ← lastDayOfMonth today
    dayRange start endDay "this month")
  obtain ⟨start, hstart, -, hfirst⟩ := exists_firstOfMonth htoday
  obtain ⟨endDay, hend, hrep, hlast⟩ := exists_lastDayOfMonth htoday
  rw [hstart, hend]
  exact resolves_dayRange hfirst hlast hrep _

theorem resolves_lastMonth : month.Resolves (month.number today - 1) month.previousLabel
    (presetRange month.previousPreset today refNow) := by
  show month.Resolves (today.monthNumber - 1) "last month" (do
    let firstThis ← pyDate today.year today.month 1
    let lastPrev ← firstThis.addDays (-1)
    let start ← pyDate lastPrev.year lastPrev.month 1
    dayRange start lastPrev "last month")
  obtain ⟨firstThis, hfirst, hrep, hthis⟩ := exists_firstOfMonth htoday
  rw [hfirst]
  show month.Resolves _ _ (do
    let lastPrev ← firstThis.addDays (-1)
    let start ← pyDate lastPrev.year lastPrev.month 1
    dayRange start lastPrev "last month")
  have hbounds := (Date.representable_iff firstThis).mp hrep
  have hnext : Tiling.months.start (today.monthNumber - 1 + 1) = firstThis.ordinal := by
    rw [hthis]
    congr 1
    omega
  by_cases hlast : 1 ≤ firstThis.ordinal + -1
  · obtain ⟨lastPrev, hprev, hprevRep, hordinal⟩ := exists_addDays hlast (by omega)
    obtain ⟨start, hstart, -, hmonthStart⟩ := exists_firstOfMonth hprevRep
    -- the day before the first of a month lies in the month before
    have hnumber : lastPrev.monthNumber = today.monthNumber - 1 := by
      rw [← Date.index_months_ordinal, Tiling.index_eq_iff, hnext]
      have hlt := Tiling.months.start_lt_succ (today.monthNumber - 1)
      omega
    rw [hprev]
    show month.Resolves _ _ (do
      let start ← pyDate lastPrev.year lastPrev.month 1
      dayRange start lastPrev "last month")
    rw [hstart]
    rw [hnumber] at hmonthStart
    refine resolves_dayRange hmonthStart ?_ hprevRep _
    show lastPrev.ordinal = Tiling.months.start (today.monthNumber - 1 + 1) - 1
    omega
  · rw [Date.addDays_error (by omega)]
    refine resolves_error ?_
    show ¬ (1 ≤ Tiling.months.start (today.monthNumber - 1) ∧ _)
    have hlt := Tiling.months.start_lt_succ (today.monthNumber - 1)
    omega

theorem resolves_thisYear : year.Resolves (year.number today) year.currentLabel
    (presetRange year.currentPreset today refNow) := by
  show year.Resolves today.year "this year" (do
    let start ← pyDate today.year 1 1
    let endDay ← pyDate today.year 12 31
    dayRange start endDay "this year")
  obtain ⟨start, endDay, hstart, hend, hrep, hfirst, hlast⟩ := exists_year htoday
  rw [hstart, hend]
  exact resolves_dayRange hfirst hlast hrep _

theorem resolves_lastYear : year.Resolves (year.number today - 1) year.previousLabel
    (presetRange year.previousPreset today refNow) := by
  show year.Resolves (today.year - 1) "last year" (do
    let start ← pyDate (today.year - 1) 1 1
    let endDay ← pyDate (today.year - 1) 12 31
    dayRange start endDay "last year")
  by_cases hzero : 1 ≤ today.year - 1
  · have hlastYear : today.year - 1 ≤ 9999 := by
      have hle := htoday.2
      omega
    obtain ⟨start, endDay, hstart, hend, hrep, hfirst, hlast⟩ := exists_year ⟨hzero, hlastYear⟩
    rw [hstart, hend]
    exact resolves_dayRange hfirst hlast hrep _
  · have hyear : pyDate (today.year - 1) 1 1 = .error (.other "ValueError") :=
      dif_neg fun h => hzero h.1.1
    rw [hyear]
    refine resolves_error ?_
    show ¬ (1 ≤ Tiling.years.start (today.year - 1) ∧ _)
    have hmono := Tiling.years.start_le_start (show today.year - 1 ≤ 0 by omega)
    have hyearZero : Tiling.years.start 0 = -365 := rfl
    omega

/-- A preset of the unit that holds today. -/
theorem resolves_currentPreset (u : CalendarUnit) :
    u.Resolves (u.number today) u.currentLabel (presetRange u.currentPreset today refNow) := by
  cases u with
  | day => exact resolves_today htoday refNow
  | week => exact resolves_thisWeek htoday refNow
  | month => exact resolves_thisMonth htoday refNow
  | year => exact resolves_thisYear htoday refNow

/-- A preset of the unit before it. -/
theorem resolves_previousPreset (u : CalendarUnit) :
    u.Resolves (u.number today - 1) u.previousLabel
      (presetRange u.previousPreset today refNow) := by
  cases u with
  | day => exact resolves_yesterday htoday refNow
  | week => exact resolves_lastWeek htoday refNow
  | month => exact resolves_lastMonth htoday refNow
  | year => exact resolves_lastYear htoday refNow

end Presets

/-! ## Section 6: Tiling time -/

/-- The two ends of an answer, if there is one. -/
def boundsOf (result : Except PyException ResolvedRange) : Option (Instant × Instant) :=
  match result with
  | .ok rng => some (rng.dateFrom, rng.dateTo)
  | .error _ => none

section Resolve

variable [PyText]

/-- The presets are spelled in lower case and with underscores. -/
theorem normalizePreset_units (hlower : ∀ preset ∈ presets, PyText.lower preset = preset)
    (u : CalendarUnit) :
    normalizePreset u.currentPreset = u.currentPreset ∧
      normalizePreset u.previousPreset = u.previousPreset := by
  have hspelled : ∀ preset ∈ presets, pyStrip preset = preset ∧
      (String.ofList (preset.toList.map fun c => if c = '-' ∨ c = ' ' then '_' else c)) =
        preset := by
    decide
  have hnormal : ∀ preset ∈ presets, normalizePreset preset = preset := by
    intro preset hmem
    unfold normalizePreset
    rw [(hspelled preset hmem).1, hlower preset hmem, (hspelled preset hmem).2]
  cases u <;> exact ⟨hnormal _ (by decide), hnormal _ (by decide)⟩

variable {now : ℤ}

theorem resolvePreset_eq (hnow : Representable now) (hdate : (istDate now).Representable)
    (preset : String) :
    resolvePreset preset now = presetRange (normalizePreset preset) (istDate now) now := by
  have hist : toIst now = .ok (now + istOffset) := (toIst_returns_iff hnow).mpr hdate
  unfold resolvePreset istToday
  rw [hist, checkedInstant_of hnow]
  show presetRange (normalizePreset preset) (utcDate (now + istOffset)) now = _
  rw [utcDate_add_istOffset]

variable (hlower : ∀ preset ∈ presets, PyText.lower preset = preset)
include hlower

/-- The preset of a unit answers with the unit that holds now. -/
theorem resolvePreset_currentPreset (hnow : Representable now)
    (hdate : (istDate now).Representable) (u : CalendarUnit) :
    u.Resolves (u.number (istDate now)) u.currentLabel (resolvePreset u.currentPreset now) := by
  rw [resolvePreset_eq hnow hdate, (normalizePreset_units hlower u).1]
  exact resolves_currentPreset hdate now u

/-- The preset before it answers with the unit before that one. -/
theorem resolvePreset_previousPreset (hnow : Representable now)
    (hdate : (istDate now).Representable) (u : CalendarUnit) :
    u.Resolves (u.number (istDate now) - 1) u.previousLabel
      (resolvePreset u.previousPreset now) := by
  rw [resolvePreset_eq hnow hdate, (normalizePreset_units hlower u).2]
  exact resolves_previousPreset hdate now u

end Resolve

namespace CalendarUnit

variable {u : CalendarUnit} {k : ℤ} {label : String} {result : Except PyException ResolvedRange}

theorem Resolves.error_iff (h : u.Resolves k label result) :
    (∃ e, result = .error e) ↔ ¬ u.Fits k := by
  obtain ⟨hfits, rfl⟩ | ⟨hfits, e, rfl⟩ := h
  · simp [hfits]
  · simp [hfits]

theorem Resolves.eq_range (h : u.Resolves k label result) {rng : ResolvedRange}
    (hok : result = .ok rng) : rng = u.range k label ∧ u.Fits k := by
  obtain ⟨hfits, hresult⟩ | ⟨-, e, hresult⟩ := h
  · rw [hresult] at hok
    exact ⟨(Except.ok.inj hok).symm, hfits⟩
  · rw [hresult] at hok
    cases hok

/-- Where all units have one length, the period before a unit is the unit before it. -/
theorem bounds_previousPeriod (hlength : ∀ j, u.instants.start (j + 1) - u.instants.start j =
    u.instants.start 1 - u.instants.start 0) (hfits : u.Fits k)
    (h : u.Resolves (k - 1) label result) (thisLabel : String) :
    boundsOf (previousPeriod (u.range k thisLabel)) = boundsOf result := by
  have hsame : u.instants.start (k + 1) - u.instants.start k =
      u.instants.start k - u.instants.start (k - 1) := by
    rw [hlength k, ← hlength (k - 1), Int.sub_add_cancel]
  have hfrom : (u.range k thisLabel).dateFrom -
      ((u.range k thisLabel).dateTo - (u.range k thisLabel).dateFrom + 1) =
        u.instants.start (k - 1) := by
    show u.instants.start k - (u.instants.start (k + 1) - 1 - u.instants.start k + 1) = _
    omega
  have hlt := u.instants.start_lt_succ (k - 1)
  rw [Int.sub_add_cancel] at hlt
  unfold previousPeriod
  dsimp only
  rw [hfrom]
  obtain ⟨hprevious, rfl⟩ | ⟨hprevious, e, rfl⟩ := h
  · have hlast : Representable (u.instants.start k - 1) := by
      have hbounds := hprevious.2
      rwa [Int.sub_add_cancel] at hbounds
    have hto : checkedInstant ((u.range k thisLabel).dateFrom - 1) =
        .ok (u.instants.start k - 1) := checkedInstant_of hlast
    rw [checkedInstant_of hprevious.1, hto]
    show some (u.instants.start (k - 1), u.instants.start k - 1) =
      some (u.instants.start (k - 1), u.instants.start (k - 1 + 1) - 1)
    rw [Int.sub_add_cancel]
  · have hfirst : ¬ Representable (u.instants.start (k - 1)) := by
      intro hrep
      have hbounds := hfits.1
      refine hprevious ⟨hrep, ?_⟩
      rw [Int.sub_add_cancel]
      unfold Representable at *
      omega
    rw [checkedInstant_error hfirst]
    rfl

end CalendarUnit

theorem instants_length_day (j : ℤ) :
    CalendarUnit.day.instants.start (j + 1) - CalendarUnit.day.instants.start j =
      CalendarUnit.day.instants.start 1 - CalendarUnit.day.instants.start 0 := by
  show istDays.start (Tiling.days.start (j + 1)) - istDays.start (Tiling.days.start j) =
    istDays.start (Tiling.days.start 1) - istDays.start (Tiling.days.start 0)
  simp only [Tiling.days_start, istDays_start]
  omega

theorem instants_length_week (j : ℤ) :
    CalendarUnit.week.instants.start (j + 1) - CalendarUnit.week.instants.start j =
      CalendarUnit.week.instants.start 1 - CalendarUnit.week.instants.start 0 := by
  show istDays.start (Tiling.weeks.start (j + 1)) - istDays.start (Tiling.weeks.start j) =
    istDays.start (Tiling.weeks.start 1) - istDays.start (Tiling.weeks.start 0)
  simp only [Tiling.weeks_start, istDays_start]
  omega

/-- The presets cut time into days, weeks, months and years. They fail for the units whose first
or last instant no timestamp can hold, and for no others. -/
theorem presets_tile_time [PyText] (hlower : ∀ preset ∈ presets, PyText.lower preset = preset)
    (now : ℤ) (hnow : Representable now) (hdate : (istDate now).Representable)
    (u : CalendarUnit) :
    ((∃ e, resolvePreset u.currentPreset now = .error e) ↔ ¬ u.Fits (u.number (istDate now))) ∧
    ((∃ e, resolvePreset u.previousPreset now = .error e) ↔
      ¬ u.Fits (u.number (istDate now) - 1)) ∧
    (∀ current, resolvePreset u.currentPreset now = .ok current →
      (current.dateFrom ≤ now ∧ now ≤ current.dateTo) ∧
      (∀ t : ℤ, current.dateFrom ≤ t ∧ t ≤ current.dateTo ↔
        u.number (istDate t) = u.number (istDate now)) ∧
      (∀ previous, resolvePreset u.previousPreset now = .ok previous →
        previous.dateTo + 1 = current.dateFrom) ∧
      (u = .day ∨ u = .week → boundsOf (previousPeriod current) =
        boundsOf (resolvePreset u.previousPreset now))) ∧
    (∀ previous, resolvePreset u.previousPreset now = .ok previous →
      ∀ t : ℤ, previous.dateFrom ≤ t ∧ t ≤ previous.dateTo ↔
        u.number (istDate t) = u.number (istDate now) - 1) := by
  have hcurrent := resolvePreset_currentPreset hlower hnow hdate u
  have hprevious := resolvePreset_previousPreset hlower hnow hdate u
  refine ⟨hcurrent.error_iff, hprevious.error_iff, ?_, ?_⟩
  · intro current hok
    obtain ⟨rfl, hfits⟩ := hcurrent.eq_range hok
    refine ⟨(u.mem_range_iff _ now _).mpr rfl, fun t => u.mem_range_iff _ t _, ?_, ?_⟩
    · intro previous hbefore
      obtain ⟨rfl, -⟩ := hprevious.eq_range hbefore
      show u.instants.start (u.number (istDate now) - 1 + 1) - 1 + 1 =
        u.instants.start (u.number (istDate now))
      rw [Int.sub_add_cancel, Int.sub_add_cancel]
    · intro hu
      obtain rfl | rfl := hu
      · exact CalendarUnit.bounds_previousPeriod instants_length_day hfits hprevious _
      · exact CalendarUnit.bounds_previousPeriod instants_length_week hfits hprevious _
  · intro previous hbefore t
    obtain ⟨rfl, -⟩ := hprevious.eq_range hbefore
    exact u.mem_range_iff _ t _

/-- The last of February 2024, from noon in India on the first of March. -/
theorem presets_tile_time_leap :
    boundsOf (resolvePreset "last_month" 1709274600000000) =
        some (1706725800000000, 1709231399999999) ∧
      ∀ previous, resolvePreset CalendarUnit.month.previousPreset 1709274600000000 =
          .ok previous →
        ∀ t : ℤ, previous.dateFrom ≤ t ∧ t ≤ previous.dateTo ↔
          CalendarUnit.month.number (istDate t) =
            CalendarUnit.month.number (istDate 1709274600000000) - 1 := by
  refine ⟨by decide, ?_⟩
  exact (presets_tile_time (by decide) 1709274600000000 (by decide) (by decide) .month).2.2.2

/-- In the first year there is no last year. -/
theorem last_year_of_first_year : ¬ ∀ now : ℤ, Representable now → (istDate now).Representable →
    ∀ u : CalendarUnit, (∃ r, resolvePreset u.currentPreset now = .ok r) ∧
      ∃ r, resolvePreset u.previousPreset now = .ok r := by
  intro h
  obtain ⟨-, r, hr⟩ := h (-62121297600000000) (by decide) (by decide) .year
  have herror : resolvePreset "last_year" (-62121297600000000) =
      .error (.other "ValueError") := by
    decide
  have hok : resolvePreset "last_year" (-62121297600000000) = .ok r := hr
  rw [herror] at hok
  cases hok

end AyushOms.Chat
