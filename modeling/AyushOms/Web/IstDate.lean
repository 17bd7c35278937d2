import AyushOms.Chat.DatetimeRanges

/-!
# The Dashboard's Date Ranges

`lib/ist-date.ts`: the dashboard computes its presets in the browser, in milliseconds, from the
UTC components of a shifted `Date`; the chat assistant computes its own on the server, in
microseconds, from Python dates. Here: what the two call by the same name is the same range.

A `Date` is its time value. `Date.UTC` takes a year before 100 for one of the twentieth century, so
the theorems ask for an instant since 1970.

## Main results

- `pickerRange_agrees`: every preset of the date-range picker is the assistant's range
-/

namespace AyushOms.Web

open AyushOms.Lib AyushOms.Chat

/-! ## Section 1: Dates of the browser -/

/-- `IST_OFFSET_MS`. -/
def istOffsetMs : ℤ := (5 * 60 + 30) * 60 * 1000

/-- `DAY_MS`. -/
def dayMs : ℤ := 24 * 60 * 60 * 1000

/-- What `getUTCFullYear`, `getUTCMonth` and `getUTCDate` read off a time value. -/
def utcParts (time : ℤ) : Date := Date.ofOrdinal (719163 + time / dayMs)

/-- `getUTCDay`: Sunday is 0. -/
def getUTCDay (time : ℤ) : ℤ := (4 + time / dayMs) % 7

/-- `Date.UTC(year, month, day)`; January is 0. -/
def dateUTC (year month day : ℤ) : ℤ :=
  let fullYear := if 0 ≤ year ∧ year ≤ 99 then 1900 + year else year
  (Calendar.firstOfMonth fullYear (month + 1) + day - 1 - 719163) * dayMs

/-- `istStartOfDay`. -/
def istStartOfDay (instant : ℤ) : ℤ :=
  let shifted := utcParts (instant + istOffsetMs)
  dateUTC shifted.year (shifted.month - 1) shifted.day - istOffsetMs

/-- `istEndOfDay`. -/
def istEndOfDay (instant : ℤ) : ℤ := istStartOfDay instant + dayMs - 1

/-- `istStartOfWeek`. -/
def istStartOfWeek (instant : ℤ) : ℤ :=
  let daysSinceMonday := (getUTCDay (instant + istOffsetMs) + 6) % 7
  istStartOfDay instant - daysSinceMonday * dayMs

/-- `istStartOfMonth`. -/
def istStartOfMonth (instant : ℤ) : ℤ :=
  let shifted := utcParts (instant + istOffsetMs)
  dateUTC shifted.year (shifted.month - 1) 1 - istOffsetMs

/-- The presets of the date-range picker; `DashboardDateRangePreset` has all but the last. -/
inductive DateRangePreset where
  | today
  | yesterday
  | thisWeek
  | last7Days
  | last30Days
  | thisMonth
  | lastMonth
  deriving DecidableEq, Repr

/-- `PRESETS` of the picker, and `resolveDashboardDateRangePreset`. -/
def pickerRange (now : ℤ) : DateRangePreset → ℤ × ℤ
  | .today => (istStartOfDay now, istEndOfDay now)
  | .yesterday =>
    let yesterday := now - 24 * 60 * 60 * 1000
    (istStartOfDay yesterday, istEndOfDay yesterday)
  | .thisWeek => (istStartOfWeek now, istEndOfDay now)
  | .last7Days => (istStartOfDay (now - 6 * 24 * 60 * 60 * 1000), istEndOfDay now)
  | .last30Days => (istStartOfDay (now - 29 * 24 * 60 * 60 * 1000), istEndOfDay now)
  | .thisMonth => (istStartOfMonth now, istEndOfDay now)
  | .lastMonth =>
    let firstOfThisMonth := istStartOfMonth now
    let lastMonthInstant := firstOfThisMonth - 1
    (istStartOfMonth lastMonthInstant, istEndOfDay (firstOfThisMonth - 1))

/-- The assistant's word for a preset. The dashboard's weeks and months end today. -/
def chatPreset : DateRangePreset → String
  | .today => "today"
  | .yesterday => "yesterday"
  | .thisWeek => "week_to_date"
  | .last7Days => "last_7_days"
  | .last30Days => "last_30_days"
  | .thisMonth => "month_to_date"
  | .lastMonth => "last_month"

/-! ## Section 2: Days and months in the browser -/

/-- The number of the date in India. -/
def dayNumber (instant : ℤ) : ℤ := 719163 + (instant + istOffsetMs) / dayMs

theorem istDays_index_ms (instant : ℤ) : istDays.index (1000 * instant) = dayNumber instant := by
  rw [istDays_index]
  unfold dayNumber istOffsetMs dayMs
  omega

theorem dayNumber_sub (instant k : ℤ) :
    dayNumber (instant - k * dayMs) = dayNumber instant - k := by
  unfold dayNumber istOffsetMs dayMs
  omega

/-- An instant that is not before the year 100 of the calendar. -/
def Modern (instant : ℤ) : Prop := Tiling.years.start 100 ≤ dayNumber instant

theorem modern_of {instant : ℤ} (h : -(31 * dayMs) ≤ instant) : Modern instant := by
  have hstart : Tiling.years.start 100 = 36160 := rfl
  unfold Modern dayNumber
  rw [hstart]
  unfold istOffsetMs dayMs at *
  omega

theorem dateUTC_of {year month day : ℤ} (h : 100 ≤ year) :
    dateUTC year (month - 1) day =
      (Calendar.firstOfMonth year month + day - 1 - 719163) * dayMs := by
  unfold dateUTC
  rw [if_neg (by omega), Int.sub_add_cancel]

theorem year_of_modern {instant : ℤ} (h : Modern instant) :
    100 ≤ (utcParts (instant + istOffsetMs)).year := by
  have hindex := (utcParts (instant + istOffsetMs)).index_years_ordinal
  rw [utcParts, Date.ordinal_ofOrdinal] at hindex
  rw [utcParts, ← hindex]
  exact Tiling.years.start_le_iff.mp h

/-- The start of the day, in microseconds. -/
theorem istStartOfDay_eq {instant : ℤ} (h : Modern instant) :
    1000 * istStartOfDay instant = istDays.start (dayNumber instant) := by
  have hordinal : (utcParts (instant + istOffsetMs)).ordinal = dayNumber instant :=
    Date.ordinal_ofOrdinal _
  unfold Date.ordinal at hordinal
  simp only [istStartOfDay]
  rw [dateUTC_of (year_of_modern h), hordinal, istDays_start]
  unfold dayMs istOffsetMs
  omega

theorem istEndOfDay_eq {instant : ℤ} (h : Modern instant) :
    1000 * (istEndOfDay instant + 1) = istDays.start (dayNumber instant + 1) := by
  have hstart := istStartOfDay_eq h
  rw [istDays_start] at hstart ⊢
  unfold istEndOfDay dayMs
  omega

/-- The weeks of the browser begin where Python's do. -/
theorem istStartOfWeek_eq {instant : ℤ} (h : Modern instant) :
    1000 * istStartOfWeek instant =
      istDays.start (dayNumber instant - (dayNumber instant + 6) % 7) := by
  have hstart := istStartOfDay_eq h
  have hdays : (getUTCDay (instant + istOffsetMs) + 6) % 7 = (dayNumber instant + 6) % 7 := by
    unfold getUTCDay dayNumber
    omega
  simp only [istStartOfWeek]
  rw [hdays, istDays_start] at *
  unfold dayMs
  omega

theorem istStartOfMonth_eq {instant : ℤ} (h : Modern instant) :
    1000 * istStartOfMonth instant =
      istDays.start (Calendar.firstOfMonth (utcParts (instant + istOffsetMs)).year
        (utcParts (instant + istOffsetMs)).month) := by
  simp only [istStartOfMonth]
  rw [dateUTC_of (year_of_modern h), istDays_start]
  unfold dayMs istOffsetMs
  omega

/-! ## Section 3: Ranges of the assistant -/

theorem dayRange_ok {first last : Date} {label : String} {rng : ResolvedRange}
    (h : dayRange first last label = .ok rng) :
    rng.dateFrom = istDays.start first.ordinal ∧
      rng.dateTo = istDays.start (last.ordinal + 1) - 1 := by
  unfold dayRange endOfIstDayUtc at h
  obtain ⟨dateFrom, hfrom, h⟩ := bind_eq_ok.mp h
  obtain ⟨dateTo, hto, h⟩ := bind_eq_ok.mp h
  obtain ⟨midnight, hmidnight, hto⟩ := bind_eq_ok.mp hto
  obtain ⟨next, hnext, hto⟩ := bind_eq_ok.mp hto
  cases h
  rw [istMidnightUtc_eq] at hfrom hmidnight
  obtain ⟨-, rfl⟩ := checkedInstant_eq_ok.mp hfrom
  obtain ⟨-, rfl⟩ := checkedInstant_eq_ok.mp hmidnight
  obtain ⟨-, rfl⟩ := checkedInstant_eq_ok.mp hnext
  obtain ⟨-, rfl⟩ := checkedInstant_eq_ok.mp hto
  exact ⟨rfl, by rw [istDays_start_succ]⟩

theorem addDays_ok {date shifted : Date} {days : ℤ} (h : date.addDays days = .ok shifted) :
    shifted.ordinal = date.ordinal + days := by
  unfold Date.addDays at h
  split at h
  · cases h
    exact Date.ordinal_ofOrdinal _
  · cases h

theorem pyDate_ok {year month day : ℤ} {date : Date} (h : pyDate year month day = .ok date) :
    date.year = year ∧ date.month = month ∧
      date.ordinal = Calendar.firstOfMonth year month + day - 1 := by
  unfold pyDate at h
  split at h
  · cases h
    exact ⟨rfl, rfl, rfl⟩
  · cases h

theorem day_le_31 (date : Date) : date.day ≤ 31 := by
  refine Int.le_trans date.day_le ?_
  unfold Calendar.daysInMonth
  split <;> split <;> omega

theorem normalizePreset_eq [PyText] (hlower : ∀ preset ∈ presets, PyText.lower preset = preset)
    (p : DateRangePreset) : normalizePreset (chatPreset p) = chatPreset p := by
  have hspelled : pyStrip (chatPreset p) = chatPreset p ∧
      String.ofList ((chatPreset p).toList.map fun c => if c = '-' ∨ c = ' ' then '_' else c) =
        chatPreset p := by
    cases p <;> decide
  have hmem : chatPreset p ∈ presets := by
    cases p <;> decide
  unfold normalizePreset
  rw [hspelled.1, hlower _ hmem, hspelled.2]

/-! ## Section 4: Agreement -/

/-- A range of the browser ends with the last millisecond, one of the assistant with the last
microsecond. -/
def Agrees (range : ℤ × ℤ) (rng : ResolvedRange) : Prop :=
  1000 * range.1 = rng.dateFrom ∧ 1000 * (range.2 + 1) = rng.dateTo + 1

/-- From the start of one day to the end of another. -/
theorem agrees_of {first last : Date} {label : String} {rng : ResolvedRange} {range : ℤ × ℤ}
    (h : dayRange first last label = .ok rng)
    (hfirst : 1000 * range.1 = istDays.start first.ordinal)
    (hlast : 1000 * (range.2 + 1) = istDays.start (last.ordinal + 1)) : Agrees range rng := by
  obtain ⟨hfrom, hto⟩ := dayRange_ok h
  exact ⟨hfirst.trans hfrom.symm, by rw [hto, hlast, Int.sub_add_cancel]⟩

/-- The range of a preset, from the date in India. -/
theorem pickerRange_presetRange {now refNow : ℤ} {today : Date} (hnow : 0 ≤ now)
    (htoday : today = utcParts (now + istOffsetMs)) (p : DateRangePreset) {rng : ResolvedRange}
    (h : presetRange (chatPreset p) today refNow = .ok rng) : Agrees (pickerRange now p) rng := by
  have hmodern : ∀ k : ℤ, k ≤ 31 → Modern (now - k * dayMs) := fun k hk => modern_of (by
    unfold dayMs
    omega)
  have hnowModern : Modern now := by simpa using hmodern 0 (by omega)
  have hordinal : today.ordinal = dayNumber now := by
    rw [htoday]
    exact Date.ordinal_ofOrdinal _
  have hend : 1000 * (istEndOfDay now + 1) = istDays.start (today.ordinal + 1) := by
    rw [hordinal]
    exact istEndOfDay_eq hnowModern
  -- so many days before
  have hbefore : ∀ k : ℤ, k ≤ 31 →
      1000 * istStartOfDay (now - k * dayMs) = istDays.start (today.ordinal - k) := fun k hk => by
    rw [istStartOfDay_eq (hmodern k hk), dayNumber_sub, hordinal]
  cases p with
  | today =>
    refine agrees_of h ?_ hend
    rw [hordinal]
    exact istStartOfDay_eq hnowModern
  | yesterday =>
    obtain ⟨y, hy, h⟩ := bind_eq_ok.mp h
    refine agrees_of h ?_ ?_
    · rw [addDays_ok hy]
      exact hbefore 1 (by omega)
    · rw [addDays_ok hy, hordinal]
      have hyesterday := istEndOfDay_eq (hmodern 1 (by omega))
      rw [dayNumber_sub] at hyesterday
      exact hyesterday
  | thisWeek =>
    obtain ⟨start, hstart, h⟩ := bind_eq_ok.mp h
    refine agrees_of h ?_ hend
    rw [addDays_ok hstart, hordinal, Date.weekday, hordinal, ← Int.sub_eq_add_neg]
    exact istStartOfWeek_eq hnowModern
  | last7Days =>
    obtain ⟨start, hstart, h⟩ := bind_eq_ok.mp h
    refine agrees_of h ?_ hend
    rw [addDays_ok hstart]
    exact hbefore 6 (by omega)
  | last30Days =>
    obtain ⟨start, hstart, h⟩ := bind_eq_ok.mp h
    refine agrees_of h ?_ hend
    rw [addDays_ok hstart]
    exact hbefore 29 (by omega)
  | thisMonth =>
    obtain ⟨start, hstart, h⟩ := bind_eq_ok.mp h
    refine agrees_of h ?_ hend
    rw [(pyDate_ok hstart).2.2, htoday, Int.add_sub_cancel]
    exact istStartOfMonth_eq hnowModern
  | lastMonth =>
    obtain ⟨firstThis, hfirst, h⟩ := bind_eq_ok.mp h
    obtain ⟨lastPrev, hlast, h⟩ := bind_eq_ok.mp h
    obtain ⟨start, hstart, h⟩ := bind_eq_ok.mp h
    have hfirstThis : 1000 * istStartOfMonth now = istDays.start firstThis.ordinal := by
      rw [(pyDate_ok hfirst).2.2, htoday, Int.add_sub_cancel]
      exact istStartOfMonth_eq hnowModern
    -- the day before the first of this month
    have hday : dayNumber (istStartOfMonth now - 1) = lastPrev.ordinal := by
      rw [← istDays_index_ms, addDays_ok hlast, istDays_index]
      rw [istDays_start] at hfirstThis
      omega
    have hparts : utcParts (istStartOfMonth now - 1 + istOffsetMs) = lastPrev := by
      show Date.ofOrdinal (dayNumber _) = lastPrev
      rw [hday, Date.ofOrdinal_ordinal]
    have hmodern : Modern (istStartOfMonth now - 1) := by
      have hlength := day_le_31 today
      have hthis : today.ordinal = firstThis.ordinal + today.day - 1 := by
        rw [(pyDate_ok hfirst).2.2, Date.ordinal]
        omega
      have hstart100 : Tiling.years.start 100 = 36160 := rfl
      unfold Modern
      rw [hday, addDays_ok hlast, hstart100]
      unfold dayNumber istOffsetMs dayMs at hordinal
      omega
    refine agrees_of h ?_ ?_
    · show 1000 * istStartOfMonth (istStartOfMonth now - 1) = _
      rw [istStartOfMonth_eq hmodern, hparts, (pyDate_ok hstart).2.2, Int.add_sub_cancel]
    · show 1000 * (istEndOfDay (istStartOfMonth now - 1) + 1) = _
      rw [istEndOfDay_eq hmodern, hday]

/-- What the date-range picker and the assistant call by the same name is the same range. -/
theorem pickerRange_agrees [PyText] (hlower : ∀ preset ∈ presets, PyText.lower preset = preset)
    {now : ℤ} (hnow : 0 ≤ now) (p : DateRangePreset) {rng : ResolvedRange}
    (h : resolvePreset (chatPreset p) (1000 * now) = .ok rng) : Agrees (pickerRange now p) rng := by
  unfold resolvePreset istToday at h
  obtain ⟨today, htoday, h⟩ := bind_eq_ok.mp h
  obtain ⟨refNow, -, h⟩ := bind_eq_ok.mp h
  obtain ⟨ist, hist, htoday⟩ := bind_eq_ok.mp htoday
  cases htoday
  obtain ⟨-, -, rfl⟩ := toIst_eq_ok.mp hist
  rw [normalizePreset_eq hlower] at h
  refine pickerRange_presetRange hnow ?_ p h
  rw [utcDate_add_istOffset, istDate, istDays_index_ms]
  rfl

/-- Noon in India on the first of March 2024, a Friday. -/
theorem pickerRange_agrees_small :
    Agrees (pickerRange 1709274600000 .lastMonth)
        ⟨1706725800000000, 1709231399999999, "last month"⟩ ∧
      Agrees (pickerRange 1709274600000 .thisWeek)
        ⟨1708885800000000, 1709317799999999, "this week so far"⟩ :=
  ⟨pickerRange_agrees (by decide) (by decide) .lastMonth (by decide),
    pickerRange_agrees (by decide) (by decide) .thisWeek (by decide)⟩

end AyushOms.Web
