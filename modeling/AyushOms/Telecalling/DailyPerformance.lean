import AyushOms.Lib.Counters
import AyushOms.Telecalling.Reassign
import AyushOms.Telecalling.Shown

/-!
# Daily Performance

`telecaller_daily_performance` counts the calls of a telecaller day by day. It loads the rows of
the telecaller in the range of dates, drops those that one of these rows corrects and the void
ones, and counts the rest. A correction has a row of its own, under the name of whoever made it;
the report is right as long as that is the telecaller whose call it corrects.

## Main results

- `reports_bucketByDay`: what the counters of a list of rows are
- `OwnLog.listResolved_perm`: the rows that are counted are the latest of the telecaller's calls
- `daily_performance_counts_calls`: the report in every state of a run of own corrections
-/

namespace AyushOms.Telecalling

open AyushOms.Lib

/-! ## Section 1: The report -/

/-- The day of `to_ist(value).date()`, counted from an origin at midnight. -/
def istDay (value : Instant) : ℤ := (value + 19800 * 1000000) / (86400 * 1000000)

/-- `_NOT_CONNECTED_OUTCOMES`. -/
def notConnectedOutcomes : List TelecallingStatus :=
  [.notCalled, .notAnswering, .busy, .switchedOff, .notReceived, .callAttempted, .invalidNumber]

/-- The bucket of a day. -/
structure DayCounts where
  attempts : ℕ := 0
  connected : ℕ := 0
  confirmed : ℕ := 0
  notInterested : ℕ := 0
  cancelled : ℕ := 0
  followUps : ℕ := 0
  deriving DecidableEq, Repr

namespace DayCounts

/-- One turn of the loop. -/
def add (bucket : DayCounts) (attempt : CallAttempt) : DayCounts :=
  let bucket := { bucket with attempts := bucket.attempts + 1 }
  let bucket :=
    if attempt.outcome ∉ notConnectedOutcomes then
      { bucket with connected := bucket.connected + 1 }
    else bucket
  let bucket :=
    if attempt.outcome = .confirmed then { bucket with confirmed := bucket.confirmed + 1 }
    else if attempt.outcome = .notInterested then
      { bucket with notInterested := bucket.notInterested + 1 }
    else if attempt.outcome = .cancelled then { bucket with cancelled := bucket.cancelled + 1 }
    else bucket
  if attempt.nextFollowUpAt.isSome then { bucket with followUps := bucket.followUps + 1 }
  else bucket

end DayCounts

/-- `CallAttemptRepository.list_resolved_for_telecaller_in_range`. -/
def listResolvedForTelecallerInRange (attempts : AttemptTable) (telecallerId : UUID)
    (dateFrom dateTo : Instant) : List CallAttempt :=
  let rows := attempts.rows.filter fun r =>
    r.telecallerId = some telecallerId ∧ dateFrom ≤ r.attemptedAt ∧ r.attemptedAt ≤ dateTo
  let correctedIds := rows.filterMap (·.correctsAttemptId)
  rows.filter fun r => r.id ∉ correctedIds ∧ r.isVoid = false

/-- The buckets of the days, sorted. -/
def bucketByDay (attempts : List CallAttempt) : List (ℤ × DayCounts) :=
  (Counters.countBy {} (fun attempt => istDay attempt.attemptedAt) DayCounts.add attempts).items

/-- `telecaller_daily_performance`. -/
def telecallerDailyPerformance (telecallerId : UUID) (actor : User) (dateFrom dateTo : Instant) :
    CallTxn (List (ℤ × DayCounts)) := do
  let _ ← assertTelecallerInTeamScope telecallerId actor
  let attempts ← Txn.select fun db =>
    listResolvedForTelecallerInRange db.callAttempts telecallerId dateFrom dateTo
  return bucketByDay attempts

/-! ## Section 2: What is to be counted -/

/-- The current version of a call: the row of its number that no row corrects. -/
def latestCorrection (attempts : AttemptTable) (c : CallAttempt) : Option CallAttempt :=
  (resolveCurrentForOrder attempts c.orderId true).find? fun v =>
    v.attemptNumber == c.attemptNumber

/-- What a call counts as: its latest correction at the time of the call, or nothing when it is
void. -/
def countedAs (attempts : AttemptTable) (c : CallAttempt) : Option CallAttempt :=
  ((latestCorrection attempts c).filter fun v => !v.isVoid).map fun v =>
    { v with attemptedAt := c.attemptedAt }

/-- The calls of a telecaller in a range of dates, each as what it counts as. -/
def countedCalls (attempts : AttemptTable) (telecallerId : UUID) (dateFrom dateTo : Instant) :
    List CallAttempt :=
  (attempts.rows.filter fun c => c.correctsAttemptId = none ∧
    c.telecallerId = some telecallerId ∧ dateFrom ≤ c.attemptedAt ∧
    c.attemptedAt ≤ dateTo).filterMap (countedAs attempts)

/-- The counters of some calls. -/
def DayCounts.of (calls : List CallAttempt) : DayCounts where
  attempts := calls.length
  connected := calls.countP fun c => c.outcome ∉ notConnectedOutcomes
  confirmed := calls.countP fun c => c.outcome = .confirmed
  notInterested := calls.countP fun c => c.outcome = .notInterested
  cancelled := calls.countP fun c => c.outcome = .cancelled
  followUps := calls.countP fun c => c.nextFollowUpAt.isSome

/-- The report has one entry for each day with a call, in order, with the counters of the calls
of that day. -/
structure Reports (report : List (ℤ × DayCounts)) (calls : List CallAttempt) : Prop where
  sorted : report.Pairwise fun a b => a.1 < b.1
  entry : ∀ day counts, (day, counts) ∈ report ↔
    (∃ c ∈ calls, istDay c.attemptedAt = day) ∧
      counts = DayCounts.of (calls.filter fun c => istDay c.attemptedAt = day)

/-! ## Section 3: Counting -/

namespace DayCounts

instance : Add DayCounts :=
  ⟨fun a b => ⟨a.attempts + b.attempts, a.connected + b.connected, a.confirmed + b.confirmed,
    a.notInterested + b.notInterested, a.cancelled + b.cancelled, a.followUps + b.followUps⟩⟩

theorem add_def (a b : DayCounts) : a + b = ⟨a.attempts + b.attempts, a.connected + b.connected,
    a.confirmed + b.confirmed, a.notInterested + b.notInterested, a.cancelled + b.cancelled,
    a.followUps + b.followUps⟩ := rfl

theorem of_cons (c : CallAttempt) (calls : List CallAttempt) :
    of (c :: calls) = of [c] + of calls := by
  simp [of, add_def, List.countP_cons, Nat.add_comm]

/-- One turn of the loop counts one call. -/
theorem add_eq (b : DayCounts) (c : CallAttempt) : b.add c = b + of [c] := by
  rw [add_def]
  simp only [add, of, List.countP_singleton, List.length_singleton]
  generalize c.outcome = outcome
  generalize c.nextFollowUpAt = nextFollowUpAt
  cases outcome <;> cases nextFollowUpAt <;> rfl

theorem foldl_add (calls : List CallAttempt) (b : DayCounts) :
    calls.foldl add b = b + of calls := by
  induction calls generalizing b with
  | nil => rfl
  | cons c calls ih =>
    rw [List.foldl_cons, ih, add_eq, of_cons c calls]
    simp [add_def, Nat.add_assoc]

/-- The order of the calls does not matter. -/
theorem of_perm {calls calls' : List CallAttempt} (h : calls.Perm calls') :
    of calls = of calls' := by
  simp only [of, h.length_eq, h.countP_eq]

end DayCounts

theorem reports_bucketByDay (attempts : List CallAttempt) :
    Reports (bucketByDay attempts) attempts := by
  refine ⟨Counters.pairwise_items, fun day counts => ?_⟩
  have hcounter : Counters.counterOf {} (fun attempt : CallAttempt => istDay attempt.attemptedAt)
      DayCounts.add attempts day =
      DayCounts.of (attempts.filter fun c => istDay c.attemptedAt = day) := by
    rw [Counters.counterOf, DayCounts.foldl_add]
    simp [DayCounts.add_def]
  rw [bucketByDay, Counters.mem_items_iff, hcounter]

theorem Reports.perm {report : List (ℤ × DayCounts)} {calls calls' : List CallAttempt}
    (h : Reports report calls) (hperm : calls.Perm calls') : Reports report calls' := by
  refine ⟨h.sorted, fun day counts => ?_⟩
  rw [h.entry, DayCounts.of_perm (hperm.filter fun c => istDay c.attemptedAt = day)]
  refine and_congr_left fun _ => ?_
  simp only [hperm.mem_iff]

/-! ## Section 4: Logs in which everyone corrects their own calls -/

/-- The log of every order is chained, and the rows of a number have one telecaller and one
time. -/
structure OwnLog (attempts : AttemptTable) : Prop where
  log : ∀ orderId, ∃ n, CallLog attempts orderId n
  shared : ∀ c ∈ attempts.rows, ∀ c' ∈ attempts.rows, c.orderId = c'.orderId →
    c.attemptNumber = c'.attemptNumber →
    c.telecallerId = c'.telecallerId ∧ c.attemptedAt = c'.attemptedAt

section OwnLog

variable {attempts attempts' : AttemptTable} {telecallerId : UUID} {dateFrom dateTo : Instant}

/-- What a row corrects is of its order and number. -/
theorem CallLog.corrected {orderId : UUID} {n : ℕ} (h : CallLog attempts orderId n)
    {c c' : CallAttempt} (hc : c ∈ attempts.rows) (hc' : c' ∈ attempts.rows)
    (ho : c'.orderId = orderId) (hcorrects : c'.correctsAttemptId = some c.id) :
    c.orderId = orderId ∧ c.attemptNumber = c'.attemptNumber := by
  obtain ⟨r, hr, hid, hslot, -⟩ :=
    h.history.exists_revised (mem_attemptsOf.mpr ⟨hc', ho⟩) hcorrects
  obtain ⟨hr, horder⟩ := mem_attemptsOf.mp hr
  have hsame : r = c := by
    refine attempts.eq_of_shared_key (k := c.id) hr hc ?_ (List.mem_singleton_self _)
    rw [← hid]
    exact List.mem_singleton_self _
  subst hsame
  exact ⟨horder, hslot⟩

/-- The current version of a call is the end of its chain. -/
theorem CallLog.latestCorrection_eq_some {c v : CallAttempt} {n : ℕ}
    (h : CallLog attempts c.orderId n) : latestCorrection attempts c = some v ↔
      IsTip attempts c.orderId v ∧ v.attemptNumber = c.attemptNumber := by
  constructor
  · intro hfind
    refine ⟨mem_resolveCurrentForOrder_iff_isTip.mp (List.mem_of_find?_eq_some hfind), ?_⟩
    simpa using List.find?_some hfind
  · intro htip
    obtain ⟨htip, hnumber⟩ := htip
    cases hfind : latestCorrection attempts c with
    | none =>
      have hnot := List.find?_eq_none.mp hfind v (mem_resolveCurrentForOrder_iff_isTip.mpr htip)
      simp [hnumber] at hnot
    | some v' =>
      have htip' := mem_resolveCurrentForOrder_iff_isTip.mp (List.mem_of_find?_eq_some hfind)
      have hnumber' : v'.attemptNumber = c.attemptNumber := by
        simpa using List.find?_some hfind
      rw [h.history.tip_unique htip' htip (hnumber'.trans hnumber.symm)]

/-- A correction is in the range, and the telecaller's, when what it corrects is. -/
theorem OwnLog.mem_listResolved (h : OwnLog attempts) {v : CallAttempt} :
    v ∈ listResolvedForTelecallerInRange attempts telecallerId dateFrom dateTo ↔
      IsTip attempts v.orderId v ∧ v.isVoid = false ∧ v.telecallerId = some telecallerId ∧
        dateFrom ≤ v.attemptedAt ∧ v.attemptedAt ≤ dateTo := by
  simp only [listResolvedForTelecallerInRange, List.mem_filter, List.mem_filterMap,
    decide_eq_true_eq]
  constructor
  · intro hv
    obtain ⟨⟨hmem, howner, hrange⟩, hcurrent, hvoid⟩ := hv
    refine ⟨⟨mem_attemptsOf.mpr ⟨hmem, rfl⟩, fun c hc hcorrects => ?_⟩, hvoid, howner, hrange⟩
    obtain ⟨hc, horder⟩ := mem_attemptsOf.mp hc
    obtain ⟨n, hlog⟩ := h.log v.orderId
    obtain ⟨-, hnumber⟩ := hlog.corrected hmem hc horder hcorrects
    obtain ⟨howner', htime⟩ := h.shared c hc v hmem horder hnumber.symm
    refine hcurrent ⟨c, ⟨hc, howner'.trans howner, ?_⟩, hcorrects⟩
    rwa [htime]
  · intro hv
    obtain ⟨htip, hvoid, howner, hrange⟩ := hv
    obtain ⟨hmem, -⟩ := mem_attemptsOf.mp htip.mem
    refine ⟨⟨hmem, howner, hrange⟩, fun hcorrected => ?_, hvoid⟩
    obtain ⟨c, ⟨hc, -⟩, hcorrects⟩ := hcorrected
    obtain ⟨n, hlog⟩ := h.log c.orderId
    obtain ⟨horder, -⟩ := hlog.corrected hmem hc rfl hcorrects
    exact htip.current c (mem_attemptsOf.mpr ⟨hc, horder.symm⟩) hcorrects

/-- The call of a chain: the row of its number that corrects none. -/
theorem OwnLog.exists_original (h : OwnLog attempts) {v : CallAttempt} (hv : v ∈ attempts.rows) :
    ∃ c ∈ attempts.rows, c.correctsAttemptId = none ∧ c.orderId = v.orderId ∧
      c.attemptNumber = v.attemptNumber := by
  obtain ⟨n, hlog⟩ := h.log v.orderId
  obtain ⟨c, hc, hfirst, hslot⟩ := hlog.history.exists_original (mem_attemptsOf.mpr ⟨hv, rfl⟩)
  obtain ⟨hc, horder⟩ := mem_attemptsOf.mp hc
  exact ⟨c, hc, hfirst, horder, hslot⟩

/-- What counts for a call has the time of the call already. -/
theorem OwnLog.countedAs_eq_some (h : OwnLog attempts) {c v : CallAttempt}
    (hc : c ∈ attempts.rows) : countedAs attempts c = some v ↔
      IsTip attempts c.orderId v ∧ v.attemptNumber = c.attemptNumber ∧ v.isVoid = false := by
  obtain ⟨n, hlog⟩ := h.log c.orderId
  simp only [countedAs, Option.map_eq_some_iff, Option.filter_eq_some_iff,
    hlog.latestCorrection_eq_some, Bool.not_eq_true']
  have htime : ∀ v, IsTip attempts c.orderId v → v.attemptNumber = c.attemptNumber →
      ({ v with attemptedAt := c.attemptedAt } : CallAttempt) = v := by
    intro v htip hnumber
    obtain ⟨hmem, horder⟩ := mem_attemptsOf.mp htip.mem
    rw [← (h.shared v hmem c hc horder hnumber).2]
  constructor
  · intro hv
    obtain ⟨v', ⟨⟨htip, hnumber⟩, hvoid⟩, rfl⟩ := hv
    rw [htime v' htip hnumber]
    exact ⟨htip, hnumber, hvoid⟩
  · intro hv
    obtain ⟨htip, hnumber, hvoid⟩ := hv
    exact ⟨v, ⟨⟨htip, hnumber⟩, hvoid⟩, htime v htip hnumber⟩

theorem OwnLog.mem_countedCalls (h : OwnLog attempts) {v : CallAttempt} :
    v ∈ countedCalls attempts telecallerId dateFrom dateTo ↔
      IsTip attempts v.orderId v ∧ v.isVoid = false ∧ v.telecallerId = some telecallerId ∧
        dateFrom ≤ v.attemptedAt ∧ v.attemptedAt ≤ dateTo := by
  simp only [countedCalls, List.mem_filterMap, List.mem_filter, decide_eq_true_eq]
  constructor
  · intro hv
    obtain ⟨c, ⟨hc, -, howner, hrange⟩, hcounted⟩ := hv
    obtain ⟨htip, hnumber, hvoid⟩ := (h.countedAs_eq_some hc).mp hcounted
    obtain ⟨hmem, horder⟩ := mem_attemptsOf.mp htip.mem
    obtain ⟨howner', htime⟩ := h.shared v hmem c hc horder hnumber
    rw [horder, howner', htime]
    exact ⟨htip, hvoid, howner, hrange⟩
  · intro hv
    obtain ⟨htip, hvoid, howner, hrange⟩ := hv
    obtain ⟨hmem, -⟩ := mem_attemptsOf.mp htip.mem
    obtain ⟨c, hc, hfirst, horder, hnumber⟩ := h.exists_original hmem
    obtain ⟨howner', htime⟩ := h.shared c hc v hmem horder hnumber
    refine ⟨c, ⟨hc, hfirst, howner'.trans howner, by rwa [htime]⟩, ?_⟩
    exact (h.countedAs_eq_some hc).mpr ⟨by rwa [horder], hnumber.symm, hvoid⟩

/-- No two calls count as the same row. -/
theorem OwnLog.nodup_countedCalls (h : OwnLog attempts) :
    (countedCalls attempts telecallerId dateFrom dateTo).Nodup := by
  have hcalls := (nodup_rows attempts).filter fun c => decide (c.correctsAttemptId = none ∧
    c.telecallerId = some telecallerId ∧ dateFrom ≤ c.attemptedAt ∧ c.attemptedAt ≤ dateTo)
  refine List.pairwise_filterMap.mpr (hcalls.imp_of_mem fun {a b} ha hb hne => ?_)
  intro v hv v' hv' hsame
  subst hsame
  obtain ⟨ha, ha'⟩ := List.mem_filter.mp ha
  obtain ⟨hb, hb'⟩ := List.mem_filter.mp hb
  obtain ⟨hatip, hanumber, -⟩ := (h.countedAs_eq_some ha).mp hv
  obtain ⟨hbtip, hbnumber, -⟩ := (h.countedAs_eq_some hb).mp hv'
  have horder : b.orderId = a.orderId :=
    (mem_attemptsOf.mp hbtip.mem).2.symm.trans (mem_attemptsOf.mp hatip.mem).2
  obtain ⟨n, hlog⟩ := h.log a.orderId
  simp only [decide_eq_true_eq] at ha' hb'
  exact hne (hlog.history.original_unique (mem_attemptsOf.mpr ⟨ha, rfl⟩)
    (mem_attemptsOf.mpr ⟨hb, horder⟩) ha'.1 hb'.1 (hanumber.symm.trans hbnumber))

theorem OwnLog.listResolved_perm (h : OwnLog attempts) :
    (listResolvedForTelecallerInRange attempts telecallerId dateFrom dateTo).Perm
      (countedCalls attempts telecallerId dateFrom dateTo) := by
  have hnodup : (listResolvedForTelecallerInRange attempts telecallerId dateFrom dateTo).Nodup :=
    ((nodup_rows attempts).filter _).filter _
  refine (List.perm_ext_iff_of_nodup hnodup h.nodup_countedCalls).mpr fun v => ?_
  rw [h.mem_listResolved, h.mem_countedCalls]

end OwnLog

/-! ## Section 5: Calls one after another -/

/-- A correction that goes through is one of the caller's own call. -/
def CorrectsOwn (db : CallDB) (e : ServiceCall × (ℕ → Option PyException)) : Prop :=
  ServiceCall.Returns db e →
    match e.1 with
    | .editCallAttempt c =>
      ∀ target ∈ getCorrectableForOrder db.callAttempts c.attemptId c.orderId,
        target.telecallerId = some c.actor.id
    | .deleteCallAttempt c =>
      ∀ target ∈ getCorrectableForOrder db.callAttempts c.attemptId c.orderId,
        target.telecallerId = some c.actor.id
    | .logCall _ | .reassignOrder _ => True

section Steps

variable {attempts attempts' : AttemptTable} {db : CallDB}
  {e : ServiceCall × (ℕ → Option PyException)}

/-- A row that agrees with the rows of its number keeps a log an own log. -/
theorem OwnLog.insert (h : OwnLog attempts) {row : CallAttempt}
    (hinsert : attempts.insert? row = some attempts')
    (hlog : ∀ orderId, ∃ n, CallLog attempts' orderId n)
    (hrow : ∀ c ∈ attempts.rows, c.orderId = row.orderId → c.attemptNumber = row.attemptNumber →
      c.telecallerId = row.telecallerId ∧ c.attemptedAt = row.attemptedAt) : OwnLog attempts' := by
  refine ⟨hlog, fun c hc c' hc' ho hnumber => ?_⟩
  rw [Table.rows_of_insert? hinsert] at hc hc'
  rcases List.mem_append.mp hc with hc | hc
  · rcases List.mem_append.mp hc' with hc' | hc'
    · exact h.shared c hc c' hc' ho hnumber
    · rw [List.mem_singleton.mp hc'] at ho hnumber ⊢
      exact hrow c hc ho hnumber
  · rw [List.mem_singleton.mp hc] at ho hnumber ⊢
    rcases List.mem_append.mp hc' with hc' | hc'
    · obtain ⟨howner, htime⟩ := hrow c' hc' ho.symm hnumber.symm
      exact ⟨howner.symm, htime.symm⟩
    · rw [List.mem_singleton.mp hc']
      exact ⟨rfl, rfl⟩

/-- A correction of the own call agrees with the rows of its number. -/
theorem OwnLog.agrees_of_correction (h : OwnLog attempts) (row : CallAttempt)
    {target : CallAttempt} {attemptId : UUID}
    (htarget : getCorrectableForOrder attempts attemptId row.orderId = some target)
    (hnumber : row.attemptNumber = target.attemptNumber)
    (howner : target.telecallerId = row.telecallerId)
    (htime : target.attemptedAt = row.attemptedAt) :
    ∀ c ∈ attempts.rows, c.orderId = row.orderId → c.attemptNumber = row.attemptNumber →
      c.telecallerId = row.telecallerId ∧ c.attemptedAt = row.attemptedAt := by
  intro c hc ho hsame
  have htip := mem_resolveCurrentForOrder_iff_isTip.mp (mem_of_getCorrectableForOrder htarget).1
  obtain ⟨hmem, horder⟩ := mem_attemptsOf.mp htip.mem
  rw [← howner, ← htime]
  exact h.shared c hc target hmem (ho.trans horder.symm) (hsame.trans hnumber)

/-- What one call does. -/
theorem OwnLog.exec (h : OwnLog db.callAttempts) (hown : CorrectsOwn db e) :
    OwnLog (ServiceCall.exec db e).callAttempts := by
  have hlog : ∀ orderId, ∃ n, CallLog (ServiceCall.exec db e).callAttempts orderId n := by
    intro orderId
    obtain ⟨n, hn⟩ := h.log orderId
    exact hn.exec e
  by_cases hreturns : ServiceCall.Returns db e
  · obtain ⟨a, a', -, hleaves⟩ := ServiceCall.leaves_of_returns hreturns
    have hown := hown hreturns
    revert hown hlog
    generalize ServiceCall.exec db e = db' at hleaves
    obtain ⟨call, faults⟩ := e
    intro hlog hown
    cases hleaves with
    | logCall c a hinsert =>
      -- the number of a new call has no row yet
      refine h.insert hinsert hlog fun c' hc' ho hnumber => ?_
      obtain ⟨n, hn⟩ := h.log c.orderId
      have hle := ((hn.numbers _).mp ⟨c', mem_attemptsOf.mpr ⟨hc', ho⟩, rfl⟩).2
      have hnext : c'.attemptNumber = nextAttemptNumber db.callAttempts c.orderId := hnumber
      rw [hn.nextAttemptNumber_eq] at hnext
      omega
    | editCallAttempt c a target htarget hinsert =>
      exact h.insert hinsert hlog
        (h.agrees_of_correction (c.row target) htarget rfl (hown target htarget) rfl)
    | deleteCallAttempt c a target htarget hinsert =>
      exact h.insert hinsert hlog
        (h.agrees_of_correction (c.row target) htarget rfl (hown target htarget) rfl)
    | reassignOrder c current telecaller hsame =>
      rw [hsame]
      exact h
  · rwa [ServiceCall.exec_of_not_returns hreturns]

/-- A log without calls. -/
theorem ownLog_of_nil (hnew : attempts.rows = []) : OwnLog attempts := by
  have hnone : ∀ orderId, ∀ c ∈ attempts.rows, c.orderId ≠ orderId := by
    rw [hnew]
    simp
  refine ⟨fun orderId => ?_, fun c hc => ?_⟩
  · let db : CallDB := { callAttempts := attempts }
    have hrun : ∃ n, CallLog (run ServiceCall.exec db []).callAttempts orderId n :=
      CallLog.run_exec (hnone orderId) []
    exact hrun
  · rw [hnew] at hc
    cases hc

/-- Whoever may see the telecaller is returned a report of the telecaller's calls. -/
def ReportsRight (db : CallDB) : Prop :=
  ∀ (telecallerId : UUID) (actor : User) (dateFrom dateTo : Instant),
    (resolveTeamScope actor).ShowsTelecaller (db.getUser telecallerId) →
    ∃ report, ((telecallerDailyPerformance telecallerId actor dateFrom dateTo).run
        CallWrite.apply (.fresh db fun _ => none)).1 = .ok report ∧
      Reports report (countedCalls db.callAttempts telecallerId dateFrom dateTo)

theorem OwnLog.reportsRight (h : OwnLog db.callAttempts) : ReportsRight db := by
  intro telecallerId actor dateFrom dateTo hshown
  obtain ⟨u, huser, hrole, hteam⟩ := hshown
  have hcompletes : Txn.Completes CallWrite.apply
      (telecallerDailyPerformance telecallerId actor dateFrom dateTo) db
      (bucketByDay (listResolvedForTelecallerInRange db.callAttempts telecallerId dateFrom dateTo))
      db := by
    refine Txn.completes_bind (completes_assertTelecaller (t := orderLeads) huser hrole hteam) ?_
    exact Txn.completes_bind Txn.completes_select Txn.completes_pure
  refine ⟨_, congrArg Prod.fst (hcompletes db), ?_⟩
  exact (reports_bucketByDay _).perm h.listResolved_perm

end Steps

/-- From a database without calls on, in every state of a run of calls, edits, deletions and
reassignments in which corrections are made by the telecaller whose call they correct, the report
of every telecaller and every range of dates counts each of the telecaller's calls that is not
void once, on its day and by its latest correction, and nothing else. -/
theorem daily_performance_counts_calls (db : CallDB) (hnew : db.callAttempts.rows = [])
    (calls : List (ServiceCall × (ℕ → Option PyException)))
    (hown : Along ServiceCall.exec CorrectsOwn db calls) :
    Throughout ServiceCall.exec ReportsRight db calls := by
  have hstep : ∀ db e, OwnLog db.callAttempts → CorrectsOwn db e →
      OwnLog (ServiceCall.exec db e).callAttempts := fun _ _ h hown => h.exec hown
  have hlogs : Throughout ServiceCall.exec (fun db => OwnLog db.callAttempts) db calls :=
    throughout_of_along hstep (ownLog_of_nil hnew) hown
  exact fun pre hpre => (hlogs pre hpre).reportsRight

/-- Of two calls the first is corrected and the second deleted, by the telecaller who made them. -/
def ownCorrections : List (ServiceCall × (ℕ → Option PyException)) :=
  correctedCalls.take 4

/-- The first call counts by its correction, on its day; the second does not count. -/
theorem daily_performance_counts_calls_own : ∃ report,
    ((telecallerDailyPerformance 1 leader 0 50).run CallWrite.apply
      (.fresh (run ServiceCall.exec assignedOrder ownCorrections) fun _ => none)).1 = .ok report ∧
    Reports report (countedCalls
      (run ServiceCall.exec assignedOrder ownCorrections).callAttempts 1 0 50) := by
  have hown : Along ServiceCall.exec CorrectsOwn assignedOrder ownCorrections := by
    refine ⟨fun _ => True.intro, fun _ => True.intro, fun _ target htarget => ?_,
      fun _ target htarget => ?_, True.intro⟩
    · have hrow : target.telecallerId = some 1 := by
        revert target
        decide +kernel
      exact hrow
    · have hrow : target.telecallerId = some 1 := by
        revert target
        decide +kernel
      exact hrow
  have hright : ReportsRight (run ServiceCall.exec assignedOrder ownCorrections) :=
    daily_performance_counts_calls assignedOrder rfl ownCorrections hown ownCorrections
      (List.prefix_refl _)
  refine hright 1 leader 0 50 ⟨asha, by decide +kernel, by simp [asha], ?_⟩
  exact (showsTeam_resolveTeamScope _ _).mpr (.inr (.inr rfl))

/-- A superuser corrects a telecaller's call. -/
def correctedByOther : List (ServiceCall × (ℕ → Option PyException)) :=
  [(.logCall { orderId := 7, outcome := .busy, actor := asha, newId := 201, now := 10 },
      fun _ => none),
    (.editCallAttempt
      { orderId := 7, attemptId := 201, outcome := .confirmed, newId := 202,
        actor := { id := 6, name := "Root", isSuperuser := true } }, fun _ => none)]

/-- The report goes on counting the call as it was logged. -/
theorem other_correction_not_counted :
    ¬ ReportsRight (run ServiceCall.exec assignedOrder correctedByOther) := by
  intro hright
  have hshown : (resolveTeamScope leader).ShowsTelecaller
      ((run ServiceCall.exec assignedOrder correctedByOther).getUser 1) :=
    ⟨asha, by decide +kernel, by simp [asha],
      (showsTeam_resolveTeamScope _ _).mpr (.inr (.inr rfl))⟩
  obtain ⟨report, hok, hreports⟩ := hright 1 leader 0 50 hshown
  have hreport : ((telecallerDailyPerformance 1 leader 0 50).run CallWrite.apply
      (.fresh (run ServiceCall.exec assignedOrder correctedByOther) fun _ => none)).1 =
      .ok [(0, { attempts := 1 })] := by decide +kernel
  rw [hreport] at hok
  cases hok
  have hcounts := ((hreports.entry 0 { attempts := 1 }).mp (List.mem_singleton_self _)).2
  have hcorrected : DayCounts.of ((countedCalls (run ServiceCall.exec assignedOrder
      correctedByOther).callAttempts 1 0 50).filter fun c => istDay c.attemptedAt = 0) =
      { attempts := 1, connected := 1, confirmed := 1 } := by decide +kernel
  rw [hcorrected] at hcounts
  cases hcounts

end AyushOms.Telecalling
