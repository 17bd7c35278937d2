import AyushOms.Core.Base
import AyushOms.Core.Enums
import AyushOms.Lib.Budget

/-!
# Retrying Failed Syncs

`app.tasks.retry_processing._retry_failed_syncs` starts a new run for every unresolved error
that `should_retry` still admits, and counts the attempt on the error's row. A run records
errors of its own, on new rows whose counters start at zero.

## Main results

- `retryPass_budgeted`: the passes spend what is left on the error rows and get what the runs put
  back.
- `runs_bounded_iff`: the runs started by any number of passes stay within `n * max_retries`
  exactly when the retries run out by then.
- `failing_provider_is_retried_forever`: a provider that fails the same way every time is
  retried without bound.
-/

namespace AyushOms.Sync

open AyushOms.Lib

/-! ## Section 1: The policy -/

/-- `RETRYABLE_ERROR_TYPES` is not consulted; these are the types that are not retried. -/
def nonRetryableErrorTypes : List String :=
  ["authentication_error", "authorization_error", "invalid_payload", "validation_error",
    "not_found", "permanent_error"]

/-- `RetryPolicy`, the field `should_retry` reads. -/
structure RetryPolicy where
  maxRetries : ℕ := 5

/-- `is_retryable_error_type`. -/
def isRetryableErrorType (errorType : String) : Bool := !nonRetryableErrorTypes.contains errorType

/-- `should_retry`. -/
def shouldRetry (policy : RetryPolicy) (errorType : String) (retryCount : ℕ) : Bool :=
  if policy.maxRetries ≤ retryCount then false else isRetryableErrorType errorType

/-! ## Section 2: Errors, jobs and runs -/

/-- `SyncError`; a row is named by its place in the table. -/
structure SyncError where
  syncJobId : ℕ
  errorType : String
  retryCount : ℕ := 0
  resolved : Bool := false
  deriving DecidableEq, Repr

/-- `SyncJob`, as far as starting another run of it goes. -/
structure StartedJob where
  integrationId : UUID
  syncType : SyncType
  entityType : String
  active : Bool := false
  deriving DecidableEq, Repr

/-- What a run does: the types of the errors it records, and whether it rolls back. -/
structure RunOutcome where
  errorTypes : List String
  rollsBack : Bool
  deriving DecidableEq, Repr

/-- The two tables, the foreign key between them, and how many runs have been started. -/
structure RetryWorld where
  jobs : List StartedJob
  errors : List SyncError
  runs : ℕ := 0
  error_job : ∀ e ∈ errors, e.syncJobId < jobs.length

namespace RetryWorld

/-- `get_active_for_entity` finds a job. -/
def hasActive (w : RetryWorld) (job : StartedJob) : Bool :=
  w.jobs.any fun j =>
    j.integrationId == job.integrationId && j.entityType == job.entityType && j.active

/-- `run_sync`: an entity that is being synced is left alone; else a new job runs to its end
and records its errors. Also whether the session was rolled back. -/
def runSync (behaviour : ℕ → RunOutcome) (w : RetryWorld) (job : StartedJob) :
    Bool × RetryWorld :=
  if w.hasActive job then (false, w)
  else
    let outcome := behaviour w.runs
    (outcome.rollsBack,
      { jobs := w.jobs ++ [{ job with active := false }]
        errors := w.errors ++ outcome.errorTypes.map fun errorType =>
          { syncJobId := w.jobs.length, errorType := errorType }
        runs := w.runs + 1
        error_job := by
          intro e he
          rw [List.length_append, List.length_singleton]
          rcases List.mem_append.mp he with hold | hnew
          · exact Nat.lt_succ_of_lt (w.error_job e hold)
          · obtain ⟨errorType, -, rfl⟩ := List.mem_map.mp hnew
            exact Nat.lt_succ_self _ })

/-- `errors_repo.update(error, retry_count=error.retry_count + 1)`. -/
def countRetry (w : RetryWorld) (error : ℕ) : RetryWorld :=
  { w with
    errors := w.errors.modify error fun e => { e with retryCount := e.retryCount + 1 }
    error_job := by
      intro e he
      obtain ⟨i, hi⟩ := List.mem_iff_getElem?.mp he
      rw [List.getElem?_modify] at hi
      obtain ⟨e', he', rfl⟩ := Option.map_eq_some_iff.mp hi
      split
      · exact w.error_job e' (List.mem_of_getElem? he')
      · exact w.error_job e' (List.mem_of_getElem? he') }

/-- The loop over the selected errors. After a rollback the remaining rows are expired, and
reading the next one raises `MissingGreenlet`, which ends the pass. -/
def retryErrors (policy : RetryPolicy) (behaviour : ℕ → RunOutcome) :
    Bool → List ℕ → RetryWorld → RetryWorld
  | _, [], w => w
  | true, _ :: _, w => w
  | false, error :: rest, w =>
    match w.errors[error]? with
    | none => retryErrors policy behaviour false rest w
    | some e =>
      if shouldRetry policy e.errorType e.retryCount = false then
        retryErrors policy behaviour false rest w
      else
        match w.jobs[e.syncJobId]? with
        | none => retryErrors policy behaviour false rest w
        | some job =>
          let (rolledBack, w) := (w.countRetry error).runSync behaviour job
          retryErrors policy behaviour rolledBack rest w

/-- The unresolved errors. -/
def unresolved (w : RetryWorld) : List ℕ :=
  (List.range w.errors.length).filter fun i => w.errors[i]?.any fun e => !e.resolved

/-- `_retry_failed_syncs`; `order` is the order in which the query returns the rows. -/
def retryPass (policy : RetryPolicy) (behaviour : ℕ → RunOutcome) (order : List ℕ → List ℕ)
    (w : RetryWorld) : RetryWorld :=
  retryErrors policy behaviour false (order w.unresolved) w

/-- So many passes, with no other sync in between. -/
def passes (policy : RetryPolicy) (behaviour : ℕ → RunOutcome) (order : ℕ → List ℕ → List ℕ)
    (w : RetryWorld) : ℕ → RetryWorld
  | 0 => w
  | k + 1 => (passes policy behaviour order w k).retryPass policy behaviour (order k)

/-! ## Section 3: What is left on the rows -/

/-- The runs an error may still start: its retries, unless its type is not retried, it is
resolved, its job is gone or its entity is being synced. -/
def retriesLeft (policy : RetryPolicy) (w : RetryWorld) (e : SyncError) : ℕ :=
  if e.resolved = false ∧ isRetryableErrorType e.errorType = true ∧
      (w.jobs[e.syncJobId]?.any fun job => !w.hasActive job) = true then
    policy.maxRetries - e.retryCount
  else 0

/-- The runs all errors may still start. -/
def left (policy : RetryPolicy) (w : RetryWorld) : ℕ :=
  (w.errors.map (w.retriesLeft policy)).sum

/-- The retries that the errors of the first `t` runs come with. -/
def refill (policy : RetryPolicy) (behaviour : ℕ → RunOutcome) (t : ℕ) : ℕ :=
  policy.maxRetries *
    ((List.range t).map fun i => (behaviour i).errorTypes.countP isRetryableErrorType).sum

theorem refill_succ (policy : RetryPolicy) (behaviour : ℕ → RunOutcome) (t : ℕ) :
    refill policy behaviour (t + 1) = refill policy behaviour t +
      policy.maxRetries * (behaviour t).errorTypes.countP isRetryableErrorType := by
  simp [refill, List.range_succ, Nat.mul_add]

/-! ## Section 4: One attempt -/

variable {policy : RetryPolicy} {behaviour : ℕ → RunOutcome}

/-- A finished job makes no entity active. -/
theorem hasActive_runSync (w : RetryWorld) (job job' : StartedJob) :
    (w.runSync behaviour job).2.hasActive job' = w.hasActive job' := by
  unfold runSync
  split
  · rfl
  · simp [hasActive]

/-- A run changes nothing about what an older error may still start. -/
theorem retriesLeft_runSync {w : RetryWorld} (job : StartedJob) {e : SyncError}
    (he : e ∈ w.errors) :
    (w.runSync behaviour job).2.retriesLeft policy e = w.retriesLeft policy e := by
  have hjobs : (w.runSync behaviour job).2.jobs[e.syncJobId]? = w.jobs[e.syncJobId]? := by
    unfold runSync
    split
    · rfl
    · exact List.getElem?_append_left (w.error_job e he)
  simp only [retriesLeft, hjobs, hasActive_runSync]

/-- A run that starts comes with the retries of the errors it records. -/
theorem left_runSync {w : RetryWorld} {job : StartedJob} (hidle : w.hasActive job = false) :
    (w.runSync behaviour job).2.left policy = w.left policy +
      policy.maxRetries * (behaviour w.runs).errorTypes.countP isRetryableErrorType := by
  have herrors : (w.runSync behaviour job).2.errors =
      w.errors ++ (behaviour w.runs).errorTypes.map fun errorType =>
        { syncJobId := w.jobs.length, errorType := errorType } := by
    simp [runSync, hidle]
  have hold : w.errors.map ((w.runSync behaviour job).2.retriesLeft policy) =
      w.errors.map (w.retriesLeft policy) :=
    List.map_congr_left fun e he => retriesLeft_runSync job he
  -- each new error belongs to the new job, whose entity is idle again
  have hnew : ∀ errorType, (w.runSync behaviour job).2.retriesLeft policy
      { syncJobId := w.jobs.length, errorType := errorType } =
        if isRetryableErrorType errorType then policy.maxRetries else 0 := by
    intro errorType
    have hjob : (w.runSync behaviour job).2.jobs[w.jobs.length]? =
        some { job with active := false } := by
      simp [runSync, hidle]
    have hactive : w.hasActive { job with active := false } = false := hidle
    simp [retriesLeft, hjob, hasActive_runSync, hactive]
  -- the old errors keep what they had, and each retryable new one comes with `max_retries`
  rw [left, herrors, List.map_append, List.sum_append, hold, List.map_map, left]
  congr 1
  induction (behaviour w.runs).errorTypes with
  | nil => simp
  | cons errorType rest ih =>
    rw [List.map_cons, List.sum_cons, ih, Function.comp_apply, hnew]
    cases h : isRetryableErrorType errorType <;> simp [h, Nat.mul_add, Nat.add_comm]

/-- An error that `should_retry` admits and whose job is known, in a list of unresolved ones. -/
structure Admitted (policy : RetryPolicy) (w : RetryWorld) (error : ℕ) (e : SyncError)
    (job : StartedJob) : Prop where
  row : w.errors[error]? = some e
  unresolved : e.resolved = false
  admitted : shouldRetry policy e.errorType e.retryCount = true
  job : w.jobs[e.syncJobId]? = some job

theorem shouldRetry_eq_true {errorType : String} {retryCount : ℕ} :
    shouldRetry policy errorType retryCount = true ↔
      retryCount < policy.maxRetries ∧ isRetryableErrorType errorType = true := by
  unfold shouldRetry
  split
  · next hle => simp [Nat.not_lt.mpr hle]
  · next hlt => simp [Nat.lt_of_not_le hlt]

/-- Counting a retry takes one from what the error may still start, when its entity is idle. -/
theorem left_countRetry {w : RetryWorld} {error : ℕ} {e : SyncError} {job : StartedJob}
    (h : Admitted policy w error e job) :
    (w.countRetry error).left policy + (if w.hasActive job then 0 else 1) = w.left policy := by
  obtain ⟨hlt, htype⟩ := shouldRetry_eq_true.mp h.admitted
  have hsum := sum_map_modify (w.retriesLeft policy)
    (fun e => { e with retryCount := e.retryCount + 1 }) h.row
  have hleft : (w.countRetry error).left policy =
      ((w.errors.modify error fun e => { e with retryCount := e.retryCount + 1 }).map
        (w.retriesLeft policy)).sum := rfl
  rw [hleft, left]
  cases hactive : w.hasActive job with
  | true =>
    -- an entity that is being synced leaves nothing to its errors, before and after
    simp only [retriesLeft, h.job, hactive, Option.any_some, Bool.not_true, Bool.false_eq_true,
      and_false, if_false] at hsum
    simpa using hsum
  | false =>
    have hbefore : w.retriesLeft policy e = policy.maxRetries - e.retryCount := by
      simp [retriesLeft, h.unresolved, htype, h.job, hactive]
    have hafter : w.retriesLeft policy { e with retryCount := e.retryCount + 1 } =
        policy.maxRetries - (e.retryCount + 1) := by
      simp [retriesLeft, h.unresolved, htype, h.job, hactive]
    rw [hbefore, hafter] at hsum
    simp only [Bool.false_eq_true, if_false]
    omega

/-- What an attempt does: nothing but counting while the entity is being synced; else it starts
a run, which spends a retry that was left and brings the retries of its own errors. -/
theorem attempt_cases (behaviour : ℕ → RunOutcome) {w : RetryWorld} {error : ℕ} {e : SyncError}
    {job : StartedJob} (h : Admitted policy w error e job) :
    (w.hasActive job = true ∧
      (w.countRetry error).runSync behaviour job = (false, w.countRetry error) ∧
      (w.countRetry error).left policy = w.left policy) ∨
    (w.hasActive job = false ∧ 0 < w.left policy ∧
      ((w.countRetry error).runSync behaviour job).2.runs = w.runs + 1 ∧
      ((w.countRetry error).runSync behaviour job).2.left policy + 1 = w.left policy +
        policy.maxRetries * (behaviour w.runs).errorTypes.countP isRetryableErrorType) := by
  have hcount := left_countRetry h
  cases hactive : w.hasActive job with
  | true =>
    -- `start_sync` raises its conflict, and the count is already committed
    have hactive' : (w.countRetry error).hasActive job = true := hactive
    refine Or.inl ⟨rfl, by simp [runSync, hactive'], ?_⟩
    simpa [hactive] using hcount
  | false =>
    have hactive' : (w.countRetry error).hasActive job = false := hactive
    have hruns : ((w.countRetry error).runSync behaviour job).2.runs = w.runs + 1 := by
      simp only [runSync, hactive', Bool.false_eq_true, if_false]
      rfl
    simp only [hactive, Bool.false_eq_true, if_false] at hcount
    refine Or.inr ⟨rfl, by omega, hruns, ?_⟩
    have hbehaviour : (w.countRetry error).runs = w.runs := rfl
    rw [left_runSync hactive', hbehaviour]
    omega

/-- The listed rows are unresolved. -/
def Listed (w : RetryWorld) (errors : List ℕ) : Prop :=
  ∀ i ∈ errors, ∀ e, w.errors[i]? = some e → e.resolved = false

theorem Listed.attempt {w : RetryWorld} {errors : List ℕ} (h : w.Listed errors)
    (behaviour : ℕ → RunOutcome) (error : ℕ) (job : StartedJob) :
    ((w.countRetry error).runSync behaviour job).2.Listed errors := by
  have hcount : (w.countRetry error).Listed errors := by
    intro i hi e he
    simp only [countRetry, List.getElem?_modify] at he
    obtain ⟨e', he', rfl⟩ := Option.map_eq_some_iff.mp he
    split
    · exact h i hi e' he'
    · exact h i hi e' he'
  intro i hi e he
  unfold runSync at he
  split at he
  · exact hcount i hi e he
  · rw [List.getElem?_append] at he
    split at he
    · exact hcount i hi e he
    · -- a new error is unresolved
      obtain ⟨errorType, -, rfl⟩ := List.mem_map.mp (List.mem_of_getElem? he)
      rfl

/-! ## Section 5: One pass -/

/-- Going from `w` to `w'` spends retries on runs and takes in the retries of the errors these
record, and starts nothing once the retries have run out. -/
structure Spends (policy : RetryPolicy) (behaviour : ℕ → RunOutcome) (w w' : RetryWorld) :
    Prop where
  grows : w.runs ≤ w'.runs
  balance : w'.left policy + w'.runs + refill policy behaviour w.runs =
    w.left policy + w.runs + refill policy behaviour w'.runs
  stops : ∀ t, w.runs ≤ t → w.left policy + w.runs + refill policy behaviour t ≤
    refill policy behaviour w.runs + t → w'.runs ≤ t

theorem Spends.refl (w : RetryWorld) : Spends policy behaviour w w :=
  ⟨Nat.le_refl _, rfl, fun _ h _ => h⟩

theorem Spends.trans {w w' w'' : RetryWorld} (h : Spends policy behaviour w w')
    (h' : Spends policy behaviour w' w'') : Spends policy behaviour w w'' where
  grows := Nat.le_trans h.grows h'.grows
  balance := by
    have hbalance := h.balance
    have hbalance' := h'.balance
    omega
  stops t hle ht := by
    have hbalance := h.balance
    exact h'.stops t (h.stops t hle ht) (by omega)

/-- An attempt spends. -/
theorem spends_attempt {w : RetryWorld} {error : ℕ} {e : SyncError} {job : StartedJob}
    (h : Admitted policy w error e job) :
    Spends policy behaviour w ((w.countRetry error).runSync behaviour job).2 := by
  rcases attempt_cases behaviour h with
    ⟨-, hsync, hleft⟩ | ⟨-, hpos, hruns, hleft⟩
  · rw [hsync]
    have hruns : (w.countRetry error).runs = w.runs := rfl
    refine ⟨Nat.le_of_eq hruns.symm, ?_, fun t hle _ => hle⟩
    rw [hleft, hruns]
  · have hrefill := refill_succ policy behaviour w.runs
    refine ⟨by omega, ?_, fun t hle ht => ?_⟩
    · rw [hruns, hrefill]
      omega
    · -- with a retry left, the runs have not reached the point where the retries run out
      have hne : w.runs ≠ t := by
        rintro rfl
        omega
      omega

/-- One turn of the loop: the row is passed over, or it is admitted and an attempt made. -/
theorem retryErrors_cons (w : RetryWorld) (error : ℕ) (rest : List ℕ)
    (hlisted : w.Listed (error :: rest)) :
    ((∀ e job, ¬ Admitted policy w error e job) ∧
      retryErrors policy behaviour false (error :: rest) w =
        retryErrors policy behaviour false rest w) ∨
    ∃ e job, Admitted policy w error e job ∧
      retryErrors policy behaviour false (error :: rest) w =
        retryErrors policy behaviour ((w.countRetry error).runSync behaviour job).1 rest
          ((w.countRetry error).runSync behaviour job).2 := by
  cases hrow : w.errors[error]? with
  | none =>
    refine Or.inl ⟨fun e job h => ?_, by simp only [retryErrors, hrow]⟩
    rw [h.row] at hrow
    cases hrow
  | some e =>
    cases hadmitted : shouldRetry policy e.errorType e.retryCount with
    | false =>
      refine Or.inl ⟨fun e' job h => ?_, by simp only [retryErrors, hrow, hadmitted, if_true]⟩
      obtain rfl : e = e' := Option.some.inj (hrow.symm.trans h.row)
      rw [h.admitted] at hadmitted
      cases hadmitted
    | true =>
      cases hjob : w.jobs[e.syncJobId]? with
      | none =>
        refine Or.inl ⟨fun e' job h => ?_, ?_⟩
        · obtain rfl : e = e' := Option.some.inj (hrow.symm.trans h.row)
          rw [h.job] at hjob
          cases hjob
        · simp only [retryErrors, hrow, hadmitted, hjob, Bool.true_eq_false, if_false]
      | some job =>
        refine Or.inr ⟨e, job, ⟨hrow, ?_, hadmitted, hjob⟩, ?_⟩
        · exact hlisted error List.mem_cons_self e hrow
        · simp only [retryErrors, hrow, hadmitted, hjob, Bool.true_eq_false, if_false]

theorem spends_retryErrors (expired : Bool) (errors : List ℕ) (w : RetryWorld)
    (hlisted : w.Listed errors) :
    Spends policy behaviour w (retryErrors policy behaviour expired errors w) := by
  induction errors generalizing expired w with
  | nil =>
    simp only [retryErrors]
    exact Spends.refl w
  | cons error rest ih =>
    cases expired with
    | true =>
      -- the pass ends at its first expired row
      simp only [retryErrors]
      exact Spends.refl w
    | false =>
      have hrest : w.Listed rest := fun i hi => hlisted i (List.mem_cons_of_mem _ hi)
      rcases retryErrors_cons w error rest hlisted with
        ⟨-, hskip⟩ | ⟨e, job, hadmitted, hattempt⟩
      · rw [hskip]
        exact ih false w hrest
      · rw [hattempt]
        exact (spends_attempt hadmitted).trans (ih _ _ (hrest.attempt behaviour error job))

/-- A pass that gets to an admitted error of an idle entity starts a run; one that does not get
there has started a run that ended it. -/
theorem runs_lt_retryErrors {errors : List ℕ} {w : RetryWorld} {error : ℕ} {e : SyncError}
    {job : StartedJob} (hlisted : w.Listed errors) (hmem : error ∈ errors)
    (h : Admitted policy w error e job) (hidle : w.hasActive job = false) :
    w.runs < (retryErrors policy behaviour false errors w).runs := by
  induction errors generalizing w with
  | nil => exact absurd hmem List.not_mem_nil
  | cons first rest ih =>
    have hrest : w.Listed rest := fun i hi => hlisted i (List.mem_cons_of_mem _ hi)
    rcases retryErrors_cons w first rest hlisted with
      ⟨hnone, hskip⟩ | ⟨e', job', hadmitted, hattempt⟩
    · -- a row that is passed over is not the admitted one
      have hne : error ≠ first := by
        rintro rfl
        exact hnone e job h
      rw [hskip]
      exact ih hrest ((List.mem_cons.mp hmem).resolve_left hne) h hidle
    · rw [hattempt]
      rcases attempt_cases behaviour hadmitted with
        ⟨hactive, hsync, -⟩ | ⟨-, -, hruns, -⟩
      · -- only counted: the loop goes on, and the admitted row is still to come
        have hne : error ≠ first := by
          rintro rfl
          obtain rfl : e = e' := Option.some.inj (h.row.symm.trans hadmitted.row)
          obtain rfl : job = job' := Option.some.inj (h.job.symm.trans hadmitted.job)
          rw [hidle] at hactive
          cases hactive
        have hrow : (w.countRetry first).errors[error]? = some e := by
          simp [countRetry, h.row, hne.symm]
        have hlisted' := hrest.attempt behaviour first job'
        rw [hsync] at hlisted' ⊢
        exact ih hlisted' ((List.mem_cons.mp hmem).resolve_left hne)
          ⟨hrow, h.unresolved, h.admitted, h.job⟩ hidle
      · -- an earlier row has started a run, and no later one takes it back
        have hlisted' := hrest.attempt behaviour first job'
        have hspends : Spends policy behaviour _ _ := spends_retryErrors
          ((w.countRetry first).runSync behaviour job').1 rest _ hlisted'
        have hgrows := hspends.grows
        omega

/-! ## Section 6: Passes -/

theorem listed_unresolved {w : RetryWorld} {errors : List ℕ}
    (h : errors.Perm w.unresolved) : w.Listed errors := by
  intro i hi e he
  have hmem : i ∈ w.unresolved := h.mem_iff.mp hi
  simpa [unresolved, he] using (List.mem_filter.mp hmem).2

/-- Retries that are left belong to an unresolved error that is admitted and whose entity is
idle. -/
theorem exists_admitted {w : RetryWorld} (h : 0 < w.left policy) :
    ∃ error ∈ w.unresolved, ∃ e job, Admitted policy w error e job ∧
      w.hasActive job = false := by
  have hpos : ∃ e ∈ w.errors, 0 < w.retriesLeft policy e := by
    by_contra hnone
    push Not at hnone
    have hzero : w.left policy = 0 := by
      refine List.sum_eq_zero fun n hn => ?_
      obtain ⟨e, he, rfl⟩ := List.mem_map.mp hn
      exact Nat.le_zero.mp (hnone e he)
    omega
  obtain ⟨e, he, hleft⟩ := hpos
  obtain ⟨error, hrow⟩ := List.mem_iff_getElem?.mp he
  unfold retriesLeft at hleft
  split at hleft
  · next hopen =>
    obtain ⟨hresolved, htype, hjob⟩ := hopen
    obtain ⟨job, hjob, hidle⟩ := (Option.any_eq_true _ _).mp hjob
    refine ⟨error, ?_, e, job, ⟨hrow, hresolved, ?_, hjob⟩, by simpa using hidle⟩
    · rw [unresolved, List.mem_filter, List.mem_range]
      exact ⟨(List.getElem?_eq_some_iff.mp hrow).1, by simp [hrow, hresolved]⟩
    · exact shouldRetry_eq_true.mpr ⟨by omega, htype⟩
  · exact absurd hleft (Nat.lt_irrefl 0)

/-- The passes spend a budget: what is left on the rows at the start, refilled by the errors
that the runs record. -/
theorem retryPass_budgeted (policy : RetryPolicy) (behaviour : ℕ → RunOutcome)
    {order : ℕ → List ℕ → List ℕ} (horder : ∀ k l, (order k l).Perm l) {w : RetryWorld}
    (hruns : w.runs = 0) :
    Budgeted (w.left policy) (refill policy behaviour)
      (fun k => (passes policy behaviour order w k).runs)
      (fun k => (passes policy behaviour order w k).left policy) := by
  -- every pass reads its rows anew, so they are unresolved whatever the passes before did
  have hlisted : ∀ k, (passes policy behaviour order w k).Listed
      (order k (passes policy behaviour order w k).unresolved) :=
    fun k => listed_unresolved (horder k _)
  have hspends : ∀ k, Spends policy behaviour (passes policy behaviour order w k)
      (passes policy behaviour order w (k + 1)) :=
    fun k => spends_retryErrors false _ _ (hlisted k)
  have hbalance : ∀ k, (passes policy behaviour order w k).left policy +
      (passes policy behaviour order w k).runs =
        w.left policy + refill policy behaviour (passes policy behaviour order w k).runs := by
    intro k
    induction k with
    | zero => simp [passes, hruns, refill]
    | succ k ih =>
      have hstep := (hspends k).balance
      omega
  refine ⟨hruns, hbalance, fun k => (hspends k).grows, fun k hleft => ?_, fun k t hle ht => ?_⟩
  · obtain ⟨error, hmem, e, job, hadmitted, hidle⟩ := exists_admitted hleft
    exact runs_lt_retryErrors (hlisted k) ((horder k _).mem_iff.mpr hmem) hadmitted hidle
  · refine (hspends k).stops t hle ?_
    have hk := hbalance k
    omega

/-- However many passes run, and in whatever order each takes the rows: they start at most
`max_retries` runs for each of the unresolved errors exactly when, after some number of runs
up to that, the retries left on the errors at the start and those of the errors which these
runs record have run out. -/
theorem runs_bounded_iff (policy : RetryPolicy) (behaviour : ℕ → RunOutcome)
    (order : ℕ → List ℕ → List ℕ) (horder : ∀ k l, (order k l).Perm l) (w : RetryWorld)
    (hruns : w.runs = 0) :
    (∀ k, (passes policy behaviour order w k).runs ≤
        w.unresolved.length * policy.maxRetries) ↔
      ∃ t ≤ w.unresolved.length * policy.maxRetries,
        w.left policy + refill policy behaviour t ≤ t :=
  (retryPass_budgeted policy behaviour horder hruns).bounded_iff _

end RetryWorld

/-! ## Section 7: A provider that keeps failing -/

/-- One job of Shopify's orders, and the network error it failed with. -/
def oneNetworkError : RetryWorld where
  jobs := [{ integrationId := 1, syncType := .full, entityType := "orders" }]
  errors := [{ syncJobId := 0, errorType := "network_error" }]
  error_job := by decide

/-- Every run fails on its first page with the same network error. -/
def alwaysFails (_ : ℕ) : RunOutcome := ⟨["network_error"], true⟩

/-- Six passes over one error start six runs, though the policy allows it five. -/
theorem failing_provider_is_retried_forever :
    ¬ ∀ k, (RetryWorld.passes {} alwaysFails (fun _ l => l) oneNetworkError k).runs ≤
      oneNetworkError.unresolved.length * ({} : RetryPolicy).maxRetries := by
  intro h
  exact absurd (h 6) (by decide)

/-- When the first retry succeeds and so do all later ones, the five retries of the one error
are all that is started. -/
theorem runs_bounded_iff_recovered :
    (∀ k, (RetryWorld.passes {} (fun _ => ⟨[], false⟩) (fun _ l => l) oneNetworkError k).runs ≤
        oneNetworkError.unresolved.length * ({} : RetryPolicy).maxRetries) ↔
      ∃ t ≤ oneNetworkError.unresolved.length * ({} : RetryPolicy).maxRetries,
        oneNetworkError.left {} + RetryWorld.refill {} (fun _ => ⟨[], false⟩) t ≤ t :=
  RetryWorld.runs_bounded_iff {} (fun _ => ⟨[], false⟩) (fun _ l => l)
    (fun _ l => List.Perm.refl l) oneNetworkError rfl

end AyushOms.Sync
