import AyushOms.Lib.Run
import AyushOms.Sync.Service

/-!
# Who Writes a Job's Status

A `SyncJob` row is written from several processes: the worker that runs it, a cancellation and
the stale-job reaper. Each works on the copy its session holds. `session.get` returns that copy
without asking the database, a commit keeps it (`expire_on_commit=False`), and an update sends
only the columns that differ from it. None of the writers looks at the status it replaces.

## Main results

- `JobWorld.absorbing_iff`: a finished job keeps its status throughout a run exactly when no call
  of the run replaces the status of a finished job.
- `cancelled_job_runs`: a job cancelled before its worker picks it up is run and completed.
-/

namespace AyushOms.Sync

open AyushOms.Lib

/-! ## Section 1: The row and its sessions -/

/-- `SyncJob` with the time it was picked up. -/
structure JobRow extends SyncJob where
  startedAt : Option Instant := none
  deriving DecidableEq, Repr

/-- `_ACTIVE_STATUSES`. -/
def activeStatuses : List SyncJobStatus := [.queued, .running]

/-- A job with such a status is over. -/
def terminalJobStatuses : List SyncJobStatus := [.completed, .partially, .failed, .cancelled]

theorem terminal_iff_not_active {status : SyncJobStatus} :
    status ∈ terminalJobStatuses ↔ status ∉ activeStatuses := by
  cases status <;> decide

/-- A column of an `UPDATE`: sent when it differs from what the session holds. -/
def flushColumn {α : Type*} [DecidableEq α] (held new stored : α) : α :=
  if new = held then stored else new

/-- The row after a session that held `held` flushes `new`. -/
def JobRow.flush (held new stored : JobRow) : JobRow where
  syncType := flushColumn held.syncType new.syncType stored.syncType
  status := flushColumn held.status new.status stored.status
  completedAt := flushColumn held.completedAt new.completedAt stored.completedAt
  recordsReceived := flushColumn held.recordsReceived new.recordsReceived stored.recordsReceived
  recordsCreated := flushColumn held.recordsCreated new.recordsCreated stored.recordsCreated
  recordsUpdated := flushColumn held.recordsUpdated new.recordsUpdated stored.recordsUpdated
  recordsFailed := flushColumn held.recordsFailed new.recordsFailed stored.recordsFailed
  errorCount := flushColumn held.errorCount new.errorCount stored.errorCount
  startedAt := flushColumn held.startedAt new.startedAt stored.startedAt

/-- The stored row, the copy each session holds, and the sessions of the reaper that have
selected the job. -/
structure JobWorld where
  row : JobRow
  held : ℕ → Option JobRow := fun _ => none
  selected : ℕ → Bool := fun _ => false

/-- The calls on a job, each in its session. -/
inductive JobEvent where
  | markRunning (session : ℕ) (now : Instant)
  | recordProgress (session received created updated failed : ℕ)
  | recordError (session : ℕ)
  | completeSync (session : ℕ) (success : Bool) (now : Instant)
  | cancelSync (session : ℕ) (now : Instant)
  | reapSelect (session : ℕ)
  | reapRecordError (session : ℕ)
  | reapComplete (session : ℕ) (now : Instant)
  | rollback (session : ℕ)

namespace JobWorld

/-- `_get_sync_job`: the copy the session holds, or the stored row. -/
def getSyncJob (w : JobWorld) (session : ℕ) : JobRow := (w.held session).getD w.row

/-- `sync_jobs.update(job, ...)` and the commit. -/
def update (w : JobWorld) (session : ℕ) (f : JobRow → JobRow) : JobWorld :=
  let job := w.getSyncJob session
  { w with
    row := JobRow.flush job (f job) w.row
    held := Function.update w.held session (some (f job)) }

/-- `mark_running`. -/
def markRunning (w : JobWorld) (session : ℕ) (now : Instant) : JobWorld :=
  w.update session fun job => { job with status := .running, startedAt := some now }

/-- `record_progress`. -/
def recordProgress (w : JobWorld) (session received created updated failed : ℕ) : JobWorld :=
  w.update session fun job => { job with
    recordsReceived := job.recordsReceived + received
    recordsCreated := job.recordsCreated + created
    recordsUpdated := job.recordsUpdated + updated
    recordsFailed := job.recordsFailed + failed }

/-- `record_error`. -/
def recordError (w : JobWorld) (session : ℕ) : JobWorld :=
  w.update session fun job => { job with errorCount := job.errorCount + 1 }

/-- The status `complete_sync` decides on. -/
def finalStatus (job : JobRow) (success : Bool) : SyncJobStatus :=
  if success = false then .failed
  else if 0 < job.errorCount then .partially
  else .completed

/-- `complete_sync`. -/
def completeSync (w : JobWorld) (session : ℕ) (success : Bool) (now : Instant) : JobWorld :=
  w.update session fun job =>
    { job with status := finalStatus job success, completedAt := some now }

/-- `cancel_sync`. -/
def cancelSync (w : JobWorld) (session : ℕ) (now : Instant) : JobWorld :=
  w.update session fun job => { job with status := .cancelled, completedAt := some now }

/-- `get_stale_running` and `get_stale_queued`: the reaper's session loads a job that is
active. -/
def reapSelect (w : JobWorld) (session : ℕ) : JobWorld :=
  if w.row.status ∈ activeStatuses then
    { w with
      held := Function.update w.held session (some (w.getSyncJob session))
      selected := Function.update w.selected session true }
  else w

/-- `session.rollback()` expires the session's copy. -/
def rollback (w : JobWorld) (session : ℕ) : JobWorld :=
  { w with held := Function.update w.held session none }

end JobWorld

/-- One call on the job. The reaper goes on with what it selected, whatever became of it. -/
def jobStep (w : JobWorld) : JobEvent → JobWorld
  | .markRunning session now => w.markRunning session now
  | .recordProgress session received created updated failed =>
    w.recordProgress session received created updated failed
  | .recordError session => w.recordError session
  | .completeSync session success now => w.completeSync session success now
  | .cancelSync session now => w.cancelSync session now
  | .reapSelect session => w.reapSelect session
  | .reapRecordError session => if w.selected session then w.recordError session else w
  | .reapComplete session now =>
    if w.selected session then w.completeSync session false now else w
  | .rollback session => w.rollback session

namespace JobWorld

/-! ## Section 2: What a call writes -/

/-- The session a call works in and the status it writes; `none` when it writes none. -/
def writesStatus (w : JobWorld) : JobEvent → Option (ℕ × SyncJobStatus)
  | .markRunning session _ => some (session, .running)
  | .completeSync session success _ =>
    some (session, finalStatus (w.getSyncJob session) success)
  | .cancelSync session _ => some (session, .cancelled)
  | .reapComplete session _ =>
    if w.selected session then some (session, finalStatus (w.getSyncJob session) false) else none
  | .recordProgress .. | .recordError _ | .reapSelect _ | .reapRecordError _ | .rollback _ => none

theorem flushColumn_self {α : Type*} [DecidableEq α] (held stored : α) :
    flushColumn held held stored = stored := if_pos rfl

/-- A call that writes no status leaves the stored one alone. -/
theorem status_of_writes_none {w : JobWorld} {e : JobEvent} (h : w.writesStatus e = none) :
    (jobStep w e).row.status = w.row.status := by
  cases e with
  | markRunning session now => cases h
  | completeSync session success now => cases h
  | cancelSync session now => cases h
  | recordProgress session received created updated failed => exact flushColumn_self _ _
  | recordError session => exact flushColumn_self _ _
  | reapSelect session =>
    simp only [jobStep, reapSelect]
    split <;> rfl
  | reapRecordError session =>
    simp only [jobStep]
    split
    · exact flushColumn_self _ _
    · rfl
  | reapComplete session now =>
    simp only [writesStatus] at h
    split at h
    · cases h
    · next hselected => simp only [jobStep, hselected, Bool.false_eq_true, if_false]
  | rollback session => rfl

/-- A call that writes a status sends it when it differs from the one its session holds. -/
theorem status_of_writes_some {w : JobWorld} {e : JobEvent} {session : ℕ}
    {status : SyncJobStatus} (h : w.writesStatus e = some (session, status)) :
    (jobStep w e).row.status =
      flushColumn (w.getSyncJob session).status status w.row.status := by
  cases e with
  | markRunning session now => cases h; rfl
  | completeSync session success now => cases h; rfl
  | cancelSync session now => cases h; rfl
  | reapComplete session now =>
    -- the reaper writes only for a job its own query has returned
    simp only [writesStatus] at h
    split at h
    · next hselected =>
      cases h
      simp only [jobStep, hselected, if_true]
      rfl
    · cases h
  | recordProgress session received created updated failed => cases h
  | recordError session => cases h
  | reapSelect session => cases h
  | reapRecordError session => cases h
  | rollback session => cases h

/-! ## Section 3: Finished jobs -/

/-- Once the job is over, its status never changes again. -/
def Absorbing (w : JobWorld) (es : List JobEvent) : Prop :=
  ∀ pre mid post, es = pre ++ mid ++ post →
    (run jobStep w pre).row.status ∈ terminalJobStatuses →
      (run jobStep w (pre ++ mid)).row.status = (run jobStep w pre).row.status

/-- The call does not replace the status of a finished job: it writes no status, the job is
still active, or the status is the stored one or the one its session already holds, which sends
no update. -/
def LeavesFinished (w : JobWorld) (e : JobEvent) : Prop :=
  ∀ session status, w.writesStatus e = some (session, status) →
    w.row.status ∈ activeStatuses ∨ status = w.row.status ∨
      status = (w.getSyncJob session).status

/-- The step keeps the status of a finished job exactly when it does not replace it. -/
theorem leavesFinished_iff {w : JobWorld} {e : JobEvent} :
    w.LeavesFinished e ↔
      (w.row.status ∈ terminalJobStatuses → (jobStep w e).row.status = w.row.status) := by
  cases hwrites : w.writesStatus e with
  | none =>
    refine ⟨fun _ _ => status_of_writes_none hwrites, fun _ session status h => ?_⟩
    rw [hwrites] at h
    cases h
  | some written =>
    obtain ⟨session, status⟩ := written
    rw [terminal_iff_not_active, status_of_writes_some hwrites, flushColumn]
    constructor
    · intro h hover
      rcases h session status hwrites with hactive | hsame | hheld
      · exact absurd hactive hover
      · split
        · rfl
        · exact hsame
      · rw [if_pos hheld]
    · -- a terminal status that is sent and differs from the stored one replaces it
      intro h session' status' h'
      rw [hwrites, Option.some.injEq, Prod.mk.injEq] at h'
      obtain ⟨rfl, rfl⟩ := h'
      by_cases hactive : w.row.status ∈ activeStatuses
      · exact Or.inl hactive
      · refine Or.inr ?_
        have hkept := h hactive
        split at hkept
        · next hheld => exact Or.inr hheld
        · exact Or.inl hkept

/-- A finished job keeps its status throughout a run exactly when no call of the run replaces
the status of a finished job. -/
theorem absorbing_iff (w : JobWorld) (es : List JobEvent) :
    w.Absorbing es ↔ Along jobStep LeavesFinished w es := by
  rw [along_iff_forall_split]
  constructor
  · intro h pre e post heq
    rw [leavesFinished_iff]
    intro hover
    have hkept := h pre [e] post (by rw [heq, List.append_assoc, List.singleton_append]) hover
    rwa [run_append] at hkept
  · intro h pre mid post heq hover
    -- the events after the job is over, one after another
    induction mid using List.reverseRecOn generalizing post with
    | nil => rw [List.append_nil]
    | append_singleton mid e ih =>
      have hmid := ih (e :: post) (by rw [heq]; simp)
      have hstep := leavesFinished_iff.mp (h (pre ++ mid) e post (by rw [heq]; simp))
      rw [← List.append_assoc, run_append]
      rw [← hmid]
      exact hstep (by rw [hmid]; exact hover)

end JobWorld

/-! ## Section 4: A cancelled job -/

/-- A queued job is cancelled, and then its worker picks it up and completes it. -/
def cancelledBeforePickup : List JobEvent :=
  [.cancelSync 1 5, .markRunning 0 10, .recordProgress 0 50 50 0 0, .completeSync 0 true 20]

/-- The cancelled job runs, and ends as completed. -/
theorem cancelled_job_runs :
    ¬ JobWorld.Absorbing { row := { syncType := .full, status := .queued } }
      cancelledBeforePickup := by
  intro h
  have hkept := h (cancelledBeforePickup.take 1) (cancelledBeforePickup.drop 1) [] rfl (by decide)
  exact absurd hkept (by decide)

/-- A slow job is reaped while its worker is still alive. -/
def reapedWhileAlive : List JobEvent :=
  [.markRunning 0 10, .reapSelect 2, .reapRecordError 2, .reapComplete 2 1500000000,
    .completeSync 0 true 1600000000]

/-- The job marked failed by the reaper ends as completed. -/
example : (run jobStep { row := { syncType := .full, status := .queued } }
    reapedWhileAlive).row.status = .completed := by decide

end AyushOms.Sync
