import AyushOms.Sync.JobStatus

/-!
# Starting, Running and Reaping Jobs

All the jobs of all integrations, the tasks that run them and the stale-job reaper. `start_sync`
looks for an active job before it adds one, and a partial unique index refuses a second active job
of an entity. A task marks its job as running and works on it in its own session; Celery kills it
at its time limit, if it has one. The reaper looks for the jobs that have been silent for too long,
and then marks them failed one by one.

Each event is one statement or one commit, so that anything may come between a look and the write
it leads to.
-/

namespace AyushOms.Sync

open AyushOms.Lib

/-! ## Section 1: Jobs -/

/-- A row of `sync_jobs` with its sessions. -/
structure Job where
  integrationId : UUID
  entityType : String
  createdAt : Instant
  updatedAt : Instant
  world : JobWorld

namespace Job

def status (j : Job) : SyncJobStatus := j.world.row.status

/-- The job is counted by `uq_sync_jobs_one_active_per_entity`. -/
def active (j : Job) : Bool := activeStatuses.contains j.status

/-- The columns of that index. -/
def key (j : Job) : UUID × String := (j.integrationId, j.entityType)

/-- A call on the job in a session; the `UPDATE` it sends stamps the row. -/
def write (now : Instant) (session : ℕ) (e : JobEvent) (j : Job) : Job :=
  let world := jobStep j.world e
  { j with
    world := world
    updatedAt :=
      if world.getSyncJob session = j.world.getSyncJob session then j.updatedAt else now }

/-- `mark_running`, which always sends the new `started_at`. -/
def markRunning (now : Instant) (session : ℕ) (j : Job) : Job :=
  { j with world := jobStep j.world (.markRunning session now), updatedAt := now }

/-- The job is loaded into the new session of a reaper pass. -/
def select (session : ℕ) (j : Job) : Job :=
  { j with world := jobStep (jobStep j.world (.rollback session)) (.reapSelect session) }

/-- The reaper pass is done with the job. -/
def deselect (session : ℕ) (j : Job) : Job :=
  { j with
    world := { j.world with selected := Function.update j.world.selected session false } }

end Job

/-- `uq_sync_jobs_one_active_per_entity`. -/
def OneActive (jobs : List Job) : Prop :=
  jobs.Pairwise fun j j' => ¬ (j.active = true ∧ j'.active = true ∧ j.key = j'.key)

instance (jobs : List Job) : Decidable (OneActive jobs) :=
  inferInstanceAs (Decidable (List.Pairwise _ _))

/-- `SyncJobStatus.value`. -/
def statusValue : SyncJobStatus → String
  | .queued => "queued"
  | .running => "running"
  | .completed => "completed"
  | .partially => "partial"
  | .failed => "failed"
  | .cancelled => "cancelled"

/-! ## Section 2: Tasks and passes -/

/-- A task that runs a job: its number, the job, when it picked it up, and its time limit. -/
structure Worker where
  number : ℕ
  job : ℕ
  startedAt : Instant
  timeLimit : Option ℕ

/-- The task is still within its time limit. -/
def Worker.within (now : Instant) (w : Worker) : Bool :=
  match w.timeLimit with
  | some limit => decide (now ≤ w.startedAt + limit)
  | none => true

/-- `SYNC_TASK_TIME_LIMIT`, in microseconds. -/
def syncTaskTimeLimit : ℕ := 660 * 1000000

/-- `STALE_SYNC_JOB_THRESHOLD`, in microseconds. -/
def staleSyncJobThreshold : ℕ := 20 * 60 * 1000000

/-- The sessions of the tasks and those of the reaper's passes are different ones. -/
def workerSession (number : ℕ) : ℕ := 2 * number

def passSession (pass : ℕ) : ℕ := 2 * pass + 1

/-- A call of `start_sync` that has found no active job. -/
structure Start where
  integrationId : UUID
  entityType : String
  syncType : SyncType

/-- The jobs by number, the tasks that are alive, the calls of `start_sync` before their insert,
how many tasks there have been, and the cutoff of each pass of the reaper. -/
structure JobsWorld where
  now : Instant := 0
  jobs : List Job := []
  workers : List Worker := []
  starts : List Start := []
  deliveries : ℕ := 0
  passes : List Instant := []
  unique : OneActive jobs

/-- Time passes, or someone takes a step: `start_sync` looks or inserts, a task picks up a job
(`sync.execute` and `sync.run` have a time limit, `sync.retry_failed` has none), works on it, ends
or is killed, the reaper looks or writes. -/
inductive JobsEvent where
  | elapse (time : ℕ)
  | check (start : Start)
  | insert (place : ℕ)
  | deliver (job : ℕ) (limited : Bool)
  | recordProgress (number received created updated failed : ℕ)
  | recordError (number : ℕ)
  | rollback (number : ℕ)
  | finish (number : ℕ) (success : Bool)
  | die (number : ℕ)
  | lookRunning
  | lookQueued (pass : ℕ)
  | reapRecordError (pass job : ℕ)
  | reapComplete (pass job : ℕ)

namespace JobsWorld

/-- No jobs and no tasks. -/
def empty : JobsWorld := { unique := List.Pairwise.nil }

/-- `get_active_for_entity`; there is at most one. -/
def getActiveForEntity (s : JobsWorld) (integrationId : UUID) (entityType : String) : Option Job :=
  s.jobs.find? fun j => j.active && j.key == (integrationId, entityType)

/-- The look of `start_sync`. -/
def checkStart (s : JobsWorld) (start : Start) : Except OMSError Unit :=
  match s.getActiveForEntity start.integrationId start.entityType with
  | some existing =>
    .error (.conflict ("A " ++ start.entityType ++ " sync is already " ++
      statusValue existing.status ++ " for this integration."))
  | none => .ok ()

/-- The commit of some changed rows; `IntegrityError` leaves them as they were. -/
def commit (s : JobsWorld) (jobs : List Job) : JobsWorld :=
  if h : OneActive jobs then { s with jobs := jobs, unique := h } else s

/-- A call on one job. -/
def writeJob (s : JobsWorld) (job session : ℕ) (e : JobEvent) : JobsWorld :=
  s.commit (s.jobs.modify job (Job.write s.now session e))

/-- A task by its number. -/
def worker (s : JobsWorld) (number : ℕ) : Option Worker :=
  s.workers.find? fun w => w.number == number

/-- A call of a task on its job. -/
def workerCall (s : JobsWorld) (number : ℕ) (e : ℕ → JobEvent) : JobsWorld :=
  match s.worker number with
  | some w => s.writeJob w.job (workerSession number) (e (workerSession number))
  | none => s

/-- A task is over. -/
def without (s : JobsWorld) (number : ℕ) : JobsWorld :=
  { s with workers := s.workers.filter fun w => w.number != number }

/-- The task that picks up a job now. -/
def pickUp (s : JobsWorld) (job : ℕ) (limited : Bool) : Worker where
  number := s.deliveries
  job := job
  startedAt := s.now
  timeLimit := if limited then some syncTaskTimeLimit else none

/-- A query of a pass: the stale jobs are loaded into its session. -/
def reapLook (s : JobsWorld) (pass : ℕ) (stale : Job → Bool) : List Job :=
  s.jobs.map fun j => if stale j then j.select (passSession pass) else j

/-- `get_stale_running`. -/
def staleRunning (cutoff : Instant) (j : Job) : Bool :=
  j.status == .running && decide (j.updatedAt < cutoff)

/-- `get_stale_queued`. -/
def staleQueued (cutoff : Instant) (j : Job) : Bool :=
  j.status == .queued && decide (j.createdAt < cutoff)

/-- One event. -/
def step (s : JobsWorld) : JobsEvent → JobsWorld
  | .elapse time =>
    { s with
      now := s.now + time
      workers := s.workers.filter (Worker.within (s.now + time)) }
  | .check start =>
    match s.checkStart start with
    | .ok () => { s with starts := s.starts ++ [start] }
    | .error _ => s
  | .insert place =>
    match s.starts[place]? with
    | none => s
    | some start =>
      -- the index refuses what the look has missed
      ({ s with starts := s.starts.eraseIdx place } : JobsWorld).commit (s.jobs ++
        [{ integrationId := start.integrationId, entityType := start.entityType,
           createdAt := s.now, updatedAt := s.now,
           world := { row := { syncType := start.syncType, status := .queued } } }])
  | .deliver job limited =>
    let jobs := s.jobs.modify job (Job.markRunning s.now (workerSession s.deliveries))
    if h : job < s.jobs.length ∧ OneActive jobs then
      { s with
        jobs := jobs
        workers := s.workers ++ [s.pickUp job limited]
        deliveries := s.deliveries + 1
        unique := h.2 }
    else { s with deliveries := s.deliveries + 1 }
  | .recordProgress number received created updated failed =>
    s.workerCall number fun session => .recordProgress session received created updated failed
  | .recordError number => s.workerCall number .recordError
  | .rollback number => s.workerCall number .rollback
  | .finish number success =>
    (s.workerCall number fun session => .completeSync session success s.now).without number
  | .die number => s.without number
  | .lookRunning =>
    let cutoff := s.now - staleSyncJobThreshold
    ({ s with passes := s.passes ++ [cutoff] } : JobsWorld).commit
      (s.reapLook s.passes.length (staleRunning cutoff))
  | .lookQueued pass =>
    match s.passes[pass]? with
    | some cutoff => s.commit (s.reapLook pass (staleQueued cutoff))
    | none => s
  | .reapRecordError pass job =>
    s.writeJob job (passSession pass) (.reapRecordError (passSession pass))
  | .reapComplete pass job =>
    let s' := s.writeJob job (passSession pass) (.reapComplete (passSession pass) s.now)
    s'.commit (s'.jobs.modify job (Job.deselect (passSession pass)))

/-- The state after a run. -/
def after (s : JobsWorld) (es : List JobsEvent) : JobsWorld := run step s es

end JobsWorld

end AyushOms.Sync
