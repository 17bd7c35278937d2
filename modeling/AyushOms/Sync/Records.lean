import AyushOms.Lib.UnitOfWork
import AyushOms.Sync.Crawl
import AyushOms.Sync.JobStatus

/-!
# The Records of a Sync Run

`execute_sync` with its loops and its session. Each record of a page is normalized and upserted by
the handler of the entity type, and one that raises is rolled back and recorded as an error. The
counters of a page are recorded at its end, with the commit that stores what the handlers have
left uncommitted.

## Main results

- `runEntitySync_run`: the run is the course of its pages
- `courseOfTurns_erase`: a failing record might as well have been absent from its page
- `executeSync_erase`: nor might it make a difference to what a finished run stores
- `execute_sync_iff`: the counters and the status, and when failing records leave no trace
- `isolated_of_commits`: handlers that commit their own work
-/

namespace AyushOms.Sync

open AyushOms.Lib AyushOms.Lib.Proc UnitOfWork

variable {δ κ : Type}

/-! ## Section 1: The run -/

/-- The rows a sync writes: those of the entity, the job, and the entity's `sync_cursors` and
`backlog_complete` entries. -/
structure SyncDB (δ κ : Type) where
  data : δ
  job : SyncJob
  cursor : Option κ := none
  backlogComplete : Option Bool := none

abbrev SyncProc (δ κ α : Type) := UnitOfWork (SyncDB δ κ) PyException α

/-- A record of a page: what normalizing it and calling the handler does to the entity's rows, and
what recording its error may raise. The value tells whether a row was created. -/
structure SyncRecord (δ : Type) where
  upsert : UnitOfWork δ PyException Bool
  errorFault : Option PyException := none

/-- A page of the provider. -/
structure SyncPage (δ κ : Type) where
  nodes : List (SyncRecord δ)
  nextCursor : Option κ
  hasMore : Bool

/-- What a fetch raises: an `IntegrationError` with its `error_type`, or something else. -/
inductive FetchError where
  | integration (errorType message : String)
  | other (e : PyException)

def FetchError.raised : FetchError → PyException
  | .integration _ message => .oms (.integration message)
  | .other e => e

def FetchError.isValidation : FetchError → Bool
  | .integration errorType _ => errorType == "validation_error"
  | .other _ => false

/-- What a turn of the loop meets: the answers of the provider, the deadline, and what the
statements outside the records raise. -/
structure SyncTurn (δ κ : Type) where
  fetch : Except FetchError (SyncPage δ κ)
  /-- the answer to a second fetch, after a stale cursor was reset -/
  refetch : Except FetchError (SyncPage δ κ) := .error (.other (.other "not fetched"))
  deadlineReached : Bool := false
  resetFault : Option PyException := none
  progressFault : Option PyException := none
  cursorFault : Option PyException := none
  completeFault : Option PyException := none

/-- The handler works on the entity's rows; its commits store what the session sees. -/
def onData {α : Type} (p : UnitOfWork δ PyException α) : SyncProc δ κ α := fun seen stored =>
  ((p seen.data stored.data).lift fun data => { seen with data := data }).mapResult
    fun r => (r.1, { seen with data := r.2 })

/-- A call of the service that updates rows and commits, unless one of its statements raises. -/
def updateRows (fault : Option PyException) (f : SyncDB δ κ → SyncDB δ κ) :
    SyncProc δ κ PUnit :=
  match fault with
  | some e => raise e
  | none => do
    flush f
    commit

/-- `record_error`. -/
def recordError (fault : Option PyException) : SyncProc δ κ PUnit :=
  updateRows fault fun db =>
    { db with job := { db.job with errorCount := db.job.errorCount + 1 } }

/-- `record_progress`. -/
def recordProgress (fault : Option PyException) (received : ℕ) (counts : PageCounts) :
    SyncProc δ κ PUnit :=
  updateRows fault fun db => { db with job := CrawlWorld.recordProgress db.job received counts }

/-- `_persist_sync_cursor`. -/
def persistSyncCursor (fault : Option PyException) (cursor : Option κ) : SyncProc δ κ PUnit :=
  updateRows fault fun db => { db with cursor := cursor }

/-- `_mark_backlog_complete`. -/
def markBacklogComplete (fault : Option PyException) : SyncProc δ κ PUnit :=
  updateRows fault fun db => { db with backlogComplete := some true }

/-- One record: the three `except` clauses differ in the `error_type` they record. -/
def processRecord (counts : PageCounts) (r : SyncRecord δ) : SyncProc δ κ PageCounts :=
  tryCatch
    (do
      let created ← onData r.upsert
      pure (counts.add (if created then .created else .updated)))
    fun _ => do
      rollback
      recordError r.errorFault
      pure (counts.add .failed)

/-- The loop over the records of a page. -/
def processRecords : List (SyncRecord δ) → PageCounts → SyncProc δ κ PageCounts
  | [], counts => pure counts
  | r :: rest, counts => do
    let counts ← processRecord counts r
    processRecords rest counts

/-- The records of a page, and their counters. -/
def processPage (turn : SyncTurn δ κ) (page : SyncPage δ κ) : SyncProc δ κ PUnit := do
  let counts ← processRecords page.nodes {}
  recordProgress turn.progressFault page.nodes.length counts

/-- The fetch of a turn. A rejected first page with a cursor in play is a stale resume point. -/
def fetchPage (turn : SyncTurn δ κ) (cursor : Option κ) (isFirstPage : Bool) :
    SyncProc δ κ (SyncPage δ κ) :=
  match turn.fetch with
  | .ok page => pure page
  | .error e =>
    if isFirstPage && cursor.isSome && e.isValidation then do
      persistSyncCursor turn.resetFault none
      match turn.refetch with
      | .ok page => pure page
      | .error e => raise e.raised
    else raise e.raised

/-- What a turn persists of the crawl: in incremental mode nothing. -/
def persistCrawl (incremental : Bool) (turn : SyncTurn δ κ) (page : SyncPage δ κ) :
    SyncProc δ κ PUnit :=
  if incremental then pure ⟨⟩
  else if page.hasMore then persistSyncCursor turn.cursorFault page.nextCursor
  else do
    persistSyncCursor turn.cursorFault none
    markBacklogComplete turn.completeFault

/-- `_run_entity_sync`: whether it has come to its end within the given turns. -/
def runEntitySync (incremental : Bool) :
    List (SyncTurn δ κ) → Option κ → Bool → SyncProc δ κ Bool
  | [], _, _ => pure false
  | turn :: rest, cursor, isFirstPage => do
    let page ← fetchPage turn cursor isFirstPage
    processPage turn page
    persistCrawl incremental turn page
    if page.hasMore && !turn.deadlineReached then
      runEntitySync incremental rest page.nextCursor false
    else pure true

/-- What a run of a job meets. -/
structure SyncRun (δ κ : Type) where
  syncType : SyncType
  /-- whether the integration has an adapter and the entity type a handler -/
  registered : Bool := true
  incremental : Bool := false
  turns : List (SyncTurn δ κ)
  now : Instant := 0
  /-- what the calls before and after the loop raise -/
  startFault : Option PyException := none
  errorFault : Option PyException := none
  completeFault : Option PyException := none

/-- `mark_running`. -/
def markRunning (fault : Option PyException) : SyncProc δ κ PUnit :=
  updateRows fault fun db => { db with job := { db.job with status := .running } }

/-- The job as `complete_sync` leaves it. -/
def completedJob (job : SyncJob) (success : Bool) (now : Instant) : SyncJob :=
  { job with
    status := JobWorld.finalStatus { toSyncJob := job } success
    completedAt := some now }

/-- `complete_sync`. -/
def completeSync (fault : Option PyException) (success : Bool) (now : Instant) :
    SyncProc δ κ SyncJob := do
  updateRows fault fun db => { db with job := completedJob db.job success now }
  memory fun seen => (.ok seen.job, seen)

/-- The part of `execute_sync` between the two, with its early returns: whether the run succeeded,
or nothing while the loop goes on. -/
def attemptSync (r : SyncRun δ κ) : SyncProc δ κ (Option Bool) :=
  if r.registered then do
    let cursor ← memory fun seen => (.ok (if r.incremental then none else seen.cursor), seen)
    tryCatch
      (do
        let finished ← runEntitySync r.incremental r.turns cursor true
        pure (if finished then some true else none))
      fun _ => do
        rollback
        recordError r.errorFault
        pure (some false)
  else do
    recordError r.errorFault
    pure (some false)

/-- `execute_sync`: the finished job, or nothing while the loop goes on. -/
def executeSync (r : SyncRun δ κ) : SyncProc δ κ (Option SyncJob) := do
  markRunning r.startFault
  match ← attemptSync r with
  | none => pure none
  | some success => some <$> completeSync r.completeFault success r.now

/-! ## Section 2: How a run goes -/

/-- The database with other rows of the entity. -/
def SyncDB.put (db : SyncDB δ κ) (data : δ) : SyncDB δ κ := { db with data := data }

/-- From a session on the entity's rows the procedure returns, and leaves another. -/
structure Returns {α : Type} (p : SyncProc δ κ α) (db : SyncDB δ κ) (s : Session δ) (a : α)
    (db' : SyncDB δ κ) (s' : Session δ) : Prop where
  result : (p (db.put s.seen) (db.put s.stored)).result = (.ok a, db'.put s'.seen)
  final : (p (db.put s.seen) (db.put s.stored)).final (db.put s.stored) = db'.put s'.stored

/-- It raises, with so much stored. -/
structure Raises {α : Type} (p : SyncProc δ κ α) (db : SyncDB δ κ) (s : Session δ)
    (db' : SyncDB δ κ) (stored : δ) : Prop where
  result : ∃ e, (p (db.put s.seen) (db.put s.stored)).result.1 = .error e
  final : (p (db.put s.seen) (db.put s.stored)).final (db.put s.stored) = db'.put stored

section Sequence

variable {α β : Type} {p : SyncProc δ κ α} {f : α → SyncProc δ κ β} {db db' db'' : SyncDB δ κ}
  {s s' s'' : Session δ} {a : α} {b : β} {stored : δ}

/-- What follows a procedure that returned. -/
theorem Returns.run_bind (hp : Returns p db s a db' s') (f : α → SyncProc δ κ β) :
    ((p >>= f) (db.put s.seen) (db.put s.stored)).result =
        (f a (db'.put s'.seen) (db'.put s'.stored)).result ∧
      ((p >>= f) (db.put s.seen) (db.put s.stored)).final (db.put s.stored) =
        (f a (db'.put s'.seen) (db'.put s'.stored)).final (db'.put s'.stored) := by
  obtain ⟨hresult, hfinal⟩ := bind_of_ok (f := f) hp.result
  rw [hp.final] at hresult hfinal
  exact ⟨hresult, hfinal⟩

theorem Returns.bind (hp : Returns p db s a db' s') (hf : Returns (f a) db' s' b db'' s'') :
    Returns (p >>= f) db s b db'' s'' :=
  ⟨(hp.run_bind f).1.trans hf.result, (hp.run_bind f).2.trans hf.final⟩

theorem Returns.bind_raises (hp : Returns p db s a db' s') (hf : Raises (f a) db' s' db'' stored) :
    Raises (p >>= f) db s db'' stored :=
  ⟨(hp.run_bind f).1 ▸ hf.result, (hp.run_bind f).2.trans hf.final⟩

theorem Raises.bind (hp : Raises p db s db' stored) (f : α → SyncProc δ κ β) :
    Raises (p >>= f) db s db' stored := by
  obtain ⟨e, he⟩ := hp.result
  obtain ⟨hresult, hfinal⟩ := bind_of_error (f := f) he
  exact ⟨⟨e, hresult⟩, hfinal.trans hp.final⟩

theorem Returns.tryCatch (hp : Returns p db s a db' s') (g : PyException → SyncProc δ κ α) :
    Returns (tryCatch p g) db s a db' s' := by
  constructor
  · rw [tryCatch_run, Staged.result_andThen, hp.result]
    rfl
  · rw [tryCatch_run, Staged.final_andThen, hp.result, ← hp.final]
    rfl

/-- What a handler does after its rollback it does from what is stored. -/
theorem Raises.tryCatch (hp : Raises p db s db' stored) (g : PyException → SyncProc δ κ α) :
    let caught : SyncProc δ κ α := MonadExcept.tryCatch p fun e => do
      rollback
      g e
    ∃ e, (caught (db.put s.seen) (db.put s.stored)).result =
        (g e (db'.put stored) (db'.put stored)).result ∧
      (caught (db.put s.seen) (db.put s.stored)).final (db.put s.stored) =
        (g e (db'.put stored) (db'.put stored)).final (db'.put stored) := by
  obtain ⟨e, he⟩ := hp.result
  refine ⟨e, ?_⟩
  rw [tryCatch_run, Staged.result_andThen, Staged.final_andThen, hp.final,
    ← Prod.eta (p (db.put s.seen) (db.put s.stored)).result, he]
  exact ⟨rfl, rfl⟩

theorem Raises.tryCatch_returns (hp : Raises p db s db' stored) {g : PyException → SyncProc δ κ α}
    (hg : ∀ e, Returns (g e) db' (.clean stored) a db'' s'') :
    Returns (MonadExcept.tryCatch p fun e => do
      rollback
      g e) db s a db'' s'' := by
  obtain ⟨e, hresult, hfinal⟩ := hp.tryCatch g
  exact ⟨hresult.trans (hg e).result, hfinal.trans (hg e).final⟩

theorem Raises.tryCatch_raises (hp : Raises p db s db' stored) {g : PyException → SyncProc δ κ α}
    {stored' : δ} (hg : ∀ e, Raises (g e) db' (.clean stored) db'' stored') :
    Raises (MonadExcept.tryCatch p fun e => do
      rollback
      g e) db s db'' stored' := by
  obtain ⟨e, hresult, hfinal⟩ := hp.tryCatch g
  exact ⟨hresult ▸ (hg e).result, hfinal.trans (hg e).final⟩

end Sequence

/-- An update that is committed stores all that the session sees. -/
theorem returns_updateRows {f : SyncDB δ κ → SyncDB δ κ} {db : SyncDB δ κ} {s : Session δ}
    (hf : f (db.put s.seen) = (f db).put s.seen) :
    Returns (updateRows none f) db s ⟨⟩ (f db) (.clean s.seen) :=
  ⟨congrArg (Prod.mk _) hf, hf⟩

theorem raises_updateRows (e : PyException) (f : SyncDB δ κ → SyncDB δ κ) (db : SyncDB δ κ)
    (s : Session δ) : Raises (updateRows (some e) f) db s db s.stored := ⟨⟨e, rfl⟩, rfl⟩

theorem onData_run {α : Type} (p : UnitOfWork δ PyException α) (db : SyncDB δ κ) (s : Session δ) :
    (onData p (db.put s.seen) (db.put s.stored)).result =
        ((p s.seen s.stored).result.1, db.put (p s.seen s.stored).result.2) ∧
      (onData p (db.put s.seen) (db.put s.stored)).final (db.put s.stored) =
        db.put ((p s.seen s.stored).final s.stored) := by
  unfold onData
  rw [Staged.result_mapResult, Staged.result_lift, Staged.final_mapResult]
  exact ⟨rfl, Staged.final_lift db.put (p s.seen s.stored) s.stored⟩

theorem returns_onData {α : Type} {p : UnitOfWork δ PyException α} (db : SyncDB δ κ)
    {s : Session δ} {a : α} {seen : δ} (h : (p s.seen s.stored).result = (.ok a, seen)) :
    Returns (onData p) db s a db (attempt p s) := by
  obtain ⟨hresult, hfinal⟩ := onData_run (κ := κ) p db s
  rw [h] at hresult
  rw [attempt_of_ok h]
  exact ⟨hresult, hfinal⟩

theorem raises_onData {α : Type} {p : UnitOfWork δ PyException α} (db : SyncDB δ κ)
    {s : Session δ} (h : Fails p s) : Raises (onData p) db s db (attempt p s).stored := by
  obtain ⟨hresult, hfinal⟩ := onData_run (κ := κ) p db s
  rw [attempt_of_fails h]
  obtain ⟨e, he⟩ := h
  exact ⟨⟨e, (congrArg Prod.fst hresult).trans he⟩, hfinal⟩

/-! ## Section 3: One record -/

/-- What became of a record. -/
def SyncRecord.outcome (r : SyncRecord δ) (s : Session δ) : RecordOutcome :=
  match (r.upsert s.seen s.stored).result.1 with
  | .ok true => .created
  | .ok false => .updated
  | .error _ => .failed

theorem SyncRecord.outcome_eq_failed_iff {r : SyncRecord δ} {s : Session δ} :
    r.outcome s = .failed ↔ Fails r.upsert s := by
  unfold outcome Fails
  cases (r.upsert s.seen s.stored).result.1 with
  | error e => exact iff_of_true rfl ⟨e, rfl⟩
  | ok created =>
    refine iff_of_false ?_ ?_
    · cases created <;> exact RecordOutcome.noConfusion
    · rintro ⟨e, he⟩
      cases he

/-- A record that fails, and whose error is not recorded either. -/
def SyncRecord.Unrecorded (r : SyncRecord δ) (s : Session δ) : Prop :=
  Fails r.upsert s ∧ r.errorFault.isSome = true

instance (r : SyncRecord δ) (s : Session δ) : Decidable (r.Unrecorded s) :=
  inferInstanceAs (Decidable (_ ∧ _))

/-- The job after so many more recorded errors. -/
def SyncDB.withErrors (db : SyncDB δ κ) (n : ℕ) : SyncDB δ κ :=
  { db with job := { db.job with errorCount := db.job.errorCount + n } }

theorem SyncDB.withErrors_withErrors (db : SyncDB δ κ) (m n : ℕ) :
    (db.withErrors m).withErrors n = db.withErrors (m + n) := by
  simp only [withErrors, Nat.add_assoc]

/-- A record that is upserted, or fails and has its error recorded. -/
theorem returns_processRecord (counts : PageCounts) {r : SyncRecord δ} (db : SyncDB δ κ)
    {s : Session δ} (h : ¬ r.Unrecorded s) :
    Returns (processRecord counts r) db s (counts.add (r.outcome s))
      (db.withErrors (if Fails r.upsert s then 1 else 0)) (attempt r.upsert s) := by
  by_cases hfails : Fails r.upsert s
  · have hrecorded : r.errorFault = none := by
      cases hfault : r.errorFault with
      | none => rfl
      | some _ => exact absurd ⟨hfails, by rw [hfault]; rfl⟩ h
    have hclean : attempt r.upsert s = .clean (attempt r.upsert s).stored := by
      rw [attempt_of_fails hfails]
      rfl
    rw [if_pos hfails, r.outcome_eq_failed_iff.mpr hfails, hclean]
    refine ((raises_onData db hfails).bind _).tryCatch_returns fun e => ?_
    rw [hrecorded]
    exact (returns_updateRows rfl).bind ⟨rfl, rfl⟩
  · cases hr : (r.upsert s.seen s.stored).result with
    | mk outcome seen =>
      cases outcome with
      | error e => exact absurd ⟨e, by rw [hr]⟩ hfails
      | ok created =>
        have houtcome : r.outcome s = if created then .created else .updated := by
          unfold SyncRecord.outcome
          rw [hr]
          cases created <;> rfl
        rw [if_neg hfails, houtcome]
        exact ((returns_onData db hr).bind ⟨rfl, rfl⟩).tryCatch _

/-- A record whose error is not recorded ends the loop. -/
theorem raises_processRecord (counts : PageCounts) {r : SyncRecord δ} (db : SyncDB δ κ)
    {s : Session δ} (h : r.Unrecorded s) :
    Raises (processRecord counts r) db s db (attempt r.upsert s).stored := by
  obtain ⟨hfails, hfault⟩ := h
  obtain ⟨e', he'⟩ := Option.isSome_iff_exists.mp hfault
  refine ((raises_onData db hfails).bind _).tryCatch_raises fun e => ?_
  rw [he']
  exact (raises_updateRows e' _ db _).bind _

/-! ## Section 4: One page -/

/-- The records of a page that are tried, and whether they are all of them: the loop ends at the
first whose error is not recorded. -/
def recordsTried : Session δ → List (SyncRecord δ) → List (SyncRecord δ) × Bool
  | _, [] => ([], true)
  | s, r :: rest =>
    if r.Unrecorded s then ([r], false)
    else
      let tried := recordsTried (attempt r.upsert s) rest
      (r :: tried.1, tried.2)

/-- What happens in the session. -/
abbrev SyncStep (δ : Type) := UnitOfWork.Step δ PyException Bool

/-- The records as steps of the session. -/
def itemsOf (records : List (SyncRecord δ)) : List (SyncStep δ) :=
  records.map fun r => .item r.upsert

theorem recordsTried_eq {s : Session δ} {nodes : List (SyncRecord δ)}
    (h : (recordsTried s nodes).2 = true) : (recordsTried s nodes).1 = nodes := by
  induction nodes generalizing s with
  | nil => rfl
  | cons r rest ih =>
    unfold recordsTried at h ⊢
    split at h
    · cases h
    · rename_i hrecorded
      rw [if_neg hrecorded]
      exact congrArg (r :: ·) (ih h)

/-- The records counted on a page. -/
def PageCounts.total (counts : PageCounts) : ℕ := counts.created + counts.updated + counts.failed

theorem PageCounts.total_add (counts : PageCounts) (outcome : RecordOutcome) :
    (counts.add outcome).total = counts.total + 1 := by
  cases outcome <;> simp only [add, total] <;> omega

/-- A page all of whose records are upserted or recorded as errors. -/
theorem returns_processRecords (nodes : List (SyncRecord δ)) (counts : PageCounts)
    (db : SyncDB δ κ) (s : Session δ) (h : (recordsTried s nodes).2 = true) :
    ∃ counts', counts'.total = counts.total + nodes.length ∧
      Returns (processRecords nodes counts) db s counts'
        (db.withErrors (failures s (itemsOf nodes))) (run after s (itemsOf nodes)) := by
  induction nodes generalizing counts db s with
  | nil => exact ⟨counts, rfl, rfl, rfl⟩
  | cons r rest ih =>
    unfold recordsTried at h
    split at h
    · cases h
    · rename_i hrecorded
      obtain ⟨counts', htotal, hrest⟩ := ih (counts.add (r.outcome s))
        (db.withErrors (if Fails r.upsert s then 1 else 0)) (attempt r.upsert s) h
      rw [SyncDB.withErrors_withErrors] at hrest
      refine ⟨counts', ?_, (returns_processRecord counts db hrecorded).bind hrest⟩
      rw [htotal, PageCounts.total_add, List.length_cons]
      omega

/-- A page that is given up at a record. -/
theorem raises_processRecords (nodes : List (SyncRecord δ)) (counts : PageCounts)
    (db : SyncDB δ κ) (s : Session δ) (h : (recordsTried s nodes).2 = false) :
    ∃ n, Raises (processRecords nodes counts) db s (db.withErrors n)
      (run after s (itemsOf (recordsTried s nodes).1)).stored := by
  induction nodes generalizing counts db s with
  | nil => cases h
  | cons r rest ih =>
    unfold recordsTried at h ⊢
    split at h
    · rename_i hunrecorded
      rw [if_pos hunrecorded]
      exact ⟨0, (raises_processRecord counts db hunrecorded).bind _⟩
    · rename_i hrecorded
      obtain ⟨n, hrest⟩ := ih (counts.add (r.outcome s))
        (db.withErrors (if Fails r.upsert s then 1 else 0)) (attempt r.upsert s) h
      rw [SyncDB.withErrors_withErrors] at hrest
      rw [if_neg hrecorded]
      exact ⟨_, (returns_processRecord counts db hrecorded).bind_raises hrest⟩

/-! ## Section 5: The course of a run -/

/-- How the loop ends: with an exception, at its last page or deadline, or not within the turns. -/
inductive RunEnd where
  | raised | finished | unfinished
  deriving DecidableEq

/-- What a run of the loop does in its session. -/
structure Course (δ : Type) where
  steps : List (SyncStep δ)
  ending : RunEnd

/-- The page a turn gets from the provider. -/
def SyncTurn.page (turn : SyncTurn δ κ) (cursor : Option κ) (isFirstPage : Bool) :
    Option (SyncPage δ κ) :=
  match turn.fetch with
  | .ok page => some page
  | .error e =>
    if isFirstPage && cursor.isSome && e.isValidation && turn.resetFault.isNone then
      turn.refetch.toOption
    else none

/-- Whether a turn can persist the crawl. -/
def SyncTurn.persists (incremental : Bool) (turn : SyncTurn δ κ) (page : SyncPage δ κ) : Bool :=
  incremental || turn.cursorFault.isNone && (page.hasMore || turn.completeFault.isNone)

/-- The steps of a page that is counted. -/
def pageSteps (page : SyncPage δ κ) : List (SyncStep δ) := itemsOf page.nodes ++ [.commit]

/-- The records of a page, then the commit of its counters, then the next page. -/
def courseOfTurns (incremental : Bool) :
    List (SyncTurn δ κ) → Option κ → Bool → δ → Course δ
  | [], _, _, _ => ⟨[], .unfinished⟩
  | turn :: rest, cursor, isFirstPage, data =>
    match turn.page cursor isFirstPage with
    | none => ⟨[], .raised⟩
    | some page =>
      let tried := recordsTried (.clean data) page.nodes
      if tried.2 && turn.progressFault.isNone then
        let next :=
          if turn.persists incremental page then
            if page.hasMore && !turn.deadlineReached then
              courseOfTurns incremental rest page.nextCursor false
                (run after (.clean data) (pageSteps page)).seen
            else ⟨[], .finished⟩
          else ⟨[], .raised⟩
        ⟨pageSteps page ++ next.steps, next.ending⟩
      else ⟨itemsOf tried.1, .raised⟩

/-- The course after a page that was counted. -/
def courseAfter (incremental : Bool) (turn : SyncTurn δ κ) (rest : List (SyncTurn δ κ))
    (page : SyncPage δ κ) (data : δ) : Course δ :=
  if turn.persists incremental page then
    if page.hasMore && !turn.deadlineReached then
      courseOfTurns incremental rest page.nextCursor false data
    else ⟨[], .finished⟩
  else ⟨[], .raised⟩

section Turn

variable {incremental : Bool} {turn : SyncTurn δ κ} {rest : List (SyncTurn δ κ)}
  {cursor : Option κ} {isFirstPage : Bool} {page : SyncPage δ κ} {data : δ}

theorem courseOfTurns_counted (hpage : turn.page cursor isFirstPage = some page)
    (h : ((recordsTried (.clean data) page.nodes).2 && turn.progressFault.isNone) = true) :
    let next := courseAfter incremental turn rest page
      (run after (.clean data) (pageSteps page)).seen
    courseOfTurns incremental (turn :: rest) cursor isFirstPage data =
      ⟨pageSteps page ++ next.steps, next.ending⟩ := by
  rw [courseOfTurns, hpage]
  exact if_pos h

theorem courseOfTurns_givenUp (hpage : turn.page cursor isFirstPage = some page)
    (h : ¬ ((recordsTried (.clean data) page.nodes).2 && turn.progressFault.isNone) = true) :
    courseOfTurns incremental (turn :: rest) cursor isFirstPage data =
      ⟨itemsOf (recordsTried (.clean data) page.nodes).1, .raised⟩ := by
  rw [courseOfTurns, hpage]
  exact if_neg h

end Turn

theorem run_pageSteps (data : δ) (page : SyncPage δ κ) :
    run after (.clean data) (pageSteps page) =
      .clean (run after (.clean data) (pageSteps page)).seen := by
  unfold pageSteps
  rw [run_append]
  rfl

/-- A loop that returns leaves nothing uncommitted. -/
theorem courseOfTurns_clean (incremental : Bool) (turns : List (SyncTurn δ κ)) (cursor : Option κ)
    (isFirstPage : Bool) (data : δ)
    (h : (courseOfTurns incremental turns cursor isFirstPage data).ending ≠ .raised) :
    let course := courseOfTurns incremental turns cursor isFirstPage data
    let s' := run after (.clean data) course.steps
    s'.seen = s'.stored := by
  induction turns generalizing cursor isFirstPage data with
  | nil => rfl
  | cons turn rest ih =>
    cases hturn : turn.page cursor isFirstPage with
    | none => simp [courseOfTurns, hturn] at h
    | some page =>
      by_cases hcounted :
          ((recordsTried (.clean data) page.nodes).2 && turn.progressFault.isNone) = true
      · rw [courseOfTurns_counted hturn hcounted] at h ⊢
        dsimp only at h ⊢
        rw [run_append, run_pageSteps]
        unfold courseAfter at h ⊢
        split
        · split
          · rename_i hpersists hmore
            rw [if_pos hpersists, if_pos hmore] at h
            exact ih _ _ _ h
          · rfl
        · rfl
      · rw [courseOfTurns_givenUp hturn hcounted] at h
        exact absurd rfl h

/-- The counters of a job add up. -/
def SyncJob.AddsUp (job : SyncJob) : Prop :=
  job.recordsReceived = job.recordsCreated + job.recordsUpdated + job.recordsFailed

theorem fetchPage_run (turn : SyncTurn δ κ) (cursor : Option κ) (isFirstPage : Bool)
    (db : SyncDB δ κ) (data : δ) :
    ∃ db' : SyncDB δ κ, db'.job = db.job ∧
      match turn.page cursor isFirstPage with
      | some page =>
        Returns (fetchPage turn cursor isFirstPage) db (.clean data) page db' (.clean data)
      | none => Raises (fetchPage turn cursor isFirstPage) db (.clean data) db' data := by
  unfold fetchPage SyncTurn.page
  cases turn.fetch with
  | ok page => exact ⟨db, rfl, rfl, rfl⟩
  | error e =>
    dsimp only
    cases hstale : isFirstPage && cursor.isSome && e.isValidation with
    | false => exact ⟨db, rfl, ⟨e.raised, rfl⟩, rfl⟩
    | true =>
      cases turn.resetFault with
      | some e' => exact ⟨db, rfl, (raises_updateRows e' _ db _).bind _⟩
      | none =>
        refine ⟨{ db with cursor := none }, rfl, ?_⟩
        cases turn.refetch with
        | ok page => exact (returns_updateRows rfl).bind ⟨rfl, rfl⟩
        | error e' => exact (returns_updateRows rfl).bind_raises ⟨⟨e'.raised, rfl⟩, rfl⟩

theorem persistCrawl_run (incremental : Bool) (turn : SyncTurn δ κ) (page : SyncPage δ κ)
    (db : SyncDB δ κ) (data : δ) :
    ∃ db' : SyncDB δ κ, db'.job = db.job ∧
      if turn.persists incremental page then
        Returns (persistCrawl incremental turn page) db (.clean data) ⟨⟩ db' (.clean data)
      else Raises (persistCrawl incremental turn page) db (.clean data) db' data := by
  unfold persistCrawl SyncTurn.persists
  cases incremental with
  | true => exact ⟨db, rfl, rfl, rfl⟩
  | false =>
    cases turn.cursorFault with
    | some e =>
      refine ⟨db, rfl, ?_⟩
      cases page.hasMore with
      | true =>
        change Raises (persistSyncCursor (some e) page.nextCursor) db _ db data
        exact raises_updateRows e _ db _
      | false =>
        refine Raises.bind ?_ _
        exact raises_updateRows e _ db _
    | none =>
      cases page.hasMore with
      | true => exact ⟨{ db with cursor := page.nextCursor }, rfl, returns_updateRows rfl⟩
      | false =>
        cases turn.completeFault with
        | some e =>
          refine ⟨{ db with cursor := none }, rfl, (returns_updateRows rfl).bind_raises ?_⟩
          unfold markBacklogComplete
          exact raises_updateRows e _ _ _
        | none =>
          exact ⟨{ db with cursor := none, backlogComplete := some true }, rfl,
            (returns_updateRows rfl).bind (returns_updateRows rfl)⟩

theorem addsUp_withErrors {db : SyncDB δ κ} (h : db.job.AddsUp) (n : ℕ) :
    (db.withErrors n).job.AddsUp := h

theorem SyncJob.AddsUp.recordProgress {job : SyncJob} (h : job.AddsUp) {received : ℕ}
    {counts : PageCounts} (hcounts : counts.total = received) :
    (CrawlWorld.recordProgress job received counts).AddsUp := by
  unfold AddsUp PageCounts.total at *
  simp only [CrawlWorld.recordProgress]
  omega

/-- A page is counted, with its failing records as errors, or given up. -/
theorem processPage_run (turn : SyncTurn δ κ) (page : SyncPage δ κ) (db : SyncDB δ κ) (data : δ) :
    let tried := recordsTried (.clean data) page.nodes
    ∃ db' : SyncDB δ κ, (db.job.AddsUp → db'.job.AddsUp) ∧
      if tried.2 && turn.progressFault.isNone then
        Returns (processPage turn page) db (.clean data) ⟨⟩ db'
          (run after (.clean data) (pageSteps page)) ∧
        db'.job.errorCount = db.job.errorCount + failures (.clean data) (pageSteps page)
      else Raises (processPage turn page) db (.clean data) db'
        (run after (.clean data) (itemsOf tried.1)).stored := by
  intro tried
  unfold processPage
  cases htried : tried.2 with
  | false =>
    obtain ⟨n, hraises⟩ := raises_processRecords page.nodes {} db (.clean data) htried
    exact ⟨db.withErrors n, fun h => addsUp_withErrors h n, hraises.bind _⟩
  | true =>
    obtain ⟨counts, htotal, hrecords⟩ :=
      returns_processRecords page.nodes {} db (.clean data) htried
    cases turn.progressFault with
    | some e =>
      have hall : tried.1 = page.nodes := recordsTried_eq htried
      rw [hall]
      refine ⟨db.withErrors (failures (.clean data) (itemsOf page.nodes)),
        fun h => addsUp_withErrors h _, hrecords.bind_raises ?_⟩
      exact raises_updateRows e _ _ _
    | none =>
      -- the counters are committed, and with them what the records have left uncommitted
      have hcommit : run after (.clean data) (pageSteps page) =
          .clean (run after (.clean data) (itemsOf page.nodes)).seen := run_append ..
      have hfailures : failures (.clean data) (pageSteps page) =
          failures (.clean data) (itemsOf page.nodes) := failures_append ..
      rw [hcommit, hfailures]
      have hadds : db.job.AddsUp → (CrawlWorld.recordProgress
          (db.withErrors (failures (.clean data) (itemsOf page.nodes))).job
          page.nodes.length counts).AddsUp := fun h =>
        (addsUp_withErrors h _).recordProgress (htotal.trans (Nat.zero_add _))
      exact ⟨_, hadds, hrecords.bind (returns_updateRows rfl), rfl⟩

/-- The loop is the course of its pages: what it stores, how it ends, and that it keeps the
counters. -/
theorem runEntitySync_run (incremental : Bool) (turns : List (SyncTurn δ κ)) (cursor : Option κ)
    (isFirstPage : Bool) (db : SyncDB δ κ) (data : δ) :
    let course := courseOfTurns incremental turns cursor isFirstPage data
    let s' := run after (.clean data) course.steps
    ∃ db' : SyncDB δ κ, (db.job.AddsUp → db'.job.AddsUp) ∧
      if course.ending = .raised then
        Raises (runEntitySync incremental turns cursor isFirstPage) db (.clean data) db' s'.stored
      else
        Returns (runEntitySync incremental turns cursor isFirstPage) db (.clean data)
          (course.ending == .finished) db' s' ∧
        db'.job.errorCount = db.job.errorCount + failures (.clean data) course.steps := by
  induction turns generalizing cursor isFirstPage db data with
  | nil => exact ⟨db, id, ⟨rfl, rfl⟩, rfl⟩
  | cons turn rest ih =>
    rw [courseOfTurns, runEntitySync]
    obtain ⟨db₁, hjob₁, hfetch⟩ := fetchPage_run turn cursor isFirstPage db data
    cases hturn : turn.page cursor isFirstPage with
    | none =>
      rw [hturn] at hfetch
      exact ⟨db₁, fun h => hjob₁ ▸ h, hfetch.bind _⟩
    | some page =>
      rw [hturn] at hfetch
      obtain ⟨db₂, hadds₂, hpage⟩ := processPage_run turn page db₁ data
      dsimp only
      split at hpage
      · rename_i hcounted
        obtain ⟨hpage, herrors⟩ := hpage
        rw [if_pos hcounted]
        dsimp only
        rw [run_append, failures_append]
        -- the page leaves a clean session
        have hclean := run_pageSteps data page
        generalize (run after (.clean data) (pageSteps page)).seen = data' at hclean ⊢
        rw [hclean] at hpage ⊢
        obtain ⟨db₃, hjob₃, hpersist⟩ := persistCrawl_run incremental turn page db₂ data'
        have hadds : db.job.AddsUp → db₃.job.AddsUp := fun h => hjob₃ ▸ hadds₂ (hjob₁ ▸ h)
        rw [← hjob₃, hjob₁] at herrors
        cases hpersists : turn.persists incremental page with
        | false =>
          rw [hpersists] at hpersist
          exact ⟨db₃, hadds, hfetch.bind_raises (hpage.bind_raises (Raises.bind hpersist _))⟩
        | true =>
          rw [hpersists] at hpersist
          cases hnext : page.hasMore && !turn.deadlineReached with
          | false =>
            refine ⟨db₃, hadds, hfetch.bind (hpage.bind (Returns.bind hpersist ?_)), herrors⟩
            rw [hnext]
            exact ⟨rfl, rfl⟩
          | true =>
            obtain ⟨db₄, hadds₄, hrest⟩ := ih page.nextCursor false db₃ data'
            refine ⟨db₄, fun h => hadds₄ (hadds h), ?_⟩
            split at hrest
            · rename_i hraised
              rw [if_pos rfl, if_pos rfl, if_pos hraised]
              refine hfetch.bind_raises (hpage.bind_raises (Returns.bind_raises hpersist ?_))
              rw [hnext]
              exact hrest
            · rename_i hreturned
              obtain ⟨hrest, herrors₄⟩ := hrest
              rw [if_pos rfl, if_pos rfl, if_neg hreturned]
              refine ⟨hfetch.bind (hpage.bind (Returns.bind hpersist ?_)), ?_⟩
              · rw [hnext]
                exact hrest
              · rw [herrors₄, herrors, Nat.add_assoc]
      · rename_i hgivenUp
        rw [if_neg hgivenUp]
        exact ⟨db₂, fun h => hadds₂ (hjob₁ ▸ h), hfetch.bind_raises (hpage.bind _)⟩

/-! ## Section 6: A record that is absent -/

/-- The page without its `n`-th record. -/
def SyncPage.eraseRecord (page : SyncPage δ κ) (n : ℕ) : SyncPage δ κ :=
  { page with nodes := page.nodes.eraseIdx n }

/-- The turn in which the provider does not have the record. -/
def SyncTurn.eraseRecord (n : ℕ) (turn : SyncTurn δ κ) : SyncTurn δ κ :=
  { turn with
    fetch := turn.fetch.map (·.eraseRecord n)
    refetch := turn.refetch.map (·.eraseRecord n) }

theorem page_eraseRecord (turn : SyncTurn δ κ) (n : ℕ) (cursor : Option κ) (isFirstPage : Bool) :
    (turn.eraseRecord n).page cursor isFirstPage =
      (turn.page cursor isFirstPage).map (·.eraseRecord n) := by
  unfold SyncTurn.page SyncTurn.eraseRecord
  cases turn.fetch with
  | ok page => rfl
  | error e =>
    dsimp only [Except.map]
    split
    · cases turn.refetch <;> rfl
    · rfl

/-- A record that leaves no trace might as well be absent, unless the loop ends at it. -/
theorem recordsTried_erase {s : Session δ} {nodes : List (SyncRecord δ)}
    {pre post : List (SyncStep δ)} {p : UnitOfWork δ PyException Bool}
    (h : itemsOf (recordsTried s nodes).1 = pre ++ .item p :: post)
    (htrace : attempt p (run after s pre) = run after s pre) :
    post = [] ∧ (recordsTried s nodes).2 = false ∨
      ∃ n, itemsOf (recordsTried s (nodes.eraseIdx n)).1 = pre ++ post ∧
        (recordsTried s (nodes.eraseIdx n)).2 = (recordsTried s nodes).2 := by
  induction nodes generalizing s pre with
  | nil => simp [recordsTried, itemsOf] at h
  | cons r rest ih =>
    by_cases hrecorded : r.Unrecorded s
    · have htried : recordsTried s (r :: rest) = ([r], false) := by
        rw [recordsTried, if_pos hrecorded]
      rw [htried] at h ⊢
      cases pre with
      | nil => exact .inl ⟨(List.cons.inj h).2.symm, rfl⟩
      | cons step pre => simp [itemsOf] at h
    · have htried : recordsTried s (r :: rest) =
          (r :: (recordsTried (attempt r.upsert s) rest).1,
            (recordsTried (attempt r.upsert s) rest).2) := by
        rw [recordsTried, if_neg hrecorded]
      rw [htried] at h ⊢
      cases pre with
      | nil =>
        obtain ⟨hitem, hpost⟩ := List.cons.inj h
        obtain rfl : r.upsert = p := Step.item.inj hitem
        have hstay : attempt r.upsert s = s := htrace
        rw [hstay] at hpost ⊢
        exact .inr ⟨0, hpost, rfl⟩
      | cons step pre =>
        obtain ⟨rfl, hrest⟩ := List.cons.inj h
        obtain ⟨hpost, hlast⟩ | ⟨n, hsteps, hall⟩ := ih hrest htrace
        · exact .inl ⟨hpost, hlast⟩
        · refine .inr ⟨n + 1, ?_⟩
          rw [List.eraseIdx_cons_succ, recordsTried, if_neg hrecorded]
          exact ⟨congrArg (_ :: ·) hsteps, hall⟩

/-- A page without a record that leaves no trace: the loop goes on with the next page from the
same data. -/
theorem pageSteps_erase {page : SyncPage δ κ} {data : δ} {pre post : List (SyncStep δ)}
    {p : UnitOfWork δ PyException Bool} (hall : (recordsTried (.clean data) page.nodes).2 = true)
    (hnodes : itemsOf page.nodes = pre ++ .item p :: post)
    (htrace : attempt p (run after (.clean data) pre) = run after (.clean data) pre) :
    ∃ n, (recordsTried (.clean data) (page.eraseRecord n).nodes).2 = true ∧
      pageSteps (page.eraseRecord n) = pre ++ (post ++ [.commit]) ∧
      run after (.clean data) (pageSteps (page.eraseRecord n)) =
        run after (.clean data) (pageSteps page) := by
  have htried := congrArg itemsOf (recordsTried_eq hall)
  obtain ⟨-, hlast⟩ | ⟨n, hsteps, hall'⟩ := recordsTried_erase (htried.trans hnodes) htrace
  · rw [hall] at hlast
    cases hlast
  · rw [recordsTried_eq (hall'.trans hall)] at hsteps
    have hpage : pageSteps (page.eraseRecord n) = pre ++ (post ++ [.commit]) := by
      rw [pageSteps, SyncPage.eraseRecord, hsteps, List.append_assoc]
    refine ⟨n, hall'.trans hall, hpage, ?_⟩
    rw [hpage, pageSteps, hnodes, List.append_assoc, run_append after _ pre,
      run_append after _ pre]
    exact congrArg (run after · (post ++ [.commit])) htrace.symm

/-- So might a record of a run. -/
theorem courseOfTurns_erase (incremental : Bool) {turns : List (SyncTurn δ κ)} {cursor : Option κ}
    {isFirstPage : Bool} {data : δ} {pre post : List (SyncStep δ)}
    {p : UnitOfWork δ PyException Bool}
    (h : (courseOfTurns incremental turns cursor isFirstPage data).steps = pre ++ .item p :: post)
    (htrace : attempt p (run after (.clean data) pre) = run after (.clean data) pre) :
    post = [] ∧ (courseOfTurns incremental turns cursor isFirstPage data).ending = .raised ∨
      ∃ i n, courseOfTurns incremental (turns.modify i (·.eraseRecord n)) cursor isFirstPage data =
        ⟨pre ++ post, (courseOfTurns incremental turns cursor isFirstPage data).ending⟩ := by
  -- over the turns: the session the next page starts with is clean, so `ih` applies to it
  induction turns generalizing cursor isFirstPage data pre with
  | nil => simp [courseOfTurns] at h
  | cons turn rest ih =>
    cases hturn : turn.page cursor isFirstPage with
    | none => simp [courseOfTurns, hturn] at h
    | some page =>
      have hpage : ∀ n, (turn.eraseRecord n).page cursor isFirstPage =
          some (page.eraseRecord n) := fun n => by rw [page_eraseRecord, hturn]; rfl
      by_cases hcounted :
          ((recordsTried (.clean data) page.nodes).2 && turn.progressFault.isNone) = true
      · obtain ⟨hall, hprogress⟩ := Bool.and_eq_true_iff.mp hcounted
        rw [courseOfTurns_counted hturn hcounted] at h ⊢
        dsimp only at h ⊢
        generalize hdata' : (run after (.clean data) (pageSteps page)).seen = data' at h ⊢
        have hcommit : run after (.clean data) (pageSteps page) = .clean data' :=
          hdata' ▸ run_pageSteps data page
        rw [pageSteps, List.append_assoc, List.append_eq_append_iff] at h
        obtain ⟨pre', hpre, hpost⟩ | ⟨post', hnodes, hpost⟩ := h
        · -- the record is on a later page
          cases pre' with
          | nil => cases hpost
          | cons step pre' =>
            obtain ⟨rfl, hlater⟩ := List.cons.inj hpost
            have hpre' : pre = pageSteps page ++ pre' := by
              rw [hpre, pageSteps, List.append_assoc]
              rfl
            rw [hpre', run_append, hcommit] at htrace
            unfold courseAfter at hlater
            split at hlater
            · split at hlater
              · rename_i hpersists hmore
                have hnext : ∀ rest', courseAfter incremental turn rest' page data' =
                    courseOfTurns incremental rest' page.nextCursor false data' := fun rest' =>
                  (if_pos hpersists).trans (if_pos hmore)
                rw [hnext]
                obtain ⟨hend, hraised⟩ | ⟨i, n, herased⟩ := ih hlater htrace
                · exact .inl ⟨hend, hraised⟩
                · refine .inr ⟨i + 1, n, ?_⟩
                  rw [List.modify_succ_cons, courseOfTurns_counted hturn hcounted, hdata', hnext,
                    herased, hpre', List.append_assoc]
              · simp at hlater
            · simp at hlater
        · -- the record is on this page
          cases post' with
          | nil => cases hpost
          | cons step post' =>
            obtain ⟨rfl, rfl⟩ := List.cons.inj hpost
            obtain ⟨n, hall', hpage', hsame⟩ := pageSteps_erase hall hnodes htrace
            refine .inr ⟨0, n, (courseOfTurns_counted (hpage n) ?_).trans ?_⟩
            · rw [hall', Bool.true_and]
              exact hprogress
            · rw [hsame, hcommit, hpage', List.append_assoc, List.append_assoc]
              rfl
      · -- the job ends with this page, of which the records up to a failure are left
        rw [courseOfTurns_givenUp hturn hcounted] at h ⊢
        obtain ⟨hpost, -⟩ | ⟨n, hsteps, hall⟩ := recordsTried_erase h htrace
        · exact .inl ⟨hpost, rfl⟩
        · refine .inr ⟨0, n, (courseOfTurns_givenUp (hpage n) ?_).trans ?_⟩
          · rw [SyncPage.eraseRecord, hall]
            exact hcounted
          · exact congrArg (Course.mk · .raised) hsteps

/-! ## Section 7: The finished job -/

/-- A job as `start_sync` creates it. -/
def SyncRun.queued (r : SyncRun δ κ) (data : δ) (cursor : Option κ)
    (backlogComplete : Option Bool) : SyncDB δ κ where
  data := data
  job := { syncType := r.syncType, status := .queued }
  cursor := cursor
  backlogComplete := backlogComplete

/-- The course of the run; without an adapter or a handler it fails before the loop. -/
def SyncRun.course (r : SyncRun δ κ) (cursor : Option κ) (data : δ) : Course δ :=
  if r.registered then
    courseOfTurns r.incremental r.turns (if r.incremental then none else cursor) true data
  else ⟨[], .raised⟩

theorem Returns.eq_of_result {α : Type} {p : SyncProc δ κ α} {db db' : SyncDB δ κ}
    {s s' : Session δ} {a b : α} (h : Returns p db s a db' s')
    (hb : (p (db.put s.seen) (db.put s.stored)).result.1 = .ok b) : b = a := by
  rw [h.result] at hb
  exact (Except.ok.inj hb).symm

theorem Raises.result_ne {α : Type} {p : SyncProc δ κ α} {db db' : SyncDB δ κ} {s : Session δ}
    {stored : δ} {b : α} (h : Raises p db s db' stored) :
    (p (db.put s.seen) (db.put s.stored)).result.1 ≠ .ok b := by
  obtain ⟨e, he⟩ := h.result
  rw [he]
  intro hok
  cases hok

theorem returns_completeSync (success : Bool) (now : Instant) (db : SyncDB δ κ) (data : δ) :
    Returns (some <$> completeSync none success now) db (.clean data)
      (some (completedJob db.job success now))
      { db with job := completedJob db.job success now } (.clean data) :=
  ⟨rfl, rfl⟩

theorem raises_completeSync (e : PyException) (success : Bool) (now : Instant) (db : SyncDB δ κ)
    (data : δ) : Raises (some <$> completeSync (some e) success now) db (.clean data) db data :=
  ⟨⟨e, rfl⟩, rfl⟩

/-- The loop returns, or its exception is recorded, or that raises as well. -/
theorem attemptSync_run (r : SyncRun δ κ) (db : SyncDB δ κ) (data : δ) :
    let course := r.course db.cursor data
    let s' := run after (.clean data) course.steps
    ∃ db' : SyncDB δ κ, (db.job.AddsUp → db'.job.AddsUp) ∧
      ((∃ stored, Raises (attemptSync r) db (.clean data) db' stored) ∨
        course.ending = .raised ∧
          Returns (attemptSync r) db (.clean data) (some false) db' (.clean s'.stored) ∨
        course.ending ≠ .raised ∧ Returns (attemptSync r) db (.clean data)
          (if course.ending = .finished then some true else none) db' s' ∧
          db'.job.errorCount = db.job.errorCount + failures (.clean data) course.steps) := by
  unfold attemptSync SyncRun.course
  cases r.registered with
  | false =>
    cases r.errorFault with
    | some e => exact ⟨db, id, .inl ⟨data, (raises_updateRows e _ _ _).bind _⟩⟩
    | none =>
      refine ⟨db.withErrors 1, id, .inr (.inl ⟨rfl, ?_⟩)⟩
      exact (returns_updateRows rfl).bind ⟨rfl, rfl⟩
  | true =>
    let cursor := if r.incremental then none else db.cursor
    have hcursor : Returns (memory fun seen : SyncDB δ κ =>
        (.ok (if r.incremental then none else seen.cursor), seen)) db (.clean data) cursor db
        (.clean data) := ⟨rfl, rfl⟩
    obtain ⟨db₁, hadds₁, hloop⟩ := runEntitySync_run r.incremental r.turns cursor true db data
    rw [if_pos rfl, if_pos rfl]
    dsimp only at hloop ⊢
    generalize courseOfTurns r.incremental r.turns cursor true data = course at hloop ⊢
    split at hloop
    · rename_i hraised
      cases hfault : r.errorFault with
      | some e =>
        refine ⟨db₁, hadds₁, .inl ⟨(run after (.clean data) course.steps).stored,
          hcursor.bind_raises ((hloop.bind _).tryCatch_raises fun _ => Raises.bind ?_ _)⟩⟩
        exact raises_updateRows e _ _ _
      | none =>
        refine ⟨db₁.withErrors 1, fun h => addsUp_withErrors (hadds₁ h) 1, .inr (.inl ⟨hraised,
          hcursor.bind ((hloop.bind _).tryCatch_returns fun _ => ?_)⟩)⟩
        exact (returns_updateRows rfl).bind ⟨rfl, rfl⟩
    · rename_i hreturned
      obtain ⟨hloop, herrors⟩ := hloop
      refine ⟨db₁, hadds₁, .inr (.inr ⟨hreturned, hcursor.bind ((hloop.bind ?_).tryCatch _),
        herrors⟩)⟩
      cases course.ending <;> exact ⟨rfl, rfl⟩

/-- A completion that returns has returned the completed job. -/
theorem completeSync_result {fault : Option PyException} {success : Bool} {now : Instant}
    {db : SyncDB δ κ} {data : δ} {job : Option SyncJob}
    (h : ((some <$> completeSync fault success now : SyncProc δ κ (Option SyncJob)) (db.put data)
      (db.put data)).result.1 = .ok job) :
    job = some (completedJob db.job success now) ∧
      Returns (some <$> completeSync fault success now) db (.clean data) job
        { db with job := completedJob db.job success now } (.clean data) := by
  cases fault with
  | some e => exact absurd h (raises_completeSync e success now db data).result_ne
  | none =>
    have hreturns := returns_completeSync success now db data
    obtain rfl := hreturns.eq_of_result h
    exact ⟨rfl, hreturns⟩

/-- A run of `execute_sync` whose loop returned leaves nothing uncommitted. -/
theorem SyncRun.course_clean {r : SyncRun δ κ} {cursor : Option κ} {data : δ}
    (h : (r.course cursor data).ending ≠ .raised) :
    let s' := run after (.clean data) (r.course cursor data).steps
    s' = .clean s'.stored := by
  unfold SyncRun.course at h ⊢
  split at h
  · rename_i hregistered
    rw [if_pos hregistered]
    exact Session.ext (courseOfTurns_clean _ _ _ _ _ h) rfl
  · exact absurd rfl h

/-- What a finished run reports, and what it has stored. -/
theorem executeSync_result {r : SyncRun δ κ} (db : SyncDB δ κ) (data : δ) {job : SyncJob}
    (h : (executeSync r (db.put data) (db.put data)).result.1 = .ok (some job)) :
    let course := r.course db.cursor data
    course.ending ≠ .unfinished ∧ (db.job.AddsUp → job.AddsUp) ∧
      (course.ending = .raised → job.status = .failed) ∧
      (course.ending = .finished → job.status =
        if 0 < db.job.errorCount + failures (.clean data) course.steps then .partially
        else .completed) ∧
      ((executeSync r (db.put data) (db.put data)).final (db.put data)).data =
        (run after (.clean data) course.steps).stored := by
  intro course
  unfold executeSync at h ⊢
  let db₀ : SyncDB δ κ := { db with job := { db.job with status := .running } }
  cases hfault : r.startFault with
  | some e =>
    rw [hfault] at h
    exact absurd h ((raises_updateRows e _ db (.clean data)).bind _).result_ne
  | none =>
    rw [hfault] at h
    have hstart : Returns (markRunning none) db (.clean data) ⟨⟩ db₀ (.clean data) :=
      returns_updateRows rfl
    obtain ⟨db₁, hadds₁, hattempt⟩ := attemptSync_run r db₀ data
    rcases hattempt with ⟨stored, hraises⟩ | ⟨hraised, hreturns⟩ | ⟨hreturned, hreturns, herrors⟩
    · exact absurd h (hstart.bind_raises (hraises.bind _)).result_ne
    · -- the job has failed, which is recorded after what the pages have stored
      replace h := (congrArg Prod.fst (hstart.run_bind _).1).symm.trans h
      replace h := (congrArg Prod.fst (hreturns.run_bind _).1).symm.trans h
      obtain ⟨hjob, hcomplete⟩ := completeSync_result h
      obtain rfl := Option.some.inj hjob
      refine ⟨fun hend => ?_, hadds₁, fun _ => rfl, fun hend => ?_, ?_⟩
      · rw [hraised] at hend
        cases hend
      · rw [hraised] at hend
        cases hend
      · refine (congrArg SyncDB.data (hstart.run_bind _).2).trans ?_
        refine (congrArg SyncDB.data (hreturns.run_bind _).2).trans ?_
        exact congrArg SyncDB.data hcomplete.final
    · -- the pages have come to an end, unless the turns ran out before
      rw [SyncRun.course_clean hreturned] at hreturns
      replace h := (congrArg Prod.fst (hstart.run_bind _).1).symm.trans h
      replace h := (congrArg Prod.fst (hreturns.run_bind _).1).symm.trans h
      cases hend : course.ending with
      | raised => exact absurd hend hreturned
      | unfinished =>
        rw [hend] at h
        cases h
      | finished =>
        have hfinished : (r.course db₀.cursor data).ending = .finished := hend
        rw [if_pos hfinished] at h hreturns
        obtain ⟨hjob, hcomplete⟩ := completeSync_result h
        obtain rfl := Option.some.inj hjob
        refine ⟨by simp, hadds₁, by simp, fun _ => ?_, ?_⟩
        · exact congrArg (fun n => if 0 < n then SyncJobStatus.partially else .completed) herrors
        · refine (congrArg SyncDB.data (hstart.run_bind _).2).trans ?_
          refine (congrArg SyncDB.data (hreturns.run_bind _).2).trans ?_
          exact congrArg SyncDB.data hcomplete.final

/-- What the finished job says about its run. -/
structure Reports (course : Course δ) (data : δ) (job : SyncJob) : Prop where
  addsUp : job.AddsUp
  failed_iff : job.status = .failed ↔ course.ending = .raised
  partially_iff : course.ending ≠ .raised →
    (job.status = .partially ↔ SomeFails (.clean data) course.steps)
  completed_iff : course.ending ≠ .raised →
    (job.status = .completed ↔ ¬ SomeFails (.clean data) course.steps)

/-- The counters of a finished job add up, it failed when a step outside the records did, and is
partial when a record failed. -/
theorem reports_of_finished {r : SyncRun δ κ} {data : δ} {cursor : Option κ}
    {complete : Option Bool} {job : SyncJob}
    (h : (executeSync r (r.queued data cursor complete) (r.queued data cursor complete)).result.1 =
      .ok (some job)) : Reports (r.course cursor data) data job := by
  obtain ⟨hfinished, hadds, hfailed, hstatus, -⟩ :=
    executeSync_result (r.queued data cursor complete) data h
  have hsome : 0 < (r.queued data cursor complete).job.errorCount +
      failures (.clean data) (r.course cursor data).steps ↔
        SomeFails (.clean data) (r.course cursor data).steps := by
    rw [← failures_pos_iff]
    exact iff_of_eq (congrArg (0 < ·) (Nat.zero_add _))
  cases hend : (r.course cursor data).ending with
  | unfinished => exact absurd hend hfinished
  | raised =>
    exact ⟨hadds rfl, iff_of_true (hfailed hend) hend, absurd hend, absurd hend⟩
  | finished =>
    by_cases hfails : SomeFails (.clean data) (r.course cursor data).steps
    · replace hstatus := (hstatus hend).trans (if_pos (hsome.mpr hfails))
      refine ⟨hadds rfl, ?_, fun _ => iff_of_true hstatus hfails, fun _ => ?_⟩ <;>
        simp [hstatus, hend, hfails]
    · replace hstatus := (hstatus hend).trans (if_neg (mt hsome.mp hfails))
      refine ⟨hadds rfl, ?_, fun _ => ?_, fun _ => iff_of_true hstatus hfails⟩ <;>
        simp [hstatus, hend, hfails]

/-- What a finished run has stored is what its steps have. -/
theorem stored_of_finished {r : SyncRun δ κ} {data : δ} {cursor : Option κ}
    {complete : Option Bool} {job : SyncJob}
    (h : (executeSync r (r.queued data cursor complete) (r.queued data cursor complete)).result.1 =
      .ok (some job)) :
    ((executeSync r (r.queued data cursor complete) (r.queued data cursor complete)).final
        (r.queued data cursor complete)).data =
      (run after (.clean data) (r.course cursor data).steps).stored :=
  (executeSync_result (r.queued data cursor complete) data h).2.2.2.2

/-- A record that leaves no trace might as well be absent from its page: a run without it stores
the same, unless the loop ended at the record. -/
theorem executeSync_erase {r : SyncRun δ κ} {data : δ} {cursor : Option κ} {complete : Option Bool}
    {pre post : List (SyncStep δ)} {p : UnitOfWork δ PyException Bool}
    (h : (r.course cursor data).steps = pre ++ .item p :: post)
    (htrace : attempt p (run after (.clean data) pre) = run after (.clean data) pre) :
    post = [] ∧ (r.course cursor data).ending = .raised ∨
      ∃ i n, let r' := { r with turns := r.turns.modify i (·.eraseRecord n) }
        ∀ job job', (executeSync r (r.queued data cursor complete)
            (r.queued data cursor complete)).result.1 = .ok (some job) →
          (executeSync r' (r.queued data cursor complete)
            (r.queued data cursor complete)).result.1 = .ok (some job') →
          ((executeSync r' (r.queued data cursor complete) (r.queued data cursor complete)).final
              (r.queued data cursor complete)).data =
            ((executeSync r (r.queued data cursor complete) (r.queued data cursor complete)).final
              (r.queued data cursor complete)).data := by
  by_cases hregistered : r.registered = true
  · have hcourse : ∀ turns, ({ r with turns := turns } : SyncRun δ κ).course cursor data =
        courseOfTurns r.incremental turns (if r.incremental then none else cursor) true data :=
      fun turns => if_pos hregistered
    have hself : r.course cursor data = _ := hcourse r.turns
    rw [hself] at h ⊢
    obtain hend | ⟨i, n, herased⟩ := courseOfTurns_erase r.incremental h htrace
    · exact .inl hend
    · refine .inr ⟨i, n, fun job job' hjob hjob' => ?_⟩
      have hsteps : (r.course cursor data).steps = pre ++ .item p :: post := hself ▸ h
      have hsteps' := congrArg Course.steps ((hcourse _).trans herased)
      refine (stored_of_finished hjob').trans (Eq.trans ?_ (stored_of_finished hjob).symm)
      rw [hsteps, hsteps', run_append, run_append]
      exact congrArg (fun s => (run after s post).stored) htrace.symm
  · simp [SyncRun.course, hregistered] at h

/-- The counters and the status of a finished job are as its run went, and failing records leave
no trace of themselves in the others, exactly when each record that fails without having committed
anything finds a session that has nothing to commit. -/
theorem execute_sync_iff (r : SyncRun δ κ) (data : δ) (cursor : Option κ)
    (complete : Option Bool) :
    let start := r.queued data cursor complete
    let course := r.course cursor data
    ((∀ job, (executeSync r start start).result.1 = .ok (some job) → Reports course data job ∧
        ((executeSync r start start).final start).data =
          (run after (.clean data) course.steps).stored) ∧
      Isolated (.clean data) course.steps) ↔
    Along after LosesNothing (.clean data) course.steps := by
  intro start course
  rw [isolated_iff]
  exact and_iff_right fun job h => ⟨reports_of_finished h, stored_of_finished h⟩

/-! ## Section 8: Handlers that commit -/

/-- A page that the provider can answer a turn with. -/
def SyncTurn.MayAnswer (turn : SyncTurn δ κ) (page : SyncPage δ κ) : Prop :=
  turn.fetch = .ok page ∨ turn.refetch = .ok page

theorem SyncTurn.mayAnswer_page {turn : SyncTurn δ κ} {cursor : Option κ} {isFirstPage : Bool}
    {page : SyncPage δ κ} (h : turn.page cursor isFirstPage = some page) :
    turn.MayAnswer page := by
  unfold SyncTurn.page at h
  cases hfetch : turn.fetch with
  | ok page' =>
    rw [hfetch] at h
    exact .inl (hfetch.trans (congrArg Except.ok (Option.some.inj h)))
  | error e =>
    rw [hfetch] at h
    dsimp only at h
    split at h
    · cases hrefetch : turn.refetch with
      | ok page' =>
        rw [hrefetch] at h
        exact .inr (hrefetch.trans (congrArg Except.ok (Option.some.inj h)))
      | error e' => simp [hrefetch, Except.toOption] at h
    · cases h

theorem mem_recordsTried {s : Session δ} {nodes : List (SyncRecord δ)} {r : SyncRecord δ}
    (h : r ∈ (recordsTried s nodes).1) : r ∈ nodes := by
  induction nodes generalizing s with
  | nil => exact h
  | cons first rest ih =>
    unfold recordsTried at h
    split at h
    · exact List.mem_cons.mpr (.inl (List.mem_singleton.mp h))
    · rcases List.mem_cons.mp h with rfl | h
      · exact List.mem_cons_self
      · exact List.mem_cons_of_mem _ (ih h)

theorem mem_itemsOf {records : List (SyncRecord δ)} {p : UnitOfWork δ PyException Bool}
    (h : .item p ∈ itemsOf records) : ∃ r ∈ records, r.upsert = p := by
  obtain ⟨r, hr, hp⟩ := List.mem_map.mp h
  exact ⟨r, hr, Step.item.inj hp⟩

/-- The steps of a run are records of the pages. -/
theorem mem_courseOfTurns {incremental : Bool} {turns : List (SyncTurn δ κ)} {cursor : Option κ}
    {isFirstPage : Bool} {data : δ} {p : UnitOfWork δ PyException Bool}
    (h : .item p ∈ (courseOfTurns incremental turns cursor isFirstPage data).steps) :
    ∃ turn ∈ turns, ∃ page, turn.MayAnswer page ∧ ∃ r ∈ page.nodes, r.upsert = p := by
  induction turns generalizing cursor isFirstPage data with
  | nil => simp [courseOfTurns] at h
  | cons turn rest ih =>
    cases hturn : turn.page cursor isFirstPage with
    | none => simp [courseOfTurns, hturn] at h
    | some page =>
      have hpage := SyncTurn.mayAnswer_page hturn
      by_cases hcounted :
          ((recordsTried (.clean data) page.nodes).2 && turn.progressFault.isNone) = true
      · rw [courseOfTurns_counted hturn hcounted] at h
        dsimp only at h
        rcases List.mem_append.mp h with h | h
        · rcases List.mem_append.mp h with h | h
          · exact ⟨turn, List.mem_cons_self, page, hpage, mem_itemsOf h⟩
          · cases List.mem_singleton.mp h
        · unfold courseAfter at h
          split at h
          · split at h
            · obtain ⟨turn', hturn', hrest⟩ := ih h
              exact ⟨turn', List.mem_cons_of_mem _ hturn', hrest⟩
            · cases h
          · cases h
      · rw [courseOfTurns_givenUp hturn hcounted] at h
        obtain ⟨r, hr, hp⟩ := mem_itemsOf h
        exact ⟨turn, List.mem_cons_self, page, hpage, r, mem_recordsTried hr, hp⟩

/-- Where each handler commits what it has done before it returns, failing records leave no trace
in any run. -/
theorem isolated_of_commits {r : SyncRun δ κ}
    (h : ∀ turn ∈ r.turns, ∀ page, turn.MayAnswer page → ∀ record ∈ page.nodes,
      CommitsOwnWork record.upsert) (cursor : Option κ) (data : δ) :
    Isolated (.clean data) (r.course cursor data).steps := by
  rw [isolated_iff]
  refine along_losesNothing rfl fun p hp => ?_
  unfold SyncRun.course at hp
  split at hp
  · obtain ⟨turn, hturn, page, hpage, record, hrecord, rfl⟩ := mem_courseOfTurns hp
    exact h turn hturn page hpage record hrecord
  · cases hp

end AyushOms.Sync
