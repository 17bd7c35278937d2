import AyushOms.Core.Base
import AyushOms.Core.Enums
import Mathlib.Data.Prod.Lex
import Mathlib.Data.List.MinMax

/-!
# The Sync Service

`app.services.sync_service.SyncService` for one `(integration, entity_type)`: a job pages
through the provider's records and upserts each one. A full crawl persists its cursor and
resumes from it; an incremental one asks for what changed since the last successful job
completed.

A job is taken step by step (start, fetch a page, process the page, complete), so that the
provider can change its records in between.
-/

namespace AyushOms.Sync

/-! ## Section 1: The provider and its adapter -/

/-- One version of a provider record. -/
structure RecordVersion where
  id : ℕ
  updatedAt : Instant
  payload : String := ""
  deriving DecidableEq, Repr

/-- The place of a version in update order. -/
def RecordVersion.key (v : RecordVersion) : Int ×ₗ ℕ := toLex (v.updatedAt, v.id)

/-- `FetchPage`. -/
structure FetchPage (κ : Type*) where
  nodes : List RecordVersion
  nextCursor : Option κ
  hasMore : Bool

/-- `IntegrationAdapter`: the pages it returns while the provider holds these records. -/
structure IntegrationAdapter (κ : Type*) where
  fetch : List RecordVersion → Option κ → ℕ → FetchPage κ
  fetchIncremental : List RecordVersion → Instant → Option κ → ℕ → FetchPage κ

/-- The variables of a connection query: `first`, `after`, and `updated_at:>'...'`. -/
structure Variables (κ : Type*) where
  first : ℕ
  after : Option κ
  updatedAfter : Option Instant

/-- A connection as Shopify answers it. -/
structure Connection (κ : Type*) where
  nodes : List RecordVersion
  hasNextPage : Bool
  endCursor : Option κ

section Shopify

variable {κ : Type*} (execute : List RecordVersion → Variables κ → Connection κ)

/-- `ShopifyAdapter._fetch_page`. -/
def shopifyFetchPage (records : List RecordVersion) (cursor : Option κ) (limit : ℕ)
    (queryFilter : Option Instant) : FetchPage κ :=
  let connection := execute records ⟨limit, cursor, queryFilter⟩
  { nodes := connection.nodes
    nextCursor := if connection.hasNextPage then connection.endCursor else none
    hasMore := connection.hasNextPage }

/-- `ShopifyAdapter.fetch` and `fetch_incremental`. -/
def shopifyAdapter : IntegrationAdapter κ where
  fetch records cursor limit := shopifyFetchPage execute records cursor limit none
  fetchIncremental records since cursor limit :=
    shopifyFetchPage execute records cursor limit (some since)

end Shopify

/-! ## Section 2: Jobs -/

/-- `SyncJob`. -/
structure SyncJob where
  syncType : SyncType
  status : SyncJobStatus := .running
  completedAt : Option Instant := none
  recordsReceived : ℕ := 0
  recordsCreated : ℕ := 0
  recordsUpdated : ℕ := 0
  recordsFailed : ℕ := 0
  errorCount : ℕ := 0
  deriving DecidableEq, Repr

/-- The loop of `_run_entity_sync` between two pages: `incrementalSince` is set in
incremental mode, `received` is what the job has fetched so far. -/
structure Crawl (κ : Type*) where
  incrementalSince : Option Instant
  cursor : Option κ
  deadline : Instant
  isFirstPage : Bool := true
  received : List RecordVersion := []

/-- Where a running job stands. -/
inductive Phase (κ : Type*) where
  | crawling
  | pageFetched (page : FetchPage κ)
  | ended (success : Bool)

structure ActiveJob (κ : Type*) where
  job : SyncJob
  crawl : Crawl κ
  phase : Phase κ

/-- The provider's records, the versions applied to the OMS, the finished jobs, the entity's
`sync_cursors` and `backlog_complete` entries, and the job that is running. -/
structure SyncWorld (κ : Type*) where
  records : List RecordVersion := []
  applied : List RecordVersion := []
  jobs : List SyncJob := []
  cursor : Option κ := none
  backlogComplete : Option Bool := none
  active : Option (ActiveJob κ) := none

/-- `_MAX_ENTITY_SYNC_DURATION`, in microseconds. -/
def maxEntitySyncDuration : Int := 8 * 60 * 1000000

/-- `limit=50`. -/
def pageLimit : ℕ := 50

/-- What became of one record of a page. -/
inductive RecordOutcome where
  | created | updated | failed
  deriving DecidableEq, Repr

namespace SyncWorld

variable {κ : Type*}

/-- `completed_at` of `get_last_successful_for_entity`. -/
def lastSuccessAt (w : SyncWorld κ) : Option Instant :=
  ((w.jobs.filter fun j => j.status = .completed ∨ j.status = .partially).filterMap
    (·.completedAt)).max?

/-- `backlog_known_complete_for`. -/
def backlogKnownComplete (w : SyncWorld κ) : Bool :=
  match w.backlogComplete with
  | some explicit => explicit
  | none => w.lastSuccessAt.isSome && w.cursor.isNone

/-- The `since` of a run in incremental mode, `none` when the run crawls the backlog. -/
def incrementalSince (w : SyncWorld κ) (syncType : SyncType) : Option Instant :=
  if syncType = .incremental ∧ w.cursor.isNone ∧ w.backlogKnownComplete then w.lastSuccessAt
  else none

/-- `start_sync` and `execute_sync` up to the loop. A second job is refused while one is
active; without an adapter and a handler the job fails. -/
def startSync (w : SyncWorld κ) (now : Instant) (syncType : SyncType) (registered : Bool) :
    SyncWorld κ :=
  match w.active with
  | some _ => w
  | none =>
    -- the watermark, the cursor and the flag are read once, before the loop
    let since := w.incrementalSince syncType
    { w with active := some {
        job := { syncType := syncType, errorCount := if registered then 0 else 1 }
        crawl := {
          incrementalSince := since
          cursor := if since.isSome then none else w.cursor
          deadline := now + maxEntitySyncDuration }
        phase := if registered then .crawling else .ended false } }

/-- A page-level failure: one error, and the job fails. -/
def failPage (w : SyncWorld κ) (a : ActiveJob κ) : SyncWorld κ :=
  { w with active := some { a with
      job := { a.job with errorCount := a.job.errorCount + 1 }
      phase := .ended false } }

/-- The page the loop asks for. -/
def nextPage (adapter : IntegrationAdapter κ) (w : SyncWorld κ) (crawl : Crawl κ)
    (cursor : Option κ) : FetchPage κ :=
  match crawl.incrementalSince with
  | some since => adapter.fetchIncremental w.records since cursor pageLimit
  | none => adapter.fetch w.records cursor pageLimit

/-- A rejected first page with a cursor in play is a stale resume point. -/
def resetsCursor (crawl : Crawl κ) (errorType : String) : Bool :=
  crawl.isFirstPage && crawl.cursor.isSome && errorType == "validation_error"

/-- The fetch of the loop. `fault` is the error the fetch meets, `retryFault` the one a second
fetch meets after a stale cursor was reset. -/
def fetchPage (adapter : IntegrationAdapter κ) (w : SyncWorld κ)
    (fault retryFault : Option String) : SyncWorld κ :=
  match w.active with
  | none => w
  | some a =>
    match a.phase with
    | .pageFetched _ | .ended _ => w
    | .crawling =>
      match fault with
      | none =>
        { w with active := some { a with
            crawl := { a.crawl with isFirstPage := false }
            phase := .pageFetched (w.nextPage adapter a.crawl a.crawl.cursor) } }
      | some errorType =>
        if resetsCursor a.crawl errorType then
          -- the stale resume point is cleared before the first page is asked for
          let w := { w with cursor := none }
          match retryFault with
          | some _ => w.failPage a
          | none =>
            { w with active := some { a with
                crawl := { a.crawl with cursor := none, isFirstPage := false }
                phase := .pageFetched (w.nextPage adapter a.crawl none) } }
        else w.failPage a

/-- `record_progress` and the `record_error` of each failed record. -/
def countPage (job : SyncJob) (nodes : List RecordVersion)
    (outcome : RecordVersion → RecordOutcome) : SyncJob :=
  let failed := nodes.countP fun v => outcome v == .failed
  { job with
    recordsReceived := job.recordsReceived + nodes.length
    recordsCreated := job.recordsCreated + (nodes.countP fun v => outcome v == .created)
    recordsUpdated := job.recordsUpdated + (nodes.countP fun v => outcome v == .updated)
    recordsFailed := job.recordsFailed + failed
    errorCount := job.errorCount + failed }

/-- The rest of a turn of the loop: upsert the records of the page, then stop at the last
page or at the deadline, or go on. -/
def processPage (w : SyncWorld κ) (outcome : RecordVersion → RecordOutcome) (now : Instant) :
    SyncWorld κ :=
  match w.active with
  | none => w
  | some a =>
    match a.phase with
    | .crawling | .ended _ => w
    | .pageFetched page =>
      let w := { w with
        applied := w.applied ++ page.nodes.filter fun v => outcome v != RecordOutcome.failed }
      let a := { a with
        job := countPage a.job page.nodes outcome
        crawl := { a.crawl with received := a.crawl.received ++ page.nodes } }
      let backlog := a.crawl.incrementalSince.isNone
      -- the budget is looked at only after a page that has a successor
      if page.hasMore then
        -- the persisted cursor is what a later run resumes from
        { w with
          cursor := if backlog then page.nextCursor else w.cursor
          active := some { a with
            crawl := { a.crawl with cursor := page.nextCursor }
            phase := if a.crawl.deadline ≤ now then .ended true else .crawling } }
      else
        { w with
          cursor := if backlog then none else w.cursor
          backlogComplete := if backlog then some true else w.backlogComplete
          active := some { a with phase := .ended true } }

/-- `complete_sync`. -/
def completeSync (w : SyncWorld κ) (now : Instant) : SyncWorld κ :=
  match w.active with
  | none => w
  | some a =>
    match a.phase with
    | .crawling | .pageFetched _ => w
    | .ended success =>
      let status : SyncJobStatus :=
        if success = false then .failed
        else if 0 < a.job.errorCount then .partially
        else .completed
      -- `completed_at` is what a later incremental run takes for `since`
      { w with
        jobs := w.jobs ++ [{ a.job with status := status, completedAt := some now }]
        active := none }

/-- The provider stores a new version of a record. -/
def change (w : SyncWorld κ) (v : RecordVersion) : SyncWorld κ :=
  { w with records := (w.records.filter fun r => r.id ≠ v.id) ++ [v] }

/-- `reset_backlog`: the next job crawls from the first page again. -/
def resetBacklog (w : SyncWorld κ) : SyncWorld κ :=
  { w with cursor := none, backlogComplete := some false }

end SyncWorld

/-! ## Section 3: Runs -/

/-- What happens to the world: the provider changes a record, a job takes its next step, or
the backlog is reset. -/
inductive SyncEvent where
  | change (v : RecordVersion)
  | startSync (now : Instant) (syncType : SyncType) (registered : Bool)
  | fetchPage (fault retryFault : Option String)
  | processPage (outcome : RecordVersion → RecordOutcome) (now : Instant)
  | completeSync (now : Instant)
  | resetBacklog

/-- One step of the world. -/
def syncStep {κ : Type*} (adapter : IntegrationAdapter κ) (w : SyncWorld κ) :
    SyncEvent → SyncWorld κ
  | .change v => w.change v
  | .startSync now syncType registered => w.startSync now syncType registered
  | .fetchPage fault retryFault => w.fetchPage adapter fault retryFault
  | .processPage outcome now => w.processPage outcome now
  | .completeSync now => w.completeSync now
  | .resetBacklog => w.resetBacklog

end AyushOms.Sync
