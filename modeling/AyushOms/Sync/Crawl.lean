import AyushOms.Lib.Run
import AyushOms.Sync.Service

/-!
# A Backlog Crawl, Commit by Commit

`_run_entity_sync` in backlog mode commits after every record, after the counters of a page,
when it persists the resume cursor and when it records that the crawl is complete. A worker can
die between any two of these commits, and the next run starts from what was committed.

`SyncWorld.processPage` takes a page in one step. Here a page is taken one commit at a time.

## Main results

- `CrawlWorld.inv_step`: every commit keeps what the cursor and the flag say about the pages.
- `crawl_covers`: in every sequence of interrupted runs over a static page list, the pages before
  the persisted cursor have been tried, and all pages have when the crawl is recorded complete.
- `processPage_of_commits`: the commits of one page, uninterrupted, are `processPage`.
-/

namespace AyushOms.Sync

open AyushOms.Lib

variable {κ : Type*}

/-! ## Section 1: The loop -/

/-- The counters of a page, until `record_progress` commits them. -/
structure PageCounts where
  created : ℕ := 0
  updated : ℕ := 0
  failed : ℕ := 0
  deriving DecidableEq, Repr

def PageCounts.add (counts : PageCounts) : RecordOutcome → PageCounts
  | .created => { counts with created := counts.created + 1 }
  | .updated => { counts with updated := counts.updated + 1 }
  | .failed => { counts with failed := counts.failed + 1 }

/-- The counters after a list of records. -/
def PageCounts.addAll (counts : PageCounts) (outcome : RecordVersion → RecordOutcome)
    (vs : List RecordVersion) : PageCounts :=
  { created := counts.created + vs.countP fun v => outcome v == .created
    updated := counts.updated + vs.countP fun v => outcome v == .updated
    failed := counts.failed + vs.countP fun v => outcome v == .failed }

theorem PageCounts.addAll_cons (counts : PageCounts) (outcome : RecordVersion → RecordOutcome)
    (v : RecordVersion) (vs : List RecordVersion) :
    counts.addAll outcome (v :: vs) = (counts.add (outcome v)).addAll outcome vs := by
  cases h : outcome v <;> simp [addAll, add, h, Nat.add_assoc, Nat.add_comm 1]

/-- Where the loop stands between two commits. -/
inductive CrawlPoint (κ : Type*) where
  /-- about to fetch the page at the cursor -/
  | fetch (cursor : Option κ) (isFirstPage : Bool)
  /-- the stale resume point is cleared, the first page is asked for -/
  | refetch
  /-- the records of the page not yet tried -/
  | records (page : FetchPage κ) (rest : List RecordVersion) (counts : PageCounts)
  /-- the last page is done, the cursor is to be cleared -/
  | clearCursor
  /-- the cursor is cleared, the flag is to be set -/
  | markComplete
  /-- the next cursor is to be persisted -/
  | persistCursor (next : Option κ)
  /-- the cursor is persisted, the deadline is looked at -/
  | budget (next : Option κ)
  | ended (success : Bool)

/-- What the database keeps of the crawl, the records the loop has tried, and the loop itself
(`none` when no worker runs it). -/
structure CrawlWorld (κ : Type*) where
  cursor : Option κ := none
  backlogComplete : Option Bool := none
  attempted : List RecordVersion := []
  applied : List RecordVersion := []
  job : SyncJob := { syncType := .full }
  point : Option (CrawlPoint κ) := none

/-- What happens to a crawl. -/
inductive CrawlEvent where
  | start
  | fetch (fault : Option String)
  | attempt (outcome : RecordOutcome)
  | commit
  | budget (reached : Bool)
  | crash

namespace CrawlWorld

/-- `execute_sync` begins a run at the persisted cursor. -/
def start (w : CrawlWorld κ) : CrawlWorld κ :=
  match w.point with
  | none | some (.ended _) =>
    { w with job := { syncType := .full }, point := some (.fetch w.cursor true) }
  | some _ => w

/-- A page that does not arrive fails the job. -/
def failPage (w : CrawlWorld κ) : CrawlWorld κ :=
  { w with
    job := { w.job with errorCount := w.job.errorCount + 1 }
    point := some (.ended false) }

/-- A page arrives. -/
def receive (w : CrawlWorld κ) (page : FetchPage κ) : CrawlWorld κ :=
  { w with point := some (.records page page.nodes {}) }

/-- `adapter.fetch`: a rejected resume point is cleared before the first page is asked for. -/
def fetch (pages : Option κ → FetchPage κ) (w : CrawlWorld κ) (fault : Option String) :
    CrawlWorld κ :=
  match w.point, fault with
  | some (.fetch cursor _), none => w.receive (pages cursor)
  | some (.fetch cursor isFirstPage), some errorType =>
    if isFirstPage && cursor.isSome && errorType == "validation_error" then
      { w with cursor := none, point := some .refetch }
    else w.failPage
  | some .refetch, none => w.receive (pages none)
  | some .refetch, some _ => w.failPage
  | _, _ => w

/-- One record: the handler's commit, or the rollback and the recorded error. -/
def attempt (w : CrawlWorld κ) (outcome : RecordOutcome) : CrawlWorld κ :=
  match w.point with
  | some (.records page (v :: rest) counts) =>
    { w with
      attempted := w.attempted ++ [v]
      applied := if outcome = .failed then w.applied else w.applied ++ [v]
      job := if outcome = .failed then { w.job with errorCount := w.job.errorCount + 1 } else w.job
      point := some (.records page rest (counts.add outcome)) }
  | _ => w

/-- `record_progress`. -/
def recordProgress (job : SyncJob) (received : ℕ) (counts : PageCounts) : SyncJob :=
  { job with
    recordsReceived := job.recordsReceived + received
    recordsCreated := job.recordsCreated + counts.created
    recordsUpdated := job.recordsUpdated + counts.updated
    recordsFailed := job.recordsFailed + counts.failed }

/-- The commits that follow the records of a page. -/
def commit (w : CrawlWorld κ) : CrawlWorld κ :=
  match w.point with
  | some (.records page [] counts) =>
    { w with
      job := recordProgress w.job page.nodes.length counts
      point := some (if page.hasMore then .persistCursor page.nextCursor else .clearCursor) }
  | some .clearCursor => { w with cursor := none, point := some .markComplete }
  | some .markComplete =>
    { w with backlogComplete := some true, point := some (.ended true) }
  | some (.persistCursor next) => { w with cursor := next, point := some (.budget next) }
  | _ => w

/-- `datetime.now(UTC) >= deadline`. -/
def checkBudget (w : CrawlWorld κ) (reached : Bool) : CrawlWorld κ :=
  match w.point with
  | some (.budget next) =>
    { w with point := some (if reached then .ended true else .fetch next false) }
  | _ => w

/-- The worker dies: what was committed stays. -/
def crash (w : CrawlWorld κ) : CrawlWorld κ := { w with point := none }

end CrawlWorld

/-- One step of a crawl over a static page list. -/
def crawlStep (pages : Option κ → FetchPage κ) (w : CrawlWorld κ) : CrawlEvent → CrawlWorld κ
  | .start => w.start
  | .fetch fault => w.fetch pages fault
  | .attempt outcome => w.attempt outcome
  | .commit => w.commit
  | .budget reached => w.checkBudget reached
  | .crash => w.crash

/-! ## Section 2: The page list -/

/-- The `n`-th page of the list: each page names the cursor of the next one. -/
def pageAt (pages : Option κ → FetchPage κ) : ℕ → Option (FetchPage κ)
  | 0 => some (pages none)
  | n + 1 => (pageAt pages n).bind fun page =>
      if page.hasMore then some (pages page.nextCursor) else none

theorem pageAt_succ {pages : Option κ → FetchPage κ} {n : ℕ} {page : FetchPage κ}
    (h : pageAt pages n = some page) (hmore : page.hasMore = true) :
    pageAt pages (n + 1) = some (pages page.nextCursor) := by
  simp [pageAt, h, hmore]

/-- The list ends with a page that has no successor. -/
theorem pageAt_of_last {pages : Option κ → FetchPage κ} {n m : ℕ} {page : FetchPage κ}
    (h : pageAt pages n = some page) (hlast : page.hasMore = false) (hlt : n < m) :
    pageAt pages m = none := by
  induction m, hlt using Nat.le_induction with
  | base => simp [pageAt, h, hlast]
  | succ m _ ih => simp [pageAt, ih]

/-- The `i`-th page comes before the page `c` stands for: no page in front of it names `c`. -/
def BeforeCursor (pages : Option κ → FetchPage κ) (c : κ) (i : ℕ) : Prop :=
  ∀ j < i, ∀ page, pageAt pages j = some page → page.hasMore = true → page.nextCursor ≠ some c

/-- Every record of the page has been tried. -/
def Attempted (attempted : List RecordVersion) (page : FetchPage κ) : Prop :=
  ∀ v ∈ page.nodes, v ∈ attempted

/-- Every page up to the `n`-th has been tried. -/
def CrawledTo (pages : Option κ → FetchPage κ) (attempted : List RecordVersion) (n : ℕ) : Prop :=
  ∀ i ≤ n, ∀ page, pageAt pages i = some page → Attempted attempted page

/-- A cursor from which a run misses nothing: the first page, or the page after one up to which
everything has been tried. -/
def Resumable (pages : Option κ → FetchPage κ) (attempted : List RecordVersion)
    (cursor : Option κ) : Prop :=
  cursor = none ∨ ∃ n page, pageAt pages n = some page ∧ page.hasMore = true ∧
    page.nextCursor = cursor ∧ CrawledTo pages attempted n

/-- The page list has been tried to its end. -/
def CrawledThrough (pages : Option κ → FetchPage κ) (attempted : List RecordVersion) : Prop :=
  ∀ i page, pageAt pages i = some page → Attempted attempted page

section Pages

variable {pages : Option κ → FetchPage κ} {attempted attempted' : List RecordVersion}

theorem CrawledTo.mono (hsub : attempted ⊆ attempted') {n : ℕ}
    (h : CrawledTo pages attempted n) : CrawledTo pages attempted' n :=
  fun i hi page hpage v hv => hsub (h i hi page hpage v hv)

theorem Resumable.mono (hsub : attempted ⊆ attempted') {cursor : Option κ}
    (h : Resumable pages attempted cursor) : Resumable pages attempted' cursor := by
  rcases h with hnone | ⟨n, page, hpage, hmore, hnext, hcrawled⟩
  · exact Or.inl hnone
  · exact Or.inr ⟨n, page, hpage, hmore, hnext, hcrawled.mono hsub⟩

theorem CrawledThrough.mono (hsub : attempted ⊆ attempted')
    (h : CrawledThrough pages attempted) : CrawledThrough pages attempted' :=
  fun i page hpage v hv => hsub (h i page hpage v hv)

/-- A resumable cursor asks for a page of the list behind pages that have all been tried. -/
theorem Resumable.page {cursor : Option κ} (h : Resumable pages attempted cursor) :
    ∃ n, pageAt pages n = some (pages cursor) ∧
      ∀ i < n, ∀ page, pageAt pages i = some page → Attempted attempted page := by
  -- the first page of the list, or the one behind the page that names the cursor
  rcases h with rfl | ⟨n, page, hpage, hmore, rfl, hcrawled⟩
  · exact ⟨0, rfl, fun i hi => absurd hi (Nat.not_lt_zero i)⟩
  · exact ⟨n + 1, pageAt_succ hpage hmore, fun i hi => hcrawled i (Nat.le_of_lt_succ hi)⟩

/-- Every page before a resumable cursor has been tried. -/
theorem Resumable.before {c : κ} (h : Resumable pages attempted (some c)) {i : ℕ}
    {page : FetchPage κ} (hpage : pageAt pages i = some page) (hbefore : BeforeCursor pages c i) :
    Attempted attempted page := by
  rcases h with hnone | ⟨n, page', hpage', hmore, hnext, hcrawled⟩
  · cases hnone
  · -- a page behind the one that names `c` is not before `c`
    by_cases hi : i ≤ n
    · exact hcrawled i hi page hpage
    · exact absurd hnext (hbefore n (Nat.lt_of_not_le hi) page' hpage' hmore)

/-- A last page up to which everything has been tried ends the crawl. -/
theorem crawledThrough_of_last {n : ℕ} {page : FetchPage κ} (hpage : pageAt pages n = some page)
    (hlast : page.hasMore = false) (h : CrawledTo pages attempted n) :
    CrawledThrough pages attempted := by
  intro i page' hpage'
  rcases le_or_gt i n with hi | hi
  · exact h i hi page' hpage'
  · rw [pageAt_of_last hpage hlast hi] at hpage'
    cases hpage'

end Pages

/-! ## Section 3: The invariant -/

/-- What the point of the loop says about the pages. -/
def PointInv (pages : Option κ → FetchPage κ) (attempted : List RecordVersion) :
    CrawlPoint κ → Prop
  | .fetch cursor _ => Resumable pages attempted cursor
  | .refetch => True
  | .records page rest _ => ∃ n, pageAt pages n = some page ∧
      (∀ i < n, ∀ page', pageAt pages i = some page' → Attempted attempted page') ∧
      ∀ v ∈ page.nodes, v ∈ rest ∨ v ∈ attempted
  | .clearCursor => CrawledThrough pages attempted
  | .markComplete => CrawledThrough pages attempted
  | .persistCursor next => Resumable pages attempted next
  | .budget next => Resumable pages attempted next
  | .ended _ => True

namespace CrawlWorld

/-- The persisted cursor is resumable, and the loop is where it claims to be. -/
structure Inv (pages : Option κ → FetchPage κ) (w : CrawlWorld κ) : Prop where
  cursor : Resumable pages w.attempted w.cursor
  point : ∀ p, w.point = some p → PointInv pages w.attempted p

variable {pages : Option κ → FetchPage κ}

theorem inv_start {w : CrawlWorld κ} (h : w.Inv pages) : w.start.Inv pages := by
  unfold start
  split
  · refine ⟨h.cursor, fun p hp => ?_⟩
    cases hp
    exact h.cursor
  · refine ⟨h.cursor, fun p hp => ?_⟩
    cases hp
    exact h.cursor
  · exact h

theorem inv_failPage {w : CrawlWorld κ} (h : w.Inv pages) : w.failPage.Inv pages := by
  refine ⟨h.cursor, fun p hp => ?_⟩
  cases hp
  exact True.intro

/-- The page at a resumable cursor is the next one to be tried. -/
theorem inv_receive {w : CrawlWorld κ} {cursor : Option κ} (h : w.Inv pages)
    (hcursor : Resumable pages w.attempted cursor) : (w.receive (pages cursor)).Inv pages := by
  refine ⟨h.cursor, fun p hp => ?_⟩
  cases hp
  obtain ⟨n, hpage, hbefore⟩ := hcursor.page
  exact ⟨n, hpage, hbefore, fun v hv => Or.inl hv⟩

theorem inv_fetch {w : CrawlWorld κ} (fault : Option String) (h : w.Inv pages) :
    (w.fetch pages fault).Inv pages := by
  unfold fetch
  split
  · next cursor _ hpoint => exact inv_receive h (h.point _ hpoint)
  · next cursor isFirstPage errorType hpoint =>
    split
    · -- without a cursor the next run starts over, which misses nothing
      refine ⟨Or.inl rfl, fun p hp => ?_⟩
      cases hp
      exact True.intro
    · exact inv_failPage h
  · exact inv_receive h (Or.inl rfl)
  · exact inv_failPage h
  · exact h

theorem inv_attempt {w : CrawlWorld κ} (outcome : RecordOutcome) (h : w.Inv pages) :
    (w.attempt outcome).Inv pages := by
  unfold attempt
  split
  · next page v rest counts hpoint =>
    have hsub : w.attempted ⊆ w.attempted ++ [v] := List.subset_append_left _ _
    refine ⟨h.cursor.mono hsub, fun p hp => ?_⟩
    cases hp
    obtain ⟨n, hpage, hbefore, hrest⟩ := h.point _ hpoint
    refine ⟨n, hpage, fun i hi page' hpage' u hu => hsub (hbefore i hi page' hpage' u hu), ?_⟩
    intro u hu
    rcases hrest u hu with hmem | hdone
    · -- the record just tried, or one still to come
      rcases List.mem_cons.mp hmem with rfl | hmem
      · exact Or.inr (List.mem_append_right _ (List.mem_singleton_self _))
      · exact Or.inl hmem
    · exact Or.inr (hsub hdone)
  · exact h

theorem inv_commit {w : CrawlWorld κ} (h : w.Inv pages) : w.commit.Inv pages := by
  unfold commit
  split
  · next page counts hpoint =>
    obtain ⟨n, hpage, hbefore, hrest⟩ := h.point _ hpoint
    -- no record of the page is left, so everything up to it has been tried
    have hcrawled : CrawledTo pages w.attempted n := by
      intro i hi page' hpage' v hv
      rcases Nat.lt_or_eq_of_le hi with hlt | rfl
      · exact hbefore i hlt page' hpage' v hv
      · rw [hpage, Option.some.injEq] at hpage'
        subst hpage'
        exact (hrest v hv).resolve_left List.not_mem_nil
    refine ⟨h.cursor, fun p hp => ?_⟩
    cases hmore : page.hasMore with
    | true =>
      simp only [hmore, if_true, Option.some.injEq] at hp
      subst hp
      exact Or.inr ⟨n, page, hpage, hmore, rfl, hcrawled⟩
    | false =>
      simp only [hmore, Bool.false_eq_true, if_false, Option.some.injEq] at hp
      subst hp
      exact crawledThrough_of_last hpage hmore hcrawled
  · next hpoint =>
    -- the cursor is cleared first: a death before the flag starts the crawl over
    have hthrough : PointInv pages w.attempted .clearCursor := h.point _ hpoint
    refine ⟨Or.inl rfl, fun p hp => ?_⟩
    cases hp
    exact hthrough
  · refine ⟨h.cursor, fun p hp => ?_⟩
    cases hp
    exact True.intro
  · next next hpoint =>
    -- the cursor is persisted behind the counters of the page it follows
    have hnext : PointInv pages w.attempted (.persistCursor next) := h.point _ hpoint
    refine ⟨hnext, fun p hp => ?_⟩
    cases hp
    exact hnext
  · exact h

theorem inv_checkBudget {w : CrawlWorld κ} (reached : Bool) (h : w.Inv pages) :
    (w.checkBudget reached).Inv pages := by
  unfold checkBudget
  split
  · next next hpoint =>
    have hnext : PointInv pages w.attempted (.budget next) := h.point _ hpoint
    refine ⟨h.cursor, fun p hp => ?_⟩
    cases reached with
    | false =>
      cases hp
      exact hnext
    | true =>
      cases hp
      exact True.intro
  · exact h

/-- Every step keeps the invariant, whatever fails and wherever the worker dies. -/
theorem inv_step {w : CrawlWorld κ} (e : CrawlEvent) (h : w.Inv pages) :
    (crawlStep pages w e).Inv pages := by
  cases e with
  | start => exact inv_start h
  | fetch fault => exact inv_fetch fault h
  | attempt outcome => exact inv_attempt outcome h
  | commit => exact inv_commit h
  | budget reached => exact inv_checkBudget reached h
  | crash =>
    -- the loop is gone, what it committed stays
    refine ⟨h.cursor, fun p hp => ?_⟩
    cases hp

/-! ## Section 4: Runs -/

/-- This commit records the crawl as complete. -/
def RecordsComplete (w : CrawlWorld κ) (e : CrawlEvent) : Prop :=
  w.point = some .markComplete ∧ e = .commit

/-- Some run among these events has recorded the crawl as complete. -/
def RecordedComplete (pages : Option κ → FetchPage κ) (w : CrawlWorld κ)
    (es : List CrawlEvent) : Prop :=
  ∃ pre e post, es = pre ++ e :: post ∧ (run (crawlStep pages) w pre).RecordsComplete e

/-- Only `attempt` tries a record. -/
@[simp] theorem attempted_start (w : CrawlWorld κ) : w.start.attempted = w.attempted := by
  unfold start
  split <;> rfl

@[simp] theorem attempted_fetch (w : CrawlWorld κ) (fault : Option String) :
    (w.fetch pages fault).attempted = w.attempted := by
  unfold fetch
  split
  · rfl
  · split <;> rfl
  · rfl
  · rfl
  · rfl

@[simp] theorem attempted_commit (w : CrawlWorld κ) : w.commit.attempted = w.attempted := by
  unfold commit
  split <;> rfl

@[simp] theorem attempted_checkBudget (w : CrawlWorld κ) (reached : Bool) :
    (w.checkBudget reached).attempted = w.attempted := by
  unfold checkBudget
  split <;> rfl

theorem attempted_subset_step (w : CrawlWorld κ) (e : CrawlEvent) :
    w.attempted ⊆ (crawlStep pages w e).attempted := by
  cases e with
  | start => simp [crawlStep]
  | fetch fault => simp [crawlStep]
  | attempt outcome =>
    simp only [crawlStep, attempt]
    split
    · exact List.subset_append_left _ _
    · exact List.Subset.refl _
  | commit => simp [crawlStep]
  | budget reached => simp [crawlStep]
  | crash => exact List.Subset.refl _

/-- What has been tried stays tried. -/
theorem attempted_subset_run (w : CrawlWorld κ) (es : List CrawlEvent) :
    w.attempted ⊆ (run (crawlStep pages) w es).attempted :=
  run_rel (crawlStep pages) (R := fun w w' => w.attempted ⊆ w'.attempted)
    (fun _ => List.Subset.refl _) List.Subset.trans attempted_subset_step w es

/-- Over a static page list, starting without a cursor, and in every sequence of runs that may
be interrupted between any two commits: every page before the persisted cursor has been tried,
and once a run has recorded the crawl complete so has every page of the list. -/
theorem crawl_covers (pages : Option κ → FetchPage κ) (w : CrawlWorld κ)
    (hcursor : w.cursor = none) (hidle : w.point = none) (es : List CrawlEvent) :
    ∀ pre, pre <+: es →
      (∀ c, (run (crawlStep pages) w pre).cursor = some c → ∀ i page,
        pageAt pages i = some page → BeforeCursor pages c i →
          Attempted (run (crawlStep pages) w pre).attempted page) ∧
      (w.RecordedComplete pages pre →
        CrawledThrough pages (run (crawlStep pages) w pre).attempted) := by
  have hstart : w.Inv pages := ⟨Or.inl hcursor, fun p hp => by rw [hidle] at hp; cases hp⟩
  have hinv : ∀ pre, (run (crawlStep pages) w pre).Inv pages :=
    run_invariant (crawlStep pages) (fun _ e h => inv_step e h) hstart
  intro pre _
  refine ⟨fun c hc i page hpage hbefore => ?_, ?_⟩
  · have hresumable := (hinv pre).cursor
    rw [hc] at hresumable
    exact hresumable.before hpage hbefore
  · -- what was tried when the flag was committed is still tried
    rintro ⟨before, e, after, rfl, hmark, -⟩
    rw [run_append]
    exact ((hinv before).point _ hmark).mono (attempted_subset_run _ _)

/-! ## Section 5: The commits of one page -/

/-- The commits of a page: its records, its counters, and what the loop does next. -/
def pageCommits (page : FetchPage κ) (outcome : RecordVersion → RecordOutcome)
    (reached : Bool) : List CrawlEvent :=
  (page.nodes.map fun v => .attempt (outcome v)) ++ .commit ::
    if page.hasMore then [.commit, .budget reached] else [.commit, .commit]

/-- The commit-level world of a running backlog job. -/
def ofJob (w : SyncWorld κ) (a : ActiveJob κ) (attempted : List RecordVersion) :
    CrawlWorld κ where
  cursor := w.cursor
  backlogComplete := w.backlogComplete
  attempted := attempted
  applied := w.applied
  job := a.job
  point := some <| match a.phase with
    | .crawling => .fetch a.crawl.cursor a.crawl.isFirstPage
    | .pageFetched page => .records page page.nodes {}
    | .ended success => .ended success

/-- The records of a page, tried one after another. -/
theorem run_attempts (w : CrawlWorld κ) (page : FetchPage κ) (rest : List RecordVersion)
    (counts : PageCounts) (outcome : RecordVersion → RecordOutcome)
    (hpoint : w.point = some (.records page rest counts)) :
    run (crawlStep pages) w (rest.map fun v => .attempt (outcome v)) =
      { w with
        attempted := w.attempted ++ rest
        applied := w.applied ++ rest.filter fun v => outcome v != RecordOutcome.failed
        job := { w.job with
          errorCount := w.job.errorCount + rest.countP fun v => outcome v == .failed }
        point := some (.records page [] (counts.addAll outcome rest)) } := by
  induction rest generalizing w counts with
  | nil =>
    cases w
    cases hpoint
    simp [PageCounts.addAll]
  | cons v rest ih =>
    -- one record is committed, and the rest is a shorter page with its counters
    rw [List.map_cons, run_cons, crawlStep, attempt, hpoint, ih _ _ rfl, PageCounts.addAll_cons]
    cases hout : outcome v <;> simp [hout, Nat.add_assoc, Nat.add_comm 1]

/-- Taken without interruption, the commits of a page of a backlog crawl are what
`SyncWorld.processPage` does in one step. -/
theorem processPage_of_commits {w : SyncWorld κ} {a : ActiveJob κ} {page : FetchPage κ}
    (hactive : w.active = some a) (hphase : a.phase = .pageFetched page)
    (hmode : a.crawl.incrementalSince = none) (hfirst : a.crawl.isFirstPage = false)
    (outcome : RecordVersion → RecordOutcome) (now : Instant)
    (attempted : List RecordVersion) :
    ∃ a', (w.processPage outcome now).active = some a' ∧
      run (crawlStep pages) (ofJob w a attempted)
          (pageCommits page outcome (decide (a.crawl.deadline ≤ now))) =
        ofJob (w.processPage outcome now) a' (attempted ++ page.nodes) := by
  have hpoint : (ofJob w a attempted).point = some (.records page page.nodes {}) := by
    simp [ofJob, hphase]
  rw [pageCommits, run_append, run_attempts _ _ _ _ _ hpoint]
  cases hmore : page.hasMore with
  | true =>
    have hstep : (w.processPage outcome now).active = some { a with
        job := SyncWorld.countPage a.job page.nodes outcome
        crawl := { a.crawl with
          cursor := page.nextCursor, received := a.crawl.received ++ page.nodes }
        phase := if a.crawl.deadline ≤ now then .ended true else .crawling } := by
      simp only [SyncWorld.processPage, hactive, hphase, hmore, if_true]
    refine ⟨_, hstep, ?_⟩
    -- the budget is asked after the cursor is persisted
    by_cases hdeadline : a.crawl.deadline ≤ now
    · simp [crawlStep, commit, checkBudget, recordProgress, ofJob, SyncWorld.processPage, hactive,
        hphase, hmode, hmore, hdeadline, SyncWorld.countPage, PageCounts.addAll]
    · simp [crawlStep, commit, checkBudget, recordProgress, ofJob, SyncWorld.processPage, hactive,
        hphase, hmode, hmore, hdeadline, hfirst, SyncWorld.countPage, PageCounts.addAll]
  | false =>
    have hstep : (w.processPage outcome now).active = some { a with
        job := SyncWorld.countPage a.job page.nodes outcome
        crawl := { a.crawl with received := a.crawl.received ++ page.nodes }
        phase := .ended true } := by
      simp only [SyncWorld.processPage, hactive, hphase, hmore, Bool.false_eq_true, if_false]
    refine ⟨_, hstep, ?_⟩
    simp [crawlStep, commit, recordProgress, ofJob, SyncWorld.processPage, hactive, hphase, hmode,
      hmore, SyncWorld.countPage, PageCounts.addAll]

end CrawlWorld

/-- Two pages of one record each. -/
def twoStaticPages : Option ℕ → FetchPage ℕ
  | none => ⟨[⟨1, 10, ""⟩], some 2, true⟩
  | some _ => ⟨[⟨2, 20, ""⟩], none, false⟩

/-- The first run dies after it persisted its cursor, the second resumes there and completes. -/
def crashAndResume : List CrawlEvent :=
  [.start, .fetch none, .attempt .created, .commit, .commit, .crash,
    .start, .fetch none, .attempt .failed, .commit, .commit, .commit]

/-- The second run tries only the second page, and both have been tried when it records the
crawl complete. -/
theorem crawl_covers_crashAndResume :
    CrawledThrough twoStaticPages (run (crawlStep twoStaticPages) {} crashAndResume).attempted :=
  (CrawlWorld.crawl_covers twoStaticPages {} rfl rfl crashAndResume crashAndResume
    List.prefix_rfl).2 ⟨crashAndResume.take 11, .commit, [], rfl, rfl, rfl⟩

end AyushOms.Sync
