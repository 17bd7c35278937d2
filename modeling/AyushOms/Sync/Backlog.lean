import AyushOms.Lib.Run
import AyushOms.Sync.Service

/-!
# When the Backlog Counts as Crawled

A run may skip the historical backlog when the `backlog_complete` flag says so, and, as long as
the flag was never written, when a job has succeeded and no resume cursor is stored. The
second rule infers a finished crawl from the absence of a cursor.

## Main results

- `SyncWorld.incremental_after_finished_crawl`: along steps that do not lose the cursor of an
  unfinished crawl, an incremental run starts only after a crawl that reached the last page.
- `lost_cursor_counts_as_finished`: a resume cursor that is rejected, and a restart that fails
  too, make the next run incremental although no crawl was ever finished.
-/

namespace AyushOms.Sync

open AyushOms.Lib

namespace SyncWorld

variable {κ : Type*}

/-! ## Section 1: What an incremental run presupposes -/

/-- This step takes a backlog crawl past a page without a successor. -/
def FinishesCrawl (w : SyncWorld κ) : SyncEvent → Prop
  | .processPage _ _ => ∃ a page, w.active = some a ∧ a.phase = .pageFetched page ∧
      a.crawl.incrementalSince = none ∧ page.hasMore = false
  | _ => False

/-- A crawl has reached the last page, and the backlog has not been reset since. -/
def FinishedSinceReset (adapter : IntegrationAdapter κ) (w : SyncWorld κ)
    (es : List SyncEvent) : Prop :=
  ∃ pre e post, es = pre ++ e :: post ∧ (run (syncStep adapter) w pre).FinishesCrawl e ∧
    .resetBacklog ∉ post

/-- This step starts a run in incremental mode. -/
def StartsIncremental (w : SyncWorld κ) : SyncEvent → Prop
  | .startSync _ syncType _ => w.active = none ∧ (w.incrementalSince syncType).isSome
  | _ => False

/-- No sync has ever run for the entity. -/
structure Untouched (w : SyncWorld κ) : Prop where
  jobs : w.jobs = []
  cursor : w.cursor = none
  backlogComplete : w.backlogComplete = none
  active : w.active = none

/-! ## Section 2: The guard -/

/-- The inference from the cursor is out of play: no job has succeeded yet, or the flag is
written. -/
def NotInferring (w : SyncWorld κ) : Prop := w.lastSuccessAt = none ∨ w.backlogComplete ≠ none

/-- The steps that do not lose the cursor of an unfinished crawl. A rejected cursor is cleared
before the restart is known to succeed, and a page that has a successor may fail to name it. -/
def KeepsCursor (w : SyncWorld κ) : SyncEvent → Prop
  | .fetchPage fault retryFault => ∀ a errorType, w.active = some a → a.phase = .crawling →
      fault = some errorType → resetsCursor a.crawl errorType = true → retryFault.isSome →
      w.NotInferring
  | .processPage _ _ => ∀ a page, w.active = some a → a.phase = .pageFetched page →
      a.crawl.incrementalSince = none → page.hasMore = true →
      page.nextCursor.isSome ∨ w.backlogComplete ≠ none
  | _ => True

/-! ## Section 3: The invariant -/

/-- Without a cursor no job has succeeded. -/
def CursorKept (w : SyncWorld κ) : Prop := w.lastSuccessAt = none ∨ w.cursor.isSome

/-- What a running crawl owes while the flag is unwritten: a page in flight will write the
cursor or the flag, and a crawl that ended with success has left its cursor. -/
def PhaseKept (w : SyncWorld κ) : Phase κ → Prop
  | .crawling => w.CursorKept
  | .pageFetched _ => True
  | .ended true => w.cursor.isSome
  | .ended false => w.CursorKept

/-- As long as the flag is unwritten, the missing cursor is never mistaken for a finished
crawl, and every run is a crawl. -/
structure Unflagged (w : SyncWorld κ) : Prop where
  idle : w.active = none → w.CursorKept
  running : ∀ a, w.active = some a → a.crawl.incrementalSince = none ∧ w.PhaseKept a.phase

/-- The invariant of a world in which `finished` says whether a crawl has been finished since
the last reset. -/
structure BacklogKnown (w : SyncWorld κ) (finished : Prop) : Prop where
  flagged : w.backlogComplete = some true → finished
  unflagged : w.backlogComplete = none → w.Unflagged

theorem Untouched.backlogKnown {w : SyncWorld κ} (h : w.Untouched) {finished : Prop} :
    w.BacklogKnown finished where
  flagged hflag := by
    rw [h.backlogComplete] at hflag
    cases hflag
  unflagged _ := by
    refine ⟨fun _ => Or.inl ?_, fun a hactive => ?_⟩
    · simp [lastSuccessAt, h.jobs]
    · rw [h.active] at hactive
      cases hactive

/-- While the flag is unwritten no run starts in incremental mode. -/
theorem Unflagged.incrementalSince_eq_none {w : SyncWorld κ} (h : w.Unflagged)
    (hidle : w.active = none) (syncType : SyncType) :
    w.incrementalSince syncType = none := by
  unfold incrementalSince
  split
  · next hmode =>
    obtain ⟨_, hcursor, _⟩ := hmode
    -- the inference would need a success and no cursor
    rcases h.idle hidle with hnone | hsome
    · exact hnone
    · rw [Option.isNone_iff_eq_none.mp hcursor] at hsome
      cases hsome
  · rfl

/-- An incremental run starts only where a crawl has been finished. -/
theorem BacklogKnown.finished {w : SyncWorld κ} {finished : Prop} (h : w.BacklogKnown finished)
    {e : SyncEvent} (hstart : w.StartsIncremental e) : finished := by
  cases e with
  | startSync now syncType registered =>
    obtain ⟨hidle, hsince⟩ := hstart
    cases hflag : w.backlogComplete with
    | none =>
      rw [(h.unflagged hflag).incrementalSince_eq_none hidle] at hsince
      cases hsince
    | some explicit =>
      simp only [incrementalSince] at hsince
      split at hsince
      · next hmode =>
        obtain ⟨_, _, hknown⟩ := hmode
        simp only [backlogKnownComplete, hflag] at hknown
        exact h.flagged (by rw [hflag, hknown])
      · cases hsince
  | _ => exact hstart.elim

/-! ## Section 4: One step -/

theorem backlogKnown_change {w : SyncWorld κ} {finished : Prop} (v : RecordVersion)
    (h : w.BacklogKnown finished) : (w.change v).BacklogKnown finished :=
  ⟨h.flagged, fun hflag => ⟨(h.unflagged hflag).idle, fun a hactive => by
    obtain ⟨hmode, hphase⟩ := (h.unflagged hflag).running a hactive
    refine ⟨hmode, ?_⟩
    cases hp : a.phase with
    | crawling => rwa [hp] at hphase
    | pageFetched page => exact True.intro
    | ended success => cases success <;> rwa [hp] at hphase⟩⟩

theorem backlogKnown_startSync {w : SyncWorld κ} {finished : Prop} (now : Instant)
    (syncType : SyncType) (registered : Bool) (h : w.BacklogKnown finished) :
    (w.startSync now syncType registered).BacklogKnown finished := by
  cases hactive : w.active with
  | some a =>
    simp only [startSync, hactive]
    exact h
  | none =>
    refine ⟨fun hflag => h.flagged (by simpa [startSync, hactive] using hflag), fun hflag => ?_⟩
    have hflag' : w.backlogComplete = none := by simpa [startSync, hactive] using hflag
    have hkept : w.CursorKept := (h.unflagged hflag').idle hactive
    have hmode : w.incrementalSince syncType = none :=
      (h.unflagged hflag').incrementalSince_eq_none hactive syncType
    refine ⟨fun hidle => by simp [startSync, hactive] at hidle, fun a ha => ?_⟩
    simp only [startSync, hactive, Option.some.injEq] at ha
    subst ha
    refine ⟨hmode, ?_⟩
    cases registered with
    | true => simpa [startSync, hactive, PhaseKept, CursorKept, lastSuccessAt] using hkept
    | false => simpa [startSync, hactive, PhaseKept, CursorKept, lastSuccessAt] using hkept

theorem backlogKnown_fetchPage {w : SyncWorld κ} {finished : Prop}
    (adapter : IntegrationAdapter κ) (fault retryFault : Option String)
    (h : w.BacklogKnown finished) (hsafe : w.KeepsCursor (.fetchPage fault retryFault)) :
    (w.fetchPage adapter fault retryFault).BacklogKnown finished := by
  cases hactive : w.active with
  | none =>
    simp only [fetchPage, hactive]
    exact h
  | some a =>
    cases hphase : a.phase with
    | pageFetched page =>
      simp only [fetchPage, hactive, hphase]
      exact h
    | ended success =>
      simp only [fetchPage, hactive, hphase]
      exact h
    | crawling =>
      have hcrawl : w.backlogComplete = none → a.crawl.incrementalSince = none ∧ w.CursorKept := by
        intro hflag
        have hrunning := (h.unflagged hflag).running a hactive
        rwa [hphase] at hrunning
      cases fault with
      | none =>
        simp only [fetchPage, hactive, hphase]
        refine ⟨h.flagged, fun hflag => ⟨nofun, fun a' ha' => ?_⟩⟩
        cases ha'
        exact ⟨(hcrawl hflag).1, True.intro⟩
      | some errorType =>
        cases hreset : resetsCursor a.crawl errorType with
        | false =>
          simp only [fetchPage, hactive, hphase, hreset, Bool.false_eq_true, if_false, failPage]
          refine ⟨h.flagged, fun hflag => ⟨nofun, fun a' ha' => ?_⟩⟩
          cases ha'
          exact hcrawl hflag
        | true =>
          cases retryFault with
          | none =>
            -- the restarted crawl is in flight: its page writes a cursor or the flag
            simp only [fetchPage, hactive, hphase, hreset, if_true]
            refine ⟨h.flagged, fun hflag => ⟨nofun, fun a' ha' => ?_⟩⟩
            cases ha'
            exact ⟨(hcrawl hflag).1, True.intro⟩
          | some retryError =>
            -- the cursor is gone and the job fails: the guard leaves nothing to infer from
            simp only [fetchPage, hactive, hphase, hreset, if_true, failPage]
            refine ⟨h.flagged, fun hflag => ⟨nofun, fun a' ha' => ?_⟩⟩
            cases ha'
            rcases hsafe a errorType hactive hphase rfl hreset rfl with hnone | hsome
            · exact ⟨(hcrawl hflag).1, Or.inl hnone⟩
            · exact absurd hflag hsome

theorem backlogKnown_processPage {w : SyncWorld κ} {finished : Prop}
    (outcome : RecordVersion → RecordOutcome) (now : Instant) (h : w.BacklogKnown finished)
    (hsafe : w.KeepsCursor (.processPage outcome now)) :
    (w.processPage outcome now).BacklogKnown
      (finished ∨ w.FinishesCrawl (.processPage outcome now)) := by
  have hlift : w.BacklogKnown (finished ∨ w.FinishesCrawl (.processPage outcome now)) :=
    ⟨fun hflag => Or.inl (h.flagged hflag), h.unflagged⟩
  cases hactive : w.active with
  | none =>
    simp only [processPage, hactive]
    exact hlift
  | some a =>
    cases hphase : a.phase with
    | crawling =>
      simp only [processPage, hactive, hphase]
      exact hlift
    | ended success =>
      simp only [processPage, hactive, hphase]
      exact hlift
    | pageFetched page =>
      cases hmode : a.crawl.incrementalSince with
      | some since =>
        -- an incremental run writes neither, and runs only when the flag is written
        have hflagged : w.backlogComplete ≠ none := by
          intro hflag
          rw [((h.unflagged hflag).running a hactive).1] at hmode
          cases hmode
        cases hmore : page.hasMore with
        | true =>
          simp only [processPage, hactive, hphase, hmode, hmore, Option.isNone_some, if_true,
            Bool.false_eq_true, if_false]
          exact ⟨hlift.flagged, fun hflag => absurd hflag hflagged⟩
        | false =>
          simp only [processPage, hactive, hphase, hmode, hmore, Option.isNone_some,
            Bool.false_eq_true, if_false]
          exact ⟨hlift.flagged, fun hflag => absurd hflag hflagged⟩
      | none =>
        cases hmore : page.hasMore with
        | true =>
          simp only [processPage, hactive, hphase, hmode, hmore, Option.isNone_none, if_true]
          refine ⟨hlift.flagged, fun hflag => ⟨nofun, fun a' ha' => ?_⟩⟩
          cases ha'
          have hcursor : page.nextCursor.isSome := by
            rcases hsafe a page hactive hphase hmode hmore with hsome | hwritten
            · exact hsome
            · exact absurd hflag hwritten
          refine ⟨rfl, ?_⟩
          split
          · exact hcursor
          · exact Or.inr hcursor
        | false =>
          simp only [processPage, hactive, hphase, hmode, hmore, Option.isNone_none, if_true,
            Bool.false_eq_true, if_false]
          exact ⟨fun _ => Or.inr ⟨a, page, hactive, hphase, hmode, hmore⟩, nofun⟩

theorem backlogKnown_completeSync {w : SyncWorld κ} {finished : Prop} (now : Instant)
    (h : w.BacklogKnown finished) : (w.completeSync now).BacklogKnown finished := by
  cases hactive : w.active with
  | none =>
    simp only [completeSync, hactive]
    exact h
  | some a =>
    cases hphase : a.phase with
    | crawling =>
      simp only [completeSync, hactive, hphase]
      exact h
    | pageFetched page =>
      simp only [completeSync, hactive, hphase]
      exact h
    | ended success =>
      simp only [completeSync, hactive, hphase]
      refine ⟨h.flagged, fun hflag => ⟨fun _ => ?_, fun a' ha' => ?_⟩⟩
      · have hrunning := ((h.unflagged hflag).running a hactive).2
        rw [hphase] at hrunning
        -- a failed job is no success, and a successful one has left its cursor
        cases success with
        | true => exact Or.inr hrunning
        | false =>
          rcases hrunning with hnone | hsome
          · refine Or.inl ?_
            simpa [lastSuccessAt] using hnone
          · exact Or.inr hsome
      · cases ha'

/-- One step keeps the invariant, a step that finishes a crawl establishes it, and a reset
starts it afresh. -/
theorem backlogKnown_step (adapter : IntegrationAdapter κ) {w : SyncWorld κ} {finished : Prop}
    {e : SyncEvent} (h : w.BacklogKnown finished) (hsafe : w.KeepsCursor e) :
    (syncStep adapter w e).BacklogKnown
      (e ≠ .resetBacklog ∧ finished ∨ w.FinishesCrawl e) := by
  have hmono : ∀ {w' : SyncWorld κ} {p q : Prop}, (p → q) → w'.BacklogKnown p →
      w'.BacklogKnown q := fun himp hw => ⟨fun hflag => himp (hw.flagged hflag), hw.unflagged⟩
  cases e with
  | change v => exact hmono (fun hf => Or.inl ⟨nofun, hf⟩) (backlogKnown_change v h)
  | startSync now syncType registered =>
    exact hmono (fun hf => Or.inl ⟨nofun, hf⟩) (backlogKnown_startSync now syncType registered h)
  | fetchPage fault retryFault =>
    exact hmono (fun hf => Or.inl ⟨nofun, hf⟩)
      (backlogKnown_fetchPage adapter fault retryFault h hsafe)
  | processPage outcome now =>
    exact hmono (fun hf => hf.imp_left fun hf => ⟨nofun, hf⟩)
      (backlogKnown_processPage outcome now h hsafe)
  | completeSync now =>
    exact hmono (fun hf => Or.inl ⟨nofun, hf⟩) (backlogKnown_completeSync now h)
  | resetBacklog => exact ⟨nofun, nofun⟩

/-! ## Section 5: Runs -/

theorem finishedSinceReset_concat {adapter : IntegrationAdapter κ} {w : SyncWorld κ}
    {es : List SyncEvent} {e : SyncEvent}
    (h : e ≠ .resetBacklog ∧ w.FinishedSinceReset adapter es ∨
      (run (syncStep adapter) w es).FinishesCrawl e) :
    w.FinishedSinceReset adapter (es ++ [e]) := by
  rcases h with ⟨hne, pre, e', post, rfl, hfinish, hpost⟩ | hfinish
  · refine ⟨pre, e', post ++ [e], by simp, hfinish, ?_⟩
    rw [List.mem_append, List.mem_singleton]
    rintro (hmem | heq)
    · exact hpost hmem
    · exact hne heq.symm
  · exact ⟨es, e, [], rfl, hfinish, List.not_mem_nil⟩

/-- Along steps that keep the cursor, the invariant holds with the crawls finished so far. -/
theorem backlogKnown_run {adapter : IntegrationAdapter κ} {w : SyncWorld κ} (h : w.Untouched)
    (es : List SyncEvent) (hsafe : Along (syncStep adapter) KeepsCursor w es) :
    (run (syncStep adapter) w es).BacklogKnown (w.FinishedSinceReset adapter es) := by
  -- from the last event backwards: what is finished grows at the end of the history
  induction es using List.reverseRecOn with
  | nil => exact h.backlogKnown
  | append_singleton es e ih =>
    obtain ⟨hes, hlast⟩ := along_append.mp hsafe
    have hstep := backlogKnown_step adapter (ih hes) hlast.1
    rw [run_append]
    exact ⟨fun hflag => finishedSinceReset_concat (hstep.flagged hflag), hstep.unflagged⟩

/-- Along steps that do not lose the cursor of an unfinished crawl, an incremental run starts
only when some crawl has reached the last page since the last reset. -/
theorem incremental_after_finished_crawl (adapter : IntegrationAdapter κ) {w : SyncWorld κ}
    (h : w.Untouched) (es : List SyncEvent)
    (hsafe : Along (syncStep adapter) KeepsCursor w es) :
    ∀ pre e post, es = pre ++ e :: post →
      (run (syncStep adapter) w pre).StartsIncremental e →
        w.FinishedSinceReset adapter pre := by
  rintro pre e post rfl hstart
  exact (backlogKnown_run h pre (along_append.mp hsafe).1).finished hstart

end SyncWorld

/-! ## Section 6: A lost cursor -/

/-- A provider with two pages of one record each. -/
def twoPages : IntegrationAdapter ℕ where
  fetch _ cursor _ :=
    match cursor with
    | none => ⟨[⟨1, 10, ""⟩], some 2, true⟩
    | some _ => ⟨[⟨2, 5, ""⟩], none, false⟩
  fetchIncremental _ _ _ _ := ⟨[], none, false⟩

/-- The first crawl is cut by its time budget after one page. The next job's resume cursor is
rejected, the first page cannot be fetched either, and the job fails. -/
def rejectedTwice : List SyncEvent :=
  [.startSync 0 .full true, .fetchPage none none,
    .processPage (fun _ => .created) maxEntitySyncDuration, .completeSync 500000000,
    .startSync 600000000 .full true, .fetchPage (some "validation_error") (some "http_503"),
    .completeSync 600000001]

/-- No step of that history reaches the last page. -/
theorem rejectedTwice_finishes_nothing :
    Along (syncStep twoPages) (fun w e => ¬ w.FinishesCrawl e) {} rejectedTwice := by
  refine ⟨not_false, not_false, ?_, not_false, not_false, not_false, not_false, True.intro⟩
  rintro ⟨a, page, hactive, hphase, -, hmore⟩
  -- the only page that was processed is the first one, which has a successor
  cases hactive
  cases hphase
  cases hmore

/-- A resume cursor that is rejected, and a restart that fails too, make the next run
incremental although no crawl has reached the last page. -/
theorem lost_cursor_counts_as_finished :
    ({} : SyncWorld ℕ).Untouched ∧
      (run (syncStep twoPages) {} rejectedTwice).StartsIncremental
        (.startSync 700000000 .incremental true) ∧
      ¬ ({} : SyncWorld ℕ).FinishedSinceReset twoPages rejectedTwice := by
  refine ⟨⟨rfl, rfl, rfl, rfl⟩, ⟨by decide, by decide⟩, ?_⟩
  rintro ⟨pre, e, post, heq, hfinish, -⟩
  exact along_iff_forall_split.mp rejectedTwice_finishes_nothing pre e post heq hfinish

/-- One job that reads both pages. -/
def crawledThrough : List SyncEvent :=
  [.startSync 0 .full true, .fetchPage none none, .processPage (fun _ => .created) 1,
    .fetchPage none none, .processPage (fun _ => .created) 2, .completeSync 3]

/-- Both pages name what follows them. -/
theorem crawledThrough_keepsCursor :
    Along (syncStep twoPages) SyncWorld.KeepsCursor {} crawledThrough := by
  refine ⟨True.intro, ?_, ?_, ?_, ?_, True.intro, True.intro⟩
  · rintro a _ _ _ ⟨⟩
  · rintro a page ⟨⟩ ⟨⟩ _ _
    exact Or.inl rfl
  · rintro a _ _ _ ⟨⟩
  · rintro a page ⟨⟩ ⟨⟩ _ ⟨⟩

/-- After that job an incremental run starts with good reason. -/
theorem incremental_after_finished_crawl_twoPages :
    ({} : SyncWorld ℕ).FinishedSinceReset twoPages crawledThrough := by
  have hsafe : Along (syncStep twoPages) SyncWorld.KeepsCursor {}
      (crawledThrough ++ [.startSync 4 .incremental true]) :=
    along_append.mpr ⟨crawledThrough_keepsCursor, by exact ⟨True.intro, True.intro⟩⟩
  exact SyncWorld.incremental_after_finished_crawl twoPages ⟨rfl, rfl, rfl, rfl⟩ _ hsafe
    crawledThrough (.startSync 4 .incremental true) [] rfl ⟨rfl, by decide⟩

end AyushOms.Sync
