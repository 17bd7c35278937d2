import AyushOms.Lib.Run
import AyushOms.Sync.Paging

/-!
# The Incremental Watermark

An incremental run asks the provider for what changed since the last successful job
completed. That moment says nothing about how far the job had read, so the question is which
runs leave no record behind it.

## Main results

- `SyncWorld.inv_step`: what the cursor, the watermark and a running job still owe is kept by
  every step that meets the guard.
- `nothingMissed_throughout`: along guarded steps no record is ever skipped.
- `change_during_completion_is_missed`: a record that changes after the last page was fetched
  and before the job completes is never fetched again.
-/

namespace AyushOms.Sync

open AyushOms.Lib

/-! ## Section 1: What an incremental run must not miss -/

/-- The pages the next incremental run gets to see while the provider holds these records. -/
inductive NextRunPage {κ : Type*} (adapter : IntegrationAdapter κ)
    (records : List RecordVersion) (since : Instant) : FetchPage κ → Prop where
  | first : NextRunPage adapter records since
      (adapter.fetchIncremental records since none pageLimit)
  | next {page : FetchPage κ} : NextRunPage adapter records since page → page.hasMore = true →
      NextRunPage adapter records since
        (adapter.fetchIncremental records since page.nextCursor pageLimit)

namespace SyncWorld

variable {κ : Type*}

/-- Between two jobs, when the next incremental run would ask for the changes since `since`:
every record last updated before that has been applied, or that run still returns it. -/
def NothingMissed (adapter : IntegrationAdapter κ) (w : SyncWorld κ) : Prop :=
  w.active.isNone → ∀ since, w.incrementalSince .incremental = some since →
    ∀ v ∈ w.records, v.updatedAt < since →
      v ∈ w.applied ∨ ∃ page, NextRunPage adapter w.records since page ∧ v ∈ page.nodes

section Position

variable (position : κ → Int ×ₗ ℕ)

/-! ## Section 2: The guard -/

/-- A version that appears now lies ahead of the persisted cursor and of whatever page the
running job holds. -/
def LeavesAhead (w : SyncWorld κ) (v : RecordVersion) : Prop :=
  match w.active with
  | none => Ahead position w.cursor v
  | some a =>
    match a.phase with
    | .crawling => Ahead position w.cursor v ∧ Ahead position a.crawl.cursor v
    | .pageFetched page => page.LeavesAhead position v
    -- the job fetches no further page, so only a later backlog crawl can still see the change
    | .ended true => Ahead position w.cursor v ∧ (w.cursor = none → w.backlogComplete = some false)
    | .ended false => Ahead position w.cursor v

/-- A second fetch that fails loses the cursor while the watermark stays. -/
def RetrySafe (w : SyncWorld κ) (fault retryFault : Option String) : Prop :=
  ∀ a errorType, w.active = some a → a.phase = .crawling → fault = some errorType →
    retryFault.isSome → resetsCursor a.crawl errorType = true →
    w.lastSuccessAt = none ∨ w.backlogComplete = some false

/-- A backlog page is applied before its cursor is persisted, and an incremental run is not
cut while there are pages left. -/
def PageSafe (w : SyncWorld κ) (outcome : RecordVersion → RecordOutcome) (now : Instant) :
    Prop :=
  ∀ a page, w.active = some a → a.phase = .pageFetched page →
    match a.crawl.incrementalSince with
    | none => ∀ v ∈ page.nodes, v ∈ w.records → outcome v ≠ .failed ∨ v ∈ w.applied
    | some _ => page.hasMore = true → now < a.crawl.deadline

/-- An incremental job does not succeed while a record it received is still unapplied. -/
def CompletionSafe (w : SyncWorld κ) : Prop :=
  ∀ a, w.active = some a → a.phase = .ended true → a.crawl.incrementalSince.isSome →
    ∀ v ∈ a.crawl.received, v ∈ w.records → v ∈ w.applied

/-- The steps that leave nothing behind the watermark. -/
def Safe (w : SyncWorld κ) : SyncEvent → Prop
  | .change v => (∀ t, w.lastSuccessAt = some t → t < v.updatedAt) ∧ w.LeavesAhead position v
  | .startSync _ _ _ => True
  | .fetchPage fault retryFault => w.RetrySafe fault retryFault
  | .processPage outcome now => w.PageSafe outcome now
  | .completeSync _ => w.CompletionSafe
  | .resetBacklog => True

/-! ## Section 3: The invariant -/

/-- What holds whenever no page is in flight: what the cursor has passed is applied, and so is
what the watermark has passed when the next run would trust it. -/
structure Settled (w : SyncWorld κ) : Prop where
  behind_cursor : ∀ v ∈ w.records, Ahead position w.cursor v ∨ v ∈ w.applied
  behind_watermark : w.cursor = none → w.backlogComplete ≠ some false →
    ∀ t, w.lastSuccessAt = some t → ∀ v ∈ w.records, v.updatedAt ≤ t → v ∈ w.applied

/-- What a backlog crawl owes. -/
def BacklogInv (w : SyncWorld κ) (crawl : Crawl κ) : Phase κ → Prop
  | .crawling => w.Settled position ∧
      ∀ v ∈ w.records, Ahead position crawl.cursor v ∨ v ∈ w.applied
  | .pageFetched page => ∀ v ∈ w.records, page.Covers position v ∨ v ∈ w.applied
  | .ended true => w.Settled position ∧
      (w.cursor = none → w.backlogComplete ≠ some false → ∀ v ∈ w.records, v ∈ w.applied)
  | .ended false => w.Settled position

/-- The pages an incremental run has still to process hold the version. -/
def StillToCome (crawl : Crawl κ) (v : RecordVersion) : Phase κ → Prop
  | .crawling => Ahead position crawl.cursor v
  | .pageFetched page => page.Covers position v
  | .ended _ => False

/-- What an incremental run since `since` owes: it has received, or is still to receive, what
changed after that. -/
def IncrementalInv (w : SyncWorld κ) (crawl : Crawl κ) (since : Instant) (phase : Phase κ) :
    Prop :=
  w.Settled position ∧ w.cursor = none ∧ (phase ≠ .ended false → w.lastSuccessAt = some since ∧
    (w.backlogComplete ≠ some false → ∀ v ∈ w.records, since < v.updatedAt →
      StillToCome position crawl v phase ∨ v ∈ crawl.received))

/-- The invariant of a running job. -/
def JobInv (w : SyncWorld κ) (a : ActiveJob κ) : Prop :=
  match a.crawl.incrementalSince with
  | none => w.BacklogInv position a.crawl a.phase
  | some since => w.IncrementalInv position a.crawl since a.phase

/-- The invariant of the world. -/
structure Inv (w : SyncWorld κ) : Prop where
  ids_nodup : (w.records.map RecordVersion.id).Nodup
  idle : w.active = none → w.Settled position
  job : ∀ a, w.active = some a → w.JobInv position a

variable {position}

/-- A settled world between two jobs misses nothing. -/
theorem Settled.nothingMissed {w : SyncWorld κ} (h : w.Settled position)
    (adapter : IntegrationAdapter κ) : w.NothingMissed adapter := by
  intro _ since hsince v hv hlt
  simp only [incrementalSince] at hsince
  split at hsince
  · next hmode =>
    obtain ⟨_, hcursor, hknown⟩ := hmode
    refine Or.inl (h.behind_watermark (Option.isNone_iff_eq_none.mp hcursor) ?_ since hsince v hv
      hlt.le)
    intro hflag
    simp [backlogKnownComplete, hflag] at hknown
  · exact absurd hsince (by simp)

/-- A crawl that has read everything its cursor does not leave out settles the world at any
watermark. -/
theorem settled_of_finished {w : SyncWorld κ}
    (hcursor : ∀ v ∈ w.records, Ahead position w.cursor v ∨ v ∈ w.applied)
    (hall : w.cursor = none → w.backlogComplete ≠ some false → ∀ v ∈ w.records, v ∈ w.applied) :
    w.Settled position :=
  ⟨hcursor, fun hnone hflag _ _ v hv _ => hall hnone hflag v hv⟩

/-! ## Section 4: Changes at the provider -/

theorem mem_change {w : SyncWorld κ} {u v : RecordVersion} (hu : u ∈ (w.change v).records) :
    u ∈ w.records ∨ u = v := by
  simp only [change, List.mem_append, List.mem_filter, List.mem_singleton] at hu
  exact hu.imp_left And.left

theorem ids_nodup_change {w : SyncWorld κ} (v : RecordVersion)
    (h : (w.records.map RecordVersion.id).Nodup) :
    ((w.change v).records.map RecordVersion.id).Nodup := by
  rw [change, List.map_append, List.nodup_append]
  refine ⟨h.sublist (List.filter_sublist.map _), List.nodup_singleton _, ?_⟩
  intro i hi j hj
  obtain ⟨r, hr, rfl⟩ := List.mem_map.mp hi
  rw [List.map_singleton, List.mem_singleton] at hj
  rw [hj]
  exact of_decide_eq_true (List.mem_filter.mp hr).2

theorem settled_change {w : SyncWorld κ} (h : w.Settled position) {v : RecordVersion}
    (hfresh : ∀ t, w.lastSuccessAt = some t → t < v.updatedAt)
    (hahead : Ahead position w.cursor v) : (w.change v).Settled position := by
  refine ⟨fun u hu => ?_, fun hcursor hflag t ht u hu hle => ?_⟩
  -- a new version lies ahead of the cursor, and is dated after the watermark
  · rcases mem_change hu with hold | rfl
    · exact h.behind_cursor u hold
    · exact Or.inl hahead
  · rcases mem_change hu with hold | rfl
    · exact h.behind_watermark hcursor hflag t ht u hold hle
    · exact absurd (hfresh t ht) (not_lt.mpr hle)

theorem backlogInv_change {w : SyncWorld κ} {a : ActiveJob κ} {v : RecordVersion}
    (h : w.BacklogInv position a.crawl a.phase) (hactive : w.active = some a)
    (hfresh : ∀ t, w.lastSuccessAt = some t → t < v.updatedAt)
    (hahead : w.LeavesAhead position v) :
    (w.change v).BacklogInv position a.crawl a.phase := by
  simp only [LeavesAhead, hactive] at hahead
  cases hphase : a.phase with
  | crawling =>
    rw [hphase] at h hahead
    refine ⟨settled_change h.1 hfresh hahead.1, fun u hu => ?_⟩
    rcases mem_change hu with hold | rfl
    · exact h.2 u hold
    · exact Or.inl hahead.2
  | pageFetched page =>
    rw [hphase] at h hahead
    intro u hu
    rcases mem_change hu with hold | rfl
    · exact h u hold
    · exact Or.inl (Or.inr hahead)
  | ended success =>
    cases success with
    | false =>
      rw [hphase] at h hahead
      exact settled_change h hfresh hahead
    | true =>
      rw [hphase] at h hahead
      -- without a cursor the crawl is over, and the guard allows a change only after a reset
      refine ⟨settled_change h.1 hfresh hahead.1, fun hcursor hflag u hu => ?_⟩
      exact absurd (hahead.2 hcursor) hflag

theorem incrementalInv_change {w : SyncWorld κ} {a : ActiveJob κ} {since : Instant}
    {v : RecordVersion} (h : w.IncrementalInv position a.crawl since a.phase)
    (hactive : w.active = some a) (hfresh : ∀ t, w.lastSuccessAt = some t → t < v.updatedAt)
    (hahead : w.LeavesAhead position v) :
    (w.change v).IncrementalInv position a.crawl since a.phase := by
  obtain ⟨hsettled, hcursor, hrun⟩ := h
  have hnone : Ahead position w.cursor v := hcursor ▸ ahead_none position v
  refine ⟨settled_change hsettled hfresh hnone, hcursor, fun hphase => ⟨(hrun hphase).1, ?_⟩⟩
  intro hflag u hu hlt
  rcases mem_change hu with hold | rfl
  · exact (hrun hphase).2 hflag u hold hlt
  · simp only [LeavesAhead, hactive] at hahead
    -- the change is ahead of the job, unless the job has fetched its last page
    cases hp : a.phase with
    | crawling =>
      rw [hp] at hahead
      exact Or.inl hahead.2
    | pageFetched page =>
      rw [hp] at hahead
      exact Or.inl (Or.inr hahead)
    | ended success =>
      cases success with
      | false => exact absurd hp hphase
      | true =>
        rw [hp] at hahead
        exact absurd (hahead.2 hcursor) hflag

/-- A change that lies ahead is still owed. -/
theorem inv_change {w : SyncWorld κ} (h : w.Inv position) {v : RecordVersion}
    (hfresh : ∀ t, w.lastSuccessAt = some t → t < v.updatedAt)
    (hahead : w.LeavesAhead position v) : (w.change v).Inv position where
  ids_nodup := ids_nodup_change v h.ids_nodup
  idle hidle := by
    have hnone : w.active = none := hidle
    refine settled_change (h.idle hnone) hfresh ?_
    simpa only [LeavesAhead, hnone] using hahead
  job a hactive := by
    have hjob := h.job a hactive
    unfold JobInv at hjob ⊢
    split at hjob
    · exact backlogInv_change hjob hactive hfresh hahead
    · exact incrementalInv_change hjob hactive hfresh hahead

/-! ## Section 5: The steps of a job -/

/-- An incremental run starts without a cursor, and since the last success. -/
theorem incrementalSince_eq_some {w : SyncWorld κ} {syncType : SyncType} {since : Instant}
    (h : w.incrementalSince syncType = some since) :
    w.cursor = none ∧ w.backlogKnownComplete = true ∧ w.lastSuccessAt = some since := by
  simp only [incrementalSince] at h
  split at h
  · next hmode => exact ⟨Option.isNone_iff_eq_none.mp hmode.2.1, hmode.2.2, h⟩
  · exact absurd h (by simp)

/-- The invariant of the job is all there is to show once a job is active. -/
theorem Inv.of_job {w : SyncWorld κ} {a : ActiveJob κ} (hactive : w.active = some a)
    (hids : (w.records.map RecordVersion.id).Nodup) (hjob : w.JobInv position a) :
    w.Inv position where
  ids_nodup := hids
  idle hnone := absurd (hactive.symm.trans hnone) (by simp)
  job a' ha' := by
    rw [hactive, Option.some.injEq] at ha'
    exact ha' ▸ hjob

/-- A job starts where the cursor or the watermark left off. -/
theorem inv_startSync {w : SyncWorld κ} (h : w.Inv position) (now : Instant)
    (syncType : SyncType) (registered : Bool) :
    (w.startSync now syncType registered).Inv position := by
  unfold startSync
  split
  · exact h
  · next hidle =>
    obtain ⟨hbehind, hmark⟩ := h.idle hidle
    refine Inv.of_job rfl h.ids_nodup ?_
    -- a backlog job resumes at the cursor, an incremental one asks from the watermark on
    cases hsince : w.incrementalSince syncType with
    | none =>
      cases registered with
      | false => exact ⟨hbehind, hmark⟩
      | true => exact ⟨⟨hbehind, hmark⟩, hbehind⟩
    | some since =>
      obtain ⟨hcursor, _, hlast⟩ := incrementalSince_eq_some hsince
      refine ⟨⟨hbehind, hmark⟩, hcursor, fun hphase => ⟨hlast, fun _ v _ _ => Or.inl ?_⟩⟩
      cases registered with
      | false => exact absurd rfl hphase
      | true => exact ahead_none position v

/-- A job that fails leaves a settled world. -/
theorem inv_failPage {w : SyncWorld κ} {a : ActiveJob κ}
    (hids : (w.records.map RecordVersion.id).Nodup) (hsettled : w.Settled position)
    (hcursor : a.crawl.incrementalSince.isSome → w.cursor = none) :
    (w.failPage a).Inv position := by
  refine Inv.of_job rfl hids ?_
  obtain ⟨hbehind, hmark⟩ := hsettled
  simp only [JobInv]
  cases hsince : a.crawl.incrementalSince with
  | none => exact ⟨hbehind, hmark⟩
  | some since => exact ⟨⟨hbehind, hmark⟩, hcursor (by simp [hsince]), fun hp => absurd rfl hp⟩

/-- A crawling job keeps the world settled, and an incremental one has no cursor. -/
theorem JobInv.of_crawling {w : SyncWorld κ} {a : ActiveJob κ} (h : w.JobInv position a)
    (hphase : a.phase = .crawling) :
    w.Settled position ∧ (a.crawl.incrementalSince.isSome → w.cursor = none) := by
  unfold JobInv at h
  split at h
  · next hsince =>
    rw [hphase] at h
    exact ⟨h.1, by simp [hsince]⟩
  · exact ⟨h.1, fun _ => h.2.1⟩

/-- The page the loop asks for covers what lies ahead of its cursor. -/
theorem nextPage_covers {adapter : IntegrationAdapter κ} (hpages : PagesChanges position adapter)
    {w : SyncWorld κ} (hids : (w.records.map RecordVersion.id).Nodup) {crawl : Crawl κ}
    {cursor : Option κ} {v : RecordVersion} (hv : v ∈ w.records)
    (hahead : Ahead position cursor v)
    (hsince : ∀ since, crawl.incrementalSince = some since → since < v.updatedAt) :
    (w.nextPage adapter crawl cursor).Covers position v := by
  have hlimit : 0 < pageLimit := by decide
  unfold nextPage
  split
  · next since hmode =>
    exact hpages.fetchIncremental_covers hlimit hids hv hahead (hsince since hmode)
  · exact hpages.fetch_covers hlimit hids hv hahead

/-- A fetch from the job's cursor, or from the first page after a reset, owes what it covers. -/
theorem inv_pageFetched {adapter : IntegrationAdapter κ} (hpages : PagesChanges position adapter)
    {w : SyncWorld κ} {a : ActiveJob κ} (h : w.JobInv position a)
    (hids : (w.records.map RecordVersion.id).Nodup) (hphase : a.phase = .crawling)
    {persisted cursor : Option κ} (hpersisted : persisted = w.cursor ∨ persisted = none)
    (hcursor : cursor = a.crawl.cursor ∨ cursor = none) :
    Inv position { w with
      cursor := persisted
      active := some { a with
        crawl := { a.crawl with cursor := cursor, isFirstPage := false }
        phase := .pageFetched (w.nextPage adapter a.crawl cursor) } } := by
  -- asking from the first page again covers at least as much
  have hahead : ∀ v, Ahead position a.crawl.cursor v → Ahead position cursor v := by
    rcases hcursor with rfl | rfl
    · exact fun _ hv => hv
    · exact fun v _ => ahead_none position v
  refine Inv.of_job rfl hids ?_
  unfold JobInv at h ⊢
  split at h
  · next hmode =>
    rw [hphase] at h
    simp only [hmode]
    intro v hv
    refine (h.2 v hv).imp_left fun hv' => nextPage_covers hpages hids hv (hahead v hv') ?_
    exact fun since hsince => absurd (hmode.symm.trans hsince) (by simp)
  · next since hmode =>
    obtain ⟨⟨hbehind, hmark⟩, hnone, hrun⟩ := h
    obtain rfl : persisted = none := hpersisted.elim (·.trans hnone) id
    simp only [hmode]
    refine ⟨⟨fun v _ => Or.inl (ahead_none position v), fun _ => hmark hnone⟩, rfl, fun _ => ?_⟩
    obtain ⟨hlast, howed⟩ := hrun (by simp [hphase])
    refine ⟨hlast, fun hflag v hv hlt => ?_⟩
    rw [hphase] at howed
    refine (howed hflag v hv hlt).imp_left fun hv' =>
      nextPage_covers hpages hids hv (hahead v hv') fun since' hsince => ?_
    rw [hmode, Option.some.injEq] at hsince
    exact hsince ▸ hlt

/-- A fetch keeps what is owed, unless it loses the cursor of an unfinished crawl. -/
theorem inv_fetchPage {adapter : IntegrationAdapter κ} (hpages : PagesChanges position adapter)
    {w : SyncWorld κ} (h : w.Inv position) {fault retryFault : Option String}
    (hsafe : w.RetrySafe fault retryFault) :
    (w.fetchPage adapter fault retryFault).Inv position := by
  unfold fetchPage
  split
  · exact h
  · next a hactive =>
    have hjob := h.job a hactive
    split
    · exact h
    · exact h
    · next hphase =>
      obtain ⟨hsettled, hcursor⟩ := hjob.of_crawling hphase
      split
      · exact inv_pageFetched hpages hjob h.ids_nodup hphase (Or.inl rfl) (Or.inl rfl)
      · next errorType =>
        split
        · next hreset =>
          split
          · next retryError =>
            refine inv_failPage h.ids_nodup ⟨fun v _ => Or.inl (ahead_none position v), ?_⟩
              fun _ => rfl
            -- the cursor is lost: nothing may trust the watermark any more
            intro _ hflag t ht
            rcases hsafe a errorType hactive hphase rfl rfl hreset with hlast | hfalse
            · exact absurd (hlast.symm.trans ht) (by simp)
            · exact absurd hfalse hflag
          · exact inv_pageFetched hpages hjob h.ids_nodup hphase (Or.inr rfl) (Or.inr rfl)
        · exact inv_failPage h.ids_nodup hsettled hcursor

/-- The records of a page that the loop applies. -/
def kept (page : FetchPage κ) (outcome : RecordVersion → RecordOutcome) : List RecordVersion :=
  page.nodes.filter fun v => outcome v != RecordOutcome.failed

theorem mem_kept {page : FetchPage κ} {outcome : RecordVersion → RecordOutcome}
    {v : RecordVersion} : v ∈ kept page outcome ↔ v ∈ page.nodes ∧ outcome v ≠ .failed := by
  simp [kept, List.mem_filter]

/-- Applying more keeps a world settled. -/
theorem Settled.apply {w : SyncWorld κ} (h : w.Settled position) (more : List RecordVersion)
    (active : Option (ActiveJob κ)) :
    Settled position { w with applied := w.applied ++ more, active := active } where
  behind_cursor v hv := (h.behind_cursor v hv).imp_right fun hold => List.mem_append_left _ hold
  behind_watermark hcursor hflag t ht v hv hle :=
    List.mem_append_left _ (h.behind_watermark hcursor hflag t ht v hv hle)

/-- A backlog page whose records are all applied leaves owed what it leaves ahead. -/
theorem owed_of_kept {w : SyncWorld κ} {page : FetchPage κ}
    {outcome : RecordVersion → RecordOutcome}
    (howed : ∀ v ∈ w.records, page.Covers position v ∨ v ∈ w.applied)
    (hpage : ∀ v ∈ page.nodes, v ∈ w.records → outcome v ≠ .failed ∨ v ∈ w.applied)
    {v : RecordVersion} (hv : v ∈ w.records) :
    page.LeavesAhead position v ∨ v ∈ w.applied ++ kept page outcome := by
  rcases howed v hv with (hnode | hleft) | hold
  · rcases hpage v hnode hv with hdone | hold
    · exact Or.inr (List.mem_append_right _ (mem_kept.mpr ⟨hnode, hdone⟩))
    · exact Or.inr (List.mem_append_left _ hold)
  · exact Or.inl hleft
  · exact Or.inr (List.mem_append_left _ hold)

theorem inv_processPage_backlog {w : SyncWorld κ} {a : ActiveJob κ} {page : FetchPage κ}
    {outcome : RecordVersion → RecordOutcome} {now : Instant}
    (hids : (w.records.map RecordVersion.id).Nodup) (hactive : w.active = some a)
    (hphase : a.phase = .pageFetched page) (hmode : a.crawl.incrementalSince = none)
    (howed : ∀ v ∈ w.records, page.LeavesAhead position v ∨ v ∈ w.applied ++ kept page outcome) :
    (w.processPage outcome now).Inv position := by
  simp only [processPage, hactive, hphase, hmode, Option.isNone_none, if_true]
  split
  · have hbehind : ∀ v ∈ w.records, Ahead position page.nextCursor v ∨
        v ∈ w.applied ++ kept page outcome :=
      fun v hv => (howed v hv).imp_left FetchPage.LeavesAhead.ahead
    -- a page without a cursor leaves nothing ahead
    have hall : page.nextCursor = none → ∀ v ∈ w.records, v ∈ w.applied ++ kept page outcome := by
      intro hnone v hv
      refine (howed v hv).resolve_left fun ⟨_, c, hc, _⟩ => ?_
      exact absurd (hnone.symm.trans hc) (by simp)
    refine Inv.of_job rfl hids ?_
    simp only [JobInv]
    split
    · exact ⟨settled_of_finished hbehind fun hnone _ => hall hnone, fun hnone _ => hall hnone⟩
    · exact ⟨settled_of_finished hbehind fun hnone _ => hall hnone, hbehind⟩
  · next hlast =>
    have hall : ∀ v ∈ w.records, v ∈ w.applied ++ kept page outcome := fun v hv =>
      (howed v hv).resolve_left fun hleft => hlast hleft.1
    refine Inv.of_job rfl hids ?_
    simp only [JobInv]
    exact ⟨⟨fun v _ => Or.inl (ahead_none position v), fun _ _ _ _ v hv _ => hall v hv⟩,
      fun _ _ => hall⟩

theorem inv_processPage_incremental {w : SyncWorld κ} {a : ActiveJob κ} {page : FetchPage κ}
    {outcome : RecordVersion → RecordOutcome} {now since : Instant}
    (hids : (w.records.map RecordVersion.id).Nodup) (hactive : w.active = some a)
    (hphase : a.phase = .pageFetched page) (hmode : a.crawl.incrementalSince = some since)
    (hinv : w.IncrementalInv position a.crawl since (.pageFetched page))
    (hbudget : page.hasMore = true → now < a.crawl.deadline) :
    (w.processPage outcome now).Inv position := by
  obtain ⟨hsettled, hcursor, hrun⟩ := hinv
  obtain ⟨hlast, howed⟩ := hrun (by simp)
  simp only [processPage, hactive, hphase, hmode, Option.isNone_some, Bool.false_eq_true, if_false]
  split
  · next hmore =>
    refine Inv.of_job rfl hids ?_
    simp only [JobInv, if_neg (not_le.mpr (hbudget hmore))]
    refine ⟨hsettled.apply _ _, hcursor, fun _ => ⟨hlast, fun hflag v hv hlt => ?_⟩⟩
    -- on this page, on a page to come, or received before
    rcases howed hflag v hv hlt with (hnode | hleft) | hold
    · exact Or.inr (List.mem_append_right _ hnode)
    · exact Or.inl hleft.ahead
    · exact Or.inr (List.mem_append_left _ hold)
  · next hend =>
    refine Inv.of_job rfl hids ?_
    simp only [JobInv]
    refine ⟨hsettled.apply _ _, hcursor, fun _ => ⟨hlast, fun hflag v hv hlt => ?_⟩⟩
    rcases howed hflag v hv hlt with (hnode | hleft) | hold
    · exact Or.inr (List.mem_append_right _ hnode)
    · exact absurd hleft.1 hend
    · exact Or.inr (List.mem_append_left _ hold)

/-- A processed page leaves owed what it leaves ahead. -/
theorem inv_processPage {w : SyncWorld κ} (h : w.Inv position)
    {outcome : RecordVersion → RecordOutcome} {now : Instant} (hsafe : w.PageSafe outcome now) :
    (w.processPage outcome now).Inv position := by
  cases hactive : w.active with
  | none => simpa only [processPage, hactive] using h
  | some a =>
    cases hphase : a.phase with
    | crawling => simpa only [processPage, hactive, hphase] using h
    | ended success => simpa only [processPage, hactive, hphase] using h
    | pageFetched page =>
      have hjob := h.job a hactive
      have hpage := hsafe a page hactive hphase
      unfold JobInv at hjob
      rw [hphase] at hjob
      cases hmode : a.crawl.incrementalSince with
      | none =>
        rw [hmode] at hjob hpage
        exact inv_processPage_backlog h.ids_nodup hactive hphase hmode fun v hv =>
          owed_of_kept hjob hpage hv
      | some since =>
        rw [hmode] at hjob hpage
        exact inv_processPage_incremental h.ids_nodup hactive hphase hmode hjob hpage

/-- A job that fails does not move the watermark. -/
theorem lastSuccessAt_of_failed {w w' : SyncWorld κ} {job : SyncJob}
    (hstatus : job.status = .failed) (hjobs : w'.jobs = w.jobs ++ [job]) :
    w'.lastSuccessAt = w.lastSuccessAt := by
  simp [lastSuccessAt, hjobs, List.filter_append, hstatus]

/-- A job that has ended, in success or not, has kept the world settled. -/
theorem JobInv.of_ended {w : SyncWorld κ} {a : ActiveJob κ} (h : w.JobInv position a)
    {success : Bool} (hphase : a.phase = .ended success) : w.Settled position := by
  unfold JobInv at h
  rw [hphase] at h
  split at h
  · cases success with
    | false => exact h
    | true => exact h.1
  · exact h.1

/-- A job about to succeed has applied every record, unless a backlog crawl is still due. -/
theorem JobInv.all_applied {w : SyncWorld κ} {a : ActiveJob κ} (h : w.JobInv position a)
    (hactive : w.active = some a) (hphase : a.phase = .ended true) (hsafe : w.CompletionSafe)
    (hcursor : w.cursor = none) (hflag : w.backlogComplete ≠ some false) {v : RecordVersion}
    (hv : v ∈ w.records) : v ∈ w.applied := by
  unfold JobInv at h
  rw [hphase] at h
  split at h
  · exact h.2 hcursor hflag v hv
  · next since hmode =>
    obtain ⟨hsettled, _, hrun⟩ := h
    obtain ⟨hlast, howed⟩ := hrun (by simp)
    -- up to the old watermark everything was applied; after it the job has received it
    rcases le_or_gt v.updatedAt since with hle | hlt
    · exact hsettled.behind_watermark hcursor hflag since hlast v hv hle
    · have hreceived : v ∈ a.crawl.received := (howed hflag v hv hlt).resolve_left id
      exact hsafe a hactive hphase (by simp [hmode]) v hreceived hv

/-- A job that ends leaves a settled world, with the watermark at its end when it succeeds. -/
theorem inv_completeSync {w : SyncWorld κ} (h : w.Inv position) {now : Instant}
    (hsafe : w.CompletionSafe) : (w.completeSync now).Inv position := by
  cases hactive : w.active with
  | none => simpa only [completeSync, hactive] using h
  | some a =>
    cases hphase : a.phase with
    | crawling => simpa only [completeSync, hactive, hphase] using h
    | pageFetched page => simpa only [completeSync, hactive, hphase] using h
    | ended success =>
      have hjob := h.job a hactive
      obtain ⟨hbehind, hmark⟩ := hjob.of_ended hphase
      simp only [completeSync, hactive, hphase]
      refine ⟨h.ids_nodup, fun _ => ?_, fun a' ha' => absurd ha' (by simp)⟩
      -- a failed job leaves the watermark where it was, a successful one moves it
      cases success with
      | false =>
        refine ⟨hbehind, fun hcursor hflag t ht => hmark hcursor hflag t ?_⟩
        rwa [lastSuccessAt_of_failed (w := w) (by simp) rfl] at ht
      | true =>
        exact settled_of_finished hbehind fun hcursor hflag v hv =>
          hjob.all_applied hactive hphase hsafe hcursor hflag hv

/-- A reset asks for a fresh crawl, which owes every record again. -/
theorem settled_resetBacklog (w : SyncWorld κ) : w.resetBacklog.Settled position :=
  ⟨fun v _ => Or.inl (ahead_none position v), fun _ hflag => absurd rfl hflag⟩

theorem inv_resetBacklog {w : SyncWorld κ} (h : w.Inv position) :
    w.resetBacklog.Inv position where
  ids_nodup := h.ids_nodup
  idle _ := settled_resetBacklog w
  job a hactive := by
    have hjob := h.job a hactive
    have hsettled : w.resetBacklog.Settled position := settled_resetBacklog w
    unfold JobInv at hjob ⊢
    split at hjob
    · -- a running crawl goes on from the cursor it holds
      cases hphase : a.phase with
      | crawling =>
        rw [hphase] at hjob
        exact ⟨hsettled, hjob.2⟩
      | pageFetched page =>
        rw [hphase] at hjob
        exact hjob
      | ended success =>
        cases success with
        | false => exact hsettled
        | true => exact ⟨hsettled, fun _ hflag => absurd rfl hflag⟩
    · exact ⟨hsettled, rfl, fun hphase =>
        ⟨(hjob.2.2 hphase).1, fun hflag => absurd rfl hflag⟩⟩

/-! ## Section 6: Runs -/

/-- Guarded steps keep the invariant. -/
theorem inv_step {adapter : IntegrationAdapter κ} (hpages : PagesChanges position adapter)
    (w : SyncWorld κ) (e : SyncEvent) (h : w.Inv position) (hsafe : w.Safe position e) :
    (syncStep adapter w e).Inv position := by
  cases e with
  | change v => exact inv_change h hsafe.1 hsafe.2
  | startSync now syncType registered => exact inv_startSync h now syncType registered
  | fetchPage fault retryFault => exact inv_fetchPage hpages h hsafe
  | processPage outcome now => exact inv_processPage h hsafe
  | completeSync now => exact inv_completeSync h hsafe
  | resetBacklog => exact inv_resetBacklog h

/-- The world before the first sync of the entity. -/
def beforeFirstSync (records : List RecordVersion) : SyncWorld κ := { records := records }

theorem inv_beforeFirstSync {records : List RecordVersion}
    (hids : (records.map RecordVersion.id).Nodup) :
    (beforeFirstSync records : SyncWorld κ).Inv position where
  ids_nodup := hids
  idle _ := ⟨fun v _ => Or.inl (ahead_none position v), fun _ _ _ ht => absurd ht (by
    simp [beforeFirstSync, lastSuccessAt])⟩
  job _ hactive := absurd hactive (by simp [beforeFirstSync])

end Position

/-- When the adapter's pages cover what changed and every step is safe, no state of the run
leaves a record behind the watermark: it has been applied or the next run still returns it. -/
theorem nothingMissed_throughout (position : κ → Int ×ₗ ℕ) (adapter : IntegrationAdapter κ)
    (hpages : PagesChanges position adapter) {records : List RecordVersion}
    (hids : (records.map RecordVersion.id).Nodup) (es : List SyncEvent)
    (hsafe : Along (syncStep adapter) (Safe position) (beforeFirstSync records) es) :
    Throughout (syncStep adapter) (NothingMissed adapter) (beforeFirstSync records) es := by
  have hinv : Throughout (syncStep adapter) (Inv position) (beforeFirstSync records) es :=
    throughout_of_along (inv_step hpages) (inv_beforeFirstSync hids) hsafe
  intro pre hpre hidle
  exact ((hinv pre hpre).idle (Option.isNone_iff_eq_none.mp hidle)).nothingMissed adapter hidle

end SyncWorld

/-- A first crawl, a change after it, and the incremental run that picks the change up. -/
def crawlThenCatchUp : List SyncEvent :=
  [.startSync 11 .full true, .fetchPage none none, .processPage (fun _ => .created) 16,
    .completeSync 20, .change ⟨2, 25, "new"⟩, .startSync 30 .incremental true,
    .fetchPage none none, .processPage (fun _ => .updated) 35, .completeSync 40]

theorem nothingMissed_throughout_crawlThenCatchUp :
    Throughout (syncStep (shopifyAdapter serve)) (SyncWorld.NothingMissed (shopifyAdapter serve))
      (SyncWorld.beforeFirstSync [⟨1, 10, "first"⟩]) crawlThenCatchUp := by
  refine SyncWorld.nothingMissed_throughout id _
    (shopifyAdapter_pagesChanges id serve_answersInUpdateOrder) (by decide) _
    ⟨trivial, ?_, ?_, ?_, ⟨?_, ?_⟩, trivial, ?_, ?_, ?_, trivial⟩
  -- the first crawl: no fetch fails, every record is applied
  · rintro a _ _ _ ⟨⟩
  · rintro a page ⟨⟩ _ v _ _
    exact Or.inl (by simp)
  · rintro a ⟨⟩ _ hmode
    exact absurd hmode (by decide)
  -- the change comes after the crawl completed at 20
  · intro t ht
    have hlast : some (20 : Instant) = some t := ht
    obtain rfl := Option.some.inj hlast
    decide
  · exact ahead_none id _
  -- the incremental run ends before its deadline and applies what it received
  · rintro a _ _ _ ⟨⟩
  · rintro a page ⟨⟩ _ _
    decide
  · rintro a ⟨⟩ _ _
    decide

/-! ## Section 7: A missed change -/

/-- A first crawl of one record. Another changes after the only page was fetched, and the job
completes later. -/
def crawlWithLateChange : List SyncEvent :=
  [.startSync 11 .full true, .fetchPage none none, .change ⟨2, 15, "late"⟩,
    .processPage (fun _ => .created) 16, .completeSync 20]

/-- No page of an incremental run holds what changed before its boundary. -/
theorem NextRunPage.since_lt {records : List RecordVersion} {since : Instant}
    {page : FetchPage (Int ×ₗ ℕ)} (h : NextRunPage (shopifyAdapter serve) records since page)
    {v : RecordVersion} (hv : v ∈ page.nodes) : since < v.updatedAt := by
  have hserved : ∀ cursor, v ∈ (serve records ⟨pageLimit, cursor, some since⟩).nodes →
      since < v.updatedAt := fun cursor hnode =>
    (mem_matching.mp (List.mem_of_mem_take hnode)).2.2 since rfl
  cases h with
  | first => exact hserved none hv
  | next => exact hserved _ hv

/-- The late change is neither applied nor ever asked for: the next run wants what changed
after 20. -/
theorem change_during_completion_is_missed :
    ¬ (run (syncStep (shopifyAdapter serve)) (SyncWorld.beforeFirstSync [⟨1, 10, "first"⟩])
      crawlWithLateChange).NothingMissed (shopifyAdapter serve) := by
  intro h
  have hmissed := h (by decide) 20 (by decide) ⟨2, 15, "late"⟩ (by decide) (by decide)
  rcases hmissed with happlied | ⟨page, hpage, hv⟩
  · exact absurd happlied (by decide)
  · exact absurd (hpage.since_lt hv) (by decide)

end AyushOms.Sync
