import AyushOms.Sync.Exclusive

/-!
# What a Pass of the Reaper Frees

An active job keeps `start_sync` from starting another one for its entity. Here: once a pass of the
reaper has written everything it selected, every job that is still active has been heard of since
the pass's cutoff, whatever else happened between the looks and the writes of the pass.

## Main results

- `SeenAll.step`: what every step keeps, from the first look of a pass on
- `reap_frees`: no silent job is left when the pass is through
-/

namespace AyushOms.Sync

open AyushOms.Lib

/-! ## Section 1: Changes the index never refuses -/

/-- Rows that keep their keys and do not become active. -/
theorem OneActive.of_pointwise {jobs jobs' : List Job} (h : OneActive jobs)
    (hlength : jobs'.length = jobs.length)
    (hrows : ∀ (i : ℕ) (j j' : Job), jobs[i]? = some j → jobs'[i]? = some j' →
      j'.key = j.key ∧ (j'.active = true → j.active = true)) : OneActive jobs' := by
  refine List.pairwise_iff_getElem.mpr fun i k hi hk hlt => ?_
  rintro ⟨hactive, hactive', hkey⟩
  have hi₀ : jobs[i]? = some (jobs.get ⟨i, hlength ▸ hi⟩) := List.getElem?_eq_getElem _
  have hk₀ : jobs[k]? = some (jobs.get ⟨k, hlength ▸ hk⟩) := List.getElem?_eq_getElem _
  obtain ⟨hkey₁, hactive₁⟩ := hrows i _ _ hi₀ (List.getElem?_eq_getElem hi)
  obtain ⟨hkey₂, hactive₂⟩ := hrows k _ _ hk₀ (List.getElem?_eq_getElem hk)
  exact List.pairwise_iff_getElem.mp h _ _ _ _ hlt
    ⟨hactive₁ hactive, hactive₂ hactive', hkey₁.symm.trans (hkey.trans hkey₂)⟩

theorem OneActive.modify {jobs : List Job} (h : OneActive jobs) (job : ℕ) {f : Job → Job}
    (hf : ∀ j, (f j).key = j.key ∧ ((f j).active = true → j.active = true)) :
    OneActive (jobs.modify job f) := by
  refine h.of_pointwise (List.length_modify _ _ _) fun i j j' hj hj' => ?_
  by_cases heq : job = i
  · subst heq
    rw [List.getElem?_modify_eq, hj] at hj'
    cases hj'
    exact hf j
  · rw [List.getElem?_modify_ne _ _ heq, hj] at hj'
    cases hj'
    exact ⟨rfl, id⟩

theorem OneActive.map {jobs : List Job} (h : OneActive jobs) {f : Job → Job}
    (hf : ∀ j, (f j).key = j.key ∧ ((f j).active = true → j.active = true)) :
    OneActive (jobs.map f) := by
  refine h.of_pointwise (List.length_map f) fun i j j' hj hj' => ?_
  rw [List.getElem?_map, hj] at hj'
  cases hj'
  exact hf j

namespace Job

theorem active_congr {j j' : Job} (h : j'.status = j.status) : j'.active = j.active := by
  rw [active, active, h]

theorem status_select (session : ℕ) (j : Job) : (j.select session).status = j.status := by
  show ((j.world.rollback session).reapSelect session).row.status =
    (j.world.rollback session).row.status
  unfold JobWorld.reapSelect
  split <;> rfl

/-- The pass has loaded the job while it was active, and has still to write it. -/
structure Marked (p : ℕ) (j : Job) : Prop where
  selected : j.world.selected (passSession p) = true
  held : ∃ copy, j.world.held (passSession p) = some copy ∧ copy.status ∈ activeStatuses

theorem marked_select (p : ℕ) {j : Job} (h : j.status ∈ activeStatuses) :
    Marked p (j.select (passSession p)) := by
  have hheld : (j.world.rollback (passSession p)).getSyncJob (passSession p) = j.world.row := by
    simp [JobWorld.rollback, JobWorld.getSyncJob]
  have hselect : (j.select (passSession p)).world =
      (j.world.rollback (passSession p)).reapSelect (passSession p) := rfl
  have hactive : (j.world.rollback (passSession p)).row.status ∈ activeStatuses := h
  rw [JobWorld.reapSelect, if_pos hactive] at hselect
  refine ⟨by rw [hselect]; exact Function.update_self _ _ _, j.world.row, ?_, h⟩
  rw [hselect]
  show Function.update _ _ _ _ = _
  rw [Function.update_self, hheld]

/-! ## Section 2: What calls do to a marked job -/

variable {p : ℕ} {cutoff now : Instant} {looked : Bool} {j : Job}

theorem Marked.select_other (h : Marked p j) {q : ℕ} (hne : p ≠ q) :
    Marked p (j.select (passSession q)) := by
  have hsession : passSession p ≠ passSession q := by
    unfold passSession
    omega
  obtain ⟨hselected, copy, hheld, hactive⟩ := h
  refine ⟨?_, copy, ?_, hactive⟩
  · exact (selected_reapSelect (j.world.rollback (passSession q)) hsession).trans hselected
  · exact (held_jobStep _ (.reapSelect _) hsession).trans
      ((held_jobStep _ (.rollback _) hsession).trans hheld)

theorem Marked.write_other (h : Marked p j) {session : ℕ} {e : JobEvent}
    (hne : passSession p ≠ e.session) (hselect : ∀ session, e ≠ .reapSelect session) :
    Marked p (j.write now session e) := by
  obtain ⟨hselected, copy, hheld, hactive⟩ := h
  refine ⟨?_, copy, (held_jobStep j.world e hne).trans hheld, hactive⟩
  exact (congrFun (selected_jobStep j.world hselect) _).trans hselected

theorem Marked.reapRecordError (h : Marked p j) (q : ℕ) :
    Marked p (j.write now (passSession q) (.reapRecordError (passSession q))) := by
  by_cases heq : passSession p = passSession q
  · obtain ⟨hselected, copy, hheld, hactive⟩ := h
    rw [← heq]
    have hworld : (j.write now (passSession p) (.reapRecordError (passSession p))).world =
        j.world.recordError (passSession p) := if_pos hselected
    refine ⟨by rw [hworld]; exact hselected, { copy with errorCount := copy.errorCount + 1 }, ?_,
      hactive⟩
    rw [hworld, JobWorld.recordError, JobWorld.update, JobWorld.getSyncJob, hheld]
    exact Function.update_self _ _ _
  · exact h.write_other heq fun _ heq => by cases heq

/-- The pass ends what it has marked. -/
theorem Marked.reapComplete (h : Marked p j) (session : ℕ) :
    (j.write now session (.reapComplete (passSession p) now)).status = .failed := by
  obtain ⟨hselected, copy, hheld, hactive⟩ := h
  have hwrites : j.world.writesStatus (.reapComplete (passSession p) now) =
      some (passSession p, .failed) := by
    simp only [JobWorld.writesStatus, hselected, if_true]
    rfl
  refine (JobWorld.status_of_writes_some hwrites).trans ?_
  rw [JobWorld.getSyncJob, hheld, Option.getD_some, flushColumn, if_neg]
  intro hfailed
  rw [← hfailed] at hactive
  exact absurd hactive (by decide)

/-! ## Section 3: What a pass has seen -/

theorem flush_self (held stored : JobRow) : JobRow.flush held held stored = stored := by
  simp only [JobRow.flush, JobWorld.flushColumn_self]

/-- A call that leaves the copy of its session as it is leaves the row as it is. -/
theorem row_of_getSyncJob {w : JobWorld} {e : JobEvent}
    (h : (jobStep w e).getSyncJob e.session = w.getSyncJob e.session) :
    (jobStep w e).row = w.row := by
  have hupdate : ∀ {session : ℕ} {f : JobRow → JobRow},
      (w.update session f).getSyncJob session = w.getSyncJob session →
        (w.update session f).row = w.row := by
    intro session f hsame
    have hcopy : (w.update session f).getSyncJob session = f (w.getSyncJob session) := by
      simp [JobWorld.update, JobWorld.getSyncJob]
    rw [hcopy] at hsame
    simp only [JobWorld.update, hsame, flush_self]
  cases e with
  | markRunning _ _ | recordProgress _ _ _ _ _ | recordError _ | completeSync _ _ _
  | cancelSync _ _ => exact hupdate h
  | rollback _ => rfl
  | reapSelect _ =>
    simp only [jobStep, JobWorld.reapSelect]
    split <;> rfl
  | reapRecordError _ | reapComplete _ _ =>
    simp only [jobStep] at h ⊢
    split
    · rename_i hselected
      rw [if_pos hselected] at h
      exact hupdate h
    · rfl

/-- No call writes that a job is queued. -/
theorem writesStatus_ne_queued {w : JobWorld} {e : JobEvent} {session : ℕ}
    {status : SyncJobStatus} (h : w.writesStatus e = some (session, status)) :
    status ≠ .queued := by
  have hfinal : ∀ job success, JobWorld.finalStatus job success ≠ .queued := by
    intro job success
    unfold JobWorld.finalStatus
    split
    · exact SyncJobStatus.noConfusion
    · split <;> exact SyncJobStatus.noConfusion
  cases e with
  | markRunning _ _ | cancelSync _ _ =>
    cases h
    exact SyncJobStatus.noConfusion
  | completeSync _ _ _ =>
    cases h
    exact hfinal _ _
  | reapComplete _ _ =>
    simp only [JobWorld.writesStatus] at h
    split at h
    · cases h
      exact hfinal _ _
    · cases h
  | recordProgress _ _ _ _ _ | recordError _ | reapSelect _ | reapRecordError _
  | rollback _ => cases h

theorem queued_of_jobStep {w : JobWorld} {e : JobEvent}
    (h : (jobStep w e).row.status = .queued) : w.row.status = .queued := by
  cases hwrites : w.writesStatus e with
  | none => rwa [JobWorld.status_of_writes_none hwrites] at h
  | some written =>
    obtain ⟨session, status⟩ := written
    rw [JobWorld.status_of_writes_some hwrites, flushColumn] at h
    split at h
    · exact h
    · exact absurd h (writesStatus_ne_queued hwrites)

/-- Whether or not the pass has selected the job, ending it makes no job active. -/
theorem active_of_reapComplete (session q : ℕ)
    (h : (j.write now session (.reapComplete (passSession q) now)).active = true) :
    j.active = true := by
  cases hwrites : j.world.writesStatus (.reapComplete (passSession q) now) with
  | none =>
    have hstatus : (j.write now session (.reapComplete (passSession q) now)).status = j.status :=
      JobWorld.status_of_writes_none hwrites
    rwa [active_congr hstatus] at h
  | some written =>
    obtain ⟨session', status⟩ := written
    have hfailed : status = .failed := by
      simp only [JobWorld.writesStatus] at hwrites
      split at hwrites
      · cases hwrites
        rfl
      · cases hwrites
    have hstatus : (j.write now session (.reapComplete (passSession q) now)).status = _ :=
      JobWorld.status_of_writes_some hwrites
    rw [hfailed, flushColumn] at hstatus
    split at hstatus
    · rwa [active_congr hstatus] at h
    · rw [active, hstatus] at h
      exact absurd h (by decide)

/-- A silent job that a pass has seen is marked. `looked` says whether the pass has asked for the
queued jobs, too. -/
structure Seen (p : ℕ) (cutoff : Instant) (looked : Bool) (j : Job) : Prop where
  running : j.status = .running → j.updatedAt < cutoff → Marked p j
  queued : looked = true → j.status = .queued → j.createdAt < cutoff → Marked p j

/-- A call stamps the job, or it leaves the row as it is. -/
theorem Seen.marked_before (h : Seen p cutoff looked j) (hpast : cutoff ≤ now) (e : JobEvent) :
    ((j.write now e.session e).status = .running →
      (j.write now e.session e).updatedAt < cutoff → Marked p j) ∧
    (looked = true → (j.write now e.session e).status = .queued →
      (j.write now e.session e).createdAt < cutoff → Marked p j) := by
  refine ⟨fun hstatus hstale => ?_, fun hlooked hstatus hstale => ?_⟩
  · unfold write at hstale
    dsimp only at hstale
    split at hstale
    · rename_i hsame
      have hrow : (j.write now e.session e).status = j.status :=
        congrArg (fun row => row.status) (row_of_getSyncJob hsame)
      exact h.running (hrow.symm.trans hstatus) hstale
    · exact absurd hstale (Int.not_lt.mpr hpast)
  · exact h.queued hlooked (queued_of_jobStep hstatus) hstale

theorem Seen.write (h : Seen p cutoff looked j) (hpast : cutoff ≤ now) {e : JobEvent}
    (hmarked : Marked p j → Marked p (j.write now e.session e)) :
    Seen p cutoff looked (j.write now e.session e) where
  running hstatus hstale := hmarked ((h.marked_before hpast e).1 hstatus hstale)
  queued hlooked hstatus hstale := hmarked ((h.marked_before hpast e).2 hlooked hstatus hstale)

/-- A pass is done with a job: the job is over, or the pass has not selected it. -/
theorem Seen.reapComplete (h : Seen p cutoff looked j) (hpast : cutoff ≤ now) (q : ℕ) :
    Seen p cutoff looked ((j.write now (passSession q)
      (.reapComplete (passSession q) now)).deselect (passSession q)) := by
  have hbefore := h.marked_before hpast (.reapComplete (passSession q) now)
  have hmarked : Marked p j →
      (j.write now (passSession q) (.reapComplete (passSession q) now)).status ≠ .failed →
      Marked p ((j.write now (passSession q)
        (.reapComplete (passSession q) now)).deselect (passSession q)) := by
    intro hm hlive
    have hne : passSession p ≠ passSession q := by
      intro heq
      rw [← heq] at hlive
      exact hlive (hm.reapComplete _)
    have hmarked : Marked p (j.write now (passSession q) (.reapComplete (passSession q) now)) :=
      hm.write_other hne fun _ heq => by cases heq
    exact ⟨(Function.update_of_ne hne _ _).trans hmarked.selected, hmarked.held⟩
  refine ⟨fun hstatus hstale => ?_, fun hlooked hstatus hstale => ?_⟩
  · exact hmarked (hbefore.1 hstatus hstale) fun hfailed => by
      cases hfailed.symm.trans hstatus
  · exact hmarked (hbefore.2 hlooked hstatus hstale) fun hfailed => by
      cases hfailed.symm.trans hstatus

theorem Seen.select_other (h : Seen p cutoff looked j) {q : ℕ} (hne : p ≠ q) :
    Seen p cutoff looked (j.select (passSession q)) where
  running hstatus hstale :=
    (h.running ((status_select _ j).symm.trans hstatus) hstale).select_other hne
  queued hlooked hstatus hstale :=
    (h.queued hlooked ((status_select _ j).symm.trans hstatus) hstale).select_other hne

/-- The task that picks up the job stamps it. -/
theorem Seen.markRunning (h : Seen p cutoff looked j) (hpast : cutoff ≤ now) (n : ℕ) :
    Seen p cutoff looked (j.markRunning now (workerSession n)) where
  running _ hstale := absurd hstale (Int.not_lt.mpr hpast)
  queued hlooked hstatus hstale := by
    have hbefore := h.queued hlooked (queued_of_jobStep hstatus) hstale
    have hmarked : Marked p (j.write now (workerSession n) (.markRunning (workerSession n) now)) :=
      hbefore.write_other (JobsWorld.workerSession_ne_passSession n p).symm
        fun _ heq => by cases heq
    exact ⟨hmarked.selected, hmarked.held⟩

/-- The job has been heard of since. -/
def Heard (since : Instant) (j : Job) : Prop :=
  (j.status = .running → since ≤ j.updatedAt) ∧ (j.status = .queued → since ≤ j.createdAt)

theorem Seen.heard (h : Seen p cutoff true j) (hdone : j.world.selected (passSession p) = false) :
    Heard cutoff j := by
  have hunmarked : ¬ Marked p j := fun hmarked => by
    rw [hmarked.selected] at hdone
    cases hdone
  exact ⟨fun hstatus => Int.not_lt.mp fun hstale => hunmarked (h.running hstatus hstale),
    fun hstatus => Int.not_lt.mp fun hstale => hunmarked (h.queued rfl hstatus hstale)⟩

end Job

namespace JobsWorld

variable {s : JobsWorld} {p : ℕ} {cutoff : Instant} {looked : Bool}

/-! ## Section 4: What every step keeps -/

theorem jobs_commit_of_oneActive {jobs : List Job} (h : OneActive jobs) :
    (s.commit jobs).jobs = jobs := by
  rw [commit, dif_pos h]

/-- The pass has seen every job. -/
structure SeenAll (p : ℕ) (cutoff : Instant) (looked : Bool) (s : JobsWorld) : Prop where
  pass : s.passes[p]? = some cutoff
  past : cutoff ≤ s.now
  seen : ∀ j ∈ s.jobs, Job.Seen p cutoff looked j

theorem SeenAll.commit (h : SeenAll p cutoff looked s) {jobs : List Job}
    (hjobs : ∀ j ∈ jobs, Job.Seen p cutoff looked j) : SeenAll p cutoff looked (s.commit jobs) where
  pass := by
    rw [passes_commit]
    exact h.pass
  past := by
    rw [now_commit]
    exact h.past
  seen := by
    rcases jobs_commit s jobs with heq | heq
    · rw [heq]
      exact hjobs
    · rw [heq]
      exact h.seen

theorem SeenAll.modify (h : SeenAll p cutoff looked s) (job : ℕ) {f : Job → Job}
    (hf : ∀ j, Job.Seen p cutoff looked j → Job.Seen p cutoff looked (f j)) :
    ∀ j ∈ s.jobs.modify job f, Job.Seen p cutoff looked j := by
  intro j hj
  obtain ⟨i, hi⟩ := List.mem_iff_getElem?.mp hj
  rw [List.getElem?_modify] at hi
  obtain ⟨j₀, hj₀, rfl⟩ := Option.map_eq_some_iff.mp hi
  have hseen := h.seen j₀ (List.mem_of_getElem? hj₀)
  split
  · exact hf j₀ hseen
  · exact hseen

theorem SeenAll.without (h : SeenAll p cutoff looked s) (number : ℕ) :
    SeenAll p cutoff looked (s.without number) := ⟨h.pass, h.past, h.seen⟩

/-- A call of a task leaves alone what a pass has marked. -/
theorem SeenAll.workerCall (h : SeenAll p cutoff looked s) (number : ℕ) {e : ℕ → JobEvent}
    (hselect : ∀ session session', e session ≠ .reapSelect session')
    (hsession : ∀ session, (e session).session = session) :
    SeenAll p cutoff looked (s.workerCall number e) := by
  unfold JobsWorld.workerCall
  split
  · rename_i w _
    refine h.commit (h.modify _ fun j hseen => ?_)
    have hwrite := hseen.write h.past (e := e (workerSession number)) fun hmarked =>
      hmarked.write_other (by
        rw [hsession]
        exact (workerSession_ne_passSession number p).symm) (hselect _)
    rwa [hsession] at hwrite
  · exact h

theorem SeenAll.insert (h : SeenAll p cutoff looked s) (place : ℕ) :
    SeenAll p cutoff looked (s.step (.insert place)) := by
  simp only [step]
  split
  · exact h
  · rename_i start _
    have hbefore : SeenAll p cutoff looked { s with starts := s.starts.eraseIdx place } :=
      ⟨h.pass, h.past, h.seen⟩
    refine hbefore.commit fun j hj => ?_
    rcases List.mem_append.mp hj with hold | hnew
    · exact h.seen j hold
    · rw [List.mem_singleton.mp hnew]
      exact ⟨fun _ hstale => absurd hstale (Int.not_lt.mpr h.past),
        fun _ _ hstale => absurd hstale (Int.not_lt.mpr h.past)⟩

theorem SeenAll.deliver (h : SeenAll p cutoff looked s) (job : ℕ) (limited : Bool) :
    SeenAll p cutoff looked (s.step (.deliver job limited)) := by
  simp only [step]
  split
  · exact ⟨h.pass, h.past, h.modify job fun _ hseen => hseen.markRunning h.past _⟩
  · exact ⟨h.pass, h.past, h.seen⟩

/-- The index refuses no look of a pass. -/
theorem oneActive_reapLook (s : JobsWorld) (q : ℕ) (stale : Job → Bool) :
    OneActive (s.reapLook q stale) := by
  refine s.unique.map fun j => ?_
  split
  · exact ⟨rfl, fun hactive => (Job.active_congr (Job.status_select _ j)).symm.trans hactive⟩
  · exact ⟨rfl, id⟩

/-- Another pass looks. -/
theorem SeenAll.look_other (h : SeenAll p cutoff looked s) {q : ℕ} (hne : p ≠ q)
    (stale : Job → Bool) : SeenAll p cutoff looked (s.commit (s.reapLook q stale)) := by
  refine h.commit fun j hj => ?_
  obtain ⟨j₀, hj₀, rfl⟩ := List.mem_map.mp hj
  have hseen := h.seen j₀ hj₀
  split
  · exact hseen.select_other hne
  · exact hseen

/-- The first look of a pass. -/
theorem seenAll_lookRunning (s : JobsWorld) :
    SeenAll s.passes.length (s.now - staleSyncJobThreshold) false (s.step .lookRunning) where
  pass := by
    simp [step]
  past := by
    simp only [step, now_commit]
    exact Int.sub_le_self _ (Int.natCast_nonneg _)
  seen := by
    simp only [step]
    rw [jobs_commit_of_oneActive (oneActive_reapLook s _ _)]
    intro j hj
    obtain ⟨j₀, hj₀, rfl⟩ := List.mem_map.mp hj
    refine ⟨fun hstatus hstale => ?_, fun hlooked => by cases hlooked⟩
    split at hstatus
    · rename_i hstale₀
      rw [if_pos hstale₀]
      refine Job.marked_select _ ?_
      rw [← Job.status_select, hstatus]
      decide
    · rename_i hrecent
      rw [if_neg hrecent] at hstale
      exact absurd (by simp [staleRunning, hstatus, hstale]) hrecent

/-- The second look of the pass. -/
theorem SeenAll.lookQueued (h : SeenAll p cutoff looked s) :
    SeenAll p cutoff true (s.step (.lookQueued p)) := by
  simp only [step, h.pass]
  refine ⟨by rw [passes_commit]; exact h.pass, by rw [now_commit]; exact h.past, ?_⟩
  rw [jobs_commit_of_oneActive (oneActive_reapLook s _ _)]
  intro j hj
  obtain ⟨j₀, hj₀, rfl⟩ := List.mem_map.mp hj
  have hseen := h.seen j₀ hj₀
  split
  · rename_i hstale
    have hqueued : j₀.status = .queued := by
      simp only [staleQueued, Bool.and_eq_true, beq_iff_eq] at hstale
      exact hstale.1
    have hmarked := Job.marked_select p (j := j₀) (by
      rw [hqueued]
      decide)
    exact ⟨fun _ _ => hmarked, fun _ _ _ => hmarked⟩
  · rename_i hrecent
    refine ⟨hseen.running, fun _ hstatus hstale => absurd ?_ hrecent⟩
    simp [staleQueued, hstatus, hstale]

/-- A pass ends a job, and the index does not refuse it. -/
theorem jobs_reapComplete (s : JobsWorld) (q job : ℕ) :
    (s.step (.reapComplete q job)).jobs = s.jobs.modify job fun j =>
      (j.write s.now (passSession q) (.reapComplete (passSession q) s.now)).deselect
        (passSession q) := by
  have hwrite : OneActive (s.jobs.modify job
      (Job.write s.now (passSession q) (.reapComplete (passSession q) s.now))) := by
    exact s.unique.modify job fun j => ⟨rfl, Job.active_of_reapComplete _ _⟩
  have hboth : OneActive ((s.writeJob job (passSession q)
      (.reapComplete (passSession q) s.now)).jobs.modify job (Job.deselect (passSession q))) :=
    (s.writeJob job _ _).unique.modify job fun j => ⟨rfl, id⟩
  simp only [step]
  rw [jobs_commit_of_oneActive hboth, writeJob, jobs_commit_of_oneActive hwrite,
    List.modify_modify_eq]
  rfl

theorem SeenAll.reapRecordError (h : SeenAll p cutoff looked s) (q job : ℕ) :
    SeenAll p cutoff looked (s.step (.reapRecordError q job)) :=
  h.commit (h.modify job fun _ hseen =>
    hseen.write h.past (e := .reapRecordError (passSession q)) fun hmarked =>
      hmarked.reapRecordError q)

theorem SeenAll.reapComplete (h : SeenAll p cutoff looked s) (q job : ℕ) :
    SeenAll p cutoff looked (s.step (.reapComplete q job)) where
  pass := by
    simp only [step, writeJob, passes_commit]
    exact h.pass
  past := by
    simp only [step, writeJob, now_commit]
    exact h.past
  seen := by
    rw [jobs_reapComplete]
    exact h.modify job fun _ hseen => hseen.reapComplete h.past q

/-- Whatever happens next, the pass has still seen every job. -/
theorem SeenAll.step (h : SeenAll p cutoff looked s) (e : JobsEvent) :
    SeenAll p cutoff looked (s.step e) := by
  cases e with
  | elapse time =>
    exact ⟨h.pass, Int.le_trans h.past (Int.le_add_of_nonneg_right (Int.natCast_nonneg _)), h.seen⟩
  | check start =>
    simp only [JobsWorld.step]
    split
    · exact ⟨h.pass, h.past, h.seen⟩
    · exact h
  | insert place => exact h.insert place
  | deliver job limited => exact h.deliver job limited
  | recordProgress number received created updated failed =>
    show SeenAll p cutoff looked (s.workerCall number fun session =>
      .recordProgress session received created updated failed)
    exact h.workerCall number (fun _ _ heq => by cases heq) fun _ => rfl
  | recordError number =>
    show SeenAll p cutoff looked (s.workerCall number .recordError)
    exact h.workerCall number (fun _ _ heq => by cases heq) fun _ => rfl
  | rollback number =>
    show SeenAll p cutoff looked (s.workerCall number .rollback)
    exact h.workerCall number (fun _ _ heq => by cases heq) fun _ => rfl
  | finish number success =>
    have hcall : SeenAll p cutoff looked (s.workerCall number fun session =>
        .completeSync session success s.now) :=
      h.workerCall number (fun _ _ heq => by cases heq) fun _ => rfl
    exact hcall.without number
  | die number => exact h.without number
  | lookRunning =>
    -- another pass begins
    have hlt : p < s.passes.length := (List.getElem?_eq_some_iff.mp h.pass).1
    have hmore : SeenAll p cutoff looked
        { s with passes := s.passes ++ [s.now - staleSyncJobThreshold] } :=
      ⟨(List.getElem?_append_left hlt).trans h.pass, h.past, h.seen⟩
    exact hmore.look_other (Nat.ne_of_lt hlt) _
  | lookQueued q =>
    by_cases heq : p = q
    · subst heq
      have hlooked := h.lookQueued
      exact ⟨hlooked.pass, hlooked.past, fun j hj =>
        ⟨(hlooked.seen j hj).running, fun _ => (hlooked.seen j hj).queued rfl⟩⟩
    · simp only [JobsWorld.step]
      split
      · exact h.look_other heq _
      · exact h
  | reapRecordError q job => exact h.reapRecordError q job
  | reapComplete q job => exact h.reapComplete q job

theorem SeenAll.after (h : SeenAll p cutoff looked s) (es : List JobsEvent) :
    SeenAll p cutoff looked (s.after es) := by
  have hstep : ∀ (s : JobsWorld) (e : JobsEvent), SeenAll p cutoff looked s →
      SeenAll p cutoff looked (s.step e) := fun _ e hseen => hseen.step e
  exact run_invariant _ hstep h es

/-! ## Section 5: When the pass is through -/

/-- A pass of the reaper, with what happens between its two looks and after them. -/
def aroundPass (s : JobsWorld) (between afterwards : List JobsEvent) : JobsWorld :=
  (((s.step .lookRunning).after between).step (.lookQueued s.passes.length)).after afterwards

/-- Once a pass has written all it selected, a job that keeps `start_sync` from starting another
one has been heard of since the pass's cutoff. -/
theorem reap_frees (s : JobsWorld) (between afterwards : List JobsEvent)
    (hthrough : ∀ j ∈ (s.aroundPass between afterwards).jobs,
      j.world.selected (passSession s.passes.length) = false)
    (start : Start) {err : OMSError}
    (hblocked : (s.aroundPass between afterwards).checkStart start = .error err) :
    ∃ j ∈ (s.aroundPass between afterwards).jobs, j.active = true ∧
      j.key = (start.integrationId, start.entityType) ∧
      j.Heard (s.now - staleSyncJobThreshold) := by
  have hseen : SeenAll s.passes.length (s.now - staleSyncJobThreshold) true
      (s.aroundPass between afterwards) :=
    (((seenAll_lookRunning s).after between).lookQueued).after afterwards
  unfold checkStart at hblocked
  split at hblocked
  · rename_i existing hfound
    have hmem := List.mem_of_find?_eq_some hfound
    have hexisting := List.find?_some hfound
    simp only [Bool.and_eq_true, beq_iff_eq] at hexisting
    exact ⟨existing, hmem, hexisting.1, hexisting.2,
      (hseen.seen existing hmem).heard (hthrough existing hmem)⟩
  · cases hblocked

/-- A pass ends the job of a dead task, and the sync is started again. -/
def smallPass : JobsWorld :=
  aroundPass (after empty (smallTakeover.take 6)) []
    [.reapRecordError 0 0, .reapComplete 0 0, .check smallStart, .insert 0]

theorem reap_frees_small :
    ∃ j ∈ smallPass.jobs, j.active = true ∧ j.key = (1, "orders") ∧ j.Heard 1 := by
  have hthrough : ∀ j ∈ smallPass.jobs, j.world.selected (passSession 0) = false := by decide
  have hblocked : smallPass.checkStart smallStart = .error
      (.conflict "A orders sync is already queued for this integration.") := by rfl
  exact reap_frees _ _ _ hthrough smallStart hblocked

end JobsWorld

end AyushOms.Sync
