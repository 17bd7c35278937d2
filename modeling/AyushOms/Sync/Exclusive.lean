import AyushOms.Sync.Scheduling
import Mathlib.Data.List.Nodup

/-!
# One Task at a Time

A sync of an entity must not run twice at the same time. Nothing holds a lock over a task's run: the
task's job is active, the index allows one active job an entity, and only the reaper ends a job
whose task may still be alive. It does so when the job has been silent for longer than a task may
live, if the task has a time limit.

## Main results

- `Inv.step`: what every guarded step keeps
- `exclusive_throughout`: along guarded runs, no entity is synced by two tasks at a time
-/

namespace AyushOms.Sync

open AyushOms.Lib

/-! ## Section 1: What a call changes of a job -/

/-- The session a call works in. -/
def JobEvent.session : JobEvent → ℕ
  | .markRunning session _ | .recordProgress session _ _ _ _ | .recordError session
  | .completeSync session _ _ | .cancelSync session _ | .reapSelect session
  | .reapRecordError session | .reapComplete session _ | .rollback session => session

/-- Other sessions keep their copies. -/
theorem held_jobStep (w : JobWorld) (e : JobEvent) {session : ℕ} (h : session ≠ e.session) :
    (jobStep w e).held session = w.held session := by
  cases e with
  | markRunning _ _ | recordProgress _ _ _ _ _ | recordError _ | completeSync _ _ _
  | cancelSync _ _ | rollback _ => exact Function.update_of_ne h _ _
  | reapSelect _ =>
    simp only [jobStep, JobWorld.reapSelect]
    split
    · exact Function.update_of_ne h _ _
    · rfl
  | reapRecordError _ | reapComplete _ _ =>
    simp only [jobStep]
    split
    · exact Function.update_of_ne h _ _
    · rfl

/-- Only a look of the reaper selects a job. -/
theorem selected_jobStep (w : JobWorld) {e : JobEvent} (h : ∀ session, e ≠ .reapSelect session) :
    (jobStep w e).selected = w.selected := by
  cases e with
  | markRunning _ _ | recordProgress _ _ _ _ _ | recordError _ | completeSync _ _ _
  | cancelSync _ _ | rollback _ => rfl
  | reapSelect session => exact absurd rfl (h session)
  | reapRecordError _ | reapComplete _ _ =>
    simp only [jobStep]
    split <;> rfl

theorem selected_reapSelect (w : JobWorld) {session session' : ℕ} (h : session' ≠ session) :
    (w.reapSelect session).selected session' = w.selected session' := by
  unfold JobWorld.reapSelect
  split
  · exact Function.update_of_ne h _ _
  · rfl

namespace Job

/-- The job has kept its status, has not been selected and has been stamped no earlier. -/
structure Quiet (j j' : Job) : Prop where
  key_eq : j'.key = j.key
  status_eq : j'.status = j.status
  updatedAt_le : j.updatedAt ≤ j'.updatedAt
  selected : ∀ session, j'.world.selected session = true → j.world.selected session = true

theorem Quiet.refl (j : Job) : Quiet j j where
  key_eq := rfl
  status_eq := rfl
  updatedAt_le := Int.le_refl _
  selected _ h := h

theorem Quiet.trans {j j' j'' : Job} (h : Quiet j j') (h' : Quiet j' j'') : Quiet j j'' where
  key_eq := h'.key_eq.trans h.key_eq
  status_eq := h'.status_eq.trans h.status_eq
  updatedAt_le := Int.le_trans h.updatedAt_le h'.updatedAt_le
  selected session hs := h.selected session (h'.selected session hs)

theorem quiet_write {now : Instant} {session : ℕ} {e : JobEvent} {j : Job}
    (hnow : j.updatedAt ≤ now) (hstatus : j.world.writesStatus e = none)
    (hselect : ∀ session, e ≠ .reapSelect session) : Quiet j (j.write now session e) where
  key_eq := rfl
  status_eq := JobWorld.status_of_writes_none hstatus
  updatedAt_le := by
    unfold write
    dsimp only
    split
    · exact Int.le_refl _
    · exact hnow
  selected session' h := by
    have hsame : (j.write now session e).world.selected = j.world.selected :=
      selected_jobStep j.world hselect
    rwa [hsame] at h

theorem quiet_deselect (session : ℕ) (j : Job) : Quiet j (j.deselect session) where
  key_eq := rfl
  status_eq := rfl
  updatedAt_le := Int.le_refl _
  selected session' h := by
    by_cases heq : session' = session
    · subst heq
      simp [deselect] at h
    · simpa [deselect, Function.update_of_ne heq] using h

end Job

/-! ## Section 2: Commits -/

namespace JobsWorld

variable {s : JobsWorld}

@[simp] theorem workers_commit (s : JobsWorld) (jobs : List Job) :
    (s.commit jobs).workers = s.workers := by
  unfold commit
  split <;> rfl

@[simp] theorem now_commit (s : JobsWorld) (jobs : List Job) : (s.commit jobs).now = s.now := by
  unfold commit
  split <;> rfl

@[simp] theorem passes_commit (s : JobsWorld) (jobs : List Job) :
    (s.commit jobs).passes = s.passes := by
  unfold commit
  split <;> rfl

@[simp] theorem deliveries_commit (s : JobsWorld) (jobs : List Job) :
    (s.commit jobs).deliveries = s.deliveries := by
  unfold commit
  split <;> rfl

theorem jobs_commit (s : JobsWorld) (jobs : List Job) :
    (s.commit jobs).jobs = jobs ∨ (s.commit jobs).jobs = s.jobs := by
  unfold commit
  split
  · exact .inl rfl
  · exact .inr rfl

/-! ## Section 3: The invariant -/

/-- The job of a task that is alive: it is running, no pass of the reaper has selected it, and the
task has stamped it. -/
structure Runs (w : Worker) (j : Job) : Prop where
  running : j.status = .running
  stamped : w.startedAt ≤ j.updatedAt
  unselected : ∀ p, j.world.selected (passSession p) = false

/-- What holds of every job: no stamp is later than now, and the tasks and passes to come have not
had to do with it. -/
structure Tidy (now : Instant) (deliveries passes : ℕ) (j : Job) : Prop where
  stamped : j.updatedAt ≤ now
  freshTask : ∀ n, deliveries ≤ n → j.world.held (workerSession n) = none
  freshPass : ∀ p, passes ≤ p → j.world.selected (passSession p) = false

/-- What holds in every state of a guarded run. -/
structure Inv (s : JobsWorld) : Prop where
  runs : ∀ w ∈ s.workers, ∃ j, s.jobs[w.job]? = some j ∧ Runs w j
  within : ∀ w ∈ s.workers, ∀ limit, w.timeLimit = some limit →
    limit = syncTaskTimeLimit ∧ s.now ≤ w.startedAt + limit
  nodup : (s.workers.map Worker.job).Nodup
  number_lt : ∀ w ∈ s.workers, w.number < s.deliveries
  tidy : ∀ j ∈ s.jobs, Tidy s.now s.deliveries s.passes.length j

/-- What must not happen: a job is handed to a second task while one is alive that runs it; a task
picks up a job that a pass of the reaper has selected and not yet written; a pass begins while the
job of a task without a time limit has been silent for the threshold. -/
def Guarded (s : JobsWorld) : JobsEvent → Prop
  | .deliver job _ => (∀ w ∈ s.workers, w.job ≠ job) ∧
      ∀ j ∈ s.jobs[job]?, ∀ p < s.passes.length, j.world.selected (passSession p) = false
  | .lookRunning => ∀ w ∈ s.workers, w.timeLimit = none → ∀ j ∈ s.jobs[w.job]?,
      s.now - staleSyncJobThreshold ≤ j.updatedAt
  | _ => True

instance Guarded.decidable (s : JobsWorld) : ∀ e : JobsEvent, Decidable (Guarded s e)
  | .deliver _ _ => inferInstanceAs (Decidable (_ ∧ _))
  | .lookRunning => inferInstanceAs (Decidable (∀ w ∈ s.workers, w.timeLimit = none →
      ∀ j ∈ s.jobs[w.job]?, s.now - staleSyncJobThreshold ≤ j.updatedAt))
  | .elapse _ | .check _ | .insert _ | .recordProgress _ _ _ _ _ | .recordError _ | .rollback _
  | .finish _ _ | .die _ | .lookQueued _ | .reapRecordError _ _ | .reapComplete _ _ =>
    inferInstanceAs (Decidable True)

/-- No entity is synced by two tasks at a time. -/
def Exclusive (s : JobsWorld) : Prop :=
  ∀ w ∈ s.workers, ∀ w' ∈ s.workers, ∀ j j', s.jobs[w.job]? = some j →
    s.jobs[w'.job]? = some j' → j.key = j'.key → w = w'

theorem inv_empty : Inv empty where
  runs w hw := by cases hw
  within w hw := by cases hw
  nodup := List.nodup_nil
  number_lt w hw := by cases hw
  tidy j hj := by cases hj

/-- A job is written by one task at a time, and the index allows an entity one active job. -/
theorem Inv.exclusive (h : Inv s) : Exclusive s := by
  intro w hw w' hw' j j' hj hj' hkey
  obtain ⟨_, hfound, hruns⟩ := h.runs w hw
  obtain ⟨_, hfound', hruns'⟩ := h.runs w' hw'
  obtain rfl := Option.some.inj (hfound.symm.trans hj)
  obtain rfl := Option.some.inj (hfound'.symm.trans hj')
  have hactive : ∀ {j : Job}, j.status = .running → j.active = true := fun hrunning => by
    rw [Job.active, hrunning]
    rfl
  -- two different active jobs would have different keys
  have hjob : w.job = w'.job := by
    by_contra hne
    rcases Nat.lt_or_gt_of_ne hne with hlt | hgt
    · exact List.pairwise_iff_getElem.mp s.unique _ _ (List.getElem?_eq_some_iff.mp hj).1
        (List.getElem?_eq_some_iff.mp hj').1 hlt (by
          rw [(List.getElem?_eq_some_iff.mp hj).2, (List.getElem?_eq_some_iff.mp hj').2]
          exact ⟨hactive hruns.running, hactive hruns'.running, hkey⟩)
    · exact List.pairwise_iff_getElem.mp s.unique _ _ (List.getElem?_eq_some_iff.mp hj').1
        (List.getElem?_eq_some_iff.mp hj).1 hgt (by
          rw [(List.getElem?_eq_some_iff.mp hj).2, (List.getElem?_eq_some_iff.mp hj').2]
          exact ⟨hactive hruns'.running, hactive hruns.running, hkey.symm⟩)
  exact List.inj_on_of_nodup_map h.nodup hw hw' hjob

theorem Runs.quiet {w : Worker} {j j' : Job} (h : Runs w j) (hquiet : Job.Quiet j j') :
    Runs w j' where
  running := hquiet.status_eq.trans h.running
  stamped := Int.le_trans h.stamped hquiet.updatedAt_le
  unselected p := by
    by_contra hselected
    have hbefore := hquiet.selected _ (Bool.not_eq_false _ ▸ hselected)
    rw [h.unselected p] at hbefore
    cases hbefore

/-! ## Section 4: Steps -/

/-- A step after which the same tasks are alive, and that has not touched what they rely on. -/
theorem Inv.of_quiet (h : Inv s) {s' : JobsWorld} (hworkers : s'.workers = s.workers)
    (hnow : s'.now = s.now) (hdeliveries : s'.deliveries = s.deliveries)
    (hquiet : ∀ w ∈ s.workers, ∀ j, s.jobs[w.job]? = some j →
      ∃ j', s'.jobs[w.job]? = some j' ∧ Job.Quiet j j')
    (htidy : ∀ j ∈ s'.jobs, Tidy s.now s.deliveries s'.passes.length j) : Inv s' where
  runs w hw := by
    rw [hworkers] at hw
    obtain ⟨j, hj, hruns⟩ := h.runs w hw
    obtain ⟨j', hj', hsame⟩ := hquiet w hw j hj
    exact ⟨j', hj', hruns.quiet hsame⟩
  within w hw := by
    rw [hnow]
    exact h.within w (hworkers ▸ hw)
  nodup := by
    rw [hworkers]
    exact h.nodup
  number_lt w hw := by
    rw [hdeliveries]
    exact h.number_lt w (hworkers ▸ hw)
  tidy j hj := by
    rw [hnow, hdeliveries]
    exact htidy j hj

theorem Tidy.write {now : Instant} {deliveries passes session : ℕ} {e : JobEvent} {j : Job}
    (h : Tidy now deliveries passes j) (hselect : ∀ session, e ≠ .reapSelect session)
    (hsession : ∀ n, deliveries ≤ n → workerSession n ≠ e.session) :
    Tidy now deliveries passes (j.write now session e) where
  stamped := by
    unfold Job.write
    dsimp only
    split
    · exact h.stamped
    · exact Int.le_refl _
  freshTask n hn := (held_jobStep j.world e (hsession n hn)).trans (h.freshTask n hn)
  freshPass p hp := by
    have hsame : (j.write now session e).world.selected = j.world.selected :=
      selected_jobStep j.world hselect
    rw [hsame]
    exact h.freshPass p hp

/-- A call on a job that writes no status a task relies on. -/
theorem Inv.writeJob (h : Inv s) (job session : ℕ) {e : JobEvent}
    (hselect : ∀ session, e ≠ .reapSelect session)
    (hsession : ∀ n, s.deliveries ≤ n → workerSession n ≠ e.session)
    (hstatus : ∀ w ∈ s.workers, w.job = job → ∀ j, s.jobs[job]? = some j →
      j.world.writesStatus e = none) : Inv (s.writeJob job session e) := by
  unfold JobsWorld.writeJob
  refine h.of_quiet (workers_commit _ _) (now_commit _ _) (deliveries_commit _ _) ?_ ?_
  · intro w hw j hj
    rcases jobs_commit s (s.jobs.modify job (Job.write s.now session e)) with hjobs | hjobs
    · rw [hjobs]
      by_cases heq : job = w.job
      · subst heq
        rw [List.getElem?_modify_eq, hj]
        exact ⟨_, rfl, Job.quiet_write (h.tidy j (List.mem_of_getElem? hj)).stamped
          (hstatus w hw rfl j hj) hselect⟩
      · rw [List.getElem?_modify_ne _ _ heq]
        exact ⟨j, hj, .refl j⟩
    · rw [hjobs]
      exact ⟨j, hj, .refl j⟩
  · intro j hj
    rw [passes_commit]
    rcases jobs_commit s (s.jobs.modify job (Job.write s.now session e)) with hjobs | hjobs
    · rw [hjobs] at hj
      obtain ⟨i, hi⟩ := List.mem_iff_getElem?.mp hj
      rw [List.getElem?_modify] at hi
      obtain ⟨j₀, hj₀, rfl⟩ := Option.map_eq_some_iff.mp hi
      have htidy := h.tidy j₀ (List.mem_of_getElem? hj₀)
      split
      · exact htidy.write hselect hsession
      · exact htidy
    · rw [hjobs] at hj
      exact h.tidy j hj

theorem Inv.without (h : Inv s) (number : ℕ) : Inv (s.without number) where
  runs w hw := h.runs w (List.mem_of_mem_filter hw)
  within w hw := h.within w (List.mem_of_mem_filter hw)
  nodup := h.nodup.sublist (List.filter_sublist.map _)
  number_lt w hw := h.number_lt w (List.mem_of_mem_filter hw)
  tidy := h.tidy

theorem worker_eq_some {number : ℕ} {w : Worker} (h : s.worker number = some w) :
    w ∈ s.workers ∧ w.number = number :=
  ⟨List.mem_of_find?_eq_some h, by simpa using List.find?_some h⟩

theorem workerSession_ne {deliveries number n : ℕ} (hnumber : number < deliveries)
    (hn : deliveries ≤ n) : workerSession n ≠ workerSession number := by
  unfold workerSession
  omega

theorem workerSession_ne_passSession (n p : ℕ) : workerSession n ≠ passSession p := by
  unfold workerSession passSession
  omega

/-- A call of a task that writes no status. -/
theorem Inv.workerCall (h : Inv s) (number : ℕ) {e : ℕ → JobEvent}
    (hselect : ∀ session session', e session ≠ .reapSelect session')
    (hsession : ∀ session, (e session).session = session)
    (hstatus : ∀ session (w : JobWorld), w.writesStatus (e session) = none) :
    Inv (s.workerCall number e) := by
  unfold JobsWorld.workerCall
  split
  · rename_i w hw
    obtain ⟨hmem, hnumber⟩ := worker_eq_some hw
    refine h.writeJob _ _ (hselect _) (fun n hn => ?_) (fun _ _ _ j _ => hstatus _ j.world)
    rw [hsession]
    exact workerSession_ne (hnumber ▸ h.number_lt w hmem) hn
  · exact h

/-- A task is over: what it writes last, no other task relies on. -/
theorem Inv.finish (h : Inv s) (number : ℕ) (success : Bool) :
    Inv ((s.workerCall number fun session =>
      .completeSync session success s.now).without number) := by
  unfold JobsWorld.workerCall
  split
  · rename_i w hw
    obtain ⟨hmem, hnumber⟩ := worker_eq_some hw
    have hswap : ∀ jobs, (s.commit jobs).without number = (s.without number).commit jobs := by
      intro jobs
      unfold commit JobsWorld.without
      split <;> rfl
    rw [JobsWorld.writeJob, hswap]
    refine (h.without number).writeJob w.job _ (fun _ heq => by cases heq) ?_ ?_
    · intro n hn
      exact workerSession_ne (hnumber ▸ h.number_lt w hmem) hn
    · intro w' hw' hjob
      -- the task itself is not among those that are left
      obtain ⟨hmem', hne⟩ := List.mem_filter.mp hw'
      have hsame := List.inj_on_of_nodup_map h.nodup hmem' hmem hjob
      rw [hsame, hnumber] at hne
      simp at hne
  · exact h.without number

theorem Inv.elapse (h : Inv s) (time : ℕ) : Inv (s.step (.elapse time)) where
  runs w hw := h.runs w (List.mem_of_mem_filter hw)
  within w hw limit hlimit := by
    obtain ⟨hmem, hwithin⟩ := List.mem_filter.mp hw
    refine ⟨(h.within w hmem limit hlimit).1, ?_⟩
    rw [Worker.within, hlimit] at hwithin
    exact of_decide_eq_true hwithin
  nodup := h.nodup.sublist (List.filter_sublist.map _)
  number_lt w hw := h.number_lt w (List.mem_of_mem_filter hw)
  tidy j hj :=
    ⟨Int.le_trans (h.tidy j hj).stamped (Int.le_add_of_nonneg_right (Int.natCast_nonneg _)),
      (h.tidy j hj).freshTask, (h.tidy j hj).freshPass⟩

theorem Inv.insert (h : Inv s) (place : ℕ) : Inv (s.step (.insert place)) := by
  simp only [step]
  split
  · exact h
  · rename_i start _
    refine h.of_quiet (by rw [workers_commit]) (by rw [now_commit]) (by rw [deliveries_commit])
      ?_ ?_
    · intro w hw j hj
      rcases jobs_commit _ _ with hjobs | hjobs
      · rw [hjobs, List.getElem?_append_left (List.getElem?_eq_some_iff.mp hj).1]
        exact ⟨j, hj, .refl j⟩
      · rw [hjobs]
        exact ⟨j, hj, .refl j⟩
    · intro j hj
      rw [passes_commit]
      rcases jobs_commit _ _ with hjobs | hjobs
      · rw [hjobs] at hj
        rcases List.mem_append.mp hj with hold | hnew
        · exact h.tidy j hold
        · rw [List.mem_singleton.mp hnew]
          exact ⟨Int.le_refl _, fun _ _ => rfl, fun _ _ => rfl⟩
      · rw [hjobs] at hj
        exact h.tidy j hj

theorem Tidy.markRunning {now : Instant} {deliveries passes : ℕ} {j : Job}
    (h : Tidy now deliveries passes j) :
    Tidy now (deliveries + 1) passes (j.markRunning now (workerSession deliveries)) where
  stamped := Int.le_refl _
  freshTask n hn := by
    have hother : workerSession n ≠ workerSession deliveries :=
      workerSession_ne (Nat.lt_succ_self deliveries) hn
    exact (held_jobStep j.world (.markRunning _ _) hother).trans
      (h.freshTask n (Nat.le_of_succ_le hn))
  freshPass := h.freshPass

/-- A task that picks up a job in its new session sets it running. -/
theorem Tidy.status_markRunning {now : Instant} {deliveries passes : ℕ} {j : Job}
    (h : Tidy now deliveries passes j) :
    (j.markRunning now (workerSession deliveries)).status = .running := by
  have hheld : j.world.getSyncJob (workerSession deliveries) = j.world.row := by
    rw [JobWorld.getSyncJob, h.freshTask deliveries (Nat.le_refl _)]
    rfl
  have hstatus := JobWorld.status_of_writes_some
    (show j.world.writesStatus (.markRunning (workerSession deliveries) now) =
      some (workerSession deliveries, .running) from rfl)
  rw [hheld, flushColumn] at hstatus
  refine hstatus.trans ?_
  split
  · rename_i hsame
    exact hsame.symm
  · rfl

theorem Inv.deliver (h : Inv s) {job : ℕ} (limited : Bool)
    (hguard : Guarded s (.deliver job limited)) : Inv (s.step (.deliver job limited)) := by
  simp only [step]
  split
  · rename_i hok
    obtain ⟨hfree, hunselected⟩ := hguard
    have hj := List.getElem?_eq_getElem hok.1
    have htidy := h.tidy _ (List.mem_of_getElem? hj)
    refine ⟨fun w hw => ?_, fun w hw limit hlimit => ?_, ?_, fun w hw => ?_, fun j' hj' => ?_⟩
    · rcases List.mem_append.mp hw with hold | hnew
      · obtain ⟨j, hj, hruns⟩ := h.runs w hold
        refine ⟨j, ?_, hruns⟩
        show (s.jobs.modify job _)[w.job]? = some j
        rw [List.getElem?_modify_ne _ _ fun heq => hfree w hold heq.symm]
        exact hj
      · rw [List.mem_singleton.mp hnew]
        refine ⟨_, ?_, htidy.status_markRunning, Int.le_refl _, fun p => ?_⟩
        · show (s.jobs.modify job _)[job]? = _
          rw [List.getElem?_modify_eq, hj]
          rfl
        · rcases Nat.lt_or_ge p s.passes.length with hlt | hge
          · exact hunselected _ hj p hlt
          · exact htidy.freshPass p hge
    · rcases List.mem_append.mp hw with hold | hnew
      · exact h.within w hold limit hlimit
      · rw [List.mem_singleton.mp hnew] at hlimit ⊢
        cases limited with
        | false => cases hlimit
        | true =>
          cases hlimit
          exact ⟨rfl, Int.le_add_of_nonneg_right (Int.natCast_nonneg _)⟩
    · rw [List.map_append, List.map_singleton, ← List.concat_eq_append]
      refine h.nodup.concat fun hmem => ?_
      obtain ⟨w, hw, heq⟩ := List.mem_map.mp hmem
      exact hfree w hw heq
    · rcases List.mem_append.mp hw with hold | hnew
      · exact Nat.lt_succ_of_lt (h.number_lt w hold)
      · rw [List.mem_singleton.mp hnew]
        exact Nat.lt_succ_self _
    · obtain ⟨i, hi⟩ := List.mem_iff_getElem?.mp hj'
      rw [List.getElem?_modify] at hi
      obtain ⟨j₀, hj₀, rfl⟩ := Option.map_eq_some_iff.mp hi
      have htidy₀ := h.tidy j₀ (List.mem_of_getElem? hj₀)
      split
      · exact htidy₀.markRunning
      · exact ⟨htidy₀.stamped, fun n hn => htidy₀.freshTask n (Nat.le_of_succ_le hn),
          htidy₀.freshPass⟩
  · exact
      { h with
        number_lt := fun w hw => Nat.lt_succ_of_lt (h.number_lt w hw)
        tidy := fun j hj => ⟨(h.tidy j hj).stamped, fun n hn =>
          (h.tidy j hj).freshTask n (Nat.le_of_succ_le hn), (h.tidy j hj).freshPass⟩ }

theorem Tidy.select {now : Instant} {deliveries passes p : ℕ} {j : Job}
    (h : Tidy now deliveries passes j) (hp : p < passes) :
    Tidy now deliveries passes (j.select (passSession p)) where
  stamped := h.stamped
  freshTask n hn := by
    have hother := workerSession_ne_passSession n p
    exact (held_jobStep _ (.reapSelect _) hother).trans
      ((held_jobStep _ (.rollback _) hother).trans (h.freshTask n hn))
  freshPass q hq := by
    have hne : passSession q ≠ passSession p := by
      unfold passSession
      omega
    exact (selected_reapSelect (j.world.rollback (passSession p)) hne).trans (h.freshPass q hq)

/-- A pass looks, and no task that is alive has a stale job. -/
theorem Inv.look (h : Inv s) {p : ℕ} (hp : p < s.passes.length) {stale : Job → Bool}
    (hlive : ∀ w ∈ s.workers, ∀ j, s.jobs[w.job]? = some j → Runs w j → stale j = false) :
    Inv (s.commit (s.reapLook p stale)) := by
  refine h.of_quiet (workers_commit _ _) (now_commit _ _) (deliveries_commit _ _) ?_ ?_
  · intro w hw j hj
    obtain ⟨j', hj', hruns⟩ := h.runs w hw
    obtain rfl := Option.some.inj (hj'.symm.trans hj)
    rcases jobs_commit s (s.reapLook p stale) with hjobs | hjobs
    · rw [hjobs, reapLook, List.getElem?_map, hj, Option.map_some,
        hlive w hw j' hj hruns, if_neg Bool.false_ne_true]
      exact ⟨j', rfl, .refl j'⟩
    · rw [hjobs]
      exact ⟨j', hj, .refl j'⟩
  · intro j hj
    rw [passes_commit]
    rcases jobs_commit s (s.reapLook p stale) with hjobs | hjobs
    · rw [hjobs, reapLook] at hj
      obtain ⟨j₀, hj₀, rfl⟩ := List.mem_map.mp hj
      have htidy := h.tidy j₀ hj₀
      split
      · exact htidy.select hp
      · exact htidy
    · rw [hjobs] at hj
      exact h.tidy j hj

theorem Inv.lookRunning (h : Inv s) (hguard : Guarded s .lookRunning) :
    Inv (s.step .lookRunning) := by
  have hmore : Inv { s with passes := s.passes ++ [s.now - staleSyncJobThreshold] } := by
    refine h.of_quiet rfl rfl rfl (fun _ _ j hj => ⟨j, hj, .refl j⟩) fun j hj => ?_
    have htidy := h.tidy j hj
    refine ⟨htidy.stamped, htidy.freshTask, fun p hp => htidy.freshPass p ?_⟩
    rw [List.length_append] at hp
    exact Nat.le_trans (Nat.le_add_right _ _) hp
  refine hmore.look (by simp) fun w hw j hj hruns => ?_
  -- a task with a time limit has not lived for as long as the threshold
  have hrecent : s.now - staleSyncJobThreshold ≤ j.updatedAt := by
    cases hlimit : w.timeLimit with
    | none => exact hguard w hw hlimit j hj
    | some limit =>
      obtain ⟨rfl, hwithin⟩ := h.within w hw limit hlimit
      have hstamped := hruns.stamped
      have hlimits : (syncTaskTimeLimit : ℤ) ≤ staleSyncJobThreshold := by decide
      grind
  rw [staleRunning, Bool.and_eq_false_iff, decide_eq_false_iff_not]
  exact .inr (Int.not_lt.mpr hrecent)

theorem Inv.reapComplete (h : Inv s) (pass job : ℕ) :
    Inv (s.step (.reapComplete pass job)) := by
  have hwrite : Inv (s.writeJob job (passSession pass)
      (.reapComplete (passSession pass) s.now)) := by
    refine h.writeJob _ _ (fun _ heq => by cases heq)
      (fun n _ => workerSession_ne_passSession n pass) fun w hw hjob j hj => ?_
    -- the pass has not selected the job of a task that is alive
    obtain ⟨j', hj', hruns⟩ := h.runs w hw
    rw [hjob, hj] at hj'
    cases hj'
    simp only [JobWorld.writesStatus, hruns.unselected pass, Bool.false_eq_true, if_false]
  simp only [step]
  generalize s.writeJob job (passSession pass) (.reapComplete (passSession pass) s.now) = s' at *
  refine hwrite.of_quiet (workers_commit _ _) (now_commit _ _) (deliveries_commit _ _) ?_ ?_
  · intro w _ j hj
    rcases jobs_commit s' (s'.jobs.modify job (Job.deselect (passSession pass))) with hjobs | hjobs
    · rw [hjobs]
      by_cases heq : job = w.job
      · subst heq
        rw [List.getElem?_modify_eq, hj]
        exact ⟨_, rfl, Job.quiet_deselect _ j⟩
      · rw [List.getElem?_modify_ne _ _ heq]
        exact ⟨j, hj, .refl j⟩
    · rw [hjobs]
      exact ⟨j, hj, .refl j⟩
  · intro j hj
    rw [passes_commit]
    rcases jobs_commit s' (s'.jobs.modify job (Job.deselect (passSession pass))) with hjobs | hjobs
    · rw [hjobs] at hj
      obtain ⟨i, hi⟩ := List.mem_iff_getElem?.mp hj
      rw [List.getElem?_modify] at hi
      obtain ⟨j₀, hj₀, rfl⟩ := Option.map_eq_some_iff.mp hi
      have htidy := hwrite.tidy j₀ (List.mem_of_getElem? hj₀)
      split
      · refine ⟨htidy.stamped, htidy.freshTask, fun p hp => ?_⟩
        by_contra hselected
        have hbefore := (Job.quiet_deselect (passSession pass) j₀).selected _
          (Bool.not_eq_false _ ▸ hselected)
        rw [htidy.freshPass p hp] at hbefore
        cases hbefore
      · exact htidy
    · rw [hjobs] at hj
      exact hwrite.tidy j hj

/-- A guarded step keeps the invariant. -/
theorem Inv.step (h : Inv s) {e : JobsEvent} (hguard : Guarded s e) : Inv (s.step e) := by
  cases e with
  | elapse time => exact h.elapse time
  | check start =>
    simp only [JobsWorld.step]
    split
    · exact h.of_quiet rfl rfl rfl (fun _ _ j hj => ⟨j, hj, .refl j⟩) h.tidy
    · exact h
  | insert place => exact h.insert place
  | deliver job limited => exact h.deliver limited hguard
  | recordProgress number received created updated failed =>
    show Inv (s.workerCall number fun session =>
      .recordProgress session received created updated failed)
    exact h.workerCall number (fun _ _ heq => by cases heq) (fun _ => rfl) fun _ _ => rfl
  | recordError number =>
    show Inv (s.workerCall number .recordError)
    exact h.workerCall number (fun _ _ heq => by cases heq) (fun _ => rfl) fun _ _ => rfl
  | rollback number =>
    show Inv (s.workerCall number .rollback)
    exact h.workerCall number (fun _ _ heq => by cases heq) (fun _ => rfl) fun _ _ => rfl
  | finish number success => exact h.finish number success
  | die number => exact h.without number
  | lookRunning => exact h.lookRunning hguard
  | lookQueued pass =>
    simp only [JobsWorld.step]
    split
    · rename_i cutoff hpass
      refine h.look (List.getElem?_eq_some_iff.mp hpass).1 fun _ _ j _ hruns => ?_
      rw [staleQueued, hruns.running]
      rfl
    · exact h
  | reapRecordError pass job =>
    exact h.writeJob _ _ (fun _ heq => by cases heq)
      (fun n _ => workerSession_ne_passSession n pass) fun _ _ _ _ _ => rfl
  | reapComplete pass job => exact h.reapComplete pass job

/-- Whatever else happens, and whenever tasks die: no entity is synced by two tasks at a time. -/
theorem exclusive_throughout {es : List JobsEvent} (hes : Along JobsWorld.step Guarded empty es) :
    Throughout JobsWorld.step Exclusive empty es := by
  have hall : Throughout JobsWorld.step Inv empty es :=
    throughout_of_along (fun _ _ h hguard => h.step hguard) inv_empty hes
  exact fun pre hpre => (hall pre hpre).exclusive

/-- A call of `start_sync` for the orders of one integration. -/
def smallStart : Start := { integrationId := 1, entityType := "orders", syncType := .full }

/-- A task dies, its job is reaped, and another task takes over. -/
def smallTakeover : List JobsEvent :=
  [.check smallStart, .insert 0, .deliver 0 true, .recordProgress 0 50 50 0 0, .die 0,
    .elapse (staleSyncJobThreshold + 1), .lookRunning, .lookQueued 0, .reapRecordError 0 0,
    .reapComplete 0 0, .check smallStart, .insert 0, .deliver 1 true]

theorem exclusive_throughout_small :
    Throughout JobsWorld.step Exclusive empty smallTakeover := by
  have hguarded : Along JobsWorld.step Guarded empty smallTakeover := by decide
  exact exclusive_throughout hguarded

/-- The task that retries failed syncs has no time limit. When it is silent for the threshold,
another task begins the same sync beside it. -/
example : ((after empty [.check smallStart, .insert 0, .deliver 0 false,
    .elapse (staleSyncJobThreshold + 1), .lookRunning, .lookQueued 0, .reapRecordError 0 0,
    .reapComplete 0 0, .check smallStart, .insert 0, .deliver 1 true]).workers.map
      Worker.job) = [0, 1] := by decide

end JobsWorld

end AyushOms.Sync
