import AyushOms.Reconciliation.Service

/-!
# What a Run Commits

Whatever a run meets (statements that fail, providers that raise, a worker that is killed), each
check that is over has committed all its results, none, or one that says that it failed; and the
row of a run that is over agrees with the results that are there.

## Main results

- `execute_cases`: everything an execution of the task can commit
- `report_exact`: the counts of a completed run are those of its results, from then on
- `results_accounted`: every result of an execution is accounted for by its check
-/

namespace AyushOms.Reconciliation

open AyushOms.Lib AyushOms.Lib.Txn
open AyushOms.Tracking (ReconciliationStatus)
open ReconciliationDB (apply)

/-! ## Section 1: What a check leaves -/

/-- All the results of a check that raised nothing, none of one that was skipped, or the result of
one that failed. -/
def Accounts (check : Check) : Outcome → List Recorded → Prop
  | .ok, recorded => check.found.raised = none ∧ recorded = check.found.recorded
  | .skipped, recorded => recorded = []
  | .error, recorded => ∃ message, recorded = [check.errorResult message]

/-- A check that is over. -/
structure Part where
  check : Check
  outcome : Outcome
  recorded : List Recorded
  accounts : Accounts check outcome recorded

/-- What checks that are over have recorded. -/
def recordedBy (parts : List Part) : List Recorded := parts.flatMap Part.recorded

/-- The types of those that ended in one way. -/
def endedAs (outcome : Outcome) (parts : List Part) : List String :=
  (parts.filter fun part => part.outcome = outcome).map fun part => part.check.checkType

/-- The inserts of results. -/
def inserts (runId : UUID) (recorded : List Recorded) : List ReconciliationWrite :=
  recorded.map (.insertResult runId)

section Check

variable {runId : UUID}

theorem recordAll_writes (recorded : List Recorded) :
    Writes (fun _ ws => ws = inserts runId recorded) (recordAll runId recorded) := by
  induction recorded with
  | nil => exact writes_ret rfl
  | cons r rest ih =>
    refine (writes_flush _).bind fun _ ws hws => ih.mono fun _ ws' hws' => ?_
    rw [hws, hws']
    rfl

theorem fn_writes (check : Check) :
    Writes (fun _ ws => check.found.raised = none ∧ ws = inserts runId check.found.recorded)
      (check.fn runId) := by
  refine (reads_select _).writes_bind fun _ _ => (recordAll_writes _).bind fun _ ws hws => ?_
  unfold raiseFound
  cases hraised : check.found.raised with
  | some e => exact fun _ => ⟨rfl, nofun⟩
  | none => exact writes_ret ⟨rfl, by rw [hws, List.append_nil]⟩

/-- What `_safe_check` may have committed when it is over, behind the batches before it. -/
def Checked (runId : UUID) (check : Check) (batches : List (List ReconciliationWrite)) :
    Except Failure Outcome → Trace ReconciliationWrite → Prop
  | .ok outcome, t => ∃ recorded, Accounts check outcome recorded ∧ t.pending = [] ∧
      t.batches.flatten = batches.flatten ++ inserts runId recorded
  | .error _, t => t.batches = batches

theorem ensures_recordError (check : Check) (message : String)
    (batches : List (List ReconciliationWrite)) :
    Ensures (Checked runId check batches) (recordError runId check message) ⟨batches, []⟩ := by
  refine ⟨⟨⟨[check.errorResult message], ⟨message, rfl⟩, rfl, ?_⟩, fun _ => rfl⟩, fun _ => rfl⟩
  simp [Trace.push, Trace.commit, inserts]

/-- A check commits all its results, or it is rolled back and commits none or the one that says
that it failed; when that cannot be committed either, it raises. -/
theorem ensures_safeCheck (check : Check) (batches : List (List ReconciliationWrite)) :
    Ensures (Checked runId check batches) (safeCheck runId check) ⟨batches, []⟩ := by
  -- the handler, whatever it is given
  have hhandler : ∀ (e : Failure) (t : Trace ReconciliationWrite), t.batches = batches →
      Ensures (Checked runId check batches)
        (exceptException (fun exc => do
          Txn.rollbackSession
          checkFailed runId check exc) e) t := by
    rintro e t rfl
    cases e with
    | killed => exact rfl
    | raised exception => exact ensures_recordError check _ _
    | integration message errorType =>
      change Ensures _ (if errorType = some "not_configured" then pure .skipped
        else recordError runId check message) t.discard
      split
      · exact ⟨[], rfl, rfl, by simp [Trace.discard, inserts]⟩
      · exact ensures_recordError check _ _
  refine ensures_tryCatch (ensures_bind ((fn_writes check _).mono fun r t ht => ?_))
  cases r with
  | error e => exact hhandler e t ht.1
  | ok a =>
    obtain ⟨ws, hpending, hraised, hws⟩ := ht.2 a rfl
    refine ⟨⟨check.found.recorded, ⟨hraised, rfl⟩, rfl, ?_⟩, fun e => hhandler e t ht.1⟩
    rw [Trace.commit, ht.1, hpending, hws]
    simp

/-- What the loop over the checks may have committed. -/
def CheckedEach (runId : UUID) (checks : List Check) (skipped errored : List String)
    (batches : List (List ReconciliationWrite)) :
    Except Failure (List String × List String) → Trace ReconciliationWrite → Prop
  | .ok lists, t => ∃ parts : List Part, parts.map Part.check = checks ∧ t.pending = [] ∧
      lists = (skipped ++ endedAs .skipped parts, errored ++ endedAs .error parts) ∧
      t.batches.flatten = batches.flatten ++ inserts runId (recordedBy parts)
  | .error _, t => ∃ parts : List Part, parts.map Part.check <+: checks ∧
      t.batches.flatten = batches.flatten ++ inserts runId (recordedBy parts)

theorem inserts_recordedBy_cons (part : Part) (parts : List Part) :
    inserts runId (recordedBy (part :: parts)) =
      inserts runId part.recorded ++ inserts runId (recordedBy parts) := by
  simp [inserts, recordedBy]

/-- By induction on the checks: each adds its part to what those before it have left. -/
theorem ensures_checkEach (checks : List Check) (skipped errored : List String)
    (batches : List (List ReconciliationWrite)) :
    Ensures (CheckedEach runId checks skipped errored batches)
      (checkEach runId skipped errored checks) ⟨batches, []⟩ := by
  induction checks generalizing skipped errored batches with
  | nil => exact ⟨[], rfl, rfl, by simp [endedAs], by simp [inserts, recordedBy]⟩
  | cons check rest ih =>
    refine ensures_bind ((ensures_safeCheck check batches).mono fun r t ht => ?_)
    cases r with
    | error e =>
      -- the worker is killed, or the failure itself could not be recorded
      refine ⟨[], List.nil_prefix, ?_⟩
      rw [show t.batches = batches from ht]
      simp [inserts, recordedBy]
    | ok outcome =>
      obtain ⟨recorded, haccounts, hpending, hflatten⟩ := ht
      obtain ⟨batches', pending⟩ := t
      obtain rfl : pending = [] := hpending
      have hflatten : batches'.flatten = batches.flatten ++ inserts runId recorded := hflatten
      -- the part of this check comes before those of the rest
      have hcons : ∀ skipped' errored' : List String,
          skipped' = skipped ++ endedAs .skipped [⟨check, outcome, recorded, haccounts⟩] →
          errored' = errored ++ endedAs .error [⟨check, outcome, recorded, haccounts⟩] →
          Ensures (CheckedEach runId (check :: rest) skipped errored batches)
            (checkEach runId skipped' errored' rest) ⟨batches', []⟩ := by
        rintro skipped' errored' rfl rfl
        refine (ih _ _ batches').mono fun r t ht => ?_
        cases r with
        | error e =>
          obtain ⟨parts, hprefix, hbatches⟩ := ht
          refine ⟨⟨check, outcome, recorded, haccounts⟩ :: parts, ?_, ?_⟩
          · exact List.cons_prefix_cons.mpr ⟨rfl, hprefix⟩
          · rw [hbatches, hflatten, inserts_recordedBy_cons, List.append_assoc]
        | ok lists =>
          obtain ⟨parts, hparts, hpending, hlists, hbatches⟩ := ht
          refine ⟨⟨check, outcome, recorded, haccounts⟩ :: parts, ?_, hpending, ?_, ?_⟩
          · rw [List.map_cons, hparts]
          · rw [hlists, List.append_assoc, List.append_assoc]
            simp only [endedAs, ← List.map_append, ← List.filter_append, List.singleton_append]
          · rw [hbatches, hflatten, inserts_recordedBy_cons, List.append_assoc]
      cases outcome with
      | ok => exact hcons _ _ (by simp [endedAs]) (by simp [endedAs])
      | skipped => exact hcons _ _ (by simp [endedAs]) (by simp [endedAs])
      | error => exact hcons _ _ (by simp [endedAs]) (by simp [endedAs])

end Check

/-! ## Section 2: How a run ends -/

section Ending

variable {runId : UUID} {db : ReconciliationDB} {faults : ℕ → Option Failure}

/-- The run of `_get_run` has its id. -/
theorem reads_getRun (runId : UUID) :
    Reads (fun run => run.id = runId) (getRun runId) := by
  refine (reads_select _).bind fun found hfound => ?_
  obtain ⟨s, rfl⟩ := hfound
  refine (reads_orRaise _ _).mono fun run hrun => ?_
  exact (ReconciliationDB.getRun_eq_some.mp hrun).2

theorem yields_getRun {run : ReconciliationRun} {db' : ReconciliationDB}
    (h : Yields apply (getRun runId) db run db') : db.getRun runId = some run ∧ db' = db := by
  obtain ⟨found, s₁, hselect, hraise⟩ := yields_bind h
  obtain ⟨rfl, rfl⟩ := yields_select hselect
  exact yields_orRaise hraise

theorem settled_flush_commit (w : ReconciliationWrite) :
    Ensures Settled (do
      Txn.flush w
      Txn.commitSession : ReconciliationTxn PUnit) ⟨[], []⟩ :=
  ⟨⟨rfl, fun _ => rfl⟩, fun _ => rfl⟩

theorem settled_completeRun (skipped errored : List String) (now : Instant) :
    Ensures Settled (completeRun runId skipped errored now) ⟨[], []⟩ := by
  refine (reads_getRun runId).ensures_bind (fun run _ => ?_) fun _ => rfl
  refine (reads_select _).ensures_bind (fun counts _ => ?_) fun _ => rfl
  exact settled_flush_commit _

theorem settled_failRun (message : String) (now : Instant) :
    Ensures Settled (failRun runId message now) ⟨[], []⟩ := by
  refine (reads_getRun runId).ensures_bind (fun run _ => ?_) fun _ => rfl
  exact settled_flush_commit _

theorem yields_finishRun {id : UUID} {status : ReconciliationRunStatus} {now : Instant}
    {counts : Option Counts} {runMetadata : RunMetadata} {a : PUnit} {db' : ReconciliationDB}
    (h : Yields apply (do
      Txn.flush (.finishRun id status now counts runMetadata)
      Txn.commitSession : ReconciliationTxn PUnit) db a db') :
    db' = db.updateRun id (ReconciliationRun.finish status now counts runMetadata) := by
  obtain ⟨_, s₁, hflush, hcommit⟩ := yields_bind h
  obtain rfl := yields_commitSession hcommit
  have happly := yields_flush hflush
  simp only [apply] at happly
  split at happly
  · exact (Except.ok.inj happly).symm
  · cases happly

/-- `_complete_run` leaves the database as it was, or writes the counts it reads. -/
theorem completeRun_cases (runId : UUID) (skipped errored : List String) (now : Instant)
    (db : ReconciliationDB) (faults : ℕ → Option Failure) :
    (∃ e, ((completeRun runId skipped errored now).run apply (.fresh db faults)).1 = .error e ∧
      ((completeRun runId skipped errored now).run apply (.fresh db faults)).2.committed = db) ∨
    (((completeRun runId skipped errored now).run apply (.fresh db faults)).1 = .ok ⟨⟩ ∧
      (∃ run, db.getRun runId = some run) ∧
      ((completeRun runId skipped errored now).run apply (.fresh db faults)).2.committed =
        db.updateRun runId (ReconciliationRun.finish .completed now (some (db.countsOf runId))
          (.checks skipped errored))) := by
  cases hr : ((completeRun runId skipped errored now).run apply (.fresh db faults)).1 with
  | error e => exact .inl ⟨e, rfl, committed_of_error (settled_completeRun _ _ _) hr⟩
  | ok a =>
    obtain ⟨run, s₁, hget, hrest⟩ := yields_bind (yields_of_ok (settled_completeRun _ _ _) hr)
    obtain ⟨hrun, rfl⟩ := yields_getRun hget
    obtain ⟨counts, s₂, hselect, hfinish⟩ := yields_bind hrest
    obtain ⟨rfl, rfl⟩ := yields_select hselect
    refine .inr ⟨rfl, ⟨run, hrun⟩, ?_⟩
    rw [yields_finishRun hfinish, (ReconciliationDB.getRun_eq_some.mp hrun).2]

/-- So does `fail_run`, which counts nothing. -/
theorem failRun_cases (runId : UUID) (message : String) (now : Instant) (db : ReconciliationDB)
    (faults : ℕ → Option Failure) :
    (∃ e, ((failRun runId message now).run apply (.fresh db faults)).1 = .error e ∧
      ((failRun runId message now).run apply (.fresh db faults)).2.committed = db) ∨
    (((failRun runId message now).run apply (.fresh db faults)).1 = .ok ⟨⟩ ∧
      (∃ run, db.getRun runId = some run) ∧
      ((failRun runId message now).run apply (.fresh db faults)).2.committed =
        db.updateRun runId (ReconciliationRun.finish .failed now none (.error message))) := by
  cases hr : ((failRun runId message now).run apply (.fresh db faults)).1 with
  | error e => exact .inl ⟨e, rfl, committed_of_error (settled_failRun _ _) hr⟩
  | ok a =>
    obtain ⟨run, s₁, hget, hfinish⟩ := yields_bind (yields_of_ok (settled_failRun _ _) hr)
    obtain ⟨hrun, rfl⟩ := yields_getRun hget
    refine .inr ⟨rfl, ⟨run, hrun⟩, ?_⟩
    rw [yields_finishRun hfinish, (ReconciliationDB.getRun_eq_some.mp hrun).2]

end Ending

/-! ## Section 3: Everything an execution can commit -/

section Execute

variable [UuidText] [PyText] [Sync.ShiprocketTimes] [IsoFormat]

/-- What an execution has left when the checks that are over have led to `checked`. -/
inductive Ended (env : Environment) (runId : UUID) (parts : List Part)
    (checked : ReconciliationDB) : Except Failure PUnit → ReconciliationDB → Prop
  | completed (hall : parts.map Part.check = env.checks)
      (hrun : ∃ run, checked.getRun runId = some run) :
      Ended env runId parts checked (.ok ⟨⟩) (checked.updateRun runId
        (ReconciliationRun.finish .completed env.now (some (checked.countsOf runId))
          (.checks (env.unregistered ++ endedAs .skipped parts) (endedAs .error parts))))
  | failed (message : String) (hrun : ∃ run, checked.getRun runId = some run) :
      Ended env runId parts checked (.ok ⟨⟩) (checked.updateRun runId
        (ReconciliationRun.finish .failed env.now none (.error message)))
  | raised (e : Failure) : Ended env runId parts checked (.error e) checked

/-- After an exception, the run is failed, or it is left when that raises too. -/
theorem ended_handler (env : Environment) (runId : UUID) (parts : List Part)
    (s : Session ReconciliationDB Failure) (e : Failure) :
    Ended env runId parts s.committed
      ((exceptException (runFailed env runId) e).run apply s).1
      ((exceptException (runFailed env runId) e).run apply s).2.committed := by
  have hfail : ∀ message : String, Ended env runId parts s.committed
      ((failRun runId message env.now).run apply (.fresh s.committed s.faults)).1
      ((failRun runId message env.now).run apply (.fresh s.committed s.faults)).2.committed := by
    intro message
    rcases failRun_cases runId message env.now s.committed s.faults with
      ⟨e, hr, hcommitted⟩ | ⟨hr, hrun, hcommitted⟩
    · rw [hr, hcommitted]
      exact .raised e
    · rw [hr, hcommitted]
      exact .failed message hrun
  cases e with
  | killed => exact .raised .killed
  | raised exception => exact hfail _
  | integration message errorType => exact hfail _

/-- Once all checks are over, the run is completed, or failed, or left as it is. -/
theorem ended_completeRun (env : Environment) (runId : UUID) {parts : List Part}
    (hall : parts.map Part.check = env.checks) (checked : ReconciliationDB)
    (faults : ℕ → Option Failure) :
    Ended env runId parts checked
      (((completeRun runId (env.unregistered ++ endedAs .skipped parts) (endedAs .error parts)
        env.now).tryCatch (exceptException (runFailed env runId))).run apply
          (.fresh checked faults)).1
      (((completeRun runId (env.unregistered ++ endedAs .skipped parts) (endedAs .error parts)
        env.now).tryCatch (exceptException (runFailed env runId))).run apply
          (.fresh checked faults)).2.committed := by
  rw [run_tryCatch]
  have hcases := completeRun_cases runId (env.unregistered ++ endedAs .skipped parts)
    (endedAs .error parts) env.now checked faults
  cases hrun : (completeRun runId (env.unregistered ++ endedAs .skipped parts)
    (endedAs .error parts) env.now).run apply (.fresh checked faults) with
  | mk result s =>
    rw [hrun] at hcases
    rcases hcases with ⟨e, hr, hunchanged⟩ | ⟨hr, hfound, hfinished⟩
    · -- the handler meets a session whose last commit is that of the checks
      obtain rfl : result = .error e := hr
      have hended := ended_handler env runId parts s e
      rwa [show s.committed = checked from hunchanged] at hended
    · obtain rfl : result = .ok ⟨⟩ := hr
      have hfinished : s.committed = _ := hfinished
      simp only [hfinished]
      exact .completed hall hfound

/-- Everything an execution can commit: what its checks that are over have recorded, and then
what becomes of the row of the run. -/
theorem execute_cases (env : Environment) (runId : UUID) (db : ReconciliationDB)
    (faults : ℕ → Option Failure) :
    ∃ (parts : List Part) (checked : ReconciliationDB),
      parts.map Part.check <+: env.checks ∧
      replay apply (inserts runId (recordedBy parts)) db = .ok checked ∧
      Ended env runId parts checked
        ((executeReconciliationRun env runId).run apply (.fresh db faults)).1
        ((executeReconciliationRun env runId).run apply (.fresh db faults)).2.committed := by
  rw [executeReconciliationRun, run_tryCatch, runChecks, run_bind]
  have hfresh : (Session.fresh db faults).Follows apply db ⟨[], []⟩ :=
    Session.follows_fresh db faults
  have hchecks : Ensures (CheckedEach runId env.checks env.unregistered [] [])
      (checkEach runId env.unregistered [] env.checks) ⟨[], []⟩ :=
    ensures_checkEach env.checks env.unregistered [] []
  obtain ⟨t, hpost, hfollows⟩ := hchecks.run hfresh
  have hcommitted := hfollows.committed
  have hworking := hfollows.working
  cases hrun : (checkEach runId env.unregistered [] env.checks).run apply (.fresh db faults) with
  | mk result s =>
    rw [hrun] at hpost hcommitted hworking
    cases result with
    | error e =>
      obtain ⟨parts, hprefix, hbatches⟩ := hpost
      rw [hbatches, List.flatten_nil, List.nil_append] at hcommitted
      exact ⟨parts, s.committed, hprefix, hcommitted, ended_handler env runId parts s e⟩
    | ok lists =>
      obtain ⟨parts, hparts, hpending, rfl, hbatches⟩ := hpost
      rw [hbatches, List.flatten_nil, List.nil_append] at hcommitted
      rw [hpending] at hworking
      -- the checks have left a session with nothing pending
      have hs : s = .fresh s.committed s.faults := by
        obtain ⟨committed, working, faults⟩ := s
        cases hworking
        rfl
      have hended := ended_completeRun env runId hparts s.committed s.faults
      rw [← hs, run_tryCatch] at hended
      exact ⟨parts, s.committed, hparts ▸ List.prefix_rfl, hcommitted, hended⟩

end Execute

/-! ## Section 4: The rows a run leaves -/

section Rows

variable {runId : UUID} {db db' : ReconciliationDB}

theorem replay_inserts_cons (r : Recorded) (rest : List Recorded) :
    replay apply (inserts runId (r :: rest)) db =
      (db.addResult runId r).bind (replay apply (inserts runId rest)) := by
  rw [inserts, List.map_cons, replay, List.foldlM_cons]
  rfl

/-- Inserted results are the last rows, in order, and nothing else changes. -/
theorem rows_of_inserts {recorded : List Recorded}
    (h : replay apply (inserts runId recorded) db = .ok db') :
    db'.runs = db.runs ∧ ∃ rows : List ReconciliationResult,
      db'.results.rows = db.results.rows ++ rows ∧
        rows.map ReconciliationResult.toRecorded = recorded ∧ ∀ row ∈ rows, row.runId = runId := by
  induction recorded generalizing db with
  | nil =>
    cases h
    exact ⟨rfl, [], (List.append_nil _).symm, rfl, fun _ hrow => absurd hrow List.not_mem_nil⟩
  | cons r rest ih =>
    rw [replay_inserts_cons] at h
    cases hadd : db.addResult runId r with
    | error e =>
      rw [hadd] at h
      cases h
    | ok db₁ =>
      rw [hadd] at h
      have hrest : replay apply (inserts runId rest) db₁ = .ok db' := h
      obtain ⟨_, _, _, hruns, hrows⟩ := ReconciliationDB.addResult_eq_ok.mp hadd
      obtain ⟨hruns', rows, hrows', hrecorded, hids⟩ := ih hrest
      refine ⟨hruns'.trans hruns, db.newResult runId r :: rows, ?_, ?_, ?_⟩
      · rw [hrows', hrows, List.append_assoc, List.singleton_append]
      · rw [List.map_cons, hrecorded]
        rfl
      · rintro row (_ | ⟨_, hrow⟩)
        · rfl
        · exact hids row hrow

/-- The row of a run is found where it was, updated if it is the one. -/
theorem getRun_updateRun (db : ReconciliationDB) (id : UUID)
    (f : Table.KeyPreserving ReconciliationRun.keys) (runId : UUID) :
    (db.updateRun id f).getRun runId =
      (db.getRun runId).map fun run => if run.id == id then f run else run := by
  refine Table.find?_modify db.runs fun run => ?_
  have hkeeps : (f run).id = run.id := by simpa [ReconciliationRun.keys] using f.keeps run
  rw [hkeeps]

theorem getRun_updateRun_self (f : Table.KeyPreserving ReconciliationRun.keys)
    {run : ReconciliationRun} (hrun : db.getRun runId = some run) :
    (db.updateRun runId f).getRun runId = some (f run) := by
  have hid := (ReconciliationDB.getRun_eq_some.mp hrun).2
  simp [getRun_updateRun, hrun, hid]

theorem getRun_updateRun_of_ne {id : UUID} (f : Table.KeyPreserving ReconciliationRun.keys)
    (hne : runId ≠ id) : (db.updateRun id f).getRun runId = db.getRun runId := by
  rw [getRun_updateRun]
  cases hrun : db.getRun runId with
  | none => rfl
  | some run =>
    have hid := (ReconciliationDB.getRun_eq_some.mp hrun).2
    simp [hid, hne]

/-- The results of another run stay. -/
theorem resultsOf_inserts {recorded : List Recorded} {other : UUID}
    (h : replay apply (inserts other recorded) db = .ok db') (hne : runId ≠ other) :
    db'.resultsOf runId = db.resultsOf runId := by
  obtain ⟨_, rows, hrows, _, hids⟩ := rows_of_inserts h
  have hnone : rows.filter (fun r => r.runId == runId) = [] :=
    List.filter_eq_nil_iff.mpr fun row hrow => by simp [hids row hrow, hne.symm]
  rw [ReconciliationDB.resultsOf, hrows, List.filter_append, hnone, List.append_nil]
  rfl

end Rows

section Accounted

variable [UuidText] [PyText] [Sync.ShiprocketTimes] [IsoFormat] {env : Environment} {runId : UUID}
  {parts : List Part} {checked final : ReconciliationDB} {result : Except Failure PUnit}

namespace Ended

/-- The end of a run records no result. -/
theorem results (h : Ended env runId parts checked result final) :
    final.results = checked.results := by
  cases h <;> rfl

/-- It writes the row of no other run. -/
theorem getRun_of_ne (h : Ended env runId parts checked result final) {id : UUID}
    (hne : id ≠ runId) : final.getRun id = checked.getRun id := by
  cases h with
  | completed hall hrun => exact getRun_updateRun_of_ne _ hne
  | failed message hrun => exact getRun_updateRun_of_ne _ hne
  | raised e => rfl

/-- The row of a run whose execution has returned. -/
theorem row (h : Ended env runId parts checked (.ok ⟨⟩) final) :
    ∃ run, final.getRun runId = some run ∧
      (run.status = .failed ∨ run.status = .completed ∧ parts.map Part.check = env.checks ∧
        run.counts = final.countsOf runId ∧
        run.runMetadata = some (.checks (env.unregistered ++ endedAs .skipped parts)
          (endedAs .error parts))) := by
  cases h with
  | completed hall hrun =>
    obtain ⟨before, hbefore⟩ := hrun
    exact ⟨_, getRun_updateRun_self _ hbefore, .inr ⟨rfl, hall, rfl, rfl⟩⟩
  | failed message hrun =>
    obtain ⟨before, hbefore⟩ := hrun
    exact ⟨_, getRun_updateRun_self _ hbefore, .inl rfl⟩

end Ended

/-- Every result of an execution is accounted for: the checks that are over, in their order, have
each recorded all that they found, nothing, or the one result that says that they failed. No row
of another run is touched, and a run that is completed names all its checks that were skipped or
failed. -/
theorem results_accounted (env : Environment) (runId : UUID) (db : ReconciliationDB)
    (faults : ℕ → Option Failure) :
    ∃ (parts : List Part) (rows : List ReconciliationResult),
      parts.map Part.check <+: env.checks ∧
      ((executeReconciliationRun env runId).run apply (.fresh db faults)).2.committed.results.rows
        = db.results.rows ++ rows ∧
      rows.map ReconciliationResult.toRecorded = recordedBy parts ∧
      (∀ row ∈ rows, row.runId = runId) ∧
      (∀ id, id ≠ runId →
        ((executeReconciliationRun env runId).run apply (.fresh db faults)).2.committed.getRun id
          = db.getRun id) ∧
      (((executeReconciliationRun env runId).run apply (.fresh db faults)).1 = .ok ⟨⟩ →
        ∃ run, ((executeReconciliationRun env runId).run apply
            (.fresh db faults)).2.committed.getRun runId = some run ∧
          (run.status = .failed ∨ run.status = .completed ∧
            parts.map Part.check = env.checks ∧
            run.runMetadata = some (.checks (env.unregistered ++ endedAs .skipped parts)
              (endedAs .error parts)))) := by
  obtain ⟨parts, checked, hprefix, hreplay, hended⟩ := execute_cases env runId db faults
  obtain ⟨hruns, rows, hrows, hrecorded, hids⟩ := rows_of_inserts hreplay
  refine ⟨parts, rows, hprefix, ?_, hrecorded, hids, fun id hne => ?_, fun hok => ?_⟩
  · rw [hended.results, hrows]
  · rw [hended.getRun_of_ne hne, ReconciliationDB.getRun, hruns]
    rfl
  · rw [hok] at hended
    obtain ⟨run, hrun, hfailed | ⟨hcompleted, hall, _, hmetadata⟩⟩ := hended.row
    · exact ⟨run, hrun, .inl hfailed⟩
    · exact ⟨run, hrun, .inr ⟨hcompleted, hall, hmetadata⟩⟩

end Accounted

/-! ## Section 5: The other calls -/

section Others

variable {db : ReconciliationDB} {runId : UUID}

theorem getRun_addRun {run : ReconciliationRun} (actor : Option UUID) (now : Instant)
    (hrun : db.getRun runId = some run) : (db.addRun actor now).getRun runId = some run := by
  obtain ⟨hmem, hid⟩ := ReconciliationDB.getRun_eq_some.mp hrun
  exact ReconciliationDB.getRun_eq_some.mpr ⟨List.mem_append_left _ hmem, hid⟩

/-- Resolving a result changes neither its run nor its status. -/
theorem countOf_resolve (resultId actor : UUID) (now : Instant) (status : ReconciliationStatus) :
    (db.resolve resultId actor now).countOf runId status = db.countOf runId status := by
  simp only [ReconciliationDB.countOf, ReconciliationDB.resultsOf, ReconciliationDB.resolve,
    Table.rows_modify, List.countP_filter, List.countP_map]
  refine List.countP_congr fun r _ => ?_
  by_cases hid : r.id = resultId <;> simp [hid]

theorem countsOf_resolve (resultId actor : UUID) (now : Instant) :
    (db.resolve resultId actor now).countsOf runId = db.countsOf runId := by
  simp only [ReconciliationDB.countsOf, countOf_resolve]

theorem startRun_cases (actor : Option UUID) (now : Instant) (db : ReconciliationDB)
    (faults : ℕ → Option Failure) :
    ((startRun actor now).run apply (.fresh db faults)).2.committed = db ∨
      ((startRun actor now).run apply (.fresh db faults)).2.committed = db.addRun actor now := by
  refine (committed_cases (settled_flush_commit _) db faults).imp_right fun h => ?_
  obtain ⟨_, hyields⟩ := h
  obtain ⟨_, s₁, hflush, hcommit⟩ := yields_bind hyields
  have happly := yields_flush hflush
  cases happly
  exact yields_commitSession hcommit

theorem resolveResult_cases (resultId actor : UUID) (now : Instant) (db : ReconciliationDB)
    (faults : ℕ → Option Failure) :
    ((resolveResult resultId actor now).run apply (.fresh db faults)).2.committed = db ∨
      ∃ id, ((resolveResult resultId actor now).run apply (.fresh db faults)).2.committed =
        db.resolve id actor now := by
  have hsettled : Ensures Settled (resolveResult resultId actor now) ⟨[], []⟩ := by
    refine (reads_select _).ensures_bind (fun found _ => ?_) fun _ => rfl
    refine (reads_orRaise _ _).ensures_bind (fun result _ => ?_) fun _ => rfl
    exact settled_flush_commit _
  refine (committed_cases hsettled db faults).imp_right fun h => ?_
  obtain ⟨_, hyields⟩ := h
  obtain ⟨found, s₁, hselect, hrest⟩ := yields_bind hyields
  obtain ⟨rfl, rfl⟩ := yields_select hselect
  obtain ⟨result, s₂, hraise, hwrite⟩ := yields_bind hrest
  obtain ⟨_, rfl⟩ := yields_orRaise hraise
  obtain ⟨_, s₃, hflush, hcommit⟩ := yields_bind hwrite
  have happly := yields_flush hflush
  cases happly
  exact ⟨result.id, yields_commitSession hcommit⟩

end Others

/-! ## Section 6: What happens to a report later -/

/-- The calls that write the tables of the reconciliation. -/
inductive Call where
  | start (actor : Option UUID) (now : Instant)
  | execute (env : Environment) (runId : UUID)
  | resolve (resultId actor : UUID) (now : Instant)

/-- A call, and which of its statements fail. -/
structure Step where
  call : Call
  faults : ℕ → Option Failure

section Later

variable [UuidText] [PyText] [Sync.ShiprocketTimes] [IsoFormat]

def Call.perform : Call → ReconciliationTxn PUnit
  | start actor now => startRun actor now
  | execute env runId => executeReconciliationRun env runId
  | resolve resultId actor now => resolveResult resultId actor now

/-- The run that a call executes. -/
def Call.executed : Call → Option UUID
  | execute _ runId => some runId
  | start .. | resolve .. => none

/-- What is committed after a call. -/
def Step.next (db : ReconciliationDB) (step : Step) : ReconciliationDB :=
  (step.call.perform.run apply (.fresh db step.faults)).2.committed

/-- What is committed after calls, each in a session of its own. -/
def after (db : ReconciliationDB) (steps : List Step) : ReconciliationDB :=
  steps.foldl Step.next db

variable {db : ReconciliationDB} {runId : UUID}

/-- A call that does not execute a run leaves its row and the counts of its results. -/
theorem next_keeps (step : Step) {run : ReconciliationRun} (hrun : db.getRun runId = some run)
    (hother : step.call.executed ≠ some runId) :
    (step.next db).getRun runId = some run ∧ (step.next db).countsOf runId = db.countsOf runId := by
  obtain ⟨call, faults⟩ := step
  cases call with
  | start actor now =>
    rcases startRun_cases actor now db faults with h | h
    · rw [Step.next, Call.perform, h]
      exact ⟨hrun, rfl⟩
    · rw [Step.next, Call.perform, h]
      exact ⟨getRun_addRun actor now hrun, rfl⟩
  | resolve resultId actor now =>
    rcases resolveResult_cases resultId actor now db faults with h | ⟨id, h⟩
    · rw [Step.next, Call.perform, h]
      exact ⟨hrun, rfl⟩
    · rw [Step.next, Call.perform, h]
      exact ⟨hrun, countsOf_resolve _ _ _⟩
  | execute env other =>
    have hne : runId ≠ other := fun h => hother (congrArg some h.symm)
    obtain ⟨parts, checked, _, hreplay, hended⟩ := execute_cases env other db faults
    rw [Step.next, Call.perform]
    refine ⟨?_, ?_⟩
    · rw [hended.getRun_of_ne hne, ReconciliationDB.getRun, (rows_of_inserts hreplay).1]
      exact hrun
    · -- the results it inserts are those of the other run
      simp only [ReconciliationDB.countsOf, ReconciliationDB.countOf]
      rw [ReconciliationDB.resultsOf, hended.results]
      have := resultsOf_inserts hreplay hne
      rw [ReconciliationDB.resultsOf] at this
      rw [this]

/-- By induction on the calls. -/
theorem after_keeps (steps : List Step) {run : ReconciliationRun}
    (hrun : db.getRun runId = some run)
    (hothers : ∀ step ∈ steps, step.call.executed ≠ some runId) :
    (after db steps).getRun runId = some run ∧
      (after db steps).countsOf runId = db.countsOf runId := by
  induction steps generalizing db with
  | nil => exact ⟨hrun, rfl⟩
  | cons step rest ih =>
    obtain ⟨hnext, hcounts⟩ := next_keeps step hrun (hothers step List.mem_cons_self)
    obtain ⟨hafter, hlater⟩ := ih hnext fun step hstep =>
      hothers step (List.mem_cons_of_mem _ hstep)
    exact ⟨hafter, hlater.trans hcounts⟩

/-- An execution that returns leaves its run failed, or completed; and the counts of a completed
run are those of its results, whatever is started, resolved or executed later, until the run
itself is executed again. -/
theorem report_exact (env : Environment) (runId : UUID) (db : ReconciliationDB)
    (faults : ℕ → Option Failure) (later : List Step)
    (hok : ((executeReconciliationRun env runId).run apply (.fresh db faults)).1 = .ok ⟨⟩)
    (hlater : ∀ step ∈ later, step.call.executed ≠ some runId) :
    ∃ run, (after (Step.next db ⟨.execute env runId, faults⟩) later).getRun runId = some run ∧
      (run.status = .failed ∨ run.status = .completed ∧
        run.counts = (after (Step.next db ⟨.execute env runId, faults⟩) later).countsOf runId ∧
        run.counts.totalChecked =
          ((after (Step.next db ⟨.execute env runId, faults⟩) later).resultsOf runId).length) := by
  obtain ⟨parts, checked, _, _, hended⟩ := execute_cases env runId db faults
  rw [hok] at hended
  obtain ⟨run, hrun, hstatus⟩ := hended.row
  have hnext : (Step.next db ⟨.execute env runId, faults⟩).getRun runId = some run := hrun
  obtain ⟨hafter, hcounts⟩ := after_keeps later hnext hlater
  refine ⟨run, hafter, hstatus.imp_right fun h => ?_⟩
  have hexact : run.counts =
      (after (Step.next db ⟨.execute env runId, faults⟩) later).countsOf runId :=
    h.2.2.1.trans hcounts.symm
  exact ⟨h.1, hexact, by rw [hexact, ReconciliationDB.totalChecked_countsOf]⟩

end Later

/-- A run has been started. -/
def oneRun : ReconciliationDB := ({} : ReconciliationDB).addRun none 0

/-- An order from Shopify without its id there. -/
def unlinked : Orders.Order where
  id := 7
  orderNumber := "#7"
  sourceSystem := some .shopify
  externalId := some "70"

/-- Shopify has an order that the shop has not, the shop has one without its id at Shopify, and
Shiprocket is not configured. -/
def smallEnvironment : Environment where
  shopify := some
    { orders := .ok [.ok ⟨some "900"⟩], products := .ok [], customers := .ok [] }
  shiprocket := some
    { getTracking := fun _ => .error
        (.integration "Shiprocket is not configured." (some "not_configured"))
      ndr := .error (.integration "Shiprocket is not configured." (some "not_configured")) }
  business _ := { tracking := { orders := { orders := Table.ofList [unlinked] (by decide) } } }

/-- Another run is started, and the first result resolved. -/
def twoLater : List Step :=
  [⟨.start none 5, fun _ => none⟩, ⟨.resolve 0 3 9, fun _ => none⟩]

theorem report_exact_small :
    ∃ run, (after (Step.next oneRun ⟨.execute smallEnvironment 0, fun _ => none⟩)
        twoLater).getRun 0 = some run ∧
      (run.status = .failed ∨ run.status = .completed ∧
        run.counts = (after (Step.next oneRun ⟨.execute smallEnvironment 0, fun _ => none⟩)
          twoLater).countsOf 0 ∧
        run.counts.totalChecked =
          ((after (Step.next oneRun ⟨.execute smallEnvironment 0, fun _ => none⟩)
            twoLater).resultsOf 0).length) :=
  report_exact smallEnvironment 0 oneRun (fun _ => none) twoLater rfl
    (by simp [twoLater, Call.executed])

end AyushOms.Reconciliation
