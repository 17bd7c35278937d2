import AyushOms.Reconciliation.Runs

/-!
# Runs Whose Statements All Succeed

When the database does its part, a run is completed whatever the providers answer: each check has
its verdict, and the database after the run is the one the verdicts lead to. The broker may deliver
the task of a run again; the results that the first execution has recorded are then still there.

## Main results

- `execute_faultless`: a run is completed, with the verdicts of its checks
- `execute_again`: delivered again, every check that had recorded a result with both ids fails
-/

namespace AyushOms.Reconciliation

open AyushOms.Lib AyushOms.Lib.Txn
open ReconciliationDB (apply)

/-! ## Section 1: When the results of a check are accepted -/

section Admitted

/-- The columns take the results and no key is taken, by a row or by one of themselves. -/
structure Admitted (runId : UUID) (recorded : List Recorded) (db : ReconciliationDB) : Prop where
  fits : ∀ r ∈ recorded, r.fits = true
  distinct : (recorded.flatMap (Recorded.keys runId)).Nodup
  free : ∀ k ∈ recorded.flatMap (Recorded.keys runId), ∀ row ∈ db.results.rows, k ∉ row.keys

variable {runId : UUID} {recorded : List Recorded} {db db' : ReconciliationDB}

/-- Behind a result that is accepted, the rest is accepted when all are. -/
theorem admitted_cons {r : Recorded} {rest : List Recorded}
    (hadd : db.addResult runId r = .ok db') :
    Admitted runId (r :: rest) db ↔ Admitted runId rest db' := by
  obtain ⟨hfits, _, hfree, _, hrows⟩ := ReconciliationDB.addResult_eq_ok.mp hadd
  constructor
  · rintro ⟨hfitsAll, hdistinct, hfreeAll⟩
    rw [List.flatMap_cons, List.nodup_append'] at hdistinct
    simp only [List.flatMap_cons, List.mem_append] at hfreeAll
    refine ⟨fun r' hr' => hfitsAll r' (List.mem_cons_of_mem _ hr'), hdistinct.2.1,
      fun k hk row hrow => ?_⟩
    rw [hrows, List.mem_append, List.mem_singleton] at hrow
    rcases hrow with hrow | rfl
    · exact hfreeAll k (.inr hk) row hrow
    · rw [ReconciliationDB.newResult_keys, List.mem_cons]
      rintro (rfl | hk')
      · obtain ⟨r', _, hk'⟩ := List.mem_flatMap.mp hk
        exact id_notMem_keys _ _ _ hk'
      · exact hdistinct.2.2 hk' hk
  · intro hrest
    refine ⟨?_, ?_, ?_⟩
    · rintro r' (_ | ⟨_, hr'⟩)
      · exact hfits
      · exact hrest.fits r' hr'
    · rw [List.flatMap_cons, List.nodup_append']
      refine ⟨keys_nodup runId r, hrest.distinct, fun k hk hk' => ?_⟩
      -- the new row has the keys of the first result
      exact hrest.free k hk' (db.newResult runId r) (by simp [hrows])
        (List.mem_cons_of_mem _ hk)
    · intro k hk row hrow
      rw [List.flatMap_cons, List.mem_append] at hk
      rcases hk with hk | hk
      · exact hfree k hk row hrow
      · exact hrest.free k hk row (by simp [hrows, hrow])

/-- The results of a run that is there are accepted exactly then. -/
theorem admitted_iff (hrun : ∃ run ∈ db.runs.rows, run.id = runId) :
    (∃ db', replay apply (inserts runId recorded) db = .ok db') ↔ Admitted runId recorded db := by
  induction recorded generalizing db with
  | nil => exact ⟨fun _ => ⟨nofun, List.nodup_nil, nofun⟩, fun _ => ⟨db, rfl⟩⟩
  | cons r rest ih =>
    rw [replay_inserts_cons]
    cases hadd : db.addResult runId r with
    | ok db₁ =>
      have hruns : db₁.runs = db.runs := (ReconciliationDB.addResult_eq_ok.mp hadd).2.2.2.1
      exact (ih (hruns ▸ hrun)).trans (admitted_cons hadd).symm
    | error e =>
      constructor
      · rintro ⟨_, h⟩
        cases h
      · intro h
        have hfree : ∀ k ∈ r.keys runId, ∀ row ∈ db.results.rows, k ∉ row.keys :=
          fun k hk => h.free k (List.mem_flatMap.mpr ⟨r, List.mem_cons_self, hk⟩)
        obtain ⟨db₁, hok⟩ :=
          ReconciliationDB.exists_addResult (h.fits r List.mem_cons_self) hrun hfree
        rw [hadd] at hok
        cases hok

/-- Fewer rows take fewer keys. -/
theorem Admitted.mono (h : Admitted runId recorded db')
    (hrows : ∀ row ∈ db.results.rows, row ∈ db'.results.rows) : Admitted runId recorded db :=
  ⟨h.fits, h.distinct, fun k hk row hrow => h.free k hk row (hrows row hrow)⟩

/-- Results without one of their ids are accepted again and again. -/
theorem Admitted.again (h : Admitted runId recorded db)
    (hkeys : ∀ r ∈ recorded, r.keys runId = []) : Admitted runId recorded db' := by
  refine ⟨h.fits, h.distinct, fun k hk => ?_⟩
  obtain ⟨r, hr, hk⟩ := List.mem_flatMap.mp hk
  rw [hkeys r hr] at hk
  cases hk

/-- A result with both is accepted once. -/
theorem not_admitted_again (h : replay apply (inserts runId recorded) db = .ok db')
    {r : Recorded} (hr : r ∈ recorded) (hkeys : r.keys runId ≠ []) {later : ReconciliationDB}
    (hrows : ∀ row ∈ db'.results.rows, row ∈ later.results.rows) :
    ¬ Admitted runId recorded later := by
  intro hagain
  obtain ⟨_, rows, hrows', rfl, hids⟩ := rows_of_inserts h
  obtain ⟨row, hrow, rfl⟩ := List.mem_map.mp hr
  obtain ⟨k, hk⟩ := List.exists_mem_of_ne_nil _ hkeys
  refine hagain.free k (List.mem_flatMap.mpr ⟨_, hr, hk⟩) row
    (hrows row (hrows' ▸ List.mem_append_right _ hrow)) ?_
  rw [ReconciliationResult.keys, hids row hrow]
  exact List.mem_cons_of_mem _ hk

end Admitted

/-! ## Section 2: Verdicts -/

/-- The failure that makes a check skipped. -/
def Failure.notConfigured : Failure → Bool
  | integration _ errorType => errorType == some "not_configured"
  | raised _ | killed => false

/-- What the function of a check raises when no statement fails. -/
def Check.failure (check : Check) (runId : UUID) (db : ReconciliationDB) : Option Failure :=
  match replay apply (inserts runId check.found.recorded) db with
  | .ok _ => check.found.raised
  | .error e => some e

/-- What `_safe_check` makes of what the function of a check raises. -/
def verdictOf : Option Failure → Outcome
  | none => .ok
  | some e => if e.notConfigured then .skipped else .error

/-- What it then returns. -/
def Check.verdict (check : Check) (runId : UUID) (db : ReconciliationDB) : Outcome :=
  verdictOf (check.failure runId db)

/-- The database it then leaves. -/
def Check.settle (check : Check) (runId : UUID) (db : ReconciliationDB) : ReconciliationDB :=
  match check.failure runId db with
  | none => (replay apply (inserts runId check.found.recorded) db).toOption.getD db
  | some e => if e.notConfigured then db
      else (db.addResult runId (check.errorResult e.str)).toOption.getD db

/-- The verdicts of checks, one after another. -/
def verdicts (runId : UUID) : List Check → ReconciliationDB → List Outcome
  | [], _ => []
  | check :: rest, db => check.verdict runId db :: verdicts runId rest (check.settle runId db)

/-- The database that checks leave. -/
def settleEach (runId : UUID) : List Check → ReconciliationDB → ReconciliationDB
  | [], db => db
  | check :: rest, db => settleEach runId rest (check.settle runId db)

/-- The types of the checks with a verdict. -/
def namesOf (outcome : Outcome) (checks : List Check) (outcomes : List Outcome) : List String :=
  ((checks.zip outcomes).filter fun entry => entry.2 = outcome).map fun entry => entry.1.checkType

/-- What the function of a check raises can be recorded. -/
structure Check.Reportable (check : Check) : Prop where
  fits : ∀ message, clean message → (check.errorResult message).fits = true
  raised : ∀ e, check.found.raised = some e → e ≠ .killed ∧ clean e.str

section Verdicts

variable {runId : UUID} {check : Check} {db : ReconciliationDB}

/-- What the tables refuse a result with. -/
theorem addResult_error {r : Recorded} {e : Failure} (h : db.addResult runId r = .error e) :
    e = dataError ∨ e = .raised .integrityError := by
  unfold ReconciliationDB.addResult at h
  split at h
  · split at h
    · split at h
      · cases h
      · exact .inr (Except.error.inj h).symm
    · exact .inr (Except.error.inj h).symm
  · exact .inl (Except.error.inj h).symm

theorem inserts_error {recorded : List Recorded} {e : Failure}
    (h : replay apply (inserts runId recorded) db = .error e) :
    e = dataError ∨ e = .raised .integrityError := by
  induction recorded generalizing db with
  | nil => cases h
  | cons r rest ih =>
    rw [replay_inserts_cons] at h
    cases hadd : db.addResult runId r with
    | error e' =>
      rw [hadd] at h
      cases h
      exact addResult_error hadd
    | ok db₁ =>
      rw [hadd] at h
      exact ih h

/-- Whatever fails, the check can say so. -/
theorem Check.Reportable.failure (h : check.Reportable) {e : Failure}
    (he : check.failure runId db = some e) : e ≠ .killed ∧ clean e.str := by
  unfold Check.failure at he
  split at he
  · exact h.raised e he
  · rename_i hreplay
    cases he
    rcases inserts_error hreplay with rfl | rfl
    · exact ⟨nofun, by decide⟩
    · exact ⟨nofun, by decide⟩

/-- Its result is accepted: a `NULL` collides with nothing. -/
theorem Check.Reportable.exists_addResult (h : check.Reportable)
    (hrun : ∃ run ∈ db.runs.rows, run.id = runId) {message : String} (hclean : clean message) :
    ∃ db', db.addResult runId (check.errorResult message) = .ok db' :=
  ReconciliationDB.addResult_of_unkeyed (h.fits message hclean) hrun rfl

theorem verdict_of_not_admitted (hrun : ∃ run ∈ db.runs.rows, run.id = runId)
    (h : ¬ Admitted runId check.found.recorded db) : check.verdict runId db = .error := by
  cases hreplay : replay apply (inserts runId check.found.recorded) db with
  | ok db' => exact absurd ((admitted_iff hrun).mp ⟨db', hreplay⟩) h
  | error e =>
    rcases inserts_error hreplay with rfl | rfl <;>
      simp [Check.verdict, verdictOf, Check.failure, hreplay, Failure.notConfigured, dataError]

theorem verdict_of_admitted (hrun : ∃ run ∈ db.runs.rows, run.id = runId)
    (h : Admitted runId check.found.recorded db) :
    check.verdict runId db = verdictOf check.found.raised := by
  obtain ⟨db', hreplay⟩ := (admitted_iff hrun).mpr h
  simp only [Check.verdict, Check.failure, hreplay]

/-- A check leaves the runs, and the results that are there. -/
theorem settle_rows (check : Check) (runId : UUID) (db : ReconciliationDB) :
    (check.settle runId db).runs = db.runs ∧
      ∀ row ∈ db.results.rows, row ∈ (check.settle runId db).results.rows := by
  unfold Check.settle
  split
  · cases hreplay : replay apply (inserts runId check.found.recorded) db with
    | error e => exact ⟨rfl, fun row hrow => hrow⟩
    | ok db' =>
      obtain ⟨hruns, rows, hrows, _⟩ := rows_of_inserts hreplay
      exact ⟨hruns, fun row hrow => hrows ▸ List.mem_append_left _ hrow⟩
  · split
    · exact ⟨rfl, fun row hrow => hrow⟩
    · rename_i e _ _
      cases hadd : db.addResult runId (check.errorResult e.str) with
      | error e => exact ⟨rfl, fun row hrow => hrow⟩
      | ok db' =>
        obtain ⟨_, _, _, hruns, hrows⟩ := ReconciliationDB.addResult_eq_ok.mp hadd
        exact ⟨hruns, fun row hrow => hrows ▸ List.mem_append_left _ hrow⟩

theorem settleEach_rows (runId : UUID) (checks : List Check) (db : ReconciliationDB) :
    (settleEach runId checks db).runs = db.runs ∧
      ∀ row ∈ db.results.rows, row ∈ (settleEach runId checks db).results.rows := by
  induction checks generalizing db with
  | nil => exact ⟨rfl, fun row hrow => hrow⟩
  | cons check rest ih =>
    obtain ⟨hruns, hrows⟩ := settle_rows check runId db
    obtain ⟨hruns', hrows'⟩ := ih (check.settle runId db)
    exact ⟨hruns'.trans hruns, fun row hrow => hrows' row (hrows row hrow)⟩

theorem getRun_settleEach (checks : List Check) {run : ReconciliationRun}
    (hrun : db.getRun runId = some run) :
    (settleEach runId checks db).getRun runId = some run := by
  rw [ReconciliationDB.getRun, (settleEach_rows runId checks db).1]
  exact hrun

end Verdicts

/-! ## Section 3: Calls none of whose statements fails -/

/-- No statement fails. -/
abbrev noFaults : ℕ → Option Failure := fun _ => none

section Faultless

variable {runId : UUID}

theorem run_recordAll_ok {recorded : List Recorded} {committed db db' : ReconciliationDB}
    (h : replay apply (inserts runId recorded) db = .ok db') :
    (recordAll runId recorded).run apply ⟨committed, db, noFaults⟩ =
      (.ok ⟨⟩, ⟨committed, db', noFaults⟩) := by
  induction recorded generalizing db with
  | nil =>
    cases h
    rfl
  | cons r rest ih =>
    rw [replay_inserts_cons] at h
    cases hadd : db.addResult runId r with
    | error e =>
      rw [hadd] at h
      cases h
    | ok db₁ =>
      rw [hadd] at h
      rw [recordAll, run_bind, record, Txn.flush, Txn.run]
      simp only [apply, hadd]
      exact ih h

theorem run_recordAll_error {recorded : List Recorded} {committed db : ReconciliationDB}
    {e : Failure} (h : replay apply (inserts runId recorded) db = .error e) :
    ∃ working, (recordAll runId recorded).run apply ⟨committed, db, noFaults⟩ =
      (.error e, ⟨committed, working, noFaults⟩) := by
  induction recorded generalizing db with
  | nil => cases h
  | cons r rest ih =>
    rw [replay_inserts_cons] at h
    rw [recordAll, run_bind, record, Txn.flush, Txn.run]
    cases hadd : db.addResult runId r with
    | error e' =>
      rw [hadd] at h
      cases h
      simp only [apply, hadd]
      exact ⟨db, rfl⟩
    | ok db₁ =>
      rw [hadd] at h
      simp only [apply, hadd]
      exact ih h

/-- The query of a check succeeds. -/
theorem run_fn (check : Check) (db : ReconciliationDB) :
    (check.fn runId).run apply (.fresh db noFaults) =
      (recordAll runId check.found.recorded >>= fun _ =>
        raiseFound check).run apply ⟨db, db, noFaults⟩ := rfl

/-- The function of a check that raises nothing returns, its results sent. -/
theorem run_fn_ok {check : Check} {db : ReconciliationDB} (h : check.failure runId db = none) :
    ∃ db', replay apply (inserts runId check.found.recorded) db = .ok db' ∧
      (check.fn runId).run apply (.fresh db noFaults) = (.ok ⟨⟩, ⟨db, db', noFaults⟩) := by
  unfold Check.failure at h
  split at h
  · rename_i db' hreplay
    refine ⟨db', hreplay, ?_⟩
    rw [run_fn, run_bind, run_recordAll_ok hreplay, raiseFound, h]
    rfl
  · cases h

/-- One that raises commits nothing. -/
theorem run_fn_error {check : Check} {db : ReconciliationDB} {e : Failure}
    (h : check.failure runId db = some e) :
    ∃ working,
      (check.fn runId).run apply (.fresh db noFaults) = (.error e, ⟨db, working, noFaults⟩) := by
  unfold Check.failure at h
  split at h
  · rename_i db' hreplay
    refine ⟨db', ?_⟩
    rw [run_fn, run_bind, run_recordAll_ok hreplay, raiseFound, h]
    rfl
  · rename_i e' hreplay
    cases h
    obtain ⟨working, hrun⟩ : ∃ working, (recordAll runId check.found.recorded).run apply
        ⟨db, db, noFaults⟩ = (.error e, ⟨db, working, noFaults⟩) := run_recordAll_error hreplay
    refine ⟨working, ?_⟩
    rw [run_fn, run_bind, hrun]

theorem run_recordError {check : Check} {message : String} {db db' : ReconciliationDB}
    (h : db.addResult runId (check.errorResult message) = .ok db') :
    (recordError runId check message).run apply (.fresh db noFaults) =
      (.ok .error, .fresh db' noFaults) := by
  rw [recordError, run_bind, record, Txn.flush, Txn.run]
  simp only [Session.fresh, apply, h]
  rfl

/-- `_safe_check` returns the verdict, and the database is settled. -/
theorem run_safeCheck {check : Check} {db : ReconciliationDB} (hcheck : check.Reportable)
    (hrun : ∃ run ∈ db.runs.rows, run.id = runId) :
    (safeCheck runId check).run apply (.fresh db noFaults) =
      (.ok (check.verdict runId db), .fresh (check.settle runId db) noFaults) := by
  rw [safeCheck, run_tryCatch, run_bind, Check.verdict, Check.settle]
  cases hfailure : check.failure runId db with
  | none =>
    obtain ⟨db', hreplay, hfn⟩ := run_fn_ok hfailure
    rw [hfn, hreplay]
    rfl
  | some e =>
    obtain ⟨working, hfn⟩ := run_fn_error hfailure
    obtain ⟨hkilled, hclean⟩ := hcheck.failure hfailure
    obtain ⟨db', hadd⟩ := hcheck.exists_addResult hrun hclean
    rw [hfn]
    -- rolled back, the handler starts from what was committed before the check
    cases e with
    | killed => exact absurd rfl hkilled
    | raised exception =>
      refine (run_recordError hadd).trans ?_
      simp [verdictOf, Failure.notConfigured, hadd, Except.toOption]
    | integration message errorType =>
      by_cases hskip : errorType = some "not_configured"
      · subst hskip
        rfl
      · have hhandler : (do
            Txn.rollbackSession
            checkFailed runId check (.integration message errorType) :
              ReconciliationTxn Outcome).run apply
              ⟨db, working, noFaults⟩ =
            (recordError runId check message).run apply (.fresh db noFaults) := by
          rw [checkFailed, if_neg hskip]
          rfl
        refine (hhandler.trans (run_recordError hadd)).trans ?_
        simp [verdictOf, Failure.notConfigured, hskip, hadd, Except.toOption]

/-- By induction on the checks. -/
theorem run_checkEach {checks : List Check} {skipped errored : List String}
    {db : ReconciliationDB} (hchecks : ∀ check ∈ checks, check.Reportable)
    (hrun : ∃ run ∈ db.runs.rows, run.id = runId) :
    (checkEach runId skipped errored checks).run apply (.fresh db noFaults) =
      (.ok (skipped ++ namesOf .skipped checks (verdicts runId checks db),
          errored ++ namesOf .error checks (verdicts runId checks db)),
        .fresh (settleEach runId checks db) noFaults) := by
  induction checks generalizing skipped errored db with
  | nil => simp [checkEach, namesOf, verdicts, settleEach, pure]
  | cons check rest ih =>
    have hrest : ∀ check ∈ rest, check.Reportable := fun c hc =>
      hchecks c (List.mem_cons_of_mem _ hc)
    have hthere : ∃ run ∈ (check.settle runId db).runs.rows, run.id = runId := by
      rwa [(settle_rows check runId db).1]
    rw [checkEach, run_bind, run_safeCheck (hchecks check List.mem_cons_self) hrun]
    simp only [verdicts, settleEach, namesOf, List.zip_cons_cons]
    -- the lists grow at their ends, in the order of the checks
    cases check.verdict runId db with
    | ok =>
      refine (ih hrest hthere).trans ?_
      simp [namesOf]
    | skipped =>
      refine (ih hrest hthere).trans ?_
      simp [namesOf]
    | error =>
      refine (ih hrest hthere).trans ?_
      simp [namesOf]

/-- `_complete_run` writes the counts. -/
theorem run_completeRun {db : ReconciliationDB} {skipped errored : List String} {now : Instant}
    {run : ReconciliationRun} (hrun : db.getRun runId = some run)
    (hfits : (RunMetadata.checks skipped errored).fits = true) :
    (completeRun runId skipped errored now).run apply (.fresh db noFaults) =
      (.ok ⟨⟩, .fresh (db.updateRun runId (ReconciliationRun.finish .completed now
        (some (db.countsOf runId)) (.checks skipped errored))) noFaults) := by
  have hget : (getRun runId).run apply (.fresh db noFaults) =
      (.ok run, .fresh db noFaults) := by
    rw [getRun, run_bind, Txn.select, Txn.run]
    simp only [Session.fresh, Txn.run, hrun]
    rfl
  have hid := (ReconciliationDB.getRun_eq_some.mp hrun).2
  rw [completeRun, run_bind, hget]
  simp only [run_bind, Txn.select, Txn.flush, Txn.commitSession, Txn.run, Session.fresh,
    Session.tick, apply, hfits, hid, if_true]

end Faultless

/-! ## Section 4: A run and its redelivery -/

/-- The names of checks can be stored. -/
theorem fits_names {skipped errored : List String}
    (hskipped : ∀ name ∈ skipped, name ∈ checkNames.map (·.1))
    (herrored : ∀ name ∈ errored, name ∈ checkNames.map (·.1)) :
    (RunMetadata.checks skipped errored).fits = true := by
  have hclean : ∀ name ∈ checkNames.map (·.1), clean name := by decide
  simp only [RunMetadata.fits, List.all_eq_true, List.mem_append]
  rintro name (hname | hname)
  · simpa [clean] using hclean name (hskipped name hname)
  · simpa [clean] using hclean name (herrored name hname)

theorem mem_namesOf {outcome : Outcome} {checks : List Check} {outcomes : List Outcome}
    {name : String} (h : name ∈ namesOf outcome checks outcomes) :
    ∃ check ∈ checks, check.checkType = name := by
  obtain ⟨entry, hentry, rfl⟩ := List.mem_map.mp h
  exact ⟨entry.1, (List.of_mem_zip (List.mem_filter.mp hentry).1).1, rfl⟩

section Runs

variable [UuidText] [PyText] [Sync.ShiprocketTimes] [IsoFormat]

/-- The row of a run that is completed, with the verdicts of its checks. -/
def Environment.finish (env : Environment) (runId : UUID) (db : ReconciliationDB) :
    Table.KeyPreserving ReconciliationRun.keys :=
  ReconciliationRun.finish .completed env.now
    (some ((settleEach runId env.checks db).countsOf runId))
    (.checks (env.unregistered ++ namesOf .skipped env.checks (verdicts runId env.checks db))
      (namesOf .error env.checks (verdicts runId env.checks db)))

/-- Nothing that a check raises kills the worker, and no message has a NUL. -/
def Environment.Raises (env : Environment) : Prop :=
  ∀ check ∈ env.checks, ∀ e, check.found.raised = some e → e ≠ .killed ∧ clean e.str

instance (env : Environment) : Decidable env.Raises :=
  inferInstanceAs (Decidable (∀ check ∈ env.checks, ∀ e ∈ check.found.raised,
    e ≠ .killed ∧ clean e.str))

theorem Environment.Raises.reportable {env : Environment} (h : env.Raises) :
    ∀ check ∈ env.checks, check.Reportable :=
  fun check hcheck => ⟨fun _ hclean => fits_errorResult hcheck hclean, h check hcheck⟩

/-- When no statement fails, the checks settle and the row of the run is finished. -/
theorem run_execute (env : Environment) (runId : UUID) (db : ReconciliationDB)
    (hrun : ∃ run, db.getRun runId = some run) (hraises : env.Raises) :
    (executeReconciliationRun env runId).run apply (.fresh db noFaults) =
      (.ok ⟨⟩, .fresh ((settleEach runId env.checks db).updateRun runId (env.finish runId db))
        noFaults) := by
  obtain ⟨run, hrun⟩ := hrun
  have hthere : ∃ run ∈ db.runs.rows, run.id = runId :=
    ⟨run, ReconciliationDB.getRun_eq_some.mp hrun⟩
  have hnames : ∀ outcome : Outcome, ∀ name ∈ namesOf outcome env.checks
      (verdicts runId env.checks db), name ∈ checkNames.map (·.1) := by
    intro outcome name hname
    obtain ⟨check, hcheck, rfl⟩ := mem_namesOf hname
    exact List.mem_map_of_mem (f := (·.1)) (names_mem_checkNames hcheck)
  have hfits : (RunMetadata.checks (env.unregistered ++
        namesOf .skipped env.checks (verdicts runId env.checks db))
      ([] ++ namesOf .error env.checks (verdicts runId env.checks db))).fits = true :=
    fits_names (fun name hname => (List.mem_append.mp hname).elim (unregistered_subset env name)
      (hnames .skipped name)) (hnames .error)
  rw [executeReconciliationRun, run_tryCatch, runChecks, run_bind,
    run_checkEach hraises.reportable hthere]
  simp only [run_completeRun (getRun_settleEach env.checks hrun) hfits]
  rfl

/-- When no statement fails, a run that is there is completed, whatever its providers answer or
raise: the results are those that its checks' verdicts lead to, and its row counts them and names
the checks that were skipped or failed. -/
theorem execute_faultless (env : Environment) (runId : UUID) (db : ReconciliationDB)
    (hrun : ∃ run, db.getRun runId = some run) (hraises : env.Raises) :
    ∃ (final : ReconciliationDB) (run : ReconciliationRun),
      (executeReconciliationRun env runId).run apply (.fresh db noFaults) =
        (.ok ⟨⟩, .fresh final noFaults) ∧
      final.results = (settleEach runId env.checks db).results ∧
      final.getRun runId = some run ∧ run.status = .completed ∧
      run.counts = final.countsOf runId ∧
      run.runMetadata = some (.checks
        (env.unregistered ++ namesOf .skipped env.checks (verdicts runId env.checks db))
        (namesOf .error env.checks (verdicts runId env.checks db))) := by
  have hexecute := run_execute env runId db hrun hraises
  obtain ⟨run, hrun⟩ := hrun
  have hfinished := getRun_updateRun_self (env.finish runId db) (getRun_settleEach env.checks hrun)
  exact ⟨_, _, hexecute, rfl, hfinished, rfl, rfl, rfl⟩

end Runs

theorem execute_faultless_small :
    ∃ (final : ReconciliationDB) (run : ReconciliationRun),
      (executeReconciliationRun smallEnvironment 0).run apply (.fresh oneRun noFaults) =
        (.ok ⟨⟩, .fresh final noFaults) ∧
      final.results = (settleEach 0 smallEnvironment.checks oneRun).results ∧
      final.getRun 0 = some run ∧ run.status = .completed ∧ run.counts = final.countsOf 0 ∧
      run.runMetadata = some (.checks
        (smallEnvironment.unregistered ++
          namesOf .skipped smallEnvironment.checks (verdicts 0 smallEnvironment.checks oneRun))
        (namesOf .error smallEnvironment.checks (verdicts 0 smallEnvironment.checks oneRun))) :=
  execute_faultless smallEnvironment 0 oneRun ⟨_, rfl⟩ (by decide +kernel)

example : verdicts 0 smallEnvironment.checks oneRun =
    [.ok, .ok, .ok, .ok, .ok, .ok, .ok, .skipped] := by
  decide +kernel

/-- A check whose results are there already: one that had recorded a result with both ids fails
this time. -/
def Check.again (runId : UUID) (check : Check) (outcome : Outcome) : Outcome :=
  if outcome = .ok ∧ ∃ r ∈ check.found.recorded, r.keys runId ≠ [] then .error else outcome

theorem Check.again_of_ne (runId : UUID) (check : Check) {outcome : Outcome}
    (hne : outcome ≠ .ok) : check.again runId outcome = outcome :=
  if_neg fun h => hne h.1

/-- A provider that is not configured says so before anything is recorded. -/
def Check.SkipsEarly (check : Check) : Prop :=
  ∀ e, check.found.raised = some e → e.notConfigured = true → check.found.recorded = []

instance (check : Check) : Decidable check.SkipsEarly :=
  inferInstanceAs (Decidable (∀ e ∈ check.found.raised, e.notConfigured = true →
    check.found.recorded = []))

section Again

variable {runId : UUID} {check : Check} {checks : List Check} {db later : ReconciliationDB}

/-- The verdict of a check, once what it has left is there. -/
theorem verdict_again (hskips : check.SkipsEarly) (hrun : ∃ run ∈ db.runs.rows, run.id = runId)
    (hlater : ∃ run ∈ later.runs.rows, run.id = runId)
    (hrows : ∀ row ∈ (check.settle runId db).results.rows, row ∈ later.results.rows) :
    check.verdict runId later = check.again runId (check.verdict runId db) := by
  have hkept : ∀ row ∈ db.results.rows, row ∈ later.results.rows :=
    fun row hrow => hrows row ((settle_rows check runId db).2 row hrow)
  by_cases hadmitted : Admitted runId check.found.recorded db
  · by_cases hkeyed : ∃ r ∈ check.found.recorded, r.keys runId ≠ []
    · obtain ⟨db', hreplay⟩ := (admitted_iff hrun).mpr hadmitted
      obtain ⟨r, hr, hkeys⟩ := hkeyed
      have hverdict := verdict_of_admitted hrun hadmitted
      cases hraised : check.found.raised with
      | none =>
        -- its results were accepted, and one of them is a duplicate now
        have hsettle : check.settle runId db = db' := by
          simp [Check.settle, Check.failure, hreplay, hraised, Except.toOption]
        rw [hraised, verdictOf] at hverdict
        rw [hverdict, Check.again, if_pos ⟨rfl, r, hr, hkeys⟩]
        exact verdict_of_not_admitted hlater
          (not_admitted_again hreplay hr hkeys (hsettle ▸ hrows))
      | some e =>
        -- what it raises, now or after its results are refused, makes it fail
        have hconfigured : e.notConfigured = false := by
          cases hconfigured : e.notConfigured with
          | false => rfl
          | true => exact absurd hr (by simp [hskips e hraised hconfigured])
        simp only [hraised, verdictOf, hconfigured, Bool.false_eq_true, if_false] at hverdict
        rw [hverdict, Check.again_of_ne _ _ (by decide)]
        by_cases hagain : Admitted runId check.found.recorded later
        · simp [verdict_of_admitted hlater hagain, verdictOf, hraised, hconfigured]
        · exact verdict_of_not_admitted hlater hagain
    · -- without both ids nothing collides
      have hunkeyed : ∀ r ∈ check.found.recorded, r.keys runId = [] := by
        intro r hr
        by_contra hkeys
        exact hkeyed ⟨r, hr, hkeys⟩
      rw [Check.again, if_neg fun h => hkeyed h.2, verdict_of_admitted hrun hadmitted,
        verdict_of_admitted hlater (hadmitted.again hunkeyed)]
  · -- a result that was refused is refused again, since no row goes away
    have hagain : ¬ Admitted runId check.found.recorded later :=
      fun h => hadmitted (h.mono hkept)
    rw [verdict_of_not_admitted hrun hadmitted, verdict_of_not_admitted hlater hagain,
      Check.again_of_ne _ _ (by decide)]

/-- By induction on the checks: what each has left is still there when its turn comes again. -/
theorem verdicts_again (hskips : ∀ check ∈ checks, check.SkipsEarly)
    (hrun : ∃ run ∈ db.runs.rows, run.id = runId)
    (hlater : ∃ run ∈ later.runs.rows, run.id = runId)
    (hrows : ∀ row ∈ (settleEach runId checks db).results.rows, row ∈ later.results.rows) :
    verdicts runId checks later =
      List.zipWith (Check.again runId) checks (verdicts runId checks db) := by
  induction checks generalizing db later with
  | nil => rfl
  | cons check rest ih =>
    have hthere : ∃ run ∈ (check.settle runId db).runs.rows, run.id = runId := by
      rwa [(settle_rows check runId db).1]
    have hthere' : ∃ run ∈ (check.settle runId later).runs.rows, run.id = runId := by
      rwa [(settle_rows check runId later).1]
    have hleft : ∀ row ∈ (check.settle runId db).results.rows, row ∈ later.results.rows :=
      fun row hrow => hrows row ((settleEach_rows runId rest _).2 row hrow)
    have hrest := ih (fun c hc => hskips c (List.mem_cons_of_mem _ hc)) hthere hthere'
      fun row hrow => (settle_rows check runId later).2 row (hrows row hrow)
    rw [verdicts, verdicts, List.zipWith_cons_cons, hrest,
      verdict_again (hskips check List.mem_cons_self) hrun hlater hleft]

/-- No check is skipped that was not, nor the other way round. -/
theorem namesOf_skipped_again (runId : UUID) (checks : List Check) (outcomes : List Outcome) :
    namesOf .skipped checks (List.zipWith (Check.again runId) checks outcomes) =
      namesOf .skipped checks outcomes := by
  induction checks generalizing outcomes with
  | nil => rfl
  | cons check rest ih =>
    cases outcomes with
    | nil => rfl
    | cons outcome others =>
      have hsame : check.again runId outcome = .skipped ↔ outcome = .skipped := by
        unfold Check.again
        split
        · rename_i h
          simp [h.1]
        · rfl
      have hrest := ih others
      simp only [namesOf] at hrest ⊢
      simp only [List.zipWith_cons_cons, List.zip_cons_cons, List.filter_cons, hsame]
      split
      · simp [hrest]
      · exact hrest

end Again

section Redelivered

variable [UuidText] [PyText] [Sync.ShiprocketTimes] [IsoFormat]

/-- The task of a run is delivered twice, and no statement fails: the second execution completes
the run again, but it reports as failed, beside the checks that failed before, every check that had
recorded a result with both ids. -/
theorem execute_again (env : Environment) (runId : UUID) (db : ReconciliationDB)
    (hrun : ∃ run, db.getRun runId = some run) (hraises : env.Raises)
    (hskips : ∀ check ∈ env.checks, check.SkipsEarly) :
    ∃ (first second : ReconciliationDB) (run : ReconciliationRun),
      (executeReconciliationRun env runId).run apply (.fresh db noFaults) =
        (.ok ⟨⟩, .fresh first noFaults) ∧
      (executeReconciliationRun env runId).run apply (.fresh first noFaults) =
        (.ok ⟨⟩, .fresh second noFaults) ∧
      second.getRun runId = some run ∧ run.status = .completed ∧
      run.counts = second.countsOf runId ∧
      run.runMetadata = some (.checks
        (env.unregistered ++ namesOf .skipped env.checks (verdicts runId env.checks db))
        (namesOf .error env.checks
          (List.zipWith (Check.again runId) env.checks (verdicts runId env.checks db)))) := by
  have hfirst := run_execute env runId db hrun hraises
  obtain ⟨run, hrun⟩ := hrun
  have hfinished := getRun_updateRun_self (env.finish runId db) (getRun_settleEach env.checks hrun)
  have hverdicts : verdicts runId env.checks
      ((settleEach runId env.checks db).updateRun runId (env.finish runId db)) =
      List.zipWith (Check.again runId) env.checks (verdicts runId env.checks db) :=
    verdicts_again hskips ⟨run, ReconciliationDB.getRun_eq_some.mp hrun⟩
      ⟨_, ReconciliationDB.getRun_eq_some.mp hfinished⟩ fun row hrow => hrow
  refine ⟨_, _, _, hfirst, run_execute env runId _ ⟨_, hfinished⟩ hraises,
    getRun_updateRun_self _ (getRun_settleEach env.checks hfinished), rfl, rfl, ?_⟩
  simp only [Environment.finish, ReconciliationRun.finish] at hverdicts ⊢
  rw [hverdicts, namesOf_skipped_again]

end Redelivered

theorem execute_again_small :
    ∃ (first second : ReconciliationDB) (run : ReconciliationRun),
      (executeReconciliationRun smallEnvironment 0).run apply (.fresh oneRun noFaults) =
        (.ok ⟨⟩, .fresh first noFaults) ∧
      (executeReconciliationRun smallEnvironment 0).run apply (.fresh first noFaults) =
        (.ok ⟨⟩, .fresh second noFaults) ∧
      second.getRun 0 = some run ∧ run.status = .completed ∧ run.counts = second.countsOf 0 ∧
      run.runMetadata = some (.checks
        (smallEnvironment.unregistered ++
          namesOf .skipped smallEnvironment.checks (verdicts 0 smallEnvironment.checks oneRun))
        (namesOf .error smallEnvironment.checks (List.zipWith (Check.again 0)
          smallEnvironment.checks (verdicts 0 smallEnvironment.checks oneRun)))) :=
  execute_again smallEnvironment 0 oneRun ⟨_, rfl⟩ (by decide +kernel) (by decide +kernel)

/-- The order without its id at Shopify is reported the first time, and fails the second. -/
example : namesOf .error smallEnvironment.checks (List.zipWith (Check.again 0)
    smallEnvironment.checks (verdicts 0 smallEnvironment.checks oneRun)) =
    ["oms_order_missing_shopify_id"] := by
  decide +kernel

end AyushOms.Reconciliation
