import AyushOms.Core.Base
import AyushOms.Lib.Json
import AyushOms.Lib.Transaction
import AyushOms.Tracking.Reconciliation

/-!
# Reconciliation Runs: Rows, Tables and Writes

`reconciliation_runs` and `reconciliation_results`, the statements that write them and what the
tables refuse. A result belongs to a run; within one check of one run, two results that have both
an internal and an external id differ in one of them, and a `NULL` id collides with nothing.

## Main results

- `ReconciliationDB.addResult_eq_ok`: when a result is accepted, and the rows it leaves
- `ReconciliationDB.addResult_of_unkeyed`: a result without one of its ids is never a duplicate
-/

namespace AyushOms.Reconciliation

open AyushOms.Lib
open AyushOms.Tracking (ReconciliationStatus)

/-! ## Section 1: What can be raised -/

/-- An `IntegrationError` with the error type of its details, any other `Exception`, or what no
`except Exception` catches: the worker is killed. -/
inductive Failure where
  | integration (message : String) (errorType : Option String)
  | raised (exception : PyException)
  | killed
  deriving DecidableEq, Repr

/-- `str(exc)`. -/
def Failure.str : Failure → String
  | integration message _ => message
  | raised exception => exception.str
  | killed => ""

/-- `text[:1000]`. -/
def firstThousand (text : String) : String := String.ofList (text.toList.take 1000)

theorem length_firstThousand (text : String) : (firstThousand text).length ≤ 1000 := by
  simp [firstThousand]

/-! ## Section 2: Rows -/

/-- `ReconciliationRunStatus`. -/
inductive ReconciliationRunStatus where
  | running | completed | failed
  deriving DecidableEq, Repr

/-- `run_metadata`. -/
inductive RunMetadata where
  | checks (skippedChecks erroredChecks : List String)
  | error (message : String)
  deriving DecidableEq, Repr

/-- The results of a run by status. -/
structure Counts where
  totalChecked : ℕ := 0
  reconciledCount : ℕ := 0
  mismatchCount : ℕ := 0
  missingCount : ℕ := 0
  errorCount : ℕ := 0
  deriving DecidableEq, Repr

/-- `ReconciliationRun`. -/
structure ReconciliationRun where
  id : UUID
  triggeredByUserId : Option UUID := none
  status : ReconciliationRunStatus := .running
  startedAt : Option Instant := none
  completedAt : Option Instant := none
  counts : Counts := {}
  runMetadata : Option RunMetadata := none
  deriving DecidableEq, Repr

/-- What a check records about one entity. -/
structure Recorded where
  checkType : String
  provider : String
  entityType : String
  internalId : Option String := none
  externalId : Option String := none
  expectedValue : Option Json := none
  actualValue : Option Json := none
  status : ReconciliationStatus
  message : Option String := none

/-- `ReconciliationResult`. -/
structure ReconciliationResult extends Recorded where
  id : UUID
  runId : UUID
  resolved : Bool := false
  resolvedAt : Option Instant := none
  resolvedByUserId : Option UUID := none

/-! ## Section 3: Tables -/

/-- The unique columns of `reconciliation_results`. -/
inductive ResultKey where
  | id (id : UUID)
  | entity (runId : UUID) (checkType internalId externalId : String)
  deriving DecidableEq

/-- `uq_reconciliation_results_run_check_entity`; a `NULL` collides with nothing. -/
def Recorded.keys (runId : UUID) (r : Recorded) : List ResultKey :=
  match r.internalId, r.externalId with
  | some internalId, some externalId => [.entity runId r.checkType internalId externalId]
  | _, _ => []

def ReconciliationResult.keys (r : ReconciliationResult) : List ResultKey :=
  .id r.id :: r.toRecorded.keys r.runId

def ReconciliationRun.keys (r : ReconciliationRun) : List UUID := [r.id]

abbrev RunTable := Table ReconciliationRun UUID ReconciliationRun.keys
abbrev ResultTable := Table ReconciliationResult ResultKey ReconciliationResult.keys

/-- The tables of the reconciliation. -/
structure ReconciliationDB where
  runs : RunTable := Table.empty
  results : ResultTable := Table.empty
  /-- The foreign key `reconciliation_results.run_id`. -/
  result_run : ∀ r ∈ results.rows, ∃ run ∈ runs.rows, run.id = r.runId := by
    simp

/-- An id that no row has, for the `uuid4` of a new one. -/
def freshId : List UUID → UUID
  | [] => 0
  | id :: rest => max (id + 1) (freshId rest)

theorem lt_freshId {ids : List UUID} {id : UUID} (h : id ∈ ids) : id < freshId ids := by
  induction ids with
  | nil => cases h
  | cons a rest ih =>
    rw [freshId, lt_max_iff]
    rcases List.mem_cons.mp h with rfl | h
    · exact .inl (Nat.lt_succ_self _)
    · exact .inr (ih h)

theorem freshId_notMem (ids : List UUID) : freshId ids ∉ ids :=
  fun h => lt_irrefl _ (lt_freshId h)

theorem keys_nodup (runId : UUID) (r : Recorded) : (r.keys runId).Nodup := by
  unfold Recorded.keys
  split <;> simp

theorem id_notMem_keys (id runId : UUID) (r : Recorded) : .id id ∉ r.keys runId := by
  unfold Recorded.keys
  split <;> simp

/-- A text column takes texts of up to its length, none with a NUL; a JSON column takes no text
with a NUL. -/
def storable (limit : ℕ) (text : String) : Bool :=
  decide (text.length ≤ limit) && !text.toList.contains (Char.ofNat 0)

/-- The columns take the result. -/
def Recorded.fits (r : Recorded) : Bool :=
  storable 80 r.checkType && storable 50 r.provider && storable 50 r.entityType &&
    r.internalId.all (storable 255) && r.externalId.all (storable 255) &&
    r.message.all (storable 1000) &&
    (r.expectedValue.toList ++ r.actualValue.toList).all fun value =>
      value.texts.all fun text => !text.toList.contains (Char.ofNat 0)

/-- `run_metadata` takes it. -/
def RunMetadata.fits : RunMetadata → Bool
  | checks skippedChecks erroredChecks =>
    (skippedChecks ++ erroredChecks).all fun text => !text.toList.contains (Char.ofNat 0)
  | error message => !message.toList.contains (Char.ofNat 0)

/-- The driver's error for a text that a column does not take. -/
def dataError : Failure := .raised (.other "invalid input for a column")

namespace ReconciliationDB

/-! ## Section 4: Reads -/

/-- `ReconciliationRunRepository.get_by_id`. -/
def getRun (db : ReconciliationDB) (id : UUID) : Option ReconciliationRun :=
  db.runs.find? fun run => run.id == id

/-- `ReconciliationResultRepository.get_by_id`. -/
def getResult (db : ReconciliationDB) (id : UUID) : Option ReconciliationResult :=
  db.results.find? fun r => r.id == id

/-- `ReconciliationResultRepository.for_run`. -/
def resultsOf (db : ReconciliationDB) (runId : UUID) : List ReconciliationResult :=
  db.results.rows.filter fun r => r.runId == runId

/-- The results of a run that have a status, by `GROUP BY`. -/
def countOf (db : ReconciliationDB) (runId : UUID) (status : ReconciliationStatus) : ℕ :=
  (db.resultsOf runId).countP fun r => r.status == status

/-- The counts `_complete_run` makes of them. -/
def countsOf (db : ReconciliationDB) (runId : UUID) : Counts where
  totalChecked := db.countOf runId .reconciled + db.countOf runId .mismatch +
    db.countOf runId .missing + db.countOf runId .error
  reconciledCount := db.countOf runId .reconciled
  mismatchCount := db.countOf runId .mismatch
  missingCount := db.countOf runId .missing
  errorCount := db.countOf runId .error

theorem getRun_eq_some {db : ReconciliationDB} {id : UUID} {run : ReconciliationRun} :
    db.getRun id = some run ↔ run ∈ db.runs.rows ∧ run.id = id := by
  constructor
  · intro h
    exact ⟨Table.mem_of_find?_eq_some h, by simpa using List.find?_some h⟩
  · rintro ⟨hrun, rfl⟩
    exact db.runs.find?_eq_some_of_mem (k := run.id) hrun (by simp)
      (by simp +contextual [ReconciliationRun.keys])

/-- Every result has one of the four statuses. -/
theorem totalChecked_countsOf (db : ReconciliationDB) (runId : UUID) :
    (db.countsOf runId).totalChecked = (db.resultsOf runId).length := by
  simp only [countsOf, countOf]
  induction db.resultsOf runId with
  | nil => rfl
  | cons r rest ih =>
    simp only [List.countP_cons, List.length_cons, ← ih]
    cases r.status <;> simp <;> omega

/-! ## Section 5: Writes -/

/-- `ReconciliationRunRepository.create`. -/
def addRun (db : ReconciliationDB) (triggeredByUserId : Option UUID) (now : Instant) :
    ReconciliationDB where
  runs := db.runs.insertFresh
    { id := freshId (db.runs.rows.map (·.id)), triggeredByUserId, startedAt := some now }
    (List.nodup_singleton _) (by
      intro k hk run hrun hk'
      obtain rfl := List.mem_singleton.mp hk
      exact freshId_notMem _ (List.mem_map.mpr ⟨run, hrun, (List.mem_singleton.mp hk').symm⟩))
  results := db.results
  result_run := by
    intro r hr
    obtain ⟨run, hrun, hid⟩ := db.result_run r hr
    exact ⟨run, List.mem_append_left _ hrun, hid⟩

/-- The row of a new result. -/
def newResult (db : ReconciliationDB) (runId : UUID) (r : Recorded) : ReconciliationResult :=
  { r with id := freshId (db.results.rows.map (·.id)), runId }

/-- `ReconciliationResultRepository.create`: the run is there, the columns take the values and no
unique key is taken. -/
def addResult (db : ReconciliationDB) (runId : UUID) (r : Recorded) :
    Except Failure ReconciliationDB :=
  if r.fits then
    if hrun : ∃ run ∈ db.runs.rows, run.id = runId then
      match hinsert : db.results.insert? (db.newResult runId r) with
      | some results => .ok {
          runs := db.runs
          results := results
          result_run := by
            intro row hrow
            rw [Table.rows_of_insert? hinsert, List.mem_append, List.mem_singleton] at hrow
            rcases hrow with hrow | rfl
            · exact db.result_run row hrow
            · exact hrun }
      | none => .error (.raised .integrityError)
    else .error (.raised .integrityError)
  else .error dataError

/-- `ReconciliationRunRepository.update`. -/
def updateRun (db : ReconciliationDB) (id : UUID)
    (f : Table.KeyPreserving ReconciliationRun.keys) : ReconciliationDB where
  runs := db.runs.modify (fun run => run.id == id) f
  results := db.results
  result_run := by
    intro r hr
    obtain ⟨run, hrun, hid⟩ := db.result_run r hr
    have hkeeps : (f run).id = run.id := by simpa [ReconciliationRun.keys] using f.keeps run
    refine ⟨if run.id == id then f run else run,
      List.mem_map.mpr ⟨run, hrun, rfl⟩, ?_⟩
    split
    · rw [hkeeps, hid]
    · exact hid

/-- `ReconciliationResultRepository.update`, as `resolve_result` calls it. -/
def resolve (db : ReconciliationDB) (id : UUID) (actor : UUID) (now : Instant) :
    ReconciliationDB where
  runs := db.runs
  results := db.results.modify (fun r => r.id == id)
    { apply := fun r =>
        { r with resolved := true, resolvedAt := some now, resolvedByUserId := some actor }
      keeps := fun _ => rfl }
  result_run := by
    intro r hr
    obtain ⟨row, hrow, ⟨_, rfl⟩ | ⟨_, rfl⟩⟩ := Table.mem_modify.mp hr
    · exact db.result_run row hrow
    · exact db.result_run r hrow

end ReconciliationDB

/-- What a run's row becomes when it is over. -/
def ReconciliationRun.finish (status : ReconciliationRunStatus) (completedAt : Instant)
    (counts : Option Counts) (runMetadata : RunMetadata) :
    Table.KeyPreserving ReconciliationRun.keys where
  apply run := { run with
    status := status
    completedAt := some completedAt
    counts := counts.getD run.counts
    runMetadata := some runMetadata }
  keeps _ := rfl

/-- A write of the reconciliation. `finishRun` carries the columns of the `update` of
`_complete_run`, and those of `fail_run` when there are no counts. -/
inductive ReconciliationWrite where
  | insertRun (triggeredByUserId : Option UUID) (now : Instant)
  | insertResult (runId : UUID) (r : Recorded)
  | finishRun (id : UUID) (status : ReconciliationRunStatus) (completedAt : Instant)
      (counts : Option Counts) (runMetadata : RunMetadata)
  | resolveResult (id actor : UUID) (now : Instant)

namespace ReconciliationDB

/-- What a write does. -/
def apply : ReconciliationWrite → ReconciliationDB → Except Failure ReconciliationDB
  | .insertRun triggeredByUserId now, db => .ok (db.addRun triggeredByUserId now)
  | .insertResult runId r, db => db.addResult runId r
  | .finishRun id status completedAt counts runMetadata, db =>
    if runMetadata.fits then
      .ok (db.updateRun id (ReconciliationRun.finish status completedAt counts runMetadata))
    else .error dataError
  | .resolveResult id actor now, db => .ok (db.resolve id actor now)

/-! ## Section 6: When a result is accepted -/

variable {db db' : ReconciliationDB} {runId : UUID} {r : Recorded}

theorem newResult_keys (db : ReconciliationDB) (runId : UUID) (r : Recorded) :
    (db.newResult runId r).keys =
      .id (freshId (db.results.rows.map (·.id))) :: r.keys runId := rfl

/-- The id of a new result is free, so only its ids can be taken. -/
theorem insert_newResult_eq_none :
    db.results.insert? (db.newResult runId r) = none ↔
      ∃ k ∈ r.keys runId, ∃ row ∈ db.results.rows, k ∈ row.keys := by
  have hnodup : (db.newResult runId r).keys.Nodup := by
    rw [newResult_keys, List.nodup_cons]
    exact ⟨id_notMem_keys _ _ _, keys_nodup runId r⟩
  rw [Table.insert?_eq_none_iff hnodup, newResult_keys]
  constructor
  · rintro ⟨k, hk, row, hrow, hk'⟩
    rcases List.mem_cons.mp hk with rfl | hk
    · -- no row has the fresh id
      exfalso
      rcases List.mem_cons.mp hk' with heq | hk'
      · exact freshId_notMem _ (List.mem_map.mpr ⟨row, hrow, (ResultKey.id.inj heq).symm⟩)
      · exact id_notMem_keys _ _ _ hk'
    · exact ⟨k, hk, row, hrow, hk'⟩
  · rintro ⟨k, hk, hrow⟩
    exact ⟨k, List.mem_cons_of_mem _ hk, hrow⟩

/-- A result is accepted when the columns take it, its run is there and none of its keys is
taken; it becomes the last row. -/
theorem addResult_eq_ok :
    db.addResult runId r = .ok db' ↔
      r.fits = true ∧ (∃ run ∈ db.runs.rows, run.id = runId) ∧
        (∀ k ∈ r.keys runId, ∀ row ∈ db.results.rows, k ∉ row.keys) ∧
        db'.runs = db.runs ∧ db'.results.rows = db.results.rows ++ [db.newResult runId r] := by
  unfold addResult
  split
  · rename_i hfits
    split
    · rename_i hrun
      split
      · rename_i results hinsert
        have hfree : ∀ k ∈ r.keys runId, ∀ row ∈ db.results.rows, k ∉ row.keys := by
          intro k hk row hrow hk'
          have := insert_newResult_eq_none.mpr ⟨k, hk, row, hrow, hk'⟩
          rw [hinsert] at this
          cases this
        constructor
        · intro h
          cases h
          exact ⟨hfits, hrun, hfree, rfl, Table.rows_of_insert? hinsert⟩
        · rintro ⟨_, _, _, hruns, hrows⟩
          obtain ⟨runs', results', _⟩ := db'
          obtain rfl : runs' = db.runs := hruns
          obtain rfl : results' = results :=
            Table.ext (hrows.trans (Table.rows_of_insert? hinsert).symm)
          rfl
      · rename_i hinsert
        obtain ⟨k, hk, row, hrow, hk'⟩ := insert_newResult_eq_none.mp hinsert
        exact ⟨nofun, fun h => absurd hk' (h.2.2.1 k hk row hrow)⟩
    · rename_i hrun
      exact ⟨nofun, fun h => absurd h.2.1 hrun⟩
  · rename_i hfits
    exact ⟨nofun, fun h => absurd h.1 hfits⟩

/-- Under these conditions it is accepted. -/
theorem exists_addResult (hfits : r.fits = true) (hrun : ∃ run ∈ db.runs.rows, run.id = runId)
    (hfree : ∀ k ∈ r.keys runId, ∀ row ∈ db.results.rows, k ∉ row.keys) :
    ∃ db', db.addResult runId r = .ok db' := by
  cases hinsert : db.results.insert? (db.newResult runId r) with
  | none =>
    obtain ⟨k, hk, row, hrow, htaken⟩ := insert_newResult_eq_none.mp hinsert
    exact absurd htaken (hfree k hk row hrow)
  | some results =>
    unfold addResult
    rw [if_pos hfits, dif_pos hrun]
    split
    · exact ⟨_, rfl⟩
    · rename_i hnone
      rw [hinsert] at hnone
      cases hnone

/-- A result without one of its ids is never a duplicate. -/
theorem addResult_of_unkeyed (hfits : r.fits = true)
    (hrun : ∃ run ∈ db.runs.rows, run.id = runId) (hkeys : r.keys runId = []) :
    ∃ db', db.addResult runId r = .ok db' := by
  refine exists_addResult hfits hrun fun k hk => ?_
  rw [hkeys] at hk
  cases hk

end ReconciliationDB

end AyushOms.Reconciliation
