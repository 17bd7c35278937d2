import AyushOms.Reconciliation.Checks

/-!
# The Reconciliation Service

`ReconciliationService` and the task `reconciliation.run`, statement by statement. A run is made
by one call and driven by another, check by check: each check is committed alone, and one that
fails is rolled back and leaves a result that says so.
-/

namespace AyushOms.Reconciliation

open AyushOms.Lib

/-- A method of the service, or the task. -/
abbrev ReconciliationTxn (α : Type) := Txn ReconciliationDB ReconciliationWrite Failure α

/-- `except Exception as exc: …`. A killed worker is past it. -/
def exceptException {α : Type} (handler : Failure → ReconciliationTxn α) :
    Failure → ReconciliationTxn α
  | .killed => Txn.fail .killed
  | exc => handler exc

/-! ## Section 1: One check -/

/-- `_record`. -/
def record (runId : UUID) (r : Recorded) : ReconciliationTxn PUnit :=
  Txn.flush (.insertResult runId r)

/-- The results a check records, one after another. -/
def recordAll (runId : UUID) : List Recorded → ReconciliationTxn PUnit
  | [] => pure ⟨⟩
  | r :: rest => do
    record runId r
    recordAll runId rest

/-- What a check raises behind its last result. -/
def raiseFound (check : Check) : ReconciliationTxn PUnit :=
  check.found.raised.elim (pure ⟨⟩) Txn.fail

/-- The function of a check. Any of its statements may fail; what it has written by then is rolled
back, so that one place for its queries is enough. -/
def Check.fn (check : Check) (runId : UUID) : ReconciliationTxn PUnit := do
  Txn.select fun _ => PUnit.unit
  recordAll runId check.found.recorded
  raiseFound check

/-- What `_safe_check` returns. -/
inductive Outcome where
  | ok | skipped | error
  deriving DecidableEq, Repr

/-- The result of a failed check, committed. -/
def recordError (runId : UUID) (check : Check) (message : String) : ReconciliationTxn Outcome := do
  record runId (check.errorResult message)
  Txn.commitSession
  return .error

/-- The `except` clauses of `_safe_check`, after their rollback. -/
def checkFailed (runId : UUID) (check : Check) : Failure → ReconciliationTxn Outcome
  | .integration message errorType =>
    -- a provider that is not set up is no finding
    if errorType = some "not_configured" then pure .skipped
    else recordError runId check message
  | exc => recordError runId check exc.str

/-- `_safe_check`. -/
def safeCheck (runId : UUID) (check : Check) : ReconciliationTxn Outcome :=
  Txn.tryCatch
    (do
      check.fn runId
      Txn.commitSession
      return .ok)
    (exceptException fun exc => do
      Txn.rollbackSession
      checkFailed runId check exc)

/-! ## Section 2: The lifecycle of a run -/

/-- `start_run`. -/
def startRun (actor : Option UUID) (now : Instant) : ReconciliationTxn PUnit := do
  Txn.flush (.insertRun actor now)
  Txn.commitSession

/-- `_get_run`. -/
def getRun (runId : UUID) : ReconciliationTxn ReconciliationRun := do
  let run ← Txn.select fun db => db.getRun runId
  Txn.orRaise run (.raised (.oms (.notFound "Reconciliation run not found.")))

/-- `_complete_run`. -/
def completeRun (runId : UUID) (skipped errored : List String) (now : Instant) :
    ReconciliationTxn PUnit := do
  let run ← getRun runId
  -- everything the checks have recorded is committed by now
  let counts ← Txn.select fun db => db.countsOf runId
  Txn.flush (.finishRun run.id .completed now (some counts) (.checks skipped errored))
  Txn.commitSession

/-- `fail_run`. -/
def failRun (runId : UUID) (message : String) (now : Instant) : ReconciliationTxn PUnit := do
  let run ← getRun runId
  Txn.flush (.finishRun run.id .failed now none (.error message))
  Txn.commitSession

/-- The loop of `run_checks`. -/
def checkEach (runId : UUID) (skipped errored : List String) :
    List Check → ReconciliationTxn (List String × List String)
  | [] => pure (skipped, errored)
  | check :: rest => do
    match ← safeCheck runId check with
    | .ok => checkEach runId skipped errored rest
    | .skipped => checkEach runId (skipped ++ [check.checkType]) errored rest
    | .error => checkEach runId skipped (errored ++ [check.checkType]) rest

/-- `resolve_result`. -/
def resolveResult (resultId actor : UUID) (now : Instant) : ReconciliationTxn PUnit := do
  let result ← Txn.select fun db => db.getResult resultId
  let result ← Txn.orRaise result
    (.raised (.oms (.notFound "Reconciliation result not found.")))
  Txn.flush (.resolveResult result.id actor now)
  Txn.commitSession

section Runs

variable [UuidText] [PyText] [Sync.ShiprocketTimes] [IsoFormat] (env : Environment)

/-- `run_checks`. -/
def runChecks (runId : UUID) : ReconciliationTxn PUnit := do
  let lists ← checkEach runId env.unregistered [] env.checks
  completeRun runId lists.1 lists.2 env.now

/-- The `except` clause of the task. -/
def runFailed (runId : UUID) (exc : Failure) : ReconciliationTxn PUnit := do
  Txn.rollbackSession
  failRun runId (firstThousand exc.str) env.now

/-- `_execute_reconciliation_run`. -/
def executeReconciliationRun (runId : UUID) : ReconciliationTxn PUnit :=
  (runChecks env runId).tryCatch (exceptException (runFailed env runId))

end Runs

end AyushOms.Reconciliation
