import AyushOms.Core.Fault
import AyushOms.Lib.Run
import AyushOms.Tracking.Service

/-!
# Failures in the Background Refresh

`refresh_tracking` with the session its shipments share. They are loaded by one `SELECT` before
the loop. A shipment whose polling or processing raises is rolled back, and its AWB is read
again for the error record: when the rollback found a transaction in progress, that row and all
the others are expired by then.

## Main results

- `respects_processShipment`: what the processing of one shipment depends on
- `refreshLoop_isolated`, `refreshLoop_stopped`: the loop while all failures are quiet, and at
  the first that is not
- `refresh_isolates_iff`: the runs in which failures are isolated
-/

namespace AyushOms.Tracking

open AyushOms.Lib AyushOms.Orders

/-- The exception a service raises, as Python has it. -/
def Raised.exception : Raised → PyException
  | .oms e => .oms e
  | .integrityError => .integrityError
  | .multipleResultsFound => .other "Multiple rows were found when one or none was required"

/-! ## Section 1: Processing one shipment -/

/-- A procedure over the database of tracking. -/
abbrev TrackingProc (α : Type) := Proc TrackingDB RequestSession PyException α

/-- Write, flush and commit. -/
def writeTracking {α : Type} (f : TrackingDB → Except Raised (α × TrackingDB)) : TrackingProc α :=
  fun k db =>
    match f db with
    | .error raised => .done (.error raised.exception, k.execute)
    | .ok (a, db) => .commit db (.done (.ok a, k.commit))

/-- An attribute of the loaded row of a shipment is read. -/
def readShipment {σ : Type} (shipmentId : UUID) : Proc σ RequestSession PyException PUnit :=
  Proc.memory fun k =>
    if .shipment shipmentId ∈ k.loaded then (.ok PUnit.unit, k) else (.error .missingGreenlet, k)

/-- `add_tracking_event`; an event that is known already is looked up and nothing committed. -/
def addTrackingEvent (shipmentId : UUID) (e : NormalizedEvent) (eventTimestamp : Instant)
    (source : String) : TrackingProc Bool := fun k db =>
  match db.addTrackingEvent shipmentId e eventTimestamp source with
  | .error raised => .done (.error raised.exception, k.execute)
  | .ok (true, db) => .commit db (.done (.ok true, k.commit))
  | .ok (false, _) => .done (.ok false, k.execute)

/-- `apply_dispatch` or `apply_rto_restock`, which commits even when there is nothing to
move. A failure is rolled back in the transaction the method has begun, and logged with the
shipment's id. -/
def stockEffect (shipmentId : UUID) (raises : Bool) (f : TrackingDB → TrackingDB) :
    TrackingProc PUnit :=
  if raises then do
    Proc.memory fun k => (.ok PUnit.unit, k.execute.rollback)
    readShipment shipmentId
  else writeTracking fun db => .ok (PUnit.unit, f db)

/-- `apply_dispatch` of a dispatched status. -/
def dispatchEffect (shipment : Shipment) (call : TrackingDB.TrackingCall)
    (status : ShipmentStatus) : TrackingProc PUnit :=
  if status ∈ dispatchedStatuses then
    stockEffect shipment.id call.dispatchRaises fun db => { db with orders := { db.orders with
      stock := db.orders.stock.applyDispatch shipment.orderId shipment.id } }
  else pure PUnit.unit

/-- `apply_rto_restock` of a received return. -/
def restockEffect (shipment : Shipment) (call : TrackingDB.TrackingCall) (status : RTOStatus)
    (rtoId : UUID) : TrackingProc PUnit :=
  if status = .received then
    stockEffect shipment.id call.restockRaises fun db => { db with orders := { db.orders with
      stock := db.orders.stock.applyRtoRestock shipment.orderId rtoId } }
  else pure PUnit.unit

/-- The return to origin of a status that means one. -/
def returnEffect (shipment : Shipment) (call : TrackingDB.TrackingCall)
    (status : ShipmentStatus) : TrackingProc PUnit :=
  match rtoStatusFromShipmentStatus status with
  | none => pure PUnit.unit
  | some rtoStatus => do
    let rtoId ← writeTracking fun db => db.upsertSyncedRto {
      externalId := shipment.awb
      shipmentId := shipment.id
      orderId := shipment.orderId
      courierId := shipment.courierId
      status := rtoStatus
      externalReason := call.event.description }
    restockEffect shipment call rtoStatus rtoId

/-- `apply_tracking_event`, for the loaded row of a shipment. -/
def applyTrackingEvent [PyText] (shipment : Shipment) (call : TrackingDB.TrackingCall) :
    TrackingProc Bool :=
  match call.event.eventTimestamp with
  | none => pure false
  | some eventTimestamp => do
    let created ← addTrackingEvent shipment.id call.event eventTimestamp call.source
    match call.event.mappedStatus with
    | none => return created
    | some status => do
      writeTracking fun db => .ok (PUnit.unit, db.updateStatus shipment.id (some status))
      dispatchEffect shipment call status
      returnEffect shipment call status
      return created

/-- The events of one poll: whether any of them is new. -/
def applyTrackingEvents [PyText] (shipment : Shipment) :
    List TrackingDB.TrackingCall → TrackingProc Bool
  | [] => pure false
  | call :: calls => do
    let created ← applyTrackingEvent shipment call
    let anyNewEvent ← applyTrackingEvents shipment calls
    return created || anyNewEvent

/-- What the refresh meets: the courier's answer for a shipment, or what the request raises;
and an exception in the midst of the processing. -/
structure RefreshEnv where
  getTracking : Shipment → Except PyException (List TrackingDB.TrackingCall)
  fault : Shipment → Option Fault := fun _ => none

/-- The `try` block of the loop, but for an exception the data does not account for. -/
def pollShipment [PyText] (env : RefreshEnv) (s : Shipment) : TrackingProc Bool := do
  readShipment s.id
  match env.getTracking s with
  | .error e => throw e
  | .ok calls => applyTrackingEvents s calls

/-- The `try` block of the loop. -/
def processShipment [PyText] (env : RefreshEnv) (s : Shipment) : TrackingProc Bool :=
  faulty (env.fault s) (pollShipment env s)

/-! ## Section 2: The loop -/

/-- A row of `sync_errors` for a shipment, with its `external_id`. -/
structure TrackingError where
  externalId : Option String
  errorMessage : String
  deriving DecidableEq, Repr

/-- The database, and what the refresh has reported to its job. -/
structure RefreshStore where
  db : TrackingDB
  errors : List TrackingError := []
  progress : TrackingDB.RefreshCounts := {}

abbrev RefreshProc (α : Type) := Proc RefreshStore RequestSession PyException α

/-- A procedure over the database of tracking reports nothing. -/
def onTracking {α : Type} (p : TrackingProc α) : RefreshProc α := fun k st =>
  (p k st.db).lift fun db => { st with db := db }

/-- `record_error`. -/
def recordError (row : TrackingError) : RefreshProc PUnit := fun k st =>
  .commit { st with errors := st.errors ++ [row] } (.done (.ok PUnit.unit, k.commit))

/-- `record_progress`. -/
def recordProgress (counts : TrackingDB.RefreshCounts) : RefreshProc PUnit := fun k st =>
  .commit { st with progress := counts } (.done (.ok PUnit.unit, k.commit))

/-- The `except` block of the loop. -/
def recoverRefresh (counts : TrackingDB.RefreshCounts) (s : Shipment) (e : PyException) :
    RefreshProc TrackingDB.RefreshCounts := do
  Proc.memory fun k => (.ok PUnit.unit, k.rollback)
  readShipment s.id
  recordError ⟨s.awb, e.str⟩
  return { counts with failed := counts.failed + 1 }

/-- One turn of the loop. -/
def refreshOne [PyText] (env : RefreshEnv) (counts : TrackingDB.RefreshCounts) (s : Shipment) :
    RefreshProc TrackingDB.RefreshCounts :=
  tryCatch
    (do
      let anyNewEvent ← onTracking (processShipment env s)
      return if anyNewEvent then { counts with updated := counts.updated + 1 } else counts)
    (recoverRefresh counts s)

/-- The loop. -/
def refreshLoop [PyText] (env : RefreshEnv) :
    List Shipment → TrackingDB.RefreshCounts → RefreshProc TrackingDB.RefreshCounts
  | [], counts => pure counts
  | s :: rest, counts => do
    let counts ← refreshOne env counts s
    refreshLoop env rest counts

/-- The session after the `SELECT` of the shipments. -/
def selected (shipments : List Shipment) (k : RequestSession) : RequestSession where
  inTransaction := true
  loaded := shipments.map (fun s => .shipment s.id) ++ k.loaded

/-- `refresh_tracking`. -/
def refreshTracking [PyText] (env : RefreshEnv) : RefreshProc PUnit := do
  let st ← Proc.store
  let shipments := st.db.shipments.rows.filter TrackingDB.refreshSelects
  Proc.memory fun k => (.ok PUnit.unit, selected shipments k)
  let counts ← refreshLoop env shipments { received := shipments.length }
  recordProgress counts

/-! ## Section 3: What isolation is -/

section Isolation

variable [PyText]

/-- The session in which a shipment is processed when it is the only one. -/
def ownSession (s : Shipment) (inTransaction : Bool) : RequestSession where
  inTransaction := inTransaction
  loaded := [.shipment s.id]

/-- Every shipment is processed as it would be alone on the database it finds, and one error
is recorded for each that raises. -/
def eachAlone (env : RefreshEnv) : List Shipment → RefreshStore → RefreshStore
  | [], st => st
  | s :: rest, st =>
    let alone := processShipment env s (ownSession s true) st.db
    match alone.result.1 with
    | .ok _ => eachAlone env rest { st with db := alone.final st.db }
    | .error e => eachAlone env rest { st with
        db := alone.final st.db
        errors := st.errors ++ [⟨s.awb, e.str⟩] }

/-- The refresh does to the database, and records as errors, what its shipments would give
alone. -/
def RefreshIsolates (env : RefreshEnv) (k : RequestSession) (st : RefreshStore) : Prop :=
  let after := (refreshTracking env k st).final st
  let each := eachAlone env (st.db.shipments.rows.filter TrackingDB.refreshSelects) st
  after.db = each.db ∧ after.errors = each.errors

/-- The processing of the shipment does not raise, or raises with no transaction in progress: a
failed request with none before it, or an exception outside a transaction. What the database or
a stock effect raises never is quiet. -/
def FailsQuietly (env : RefreshEnv) (s : Shipment) (inTransaction : Bool) (db : TrackingDB) :
    Prop :=
  match env.fault s with
  | some f => f.inTransaction = false ∧
    (min f.commits (pollShipment env s (ownSession s inTransaction) db).commits = 0 →
      inTransaction = false)
  | none =>
    match env.getTracking s with
    | .error _ => inTransaction = false
    | .ok calls => ∃ anyNewEvent,
      (applyTrackingEvents s calls (ownSession s inTransaction) db).result.1 = .ok anyNewEvent

/-- The database after a turn of the loop, and whether a transaction is in progress then. After
a failure the error has been committed. -/
def afterTurn (env : RefreshEnv) (before : TrackingDB × Bool) (s : Shipment) : TrackingDB × Bool :=
  let turn := processShipment env s (ownSession s before.2) before.1
  (turn.final before.1, match turn.result with
    | (.ok _, k) => k.inTransaction
    | (.error _, _) => false)

/-- The condition: every failure of the loop is quiet. The `SELECT` has begun a
transaction. -/
def FailuresQuiet (env : RefreshEnv) (st : RefreshStore) : Prop :=
  Along (afterTurn env) (fun before s => FailsQuietly env s before.2 before.1) (st.db, true)
    (st.db.shipments.rows.filter TrackingDB.refreshSelects)

end Isolation

/-! ## Section 4: What the processing depends on -/

/-- Two sessions agree on a shipment, and, where asked for, on the transaction. -/
def Agree (shipmentId : UUID) (onTransaction : Bool) (k k' : RequestSession) : Prop :=
  (Entity.shipment shipmentId ∈ k.loaded ↔ Entity.shipment shipmentId ∈ k'.loaded) ∧
    (onTransaction = true → k.inTransaction = k'.inTransaction)

section Agree

variable {shipmentId : UUID} {b : Bool}

theorem respects_writeTracking {α : Type} (f : TrackingDB → Except Raised (α × TrackingDB)) :
    (writeTracking f).Respects (Agree shipmentId b) := by
  intro k k' db h
  unfold writeTracking
  split
  · exact ⟨rfl, h.1, fun _ => rfl⟩
  · exact ⟨rfl, h.1, fun _ => rfl⟩

theorem respects_readShipment :
    (readShipment (σ := TrackingDB) shipmentId).Respects (Agree shipmentId b) := by
  refine .memory (fun k k' h => ?_) fun k k' h => ?_
  · simp only [h.1]
    split <;> rfl
  · split <;> split <;> exact h

theorem respects_addTrackingEvent (e : NormalizedEvent) (eventTimestamp : Instant)
    (source : String) :
    (addTrackingEvent shipmentId e eventTimestamp source).Respects (Agree shipmentId b) := by
  intro k k' db h
  unfold addTrackingEvent
  split
  · exact ⟨rfl, h.1, fun _ => rfl⟩
  · exact ⟨rfl, h.1, fun _ => rfl⟩
  · exact ⟨rfl, h.1, fun _ => rfl⟩

theorem respects_stockEffect (raises : Bool) (f : TrackingDB → TrackingDB) :
    (stockEffect shipmentId raises f).Respects (Agree shipmentId b) := by
  unfold stockEffect
  split
  · refine Proc.Respects.bind (.memory (fun _ _ _ => rfl) fun k k' _ => ?_) fun _ =>
      respects_readShipment
    exact ⟨Iff.rfl, fun _ => rfl⟩
  · exact respects_writeTracking _

theorem respects_dispatchEffect (s : Shipment) (call : TrackingDB.TrackingCall)
    (status : ShipmentStatus) : (dispatchEffect s call status).Respects (Agree s.id b) :=
  .ite (respects_stockEffect _ _) (.pure _)

theorem respects_returnEffect (s : Shipment) (call : TrackingDB.TrackingCall)
    (status : ShipmentStatus) : (returnEffect s call status).Respects (Agree s.id b) := by
  unfold returnEffect
  split
  · exact .pure _
  · exact (respects_writeTracking _).bind fun _ => .ite (respects_stockEffect _ _) (.pure _)

variable [PyText]

theorem respects_applyTrackingEvent (s : Shipment) (call : TrackingDB.TrackingCall) :
    (applyTrackingEvent s call).Respects (Agree s.id b) := by
  unfold applyTrackingEvent
  split
  · exact .pure _
  · refine (respects_addTrackingEvent _ _ _).bind fun created => ?_
    split
    · exact .pure _
    · exact (respects_writeTracking _).bind fun _ => (respects_dispatchEffect s call _).bind
        fun _ => (respects_returnEffect s call _).bind fun _ => .pure _

theorem respects_applyTrackingEvents (s : Shipment) (calls : List TrackingDB.TrackingCall) :
    (applyTrackingEvents s calls).Respects (Agree s.id b) := by
  induction calls with
  | nil => exact .pure _
  | cons call calls ih =>
    exact (respects_applyTrackingEvent s call).bind fun _ => ih.bind fun _ => .pure _

theorem respects_pollShipment (env : RefreshEnv) (s : Shipment) :
    (pollShipment env s).Respects (Agree s.id b) := by
  refine respects_readShipment.bind fun _ => ?_
  split
  · exact .throw _
  · exact respects_applyTrackingEvents s _

theorem respects_processShipment (env : RefreshEnv) (s : Shipment) :
    (processShipment env s).Respects (Agree s.id b) := by
  refine respects_faulty _ (fun k k' h f n => ⟨h.1, fun hb => ?_⟩) (respects_pollShipment env s)
  simp only [Fault.session, h.2 hb]

end Agree

/-! ## Section 5: What is loaded afterwards -/

/-- The rows are loaded still, or the exception has left nothing that a rollback would leave
readable. -/
def LoadedOrLost {α : Type} (rows : List Entity) (r : Except PyException α) (k : RequestSession) :
    Prop :=
  match r with
  | .ok _ => ∀ e ∈ rows, e ∈ k.loaded
  | .error _ => k.rollback.loaded = []

/-- However the procedure ends, the rows are loaded still or lost. -/
abbrev KeepsRows {α : Type} (rows : List Entity) (p : TrackingProc α) : Prop :=
  p.Triple (fun k _ => ∀ e ∈ rows, e ∈ k.loaded) fun r k _ => LoadedOrLost rows r k

section Loaded

variable {rows : List Entity} {α β : Type}

theorem KeepsRows.pure (a : α) : KeepsRows rows (Pure.pure a) :=
  Proc.Spec.pure fun _ _ h => h

theorem KeepsRows.bind {p : TrackingProc α} {f : α → TrackingProc β} (hp : KeepsRows rows p)
    (hf : ∀ a, KeepsRows rows (f a)) : KeepsRows rows (p >>= f) :=
  Proc.Spec.bind hp hf fun _ _ _ h => h

theorem KeepsRows.ite {c : Prop} [Decidable c] {p q : TrackingProc α} (hp : KeepsRows rows p)
    (hq : KeepsRows rows q) : KeepsRows rows (if c then p else q) :=
  Proc.Spec.ite (fun _ => hp) fun _ => hq

theorem keepsRows_writeTracking (f : TrackingDB → Except Raised (α × TrackingDB)) :
    KeepsRows rows (writeTracking f) := by
  rw [KeepsRows, Proc.triple_iff]
  intro k db h
  unfold writeTracking
  split
  · rfl
  · exact h

theorem keepsRows_addTrackingEvent (shipmentId : UUID) (e : NormalizedEvent)
    (eventTimestamp : Instant) (source : String) :
    KeepsRows rows (addTrackingEvent shipmentId e eventTimestamp source) := by
  rw [KeepsRows, Proc.triple_iff]
  intro k db h
  unfold addTrackingEvent
  split
  · rfl
  · exact h
  · exact h

/-- The log call after a failed stock effect reads a row the rollback has expired. -/
theorem stockEffect_run_raises (shipmentId : UUID) (f : TrackingDB → TrackingDB)
    (k : RequestSession) (db : TrackingDB) :
    stockEffect shipmentId true f k db = .done (.error .missingGreenlet, {}) := rfl

theorem keepsRows_stockEffect (shipmentId : UUID) (raises : Bool) (f : TrackingDB → TrackingDB) :
    KeepsRows rows (stockEffect shipmentId raises f) := by
  cases raises with
  | false =>
    rw [stockEffect, if_neg Bool.false_ne_true]
    exact keepsRows_writeTracking _
  | true =>
    rw [KeepsRows, Proc.triple_iff]
    intro k db _
    rw [stockEffect_run_raises]
    rfl

theorem keepsRows_applyTrackingEvents [PyText] (s : Shipment)
    (calls : List TrackingDB.TrackingCall) : KeepsRows rows (applyTrackingEvents s calls) := by
  induction calls with
  | nil => exact .pure _
  | cons call calls ih =>
    refine KeepsRows.bind ?_ fun created => ih.bind fun _ => .pure _
    unfold applyTrackingEvent
    split
    · exact .pure _
    · refine (keepsRows_addTrackingEvent _ _ _ _).bind fun created => ?_
      split
      · exact .pure _
      · refine (keepsRows_writeTracking _).bind fun _ => KeepsRows.bind ?_ fun _ =>
          KeepsRows.bind ?_ fun _ => .pure _
        · exact .ite (keepsRows_stockEffect _ _ _) (.pure _)
        · unfold returnEffect
          split
          · exact .pure _
          · exact (keepsRows_writeTracking _).bind fun _ =>
              .ite (keepsRows_stockEffect _ _ _) (.pure _)

section Ends

variable {s : Shipment} {k : RequestSession}

theorem agree_ownSession (hs : .shipment s.id ∈ k.loaded) :
    Agree s.id true k (ownSession s k.inTransaction) :=
  ⟨iff_of_true hs List.mem_cons_self, fun _ => rfl⟩

variable [PyText]

/-- A failure is quiet just when it finds no transaction in progress, and then costs no rows. -/
theorem processShipment_ends_of_fault {env : RefreshEnv} {f : Fault}
    (hfault : env.fault s = some f) (db : TrackingDB) (hrows : ∀ e ∈ rows, e ∈ k.loaded)
    (hs : .shipment s.id ∈ k.loaded) :
    ∃ e k', (processShipment env s k db).result = (.error e, k') ∧
      ((k'.inTransaction = false ∧ (∀ e ∈ rows, e ∈ k'.loaded) ∧
          FailsQuietly env s k.inTransaction db) ∨
        k'.rollback.loaded = [] ∧ ¬ FailsQuietly env s k.inTransaction db) := by
  have hcommits : (pollShipment env s k db).commits =
      (pollShipment env s (ownSession s k.inTransaction) db).commits := by
    rw [← Staged.commits_mapResult Prod.fst,
      (respects_pollShipment env s _ _ db (agree_ownSession hs)).1, Staged.commits_mapResult]
  unfold processShipment faulty FailsQuietly
  rw [hfault]
  dsimp only
  rw [Staged.result_failAt, ← hcommits]
  refine ⟨_, _, rfl, ?_⟩
  cases hbegun : (f.session (pollShipment env s k db).commits k).inTransaction with
  | false =>
    simp only [Fault.session, Bool.or_eq_false_iff, Bool.and_eq_false_imp,
      decide_eq_true_eq] at hbegun
    exact .inl ⟨rfl, hrows, hbegun⟩
  | true =>
    refine .inr ⟨by rw [RequestSession.rollback_of_inTransaction hbegun], fun hquiet => ?_⟩
    simp only [Fault.session, Bool.or_eq_true, Bool.and_eq_true, decide_eq_true_eq] at hbegun
    -- the failing request is in a transaction, or nothing has ended the one before it
    rcases hbegun with hbegun | ⟨hnone, hbefore⟩
    · rw [hquiet.1] at hbegun
      cases hbegun
    · rw [hquiet.2 hnone] at hbefore
      cases hbefore

/-- How the processing of a loaded shipment ends: with the rows loaded, or with a failure that
is quiet just when it leaves them loaded with no transaction in progress. -/
theorem processShipment_ends (env : RefreshEnv) (db : TrackingDB)
    (hrows : ∀ e ∈ rows, e ∈ k.loaded) (hs : .shipment s.id ∈ k.loaded) :
    (∃ anyNewEvent k', (processShipment env s k db).result = (.ok anyNewEvent, k') ∧
      (∀ e ∈ rows, e ∈ k'.loaded) ∧ FailsQuietly env s k.inTransaction db) ∨
    ∃ e k', (processShipment env s k db).result = (.error e, k') ∧
      ((k'.inTransaction = false ∧ (∀ e ∈ rows, e ∈ k'.loaded) ∧
          FailsQuietly env s k.inTransaction db) ∨
        k'.rollback.loaded = [] ∧ ¬ FailsQuietly env s k.inTransaction db) := by
  cases hfault : env.fault s with
  | some f => exact .inr (processShipment_ends_of_fault hfault db hrows hs)
  | none =>
    have hread : pollShipment env s k db = (match env.getTracking s with
        | .error e => throw e
        | .ok calls => applyTrackingEvents s calls : TrackingProc Bool) k db := by
      unfold pollShipment
      rw [Proc.bind_run, readShipment, Proc.memory_run, if_pos hs]
      rfl
    unfold processShipment faulty FailsQuietly
    rw [hfault]
    dsimp only
    rw [hread]
    cases env.getTracking s with
    | error e =>
      right
      refine ⟨e, k, rfl, ?_⟩
      cases hbefore : k.inTransaction with
      | false => exact .inl ⟨rfl, hrows, rfl⟩
      | true =>
        exact .inr ⟨by rw [RequestSession.rollback_of_inTransaction hbefore], by rintro ⟨⟩⟩
    | ok calls =>
      -- what the events do they do in the session of the shipment alone
      have houtcome := congrArg Staged.result
        (respects_applyTrackingEvents s calls _ _ db (agree_ownSession hs)).1
      rw [Staged.result_mapResult, Staged.result_mapResult] at houtcome
      have hrest := (keepsRows_applyTrackingEvents s calls k db hrows).2
      dsimp only
      rw [← houtcome]
      revert hrest
      generalize (applyTrackingEvents s calls k db).result = r
      intro hrest
      obtain ⟨e | anyNewEvent, k'⟩ := r
      · exact .inr ⟨e, k', rfl, .inr ⟨hrest, by rintro ⟨_, ⟨⟩⟩⟩⟩
      · exact .inl ⟨anyNewEvent, k', rfl, hrest, anyNewEvent, rfl⟩

end Ends

end Loaded

/-! ## Section 6: One turn -/

theorem final_onTracking {α : Type} (p : TrackingProc α) (k : RequestSession)
    (st : RefreshStore) :
    (onTracking p k st).final st = { st with db := (p k st.db).final st.db } :=
  Staged.final_lift (fun db => { st with db := db }) (p k st.db) st.db

theorem result_onTracking {α : Type} (p : TrackingProc α) (k : RequestSession)
    (st : RefreshStore) : (onTracking p k st).result = (p k st.db).result :=
  Staged.result_lift _ _

section Turn

variable [PyText] {env : RefreshEnv} {counts : TrackingDB.RefreshCounts} {s : Shipment}
  {k k' : RequestSession} {st : RefreshStore}

theorem refreshOne_run : refreshOne env counts s k st =
    (onTracking (processShipment env s) k st).andThen st (Proc.resume
      (fun anyNewEvent => pure
        (if anyNewEvent then { counts with updated := counts.updated + 1 } else counts))
      (recoverRefresh counts s)) := by
  unfold refreshOne
  rw [Proc.tryCatch_run, Proc.bind_run, Staged.andThen_assoc]
  refine congrArg (Staged.andThen st _) (funext fun st' => funext fun r => ?_)
  obtain ⟨e | b, k'⟩ := r <;> rfl

/-- A shipment that does not raise is counted when it has a new event. -/
theorem refreshOne_of_ok {anyNewEvent : Bool}
    (h : (processShipment env s k st.db).result = (.ok anyNewEvent, k')) :
    (∃ counts', (refreshOne env counts s k st).result = (.ok counts', k')) ∧
      (refreshOne env counts s k st).final st =
        { st with db := (processShipment env s k st.db).final st.db } := by
  rw [refreshOne_run, Staged.result_andThen, Staged.final_andThen, result_onTracking,
    final_onTracking, h]
  exact ⟨⟨_, rfl⟩, rfl⟩

/-- After a failure that leaves the shipment readable the error is recorded. -/
theorem refreshOne_of_quiet {e : PyException}
    (h : (processShipment env s k st.db).result = (.error e, k')) (hidle : k'.inTransaction = false)
    (hs : .shipment s.id ∈ k'.loaded) :
    (∃ counts', (refreshOne env counts s k st).result = (.ok counts', k'.commit)) ∧
      (refreshOne env counts s k st).final st = { st with
        db := (processShipment env s k st.db).final st.db
        errors := st.errors ++ [⟨s.awb, e.str⟩] } := by
  have hrun : ∀ st', recoverRefresh counts s e k' st' =
      .commit { st' with errors := st'.errors ++ [⟨s.awb, e.str⟩] }
        (.done (.ok { counts with failed := counts.failed + 1 }, k'.commit)) := fun st' => by
    unfold recoverRefresh readShipment
    rw [Proc.bind_run, Proc.memory_run, RequestSession.rollback_of_not_inTransaction hidle,
      Staged.andThen_done, Proc.resume_ok, Proc.bind_run, Proc.memory_run, if_pos hs]
    rfl
  rw [refreshOne_run, Staged.result_andThen, Staged.final_andThen, result_onTracking,
    final_onTracking, h, Proc.resume_error, hrun]
  exact ⟨⟨_, rfl⟩, rfl⟩

/-- After one that does not, reading the shipment's AWB raises, and nothing is recorded. -/
theorem refreshOne_of_lost {e : PyException}
    (h : (processShipment env s k st.db).result = (.error e, k'))
    (hlost : k'.rollback.loaded = []) :
    (∃ k'', (refreshOne env counts s k st).result = (.error .missingGreenlet, k'')) ∧
      (refreshOne env counts s k st).final st =
        { st with db := (processShipment env s k st.db).final st.db } := by
  have hs : ¬ .shipment s.id ∈ k'.rollback.loaded := by
    rw [hlost]
    exact List.not_mem_nil
  have hrun : ∀ st', recoverRefresh counts s e k' st' =
      .done (.error .missingGreenlet, k'.rollback) := fun st' => by
    unfold recoverRefresh readShipment
    rw [Proc.bind_run, Proc.memory_run, Staged.andThen_done, Proc.resume_ok, Proc.bind_run,
      Proc.memory_run, if_neg hs]
    rfl
  rw [refreshOne_run, Staged.result_andThen, Staged.final_andThen, result_onTracking,
    final_onTracking, h, Proc.resume_error, hrun]
  exact ⟨⟨_, rfl⟩, rfl⟩

/-- What a loaded shipment does is what it would do alone. -/
theorem processShipment_alone (env : RefreshEnv) (hs : .shipment s.id ∈ k.loaded) (b : Bool)
    (db : TrackingDB) :
    (processShipment env s k db).result.1 = (processShipment env s (ownSession s b) db).result.1 ∧
      (processShipment env s k db).final db =
        (processShipment env s (ownSession s b) db).final db := by
  have hsame := (respects_processShipment (b := false) env s k (ownSession s b) db
    ⟨iff_of_true hs List.mem_cons_self, fun h => by cases h⟩).1
  have hresult := congrArg Staged.result hsame
  have hfinal := congrArg (Staged.final db) hsame
  rw [Staged.result_mapResult, Staged.result_mapResult] at hresult
  rw [Staged.final_mapResult, Staged.final_mapResult] at hfinal
  exact ⟨hresult, hfinal⟩

end Turn

/-! ## Section 7: The loop -/

section Loop

variable [PyText] {env : RefreshEnv}

/-- A turn that returns is followed by the others. -/
theorem refreshLoop_cons {counts counts' : TrackingDB.RefreshCounts} {s : Shipment}
    (rest : List Shipment) {k k' : RequestSession} {st st' : RefreshStore}
    (hresult : (refreshOne env counts s k st).result = (.ok counts', k'))
    (hfinal : (refreshOne env counts s k st).final st = st') :
    (refreshLoop env (s :: rest) counts k st).result =
        (refreshLoop env rest counts' k' st').result ∧
      (refreshLoop env (s :: rest) counts k st).final st =
        (refreshLoop env rest counts' k' st').final st' := by
  rw [refreshLoop, Proc.bind_run, Staged.result_andThen, Staged.final_andThen, hresult, hfinal]
  exact ⟨rfl, rfl⟩

/-- The database and the transaction with which the loop goes on. -/
theorem afterTurn_eq {s : Shipment} {k : RequestSession} (hs : .shipment s.id ∈ k.loaded)
    (db : TrackingDB) :
    afterTurn env (db, k.inTransaction) s = ((processShipment env s k db).final db,
      match (processShipment env s k db).result with
      | (.ok _, k') => k'.inTransaction
      | (.error _, _) => false) := by
  obtain ⟨hresult, hfinal⟩ := processShipment_alone env hs k.inTransaction db
  have hagree := (respects_processShipment env s _ _ db (agree_ownSession hs)).2
  unfold afterTurn
  rw [hfinal]
  refine Prod.ext rfl ?_
  revert hresult hagree
  dsimp only
  generalize (processShipment env s k db).result = r
  generalize (processShipment env s (ownSession s k.inTransaction) db).result = r'
  intro hresult hagree
  obtain ⟨a, k₁⟩ := r
  obtain ⟨a', k₂⟩ := r'
  obtain rfl : a = a' := hresult
  cases a with
  | error e => rfl
  | ok b => exact (hagree.2 rfl).symm

/-- The errors recorded are only added to. -/
theorem length_errors_eachAlone (env : RefreshEnv) (shipments : List Shipment)
    (st : RefreshStore) :
    st.errors.length ≤ (eachAlone env shipments st).errors.length := by
  induction shipments generalizing st with
  | nil => exact Nat.le_refl _
  | cons s rest ih =>
    have hdb := ih { st with db := (processShipment env s (ownSession s true) st.db).final st.db }
    unfold eachAlone
    dsimp only
    split
    · exact hdb
    · refine Nat.le_trans ?_ (ih _)
      simp

/-- While the failures are quiet the loop goes through its shipments, each as alone. At the
first that is not, it raises, with an error fewer than it has failures. -/
theorem refreshLoop_run (env : RefreshEnv) (shipments : List Shipment)
    (counts : TrackingDB.RefreshCounts) {k : RequestSession} (st : RefreshStore)
    (hrows : ∀ s ∈ shipments, .shipment s.id ∈ k.loaded) :
    (Along (afterTurn env) (fun before s => FailsQuietly env s before.2 before.1)
        (st.db, k.inTransaction) shipments ∧
      (∃ counts' k', (refreshLoop env shipments counts k st).result = (.ok counts', k')) ∧
        (refreshLoop env shipments counts k st).final st = eachAlone env shipments st) ∨
    (¬ Along (afterTurn env) (fun before s => FailsQuietly env s before.2 before.1)
        (st.db, k.inTransaction) shipments ∧
      (∃ e k', (refreshLoop env shipments counts k st).result = (.error e, k')) ∧
        ((refreshLoop env shipments counts k st).final st).errors.length <
          (eachAlone env shipments st).errors.length) := by
  induction shipments generalizing counts k st with
  | nil => exact .inl ⟨True.intro, ⟨counts, k, rfl⟩, rfl⟩
  | cons s rest ih =>
    have hs := hrows s List.mem_cons_self
    have hrest : ∀ e ∈ (s :: rest).map (fun s => Entity.shipment s.id), e ∈ k.loaded := by
      simpa using hrows
    obtain ⟨halone, hfinal⟩ := processShipment_alone env hs true st.db
    have hnext : afterTurn env (st.db, k.inTransaction) s = _ := afterTurn_eq hs st.db
    rw [along_cons, hnext, eachAlone]
    dsimp only
    rw [← halone, ← hfinal]
    rcases processShipment_ends env st.db hrest hs with
      ⟨anyNewEvent, k', hresult, hloaded, hquiet⟩ |
      ⟨e, k', hresult, ⟨hidle, hloaded, hquiet⟩ | ⟨hlost, hloud⟩⟩
    · -- the shipment is processed, and the rest start with its session
      have hone : (∃ c, (refreshOne env counts s k st).result = (.ok c, k')) ∧ _ :=
        refreshOne_of_ok hresult
      obtain ⟨⟨counts', hturn⟩, hstore⟩ := hone
      obtain ⟨hr, hf⟩ := refreshLoop_cons rest hturn hstore
      rw [hr, hf, hresult]
      simp only [hquiet, true_and]
      exact ih counts' { st with db := (processShipment env s k st.db).final st.db } fun s' hs' =>
        hloaded _ (List.mem_cons_of_mem _ (List.mem_map_of_mem hs'))
    · -- it fails quietly: the error is committed, and the rows of the rest are still loaded
      have hone : (∃ c, (refreshOne env counts s k st).result = (.ok c, k'.commit)) ∧ _ :=
        refreshOne_of_quiet hresult hidle (hloaded _ List.mem_cons_self)
      obtain ⟨⟨counts', hturn⟩, hstore⟩ := hone
      obtain ⟨hr, hf⟩ := refreshLoop_cons rest hturn hstore
      rw [hr, hf, hresult]
      simp only [hquiet, true_and]
      have hnext := ih counts' (k := k'.commit) {
        st with
        db := (processShipment env s k st.db).final st.db
        errors := st.errors ++ [⟨s.awb, e.str⟩] } fun s' hs' =>
          hloaded _ (List.mem_cons_of_mem _ (List.mem_map_of_mem hs'))
      exact hnext
    · -- its rollback costs the rows, and recording the error raises
      have hone : (∃ k'', (refreshOne env counts s k st).result = (.error _, k'')) ∧ _ :=
        refreshOne_of_lost hresult hlost
      obtain ⟨⟨k'', hturn⟩, hstore⟩ := hone
      refine .inr ⟨fun h => hloud h.1, ?_⟩
      rw [refreshLoop, Proc.bind_run, Staged.result_andThen, Staged.final_andThen, hturn, hstore,
        hresult]
      refine ⟨⟨_, _, rfl⟩, Nat.lt_of_lt_of_le ?_ (length_errors_eachAlone _ _ _)⟩
      simp [Proc.raise_run]

end Loop

/-! ## Section 8: Runs -/

/-- For every list of shipments and every pattern of failures: each shipment is processed as it
would be alone and exactly one error is recorded for each that raises, exactly when every
failure is quiet. -/
theorem refresh_isolates_iff [PyText] (env : RefreshEnv) (k : RequestSession)
    (st : RefreshStore) : RefreshIsolates env k st ↔ FailuresQuiet env st := by
  have hrun : refreshTracking env k st =
      (refreshLoop env (st.db.shipments.rows.filter TrackingDB.refreshSelects)
        { received := (st.db.shipments.rows.filter TrackingDB.refreshSelects).length }
        (selected (st.db.shipments.rows.filter TrackingDB.refreshSelects) k) st).andThen st
          (Proc.resume recordProgress Proc.raise) := rfl
  unfold RefreshIsolates FailuresQuiet
  rw [hrun]
  generalize st.db.shipments.rows.filter TrackingDB.refreshSelects = shipments
  have hrows : ∀ s ∈ shipments, .shipment s.id ∈ (selected shipments k).loaded := fun s hs =>
    List.mem_append_left _ (List.mem_map_of_mem (f := fun s => Entity.shipment s.id) hs)
  dsimp only
  rw [Staged.final_andThen]
  rcases refreshLoop_run env shipments { received := shipments.length } st hrows with
    ⟨hquiet, ⟨counts, k', hresult⟩, hfinal⟩ | ⟨hloud, ⟨e, k', hresult⟩, hfewer⟩
  · rw [hresult, hfinal]
    exact iff_of_true ⟨rfl, rfl⟩ hquiet
  · rw [hresult]
    refine iff_of_false (fun h => ?_) hloud
    have herrors : ((refreshLoop env shipments { received := shipments.length }
        (selected shipments k) st).final st).errors = (eachAlone env shipments st).errors := h.2
    rw [herrors] at hfewer
    exact Nat.lt_irrefl _ hfewer

/-- Two parcels under way. -/
def parcelsUnderWay : List Shipment := [
  { id := 70, orderId := 7, awb := some "1001", currentStatus := .inTransit },
  { id := 71, orderId := 8, awb := some "1002", currentStatus := .inTransit }]

theorem parcelsUnderWay_keys : (parcelsUnderWay.flatMap Shipment.keys).Nodup := by decide

theorem noPayments : ∀ p ∈ (Table.empty : PaymentTable).rows,
    ∃ o ∈ (Table.empty : OrderTable).rows, o.id = p.orderId :=
  fun _ hp => absurd hp List.not_mem_nil

/-- The shop with these two. -/
def twoUnderWay : RefreshStore where
  db := {
    orders := { payment_order := noPayments }
    shipments := Table.ofList parcelsUnderWay parcelsUnderWay_keys }

/-- The courier reports where the parcel is. -/
def underWay : TrackingDB.TrackingCall where
  event := { status := "IN TRANSIT", eventTimestamp := some 50 }

/-- The courier answers for one AWB only. -/
def answersFor (awb : String) : RefreshEnv where
  getTracking s := if s.awb = some awb then .ok [underWay] else .error (.other "timeout")

/-- A failed request after a parcel that was processed is isolated. -/
theorem refresh_isolates_later : RefreshIsolates (answersFor "1001") {} twoUnderWay := by
  refine (refresh_isolates_iff (answersFor "1001") {} twoUnderWay).mpr ⟨⟨true, ?_⟩, ?_, True.intro⟩
  · decide +kernel
  · show (afterTurn (answersFor "1001") (twoUnderWay.db, true) _).2 = false
    decide +kernel

/-- The first request of the refresh fails in the transaction of its `SELECT`: no error is
recorded, and the second parcel is not processed. -/
theorem refresh_lost_at_first : ¬ RefreshIsolates (answersFor "1002") {} twoUnderWay := by
  intro h
  exact absurd h.2 (by decide +kernel)

end AyushOms.Tracking
