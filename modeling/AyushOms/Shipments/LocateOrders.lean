import AyushOms.Shipments.BulkCreate

/-!
# Locating Orders at Shiprocket

`locate_shiprocket_orders`: the Shiprocket order ids of orders, from their stored shipments or
from a bounded scan of Shiprocket's list of shipments. A record of the list that cannot be stored
is rolled back and passed over. A rollback expires every row the request has loaded, and the row
of an order is readable again only when a later record matches the order.

## Main results

- `respects_locate`: what the scan makes of a session depends on the transaction and on the rows
  asked for, and on nothing else
-/

namespace AyushOms.Shipments

open AyushOms.Lib AyushOms.Lib.Proc AyushOms.Orders AyushOms.Tracking AyushOms.Shopify

/-! ## Section 1: Statements -/

/-- A change of the session. -/
def updateSession (f : RequestSession → RequestSession) : ShipProc PUnit :=
  Proc.memory fun k => (.ok PUnit.unit, f k)

/-- A statement of the database, or what it raises. -/
def statement (fault : Option PyException) : ShipProc PUnit :=
  Proc.memory fun k =>
    match fault with
    | none => (.ok PUnit.unit, k.execute)
    | some e => (.error e, k.execute)

/-- The session after a `SELECT` of shipments. -/
def loadShipments (shipments : List Shipment) (k : RequestSession) : RequestSession where
  inTransaction := true
  loaded := shipments.map (fun s => .shipment s.id) ++ k.loaded

/-- `ShipmentRepository.list_for_order`. -/
def listForOrder (fault : Option PyException) (orderId : UUID) : ShipProc (List Shipment) := do
  statement fault
  let st ← Proc.store
  let shipments := st.oms.db.shipmentsForOrder orderId
  updateSession (loadShipments shipments)
  return shipments

/-! ## Section 2: The scan -/

/-- `_LOCATE_MAX_PAGES`. -/
def locateMaxPages : ℕ := 2

/-- `_LOCATE_MAX_CANDIDATES`. -/
def locateMaxCandidates : ℕ := 30

/-- A record of Shiprocket's list: what normalizing it gives or raises, what the lookup of its
order meets, what `shiprocket_order_id` finds in it, and what a statement of the handler
raises. -/
structure Candidate where
  normalized : Except PyException SyncedShipment
  lookup : LookupEnv := {}
  payloadOrderId : Option String := none
  fault : Option PyException := none

structure CandidatePage where
  nodes : List Candidate
  hasMore : Bool := false

/-- What a call of `locate_shiprocket_orders` meets. -/
structure LocateEnv where
  /-- what the `SELECT` of an order's shipments raises -/
  localFault : UUID → Option PyException := fun _ => none
  adapterRegistered : Bool := true
  /-- Shiprocket's pages, newest first, or what fetching them raises -/
  fetchIncremental : ℕ → Except PyException CandidatePage := fun _ => .ok { nodes := [] }

/-- The local variables of the function. -/
structure Scan where
  results : List (UUID × Option String) := []
  pending : List UUID := []
  candidatesExamined : ℕ := 0
  deriving DecidableEq, Repr

/-- `_upsert_shipment`. The row of an order that is matched is selected; a shipment that is known
keeps its order, which is not. -/
def handleShipment (c : Candidate) (data : SyncedShipment) : ShipProc Shipment := do
  statement c.fault
  let st ← Proc.store
  match (if pyFalsy data.externalId then none
      else st.oms.db.getShipmentByExternalId data.sourceSystem data.externalId) with
  | some existing => shipTransaction none (upsertSynced data c.payloadOrderId existing.orderId)
  | none =>
    match resolveOrder st.oms.db.orders data c.lookup with
    | .error raised => throw raised.exception
    | .ok order => do
      updateSession fun k => k.load (.order order.id)
      shipTransaction none (upsertSynced data c.payloadOrderId order.id)

/-- The inner `try` block. -/
def tryCandidate (c : Candidate) : ShipProc (Option Shipment) :=
  tryCatch
    (match c.normalized with
      | .error e => throw e
      | .ok data => do
        let upserted ← handleShipment c data
        return some upserted)
    fun _ => do
      updateSession RequestSession.rollback
      return none

/-- One turn of the inner loop. -/
def examineCandidate (scan : Scan) (c : Candidate) : ShipProc Scan := do
  let scan := { scan with candidatesExamined := scan.candidatesExamined + 1 }
  match ← tryCandidate c with
  | none => return scan
  | some upserted => do
    updateSession RequestSession.commit
    let st ← Proc.store
    if upserted.orderId ∈ scan.pending then
      return { scan with
        results := scan.results ++ [(upserted.orderId, st.shiprocketOrderId upserted.id)]
        pending := scan.pending.filter fun id => id != upserted.orderId }
    else return scan

/-- The inner loop. -/
def examineCandidates : List Candidate → Scan → ShipProc Scan
  | [], scan => pure scan
  | c :: rest, scan =>
    if scan.pending = [] ∨ locateMaxCandidates ≤ scan.candidatesExamined then pure scan
    else do
      let scan ← examineCandidate scan c
      examineCandidates rest scan

/-- The outer loop, with the pages left. Fetching is all in its `try` block that raises an
`IntegrationError`. -/
def scanPages (env : LocateEnv) : ℕ → ℕ → Scan → ShipProc Scan
  | 0, _, scan => pure scan
  | left + 1, page, scan =>
    match env.fetchIncremental page with
    | .error (.oms (.integration _)) => do
      updateSession RequestSession.rollback
      return scan
    | .error e => throw e
    | .ok fetched => do
      let scan ← examineCandidates fetched.nodes scan
      if scan.pending = [] ∨ fetched.hasMore = false ∨
          locateMaxCandidates ≤ scan.candidatesExamined then pure scan
      else scanPages env left (page + 1) scan

/-- The local check of every order. -/
def checkStored (env : LocateEnv) : List UUID → Scan → ShipProc Scan
  | [], scan => pure scan
  | orderId :: rest, scan => do
    let existing ← listForOrder (env.localFault orderId) orderId
    let st ← Proc.store
    match existing.findSome? fun s => st.shiprocketOrderId s.id with
    | some found =>
      checkStored env rest { scan with results := scan.results ++ [(orderId, some found)] }
    | none => checkStored env rest { scan with pending := scan.pending ++ [orderId] }

/-- `results`, with what is still pending. -/
def Scan.resolved (scan : Scan) : List (UUID × Option String) :=
  scan.results ++ scan.pending.map fun id => (id, none)

/-- `locate_shiprocket_orders`. -/
def locateShiprocketOrders (env : LocateEnv) (orderIds : List UUID) :
    ShipProc (List (UUID × Option String)) := do
  let scan ← checkStored env orderIds {}
  if scan.pending = [] ∨ env.adapterRegistered = false then return scan.resolved
  else do
    let scan ← scanPages env locateMaxPages 0 scan
    return scan.resolved

/-! ## Section 3: What it depends on -/

/-- Sessions that agree on the transaction and on some rows; `k` may have loaded more than `k'`
of others, and has lost some users. -/
structure Agree (rows others : Entity → Prop) (gone : UUID → Prop) (k k' : RequestSession) :
    Prop where
  inTransaction_eq : k.inTransaction = k'.inTransaction
  rows_iff : ∀ e, rows e → (e ∈ k.loaded ↔ e ∈ k'.loaded)
  others_sub : ∀ e, others e → e ∈ k'.loaded → e ∈ k.loaded
  users_gone : ∀ id, gone id → .user id ∉ k.loaded

section Agree

variable {rows others : Entity → Prop} {gone : UUID → Prop} {k k' : RequestSession} {α : Type}

namespace Agree

theorem execute (h : Agree rows others gone k k') : Agree rows others gone k.execute k'.execute :=
  ⟨rfl, h.rows_iff, h.others_sub, h.users_gone⟩

theorem commit (h : Agree rows others gone k k') : Agree rows others gone k.commit k'.commit :=
  ⟨rfl, h.rows_iff, h.others_sub, h.users_gone⟩

theorem load (h : Agree rows others gone k k') {e : Entity} (he : ∀ id, e ≠ .user id) :
    Agree rows others gone (k.load e) (k'.load e) where
  inTransaction_eq := rfl
  rows_iff e' he' := by
    rw [RequestSession.loaded_load, RequestSession.loaded_load, List.mem_cons, List.mem_cons,
      h.rows_iff e' he']
  others_sub e' he' := by
    rw [RequestSession.loaded_load, RequestSession.loaded_load, List.mem_cons, List.mem_cons]
    exact Or.imp_right (h.others_sub e' he')
  users_gone id hid := by
    rw [RequestSession.loaded_load, List.mem_cons, not_or]
    exact ⟨(he id).symm, h.users_gone id hid⟩

theorem loadShipments (h : Agree rows others gone k k') (shipments : List Shipment) :
    Agree rows others gone (loadShipments shipments k) (loadShipments shipments k') where
  inTransaction_eq := rfl
  rows_iff e' he' := by
    simp only [Shipments.loadShipments, List.mem_append, h.rows_iff e' he']
  others_sub e' he' := by
    simp only [Shipments.loadShipments, List.mem_append]
    exact Or.imp_right (h.others_sub e' he')
  users_gone id hid := by simp [Shipments.loadShipments, h.users_gone id hid]

theorem rollback (h : Agree rows others gone k k') :
    Agree rows others gone k.rollback k'.rollback := by
  cases htx : k.inTransaction with
  | true =>
    rw [RequestSession.rollback_of_inTransaction htx,
      RequestSession.rollback_of_inTransaction (h.inTransaction_eq ▸ htx)]
    exact ⟨rfl, fun _ _ => Iff.rfl, fun _ _ => id, fun _ _ => List.not_mem_nil⟩
  | false =>
    rwa [RequestSession.rollback_of_not_inTransaction htx,
      RequestSession.rollback_of_not_inTransaction (h.inTransaction_eq ▸ htx)]

end Agree

theorem respects_updateSession {f : RequestSession → RequestSession}
    (hf : ∀ k k', Agree rows others gone k k' → Agree rows others gone (f k) (f k')) :
    (updateSession f).Respects (Agree rows others gone) :=
  .memory (fun _ _ _ => rfl) hf

theorem respects_statement (fault : Option PyException) :
    (statement fault).Respects (Agree rows others gone) := by
  cases fault with
  | none => exact .memory (fun _ _ _ => rfl) fun _ _ h => h.execute
  | some e => exact .memory (fun _ _ _ => rfl) fun _ _ h => h.execute

theorem respects_listForOrder (fault : Option PyException) (orderId : UUID) :
    (listForOrder fault orderId).Respects (Agree rows others gone) :=
  (respects_statement fault).bind fun _ => Respects.store.bind fun _ =>
    (respects_updateSession fun _ _ h => h.loadShipments _).bind fun _ => .pure _

theorem respects_shipTransaction_none (write : ShipStore → Except PyException (α × ShipStore)) :
    (shipTransaction none write).Respects (Agree rows others gone) := by
  intro k k' st h
  cases hwrite : write st with
  | error e =>
    rw [shipTransaction_run_error hwrite, shipTransaction_run_error hwrite]
    exact ⟨rfl, h.execute⟩
  | ok written =>
    rw [shipTransaction_run_ok RequestSession.canRead_none hwrite,
      shipTransaction_run_ok RequestSession.canRead_none hwrite]
    exact ⟨rfl, h.commit⟩

theorem respects_handleShipment (c : Candidate) (data : SyncedShipment) :
    (handleShipment c data).Respects (Agree rows others gone) := by
  refine (respects_statement c.fault).bind fun _ => Respects.store.bind fun st => ?_
  split
  · exact respects_shipTransaction_none _
  · split
    · exact .throw _
    · exact (respects_updateSession fun _ _ h => h.load (by simp)).bind fun _ =>
        respects_shipTransaction_none _

theorem respects_tryCandidate (c : Candidate) :
    (tryCandidate c).Respects (Agree rows others gone) := by
  refine Respects.tryCatch ?_ fun _ =>
    (respects_updateSession fun _ _ h => h.rollback).bind fun _ => .pure _
  split
  · exact .throw _
  · exact (respects_handleShipment c _).bind fun _ => .pure _

theorem respects_examineCandidate (scan : Scan) (c : Candidate) :
    (examineCandidate scan c).Respects (Agree rows others gone) := by
  refine (respects_tryCandidate c).bind fun upserted => ?_
  split
  · exact .pure _
  · exact (respects_updateSession fun _ _ h => h.commit).bind fun _ =>
      Respects.store.bind fun _ => .ite (.pure _) (.pure _)

theorem respects_examineCandidates (nodes : List Candidate) (scan : Scan) :
    (examineCandidates nodes scan).Respects (Agree rows others gone) := by
  induction nodes generalizing scan with
  | nil => exact .pure _
  | cons c rest ih => exact .ite (.pure _) ((respects_examineCandidate scan c).bind ih)

theorem respects_scanPages (env : LocateEnv) (left page : ℕ) (scan : Scan) :
    (scanPages env left page scan).Respects (Agree rows others gone) := by
  induction left generalizing page scan with
  | zero => exact .pure _
  | succ left ih =>
    unfold scanPages
    split
    · exact (respects_updateSession fun _ _ h => h.rollback).bind fun _ => .pure _
    · exact .throw _
    · exact (respects_examineCandidates _ _).bind fun _ => .ite (.pure _) (ih _ _)

theorem respects_checkStored (env : LocateEnv) (orderIds : List UUID) (scan : Scan) :
    (checkStored env orderIds scan).Respects (Agree rows others gone) := by
  induction orderIds generalizing scan with
  | nil => exact .pure _
  | cons orderId rest ih =>
    refine (respects_listForOrder _ _).bind fun existing => Respects.store.bind fun st => ?_
    split
    · exact ih _
    · exact ih _

theorem respects_locate (env : LocateEnv) (orderIds : List UUID) :
    (locateShiprocketOrders env orderIds).Respects (Agree rows others gone) :=
  (respects_checkStored env orderIds {}).bind fun _ =>
    .ite (.pure _) ((respects_scanPages env _ _ _).bind fun _ => .pure _)

end Agree

end AyushOms.Shipments
