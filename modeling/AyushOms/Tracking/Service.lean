import AyushOms.Tracking.Model
import Mathlib.Data.List.Infix

/-!
# Tracking Ingestion

The paths by which the courier's view of a parcel reaches the database:

- `applyTrackingEvent`, shared by the background refresh and the webhook: record the event,
  write the status, move stock, derive the return to origin;
- `refreshTracking`, the background refresh, which polls the shipments it still selects;
- `refreshTrackingForShipment`, the refresh a user asks for;
- `upsertShipment`, the pull sync of Shiprocket's shipment list.

Every service call commits on its own, so a call that raises keeps what was committed
before: each definition returns the outcome next to the database it leaves.
-/

namespace AyushOms.Tracking

open AyushOms.Lib AyushOms.Orders AyushOms.Inventory

/-- What a call ends with when it does not return. -/
inductive Raised where
  | oms (error : OMSError)
  | integrityError
  | multipleResultsFound
  deriving DecidableEq, Repr

section AnyText

variable [PyText]

namespace TrackingDB

/-! ## Section 1: The services' writes -/

/-- The timeline row of an event. -/
def eventRow (shipmentId : UUID) (e : NormalizedEvent) (eventTimestamp : Instant)
    (source : String) : ShipmentEvent where
  shipmentId := shipmentId
  externalEventId := e.externalEventId
  status := e.status
  location := e.location
  eventTimestamp := eventTimestamp
  description := e.description
  courierName := e.courierName
  source := source

/-- `ShipmentService.add_tracking_event`: `false` when the event was already recorded. -/
def addTrackingEvent (db : TrackingDB) (shipmentId : UUID) (e : NormalizedEvent)
    (eventTimestamp : Instant) (source : String) : Except Raised (Bool × TrackingDB) :=
  match db.getShipment shipmentId with
  | none => .error (.oms (.notFound "Shipment not found."))
  | some _ =>
    match db.duplicates shipmentId e.externalEventId e.status eventTimestamp with
    | [] =>
      match db.events.insert? (eventRow shipmentId e eventTimestamp source) with
      | none => .error .integrityError
      | some events =>
        .ok (true, { db with events := events }.updateShipmentRow shipmentId
          ⟨fun s => { s with
              currentLocation := pyOr e.location s.currentLocation
              lastTrackingUpdateAt := some eventTimestamp },
            fun _ => rfl⟩)
    -- recorded before: nothing is written, the caller learns it from the flag
    | [_] => .ok (false, db)
    -- `scalar_one_or_none` raises when the lookup matches two rows
    | _ => .error .multipleResultsFound

/-- `ShipmentService.update_shipment(current_status=...)`; `none` is dropped. -/
def updateStatus (db : TrackingDB) (shipmentId : UUID) (status : Option ShipmentStatus) :
    TrackingDB :=
  match status with
  | none => db
  | some status =>
    db.updateShipmentRow shipmentId ⟨fun s => { s with currentStatus := status }, fun _ => rfl⟩

/-- The two calls every tracking source starts with: record the event, then write its
status, whether or not the event is new. -/
def recordEvent (db : TrackingDB) (shipmentId : UUID) (e : NormalizedEvent)
    (eventTimestamp : Instant) (source : String) : Except Raised (Bool × TrackingDB) := do
  let (created, db) ← db.addTrackingEvent shipmentId e eventTimestamp source
  return (created, db.updateStatus shipmentId e.mappedStatus)

/-- What `upsert_synced_rto` is called with. -/
structure SyncedRTO where
  externalId : Option String
  shipmentId : UUID
  orderId : UUID
  courierId : Option UUID
  status : RTOStatus
  externalReason : Option String

/-- The row after the update; an absent reason is dropped. -/
def SyncedRTO.write (data : SyncedRTO) (r : RTO) : RTO :=
  { r with
    shipmentId := data.shipmentId
    orderId := data.orderId
    courierId := data.courierId
    status := data.status
    externalReason := data.externalReason.or r.externalReason }

def SyncedRTO.newRow (data : SyncedRTO) (id : UUID) : RTO where
  id := id
  sourceSystem := some .shiprocket
  externalId := data.externalId
  shipmentId := data.shipmentId
  orderId := data.orderId
  courierId := data.courierId
  externalReason := data.externalReason
  status := data.status

/-- `rto_status` of the shipment a return belongs to. -/
def updateRtoStatus (db : TrackingDB) (shipmentId : UUID) (status : RTOStatus) : TrackingDB :=
  db.updateShipmentRow shipmentId ⟨fun s => { s with rtoStatus := some status }, fun _ => rfl⟩

/-- `RTOService.upsert_synced_rto`, with the id of the row written. -/
def upsertSyncedRto (db : TrackingDB) (data : SyncedRTO) : Except Raised (UUID × TrackingDB) :=
  match db.rtosByExternalId .shiprocket data.externalId with
  | [] =>
    let id := OrdersDB.unusedId (db.rtos.rows.map (·.id))
    match db.rtos.insert? (data.newRow id) with
    | none => .error .integrityError
    | some rtos => .ok (id, { db with rtos := rtos }.updateRtoStatus data.shipmentId data.status)
  | [existing] =>
    let rtos := db.rtos.modify (fun r => r.id == existing.id) ⟨data.write, fun _ => rfl⟩
    .ok (existing.id, { db with rtos := rtos }.updateRtoStatus data.shipmentId data.status)
  | _ => .error .multipleResultsFound

/-! ## Section 2: The shared handler -/

/-- One call of `apply_tracking_event`, with the failures of its stock effects. -/
structure TrackingCall where
  event : NormalizedEvent
  source : String := "shiprocket"
  dispatchRaises : Bool := false
  restockRaises : Bool := false
  deriving DecidableEq, Repr

/-- `apply_dispatch` of a dispatched status; a failure is rolled back and logged. -/
def dispatchEffect (db : TrackingDB) (shipment : Shipment) (call : TrackingCall)
    (status : ShipmentStatus) : TrackingDB :=
  if status ∈ dispatchedStatuses ∧ call.dispatchRaises = false then
    { db with orders := { db.orders with
        stock := db.orders.stock.applyDispatch shipment.orderId shipment.id } }
  else db

/-- `apply_rto_restock` of a received return; a failure is rolled back and logged. -/
def restockEffect (db : TrackingDB) (shipment : Shipment) (call : TrackingCall)
    (status : RTOStatus) (rtoId : UUID) : TrackingDB :=
  if status = .received ∧ call.restockRaises = false then
    { db with orders := { db.orders with
        stock := db.orders.stock.applyRtoRestock shipment.orderId rtoId } }
  else db

/-- The effects of a status that was written: stock, then the return to origin. -/
def statusEffects (db : TrackingDB) (shipment : Shipment) (call : TrackingCall)
    (status : ShipmentStatus) : Except Raised Unit × TrackingDB :=
  let db := db.dispatchEffect shipment call status
  match rtoStatusFromShipmentStatus status with
  | none => (.ok (), db)
  | some rtoStatus =>
    match db.upsertSyncedRto {
        externalId := shipment.awb
        shipmentId := shipment.id
        orderId := shipment.orderId
        courierId := shipment.courierId
        status := rtoStatus
        externalReason := call.event.description } with
    | .error raised => (.error raised, db)
    | .ok (rtoId, db) => (.ok (), db.restockEffect shipment call rtoStatus rtoId)

/-- `apply_tracking_event`: whether a new event was recorded, and the database left. An
event without a timestamp is passed over. -/
def applyTrackingEvent (db : TrackingDB) (shipmentId : UUID) (call : TrackingCall) :
    Except Raised Bool × TrackingDB :=
  match call.event.eventTimestamp with
  | none => (.ok false, db)
  | some eventTimestamp =>
    match db.getShipment shipmentId with
    | none => (.error (.oms (.notFound "Shipment not found.")), db)
    | some shipment =>
      match db.recordEvent shipmentId call.event eventTimestamp call.source with
      | .error raised => (.error raised, db)
      | .ok (created, db) =>
        -- the status was written above, also for an event that is not new
        match call.event.mappedStatus with
        | none => (.ok created, db)
        | some status =>
          let (outcome, db) := db.statusEffects shipment call status
          (outcome.map fun _ => created, db)

/-! ## Section 3: The background refresh -/

/-- The shipments `refresh_tracking` still polls: an AWB and no terminal status. -/
def refreshSelects (s : Shipment) : Bool :=
  s.awb.isSome && !terminalStatuses.contains s.currentStatus

/-- The events of one poll, in the order of the response; the first one that raises ends
it. -/
def applyTrackingEvents (db : TrackingDB) (shipmentId : UUID) :
    List TrackingCall → Except Raised Bool × TrackingDB
  | [] => (.ok false, db)
  | call :: calls =>
    match db.applyTrackingEvent shipmentId call with
    | (.error raised, db) => (.error raised, db)
    | (.ok created, db) =>
      let (outcome, db) := applyTrackingEvents db shipmentId calls
      (outcome.map fun anyNewEvent => created || anyNewEvent, db)

/-- `record_progress` of a refresh. -/
structure RefreshCounts where
  received : ℕ := 0
  updated : ℕ := 0
  failed : ℕ := 0
  deriving DecidableEq, Repr

/-- One shipment of the refresh: a failure is counted and the next one polled. -/
def refreshOne (getTracking : Shipment → Except OMSError (List TrackingCall))
    (acc : RefreshCounts × TrackingDB) (s : Shipment) : RefreshCounts × TrackingDB :=
  let (counts, db) := acc
  match getTracking s with
  | .error _ => ({ counts with failed := counts.failed + 1 }, db)
  | .ok calls =>
    match db.applyTrackingEvents s.id calls with
    | (.ok true, db) => ({ counts with updated := counts.updated + 1 }, db)
    | (.ok false, db) => (counts, db)
    | (.error _, db) => ({ counts with failed := counts.failed + 1 }, db)

/-- `refresh_tracking`; `getTracking` is the courier's answer for each AWB. -/
def refreshTracking (db : TrackingDB)
    (getTracking : Shipment → Except OMSError (List TrackingCall)) :
    RefreshCounts × TrackingDB :=
  let shipments := db.shipments.rows.filter refreshSelects
  shipments.foldl (refreshOne getTracking) ({ received := shipments.length }, db)

/-! ## Section 4: The refresh on demand -/

/-- The loop of `refresh_tracking_for_shipment`: no stock, no return to origin. -/
def recordEvents (db : TrackingDB) (shipmentId : UUID) :
    List NormalizedEvent → Except Raised Unit × TrackingDB
  | [] => (.ok (), db)
  | e :: es =>
    match e.eventTimestamp with
    | none => recordEvents db shipmentId es
    | some eventTimestamp =>
      match db.recordEvent shipmentId e eventTimestamp "shiprocket" with
      | .error raised => (.error raised, db)
      | .ok (_, db) => recordEvents db shipmentId es

/-- `refresh_tracking_for_shipment`. -/
def refreshTrackingForShipment (db : TrackingDB) (shipmentId : UUID)
    (response : Except OMSError (List NormalizedEvent)) : Except Raised Unit × TrackingDB :=
  match db.getShipment shipmentId with
  | none => (.error (.oms (.notFound "Shipment not found.")), db)
  | some shipment =>
    if pyOr shipment.awb none = none then
      (.error (.oms (.conflict "Shipment has no AWB yet — assign one first.")), db)
    else
      match response with
      | .error e => (.error (.oms e), db)
      | .ok events => db.recordEvents shipmentId events

end TrackingDB

end AnyText

/-! ## Section 5: The pull sync -/

/-- What the normalizer makes of one item of Shiprocket's shipment list. -/
structure SyncedShipment where
  sourceSystem : SourceSystem := .shiprocket
  externalId : String
  shiprocketShipmentId : Option String := none
  awb : Option String := none
  currentStatus : Option ShipmentStatus := none
  channelOrderId : Option String := none
  shiprocketOrderId : Option String := none
  deriving DecidableEq, Repr

/-- The fields of `GET /orders/show/{id}` that identify an order. -/
structure OrderDetail where
  channelOrderId : Option String := none
  apiOrderId : Option String := none
  deriving DecidableEq, Repr

/-- A recorded `SyncError`. -/
structure SyncErrorRow where
  errorType : String
  errorMessage : String
  deriving DecidableEq, Repr

/-- What the order lookup of one record meets: the latest error recorded for it, and the
provider's answer when it is asked. -/
structure LookupEnv where
  priorError : Option SyncErrorRow := none
  getOrder : Option (Except OMSError OrderDetail) := none

/-- The text a completed lookup without a match is reported with. -/
def noOrderFound : String := "No OMS order found for Shiprocket shipment"

/-- `already_confirmed_unmatched`: a completed lookup found no order, so it is not
repeated. -/
def SyncErrorRow.confirmsUnmatched (e : SyncErrorRow) : Bool :=
  e.errorType == "validation_error" &&
    noOrderFound.toList.isPrefixOf e.errorMessage.toList &&
    !decide ("orders_show_lookup_failed".toList <:+: e.errorMessage.toList)

/-- `_resolve_order_by_channel_order_id`. -/
def resolveOrderByChannelOrderId (db : OrdersDB) (channelOrderId : Option String) :
    Option Order :=
  match pyOr channelOrderId none with
  | none => none
  | some id =>
    match db.getOrderByNumber id with
    | some order => some order
    | none => if "#".toList.isPrefixOf id.toList then none else db.getOrderByNumber ("#" ++ id)

/-- `_resolve_shopify_order_by_api_order_id`. -/
def resolveShopifyOrderByApiOrderId (db : OrdersDB) (apiOrderId : Option String) :
    Option Order :=
  match pyOr apiOrderId none with
  | none => none
  | some id => db.getOrderByExternalId .shopify id

/-- The order of a shipment that is not known yet. -/
def resolveOrder (db : OrdersDB) (data : SyncedShipment) (env : LookupEnv) :
    Except Raised Order :=
  match resolveOrderByChannelOrderId db data.channelOrderId with
  | some order => .ok order
  | none =>
    if pyOr data.shiprocketOrderId none = none ∨
        (pyFalsy data.externalId = false ∧
          env.priorError.any SyncErrorRow.confirmsUnmatched = true) then
      .error (.oms (.notFound noOrderFound))
    else
      -- a completed lookup without a match is not repeated, so this asks the provider
      match env.getOrder with
      | none => .error (.oms (.notFound noOrderFound))
      | some (.error e) => .error (.oms e)
      | some (.ok detail) =>
        match (resolveOrderByChannelOrderId db detail.channelOrderId).or
            (resolveShopifyOrderByApiOrderId db detail.apiOrderId) with
        | some order => .ok order
        | none => .error (.oms (.notFound noOrderFound))

/-- The row a sync writes over an existing shipment; absent fields are dropped. -/
def SyncedShipment.write (data : SyncedShipment) (orderId : UUID) (s : Shipment) : Shipment :=
  { s with
    orderId := orderId
    shiprocketShipmentId := data.shiprocketShipmentId.or s.shiprocketShipmentId
    awb := data.awb.or s.awb
    currentStatus := data.currentStatus.getD s.currentStatus }

/-- The row a sync creates. -/
def SyncedShipment.newRow (data : SyncedShipment) (orderId id : UUID) : Shipment where
  id := id
  orderId := orderId
  sourceSystem := some data.sourceSystem
  externalId := some data.externalId
  shiprocketShipmentId := data.shiprocketShipmentId
  awb := data.awb
  currentStatus := data.currentStatus.getD .pending

namespace TrackingDB

/-- `ShipmentService.upsert_synced_shipment`. -/
def upsertSyncedShipment (db : TrackingDB) (data : SyncedShipment) (orderId : UUID) :
    Except Raised (Bool × TrackingDB) :=
  match db.getShipmentByExternalId data.sourceSystem data.externalId with
  | some existing =>
    match db.shipments.update? (fun s => s.id == existing.id) (data.write orderId) with
    | none => .error .integrityError
    | some shipments => .ok (false, { db with shipments := shipments })
  | none =>
    let id := OrdersDB.unusedId (db.shipments.rows.map (·.id))
    match db.shipments.insert? (data.newRow orderId id) with
    | none => .error .integrityError
    | some shipments => .ok (true, { db with shipments := shipments })

/-- The order a synced shipment is attached to: a known shipment keeps its own. -/
def orderForShipment (db : TrackingDB) (data : SyncedShipment) (env : LookupEnv) :
    Except Raised UUID :=
  match (if pyFalsy data.externalId then none
      else db.getShipmentByExternalId data.sourceSystem data.externalId) with
  | some existing => .ok existing.orderId
  | none => (resolveOrder db.orders data env).map (·.id)

/-- `_upsert_shipment`. -/
def upsertShipment (db : TrackingDB) (data : SyncedShipment) (env : LookupEnv) :
    Except Raised (Bool × TrackingDB) := do
  let orderId ← db.orderForShipment data env
  db.upsertSyncedShipment data orderId

end TrackingDB

end AyushOms.Tracking
