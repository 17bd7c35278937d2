import AyushOms.Inventory.Service
import AyushOms.Orders.Model

/-!
# Shipments: Rows, Tables and Statuses

`shipments`, `shipment_events` and `rtos`, with the columns courier tracking reads or
writes and their unique constraints, and the vocabulary of
`app.integrations.shiprocket.normalizer`: which courier status text maps to which shipment
status, and which shipment statuses are dispatched, terminal or a return to origin.
-/

namespace AyushOms.Tracking

open AyushOms.Lib AyushOms.Orders AyushOms.Inventory

/-! ## Section 1: Rows -/

/-- `Shipment`: the current state of one parcel. -/
structure Shipment where
  id : UUID
  orderId : UUID
  sourceSystem : Option SourceSystem := none
  externalId : Option String := none
  shiprocketShipmentId : Option String := none
  awb : Option String := none
  courierId : Option UUID := none
  currentStatus : ShipmentStatus := .pending
  rtoStatus : Option RTOStatus := none
  currentLocation : Option String := none
  lastTrackingUpdateAt : Option Instant := none
  shopifyFulfillmentId : Option String := none
  shopifySyncStatus : ShopifySyncStatus := .notApplicable
  shopifySyncError : Option String := none
  shopifySyncedAt : Option Instant := none
  deriving DecidableEq, Repr

/-- `ShipmentEvent`: one row of the append-only tracking timeline. -/
structure ShipmentEvent where
  shipmentId : UUID
  externalEventId : Option String
  status : String
  location : Option String
  eventTimestamp : Instant
  description : Option String
  courierName : Option String
  source : String
  deriving DecidableEq, Repr

/-- `RTO`: a return to origin. -/
structure RTO where
  id : UUID
  sourceSystem : Option SourceSystem
  externalId : Option String
  shipmentId : UUID
  orderId : UUID
  courierId : Option UUID := none
  externalReason : Option String := none
  status : RTOStatus := .initiated
  deriving DecidableEq, Repr

/-! ## Section 2: Constraints and tables -/

/-- The unique columns of `shipments`. -/
inductive ShipmentKey where
  | id (id : UUID)
  | external (key : SourceSystem × String)
  | shiprocket (shiprocketShipmentId : String)
  | awb (awb : String)
  | shopifyFulfillment (shopifyFulfillmentId : String)
  deriving DecidableEq

def Shipment.keys (s : Shipment) : List ShipmentKey :=
  .id s.id :: (externalKey s.sourceSystem s.externalId).map .external ++
    s.shiprocketShipmentId.toList.map .shiprocket ++ s.awb.toList.map .awb ++
    s.shopifyFulfillmentId.toList.map .shopifyFulfillment

/-- `uq_shipment_events_shipment_external_event`. -/
def ShipmentEvent.keys (e : ShipmentEvent) : List (UUID × String) :=
  e.externalEventId.toList.map fun id => (e.shipmentId, id)

def RTO.keys (r : RTO) : List SyncedKey :=
  .id r.id :: (externalKey r.sourceSystem r.externalId).map .external

theorem mem_shipmentKeys {s : Shipment} {k : ShipmentKey} :
    k ∈ s.keys ↔ k = .id s.id ∨
      (∃ key ∈ externalKey s.sourceSystem s.externalId, k = .external key) ∨
      (∃ id, s.shiprocketShipmentId = some id ∧ k = .shiprocket id) ∨
      (∃ awb, s.awb = some awb ∧ k = .awb awb) ∨
      ∃ id, s.shopifyFulfillmentId = some id ∧ k = .shopifyFulfillment id := by
  simp [Shipment.keys, eq_comm]

theorem shipmentKeys_nodup (s : Shipment) : s.keys.Nodup := by
  cases hsource : s.sourceSystem <;> cases hexternal : s.externalId <;>
    cases hsid : s.shiprocketShipmentId <;> cases hawb : s.awb <;>
    cases hfulfillment : s.shopifyFulfillmentId <;>
    simp [Shipment.keys, externalKey, hsource, hexternal, hsid, hawb, hfulfillment]

abbrev ShipmentTable := Table Shipment ShipmentKey Shipment.keys
abbrev ShipmentEventTable := Table ShipmentEvent (UUID × String) ShipmentEvent.keys
abbrev RTOTable := Table RTO SyncedKey RTO.keys

/-- The database that tracking works on: the shop's orders and stock, and the shipments. -/
structure TrackingDB where
  orders : OrdersDB := {}
  shipments : ShipmentTable := Table.empty
  events : ShipmentEventTable := Table.empty
  rtos : RTOTable := Table.empty

/-! ## Section 3: Statuses -/

/-- `_SHIPMENT_STATUS_MAP`. -/
def shipmentStatusMap : List (String × ShipmentStatus) :=
  [("NEW", .pending), ("PICKUP SCHEDULED", .pending), ("PICKUP GENERATED", .pending),
    ("PICKED UP", .pickedUp), ("SHIPPED", .pickedUp), ("IN TRANSIT", .inTransit),
    ("OUT FOR DELIVERY", .outForDelivery), ("DELIVERED", .delivered), ("UNDELIVERED", .ndr),
    ("NDR", .ndr), ("CANCELLED", .cancelled), ("CANCELED", .cancelled),
    ("RTO INITIATED", .rtoInitiated), ("RTO IN TRANSIT", .rtoInitiated),
    ("RTO", .rtoInitiated), ("RTO DELIVERED", .rtoDelivered)]

/-- `normalize_shipment_status`. -/
def normalizeShipmentStatus [PyText] (rawStatus : String) : Option ShipmentStatus :=
  shipmentStatusMap.lookup (PyText.upper (pyStrip rawStatus))

example : normalizeShipmentStatus " Out for Delivery" = some .outForDelivery := by decide

/-- `_DISPATCHED_STATUSES`. -/
def dispatchedStatuses : List ShipmentStatus :=
  [.pickedUp, .inTransit, .outForDelivery, .delivered]

/-- `_TERMINAL_STATUSES`. -/
def terminalStatuses : List ShipmentStatus := [.delivered, .cancelled, .rtoDelivered]

/-- `RTO_STATUS_FROM_SHIPMENT_STATUS`. -/
def rtoStatusFromShipmentStatus : ShipmentStatus → Option RTOStatus
  | .rtoInitiated => some .initiated
  | .rtoDelivered => some .received
  | _ => none

/-- A dispatched status is terminal only when it is `DELIVERED`. -/
theorem terminal_of_dispatched {status : ShipmentStatus} (h : status ∈ dispatchedStatuses) :
    status ∈ terminalStatuses ↔ status = .delivered := by
  cases status <;> simp_all [dispatchedStatuses, terminalStatuses]

/-- No dispatched status concerns a return. -/
theorem rtoStatus_of_dispatched {status : ShipmentStatus} (h : status ∈ dispatchedStatuses) :
    rtoStatusFromShipmentStatus status = none := by
  cases status <;> simp_all [dispatchedStatuses, rtoStatusFromShipmentStatus]

/-- A normalized tracking event, as `normalize_event` returns it. -/
structure NormalizedEvent where
  externalEventId : Option String := none
  status : String
  location : Option String := none
  eventTimestamp : Option Instant
  description : Option String := none
  courierName : Option String := none
  deriving DecidableEq, Repr

/-- `mapped_status`. -/
def NormalizedEvent.mappedStatus [PyText] (e : NormalizedEvent) : Option ShipmentStatus :=
  normalizeShipmentStatus e.status

/-! ## Section 4: Repositories -/

namespace TrackingDB

/-- `ShipmentRepository.get_by_id`. -/
def getShipment (db : TrackingDB) (id : UUID) : Option Shipment :=
  db.shipments.find? fun s => s.id == id

/-- `ShipmentRepository.get_by_source_external_id`. -/
def getShipmentByExternalId (db : TrackingDB) (source : SourceSystem) (externalId : String) :
    Option Shipment :=
  db.shipments.find? fun s => s.sourceSystem == some source && s.externalId == some externalId

/-- The rows `ShipmentEventRepository.find_duplicate` selects: by id when there is one,
else by status and timestamp. -/
def duplicates (db : TrackingDB) (shipmentId : UUID) (externalEventId : Option String)
    (status : String) (eventTimestamp : Instant) : List ShipmentEvent :=
  match pyOr externalEventId none with
  | some id => db.events.rows.filter fun e =>
      e.shipmentId == shipmentId && e.externalEventId == some id
  | none => db.events.rows.filter fun e =>
      e.shipmentId == shipmentId && e.status == status && e.eventTimestamp == eventTimestamp

/-- The rows `RTORepository.get_by_source_external_id` selects. A `None` external id is
compared with `IS NULL`. -/
def rtosByExternalId (db : TrackingDB) (source : SourceSystem) (externalId : Option String) :
    List RTO :=
  db.rtos.rows.filter fun r => r.sourceSystem == some source && r.externalId == externalId

/-- `ShipmentRepository.update` of columns that occupy no key. -/
def updateShipmentRow (db : TrackingDB) (id : UUID)
    (f : Table.KeyPreserving Shipment.keys) : TrackingDB :=
  { db with shipments := db.shipments.modify (fun s => s.id == id) f }

theorem getShipment_eq_some {db : TrackingDB} {id : UUID} {s : Shipment} :
    db.getShipment id = some s ↔ s ∈ db.shipments.rows ∧ s.id = id := by
  constructor
  · intro h
    exact ⟨Table.mem_of_find?_eq_some h, by simpa using List.find?_some h⟩
  · rintro ⟨hs, rfl⟩
    exact db.shipments.find?_eq_some_of_mem (k := .id s.id) hs (by simp)
      (by simp +contextual [Shipment.keys])

/-- Shipment ids are unique. -/
theorem shipment_eq_of_id_eq {db : TrackingDB} {s s' : Shipment}
    (hs : s ∈ db.shipments.rows) (hs' : s' ∈ db.shipments.rows) (hid : s'.id = s.id) :
    s' = s :=
  db.shipments.eq_of_shared_key (k := .id s.id) hs' hs (by simp [Shipment.keys, hid])
    (by simp [Shipment.keys])

end TrackingDB

end AyushOms.Tracking
