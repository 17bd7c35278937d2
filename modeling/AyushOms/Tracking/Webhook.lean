import AyushOms.Tracking.CreateShipment

/-!
# The Shiprocket Tracking Webhook

`ShiprocketWebhookService.apply_tracking_webhook`: find the shipment a delivery is about
(by AWB, by shipment id, then through its order), create it when the order has none, apply
the tracking events, and fill in the identifiers the shipment does not have yet.

The pull sync (`TrackingDB.upsertShipment`) reaches the same rows by another key: the
shipment id alone.
-/

namespace AyushOms.Tracking

open AyushOms.Lib AyushOms.Orders AyushOms.Inventory

/-! ## Section 1: Deliveries -/

/-- `extract_webhook_shipment_identifiers`, the identifiers the service reads. -/
structure WebhookIds where
  awb : Option String := none
  shiprocketShipmentId : Option String := none
  shiprocketOrderId : Option String := none
  channelOrderId : Option String := none
  deriving DecidableEq, Repr

/-- One delivery: its identifiers, its events as normalized, each with the clock when it is
applied, and the provider's answer to an order lookup, when there is an adapter to ask. -/
structure WebhookDelivery where
  ids : WebhookIds
  events : List (TrackingDB.TrackingCall × Instant) := []
  getOrder : Option (Except OMSError OrderDetail) := none

/-- The events as they are applied: one without a timestamp takes the time of its arrival. -/
def WebhookDelivery.trackingCalls (d : WebhookDelivery) : List TrackingDB.TrackingCall :=
  d.events.map fun (call, now) =>
    { call with
      event := { call.event with eventTimestamp := some (call.event.eventTimestamp.getD now) }
      source := "shiprocket_webhook" }

/-- `_resolve_order_via_orders_show`: a lookup that fails resolves nothing. -/
def resolveOrderViaOrdersShow (db : OrdersDB) (getOrder : Option (Except OMSError OrderDetail)) :
    Option Order :=
  match getOrder with
  | some (.ok detail) =>
    (resolveOrderByChannelOrderId db detail.channelOrderId).or
      (resolveShopifyOrderByApiOrderId db detail.apiOrderId)
  | _ => none

/-- The order a delivery names, with the strategy that found it. -/
def webhookOrder (db : OrdersDB) (d : WebhookDelivery) : Option (Order × String) :=
  match resolveOrderByChannelOrderId db d.ids.channelOrderId with
  | some order => some (order, "channel_order_id")
  | none =>
    if pyOr d.ids.shiprocketOrderId none = none then none
    -- the provider is asked for the order only when it has an id there
    else (resolveOrderViaOrdersShow db d.getOrder).map fun order =>
      (order, "shiprocket_order_id")

/-- Where a call of `apply_tracking_webhook` raises. -/
inductive WebhookStage where
  | matching | tracking | identifiers
  deriving DecidableEq, Repr

namespace TrackingDB

/-- `ShipmentRepository.get_by_awb`. -/
def getShipmentByAwb (db : TrackingDB) (awb : String) : Option Shipment :=
  db.shipments.find? fun s => s.awb == some awb

/-! ## Section 2: The service -/

/-- The row a delivery creates for an order without shipments. -/
def webhookShipment (ids : WebhookIds) (externalId : String) : SyncedShipment where
  externalId := externalId
  shiprocketShipmentId := ids.shiprocketShipmentId
  awb := ids.awb

/-- `_find_or_create_shipment`: the shipment, the strategy, and what is committed by then. -/
def findOrCreateShipment (db : TrackingDB) (d : WebhookDelivery) :
    Except Raised (Option UUID × String × TrackingDB) :=
  match (pyOr d.ids.awb none).bind db.getShipmentByAwb with
  | some shipment => .ok (some shipment.id, "awb", db)
  | none =>
    match (pyOr d.ids.shiprocketShipmentId none).bind
        (db.getShipmentByExternalId .shiprocket) with
    | some shipment => .ok (some shipment.id, "shiprocket_shipment_id", db)
    | none =>
      match webhookOrder db.orders d with
      | none => .ok (none, "unmatched", db)
      | some (order, strategy) =>
        match db.shipmentsForOrder order.id with
        | [existing] => .ok (some existing.id, strategy, db)
        -- an order-level match cannot tell several shipments apart
        | _ :: _ :: _ => .ok (none, "ambiguous_multiple_shipments_for_order", db)
        | [] =>
          -- without a shipment id the row is stored under the AWB
          match pyOr d.ids.shiprocketShipmentId d.ids.awb with
          | none => .ok (none, "order_resolved_no_shipment_identifier", db)
          | some externalId =>
            match db.upsertSyncedShipment (webhookShipment d.ids externalId) order.id with
            | .error raised => .error raised
            | .ok (_, db) =>
              .ok ((db.getShipmentByExternalId .shiprocket externalId).map (·.id),
                strategy ++ "_created_shipment", db)

/-- An identifier the payload has and the shipment does not. -/
def newIdentifier (given stored : Option String) : Option String :=
  (pyOr given none).filter fun id => stored != some id

/-- `_apply_identifier_updates`. -/
def applyIdentifierUpdates (db : TrackingDB) (shipmentId : UUID) (ids : WebhookIds) :
    Except Raised TrackingDB :=
  match db.getShipment shipmentId with
  | none => .error (.oms (.notFound "Shipment not found."))
  | some shipment =>
    let awb := newIdentifier ids.awb shipment.awb
    let shiprocketShipmentId :=
      newIdentifier ids.shiprocketShipmentId shipment.shiprocketShipmentId
    if awb = none ∧ shiprocketShipmentId = none then .ok db
    else
      match db.shipments.update? (fun s => s.id == shipmentId) fun s =>
          { s with
            awb := awb.or s.awb
            shiprocketShipmentId := shiprocketShipmentId.or s.shiprocketShipmentId } with
      | none => .error .integrityError
      | some shipments => .ok { db with shipments := shipments }

variable [PyText]

/-- `apply_tracking_webhook`: the shipment and the strategy, or where the call raised; and
the database it leaves. -/
def applyTrackingWebhook (db : TrackingDB) (d : WebhookDelivery) :
    Except (WebhookStage × Raised) (Option UUID × String) × TrackingDB :=
  match db.findOrCreateShipment d with
  | .error raised => (.error (.matching, raised), db)
  | .ok (none, strategy, db) => (.ok (none, strategy), db)
  | .ok (some shipmentId, strategy, db) =>
    match db.applyTrackingEvents shipmentId d.trackingCalls with
    -- the events before the one that raised are committed
    | (.error raised, db) => (.error (.tracking, raised), db)
    | (.ok _, db) =>
      match db.applyIdentifierUpdates shipmentId d.ids with
      | .error raised => (.error (.identifiers, raised), db)
      | .ok db => (.ok (some shipmentId, strategy), db)

end TrackingDB

/-! ## Section 3: Two ways in -/

/-- What reaches the database about a shipment: a webhook delivery, or an item of the
provider's shipment list. -/
inductive Delivery where
  | webhook (d : WebhookDelivery)
  | pull (data : SyncedShipment) (env : LookupEnv)

def Delivery.isPull : Delivery → Bool
  | .pull _ _ => true
  | .webhook _ => false

namespace TrackingDB

variable [PyText]

/-- The committed database after a delivery. -/
def ingest (db : TrackingDB) : Delivery → TrackingDB
  | .webhook d => (db.applyTrackingWebhook d).2
  | .pull data env =>
    match db.upsertShipment data env with
    | .ok (_, db) => db
    | .error _ => db

/-- The delivery fails on the unique columns of `shipments`. -/
def failsOnShipment (db : TrackingDB) : Delivery → Bool
  | .webhook d =>
    match (db.applyTrackingWebhook d).1 with
    | .error (stage, raised) => stage != .tracking && raised == .integrityError
    | .ok _ => false
  | .pull data env =>
    match db.upsertShipment data env with
    | .error raised => raised == .integrityError
    | .ok _ => false

end TrackingDB

end AyushOms.Tracking
