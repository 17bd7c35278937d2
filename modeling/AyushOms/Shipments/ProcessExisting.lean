import AyushOms.Shipments.LocateOrders
import AyushOms.Shipments.StaffScope

/-!
# Processing Existing Shipments

`bulk_process_existing_shipments`: an order that Shiprocket has already gets an AWB. Only the
assignment of the AWB stands in a `try` block. Everything before and after it may raise, and what
is reported is read from the order's row, which a rollback expires.

## Main results

- `assignAttempt_eq`: without failures the attempt is `assign_awb`
-/

namespace AyushOms.Shipments

open AyushOms.Lib AyushOms.Lib.Proc AyushOms.Orders AyushOms.Tracking AyushOms.Shopify

/-! ## Section 1: Statements -/

/-- A procedure of a service that has no use for the payloads. -/
def onOms {α : Type} (p : OmsProc α) : ShipProc α := fun k st =>
  (p k st.oms).lift fun w => { st with oms := w }

/-- `session.get`, or what its `SELECT` raises; a row that is loaded is not selected again. -/
def selectById {α : Type} (fault : Option PyException) (e : Entity) (find : Oms → Option α) :
    ShipProc (Option α) := do
  let st ← Proc.store
  Proc.memory fun k =>
    if e ∈ k.loaded then (.ok (find st.oms), k)
    else match fault with
      | none => (.ok (find st.oms), k.get e (find st.oms).isSome)
      | some error => (.error error, k.execute)

/-- A plain read of the order's attributes. -/
def readOrder (orderId : UUID) : ShipProc PUnit :=
  Proc.memory fun k =>
    (if .order orderId ∈ k.loaded then .ok PUnit.unit else .error .missingGreenlet, k)

/-- `_courier_name`. -/
def courierNameFor (fault : Option PyException) (courierId : Option UUID) :
    ShipProc (Option String) :=
  match courierId with
  | none => pure none
  | some id => do
    let courier ← selectById fault (.courier id) fun w => w.getCourier id
    return courier.map (·.name)

/-! ## Section 2: The method -/

/-- An order of the list, and what its turn meets. Statements outside the `try` block raise
anything; in `assign_awb` an unexpected failure strikes before or after the first commit, the
latter in a statement of the push outside its own `try` block. -/
structure ProcessEntry where
  orderId : UUID
  lookupFault : Option PyException := none
  locate : LocateEnv := {}
  shipmentsFault : Option PyException := none
  shiprocket : AwbAdapter
  registry : Registry := none
  now : Instant
  ownFault : Option Unexpected := none
  pushFault : Option Unexpected := none
  courierFault : Option PyException := none

/-- A failed statement leaves a transaction in progress. -/
def Unexpected.ofStatement (f : Unexpected) : Fault := { f.toFault with inTransaction := true }

/-- `assign_awb` with no courier id up to its commit, cut short by a failure. -/
def ownAttempt (actor : Option UUID) (entry : ProcessEntry) (shipmentId : UUID) :
    OmsProc (Shipment × Bool) :=
  faulty (entry.ownFault.map (·.toFault)) (awbOwnPart entry.shiprocket shipmentId none actor)

/-- What follows the commit, cut short by a failure. -/
def pushAttempt (actor : Option UUID) (entry : ProcessEntry) (shipmentId : UUID)
    (written : Shipment × Bool) : OmsProc Shipment :=
  if written.2 then
    faulty (entry.pushFault.map Unexpected.ofStatement)
      (syncFulfillmentForShipment entry.registry entry.now shipmentId actor)
  else pure written.1

def assignAttempt (actor : Option UUID) (entry : ProcessEntry) (shipmentId : UUID) :
    OmsProc Shipment := do
  let written ← ownAttempt actor entry shipmentId
  pushAttempt actor entry shipmentId written

/-- Without failures the attempt is `assign_awb`. -/
theorem assignAttempt_eq (actor : Option UUID) {entry : ProcessEntry} (shipmentId : UUID)
    (hown : entry.ownFault = none) (hpush : entry.pushFault = none) :
    assignAttempt actor entry shipmentId =
      assignAwb entry.registry entry.shiprocket entry.now shipmentId none actor := by
  unfold assignAttempt ownAttempt pushAttempt
  rw [hown, hpush]
  rfl

/-- What an order is reported with, beside the outcome. -/
def report (order : Order) (status : String)
    (shiprocketShipmentId shiprocketOrderId reason : Option String) : BulkEntry where
  orderId := order.id
  orderNumber := some order.orderNumber
  status := status
  shiprocketShipmentId := shiprocketShipmentId
  shiprocketOrderId := shiprocketOrderId
  reason := reason

/-- An order whose Shiprocket shipment is on file. -/
structure Located where
  order : Order
  shiprocketOrderId : String
  shipment : Shipment
  shiprocketShipmentId : String

/-- The report of a located order without an AWB. -/
def Located.failed (l : Located) (reason : String) : BulkEntry :=
  report l.order "failed" (some l.shiprocketShipmentId) (some l.shiprocketOrderId) (some reason)

/-- The `except` blocks around `assign_awb`. -/
def recoverProcess (l : Located) (e : PyException) : ShipProc BulkEntry :=
  match expectedCreate e with
  | some message => do
    readOrder l.order.id
    return l.failed message
  | none => do
    updateSession RequestSession.rollback
    readOrder l.order.id
    return l.failed "Could not process shipment for this order."

/-- What follows `assign_awb`. -/
def finishProcess (entry : ProcessEntry) (l : Located) (updated : Shipment) :
    ShipProc BulkEntry := do
  readOrder l.order.id
  match pyOr updated.awb none with
  | none =>
    return report l.order "failed" updated.shiprocketShipmentId (some l.shiprocketOrderId)
      (some "Shiprocket did not return an AWB for this shipment.")
  | some awb => do
    let courierName ← courierNameFor entry.courierFault updated.courierId
    return { report l.order "success" updated.shiprocketShipmentId (some l.shiprocketOrderId)
        none with
      awb := some awb
      courierName := courierName }

/-- The `try` statement of `process_shipment_for_order`, and what follows it. -/
def assignLocated (actor : Option UUID) (entry : ProcessEntry) (l : Located) : ShipProc BulkEntry :=
  (onOms (assignAttempt actor entry l.shipment.id)).thenElse (finishProcess entry l)
    (recoverProcess l)

/-- The `next` over the shipments of an order, and the id Shiprocket knows the shipment by. -/
def locatedShipment (st : ShipStore) (shipments : List Shipment) (shiprocketOrderId : String) :
    Option (Shipment × String) :=
  (shipments.find? fun s => st.shiprocketOrderId s.id == some shiprocketOrderId).bind fun s =>
    (pyOr s.shiprocketShipmentId none).map fun id => (s, id)

/-- `resolved.get(order.id)`, an empty id being as good as none. -/
def resolvedId (resolved : List (UUID × Option String)) (orderId : UUID) : Option String :=
  pyOr (resolved.lookup orderId).join none

/-- `process_shipment_for_order` for an order whose Shiprocket order id is known. -/
def processResolved (actor : Option UUID) (entry : ProcessEntry) (order : Order)
    (shiprocketOrderId : String) : ShipProc BulkEntry := do
  let existing ← listForOrder entry.shipmentsFault order.id
  let st ← Proc.store
  match locatedShipment st existing shiprocketOrderId with
  | none =>
    return report order "failed" none (some shiprocketOrderId)
      (some "Located Shiprocket order has no shipment id on file.")
  | some (shipment, shiprocketShipmentId) =>
    match pyOr shipment.awb none with
    | some awb => do
      let courierName ← courierNameFor entry.courierFault shipment.courierId
      return { report order "skipped" (some shiprocketShipmentId) (some shiprocketOrderId)
          (some "AWB already assigned.") with
        awb := some awb
        courierName := courierName }
    | none => assignLocated actor entry ⟨order, shiprocketOrderId, shipment, shiprocketShipmentId⟩

/-- `process_shipment_for_order`. -/
def processShipmentForOrder (actor : Option UUID) (entry : ProcessEntry) (order : Order) :
    ShipProc BulkEntry := do
  let resolved ← locateShiprocketOrders entry.locate [order.id]
  readOrder order.id
  match resolvedId resolved order.id with
  | none =>
    return report order "failed" none none
      (some "Existing Shiprocket order could not be located for this order.")
  | some shiprocketOrderId => processResolved actor entry order shiprocketOrderId

/-- `process_existing_shipment_for_order`: a turn of the list comprehension. -/
def processTurn (actor : Option UUID) (entry : ProcessEntry) : ShipProc BulkEntry := do
  let order ← selectById entry.lookupFault (.order entry.orderId)
    fun w => w.db.orders.getOrder entry.orderId
  match order with
  | none =>
    return { orderId := entry.orderId, status := "failed", reason := some "Order not found." }
  | some order => processShipmentForOrder actor entry order

end AyushOms.Shipments
