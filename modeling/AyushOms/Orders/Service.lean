import AyushOms.Orders.Returns
import AyushOms.Payments.Service
import AyushOms.Shopify.FulfillmentService
import AyushOms.Tracking.CreateShipment
import Mathlib.Algebra.Ring.Rat

/-!
# The Order Service

`app.services.order_service.OrderService`: creating an order, the status transitions,
confirming and unconfirming, and the shipping address. Every transaction is a function of the
database; a method is a procedure that runs some transactions, one after another, with calls
to Shopify and Shiprocket between them.
-/

namespace AyushOms.Orders

open AyushOms.Lib AyushOms.Inventory AyushOms.Tracking AyushOms.Shopify

/-! ## Section 1: Creating an order -/

/-- `OrderItemCreateRequest`. -/
structure NewOrderItem where
  productVariantId : Option UUID := none
  sku : String
  productName : String
  quantity : ℤ
  unitPrice : ℚ
  discountAmount : ℚ := 0
  taxAmount : ℚ := 0
  deriving DecidableEq

/-- The arguments of `create_order`. -/
structure NewOrder where
  orderNumber : String
  customerId : Option UUID := none
  orderDatetime : Option Instant := none
  currency : String := "INR"
  paymentType : PaymentType := .prepaid
  shippingCharge : ℚ := 0
  items : List NewOrderItem
  deriving DecidableEq

namespace NewOrder

def subtotal (r : NewOrder) : ℚ :=
  (r.items.map fun item => item.unitPrice * (item.quantity : ℚ)).sum

def discountAmount (r : NewOrder) : ℚ := (r.items.map (·.discountAmount)).sum

def taxAmount (r : NewOrder) : ℚ := (r.items.map (·.taxAmount)).sum

def totalAmount (r : NewOrder) : ℚ :=
  r.subtotal - r.discountAmount + r.taxAmount + r.shippingCharge

/-- The order's row. -/
def row (r : NewOrder) (db : OrdersDB) (now : Instant) : Order where
  id := db.newOrderId
  orderNumber := r.orderNumber
  sourceSystem := some .manual
  customerId := r.customerId
  orderDatetime := some (r.orderDatetime.getD now)
  currency := r.currency
  subtotal := r.subtotal
  discountAmount := r.discountAmount
  taxAmount := r.taxAmount
  shippingCharge := r.shippingCharge
  totalAmount := r.totalAmount
  paymentType := r.paymentType
  paymentStatus := .pending
  status := .pending

/-- The order's payment; it has no external id. -/
def payment (r : NewOrder) (db : OrdersDB) : Payment where
  id := db.newPaymentId
  sourceSystem := some .manual
  orderId := db.newOrderId
  paymentType := r.paymentType
  status := .pending
  amount := r.totalAmount
  currency := r.currency

/-- The rows the foreign keys of the order and its lines name exist. -/
def referencesExist (r : NewOrder) (db : OrdersDB) : Bool :=
  (r.customerId.all fun id => db.customers.rows.any fun c => c.id == id) &&
    r.items.all fun item => item.productVariantId.all fun id => (db.stock.getById id).isSome

/-- `order_items.create` for one line; without an external id it is never refused. -/
def addItem (orderId : UUID) (stock : Stock) (item : NewOrderItem) : Stock :=
  { stock with
    orderItems := (stock.orderItems.insert? {
      orderId := orderId
      productVariantId := item.productVariantId
      sku := item.sku
      productName := item.productName
      quantity := item.quantity }).getD stock.orderItems }

end NewOrder

namespace OrdersDB

/-- The writes of `create_order` after the order's own row. -/
def createOrderRows (db written : OrdersDB) (r : NewOrder) (now : Instant)
    (hins : db.insertOrder? (r.row db now) = some written) : OrdersDB :=
  { written with
    stock := r.items.foldl (NewOrder.addItem db.newOrderId) written.stock
    payments := db.payments.insertFresh (r.payment db) (by simp [NewOrder.payment, Payment.keys,
      externalKey]) (by
        intro k hk p hp hkp
        have hid : k = .id db.newPaymentId := by
          simpa [NewOrder.payment, Payment.keys, externalKey] using hk
        have hnew : db.newPaymentId = p.id := by
          simpa [hid, Payment.keys] using hkp
        exact (lt_newPaymentId hp).ne hnew.symm)
    orderEvents := db.orderEvents ++ [{
      orderId := db.newOrderId
      eventType := "order_created"
      status := some OrderStatus.pending.value }]
    payment_order := by
      obtain ⟨-, hrows⟩ := insertOrder?_eq_some hins
      intro p hp
      rw [Table.rows_insertFresh, List.mem_append, List.mem_singleton] at hp
      rw [hrows]
      -- an older payment keeps its order, the new one has the new order
      rcases hp with hp | rfl
      · obtain ⟨o, ho, hid⟩ := db.payment_order p hp
        exact ⟨o, List.mem_append_left _ ho, hid⟩
      · exact ⟨r.row db now, List.mem_append_right _ (List.mem_singleton_self _), rfl⟩ }

/-- `create_order`. -/
def createOrder (db : OrdersDB) (r : NewOrder) (now : Instant) :
    Except PyException (UUID × OrdersDB) :=
  if (db.getOrderByNumber r.orderNumber).isSome then
    .error (.oms (.conflict ("Order number '" ++ r.orderNumber ++ "' already exists.")))
  else if r.referencesExist db = false then .error .integrityError
  else
    match hins : db.insertOrder? (r.row db now) with
    | none => .error .integrityError
    | some written => .ok (db.newOrderId, db.createOrderRows written r now hins)

/-! ## Section 2: Status transitions -/

/-- The status column. -/
def setStatus (status : OrderStatus) : Table.KeyPreserving Order.keys where
  apply o := { o with status := status }
  keeps _ := rfl

/-- The transaction of `transition_status`. -/
def transitionStatus (db : OrdersDB) (orderId : UUID) (newStatus : OrderStatus) :
    Except OMSError OrdersDB :=
  match db.getOrder orderId with
  | none => .error (.notFound "Order not found.")
  | some order =>
    if newStatus ∈ orderStatusTransitions order.status then
      .ok ((db.updateOrder orderId (setStatus newStatus)).addOrderEvent {
        orderId := orderId
        eventType := "status_changed"
        status := some newStatus.value })
    else
      .error (.conflict ("Cannot transition order from '" ++ order.status.value ++ "' to '" ++
        newStatus.value ++ "'."))

/-- The attribution `confirm_order` writes. -/
def setAttribution (telecallerId : UUID) (now : Instant) : Table.KeyPreserving Order.keys where
  apply o := { o with confirmedByTelecallerId := some telecallerId, confirmedAt := some now }
  keeps _ := rfl

/-- The attribution `unconfirm_order` clears. -/
def clearAttribution : Table.KeyPreserving Order.keys where
  apply o := { o with confirmedByTelecallerId := none, confirmedAt := none }
  keeps _ := rfl

def setShippingAddress (address : ShippingAddress) : Table.KeyPreserving Order.keys where
  apply o := { o with shippingAddress := some address }
  keeps _ := rfl

/-- Any order is read as before, but for the written columns of one. -/
theorem getOrder_updateOrder_eq_map (db : OrdersDB) (orderId orderId' : UUID)
    (f : Table.KeyPreserving Order.keys) :
    (db.updateOrder orderId f).getOrder orderId' =
      (db.getOrder orderId').map fun o => if o.id == orderId then f o else o :=
  Table.find?_modify db.orders fun o => by rw [Order.id_eq_of_keys_eq (f.keeps o)]

/-- The written row is found again. -/
theorem getOrder_updateOrder {db : OrdersDB} {orderId : UUID} {o : Order}
    (h : db.getOrder orderId = some o) (f : Table.KeyPreserving Order.keys) :
    (db.updateOrder orderId f).getOrder orderId = some (f o) := by
  obtain ⟨-, hid⟩ := getOrder_eq_some.mp h
  rw [getOrder_updateOrder_eq_map, h]
  simp [hid]

/-- Another order is read as before. -/
theorem getOrder_updateOrder_of_ne (db : OrdersDB) {orderId orderId' : UUID}
    (h : orderId' ≠ orderId)
    (f : Table.KeyPreserving Order.keys) :
    (db.updateOrder orderId f).getOrder orderId' = db.getOrder orderId' := by
  rw [getOrder_updateOrder_eq_map]
  cases hfind : db.getOrder orderId' with
  | none => rfl
  | some o =>
    obtain ⟨-, rfl⟩ := getOrder_eq_some.mp hfind
    simp [h]

/-- A column that is not written is read as before. -/
theorem map_getOrder_updateOrder {α : Type} (db : OrdersDB) (orderId orderId' : UUID)
    {f : Table.KeyPreserving Order.keys} {column : Order → α} (h : ∀ o, column (f o) = column o) :
    ((db.updateOrder orderId f).getOrder orderId').map column =
      (db.getOrder orderId').map column := by
  rw [getOrder_updateOrder_eq_map, Option.map_map]
  refine Option.map_congr fun o _ => ?_
  change column (if o.id == orderId then f o else o) = column o
  split
  · exact h o
  · rfl

end OrdersDB

/-- `_SHIPMENT_PROGRESS_BLOCK_MESSAGES`. -/
def shipmentProgressBlockMessage : ShipmentStatus → Option String
  | .pickedUp => some "Cannot revert this order because the shipment has already been picked up."
  | .inTransit => some "Cannot revert this order because the shipment is already in transit."
  | .outForDelivery =>
    some "Cannot revert this order because the shipment is already out for delivery."
  | .delivered => some "Cannot revert this order because the shipment has already been delivered."
  | .ndr =>
    some ("Cannot revert this order because the shipment has an active delivery " ++
      "exception (NDR).")
  | .rtoInitiated | .rtoDelivered =>
    some "Cannot revert this order because the shipment is already in an RTO (return) flow."
  | .pending | .cancelled => none

/-- What one shipment has to say against an unconfirm. -/
def shipmentBlocks (s : Shipment) : Option String :=
  match shipmentProgressBlockMessage s.currentStatus with
  | some message => some message
  | none =>
    if s.shopifySyncStatus = .synced then
      some ("Cannot revert this order because a Shopify fulfillment has already " ++
        "been created for its shipment and cannot be safely cancelled.")
    else none

/-- The guards of `unconfirm_order`, checked before anything is written or sent. -/
def unconfirmGuard (w : Oms) (orderId : UUID) : Except OMSError (List Shipment) :=
  match w.db.orders.getOrder orderId with
  | none => .error (.notFound "Order not found.")
  | some order =>
    if order.fulfillmentStatus = .fulfilled ∧
        pyOr order.shopifyConfirmationFulfillmentId none = none then
      .error (.conflict
        "Cannot revert this order because Shopify already shows it as fulfilled.")
    else
      let shipments := w.db.shipmentsForOrder orderId
      match shipments.findSome? shipmentBlocks with
      | some message => .error (.conflict message)
      | none => .ok shipments

/-! ## Section 3: The methods -/

/-- The services outside the OMS as they behave during a call. -/
structure External where
  shopify : Registry := none
  /-- The answer to a cancellation of a Shiprocket shipment, when an adapter is registered. -/
  shiprocket : Option (String → Except PyException Unit) := none

namespace OrderService

/-- A transaction on the orders that raises domain errors. -/
def ordersTransaction (actor : Option UUID) (write : OrdersDB → Except OMSError OrdersDB) :
    OmsProc PUnit :=
  transaction actor fun w =>
    match write w.db.orders with
    | .error e => .error (.oms e)
    | .ok orders => .ok (PUnit.unit, w.setOrders orders)

/-- `create_order`. -/
def createOrder (r : NewOrder) (now : Instant) (actor : Option UUID) : OmsProc Order := do
  let orderId ← transaction actor fun w =>
    match w.db.orders.createOrder r now with
    | .error e => .error e
    | .ok (orderId, orders) => .ok (orderId, w.setOrders orders)
  getOrder orderId

/-- `transition_status`. -/
def transitionStatus (orderId : UUID) (newStatus : OrderStatus) (actor : Option UUID) :
    OmsProc Order := do
  let _ ← getOrder orderId
  ordersTransaction actor fun db => db.transitionStatus orderId newStatus
  getOrder orderId

/-- `confirm_order`. -/
def confirmOrder (env : External) (orderId actor : UUID) (now : Instant) : OmsProc Order := do
  let _ ← transitionStatus orderId .confirmed (some actor)
  ordersTransaction (some actor) fun db =>
    .ok (db.updateOrder orderId (OrdersDB.setAttribution actor now))
  syncConfirmationTag env.shopify orderId (some actor)
  getOrder orderId

/-- `cancel_shipment` of the Shiprocket service. -/
def cancelShipment (env : External) (shipment : Shipment) (shiprocketShipmentId : String)
    (actor : UUID) : OmsProc PUnit :=
  match env.shiprocket with
  | none => throw (.oms (.integration "No adapter registered for integration 'shiprocket'."))
  | some cancel =>
    match cancel shiprocketShipmentId with
    | .error e => throw e
    | .ok () => transaction (some actor) fun w =>
      .ok (PUnit.unit, { w with db := w.db.updateStatus shipment.id (some .cancelled) })

/-- The cancellation of one shipment of an order that is unconfirmed. -/
def cancelForUnconfirm (env : External) (actor : UUID) (shipment : Shipment) : OmsProc PUnit :=
  if shipment.currentStatus ≠ .pending then pure PUnit.unit
  else
    match pyOr shipment.shiprocketShipmentId none with
    | some id =>
      tryCatch (cancelShipment env shipment id actor) fun e =>
        match e with
        | .oms (.integration _) => throw (.oms (.conflict
            "Shiprocket cancellation failed. The order was not reverted."))
        | e => throw e
    | none => transaction (some actor) fun w =>
      .ok (PUnit.unit, { w with db := w.db.updateStatus shipment.id (some .cancelled) })

/-- `unconfirm_order` up to its last two commits. -/
def prepareUnconfirm (env : External) (orderId actor : UUID) : OmsProc PUnit := do
  let w ← Proc.store
  withSession fun k => k.load (.order orderId)
  match unconfirmGuard w orderId with
  | .error e => throw (.oms e)
  | .ok shipments => do
    reverseConfirmationTag env.shopify orderId (some actor)
    shipments.forM (cancelForUnconfirm env actor)

/-- `unconfirm_order`: the status first, the attribution in a commit of its own. -/
def unconfirmOrder (env : External) (orderId actor : UUID) : OmsProc Order := do
  prepareUnconfirm env orderId actor
  let _ ← transitionStatus orderId .pending (some actor)
  ordersTransaction none fun db => .ok (db.updateOrder orderId OrdersDB.clearAttribution)
  getOrder orderId

/-- `update_shipping_address`. The validation of the new address writes columns of its own
and commits, or does nothing; either way no transaction is left in progress. -/
def updateShippingAddress (env : External) (orderId actor : UUID) (address : ShippingAddress)
    (now : Instant) : OmsProc Order := do
  let _ ← getOrder orderId
  ordersTransaction (some actor) fun db =>
    .ok ((db.updateOrder orderId (OrdersDB.setShippingAddress address)).addOrderEvent {
      orderId := orderId
      eventType := "address_updated"
      status := none
      source := "user" })
  syncShippingAddress env.shopify now orderId (some actor)
  getOrder orderId

/-- `update_item_variant`. -/
def updateItemVariant (orderId itemId newVariantId actor : UUID) : OmsProc Order := do
  withSession RequestSession.execute
  let productOf := (← Proc.store).productOf
  ordersTransaction (some actor) fun db =>
    Orders.updateItemVariant productOf db orderId itemId newVariantId
  getOrder orderId

/-- `upsert_synced_order`. -/
def upsertSyncedOrder (data : SyncedOrder) : OmsProc Bool :=
  transaction none fun w =>
    match Orders.upsertSyncedOrder w.db.orders data with
    | none => .error .integrityError
    | some (created, orders) => .ok (created, w.setOrders orders)

/-- `CashfreePaymentService.apply_payment_event`. -/
def applyPaymentEvent [PyText] (e : Payments.PaymentEvent) :
    OmsProc Payments.PaymentEventResult := fun k w =>
  ((Payments.applyPaymentEvent w.db.orders e).lift w.setOrders).andThen w fun _ result =>
    .done (.ok result, k.commit)

end OrderService

end AyushOms.Orders
