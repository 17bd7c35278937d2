import AyushOms.Shopify.Model

/-!
# The Shopify Fulfillment Service

`app.services.shopify_fulfillment_service.ShopifyFulfillmentService`: pushing a shipment to
Shopify, adding and removing the confirmation tags, the tags of a call and the shipping
address. Each method runs after its caller has committed and is meant to keep Shopify's
failures to itself: it catches what the adapter raises, but not what is raised outside its
`try` block.
-/

namespace AyushOms.Shopify

open AyushOms.Lib AyushOms.Orders AyushOms.Tracking AyushOms.Telecalling

/-! ## Section 1: Writes -/

namespace Oms

/-- `ShipmentRepository.update`; a unique column may refuse it. -/
def updateShipment (w : Oms) (shipmentId : UUID) (f : Shipment → Shipment) :
    Except PyException (Shipment × Oms) :=
  match w.db.shipments.update? (fun s => s.id == shipmentId) f with
  | none => .error .integrityError
  | some shipments =>
    match shipments.find? fun s => s.id == shipmentId with
    | none => .error (.oms (.notFound "Shipment not found."))
    | some shipment => .ok (shipment, { w with db := { w.db with shipments := shipments } })

/-- `OrderRepository.update` of columns that occupy no key. -/
def updateOrder (w : Oms) (orderId : UUID) (f : Table.KeyPreserving Order.keys) : Oms :=
  w.setOrders (w.db.orders.updateOrder orderId f)

end Oms

/-- `_MAX_ERROR_MESSAGE_LENGTH`. -/
def maxErrorMessageLength : ℕ := 2000

/-- `message[:_MAX_ERROR_MESSAGE_LENGTH]`. -/
def truncated (message : String) : String :=
  String.ofList (message.toList.take maxErrorMessageLength)

/-- The columns a failed push writes. -/
def markFailed (message : String) (s : Shipment) : Shipment :=
  { s with shopifySyncStatus := .failed, shopifySyncError := some (truncated message) }

/-- The columns a successful push writes; `fulfillmentId` is what the answer has under
`id`. -/
def markSynced (fulfillmentId : Option String) (now : Instant) (s : Shipment) :
    Shipment :=
  { s with
    shopifyFulfillmentId := fulfillmentId
    shopifySyncStatus := .synced
    shopifySyncError := none
    shopifySyncedAt := some now }

/-- The columns written when a retry finds nothing left to fulfill. -/
def markAlreadyFulfilled (now : Instant) (s : Shipment) : Shipment :=
  { s with
    shopifySyncStatus := .synced
    shopifySyncError := some ("Shopify reports no remaining open fulfillment orders for this " ++
      "order -- treating as already fulfilled (likely by an earlier attempt whose result the " ++
      "OMS failed to record).")
    shopifySyncedAt := some now }

def markNotApplicable (s : Shipment) : Shipment :=
  { s with shopifySyncStatus := .notApplicable }

/-! ## Section 2: The methods -/

/-- `_get_adapter`. -/
def getAdapter (registry : Registry) : OmsProc ShopifyAdapter :=
  match registry with
  | none => throw (.oms (.integration "No adapter registered for integration 'shopify'."))
  | some adapter => pure adapter

/-- `fulfillment["id"]`. -/
def fulfillmentId (fulfillment : Fulfillment) : OmsProc (Option String) :=
  match fulfillment.id with
  | none => throw (.keyError "id")
  | some id => pure id

/-- `shipments.get_by_id`, with the exception raised without the row. -/
def loadShipment (shipmentId : UUID) (missing : PyException) : OmsProc Shipment := do
  match ← getById (.shipment shipmentId) fun w => w.db.getShipment shipmentId with
  | none => throw missing
  | some shipment => pure shipment

/-- `orders.get_by_id`. -/
def findOrder (orderId : UUID) : OmsProc (Option Order) :=
  getById (.order orderId) fun w => w.db.orders.getOrder orderId

/-- `order is not None and order.shopify_order_id`. -/
def shopifyOrder (order : Option Order) : Option (Order × String) :=
  order.bind fun o => (pyOr o.shopifyOrderId none).map fun id => (o, id)

/-- `_record_failure`. -/
def recordFailure (shipmentId : UUID) (actor : Option UUID) (message : String) :
    OmsProc Shipment :=
  transaction actor fun w => w.updateShipment shipmentId (markFailed message)

/-- The name of the courier, when the shipment has one. -/
def courierName (courierId : Option UUID) : OmsProc (Option String) :=
  match courierId with
  | none => pure none
  | some id => do
    let courier ← getById (.courier id) fun w => w.getCourier id
    return courier.map (·.name)

/-- The `try` block of `sync_fulfillment_for_shipment` when Shopify has no open fulfillment
order: the tracking is attached to the fulfillment of the confirmation, or there is nothing
to push. -/
def pushNothingOpen (adapter : ShopifyAdapter) (now : Instant) (actor : Option UUID)
    (shipment : Shipment) (awb : String) (order : Order) (courier : Option String) :
    OmsProc (Shipment ⊕ Fulfillment) :=
  match pyOr order.shopifyConfirmationFulfillmentId none with
  | some confirmationId => do
    let fulfillment ← send (.updateTracking confirmationId awb courier)
      (adapter.updateFulfillmentTracking confirmationId awb courier)
    let id ← fulfillmentId fulfillment
    Sum.inl <$> transaction actor fun w =>
      w.updateShipment shipment.id (markSynced id now)
  | none =>
    Sum.inl <$> transaction none fun w =>
      w.updateShipment shipment.id (if shipment.shopifySyncStatus = .failed
        then markAlreadyFulfilled now else markNotApplicable)

/-- The `try` block of `sync_fulfillment_for_shipment`: it settles the shipment, or leaves a
created fulfillment to record. -/
def pushFulfillment (adapter : ShopifyAdapter) (now : Instant) (actor : Option UUID)
    (shipment : Shipment) (awb : String) (order : Order) (shopifyOrderId : String) :
    OmsProc (Shipment ⊕ Fulfillment) := do
  let fulfillmentOrderId ← send (.openFulfillmentOrder (orderGid shopifyOrderId))
    (adapter.getOpenFulfillmentOrderId (orderGid shopifyOrderId))
  let courier ← courierName shipment.courierId
  match fulfillmentOrderId with
  | none => pushNothingOpen adapter now actor shipment awb order courier
  | some fulfillmentOrderId =>
    Sum.inr <$> send (.createFulfillment fulfillmentOrderId awb courier)
      (adapter.createFulfillment fulfillmentOrderId awb courier)

/-- The `except` blocks of `sync_fulfillment_for_shipment`. -/
def recoverFulfillment (shipmentId : UUID) (actor : Option UUID) : PyException → OmsProc Shipment
  | .oms (.integration message) => recordFailure shipmentId actor message
  | e => do
    withSession RequestSession.rollback
    let _ ← loadShipment shipmentId (.other "AssertionError")
    recordFailure shipmentId actor ("Unexpected error syncing to Shopify: " ++ e.str)

/-- The statements after the `try` block. -/
def recordFulfillment (now : Instant) (shipmentId : UUID) (actor : Option UUID)
    (fulfillment : Fulfillment) : OmsProc Shipment := do
  let id ← fulfillmentId fulfillment
  transaction actor fun w => w.updateShipment shipmentId (markSynced id now)

/-- What follows the `try` statement: the shipment is returned, or the created fulfillment
recorded. -/
def finishPush (now : Instant) (shipmentId : UUID) (actor : Option UUID) :
    Shipment ⊕ Fulfillment → OmsProc Shipment
  | .inl shipment => pure shipment
  | .inr fulfillment => recordFulfillment now shipmentId actor fulfillment

/-- The `try` statement around the push, and what follows it. -/
def attemptPush (now : Instant) (shipmentId : UUID) (actor : Option UUID)
    (push : OmsProc (Shipment ⊕ Fulfillment)) : OmsProc Shipment := do
  let pushed ← tryCatch push fun e => Sum.inl <$> recoverFulfillment shipmentId actor e
  finishPush now shipmentId actor pushed

/-- `sync_fulfillment_for_shipment`. -/
def syncFulfillmentForShipment (registry : Registry) (now : Instant) (shipmentId : UUID)
    (actor : Option UUID) : OmsProc Shipment := do
  let shipment ← loadShipment shipmentId (.oms (.notFound "Shipment not found."))
  let order ← findOrder shipment.orderId
  match shopifyOrder order with
  | none =>
    if shipment.shopifySyncStatus ≠ .notApplicable then
      transaction none fun w => w.updateShipment shipmentId markNotApplicable
    else pure shipment
  | some (order, shopifyOrderId) =>
    -- already synced: Shopify is not called again
    if pyOr shipment.shopifyFulfillmentId none ≠ none then pure shipment
    else
      match pyOr shipment.awb none with
      | none => pure shipment
      | some awb => do
        let adapter ← getAdapter registry
        attemptPush now shipmentId actor
          (pushFulfillment adapter now actor shipment awb order shopifyOrderId)

/-- `_confirming_telecaller_name`. -/
def confirmingTelecallerName (order : Order) : OmsProc (Option String) :=
  match order.confirmedByTelecallerId with
  | none => pure none
  | some id => do
    let user ← getById (.user id) fun w => w.calls.getUser id
    return user.map (·.name)

/-- A request whose failure is only logged. The result says whether it succeeded. -/
def bestEffort (request : OmsProc Unit) : OmsProc Bool :=
  tryCatch (do request; return true) fun _ => pure false

/-- What `audit.record` and the commit after it leave: nothing the model keeps. -/
def auditOnly (actor : Option UUID) : OmsProc Unit := transaction actor fun w => .ok ((), w)

/-- `sync_confirmation_tag` and `reverse_confirmation_tag`, which differ in the request they
send. -/
def pushConfirmationTags
    (push : ShopifyAdapter → String → List String → ShopifyRequest × Except PyException Unit)
    (registry : Registry) (orderId : UUID) (actor : Option UUID) : OmsProc Unit := do
  let order ← findOrder orderId
  match shopifyOrder order with
  | none => pure ()
  | some (order, shopifyOrderId) => do
    let tags := confirmationTags (← confirmingTelecallerName order)
    let adapter ← getAdapter registry
    let pushed := push adapter (orderGid shopifyOrderId) tags
    if ← bestEffort (send pushed.1 pushed.2) then auditOnly actor else pure ()

/-- `sync_confirmation_tag`. -/
def syncConfirmationTag : Registry → UUID → Option UUID → OmsProc Unit :=
  pushConfirmationTags fun adapter gid tags => (.addTags gid tags, adapter.addOrderTags gid tags)

/-- `reverse_confirmation_tag`. -/
def reverseConfirmationTag : Registry → UUID → Option UUID → OmsProc Unit :=
  pushConfirmationTags fun adapter gid tags =>
    (.removeTags gid tags, adapter.removeOrderTags gid tags)

/-- `sync_call_tags`. -/
def syncCallTags [PyText] (registry : Registry) (orderId : UUID) (outcome : TelecallingStatus)
    (actor : Option UUID) : OmsProc Unit := do
  let order ← findOrder orderId
  match shopifyOrder order with
  | none => pure ()
  | some (order, shopifyOrderId) => do
    let (toAdd, toRemove) := callTags order outcome
    let adapter ← getAdapter registry
    let gid := orderGid shopifyOrderId
    let added ← bestEffort (send (.addTags gid toAdd) (adapter.addOrderTags gid toAdd))
    let removed ←
      bestEffort (send (.removeTags gid toRemove) (adapter.removeOrderTags gid toRemove))
    if added || removed then auditOnly actor else pure ()

/-- The columns a failed push of the address writes. -/
def markAddressFailed (message : String) : Table.KeyPreserving Order.keys where
  apply o := { o with
    shippingAddressSyncStatus := .failed
    shippingAddressSyncError := some (truncated message) }
  keeps _ := rfl

/-- The columns a successful push of the address writes. -/
def markAddressSynced (now : Instant) : Table.KeyPreserving Order.keys where
  apply o := { o with
    shippingAddressSyncStatus := .synced
    shippingAddressSyncError := none
    shippingAddressSyncedAt := some now }
  keeps _ := rfl

def markAddressNotApplicable : Table.KeyPreserving Order.keys where
  apply o := { o with shippingAddressSyncStatus := .notApplicable }
  keeps _ := rfl

/-- `_record_address_sync_failure`. -/
def recordAddressSyncFailure (orderId : UUID) (actor : Option UUID) (message : String) :
    OmsProc Unit :=
  transaction actor fun w =>
    .ok ((), w.updateOrder orderId (markAddressFailed message))

/-- The `except` blocks of `sync_shipping_address`. -/
def recoverAddress (orderId : UUID) (actor : Option UUID) : PyException → OmsProc Bool
  | .oms (.integration message) => do
    recordAddressSyncFailure orderId actor message
    return false
  | e => do
    withSession RequestSession.rollback
    match ← findOrder orderId with
    | none => throw (.other "AssertionError")
    | some _ => do
      recordAddressSyncFailure orderId actor ("Unexpected error syncing to Shopify: " ++ e.str)
      return false

/-- `sync_shipping_address`. -/
def syncShippingAddress (registry : Registry) (now : Instant) (orderId : UUID)
    (actor : Option UUID) : OmsProc Unit := do
  match ← findOrder orderId with
  | none => throw (.oms (.notFound "Order not found."))
  | some order =>
    match pyOr order.shopifyOrderId none with
    | none =>
      if order.shippingAddressSyncStatus ≠ .notApplicable then
        transaction none fun w => .ok ((), w.updateOrder orderId markAddressNotApplicable)
      else pure ()
    | some shopifyOrderId =>
      match order.shippingAddress with
      | none => pure ()
      | some address => do
        let adapter ← getAdapter registry
        let gid := orderGid shopifyOrderId
        let input := toShopifyAddressInput address
        let pushed ← tryCatch
          (do
            send (.updateAddress gid input) (adapter.updateOrderShippingAddress gid input)
            return true)
          (recoverAddress orderId actor)
        if pushed then
          transaction actor fun w => .ok ((), w.updateOrder orderId (markAddressSynced now))
        else pure ()

end AyushOms.Shopify
