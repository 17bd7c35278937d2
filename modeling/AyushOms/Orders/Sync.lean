import AyushOms.Orders.Model

/-!
# Synchronised Orders

`app.services.order_service.OrderService.upsert_synced_order`: the idempotent
create-or-update of an order from a store's normalized record. The store owns every
financial column; the operational status is set on creation only, except for a
cancellation. A delivery strictly older than what is stored is dropped.
-/

namespace AyushOms.Orders

open AyushOms.Lib AyushOms.Inventory

/-- One normalized line item. -/
structure SyncedItem where
  externalId : String
  shopifyVariantId : Option String := none
  sku : String
  productName : String := ""
  quantity : Int
  deriving DecidableEq, Repr

/-- A sync adapter's normalized order. -/
structure SyncedOrder where
  sourceSystem : SourceSystem := .shopify
  externalId : String
  orderNumber : String
  customerExternalId : Option String := none
  isCancelled : Bool := false
  externalUpdatedAt : Option Instant := none
  orderDatetime : Option Instant := none
  currency : String := "INR"
  subtotal : ℚ := 0
  discountAmount : ℚ := 0
  taxAmount : ℚ := 0
  shippingCharge : ℚ := 0
  totalAmount : ℚ
  paymentType : PaymentType := .prepaid
  paymentStatus : PaymentStatus
  fulfillmentStatus : FulfillmentStatus := .unfulfilled
  shopifyTags : List String := []
  shopifyOrderNote : Option String := none
  shopifyShipmentStatus : Option String := none
  shippingAddress : Option ShippingAddress := none
  billingAddress : Option ShippingAddress := none
  items : List SyncedItem := []
  deriving DecidableEq

namespace SyncedOrder

/-- The customer the record names, when it is known. -/
def customerId (data : SyncedOrder) (db : OrdersDB) : Option UUID :=
  match pyOr data.customerExternalId none with
  | none => none
  | some external =>
    (db.customers.find? fun c =>
      c.sourceSystem == some data.sourceSystem && c.externalId == some external).map (·.id)

/-- The row a first delivery creates. -/
def newOrder (data : SyncedOrder) (db : OrdersDB) : Order where
  id := db.newOrderId
  orderNumber := data.orderNumber
  sourceSystem := some data.sourceSystem
  externalId := some data.externalId
  externalUpdatedAt := data.externalUpdatedAt
  shopifyOrderId := some data.externalId
  customerId := data.customerId db
  orderDatetime := data.orderDatetime
  currency := data.currency
  subtotal := data.subtotal
  discountAmount := data.discountAmount
  taxAmount := data.taxAmount
  shippingCharge := data.shippingCharge
  totalAmount := data.totalAmount
  paymentType := data.paymentType
  paymentStatus := data.paymentStatus
  fulfillmentStatus := data.fulfillmentStatus
  shopifyTags := some data.shopifyTags
  shopifyOrderNote := data.shopifyOrderNote
  shopifyShipmentStatus := data.shopifyShipmentStatus
  shippingAddress := data.shippingAddress
  billingAddress := data.billingAddress
  status :=
    if data.isCancelled then .cancelled
    else if data.paymentStatus = .paid then .confirmed
    else .pending

/-- The columns a later delivery writes: everything the store owns, and the cancellation
when the operational status allows it. -/
def write (data : SyncedOrder) (db : OrdersDB) (o : Order) : Order :=
  { o with
    orderNumber := data.orderNumber
    externalUpdatedAt := data.externalUpdatedAt
    shopifyOrderId := some data.externalId
    customerId := (data.customerId db).or o.customerId
    orderDatetime := data.orderDatetime
    currency := data.currency
    subtotal := data.subtotal
    discountAmount := data.discountAmount
    taxAmount := data.taxAmount
    shippingCharge := data.shippingCharge
    totalAmount := data.totalAmount
    paymentType := data.paymentType
    paymentStatus := data.paymentStatus
    fulfillmentStatus := data.fulfillmentStatus
    shopifyTags := some data.shopifyTags
    shopifyOrderNote := data.shopifyOrderNote
    shopifyShipmentStatus := data.shopifyShipmentStatus
    shippingAddress := data.shippingAddress
    billingAddress := data.billingAddress
    status :=
      if data.isCancelled = true ∧ o.status ≠ .cancelled ∧
          .cancelled ∈ orderStatusTransitions o.status then .cancelled
      else o.status }

/-- The delivery is proven older than the stored row. -/
def isStale (data : SyncedOrder) (existing : Order) : Bool :=
  match data.externalUpdatedAt, existing.externalUpdatedAt with
  | some incoming, some stored => incoming < stored
  | _, _ => false

/-- `order_items.upsert_by_external_id` for one line. -/
def upsertItem (source : SourceSystem) (orderId : UUID) (stock : Stock) (item : SyncedItem) :
    Stock :=
  let variantId :=
    match pyOr item.shopifyVariantId none with
    | none => none
    | some external =>
      (stock.variants.find? fun v =>
        v.sourceSystem == some source && v.externalId == some external).map (·.id)
  let isItem (row : OrderItem) : Bool :=
    row.sourceSystem == some source && row.externalId == some item.externalId
  let write (row : OrderItem) : OrderItem :=
    { row with
      orderId := orderId
      productVariantId := variantId
      sku := item.sku
      productName := item.productName
      quantity := item.quantity }
  match stock.orderItems.find? isItem with
  | some _ => { stock with orderItems := stock.orderItems.modify isItem ⟨write, fun _ => rfl⟩ }
  | none =>
    let row := write {
      orderId := orderId, productVariantId := none, sku := item.sku, quantity := item.quantity
      sourceSystem := some source, externalId := some item.externalId }
    -- the lookup found no row with this key, so the insertion is not refused
    { stock with orderItems := (stock.orderItems.insert? row).getD stock.orderItems }

/-- The store's own payment record of the order. -/
def paymentFields (data : SyncedOrder) (orderId : UUID) : OrdersDB.PaymentFields where
  orderId := orderId
  paymentType := data.paymentType
  status := data.paymentStatus
  amount := data.totalAmount
  currency := data.currency
  provider := "shopify"
  externalTransactionId := some data.externalId

/-- The writes that follow the order's own: lines, payment, timeline. -/
def writeDependents (data : SyncedOrder) (db : OrdersDB) (order : Order)
    (horder : order ∈ db.orders.rows) (created : Bool) : OrdersDB :=
  let itemed :=
    { db with stock := data.items.foldl (upsertItem data.sourceSystem order.id) db.stock }
  let paid := (itemed.upsertPayment data.sourceSystem data.externalId
    (data.paymentFields order.id) ⟨order, horder, rfl⟩).2.2
  paid.addOrderEvent {
    orderId := order.id
    eventType := if created then "order_created" else "order_synced"
    status := some order.status.value
    source := "shopify" }

end SyncedOrder

/-- `upsert_synced_order`: whether the order was created, and the committed state; `none`
when a unique constraint makes the write fail and nothing is committed. -/
def upsertSyncedOrder (db : OrdersDB) (data : SyncedOrder) : Option (Bool × OrdersDB) :=
  match db.getOrderByExternalId data.sourceSystem data.externalId with
  | some existing =>
    -- an out-of-order delivery is dropped without a write
    if data.isStale existing then some (false, db)
    else
      match db.updateOrder? existing.id (data.write db) fun _ => rfl with
      | none => none
      | some written =>
        match hget : written.getOrder existing.id with
        | none => none
        | some order =>
          some (false, data.writeDependents written order (OrdersDB.getOrder_eq_some.mp hget).1
            false)
  | none =>
    match db.insertOrder? (data.newOrder db) with
    | none => none
    | some written =>
      match hget : written.getOrder (data.newOrder db).id with
      | none => none
      | some order =>
        some (true, data.writeDependents written order (OrdersDB.getOrder_eq_some.mp hget).1
          true)

/-! ## What the upsert does to orders and payments -/

namespace SyncedOrder

/-- The dependents' writes leave the orders alone and touch one payment: the store's own
record, written for the order with the delivered status. -/
theorem writeDependents_frame (data : SyncedOrder) {db : OrdersDB} {order : Order}
    (horder : order ∈ db.orders.rows) (created : Bool) :
    (data.writeDependents db order horder created).orders = db.orders ∧
      ∀ p ∈ (data.writeDependents db order horder created).payments.rows,
        p ∈ db.payments.rows ∨ p.orderId = order.id ∧ p.status = data.paymentStatus := by
  let itemed : OrdersDB :=
    { db with stock := data.items.foldl (upsertItem data.sourceSystem order.id) db.stock }
  have hexists : ∃ o ∈ itemed.orders.rows, o.id = (data.paymentFields order.id).orderId :=
    ⟨order, horder, rfl⟩
  have hspec := OrdersDB.upsertPayment_spec itemed data.sourceSystem data.externalId
    (data.paymentFields order.id) hexists
  refine ⟨hspec.1, fun p hp => ?_⟩
  have hp' : p ∈ (itemed.upsertPayment data.sourceSystem data.externalId
      (data.paymentFields order.id) hexists).2.2.payments.rows := hp
  exact OrdersDB.mem_upsertPayment hp'

/-- What a delivery that commits can do: nothing when it is stale; else write the stored
order, or create one, and then the order's dependents. -/
theorem upsertSyncedOrder_cases {data : SyncedOrder} {db db' : OrdersDB} {created : Bool}
    (h : upsertSyncedOrder db data = some (created, db')) :
    db' = db ∨
    (∃ existing, db.getOrderByExternalId data.sourceSystem data.externalId = some existing ∧
      data.isStale existing = false ∧
      (db'.orders.rows = db.orders.rows.map fun o =>
        if o.id == existing.id then data.write db o else o) ∧
      ∀ p ∈ db'.payments.rows,
        p ∈ db.payments.rows ∨ p.orderId = existing.id ∧ p.status = data.paymentStatus) ∨
    (db.getOrderByExternalId data.sourceSystem data.externalId = none ∧
      db'.orders.rows = db.orders.rows ++ [data.newOrder db] ∧
      ∀ p ∈ db'.payments.rows, p ∈ db.payments.rows ∨
        p.orderId = (data.newOrder db).id ∧ p.status = data.paymentStatus) := by
  -- the order is stored already (stale, or written), or it is created
  unfold upsertSyncedOrder at h
  split at h
  · rename_i existing hfind
    split at h
    · cases h
      exact .inl rfl
    · rename_i hstale
      split at h
      · cases h
      · rename_i written hupd
        obtain ⟨hpayments, hrows⟩ := OrdersDB.updateOrder?_eq_some hupd
        split at h
        · cases h
        · rename_i order hget
          obtain ⟨hmem, hid⟩ := OrdersDB.getOrder_eq_some.mp hget
          simp only [Option.some.injEq, Prod.mk.injEq] at h
          obtain ⟨-, rfl⟩ := h
          obtain ⟨horders, hdependents⟩ := writeDependents_frame data hmem false
          -- the written row keeps its id, so the dependents belong to the stored order
          refine .inr (.inl ⟨existing, by assumption, by simpa using hstale, ?_, ?_⟩)
          · rw [horders, hrows]
          · rw [hpayments, hid] at hdependents
            exact hdependents
  · rename_i hfind
    split at h
    · cases h
    · rename_i written hins
      obtain ⟨hpayments, hrows⟩ := OrdersDB.insertOrder?_eq_some hins
      split at h
      · cases h
      · rename_i order hget
        obtain ⟨hmem, hid⟩ := OrdersDB.getOrder_eq_some.mp hget
        simp only [Option.some.injEq, Prod.mk.injEq] at h
        obtain ⟨-, rfl⟩ := h
        obtain ⟨horders, hdependents⟩ := writeDependents_frame data hmem true
        -- the dependents belong to the new order
        refine .inr (.inr ⟨hfind, ?_, ?_⟩)
        · rw [horders, hrows]
        · rw [hpayments, hid] at hdependents
          exact hdependents

end SyncedOrder

end AyushOms.Orders
