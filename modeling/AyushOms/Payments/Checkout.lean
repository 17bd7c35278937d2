import AyushOms.Orders.Sync
import AyushOms.Payments.Progress

/-!
# Checkouts

`create_or_reuse_checkout`, and the runs that mix it with payment events and order
resyncs. The guard against a second payment reads `Order.payment_status`, a column the
resync overwrites with what the store reports; so a second checkout is refused as long as
every resync that overwrites the column of an order with a paid Cashfree payment reports
the order paid.

## Main results

- `paidConsistent_step`: what one operation preserves under that condition
- `no_second_checkout`: whole runs
- `resync_reopens_checkout`: a run in which the customer is offered a second payment
-/

namespace AyushOms.Payments

open AyushOms.Lib AyushOms.Orders AyushOms.Orders.OrdersDB

/-! ## Section 1: Creating or reusing a checkout -/

/-- The create-order request, the parts the OMS derives from the order. -/
structure CheckoutRequest where
  cashfreeOrderId : String
  orderAmount : ℚ
  orderCurrency : String
  customerPhone : String
  deriving DecidableEq

/-- What Cashfree answers to a create-order request. -/
structure CheckoutResponse where
  cfOrderId : Option String := none
  paymentSessionId : Option String := none
  orderStatus : Option String := none
  deriving DecidableEq

/-- A call of `create_or_reuse_checkout`: the request sent to Cashfree, if any, what the
call returns or raises, and the database it leaves. -/
structure CheckoutCall where
  request : Option CheckoutRequest
  outcome : Except OMSError (Payment × Bool)
  db : OrdersDB

/-- The customer's phone: the shipping contact's, else the customer's own. -/
def customerPhone (db : OrdersDB) (order : Order) : Option String :=
  pyOr (order.shippingAddress.bind (·.contactPhone))
    (pyOr (order.customerId.bind fun id =>
      (db.customers.find? fun c => c.id == id).bind (·.phone)) none)

/-- The columns of a checkout's payment. -/
def checkoutFields (order : Order) (cashfreeOrderId : String) (response : CheckoutResponse) :
    PaymentFields where
  orderId := order.id
  paymentType := order.paymentType
  status := .pending
  amount := order.totalAmount
  currency := order.currency
  provider := "cashfree"
  paymentMetadata := some {
    cashfreeOrderId := some cashfreeOrderId
    cfOrderId := response.cfOrderId
    paymentSessionId := response.paymentSessionId
    orderStatus := response.orderStatus }

/-- A checkout that is still open: pending, with a session. -/
def isOpenCheckout (p : Payment) : Bool :=
  p.status == .pending && ((p.paymentMetadata.bind (·.paymentSessionId)).bind
    fun session => pyOr (some session) none).isSome

/-- A fresh attempt gets an order id of its own once the order has attempts. -/
def nextCashfreeOrderId (db : OrdersDB) (order : Order) : String :=
  let attempts := cashfreeAttempts db order.id
  buildCashfreeOrderId order.orderNumber
    (if attempts.isEmpty then none else some (String.ofList (Nat.toDigits 10 attempts.length)))

/-- The second half of `create_or_reuse_checkout`: configuration and phone, the request to
Cashfree, the payment row. -/
def openCheckout (db : OrdersDB) (order : Order) (horder : order ∈ db.orders.rows)
    (configured : Bool) (gateway : CheckoutRequest → Except OMSError CheckoutResponse) :
    CheckoutCall :=
  if configured = false then
    ⟨none, .error (.integration ("Cashfree integration is not configured " ++
      "(missing CASHFREE_CLIENT_ID/CASHFREE_CLIENT_SECRET).")), db⟩
  else
    match customerPhone db order with
    | none =>
      ⟨none, .error (.validation ("Order has no customer phone number on file — Cashfree " ++
        "requires customer_details.customer_phone to create a checkout session.")), db⟩
    | some phone =>
      let cashfreeOrderId := nextCashfreeOrderId db order
      let request : CheckoutRequest :=
        ⟨cashfreeOrderId, order.totalAmount, order.currency, phone⟩
      match gateway request with
      -- Cashfree refused: the request was sent, nothing is written
      | .error e => ⟨some request, .error e, db⟩
      | .ok response =>
        let written := db.upsertPayment .cashfree cashfreeOrderId
          (checkoutFields order cashfreeOrderId response) ⟨order, horder, rfl⟩
        ⟨some request, .ok (written.1, written.2.1), written.2.2⟩

/-- `create_or_reuse_checkout`. `configured` says whether the credentials are set, and
`gateway` answers a create-order request. -/
def createOrReuseCheckout (db : OrdersDB) (orderId : UUID) (configured : Bool)
    (gateway : CheckoutRequest → Except OMSError CheckoutResponse) : CheckoutCall :=
  match horder : db.getOrder orderId with
  | none => ⟨none, .error (.notFound "Order not found."), db⟩
  | some order =>
    if order.paymentStatus = .paid then
      ⟨none, .error (.conflict "Order is already paid."), db⟩
    else if order.status = .cancelled then
      ⟨none, .error (.conflict "Cannot collect payment on a cancelled order."), db⟩
    else
      -- an open session is handed out again instead of a second one
      match (cashfreeAttempts db orderId).getLast?.filter isOpenCheckout with
      | some latest => ⟨none, .ok (latest, false), db⟩
      | none => openCheckout db order (getOrder_eq_some.mp horder).1 configured gateway

/-- A fresh checkout sends no request and changes nothing, or sends one and writes at most
a pending payment. -/
theorem openCheckout_cases (db : OrdersDB) (order : Order) (horder : order ∈ db.orders.rows)
    (configured : Bool) (gateway : CheckoutRequest → Except OMSError CheckoutResponse) :
    ((openCheckout db order horder configured gateway).request = none ∧
      (openCheckout db order horder configured gateway).db = db) ∨
    ((openCheckout db order horder configured gateway).db.orders = db.orders ∧
      ∀ p ∈ (openCheckout db order horder configured gateway).db.payments.rows,
        p ∈ db.payments.rows ∨ p.status = .pending) := by
  unfold openCheckout
  split
  · exact .inl ⟨rfl, rfl⟩
  · cases customerPhone db order with
    | none => exact .inl ⟨rfl, rfl⟩
    | some phone =>
      dsimp only
      split
      · exact .inr ⟨rfl, fun p hp => .inl hp⟩
      · exact .inr ⟨(upsertPayment_spec db .cashfree _ _ _).1,
          fun p hp => (mem_upsertPayment hp).imp_right (·.2)⟩

/-- What a call can do: send no request and change nothing, or, for an order that is not
paid, leave the orders alone and write at most a pending payment. -/
theorem createOrReuseCheckout_cases (db : OrdersDB) (orderId : UUID) (configured : Bool)
    (gateway : CheckoutRequest → Except OMSError CheckoutResponse) :
    ((createOrReuseCheckout db orderId configured gateway).request = none ∧
      (createOrReuseCheckout db orderId configured gateway).db = db) ∨
    ((∃ order ∈ db.orders.rows, order.id = orderId ∧ order.paymentStatus ≠ .paid) ∧
      (createOrReuseCheckout db orderId configured gateway).db.orders = db.orders ∧
      ∀ p ∈ (createOrReuseCheckout db orderId configured gateway).db.payments.rows,
        p ∈ db.payments.rows ∨ p.status = .pending) := by
  unfold createOrReuseCheckout
  split
  · exact .inl ⟨rfl, rfl⟩
  · rename_i order horder
    obtain ⟨hmem, hid⟩ := getOrder_eq_some.mp horder
    split
    · exact .inl ⟨rfl, rfl⟩
    · rename_i hunpaid
      split
      · exact .inl ⟨rfl, rfl⟩
      · split
        · exact .inl ⟨rfl, rfl⟩
        · rcases openCheckout_cases db order hmem configured gateway with h | h
          · exact .inl h
          · exact .inr ⟨⟨order, hmem, hid, hunpaid⟩, h⟩

/-! ## Section 2: Paid Cashfree payments and the order column -/

/-- A payment collected through Cashfree. -/
def IsCashfree (p : Payment) : Prop :=
  p.sourceSystem = some .cashfree ∨ p.provider = some "cashfree"

instance (p : Payment) : Decidable (IsCashfree p) := inferInstanceAs (Decidable (_ ∨ _))

/-- The order has a paid Cashfree payment. -/
def HasPaidCashfree (db : OrdersDB) (orderId : UUID) : Prop :=
  ∃ p ∈ db.payments.rows, p.orderId = orderId ∧ IsCashfree p ∧ p.status = .paid

instance (db : OrdersDB) (orderId : UUID) : Decidable (HasPaidCashfree db orderId) :=
  inferInstanceAs (Decidable (∃ p ∈ db.payments.rows, _ ∧ _))

/-- The order column agrees with every paid Cashfree payment. -/
def PaidConsistent (db : OrdersDB) : Prop :=
  ∀ p ∈ db.payments.rows, IsCashfree p → p.status = .paid →
    ∃ o ∈ db.orders.rows, o.id = p.orderId ∧ o.paymentStatus = .paid

section AnyText

variable [PyText]

/-- The part of a payment event after the lookup keeps the agreement. -/
theorem paidConsistent_applyToPayment {db : OrdersDB} {payment : Payment} {e : PaymentEvent}
    (hfound : db.getPaymentByExternalId .cashfree e.cashfreeOrderId = some payment)
    (h : PaidConsistent db) : PaidConsistent ((applyToPayment db payment e).final db) := by
  obtain ⟨hmem, _, _⟩ := getPaymentByExternalId_eq_some.mp hfound
  obtain ⟨_, _, _, hcall⟩ | ⟨status, _, _, _, hcall⟩ | ⟨status, _, _, _, _, hcall⟩ :=
    applyToPayment_cases db payment e
  · rw [hcall]
    exact h
  · obtain ⟨hp, ho⟩ := recordTransaction_frame db payment e status
    rw [hcall]
    unfold PaidConsistent
    rw [Staged.final_commit, Staged.final_done, hp, ho]
    exact h
  · obtain ⟨hp, ho⟩ := recordTransaction_frame db payment e status
    have hmem' : payment ∈ (recordTransaction db payment e status).1.payments.rows := hp ▸ hmem
    rw [hcall, Staged.final_commit]
    intro p' hp' hcashfree hpaid
    rw [payments_final_settlePayment] at hp'
    rw [orders_final_settlePayment hmem', ho]
    rcases (mem_writePayment hmem').mp hp' with rfl | ⟨hold, _⟩
    · -- the payment of the event: its status is the recorded one
      have hstatus : status = .paid := hpaid
      obtain ⟨o, hmemo, hid⟩ := db.payment_order payment hmem
      rw [if_pos hstatus]
      exact ⟨markOrderPaid o, List.mem_map.mpr ⟨o, hmemo, by rw [if_pos hid]⟩, hid, rfl⟩
    · -- another payment: its order was paid before and is not unpaid
      obtain ⟨o, hmemo, hid, hopaid⟩ := h p' (hp ▸ hold) hcashfree hpaid
      by_cases hstatus : status = .paid
      · rw [if_pos hstatus]
        by_cases hown : o.id = payment.orderId
        · exact ⟨markOrderPaid o, List.mem_map.mpr ⟨o, hmemo, by rw [if_pos hown]⟩, hid, rfl⟩
        · exact ⟨o, List.mem_map.mpr ⟨o, hmemo, by rw [if_neg hown]⟩, hid, hopaid⟩
      · rw [if_neg hstatus]
        exact ⟨o, hmemo, hid, hopaid⟩

/-- A whole payment event keeps the agreement. -/
theorem paidConsistent_eventStep {db : OrdersDB} (e : PaymentEvent) (h : PaidConsistent db) :
    PaidConsistent (eventStep db e) := by
  unfold eventStep applyPaymentEvent
  cases hfind : db.getPaymentByExternalId .cashfree e.cashfreeOrderId with
  | some payment => exact paidConsistent_applyToPayment hfind h
  | none =>
    cases hcreate : createPaymentFromExternal db e.cashfreeOrderId with
    | none => exact h
    | some created =>
      obtain ⟨payment, db₁⟩ := created
      obtain ⟨horders, _, hpending, hrows, hfound⟩ :=
        createPaymentFromExternal_eq_some hfind hcreate
      refine paidConsistent_applyToPayment hfound fun p hp hcashfree hpaid => ?_
      rw [hrows, List.mem_append, List.mem_singleton] at hp
      rw [horders]
      rcases hp with hp | rfl
      · exact h p hp hcashfree hpaid
      · rw [hpending] at hpaid
        cases hpaid

end AnyText

/-- A checkout keeps the agreement. -/
theorem paidConsistent_checkout {db : OrdersDB} (orderId : UUID) (configured : Bool)
    (gateway : CheckoutRequest → Except OMSError CheckoutResponse) (h : PaidConsistent db) :
    PaidConsistent (createOrReuseCheckout db orderId configured gateway).db := by
  rcases createOrReuseCheckout_cases db orderId configured gateway with
    ⟨_, hsame⟩ | ⟨_, horders, hpayments⟩
  · rw [hsame]
    exact h
  · intro p hp hcashfree hpaid
    rw [horders]
    rcases hpayments p hp with hold | hpending
    · exact h p hold hcashfree hpaid
    · rw [hpending] at hpaid
      cases hpaid

/-- The resync overwrites the payment column of an order with a paid Cashfree payment only
with "paid". -/
def ReportsPaid (db : OrdersDB) (data : SyncedOrder) : Prop :=
  ∀ existing ∈ db.getOrderByExternalId data.sourceSystem data.externalId,
    data.isStale existing = false → HasPaidCashfree db existing.id → data.paymentStatus = .paid

instance (db : OrdersDB) (data : SyncedOrder) : Decidable (ReportsPaid db data) :=
  inferInstanceAs (Decidable (∀ existing ∈ db.getOrderByExternalId _ _, _ → _ → _))

/-- The committed state after a resync; a failing one commits nothing. -/
def resyncStep (db : OrdersDB) (data : SyncedOrder) : OrdersDB :=
  match upsertSyncedOrder db data with
  | none => db
  | some (_, db') => db'

/-- A resync that reports such orders paid keeps the agreement. -/
theorem paidConsistent_resyncStep {db : OrdersDB} {data : SyncedOrder}
    (hreports : ReportsPaid db data) (h : PaidConsistent db) :
    PaidConsistent (resyncStep db data) := by
  unfold resyncStep
  split
  · exact h
  · rename_i created db' hupsert
    rcases SyncedOrder.upsertSyncedOrder_cases hupsert with
      rfl | ⟨existing, hfind, hfresh, hrows, hpayments⟩ | ⟨_, hrows, hpayments⟩
    · exact h
    · have hexisting : existing ∈ db.orders.rows := Table.mem_of_find?_eq_some hfind
      intro p hp hcashfree hpaid
      rw [hrows]
      rcases hpayments p hp with hold | ⟨horder, hstatus⟩
      · obtain ⟨o, ho, hid, hopaid⟩ := h p hold hcashfree hpaid
        -- the resynced order gets the reported status, which is paid by assumption
        by_cases hown : o.id = existing.id
        · have hreported : data.paymentStatus = .paid :=
            hreports existing hfind hfresh ⟨p, hold, hid.symm.trans hown, hcashfree, hpaid⟩
          exact ⟨data.write db o, List.mem_map.mpr ⟨o, ho, by simp [hown]⟩, hid, hreported⟩
        · exact ⟨o, List.mem_map.mpr ⟨o, ho, by simp [hown]⟩, hid, hopaid⟩
      -- the store's own payment record carries the status the order column gets
      · exact ⟨data.write db existing, List.mem_map.mpr ⟨existing, hexisting, by simp⟩,
          horder.symm, hstatus.symm.trans hpaid⟩
    · intro p hp hcashfree hpaid
      rw [hrows]
      rcases hpayments p hp with hold | ⟨horder, hstatus⟩
      · obtain ⟨o, ho, hid, hopaid⟩ := h p hold hcashfree hpaid
        exact ⟨o, List.mem_append_left _ ho, hid, hopaid⟩
      · exact ⟨data.newOrder db, List.mem_append_right _ (List.mem_singleton_self _),
          horder.symm, hstatus.symm.trans hpaid⟩

/-! ## Section 3: Runs -/

/-- The calls that meet on one order. -/
inductive CheckoutOp where
  | checkout (orderId : UUID) (configured : Bool)
      (gateway : CheckoutRequest → Except OMSError CheckoutResponse)
  | paymentEvent (e : PaymentEvent)
  | resync (data : SyncedOrder)

section Runs

variable [PyText]

/-- The state after a call. -/
def checkoutStep (db : OrdersDB) : CheckoutOp → OrdersDB
  | .checkout orderId configured gateway =>
    (createOrReuseCheckout db orderId configured gateway).db
  | .paymentEvent e => eventStep db e
  | .resync data => resyncStep db data

/-- The condition on resyncs; the other calls are free. -/
def ResyncsReportPaid (db : OrdersDB) : CheckoutOp → Prop
  | .resync data => ReportsPaid db data
  | .checkout _ _ _ | .paymentEvent _ => True

instance ResyncsReportPaid.decidable (db : OrdersDB) :
    ∀ op, Decidable (ResyncsReportPaid db op)
  | .resync data => inferInstanceAs (Decidable (ReportsPaid db data))
  | .checkout _ _ _ | .paymentEvent _ => inferInstanceAs (Decidable True)

/-- What one call preserves. -/
theorem paidConsistent_step (db : OrdersDB) (op : CheckoutOp) (h : PaidConsistent db)
    (hop : ResyncsReportPaid db op) : PaidConsistent (checkoutStep db op) := by
  cases op with
  | checkout orderId configured gateway =>
    exact paidConsistent_checkout orderId configured gateway h
  | paymentEvent e => exact paidConsistent_eventStep e h
  | resync data => exact paidConsistent_resyncStep hop h

/-- In every run whose resyncs report orders with a paid Cashfree payment as paid, a
checkout of such an order sends no request to Cashfree and changes nothing. -/
theorem no_second_checkout {db₀ : OrdersDB} (h₀ : PaidConsistent db₀) {ops : List CheckoutOp}
    (hops : Along checkoutStep ResyncsReportPaid db₀ ops) :
    ∀ pre orderId configured gateway post,
      ops = pre ++ .checkout orderId configured gateway :: post →
        let db := run checkoutStep db₀ pre
        HasPaidCashfree db orderId →
          (createOrReuseCheckout db orderId configured gateway).request = none ∧
            (createOrReuseCheckout db orderId configured gateway).db = db := by
  rintro pre orderId configured gateway post rfl db ⟨p, hp, horder, hcashfree, hpaid⟩
  have hconsistent : PaidConsistent db :=
    throughout_of_along paidConsistent_step h₀ hops pre (List.prefix_append _ _)
  obtain ⟨o, ho, hid, hopaid⟩ := hconsistent p hp hcashfree hpaid
  -- a request is sent only for an order that is not paid
  rcases createOrReuseCheckout_cases db orderId configured gateway with
    hnothing | ⟨⟨o', ho', hid', hunpaid⟩, _⟩
  · exact hnothing
  · have heq : o' = o := order_eq_of_id_eq ho ho' (hid'.trans (hid.trans horder).symm)
    exact absurd (heq ▸ hopaid) hunpaid

end Runs

/-! ## Section 4: A second payment -/

/-- An order synced from Shopify, its shopper's phone on the shipping address, and the pending
Cashfree payment of `awaitingPayment`. -/
def shopifyOrder : OrdersDB where
  orders := Table.ofList [{
    id := 1, orderNumber := "#AWL1", sourceSystem := some .shopify, externalId := some "5501",
    externalUpdatedAt := some 100, totalAmount := 500,
    shippingAddress := some { contactPhone := some "9876543210" } }] (by decide)
  payments := awaitingPayment.payments
  payment_order := by simp [awaitingPayment]

/-- A later version of the order as Shopify reports it. -/
def shopifyVersion (paymentStatus : PaymentStatus) : SyncedOrder where
  externalId := "5501"
  orderNumber := "#AWL1"
  externalUpdatedAt := some 200
  totalAmount := 500
  shippingAddress := some { contactPhone := some "9876543210" }
  paymentStatus := paymentStatus

/-- Cashfree accepts every request. -/
def accepting (_ : CheckoutRequest) : Except OMSError CheckoutResponse :=
  .ok { paymentSessionId := some "session" }

/-- The payment succeeds, then Shopify, which knows nothing of it, resyncs the order. -/
def paidThenResynced (paymentStatus : PaymentStatus) : List CheckoutOp :=
  [.paymentEvent (attempt "SUCCESS"), .resync (shopifyVersion paymentStatus)]

/-- After such a resync the order has a paid Cashfree payment, and a checkout opens a second
Cashfree order and creates a second payment. -/
theorem resync_reopens_checkout :
    let db := run checkoutStep shopifyOrder (paidThenResynced .pending)
    HasPaidCashfree db 1 ∧
    (createOrReuseCheckout db 1 true accepting).request =
      some ⟨"AWL1-1", 500, "INR", "9876543210"⟩ ∧
    (createOrReuseCheckout db 1 true accepting).db.payments.rows.length =
      db.payments.rows.length + 1 := by
  decide

theorem paidConsistent_shopifyOrder : PaidConsistent shopifyOrder := by
  unfold PaidConsistent
  decide

/-- When the resync reports the order paid, no second checkout is opened. -/
theorem no_second_checkout_shopifyOrder :
    (createOrReuseCheckout (run checkoutStep shopifyOrder (paidThenResynced .paid)) 1 true
      accepting).request = none :=
  have hops : Along checkoutStep ResyncsReportPaid shopifyOrder
      (paidThenResynced .paid ++ [.checkout 1 true accepting]) := by decide
  (no_second_checkout paidConsistent_shopifyOrder hops (paidThenResynced .paid) 1 true
    accepting [] rfl (by decide)).1

end AyushOms.Payments
