import AyushOms.Lib.Staged
import AyushOms.Payments.Normalizer

/-!
# The Cashfree Payment Service

`app.services.cashfree_payment_service.CashfreePaymentService`: applying a trusted payment
result, and creating or reusing a checkout.

`apply_payment_event` commits up to four times (the payment it may have to create, the
transaction row, the payment, the order), so it is a staged procedure: its intermediate
states are durable and a crash leaves one of them.
-/

namespace AyushOms.Payments

open AyushOms.Lib AyushOms.Orders AyushOms.Orders.OrdersDB

variable [PyText]

/-! ## Section 1: Outcomes -/

/-- Why an event was not applied; the source renders each as a text. -/
inductive PaymentEventReason where
  | unknownCashfreeOrder
  | unrecognizedPaymentStatus (raw : Option String)
  | amountMismatch (expected : ℚ) (received : Option ℚ)
  | currencyMismatch (expected received : String)
  | paymentAlreadyPaid
  | duplicateTransaction
  deriving DecidableEq

structure PaymentEventResult where
  applied : Bool
  reason : Option PaymentEventReason
  paymentId : Option UUID
  mappedStatus : Option PaymentStatus := none
  deriving DecidableEq

/-! ## Section 2: Applying a payment event -/

/-- The checks a result claiming success must pass: the exact amount, and the payment's
currency when one is given. -/
def moneyProblem (payment : Payment) (e : PaymentEvent) : Option PaymentEventReason :=
  if e.amount ≠ some payment.amount then some (.amountMismatch payment.amount e.amount)
  else
    match pyOr e.currency none with
    | none => none
    | some currency =>
      if PyText.upper currency ≠ PyText.upper payment.currency then
        some (.currencyMismatch payment.currency currency)
      else none

/-- `get_by_gateway_transaction_id` for the gateway "cashfree". -/
def getTransaction (db : OrdersDB) (cfPaymentId : String) : Option PaymentTransaction :=
  db.paymentTransactions.find? fun t =>
    t.gateway == some "cashfree" && t.gatewayTransactionId == some cfPaymentId

/-- `_record_transaction`: `create_if_new` keyed by the gateway's id, without looking at
the status. The flag says whether a row was created. -/
def recordTransaction (db : OrdersDB) (payment : Payment) (e : PaymentEvent)
    (status : PaymentStatus) : OrdersDB × Bool :=
  match e.cfPaymentId.bind (getTransaction db) with
  -- a row under this id counts as the same attempt, whatever status it has
  | some _ => (db, false)
  | none =>
    match db.paymentTransactions.insert? {
        paymentId := payment.id
        gateway := some "cashfree"
        gatewayTransactionId := e.cfPaymentId
        status := status
        amount := e.amount.getD payment.amount } with
    | some transactions => ({ db with paymentTransactions := transactions }, true)
    | none => (db, false)

/-- The columns an applied event writes into the payment. -/
def PaymentEvent.write (e : PaymentEvent) (status : PaymentStatus) (p : Payment) : Payment :=
  let metadata := p.paymentMetadata.getD {}
  { p with
    status := status
    paymentMetadata := some { metadata with
      orderStatus := some (if status = .paid then "PAID" else "ACTIVE")
      lastRawPaymentStatus := e.rawStatus
      paymentMethod := (pyOr e.paymentMethodName none).or metadata.paymentMethod }
    paidAt := if status = .paid then some (e.paidAt.getD e.now) else p.paidAt
    externalTransactionId := (pyOr e.cfPaymentId none).or p.externalTransactionId }

/-- `payments.update(payment, **payment_updates)`. -/
def writePayment (db : OrdersDB) (payment : Payment) (e : PaymentEvent)
    (status : PaymentStatus) : OrdersDB :=
  db.updatePayment payment.id ⟨e.write status, fun _ => rfl⟩ fun _ => .inl rfl

/-- The order columns a paid payment sets. -/
def markOrderPaid (o : Order) : Order :=
  { o with
    paymentStatus := .paid
    status :=
      if o.status = .pending ∧ .confirmed ∈ orderStatusTransitions o.status then .confirmed
      else o.status }

/-- `_apply_order_state`; `none` when the order is gone. -/
def applyOrderState (db : OrdersDB) (payment : Payment) (status : PaymentStatus) :
    Option OrdersDB :=
  match db.getOrder payment.orderId with
  | none => none
  | some order =>
    if status = .paid then
      some ((db.updateOrder order.id ⟨markOrderPaid, fun _ => rfl⟩).addOrderEvent {
        orderId := order.id
        eventType := "payment.cashfree_paid"
        status := some PaymentStatus.paid.value
        source := "cashfree" })
    else
      some (db.addOrderEvent {
        orderId := order.id
        eventType := "payment.cashfree_failed"
        status := some status.value
        source := "cashfree" })

/-- The writes of an event that was recorded for the first time: the payment, then the
order. -/
def settlePayment (db : OrdersDB) (payment : Payment) (e : PaymentEvent)
    (status : PaymentStatus) : Staged OrdersDB PaymentEventResult :=
  let applied : PaymentEventResult := ⟨true, none, some payment.id, some status⟩
  .commit (writePayment db payment e status)
    (match applyOrderState (writePayment db payment e status) payment status with
    | none => .done applied
    | some ordered => .commit ordered (.done applied))

/-- The part of `apply_payment_event` that follows the lookup of the payment. -/
def applyToPayment (db : OrdersDB) (payment : Payment) (e : PaymentEvent) :
    Staged OrdersDB PaymentEventResult :=
  let refused (reason : PaymentEventReason) (status : Option PaymentStatus) :
      PaymentEventResult := ⟨false, some reason, some payment.id, status⟩
  match normalizePaymentStatus e.rawStatus with
  | none => .done (refused (.unrecognizedPaymentStatus e.rawStatus) none)
  | some status =>
    -- only a claimed success has to match amount and currency
    match if status = .paid then moneyProblem payment e else none with
    | some reason => .done (refused reason none)
    | none =>
      let (recorded, created) := recordTransaction db payment e status
      -- a late result for a paid payment is recorded and otherwise ignored
      if payment.status = .paid ∧ status ≠ .paid then
        .commit recorded (.done (refused .paymentAlreadyPaid (some status)))
      else if created = false then
        .commit recorded (.done (refused .duplicateTransaction (some status)))
      else
        .commit recorded (settlePayment recorded payment e status)

/-- The order a Cashfree order id without a payment row belongs to. -/
def externalOrder (db : OrdersDB) (cashfreeOrderId : String) : Option Order :=
  (db.getOrderByNumber cashfreeOrderId).or (db.getOrderByNumber ("#" ++ cashfreeOrderId))

omit [PyText] in
theorem externalOrder_mem {db : OrdersDB} {cashfreeOrderId : String} {o : Order}
    (h : externalOrder db cashfreeOrderId = some o) : o ∈ db.orders.rows := by
  rcases Option.or_eq_some_iff.mp h with h | ⟨_, h⟩ <;> exact Table.mem_of_find?_eq_some h

/-- The payment `_create_payment_from_external_cashfree_order` creates for an order. -/
def externalPaymentFields (order : Order) (cashfreeOrderId : String) : PaymentFields where
  orderId := order.id
  paymentType := order.paymentType
  status := .pending
  amount := order.totalAmount
  currency := order.currency
  provider := "cashfree"
  paymentMetadata := some { cashfreeOrderId := some cashfreeOrderId, createdFrom := some "webhook" }

/-- `_create_payment_from_external_cashfree_order`. -/
def createPaymentFromExternal (db : OrdersDB) (cashfreeOrderId : String) :
    Option (Payment × OrdersDB) :=
  match h : externalOrder db cashfreeOrderId with
  | none => none
  | some order =>
    let written := db.upsertPayment .cashfree cashfreeOrderId
      (externalPaymentFields order cashfreeOrderId) ⟨order, externalOrder_mem h, rfl⟩
    some (written.1, written.2.2)

/-- `apply_payment_event`. -/
def applyPaymentEvent (db : OrdersDB) (e : PaymentEvent) :
    Staged OrdersDB PaymentEventResult :=
  match db.getPaymentByExternalId .cashfree e.cashfreeOrderId with
  | some payment => applyToPayment db payment e
  | none =>
    match createPaymentFromExternal db e.cashfreeOrderId with
    | none => .done ⟨false, some .unknownCashfreeOrder, none, none⟩
    | some (payment, created) => .commit created (applyToPayment created payment e)

/-! ## Section 3: The sources of events -/

/-- The Cashfree attempts of an order, oldest first. -/
def cashfreeAttempts (db : OrdersDB) (orderId : UUID) : List Payment :=
  (db.paymentsForOrder orderId).filter fun p => p.provider == some "cashfree"

/-- `get_payment_for_order`: the latest attempt. -/
def getPaymentForOrder (db : OrdersDB) (orderId : UUID) : Except OMSError Payment :=
  match db.getOrder orderId with
  | none => .error (.notFound "Order not found.")
  | some _ =>
    match (cashfreeAttempts db orderId).getLast? with
    | none => .error (.notFound "No Cashfree payment found for this order.")
    | some payment => .ok payment

/-- The events of `reconcile_payment`, given what the gateway reports for the order's
latest attempt. -/
def reconcileEvents (db : OrdersDB) (orderId : UUID) (configured : Bool)
    (gateway : String → Except OMSError (List GatewayPayment)) (now : Instant) :
    Except OMSError (List PaymentEvent) := do
  let payment ← getPaymentForOrder db orderId
  match pyOr payment.externalId none with
  | none => .error (.conflict "This payment has no Cashfree order_id to reconcile against.")
  | some cashfreeOrderId =>
    if configured then
      let attempts ← gateway cashfreeOrderId
      return attempts.map fun raw => raw.toEvent cashfreeOrderId now
    else
      .error (.integration ("Cashfree integration is not configured " ++
        "(missing CASHFREE_CLIENT_ID/CASHFREE_CLIENT_SECRET)."))

/-- The events `sync_transactions` builds from the rows of a page. -/
def syncEvents (rows : List ReconRow) (now : Instant) : List PaymentEvent :=
  rows.filterMap fun raw => normalizeReconRow raw now

/-! ## Section 4: What each piece does -/

/-- An event that claims the payment's success, with the exact amount and the payment's
currency when it gives one. -/
structure ValidSuccess (e : PaymentEvent) (p : Payment) : Prop where
  sourceSystem : p.sourceSystem = some .cashfree
  externalId : p.externalId = some e.cashfreeOrderId
  status : normalizePaymentStatus e.rawStatus = some .paid
  amount : e.amount = some p.amount
  currency : ∀ c, e.currency = some c → c ≠ "" → PyText.upper c = PyText.upper p.currency

theorem moneyProblem_eq_none_iff {payment : Payment} {e : PaymentEvent} :
    moneyProblem payment e = none ↔
      e.amount = some payment.amount ∧
        ∀ c, e.currency = some c → c ≠ "" → PyText.upper c = PyText.upper payment.currency := by
  unfold moneyProblem
  by_cases ha : e.amount = some payment.amount
  · cases hc : e.currency with
    | none => simp [ha, pyOr]
    | some c =>
      by_cases hempty : c = ""
      · simp [ha, pyOr, pyFalsy, hempty]
      · simp [ha, pyOr, pyFalsy, hempty]
  · simp [ha]

/-- The transaction ids already recorded for the gateway. -/
def Recorded (db : OrdersDB) (cfPaymentId : Option String) : Prop :=
  ∃ id, cfPaymentId = some id ∧ ∃ t ∈ db.paymentTransactions.rows,
    t.gateway = some "cashfree" ∧ t.gatewayTransactionId = some id

omit [PyText] in
theorem getTransaction_isSome {db : OrdersDB} {id : String} :
    (getTransaction db id).isSome = true ↔ ∃ t ∈ db.paymentTransactions.rows,
      t.gateway = some "cashfree" ∧ t.gatewayTransactionId = some id := by
  unfold getTransaction Table.find?
  rw [List.find?_isSome]
  simp

omit [PyText] in
/-- Recording a transaction touches no other table. -/
theorem recordTransaction_frame (db : OrdersDB) (payment : Payment) (e : PaymentEvent)
    (status : PaymentStatus) :
    (recordTransaction db payment e status).1.payments = db.payments ∧
      (recordTransaction db payment e status).1.orders = db.orders := by
  unfold recordTransaction
  split
  · exact ⟨rfl, rfl⟩
  · split <;> exact ⟨rfl, rfl⟩

omit [PyText] in
/-- A row is created exactly when the gateway's id is not recorded yet. -/
theorem recordTransaction_created_iff (db : OrdersDB) (payment : Payment) (e : PaymentEvent)
    (status : PaymentStatus) :
    (recordTransaction db payment e status).2 = true ↔ ¬ Recorded db e.cfPaymentId := by
  unfold recordTransaction Recorded
  cases hid : e.cfPaymentId with
  | none =>
    obtain ⟨t, ht⟩ := Table.insert?_of_keys_nil db.paymentTransactions
      (r := { paymentId := payment.id, gateway := some "cashfree", gatewayTransactionId := none,
              status := status, amount := e.amount.getD payment.amount }) rfl
    simp [ht]
  | some id =>
    have hfind : (getTransaction db id).isSome = true ↔ _ := getTransaction_isSome
    -- the insertion can fail only on the key that the lookup has found free
    cases hget : getTransaction db id with
    | some t =>
      rw [hget] at hfind
      simpa [hget] using hfind
    | none =>
      rw [hget] at hfind
      have hfree : ¬ ∃ t ∈ db.paymentTransactions.rows,
          t.gateway = some "cashfree" ∧ t.gatewayTransactionId = some id := by
        simpa using hfind
      cases hins : db.paymentTransactions.insert? _ with
      | some t => simpa [hget, hins] using hfree
      | none =>
        obtain ⟨k, hk, t, ht, hkt⟩ := (Table.insert?_eq_none_iff
          (by simp [PaymentTransaction.keys])).mp hins
        simp only [PaymentTransaction.keys, List.mem_singleton] at hk
        subst hk
        refine absurd ⟨t, ht, ?_⟩ hfree
        unfold PaymentTransaction.keys at hkt
        split at hkt
        · rename_i g i hg hi
          simp only [List.mem_singleton, Prod.mk.injEq] at hkt
          exact ⟨by rw [hg, hkt.1], by rw [hi, hkt.2]⟩
        · exact absurd hkt List.not_mem_nil

omit [PyText] in
/-- Afterwards the gateway's id is recorded, whoever recorded it. -/
theorem recorded_recordTransaction (db : OrdersDB) (payment : Payment) (e : PaymentEvent)
    (status : PaymentStatus) (hid : e.cfPaymentId ≠ none) :
    Recorded (recordTransaction db payment e status).1 e.cfPaymentId := by
  obtain ⟨id, hid⟩ := Option.ne_none_iff_exists'.mp hid
  unfold recordTransaction
  -- recorded by an earlier event, or by the row this one inserts
  cases hget : e.cfPaymentId.bind (getTransaction db) with
  | some t =>
    rw [hid, Option.bind_some] at hget
    exact ⟨id, hid, getTransaction_isSome.mp (by rw [hget]; rfl)⟩
  | none =>
    have hnot : ¬ Recorded db e.cfPaymentId := by
      rintro ⟨id', hid', hrec⟩
      rw [hid', Option.bind_some] at hget
      have hsome := getTransaction_isSome.mpr hrec
      rw [hget] at hsome
      cases hsome
    have hcreated := (recordTransaction_created_iff db payment e status).mpr hnot
    unfold recordTransaction at hcreated
    rw [hget] at hcreated
    dsimp only at hcreated ⊢
    split at hcreated
    · rename_i t ht
      simp only [Recorded, Table.rows_of_insert? ht]
      exact ⟨id, hid, _, List.mem_append_right _ (List.mem_singleton_self _), rfl, hid⟩
    · cases hcreated

/-- What the part of `apply_payment_event` after the lookup can do: refuse the event, record
it without effect (a late result for a paid payment, or a duplicate), or record it and
settle the payment. -/
theorem applyToPayment_cases (db : OrdersDB) (payment : Payment) (e : PaymentEvent) :
    (∃ reason status,
      (normalizePaymentStatus e.rawStatus = some .paid → moneyProblem payment e ≠ none) ∧
      applyToPayment db payment e = .done ⟨false, some reason, some payment.id, status⟩) ∨
    (∃ status reason, normalizePaymentStatus e.rawStatus = some status ∧
      (status = .paid → Recorded db e.cfPaymentId) ∧
      applyToPayment db payment e = .commit (recordTransaction db payment e status).1
        (.done ⟨false, some reason, some payment.id, some status⟩)) ∨
    (∃ status, normalizePaymentStatus e.rawStatus = some status ∧
      (status = .paid → moneyProblem payment e = none) ∧
      (status ≠ .paid → payment.status ≠ .paid) ∧ ¬ Recorded db e.cfPaymentId ∧
      applyToPayment db payment e = .commit (recordTransaction db payment e status).1
        (settlePayment (recordTransaction db payment e status).1 payment e status)) := by
  unfold applyToPayment
  cases hstatus : normalizePaymentStatus e.rawStatus with
  | none => exact .inl ⟨_, _, by simp, rfl⟩
  | some status =>
    dsimp only
    split
    · rename_i reason hreason
      refine .inl ⟨reason, none, fun hpaid => ?_, rfl⟩
      rw [Option.some.injEq] at hpaid
      rw [if_pos hpaid] at hreason
      rw [hreason]
      exact Option.some_ne_none reason
    · rename_i hmoney
      have hcreated := recordTransaction_created_iff db payment e status
      -- the source's order: late result, duplicate, then the first recording
      by_cases hlate : payment.status = .paid ∧ status ≠ .paid
      · rw [if_pos hlate]
        exact .inr (.inl ⟨status, _, rfl, fun h => absurd h hlate.2, rfl⟩)
      · rw [if_neg hlate]
        by_cases hnew : Recorded db e.cfPaymentId
        · have hdup : (recordTransaction db payment e status).2 = false := by
            simpa [hnew] using hcreated
          rw [if_pos hdup]
          exact .inr (.inl ⟨status, _, rfl, fun _ => hnew, rfl⟩)
        · have hdup : ¬ (recordTransaction db payment e status).2 = false := by
            simpa [hnew] using hcreated
          rw [if_neg hdup]
          refine .inr (.inr ⟨status, rfl, fun hpaid => ?_, fun hne hpaid => ?_, hnew, rfl⟩)
          · rwa [if_pos hpaid] at hmoney
          · exact hlate ⟨hpaid, hne⟩

end AyushOms.Payments
