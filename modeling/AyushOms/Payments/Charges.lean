import AyushOms.Payments.OrderIds

/-!
# What a Checkout Charges

A checkout that opens a session stores the order's total and currency with it; one that finds
a session open hands it out as it was stored. A resync overwrites the order's total in
between, and nothing closes or renews the session.

The history of a run keeps, beside the database, the total and currency that the order had when
a payment's session was last opened.

## Main results

- `opened_step`: a session's payment keeps the charge it was opened with
- `checkout_charges_current_iff`: the runs whose checkouts all charge the current total
- `resync_leaves_old_charge`: a run in which a checkout hands out the old one
-/

namespace AyushOms.Payments

open AyushOms.Lib AyushOms.Orders AyushOms.Orders.OrdersDB

/-! ## Section 1: Sessions -/

/-- The payment session, when there is one. -/
def sessionOf (p : Payment) : Option String :=
  (p.paymentMetadata.bind (·.paymentSessionId)).bind fun session => pyOr (some session) none

/-- The payment a checkout would hand out again. -/
def openSession (db : OrdersDB) (orderId : UUID) : Option Payment :=
  (cashfreeAttempts db orderId).getLast?.filter isOpenCheckout

theorem openSession_spec {db : OrdersDB} {orderId : UUID} {p : Payment}
    (h : openSession db orderId = some p) :
    p ∈ db.payments.rows ∧ (sessionOf p).isSome := by
  obtain ⟨hlast, hopen⟩ := Option.filter_eq_some_iff.mp h
  have hmem : p ∈ cashfreeAttempts db orderId := List.mem_of_getLast? hlast
  refine ⟨?_, ?_⟩
  · exact (List.mem_filter.mp (List.mem_filter.mp hmem).1).1
  · rw [isOpenCheckout, Bool.and_eq_true] at hopen
    exact hopen.2

/-- The order can be charged. -/
def Collectable (o : Order) : Prop := o.paymentStatus ≠ .paid ∧ o.status ≠ .cancelled

instance (o : Order) : Decidable (Collectable o) := inferInstanceAs (Decidable (_ ∧ _))

/-- The payment is over the order's total. -/
def Charges (p : Payment) (o : Order) : Prop :=
  p.amount = o.totalAmount ∧ p.currency = o.currency

/-- What a checkout returns here is over the order's present total. -/
def ReturnsCurrent (db : OrdersDB) (orderId : UUID) (configured : Bool)
    (gateway : CheckoutRequest → Except OMSError CheckoutResponse) : Prop :=
  ∀ p created, (createOrReuseCheckout db orderId configured gateway).outcome = .ok (p, created) →
    ∃ o, db.getOrder orderId = some o ∧ Charges p o

/-- The row an upsert returns has the passed columns. -/
theorem upsertPayment_charges {db : OrdersDB} {source : SourceSystem} {externalId : String}
    {fields : PaymentFields} {horder : ∃ o ∈ db.orders.rows, o.id = fields.orderId} :
    (db.upsertPayment source externalId fields horder).1.amount = fields.amount ∧
      (db.upsertPayment source externalId fields horder).1.currency = fields.currency := by
  obtain ⟨-, -, ⟨existing, -, hrow, -⟩ | ⟨-, hrow, -⟩⟩ :=
    upsertPayment_spec db source externalId fields horder
  · rw [hrow]
    exact ⟨rfl, rfl⟩
  · rw [hrow]
    exact ⟨rfl, rfl⟩

/-- A fresh session is over the order's total. -/
theorem openCheckout_charges {db : OrdersDB} {order : Order} {horder : order ∈ db.orders.rows}
    {configured : Bool} {gateway : CheckoutRequest → Except OMSError CheckoutResponse}
    {p : Payment} {created : Bool}
    (h : (openCheckout db order horder configured gateway).outcome = .ok (p, created)) :
    Charges p order := by
  unfold openCheckout at h
  split at h
  · cases h
  · cases hphone : customerPhone db order with
    | none =>
      rw [hphone] at h
      cases h
    | some phone =>
      rw [hphone] at h
      dsimp only at h
      split at h
      · cases h
      · cases h
        exact upsertPayment_charges

/-- What a checkout returns is over the order's total, unless it finds an open session that is
not. -/
theorem returnsCurrent_iff {db : OrdersDB} {orderId : UUID} {configured : Bool}
    {gateway : CheckoutRequest → Except OMSError CheckoutResponse} :
    ReturnsCurrent db orderId configured gateway ↔
      ∀ o, db.getOrder orderId = some o → Collectable o →
        ∀ p, openSession db orderId = some p → Charges p o := by
  unfold ReturnsCurrent createOrReuseCheckout
  split
  · rename_i hnone
    exact iff_of_true (fun p created h => by cases h)
      fun o ho => by rw [hnone] at ho; cases ho
  · rename_i order horder
    split
    · rename_i hpaid
      refine iff_of_true (fun p created h => by cases h) fun o ho hcollectable => ?_
      obtain rfl : order = o := Option.some.inj (horder.symm.trans ho)
      exact absurd hpaid hcollectable.1
    · rename_i hunpaid
      split
      · rename_i hcancelled
        refine iff_of_true (fun p created h => by cases h) fun o ho hcollectable => ?_
        obtain rfl : order = o := Option.some.inj (horder.symm.trans ho)
        exact absurd hcancelled hcollectable.2
      · rename_i hlive
        split
        · -- an open session is returned as it is
          rename_i latest hlatest
          constructor
          · intro h o ho _ p hp
            obtain rfl : latest = p := Option.some.inj (hlatest.symm.trans hp)
            obtain ⟨o', ho', hcharges⟩ := h latest false rfl
            obtain rfl : o' = o := Option.some.inj (ho'.symm.trans ho)
            exact hcharges
          · intro h p created hreturned
            cases hreturned
            exact ⟨order, horder, h order horder ⟨hunpaid, hlive⟩ latest hlatest⟩
        · rename_i hnone
          refine iff_of_true (fun p created h => ⟨order, horder, openCheckout_charges h⟩) ?_
          intro o _ _ p hp
          cases hnone.symm.trans hp

/-! ## Section 2: The history of a run -/

/-- The database, and the total and currency that a payment's order had when its session was
last opened. -/
structure ChargeHistory where
  db : OrdersDB
  openedOver : UUID → Option (ℚ × String) := fun _ => none

/-- The payment whose session a call opens, and the order's total and currency then. -/
def opening (db : OrdersDB) : CheckoutOp → Option (UUID × ℚ × String)
  | .checkout orderId configured gateway =>
    let call := createOrReuseCheckout db orderId configured gateway
    match call.request, call.outcome, db.getOrder orderId with
    | some _, .ok (payment, _), some order =>
      some (payment.id, order.totalAmount, order.currency)
    | _, _, _ => none
  | .paymentEvent _ | .resync _ => none

/-- The row is one of before, as far as a session and its charge go, or has no session. -/
def SessionsKept (db db' : OrdersDB) : Prop :=
  ∀ p' ∈ db'.payments.rows, (sessionOf p').isSome →
    ∃ p ∈ db.payments.rows, p.id = p'.id ∧ p.sourceSystem = p'.sourceSystem ∧
      p.amount = p'.amount ∧ p.currency = p'.currency ∧ sessionOf p = sessionOf p'

theorem SessionsKept.refl (db : OrdersDB) : SessionsKept db db :=
  fun p hp _ => ⟨p, hp, rfl, rfl, rfl, rfl, rfl⟩

theorem SessionsKept.trans {db db₁ db' : OrdersDB} (h : SessionsKept db db₁)
    (h' : SessionsKept db₁ db') : SessionsKept db db' := by
  intro p' hp' hsession
  obtain ⟨p₁, hp₁, hid₁, hsource₁, hamount₁, hcurrency₁, hsame₁⟩ := h' p' hp' hsession
  obtain ⟨p, hp, hid, hsource, hamount, hcurrency, hsame⟩ := h p₁ hp₁ (hsame₁ ▸ hsession)
  exact ⟨p, hp, hid.trans hid₁, hsource.trans hsource₁, hamount.trans hamount₁,
    hcurrency.trans hcurrency₁, hsame.trans hsame₁⟩

theorem SessionsKept.of_payments_eq {db db' : OrdersDB} (h : db'.payments = db.payments) :
    SessionsKept db db' :=
  fun p hp _ => ⟨p, h ▸ hp, rfl, rfl, rfl, rfl, rfl⟩

/-- A payment event writes neither the session nor the charge. -/
theorem sessionOf_write (e : PaymentEvent) (status : PaymentStatus) (p : Payment) :
    sessionOf (e.write status p) = sessionOf p := by
  unfold sessionOf PaymentEvent.write
  cases p.paymentMetadata <;> rfl

theorem sessionsKept_writePayment {db : OrdersDB} {payment : Payment}
    (hmem : payment ∈ db.payments.rows) (e : PaymentEvent) (status : PaymentStatus) :
    SessionsKept db (writePayment db payment e status) := by
  intro p' hp' _
  rcases (mem_writePayment hmem).mp hp' with rfl | ⟨hp, -⟩
  · exact ⟨payment, hmem, rfl, rfl, rfl, rfl, (sessionOf_write e status payment).symm⟩
  · exact ⟨p', hp, rfl, rfl, rfl, rfl, rfl⟩

/-- A payment taken over from outside has no session. -/
theorem sessionsKept_createPaymentFromExternal {db db' : OrdersDB} {cashfreeOrderId : String}
    {payment : Payment} (hnone : db.getPaymentByExternalId .cashfree cashfreeOrderId = none)
    (h : createPaymentFromExternal db cashfreeOrderId = some (payment, db')) :
    SessionsKept db db' := by
  have hrows := (createPaymentFromExternal_eq_some hnone h).2.2.2.1
  have hsession : sessionOf payment = none := by
    unfold createPaymentFromExternal at h
    split at h
    · cases h
    · rename_i order horder
      simp only [Option.some.injEq, Prod.mk.injEq] at h
      obtain ⟨-, -, ⟨existing, hfind, -⟩ | ⟨-, hrow, -⟩⟩ :=
        upsertPayment_spec db .cashfree cashfreeOrderId
          (externalPaymentFields order cashfreeOrderId) ⟨order, externalOrder_mem horder, rfl⟩
      · cases hnone.symm.trans hfind
      · rw [← h.1, hrow]
        rfl
  intro p hp hsome
  rw [hrows, List.mem_append, List.mem_singleton] at hp
  rcases hp with hp | rfl
  · exact ⟨p, hp, rfl, rfl, rfl, rfl, rfl⟩
  · rw [hsession] at hsome
    cases hsome

/-- The database with the lines of a delivery. -/
def withLines (data : SyncedOrder) (db : OrdersDB) (orderId : UUID) : OrdersDB :=
  { db with stock := data.items.foldl (SyncedOrder.upsertItem data.sourceSystem orderId) db.stock }

/-- The store writes its own payment record only. -/
theorem upsertSyncedOrder_payments {db db' : OrdersDB} {data : SyncedOrder} {created : Bool}
    (h : upsertSyncedOrder db data = some (created, db')) :
    db' = db ∨ ∃ (itemed : OrdersDB) (orderId : UUID)
      (horder : ∃ o ∈ itemed.orders.rows, o.id = (data.paymentFields orderId).orderId),
      itemed.payments = db.payments ∧ db'.payments = (itemed.upsertPayment data.sourceSystem
        data.externalId (data.paymentFields orderId) horder).2.2.payments := by
  unfold upsertSyncedOrder at h
  split at h
  · split at h
    · cases h
      exact .inl rfl
    · split at h
      · cases h
      · rename_i written hupd
        split at h
        · cases h
        · rename_i order hget
          cases h
          exact .inr ⟨withLines data written order.id, order.id,
            ⟨order, (getOrder_eq_some.mp hget).1, rfl⟩, (updateOrder?_eq_some hupd).1, rfl⟩
  · split at h
    · cases h
    · rename_i written hins
      split at h
      · cases h
      · rename_i order hget
        cases h
        exact .inr ⟨withLines data written order.id, order.id,
          ⟨order, (getOrder_eq_some.mp hget).1, rfl⟩, (insertOrder?_eq_some hins).1, rfl⟩

/-- While sessions are Cashfree's, a Shopify resync keeps them. -/
theorem sessionsKept_resyncStep {db : OrdersDB} {data : SyncedOrder}
    (hshopify : data.sourceSystem = .shopify)
    (hcashfree : ∀ p ∈ db.payments.rows, (sessionOf p).isSome → p.sourceSystem = some .cashfree) :
    SessionsKept db (resyncStep db data) := by
  unfold resyncStep
  split
  · exact .refl db
  · rename_i created db' hupsert
    rcases upsertSyncedOrder_payments hupsert with rfl | ⟨itemed, orderId, horder, hsame, hrows⟩
    · exact .refl _
    · obtain ⟨-, -, hwritten⟩ := upsertPayment_spec itemed data.sourceSystem data.externalId
        (data.paymentFields orderId) horder
      intro p hp hsession
      rw [hrows] at hp
      rcases hwritten with ⟨existing, hfind, -, hmap⟩ | ⟨-, -, happend⟩
      · rw [hmap, List.mem_map, hsame] at hp
        obtain ⟨p₀, hp₀, rfl⟩ := hp
        by_cases hid : p₀.id = existing.id
        · -- the store's own record is no session
          rw [if_pos (beq_iff_eq.mpr hid)] at hsession
          obtain ⟨hmem, hsource, -⟩ := getPaymentByExternalId_eq_some.mp hfind
          rw [payment_eq_of_id_eq hmem (hsame ▸ hp₀) hid] at hsession
          have hcontra := hcashfree existing (hsame ▸ hmem) hsession
          rw [hsource, hshopify] at hcontra
          cases hcontra
        · rw [if_neg (by simpa using hid)]
          exact ⟨p₀, hp₀, rfl, rfl, rfl, rfl, rfl⟩
      · rw [happend, List.mem_append, List.mem_singleton, hsame] at hp
        rcases hp with hp | rfl
        · exact ⟨p, hp, rfl, rfl, rfl, rfl, rfl⟩
        · cases hsession

section Runs

variable [PyText]

/-- One call, with what it opens. -/
def ChargeHistory.step (h : ChargeHistory) (op : CheckoutOp) : ChargeHistory where
  db := checkoutStep h.db op
  openedOver := fun id =>
    match opening h.db op with
    | some (paymentId, charge) => if id = paymentId then some charge else h.openedOver id
    | none => h.openedOver id

/-- Sessions are Cashfree's, and over what they were opened with. -/
def Opened (h : ChargeHistory) : Prop :=
  ∀ p ∈ h.db.payments.rows, (sessionOf p).isSome →
    p.sourceSystem = some .cashfree ∧ h.openedOver p.id = some (p.amount, p.currency)

/-- A call that opens nothing and keeps the sessions keeps their charges. -/
theorem Opened.of_kept {h : ChargeHistory} {op : CheckoutOp} (hopened : Opened h)
    (hnone : opening h.db op = none) (hkept : SessionsKept h.db (checkoutStep h.db op)) :
    Opened (h.step op) := by
  intro p' hp' hsession
  obtain ⟨p, hp, hid, hsource, hamount, hcurrency, hsame⟩ := hkept p' hp' hsession
  obtain ⟨hcashfree, hover⟩ := hopened p hp (hsame ▸ hsession)
  refine ⟨hsource ▸ hcashfree, ?_⟩
  have hstep : (h.step op).openedOver p'.id = h.openedOver p'.id := by
    simp only [ChargeHistory.step, hnone]
  rw [hstep, ← hid, ← hamount, ← hcurrency]
  exact hover

/-- A payment event keeps the sessions. -/
theorem sessionsKept_eventStep (db : OrdersDB) (e : PaymentEvent) :
    SessionsKept db (eventStep db e) := by
  have hfound : ∀ {db : OrdersDB} {payment : Payment}, payment ∈ db.payments.rows →
      SessionsKept db ((applyToPayment db payment e).final db) := by
    intro db payment hmem
    obtain ⟨_, _, _, hcall⟩ | ⟨status, _, _, _, hcall⟩ | ⟨status, _, _, _, _, hcall⟩ :=
      applyToPayment_cases db payment e
    · rw [hcall]
      exact .refl db
    · rw [hcall]
      exact .of_payments_eq (recordTransaction_frame db payment e status).1
    · have hpayments := (recordTransaction_frame db payment e status).1
      rw [hcall, Staged.final_commit]
      refine (SessionsKept.of_payments_eq hpayments).trans ?_
      exact (sessionsKept_writePayment (hpayments ▸ hmem) e status).trans
        (.of_payments_eq (payments_final_settlePayment _))
  unfold eventStep applyPaymentEvent
  cases hfind : db.getPaymentByExternalId .cashfree e.cashfreeOrderId with
  | some payment => exact hfound (getPaymentByExternalId_eq_some.mp hfind).1
  | none =>
    cases hcreate : createPaymentFromExternal db e.cashfreeOrderId with
    | none => exact .refl db
    | some created =>
      obtain ⟨payment, db₁⟩ := created
      have hstored := (createPaymentFromExternal_eq_some hfind hcreate).2.2.2.2
      have hmem : payment ∈ db₁.payments.rows := (getPaymentByExternalId_eq_some.mp hstored).1
      exact (sessionsKept_createPaymentFromExternal hfind hcreate).trans (hfound hmem)

omit [PyText] in
/-- An upsert leaves the payments alone but the one it writes. -/
theorem mem_upsertPayment_cases {db : OrdersDB} {source : SourceSystem} {externalId : String}
    {fields : PaymentFields} {horder : ∃ o ∈ db.orders.rows, o.id = fields.orderId} {p : Payment}
    (hp : p ∈ (db.upsertPayment source externalId fields horder).2.2.payments.rows) :
    (p = (db.upsertPayment source externalId fields horder).1 ∧ p.sourceSystem = some source) ∨
      (p ∈ db.payments.rows ∧ p.id ≠ (db.upsertPayment source externalId fields horder).1.id) := by
  obtain ⟨-, -, ⟨existing, hfind, hrow, hrows⟩ | ⟨-, hrow, hrows⟩⟩ :=
    upsertPayment_spec db source externalId fields horder
  · obtain ⟨hmem, hsource, -⟩ := getPaymentByExternalId_eq_some.mp hfind
    rw [hrows, List.mem_map] at hp
    obtain ⟨p₀, hp₀, rfl⟩ := hp
    rw [hrow]
    by_cases hid : p₀.id = existing.id
    · obtain rfl : p₀ = existing := payment_eq_of_id_eq hmem hp₀ hid
      rw [if_pos (beq_self_eq_true _)]
      exact .inl ⟨rfl, hsource⟩
    · rw [if_neg (by simpa using hid)]
      exact .inr ⟨hp₀, hid⟩
  · rw [hrows, List.mem_append, List.mem_singleton] at hp
    rw [hrow]
    rcases hp with hp | rfl
    · exact .inr ⟨hp, (lt_newPaymentId hp).ne⟩
    · exact .inl ⟨rfl, rfl⟩

omit [PyText] in
/-- A call opens nothing without a request, or when the request fails. -/
theorem opening_eq_none {db : OrdersDB} {orderId : UUID} {configured : Bool}
    {gateway : CheckoutRequest → Except OMSError CheckoutResponse}
    (h : (createOrReuseCheckout db orderId configured gateway).request = none ∨
      ∃ e, (createOrReuseCheckout db orderId configured gateway).outcome = .error e) :
    opening db (.checkout orderId configured gateway) = none := by
  rw [opening]
  rcases h with hrequest | ⟨e, houtcome⟩
  · rw [hrequest]
  · rw [houtcome]
    cases (createOrReuseCheckout db orderId configured gateway).request <;> rfl

/-- A checkout opens a session over the order's total, or keeps the sessions there are. -/
theorem opened_checkout {h : ChargeHistory} {orderId : UUID} {configured : Bool}
    {gateway : CheckoutRequest → Except OMSError CheckoutResponse} (hopened : Opened h) :
    Opened (h.step (.checkout orderId configured gateway)) := by
  rcases createOrReuseCheckout_written h.db orderId configured gateway with
    ⟨hsame, hnothing⟩ | ⟨order, hmem, horder, request, response, hcall⟩
  · refine hopened.of_kept (opening_eq_none (hnothing.imp_right And.left)) ?_
    rw [checkoutStep, hsame]
    exact .refl h.db
  · have hdb := congrArg CheckoutCall.db hcall
    have hopening : opening h.db (.checkout orderId configured gateway) =
        some ((storeSession h.db hmem response).1.id, order.totalAmount, order.currency) := by
      rw [opening, hcall, horder]
    intro p hp hsession
    simp only [ChargeHistory.step, checkoutStep, hdb, hopening] at hp ⊢
    have hcases : (p = (storeSession h.db hmem response).1 ∧ p.sourceSystem = some .cashfree) ∨
        (p ∈ h.db.payments.rows ∧ p.id ≠ (storeSession h.db hmem response).1.id) :=
      mem_upsertPayment_cases hp
    rcases hcases with ⟨rfl, hsource⟩ | ⟨hold, hother⟩
    · obtain ⟨hamount, hcurrency⟩ : (storeSession h.db hmem response).1.amount = order.totalAmount ∧
          (storeSession h.db hmem response).1.currency = order.currency := upsertPayment_charges
      refine ⟨hsource, ?_⟩
      rw [if_pos rfl]
      exact congrArg some (Prod.ext hamount.symm hcurrency.symm)
    · rw [if_neg hother]
      exact hopened p hold hsession

/-- What one call keeps; the resyncs are Shopify's. -/
theorem opened_step (h : ChargeHistory) (op : CheckoutOp) (hopened : Opened h)
    (hshopify : ∀ data, op = .resync data → data.sourceSystem = .shopify) :
    Opened (h.step op) := by
  cases op with
  | checkout orderId configured gateway => exact opened_checkout hopened
  | paymentEvent e => exact hopened.of_kept rfl (sessionsKept_eventStep h.db e)
  | resync data =>
    exact hopened.of_kept rfl (sessionsKept_resyncStep (hshopify data rfl)
      fun p hp hsession => (hopened p hp hsession).1)

/-! ## Section 3: Runs -/

/-- No session was opened yet. -/
def NoSessions (db : OrdersDB) : Prop := ∀ p ∈ db.payments.rows, sessionOf p = none

/-- A checkout of an order that finds a session finds the total and the currency the order had
when that session was opened. -/
def ReusesUnchanged (h : ChargeHistory) : CheckoutOp → Prop
  | .checkout orderId _ _ => ∀ o ∈ h.db.getOrder orderId, Collectable o →
      ∀ p ∈ openSession h.db orderId, h.openedOver p.id = some (o.totalAmount, o.currency)
  | .paymentEvent _ | .resync _ => True

instance ReusesUnchanged.decidable (h : ChargeHistory) : ∀ op, Decidable (ReusesUnchanged h op)
  | .checkout orderId _ _ => inferInstanceAs (Decidable (∀ o ∈ h.db.getOrder orderId, _ → _))
  | .paymentEvent _ | .resync _ => inferInstanceAs (Decidable True)

/-- The history follows the run. -/
theorem db_run (h : ChargeHistory) (ops : List CheckoutOp) :
    (run ChargeHistory.step h ops).db = run checkoutStep h.db ops := by
  induction ops generalizing h with
  | nil => rfl
  | cons op ops ih => exact ih (h.step op)

theorem opened_run {h : ChargeHistory} (hopened : Opened h) {ops : List CheckoutOp}
    (hshopify : ∀ data, .resync data ∈ ops → data.sourceSystem = .shopify) :
    Opened (run ChargeHistory.step h ops) := by
  induction ops generalizing h with
  | nil => exact hopened
  | cons op ops ih =>
    refine ih (opened_step h op hopened ?_) fun data hdata => ?_
    · rintro data rfl
      exact hshopify data List.mem_cons_self
    · exact hshopify data (List.mem_cons_of_mem op hdata)

omit [PyText] in
/-- Where sessions are over what they were opened with, a checkout returns a payment over the
present total exactly when the total has not changed since. -/
theorem returnsCurrent_iff_reusesUnchanged {h : ChargeHistory} (hopened : Opened h)
    (orderId : UUID) (configured : Bool)
    (gateway : CheckoutRequest → Except OMSError CheckoutResponse) :
    ReturnsCurrent h.db orderId configured gateway ↔
      ReusesUnchanged h (.checkout orderId configured gateway) := by
  rw [returnsCurrent_iff]
  refine forall₅_congr fun o ho _ p hp => ?_
  obtain ⟨hmem, hsession⟩ := openSession_spec hp
  rw [(hopened p hmem hsession).2, Option.some_inj, Prod.mk.injEq]
  exact Iff.rfl

/-- From a database without sessions, in every order of checkouts, payment events and Shopify
resyncs: all checkouts return payments over the total and currency of their order at that
moment exactly when each one that finds a session finds the order's total and currency as they
were when the session was opened. -/
theorem checkout_charges_current_iff {db₀ : OrdersDB} (hnone : NoSessions db₀)
    {ops : List CheckoutOp}
    (hshopify : ∀ data, .resync data ∈ ops → data.sourceSystem = .shopify) :
    (∀ pre orderId configured gateway post,
      ops = pre ++ .checkout orderId configured gateway :: post →
        ReturnsCurrent (run checkoutStep db₀ pre) orderId configured gateway) ↔
    Along ChargeHistory.step ReusesUnchanged { db := db₀ } ops := by
  have hopened : Opened { db := db₀ } := fun p hp hsession => by
    rw [hnone p hp] at hsession
    cases hsession
  have hcall : ∀ pre op post, ops = pre ++ op :: post →
      Opened (run ChargeHistory.step { db := db₀ } pre) := by
    rintro pre op post rfl
    exact opened_run hopened fun data hdata => hshopify data (List.mem_append_left _ hdata)
  rw [along_iff_forall_split]
  constructor
  · intro h pre op post heq
    cases op with
    | checkout orderId configured gateway =>
      refine (returnsCurrent_iff_reusesUnchanged (hcall pre _ post heq) _ _ _).mp ?_
      rw [db_run]
      exact h pre orderId configured gateway post heq
    | paymentEvent e => exact True.intro
    | resync data => exact True.intro
  · intro h pre orderId configured gateway post heq
    have hreuse := h pre _ post heq
    have hcurrent :=
      (returnsCurrent_iff_reusesUnchanged (hcall pre _ post heq) orderId configured gateway).mpr
        hreuse
    rwa [db_run] at hcurrent

end Runs

/-! ## Section 4: An old charge -/

/-- An order synced from Shopify, not paid yet. -/
def unpaidOrder : OrdersDB where
  orders := Table.ofList [{
    id := 1, orderNumber := "#AWL1", sourceSystem := some .shopify, externalId := some "5501",
    externalUpdatedAt := some 100, totalAmount := 500,
    shippingAddress := some { city := some "Pune", contactPhone := some "9876543210" } }]
    (by decide)
  payments := Table.empty
  payment_order := by simp

/-- A version of the order with another total. -/
def totalledVersion (total : ℚ) : SyncedOrder :=
  { shopifyVersion .pending with totalAmount := total }

/-- A checkout, a resync, and another checkout. -/
def editedBetween (total : ℚ) : List CheckoutOp :=
  [.checkout 1 true accepting, .resync (totalledVersion total), .checkout 1 true accepting]

/-- After the order went from 500 to 700 the second checkout hands out the payment of 500. -/
theorem resync_leaves_old_charge :
    let db := run checkoutStep unpaidOrder ((editedBetween 700).take 2)
    (db.getOrder 1).map (·.totalAmount) = some 700 ∧
    ¬ ReturnsCurrent db 1 true accepting := by
  intro db
  have htotal : (db.getOrder 1).map (·.totalAmount) = some 700 := by decide
  refine ⟨htotal, fun hcurrent => ?_⟩
  -- the open session is the one of 500
  have hopen : (openSession db 1).map (·.amount) = some 500 := by decide
  obtain ⟨p, hp, hamount⟩ := Option.map_eq_some_iff.mp hopen
  obtain ⟨o, ho, hnew⟩ := Option.map_eq_some_iff.mp htotal
  have hcollectable : ∀ o ∈ db.getOrder 1, Collectable o := by decide
  have hcharges := returnsCurrent_iff.mp hcurrent o ho (hcollectable o ho) p hp
  rw [Charges, hamount, hnew] at hcharges
  exact absurd hcharges.1 (by decide)

theorem noSessions_unpaidOrder : NoSessions unpaidOrder :=
  fun _ hp => absurd hp List.not_mem_nil

/-- A resync that leaves the total alone. -/
theorem checkout_charges_current_unedited :
    ReturnsCurrent (run checkoutStep unpaidOrder ((editedBetween 500).take 2)) 1 true
      accepting := by
  have hshopify : ∀ data, CheckoutOp.resync data ∈ editedBetween 500 →
      data.sourceSystem = .shopify := by
    simp [editedBetween, totalledVersion, shopifyVersion]
  have hunchanged : Along ChargeHistory.step ReusesUnchanged { db := unpaidOrder }
      (editedBetween 500) := by decide
  exact (checkout_charges_current_iff noSessions_unpaidOrder hshopify).mpr hunchanged
    ((editedBetween 500).take 2) 1 true accepting [] rfl

end AyushOms.Payments
