import AyushOms.Lib.Run
import AyushOms.Payments.Service

/-!
# Safety of Payment Events

What `apply_payment_event` may do to payments and orders, whatever the order of the events,
their duplicates and the points at which calls are cut: a paid payment stays paid, only a
verified success makes a payment paid, and an order moves only on behalf of one of its own
payments.

## Main results

- `safeStep_cut`: one call, cut anywhere
- `run_safe`: every call of every run, and paid payments over whole runs
-/

namespace AyushOms.Payments

open AyushOms.Lib AyushOms.Orders AyushOms.Orders.OrdersDB

variable [PyText]

/-! ## Section 1: One call -/

/-- A paid order column and a confirmation, against the order before. -/
def PaidBy (o o' : Order) : Prop :=
  o'.paymentStatus = .paid ∧
    (o'.status = o.status ∨ o.status = .pending ∧ o'.status = .confirmed)

/-- What processing the event `e` may do between two database states. -/
structure SafeStep (e : PaymentEvent) (db db' : OrdersDB) : Prop where
  /-- A paid payment stays paid. -/
  paid_kept : ∀ p ∈ db.payments.rows, p.status = .paid →
    ∃ p' ∈ db'.payments.rows, p'.id = p.id ∧ p'.status = .paid
  /-- A payment becomes paid only on a verified success for it. -/
  paid_earned : ∀ p' ∈ db'.payments.rows, p'.status = .paid →
    (∃ p ∈ db.payments.rows, p.id = p'.id ∧ p.status = .paid) ∨ ValidSuccess e p'
  /-- An order is paid and confirmed only on a verified success for one of its payments. -/
  order_earned : ∀ o' ∈ db'.orders.rows, ∃ o ∈ db.orders.rows, o.id = o'.id ∧
    (o'.paymentStatus = o.paymentStatus ∧ o'.status = o.status ∨
      PaidBy o o' ∧ ∃ p ∈ db'.payments.rows,
        p.orderId = o.id ∧ p.status = .paid ∧ ValidSuccess e p)

/-- A call that leaves payments and orders alone is safe. -/
theorem SafeStep.of_tables_eq {e : PaymentEvent} {db db' : OrdersDB}
    (hp : db'.payments = db.payments) (ho : db'.orders = db.orders) : SafeStep e db db' where
  paid_kept p hmem hpaid := ⟨p, hp ▸ hmem, rfl, hpaid⟩
  paid_earned p hmem hpaid := .inl ⟨p, hp ▸ hmem, rfl, hpaid⟩
  order_earned o hmem := ⟨o, ho ▸ hmem, rfl, .inl ⟨rfl, rfl⟩⟩

/-- Safety is about payments and orders only. -/
theorem SafeStep.congr_left {e : PaymentEvent} {db db₁ db' : OrdersDB}
    (hp : db₁.payments = db.payments) (ho : db₁.orders = db.orders) (h : SafeStep e db₁ db') :
    SafeStep e db db' where
  paid_kept := by rw [← hp]; exact h.paid_kept
  paid_earned := by rw [← hp]; exact h.paid_earned
  order_earned := by rw [← ho]; exact h.order_earned

/-- An applied success is valid for the payment as it is written. -/
theorem ValidSuccess.write {e : PaymentEvent} {p : Payment} (h : ValidSuccess e p)
    (status : PaymentStatus) : ValidSuccess e (e.write status p) :=
  ⟨h.sourceSystem, h.externalId, h.status, h.amount, h.currency⟩

omit [PyText] in
/-- The payments after the write: the one the event is for, and the others. -/
theorem mem_writePayment {db : OrdersDB} {payment : Payment} (hmem : payment ∈ db.payments.rows)
    {e : PaymentEvent} {status : PaymentStatus} {p' : Payment} :
    p' ∈ (writePayment db payment e status).payments.rows ↔
      p' = e.write status payment ∨ p' ∈ db.payments.rows ∧ p'.id ≠ payment.id := by
  simp only [writePayment, updatePayment, Table.mem_modify, beq_iff_eq]
  constructor
  · rintro ⟨p, hp, ⟨hid, rfl⟩ | ⟨hid, rfl⟩⟩
    · rw [payment_eq_of_id_eq hmem hp hid]
      exact .inl rfl
    · exact .inr ⟨hp, hid⟩
  · rintro (rfl | ⟨hp, hid⟩)
    · exact ⟨payment, hmem, .inl ⟨rfl, rfl⟩⟩
    · exact ⟨p', hp, .inr ⟨hid, rfl⟩⟩

/-- Writing the payment is safe. -/
theorem safeStep_writePayment {db : OrdersDB} {payment : Payment}
    (hmem : payment ∈ db.payments.rows) {e : PaymentEvent} {status : PaymentStatus}
    (hvalid : status = .paid → ValidSuccess e payment)
    (hsticky : status ≠ .paid → payment.status ≠ .paid) :
    SafeStep e db (writePayment db payment e status) where
  paid_kept p hp hpaid := by
    -- the written payment stays paid because a paid one is only written with paid
    by_cases hid : p.id = payment.id
    · have heq : p = payment := payment_eq_of_id_eq hmem hp hid
      have hstatus : status = .paid := by
        by_contra hne
        exact hsticky hne (heq ▸ hpaid)
      exact ⟨_, (mem_writePayment hmem).mpr (.inl rfl), hid.symm, hstatus⟩
    · exact ⟨p, (mem_writePayment hmem).mpr (.inr ⟨hp, hid⟩), rfl, hpaid⟩
  paid_earned p' hp' hpaid := by
    rcases (mem_writePayment hmem).mp hp' with rfl | ⟨hp, _⟩
    · exact .inr ((hvalid hpaid).write status)
    · exact .inl ⟨p', hp, rfl, hpaid⟩
  order_earned o ho := ⟨o, ho, rfl, .inl ⟨rfl, rfl⟩⟩

omit [PyText] in
theorem paidBy_markOrderPaid (o : Order) : PaidBy o (markOrderPaid o) := by
  refine ⟨rfl, ?_⟩
  simp only [markOrderPaid]
  split
  · rename_i h
    exact .inr ⟨h.1, rfl⟩
  · exact .inl rfl

omit [PyText] in
/-- The orders and payments after the order's turn. -/
theorem applyOrderState_eq_some {db db' : OrdersDB} {payment : Payment}
    {status : PaymentStatus} (h : applyOrderState db payment status = some db') :
    db'.payments = db.payments ∧
      ((status ≠ .paid ∧ db'.orders = db.orders) ∨
        status = .paid ∧ db'.orders.rows =
          db.orders.rows.map fun o => if o.id = payment.orderId then markOrderPaid o else o) := by
  unfold applyOrderState at h
  split at h
  · cases h
  · rename_i order horder
    have hid : order.id = payment.orderId := (getOrder_eq_some.mp horder).2
    split at h
    · rename_i hpaid
      cases h
      refine ⟨rfl, .inr ⟨hpaid, ?_⟩⟩
      simp [addOrderEvent, updateOrder, hid]
    · rename_i hne
      cases h
      exact ⟨rfl, .inl ⟨hne, rfl⟩⟩

/-- Every state a recorded event commits is safe. -/
theorem durable_settlePayment {db : OrdersDB} {payment : Payment}
    (hmem : payment ∈ db.payments.rows) {e : PaymentEvent} {status : PaymentStatus}
    (hvalid : status = .paid → ValidSuccess e payment)
    (hsticky : status ≠ .paid → payment.status ≠ .paid) :
    (settlePayment db payment e status).Durable (SafeStep e db) := by
  have hwrite := safeStep_writePayment hmem hvalid hsticky
  refine ⟨hwrite, ?_⟩
  -- the payment is committed; the order's commit adds the paid columns
  cases hstate : applyOrderState (writePayment db payment e status) payment status with
  | none => exact True.intro
  | some ordered =>
    refine ⟨?_, True.intro⟩
    obtain ⟨hpayments, horders⟩ := applyOrderState_eq_some hstate
    refine ⟨?_, ?_, ?_⟩
    · rw [hpayments]
      exact hwrite.paid_kept
    · rw [hpayments]
      exact hwrite.paid_earned
    · rcases horders with ⟨_, horders⟩ | ⟨hpaid, horders⟩
      · rw [horders, hpayments]
        exact hwrite.order_earned
      · intro o' ho'
        rw [horders, List.mem_map] at ho'
        obtain ⟨o, ho, rfl⟩ := ho'
        -- the payment's own order is paid on its behalf, the others stay
        by_cases hid : o.id = payment.orderId
        · rw [if_pos hid]
          refine ⟨o, ho, rfl, .inr ⟨paidBy_markOrderPaid o, e.write status payment, ?_,
            hid.symm, hpaid, (hvalid hpaid).write status⟩⟩
          rw [hpayments]
          exact (mem_writePayment hmem).mpr (.inl rfl)
        · rw [if_neg hid]
          exact ⟨o, ho, rfl, .inl ⟨rfl, rfl⟩⟩

/-- Every state the part after the lookup commits is safe. -/
theorem durable_applyToPayment {db : OrdersDB} {payment : Payment} {e : PaymentEvent}
    (hfound : db.getPaymentByExternalId .cashfree e.cashfreeOrderId = some payment) :
    (applyToPayment db payment e).Durable (SafeStep e db) := by
  obtain ⟨hmem, hsource, hexternal⟩ := getPaymentByExternalId_eq_some.mp hfound
  obtain ⟨_, _, _, h⟩ | ⟨status, _, _, _, h⟩ | ⟨status, hstatus, hmoney, hsticky, _, h⟩ :=
    applyToPayment_cases db payment e
  · -- refused before any commit
    rw [h]
    exact True.intro
  · rw [h]
    obtain ⟨hp, ho⟩ := recordTransaction_frame db payment e status
    exact ⟨SafeStep.of_tables_eq hp ho, True.intro⟩
  · rw [h]
    obtain ⟨hp, ho⟩ := recordTransaction_frame db payment e status
    refine ⟨SafeStep.of_tables_eq hp ho, ?_⟩
    have hvalid : status = .paid → ValidSuccess e payment := by
      intro hpaid
      obtain ⟨hamount, hcurrency⟩ := moneyProblem_eq_none_iff.mp (hmoney hpaid)
      exact ⟨hsource, hexternal, hpaid ▸ hstatus, hamount, hcurrency⟩
    exact (durable_settlePayment (hp ▸ hmem) hvalid hsticky).mono
      fun _ hsafe => hsafe.congr_left hp ho

/-! ## Section 2: Creating the payment row -/

omit [PyText] in
/-- The payment created for a Cashfree order the OMS had no payment for: pending, with the
order's amount, found under the Cashfree order id. -/
theorem createPaymentFromExternal_eq_some {db db' : OrdersDB} {cashfreeOrderId : String}
    {payment : Payment} (hnone : db.getPaymentByExternalId .cashfree cashfreeOrderId = none)
    (h : createPaymentFromExternal db cashfreeOrderId = some (payment, db')) :
    db'.orders = db.orders ∧ db'.paymentTransactions = db.paymentTransactions ∧
      payment.status = .pending ∧ db'.payments.rows = db.payments.rows ++ [payment] ∧
      db'.getPaymentByExternalId .cashfree cashfreeOrderId = some payment := by
  unfold createPaymentFromExternal at h
  split at h
  · cases h
  · rename_i order horder
    simp only [Option.some.injEq, Prod.mk.injEq] at h
    obtain ⟨horders, htransactions, ⟨existing, hfind, _⟩ | ⟨_, hrow, hrows⟩⟩ :=
      upsertPayment_spec db .cashfree cashfreeOrderId
        (externalPaymentFields order cashfreeOrderId) ⟨order, externalOrder_mem horder, rfl⟩
    · rw [hnone] at hfind
      cases hfind
    · obtain ⟨rfl, rfl⟩ := h
      rw [hrow, hrows]
      refine ⟨horders, htransactions, rfl, rfl, ?_⟩
      rw [getPaymentByExternalId_eq_some, hrows]
      exact ⟨List.mem_append_right _ (List.mem_singleton_self _), rfl, rfl⟩

/-- A new pending payment is no obstacle to safety. -/
theorem SafeStep.of_created {e : PaymentEvent} {db db₁ db' : OrdersDB} {payment : Payment}
    (horders : db₁.orders = db.orders) (hrows : db₁.payments.rows = db.payments.rows ++ [payment])
    (hpending : payment.status = .pending) (h : SafeStep e db₁ db') : SafeStep e db db' where
  paid_kept p hp := h.paid_kept p (hrows ▸ List.mem_append_left _ hp)
  paid_earned p' hp' hpaid := by
    rcases h.paid_earned p' hp' hpaid with ⟨p, hp, hid, hpaid'⟩ | hvalid
    · rw [hrows, List.mem_append, List.mem_singleton] at hp
      rcases hp with hp | rfl
      · exact .inl ⟨p, hp, hid, hpaid'⟩
      · rw [hpending] at hpaid'
        cases hpaid'
    · exact .inr hvalid
  order_earned := horders ▸ h.order_earned

/-- Every state `apply_payment_event` commits is safe. -/
theorem durable_applyPaymentEvent (db : OrdersDB) (e : PaymentEvent) :
    (applyPaymentEvent db e).Durable (SafeStep e db) := by
  unfold applyPaymentEvent
  cases hfind : db.getPaymentByExternalId .cashfree e.cashfreeOrderId with
  | some payment => exact durable_applyToPayment hfind
  | none =>
    cases hcreate : createPaymentFromExternal db e.cashfreeOrderId with
    | none => exact True.intro
    -- the new row is pending, so the call is as safe as one that found it
    | some created =>
      obtain ⟨payment, db₁⟩ := created
      obtain ⟨horders, _, hpending, hrows, hfound⟩ :=
        createPaymentFromExternal_eq_some hfind hcreate
      have hlift : ∀ db', SafeStep e db₁ db' → SafeStep e db db' :=
        fun _ => SafeStep.of_created horders hrows hpending
      exact ⟨hlift db₁ (SafeStep.of_tables_eq rfl rfl),
        (durable_applyToPayment hfound).mono hlift⟩

/-- A call cut anywhere is safe. -/
theorem safeStep_cut (db : OrdersDB) (e : PaymentEvent) (n : ℕ) :
    SafeStep e db ((applyPaymentEvent db e).cut db n) :=
  (durable_applyPaymentEvent db e).cut (SafeStep.of_tables_eq rfl rfl) n

/-! ## Section 3: Events that mark nothing paid -/

/-- The event marks its payment paid: it is applied, and its status maps to paid. -/
def MarksPaid (db : OrdersDB) (e : PaymentEvent) : Prop :=
  (applyPaymentEvent db e).result.applied = true ∧
    (applyPaymentEvent db e).result.mappedStatus = some .paid

omit [PyText] in
/-- A settlement of another status than paid leaves the orders alone. -/
theorem durable_orders_settlePayment {db : OrdersDB} {payment : Payment} {e : PaymentEvent}
    {status : PaymentStatus} (hne : status ≠ .paid) :
    (settlePayment db payment e status).Durable fun db' => db'.orders = db.orders := by
  refine ⟨rfl, ?_⟩
  cases hstate : applyOrderState (writePayment db payment e status) payment status with
  | none => exact True.intro
  | some ordered =>
    obtain ⟨_, ⟨_, horders⟩ | ⟨hpaid, _⟩⟩ := applyOrderState_eq_some hstate
    · exact ⟨horders, True.intro⟩
    · exact absurd hpaid hne

omit [PyText] in
theorem result_settlePayment (db : OrdersDB) (payment : Payment) (e : PaymentEvent)
    (status : PaymentStatus) :
    (settlePayment db payment e status).result =
      ⟨true, none, some payment.id, some status⟩ := by
  unfold settlePayment
  cases applyOrderState (writePayment db payment e status) payment status <;> rfl

theorem durable_orders_applyToPayment {db : OrdersDB} {payment : Payment} {e : PaymentEvent}
    (hmark : ¬ ((applyToPayment db payment e).result.applied = true ∧
      (applyToPayment db payment e).result.mappedStatus = some .paid)) :
    (applyToPayment db payment e).Durable fun db' => db'.orders = db.orders := by
  obtain ⟨_, _, _, h⟩ | ⟨status, _, _, _, h⟩ | ⟨status, _, _, _, _, h⟩ :=
    applyToPayment_cases db payment e
  · rw [h]
    exact True.intro
  · rw [h]
    exact ⟨(recordTransaction_frame db payment e status).2, True.intro⟩
  · rw [h, Staged.result_commit, result_settlePayment] at hmark
    have hne : status ≠ .paid := fun hpaid => hmark ⟨rfl, by rw [hpaid]⟩
    have horders := (recordTransaction_frame db payment e status).2
    rw [h]
    exact ⟨horders, (durable_orders_settlePayment hne).mono fun _ h' => h'.trans horders⟩

/-- An event that marks no payment paid leaves every order as it was, wherever the call is
cut. -/
theorem orders_cut_of_not_marksPaid {db : OrdersDB} {e : PaymentEvent}
    (hmark : ¬ MarksPaid db e) (n : ℕ) :
    ((applyPaymentEvent db e).cut db n).orders = db.orders := by
  have hdurable : (applyPaymentEvent db e).Durable fun db' => db'.orders = db.orders := by
    -- what the call returns is decided after the payment is found or created
    unfold MarksPaid applyPaymentEvent at hmark
    unfold applyPaymentEvent
    cases hfind : db.getPaymentByExternalId .cashfree e.cashfreeOrderId with
    | some payment =>
      rw [hfind] at hmark
      exact durable_orders_applyToPayment hmark
    | none =>
      rw [hfind] at hmark
      cases hcreate : createPaymentFromExternal db e.cashfreeOrderId with
      | none => exact True.intro
      | some created =>
        rw [hcreate] at hmark
        obtain ⟨horders, _⟩ := createPaymentFromExternal_eq_some hfind hcreate
        exact ⟨horders, (durable_orders_applyToPayment hmark).mono fun _ h => h.trans horders⟩
  exact hdurable.cut rfl n

/-! ## Section 4: Runs of calls -/

/-- One call of `apply_payment_event`, and after how many of its commits it is cut; a
number beyond its commits lets it run to its end. -/
structure PaymentCall where
  event : PaymentEvent
  cutAfter : ℕ

/-- The state a call leaves when nothing interrupts it. -/
def eventStep (db : OrdersDB) (e : PaymentEvent) : OrdersDB :=
  (applyPaymentEvent db e).final db

/-- The durable state a call leaves. -/
def callStep (db : OrdersDB) (call : PaymentCall) : OrdersDB :=
  (applyPaymentEvent db call.event).cut db call.cutAfter

omit [PyText] in
theorem commits_settlePayment (db : OrdersDB) (payment : Payment) (e : PaymentEvent)
    (status : PaymentStatus) : (settlePayment db payment e status).commits ≤ 2 := by
  unfold settlePayment
  cases applyOrderState (writePayment db payment e status) payment status <;>
    simp [Staged.commits]

theorem commits_applyToPayment (db : OrdersDB) (payment : Payment) (e : PaymentEvent) :
    (applyToPayment db payment e).commits ≤ 3 := by
  obtain ⟨_, _, _, h⟩ | ⟨status, _, _, _, h⟩ | ⟨status, _, _, _, _, h⟩ :=
    applyToPayment_cases db payment e
  · simp [h, Staged.commits]
  · simp [h, Staged.commits]
  · rw [h]
    exact Nat.succ_le_succ (commits_settlePayment _ payment e status)

/-- A call commits at most four times. -/
theorem commits_applyPaymentEvent (db : OrdersDB) (e : PaymentEvent) :
    (applyPaymentEvent db e).commits ≤ 4 := by
  unfold applyPaymentEvent
  cases db.getPaymentByExternalId .cashfree e.cashfreeOrderId with
  | some payment => exact (commits_applyToPayment db payment e).trans (by decide)
  | none =>
    cases createPaymentFromExternal db e.cashfreeOrderId with
    | none => simp [Staged.commits]
    | some created => exact Nat.succ_le_succ (commits_applyToPayment created.2 created.1 e)

/-- The calls of a source that nothing interrupts. -/
def wholeCalls (events : List PaymentEvent) : List PaymentCall :=
  events.map fun e => ⟨e, 4⟩

/-- A source that nothing interrupts makes one whole call after the other. -/
theorem run_wholeCalls (db : OrdersDB) (events : List PaymentEvent) :
    run callStep db (wholeCalls events) = run eventStep db events := by
  induction events generalizing db with
  | nil => rfl
  | cons e events ih =>
    have hwhole : callStep db ⟨e, 4⟩ = eventStep db e :=
      Staged.cut_of_commits_le (commits_applyPaymentEvent db e)
    rw [wholeCalls, List.map_cons, run_cons, hwhole, run_cons]
    exact ih (eventStep db e)

/-- Paid payments stay paid over any run. -/
theorem paid_kept_run {db : OrdersDB} {p : Payment} (hp : p ∈ db.payments.rows)
    (hpaid : p.status = .paid) (calls : List PaymentCall) :
    ∃ p' ∈ (run callStep db calls).payments.rows, p'.id = p.id ∧ p'.status = .paid := by
  have hrel := run_rel callStep
    (R := fun db db' => ∀ id, (∃ p ∈ db.payments.rows, p.id = id ∧ p.status = .paid) →
      ∃ p ∈ db'.payments.rows, p.id = id ∧ p.status = .paid)
    (fun _ _ h => h) (fun h h' id hid => h' id (h id hid))
    (fun db call id ⟨p, hp, hid, hpaid⟩ => by
      obtain ⟨p', hp', hid', hpaid'⟩ :=
        (safeStep_cut db call.event call.cutAfter).paid_kept p hp hpaid
      exact ⟨p', hp', hid'.trans hid, hpaid'⟩)
    db calls
  exact hrel p.id ⟨p, hp, rfl, hpaid⟩

/-- Over every run of payment events, in any order, with duplicates and cut anywhere: a
payment that is paid stays paid; every call makes a payment paid, or an order paid or
confirmed, only on a verified success for that payment, one of that order's; and a call
that marks no payment paid leaves every order alone. -/
theorem run_safe (db₀ : OrdersDB) (calls : List PaymentCall) :
    (∀ p ∈ db₀.payments.rows, p.status = .paid →
      ∃ p' ∈ (run callStep db₀ calls).payments.rows, p'.id = p.id ∧ p'.status = .paid) ∧
    ∀ pre call post, calls = pre ++ call :: post →
      let db := run callStep db₀ pre
      let db' := run callStep db₀ (pre ++ [call])
      SafeStep call.event db db' ∧
        (¬ MarksPaid db call.event → db'.orders = db.orders) := by
  -- the last step of `pre ++ [call]` is the call in the state `pre` leaves
  refine ⟨fun p hp hpaid => paid_kept_run hp hpaid calls, ?_⟩
  intro pre call post _ db db'
  have hdb' : db' = callStep db call := by
    simp only [db', run_append, run_cons, run_nil]
    rfl
  rw [hdb']
  exact ⟨safeStep_cut db call.event call.cutAfter,
    fun hmark => orders_cut_of_not_marksPaid hmark call.cutAfter⟩

/-- Both pull sources are runs of whole calls: `reconcile_payment` over the attempts the
gateway reports, `sync_transactions` over the rows of a page. -/
def reconcilePayment (db : OrdersDB) (orderId : UUID) (configured : Bool)
    (gateway : String → Except OMSError (List GatewayPayment)) (now : Instant) :
    Except OMSError OrdersDB := do
  let events ← reconcileEvents db orderId configured gateway now
  return run eventStep db events

/-- `sync_transactions` over the rows of a page. -/
def syncTransactions (db : OrdersDB) (rows : List ReconRow) (now : Instant) : OrdersDB :=
  run eventStep db (syncEvents rows now)

/-- A reconciliation undoes no payment. -/
theorem paid_kept_reconcilePayment {db db' : OrdersDB} {orderId : UUID} {configured : Bool}
    {gateway : String → Except OMSError (List GatewayPayment)} {now : Instant}
    (h : reconcilePayment db orderId configured gateway now = .ok db') {p : Payment}
    (hp : p ∈ db.payments.rows) (hpaid : p.status = .paid) :
    ∃ p' ∈ db'.payments.rows, p'.id = p.id ∧ p'.status = .paid := by
  unfold reconcilePayment at h
  cases hevents : reconcileEvents db orderId configured gateway now with
  | error err =>
    rw [hevents] at h
    cases h
  | ok events =>
    rw [hevents] at h
    cases h
    rw [← run_wholeCalls]
    exact paid_kept_run hp hpaid _

/-- A recon sync undoes no payment. -/
theorem paid_kept_syncTransactions {db : OrdersDB} (rows : List ReconRow) (now : Instant)
    {p : Payment} (hp : p ∈ db.payments.rows) (hpaid : p.status = .paid) :
    ∃ p' ∈ (syncTransactions db rows now).payments.rows, p'.id = p.id ∧ p'.status = .paid := by
  rw [syncTransactions, ← run_wholeCalls]
  exact paid_kept_run hp hpaid _

end AyushOms.Payments
