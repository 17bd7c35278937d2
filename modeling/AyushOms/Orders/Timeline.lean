import AyushOms.Lib.Run
import AyushOms.Orders.Lifecycle

/-!
# The Timeline of an Order

Every writer of an order's status appends an event that records the new status, in the same
commit: creation, the status transitions and the deliveries from the store. A payment that
settles a pending order confirms it as well, and its event records the payment's status.

## Main results

- `timelineAgrees_step_iff`: one call
- `timeline_agrees_iff`: the runs in which the last recorded status is the order's status
-/

namespace AyushOms.Orders

open AyushOms.Lib AyushOms.Shopify AyushOms.Tracking AyushOms.Payments

/-! ## Section 1: The recorded status -/

/-- The events of an order that record its status, oldest first. -/
def statusEvents (db : OrdersDB) (orderId : UUID) : List OrderEvent :=
  db.orderEvents.filter fun e => e.orderId == orderId && statusEventTypes.contains e.eventType

/-- The status the most recent of them records. -/
def recordedStatus (db : OrdersDB) (orderId : UUID) : Option String :=
  (statusEvents db orderId).getLast?.bind (·.status)

/-- The timeline records every order's status. -/
def TimelineAgrees (db : OrdersDB) : Prop :=
  ∀ o ∈ db.orders.rows, recordedStatus db o.id = some o.status.value

instance (db : OrdersDB) : Decidable (TimelineAgrees db) :=
  inferInstanceAs (Decidable (∀ o ∈ db.orders.rows, _))

/-- Events of other types record nothing. -/
theorem recordedStatus_of_quiet {db db' : OrdersDB} {events : List OrderEvent}
    (hevents : db'.orderEvents = db.orderEvents ++ events)
    (hquiet : ∀ e ∈ events, e.eventType ∉ statusEventTypes) (orderId : UUID) :
    recordedStatus db' orderId = recordedStatus db orderId := by
  have hnone : events.filter (fun e => e.orderId == orderId &&
      statusEventTypes.contains e.eventType) = [] := by
    refine List.filter_eq_nil_iff.mpr fun e he => ?_
    simp [hquiet e he]
  simp only [recordedStatus, statusEvents, hevents, List.filter_append, hnone, List.append_nil]

/-- An event that records a status records it of its order. -/
theorem recordedStatus_append {db db' : OrdersDB} {e : OrderEvent}
    (hevents : db'.orderEvents = db.orderEvents ++ [e]) (he : e.eventType ∈ statusEventTypes)
    (orderId : UUID) :
    recordedStatus db' orderId =
      if e.orderId = orderId then e.status else recordedStatus db orderId := by
  by_cases hid : e.orderId = orderId
  · simp [recordedStatus, statusEvents, hevents, hid, he]
  · simp [recordedStatus, statusEvents, hevents, hid]

/-! ## Section 2: What the commits keep -/

theorem QuietCommit.timelineAgrees {db db' : OrdersDB} {events : List OrderEvent}
    (h : QuietCommit db db' events) (hdb : TimelineAgrees db) : TimelineAgrees db' := by
  intro o ho
  rw [h.orders_eq] at ho
  rw [recordedStatus_of_quiet h.events_eq h.quiet, hdb o ho]

/-- A write of an order's row that records the status it writes. -/
theorem OrderWrite.timelineAgrees_of_recorded {orderId : UUID} {f : Order → Order}
    {e : OrderEvent} {db db' : OrdersDB} (h : OrderWrite orderId f [e] db db')
    (he : e.eventType ∈ statusEventTypes) (heid : e.orderId = orderId)
    (hid : ∀ o, (f o).id = o.id)
    (hstatus : ∀ o ∈ db.orders.rows, o.id = orderId → e.status = some (f o).status.value)
    (hdb : TimelineAgrees db) : TimelineAgrees db' := by
  intro o' ho'
  rw [recordedStatus_append h.events_eq he, heid]
  obtain ⟨o, ho, ⟨rfl, rfl⟩ | ⟨hne, rfl⟩⟩ := h.mem ho'
  · rw [if_pos (hid o).symm]
    exact hstatus o ho rfl
  · rw [if_neg (Ne.symm hne)]
    exact hdb o' ho

/-- A write of an order's row that keeps its status and records none. -/
theorem OrderWrite.timelineAgrees_of_quiet {orderId : UUID} {f : Order → Order}
    {events : List OrderEvent} {db db' : OrdersDB} (h : OrderWrite orderId f events db db')
    (hquiet : ∀ e ∈ events, e.eventType ∉ statusEventTypes) (hid : ∀ o, (f o).id = o.id)
    (hstatus : ∀ o ∈ db.orders.rows, o.id = orderId → (f o).status = o.status)
    (hdb : TimelineAgrees db) : TimelineAgrees db' := by
  intro o' ho'
  rw [recordedStatus_of_quiet h.events_eq hquiet]
  obtain ⟨o, ho, ⟨heq, rfl⟩ | ⟨-, rfl⟩⟩ := h.mem ho'
  · rw [hid, hstatus o ho heq]
    exact hdb o ho
  · exact hdb o' ho

theorem PlainCommit.timelineAgrees {db db' : OrdersDB} (h : PlainCommit db db')
    (hdb : TimelineAgrees db) : TimelineAgrees db' := by
  cases h with
  | untouched events quiet => exact quiet.timelineAgrees hdb
  | created o source rows_eq events_eq =>
    have hnew : o ∈ db'.orders.rows := by
      rw [rows_eq]
      exact List.mem_append_right _ (List.mem_singleton_self o)
    intro o' ho'
    rw [recordedStatus_append events_eq (by simp [statusEventTypes])]
    by_cases hid : o.id = o'.id
    · rw [if_pos hid, OrdersDB.order_eq_of_id_eq ho' hnew hid]
    · rw [if_neg hid]
      rw [rows_eq, List.mem_append, List.mem_singleton] at ho'
      rcases ho' with ho' | rfl
      · exact hdb o' ho'
      · exact absurd rfl hid
  | resynced o mem f resync write =>
    refine write.timelineAgrees_of_recorded (by simp [statusEventTypes]) rfl
      (fun o => (resync o).id_eq) (fun o' ho' hid => ?_) hdb
    rw [OrdersDB.order_eq_of_id_eq mem ho' hid]

theorem OrderCommit.timelineAgrees {db db' : OrdersDB} (h : OrderCommit db db')
    (hdb : TimelineAgrees db) : TimelineAgrees db' := by
  cases h with
  | plain h => exact h.timelineAgrees hdb
  | transitioned o mem newStatus edge write =>
    exact write.timelineAgrees_of_recorded (by simp [statusEventTypes]) rfl (fun _ => rfl)
      (fun _ _ _ => rfl) hdb
  | attributed orderId telecallerId now write =>
    exact write.timelineAgrees_of_quiet (by simp) (fun _ => rfl) (fun _ _ _ => rfl) hdb
  | cleared orderId write =>
    exact write.timelineAgrees_of_quiet (by simp) (fun _ => rfl) (fun _ _ _ => rfl) hdb

/-! ## Section 3: Payment events -/

section Calls

variable [PyText]

/-- The event settles its payment, and the payment's order is still pending. -/
def ConfirmsPending (db : OrdersDB) (payment : Payment) (e : PaymentEvent) : Prop :=
  normalizePaymentStatus e.rawStatus = some .paid ∧ moneyProblem payment e = none ∧
    ¬ Recorded db e.cfPaymentId ∧
    ∃ o, db.getOrder payment.orderId = some o ∧ o.status = .pending

/-- A payment event, not stopped before its commit of the order, confirms a pending order. -/
def PaymentConfirms (db : OrdersDB) (e : PaymentEvent) (n : ℕ) : Prop :=
  match db.getPaymentByExternalId .cashfree e.cashfreeOrderId with
  | some payment => 3 ≤ n ∧ ConfirmsPending db payment e
  | none =>
    match createPaymentFromExternal db e.cashfreeOrderId with
    | none => False
    | some (payment, created) => 4 ≤ n ∧ ConfirmsPending created payment e

omit [PyText] in
/-- The commit that settles an order keeps the timeline unless the order is pending. -/
theorem timelineAgrees_markOrderPaid {db db' : OrdersDB} {o : Order} (ho : o ∈ db.orders.rows)
    (h : OrderWrite o.id markOrderPaid
      [⟨o.id, "payment.cashfree_paid", some PaymentStatus.paid.value, "cashfree"⟩] db db')
    (hdb : TimelineAgrees db) : TimelineAgrees db' ↔ o.status ≠ .pending := by
  have hquiet : ∀ e ∈ ([⟨o.id, "payment.cashfree_paid", some PaymentStatus.paid.value,
      "cashfree"⟩] : List OrderEvent), e.eventType ∉ statusEventTypes := by
    simp [statusEventTypes]
  constructor
  · intro hdb' hpending
    -- the order is confirmed now, and the last recorded status is still PENDING
    have hmem : markOrderPaid o ∈ db'.orders.rows := by
      rw [h.rows_eq]
      exact List.mem_map.mpr ⟨o, ho, if_pos rfl⟩
    have hstatus : (markOrderPaid o).status = .confirmed := by
      simp [markOrderPaid, hpending, orderStatusTransitions]
    have hrecorded := hdb' _ hmem
    rw [recordedStatus_of_quiet h.events_eq hquiet, hstatus] at hrecorded
    have hbefore := hdb o ho
    rw [show (markOrderPaid o).id = o.id from rfl, hbefore, hpending] at hrecorded
    exact absurd (Option.some.inj hrecorded) (by decide)
  · intro hne
    refine h.timelineAgrees_of_quiet hquiet (fun _ => rfl) (fun o' ho' hid => ?_) hdb
    rw [OrdersDB.order_eq_of_id_eq ho ho' hid]
    exact if_neg fun hpending => hne hpending.1

omit [PyText] in
/-- The writes of a first recorded result, stopped anywhere. -/
theorem timelineAgrees_settlePayment {db : OrdersDB} {payment : Payment} {e : PaymentEvent}
    {status : PaymentStatus} {o : Order} (hfind : db.getOrder payment.orderId = some o)
    (hdb : TimelineAgrees db) (m : ℕ) :
    TimelineAgrees ((settlePayment db payment e status).cut db m) ↔
      ¬ (2 ≤ m ∧ status = .paid ∧ o.status = .pending) := by
  have hwritten : TimelineAgrees (writePayment db payment e status) :=
    (QuietCommit.of_eq rfl rfl).timelineAgrees hdb
  have hfind' : (writePayment db payment e status).getOrder payment.orderId = some o := hfind
  unfold settlePayment
  rcases m with - | - | m
  · simpa using hdb
  · simpa using hwritten
  · rw [Staged.cut_commit_succ]
    by_cases hpaid : status = .paid
    · subst hpaid
      simp only [applyOrderState, hfind', if_true, Staged.cut_commit_succ, Staged.cut_done]
      have hwrite := orderWrite_updateOrder (writePayment db payment e .paid) o.id
        ⟨markOrderPaid, fun _ => rfl⟩
        [⟨o.id, "payment.cashfree_paid", some PaymentStatus.paid.value, "cashfree"⟩]
      refine (timelineAgrees_markOrderPaid (OrdersDB.getOrder_eq_some.mp hfind').1 hwrite
        hwritten).trans ?_
      simp
    · simp only [applyOrderState, hfind', if_neg hpaid, Staged.cut_commit_succ, Staged.cut_done]
      refine iff_of_true ?_ fun h => hpaid h.2.1
      have hquiet : ∀ (db : OrdersDB) (event : OrderEvent), event.eventType ∉ statusEventTypes →
          QuietCommit db (db.addOrderEvent event) [event] := fun db event hevent =>
        ⟨rfl, rfl, fun event' hmem => List.mem_singleton.mp hmem ▸ hevent⟩
      exact (hquiet _ _ (by simp [statusEventTypes])).timelineAgrees hwritten

theorem timelineAgrees_applyToPayment {db : OrdersDB} {payment : Payment} {e : PaymentEvent}
    (hpayment : payment ∈ db.payments.rows) (hdb : TimelineAgrees db) (m : ℕ) :
    TimelineAgrees ((applyToPayment db payment e).cut db m) ↔
      ¬ (3 ≤ m ∧ ConfirmsPending db payment e) := by
  have hrecorded : ∀ status, TimelineAgrees (recordTransaction db payment e status).1 :=
    fun status => (QuietCommit.of_eq (recordTransaction_frame db payment e status).2
      (orderEvents_recordTransaction db payment e status)).timelineAgrees hdb
  rcases applyToPayment_cases db payment e with ⟨reason, status, hmoney, h⟩ |
    ⟨status, reason, hstatus, hdup, h⟩ | ⟨status, hstatus, hmoney, -, hnew, h⟩
  · rw [h, Staged.cut_done]
    exact iff_of_true hdb fun h => hmoney h.2.1 h.2.2.1
  · rw [h]
    refine iff_of_true ?_ fun ⟨_, hpaid, _, hnot, _⟩ => ?_
    · cases m with
      | zero => rwa [Staged.cut_zero]
      | succ m =>
        rw [Staged.cut_commit_succ, Staged.cut_done]
        exact hrecorded status
    · rw [hstatus] at hpaid
      exact hnot (hdup (Option.some.inj hpaid))
  · obtain ⟨o, hfind⟩ := OrdersDB.getOrder_of_payment hpayment
    have hfind' : (recordTransaction db payment e status).1.getOrder payment.orderId = some o := by
      unfold OrdersDB.getOrder
      rw [(recordTransaction_frame db payment e status).2]
      exact hfind
    rw [h]
    cases m with
    | zero =>
      rw [Staged.cut_zero]
      exact iff_of_true hdb fun h => absurd h.1 (by decide)
    | succ m =>
      rw [Staged.cut_commit_succ, timelineAgrees_settlePayment hfind' (hrecorded status)]
      refine not_congr ⟨fun ⟨hm, hpaid, hpending⟩ => ?_,
        fun ⟨hm, hpaid, _, _, o', ho', hpending⟩ => ?_⟩
      · exact ⟨Nat.succ_le_succ hm, by rw [hstatus, hpaid], hmoney hpaid, hnew, o, hfind, hpending⟩
      · rw [hstatus] at hpaid
        rw [hfind] at ho'
        exact ⟨Nat.le_of_succ_le_succ hm, Option.some.inj hpaid, Option.some.inj ho' ▸ hpending⟩

omit [PyText] in
/-- A payment created for an order is stored. -/
theorem mem_createPaymentFromExternal {db created : OrdersDB} {cashfreeOrderId : String}
    {payment : Payment}
    (h : createPaymentFromExternal db cashfreeOrderId = some (payment, created))
    (hnew : db.getPaymentByExternalId .cashfree cashfreeOrderId = none) :
    payment ∈ created.payments.rows := by
  unfold createPaymentFromExternal at h
  split at h
  · cases h
  · rename_i order horder
    cases h
    obtain ⟨-, -, ⟨existing, hfind, -⟩ | ⟨-, hrow, hrows⟩⟩ := OrdersDB.upsertPayment_spec db
      .cashfree cashfreeOrderId (externalPaymentFields order cashfreeOrderId)
      ⟨order, externalOrder_mem horder, rfl⟩
    · rw [hnew] at hfind
      cases hfind
    · rw [hrow, hrows]
      exact List.mem_append_right _ (List.mem_singleton_self _)

theorem timelineAgrees_applyPaymentEvent {db : OrdersDB} {e : PaymentEvent}
    (hdb : TimelineAgrees db) (n : ℕ) :
    TimelineAgrees ((applyPaymentEvent db e).cut db n) ↔ ¬ PaymentConfirms db e n := by
  unfold applyPaymentEvent PaymentConfirms
  cases hfind : db.getPaymentByExternalId .cashfree e.cashfreeOrderId with
  | some payment =>
    exact timelineAgrees_applyToPayment
      (OrdersDB.getPaymentByExternalId_eq_some.mp hfind).1 hdb n
  | none =>
    cases hcreate : createPaymentFromExternal db e.cashfreeOrderId with
    | none => exact iff_of_true (by rwa [Staged.cut_done]) id
    | some created =>
      obtain ⟨payment, created⟩ := created
      have hcreated := (quietCommit_createPaymentFromExternal hcreate).timelineAgrees hdb
      cases n with
      | zero =>
        rw [Staged.cut_zero]
        exact iff_of_true hdb fun h => absurd h.1 (by decide)
      | succ n =>
        rw [Staged.cut_commit_succ, timelineAgrees_applyToPayment
          (mem_createPaymentFromExternal hcreate hfind) hcreated]
        exact not_congr (and_congr_left' Nat.succ_le_succ_iff.symm)

/-! ## Section 4: Runs -/

/-- The condition on a call: not a payment event that confirms a pending order. -/
def RecordsStatus (w : Oms) : OrderCall × ℕ → Prop
  | (.applyPaymentEvent e, n) => ¬ PaymentConfirms w.db.orders e n
  | _ => True

/-- A payment event writes what its own commits write. -/
theorem interrupt_applyPaymentEvent (w : Oms) (e : PaymentEvent) (n : ℕ) :
    Staged.interrupt OrderCall.request w (.applyPaymentEvent e, n) =
      w.setOrders ((applyPaymentEvent w.db.orders e).cut w.db.orders n) := by
  refine (Proc.cut_map n).trans ?_
  unfold OrderService.applyPaymentEvent
  rw [Staged.cut_andThen_done fun _ _ => ⟨_, rfl⟩]
  exact Staged.cut_lift w.setOrders _ w.db.orders n

theorem timelineAgrees_step_iff {w : Oms} (hw : TimelineAgrees w.db.orders)
    (e : OrderCall × ℕ) :
    TimelineAgrees (Staged.interrupt OrderCall.request w e).db.orders ↔ RecordsStatus w e := by
  obtain ⟨c, n⟩ := e
  have hservice : c.proc.Commits OmsCommit →
      TimelineAgrees (Staged.interrupt OrderCall.request w (c, n)).db.orders := fun h =>
    ((h (.authenticated c.actor) w).mono fun _ _ h => OrderCommit.timelineAgrees h).durable hw
      |>.cut hw n
  have hcommits := commits_call c
  cases c with
  | applyPaymentEvent e =>
    rw [interrupt_applyPaymentEvent]
    exact timelineAgrees_applyPaymentEvent hw n
  | _ => exact iff_of_true (hservice hcommits) True.intro

/-- Over every run of the calls, each cut anywhere: in every state reached the status of
every order is the one its timeline recorded last, exactly when every call of the run meets
the condition. -/
theorem timeline_agrees_iff {w : Oms} (hw : TimelineAgrees w.db.orders)
    (calls : List (OrderCall × ℕ)) :
    Throughout (Staged.interrupt OrderCall.request) (fun w => TimelineAgrees w.db.orders) w calls ↔
      Along (Staged.interrupt OrderCall.request) RecordsStatus w calls :=
  throughout_iff_along RecordsStatus (fun _ => True) (fun w => TimelineAgrees w.db.orders)
    (fun _ _ _ => True.intro) (fun _ e _ hw => timelineAgrees_step_iff hw e) calls True.intro hw

end Calls

/-- An order is created. -/
def createdOrder : Oms :=
  run (Staged.interrupt OrderCall.request) noOrders
    [(.createOrder { orderNumber := "A-1", items := [] } 10 none, 1)]

/-- The success of the order's payment, which the gateway knows by the order's number. -/
def paymentSuccess : PaymentEvent where
  cashfreeOrderId := "A-1"
  cfPaymentId := some "975672265"
  rawStatus := some "SUCCESS"
  amount := some 0

/-- Paid after it was confirmed, the order has the status its timeline recorded. -/
theorem timeline_agrees_confirmedFirst :
    TimelineAgrees (run (Staged.interrupt OrderCall.request) createdOrder
      [(.confirmOrder {} 1 3 20, 2), (.applyPaymentEvent paymentSuccess, 4)]).db.orders := by
  have hw : TimelineAgrees createdOrder.db.orders := by decide +kernel
  have hconfirmed := (timelineAgrees_step_iff hw (.confirmOrder {} 1 3 20, 2)).mpr True.intro
  have hpaid := (timelineAgrees_step_iff hconfirmed (.applyPaymentEvent paymentSuccess, 4)).mp
    (by decide +kernel)
  exact ((timeline_agrees_iff hw [(.confirmOrder {} 1 3 20, 2),
    (.applyPaymentEvent paymentSuccess, 4)]).mpr ⟨True.intro, hpaid, True.intro⟩).final

/-- A payment confirms the pending order, and the timeline still says that it is pending. -/
theorem payment_confirms_unrecorded :
    ¬ TimelineAgrees (run (Staged.interrupt OrderCall.request) createdOrder
      [(.applyPaymentEvent paymentSuccess, 4)]).db.orders := by
  decide +kernel

end AyushOms.Orders
