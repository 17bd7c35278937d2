import AyushOms.Orders.Outcomes
import AyushOms.Payments.Safety

/-!
# The Life of an Order

The calls that write orders (creation, the status endpoint, confirming and unconfirming,
payment events, deliveries from the store), what a single commit of any of them does to the
orders and to the timeline, and runs of these calls, each of which may be cut after any of
its commits.

## Main results

- `commits_call`: what every commit of every call does
- `status_changes_are_edges`: every change of an order's status, over every run, is an edge of
  `ORDER_STATUS_TRANSITIONS`, and a resync only ever cancels
-/

namespace AyushOms.Orders

open AyushOms.Lib AyushOms.Shopify AyushOms.Tracking

/-! ## Section 1: What one commit does -/

/-- The events that record an order's status. -/
def statusEventTypes : List String := ["order_created", "status_changed", "order_synced"]

/-- The order with this id is written by `f`, and the events are appended to the timeline. -/
structure OrderWrite (orderId : UUID) (f : Order → Order) (events : List OrderEvent)
    (db db' : OrdersDB) : Prop where
  rows_eq : db'.orders.rows = db.orders.rows.map fun o => if o.id = orderId then f o else o
  events_eq : db'.orderEvents = db.orderEvents ++ events

/-- The columns of an order a delivery from the store keeps, and the one status it may
write. -/
structure ResyncOf (o o' : Order) : Prop where
  id_eq : o'.id = o.id
  telecaller_eq : o'.confirmedByTelecallerId = o.confirmedByTelecallerId
  confirmedAt_eq : o'.confirmedAt = o.confirmedAt
  status : o'.status = o.status ∨
    o'.status = .cancelled ∧ .cancelled ∈ orderStatusTransitions o.status

/-- A commit that touches no order and appends no event that records a status. -/
structure QuietCommit (db db' : OrdersDB) (events : List OrderEvent) : Prop where
  orders_eq : db'.orders = db.orders
  events_eq : db'.orderEvents = db.orderEvents ++ events
  quiet : ∀ e ∈ events, e.eventType ∉ statusEventTypes

/-- What a commit outside the status machine and the attribution does to the orders and the
timeline. -/
inductive PlainCommit (db db' : OrdersDB) : Prop where
  | untouched (events : List OrderEvent) (quiet : QuietCommit db db' events)
  | created (o : Order) (source : String)
      (rows_eq : db'.orders.rows = db.orders.rows ++ [o])
      (events_eq : db'.orderEvents =
        db.orderEvents ++ [⟨o.id, "order_created", some o.status.value, source⟩])
      (unattributed : o.confirmedByTelecallerId = none ∧ o.confirmedAt = none)
  | resynced (o : Order) (mem : o ∈ db.orders.rows) (f : Order → Order)
      (resync : ∀ o, ResyncOf o (f o))
      (write : OrderWrite o.id f
        [⟨o.id, "order_synced", some (f o).status.value, "shopify"⟩] db db')

/-- What a commit of a payment event does to the orders and the timeline. -/
inductive PaymentCommit (db db' : OrdersDB) : Prop where
  | untouched (events : List OrderEvent) (quiet : QuietCommit db db' events)
  | settled (o : Order) (mem : o ∈ db.orders.rows)
      (write : OrderWrite o.id Payments.markOrderPaid
        [⟨o.id, "payment.cashfree_paid", some PaymentStatus.paid.value, "cashfree"⟩] db db')

/-- What a commit of the order service does to the orders and the timeline. -/
inductive OrderCommit (db db' : OrdersDB) : Prop where
  | plain (h : PlainCommit db db')
  | transitioned (o : Order) (mem : o ∈ db.orders.rows) (newStatus : OrderStatus)
      (edge : newStatus ∈ orderStatusTransitions o.status)
      (write : OrderWrite o.id (OrdersDB.setStatus newStatus)
        [⟨o.id, "status_changed", some newStatus.value, "system"⟩] db db')
  | attributed (orderId telecallerId : UUID) (now : Instant)
      (write : OrderWrite orderId (OrdersDB.setAttribution telecallerId now) [] db db')
  | cleared (orderId : UUID) (write : OrderWrite orderId OrdersDB.clearAttribution [] db db')

/-- The orders and the timeline are as they were. -/
theorem QuietCommit.of_eq {db db' : OrdersDB} (horders : db'.orders = db.orders)
    (hevents : db'.orderEvents = db.orderEvents) : QuietCommit db db' [] :=
  ⟨horders, by rw [hevents, List.append_nil], by simp⟩

theorem PlainCommit.of_eq {db db' : OrdersDB} (horders : db'.orders = db.orders)
    (hevents : db'.orderEvents = db.orderEvents) : PlainCommit db db' :=
  .untouched [] (.of_eq horders hevents)

theorem PaymentCommit.of_eq {db db' : OrdersDB} (horders : db'.orders = db.orders)
    (hevents : db'.orderEvents = db.orderEvents) : PaymentCommit db db' :=
  .untouched [] (.of_eq horders hevents)

/-- The id of the written order decides which row is written. -/
theorem orderWrite_updateOrder (db : OrdersDB) (orderId : UUID)
    (f : Table.KeyPreserving Order.keys) (events : List OrderEvent) :
    OrderWrite orderId f events db
      { db.updateOrder orderId f with orderEvents := db.orderEvents ++ events } where
  rows_eq := by simp [OrdersDB.updateOrder]
  events_eq := rfl

/-- A write without an event. -/
theorem orderWrite_updateOrder_nil (db : OrdersDB) (orderId : UUID)
    (f : Table.KeyPreserving Order.keys) :
    OrderWrite orderId f [] db (db.updateOrder orderId f) where
  rows_eq := by simp [OrdersDB.updateOrder]
  events_eq := (List.append_nil _).symm

/-- An order after a write was there before, and has been written when the id is its. -/
theorem OrderWrite.mem {orderId : UUID} {f : Order → Order} {events : List OrderEvent}
    {db db' : OrdersDB} (h : OrderWrite orderId f events db db') {o' : Order}
    (ho' : o' ∈ db'.orders.rows) :
    ∃ o ∈ db.orders.rows, (o.id = orderId ∧ o' = f o) ∨ (o.id ≠ orderId ∧ o' = o) := by
  rw [h.rows_eq, List.mem_map] at ho'
  obtain ⟨o, ho, rfl⟩ := ho'
  by_cases hid : o.id = orderId
  · exact ⟨o, ho, .inl ⟨hid, if_pos hid⟩⟩
  · exact ⟨o, ho, .inr ⟨hid, if_neg hid⟩⟩

/-! ## Section 2: The transactions -/

theorem plainCommit_createOrder {db db' : OrdersDB} {r : NewOrder} {now : Instant}
    {orderId : UUID} (h : db.createOrder r now = .ok (orderId, db')) : PlainCommit db db' := by
  unfold OrdersDB.createOrder at h
  split at h
  · cases h
  · split at h
    · cases h
    · split at h
      · cases h
      · rename_i written hins
        cases h
        exact .created (r.row db now) "system" (OrdersDB.insertOrder?_eq_some hins).2 rfl ⟨rfl, rfl⟩

theorem orderCommit_transitionStatus {db db' : OrdersDB} {orderId : UUID}
    {newStatus : OrderStatus} (h : db.transitionStatus orderId newStatus = .ok db') :
    OrderCommit db db' := by
  obtain ⟨o, hfind, hedge, rfl⟩ := transitionStatus_eq_ok h
  obtain ⟨hmem, rfl⟩ := OrdersDB.getOrder_eq_some.mp hfind
  exact .transitioned o hmem newStatus hedge (orderWrite_updateOrder db o.id _ _)

theorem orderEvents_upsertPayment (db : OrdersDB) (source : SourceSystem) (externalId : String)
    (fields : OrdersDB.PaymentFields) (horder : ∃ o ∈ db.orders.rows, o.id = fields.orderId) :
    (db.upsertPayment source externalId fields horder).2.2.orderEvents = db.orderEvents := by
  unfold OrdersDB.upsertPayment
  split <;> rfl

/-- The dependents' writes append the event of the delivery. -/
theorem orderEvents_writeDependents (data : SyncedOrder) {db : OrdersDB} {order : Order}
    (horder : order ∈ db.orders.rows) (created : Bool) :
    (data.writeDependents db order horder created).orderEvents =
      db.orderEvents ++ [⟨order.id, if created then "order_created" else "order_synced",
        some order.status.value, "shopify"⟩] := by
  simp only [SyncedOrder.writeDependents, OrdersDB.addOrderEvent, orderEvents_upsertPayment]

theorem orderEvents_updateOrder? {db db' : OrdersDB} {orderId : UUID} {f : Order → Order}
    {hf : ∀ o, (f o).id = o.id} (h : db.updateOrder? orderId f hf = some db') :
    db'.orderEvents = db.orderEvents := by
  unfold OrdersDB.updateOrder? at h
  split at h
  · cases h
  · cases h
    rfl

theorem orderEvents_insertOrder? {db db' : OrdersDB} {o : Order}
    (h : db.insertOrder? o = some db') : db'.orderEvents = db.orderEvents := by
  unfold OrdersDB.insertOrder? at h
  split at h
  · cases h
  · cases h
    rfl

/-- A delivery keeps the status of a stored order, or cancels it where that is an edge. -/
theorem resyncOf_write (data : SyncedOrder) (db : OrdersDB) (o : Order) :
    ResyncOf o (data.write db o) where
  id_eq := rfl
  telecaller_eq := rfl
  confirmedAt_eq := rfl
  status := by
    simp only [SyncedOrder.write]
    split
    · rename_i h
      exact .inr ⟨rfl, h.2.2⟩
    · exact .inl rfl

theorem plainCommit_upsertSyncedOrder {db db' : OrdersDB} {data : SyncedOrder} {created : Bool}
    (h : upsertSyncedOrder db data = some (created, db')) : PlainCommit db db' := by
  unfold upsertSyncedOrder at h
  split at h
  · rename_i existing hfind
    have hexisting := Table.mem_of_find?_eq_some hfind
    split at h
    · cases h
      exact .of_eq rfl rfl
    · split at h
      · cases h
      · rename_i written hupd
        obtain ⟨-, hrows⟩ := OrdersDB.updateOrder?_eq_some hupd
        split at h
        · cases h
        · rename_i order hget
          obtain ⟨hmem, hid⟩ := OrdersDB.getOrder_eq_some.mp hget
          -- the row read back is the written one
          have hwritten : order = data.write db existing := by
            rw [hrows, List.mem_map] at hmem
            obtain ⟨o, ho, rfl⟩ := hmem
            by_cases heq : o.id = existing.id
            · rw [OrdersDB.order_eq_of_id_eq hexisting ho heq, if_pos (by simp)]
            · rw [if_neg (by simpa using heq)] at hid
              exact absurd hid heq
          cases h
          refine .resynced existing hexisting (data.write db) (resyncOf_write data db) ⟨?_, ?_⟩
          · rw [(data.writeDependents_frame _ false).1, hrows]
            simp
          · rw [orderEvents_writeDependents, orderEvents_updateOrder? hupd, hid, hwritten]
            rfl
  · split at h
    · cases h
    · rename_i written hins
      obtain ⟨-, hrows⟩ := OrdersDB.insertOrder?_eq_some hins
      split at h
      · cases h
      · rename_i order hget
        obtain ⟨hmem, hid⟩ := OrdersDB.getOrder_eq_some.mp hget
        have hnew : order = data.newOrder db := by
          have hself : data.newOrder db ∈ written.orders.rows := by
            rw [hrows]
            exact List.mem_append_right _ (List.mem_singleton_self _)
          exact OrdersDB.order_eq_of_id_eq hself hmem hid
        cases h
        refine .created (data.newOrder db) "shopify" ?_ ?_ ⟨rfl, rfl⟩
        · rw [(data.writeDependents_frame _ true).1, hrows]
        · rw [orderEvents_writeDependents, orderEvents_insertOrder? hins, hnew]
          rfl

theorem paymentCommit_applyOrderState {db db' : OrdersDB} {payment : Payment}
    {status : PaymentStatus} (h : Payments.applyOrderState db payment status = some db') :
    PaymentCommit db db' := by
  unfold Payments.applyOrderState at h
  split at h
  · cases h
  · rename_i order hfind
    obtain ⟨hmem, -⟩ := OrdersDB.getOrder_eq_some.mp hfind
    split at h
    · cases h
      exact .settled order hmem
        (orderWrite_updateOrder db order.id ⟨Payments.markOrderPaid, fun _ => rfl⟩ [_])
    · cases h
      refine .untouched [_] ⟨rfl, rfl, fun e he => ?_⟩
      rw [List.mem_singleton.mp he]
      simp [statusEventTypes]

theorem orderEvents_recordTransaction (db : OrdersDB) (payment : Payment)
    (e : Payments.PaymentEvent) (status : PaymentStatus) :
    (Payments.recordTransaction db payment e status).1.orderEvents = db.orderEvents := by
  unfold Payments.recordTransaction
  split
  · rfl
  · split <;> rfl

theorem steps_settlePayment (db : OrdersDB) (payment : Payment) (e : Payments.PaymentEvent)
    (status : PaymentStatus) :
    (Payments.settlePayment db payment e status).Steps PaymentCommit db := by
  refine ⟨.of_eq rfl rfl, ?_⟩
  cases hstate : Payments.applyOrderState (Payments.writePayment db payment e status) payment
      status with
  | none => exact True.intro
  | some ordered => exact ⟨paymentCommit_applyOrderState hstate, True.intro⟩

theorem steps_applyToPayment [PyText] (db : OrdersDB) (payment : Payment)
    (e : Payments.PaymentEvent) :
    (Payments.applyToPayment db payment e).Steps PaymentCommit db := by
  have hrecorded : ∀ status,
      PaymentCommit db (Payments.recordTransaction db payment e status).1 := fun status =>
    .of_eq (Payments.recordTransaction_frame db payment e status).2
      (orderEvents_recordTransaction db payment e status)
  obtain ⟨_, _, _, h⟩ | ⟨status, _, _, _, h⟩ | ⟨status, _, _, _, _, h⟩ :=
    Payments.applyToPayment_cases db payment e
  · rw [h]
    exact True.intro
  · rw [h]
    exact ⟨hrecorded status, True.intro⟩
  · rw [h]
    exact ⟨hrecorded status, steps_settlePayment _ payment e status⟩

/-- A payment created for an order touches no order. -/
theorem quietCommit_createPaymentFromExternal {db db' : OrdersDB} {cashfreeOrderId : String}
    {payment : Payment}
    (h : Payments.createPaymentFromExternal db cashfreeOrderId = some (payment, db')) :
    QuietCommit db db' [] := by
  unfold Payments.createPaymentFromExternal at h
  split at h
  · cases h
  · cases h
    exact .of_eq (OrdersDB.upsertPayment_spec _ _ _ _ _).1 (orderEvents_upsertPayment _ _ _ _ _)

theorem steps_applyPaymentEvent [PyText] (db : OrdersDB) (e : Payments.PaymentEvent) :
    (Payments.applyPaymentEvent db e).Steps PaymentCommit db := by
  unfold Payments.applyPaymentEvent
  split
  · exact steps_applyToPayment db _ e
  · split
    · exact True.intro
    · rename_i payment created hcreate
      exact ⟨.untouched [] (quietCommit_createPaymentFromExternal hcreate),
        steps_applyToPayment created payment e⟩

/-! ## Section 3: The methods -/

/-- A commit seen from the whole store. -/
def OmsPlain (w w' : Oms) : Prop := PlainCommit w.db.orders w'.db.orders

def OmsPayment (w w' : Oms) : Prop := PaymentCommit w.db.orders w'.db.orders

def OmsCommit (w w' : Oms) : Prop := OrderCommit w.db.orders w'.db.orders

theorem OmsPlain.of_eq {w w' : Oms} (h : w'.db.orders = w.db.orders) : OmsPlain w w' :=
  PlainCommit.of_eq (by rw [h]) (by rw [h])

theorem OmsPlain.commit {w w' : Oms} (h : OmsPlain w w') : OmsCommit w w' := .plain h

namespace OrderService

theorem commits_createOrder (r : NewOrder) (now : Instant) (actor : Option UUID) :
    (createOrder r now actor).Commits OmsPlain := by
  refine (commits_transaction fun w a w' hwrite => ?_).bind fun _ => commits_getOrder _
  split at hwrite
  · cases hwrite
  · rename_i orderId orders hok
    cases hwrite
    exact plainCommit_createOrder hok

theorem omsCommit_transitionStatus {orderId : UUID} {newStatus : OrderStatus} (w : Oms)
    (orders : OrdersDB) (h : w.db.orders.transitionStatus orderId newStatus = .ok orders) :
    OmsCommit w (w.setOrders orders) := orderCommit_transitionStatus h

theorem omsCommit_confirmOrder (env : External) (orderId actor : UUID) (now : Instant) :
    (confirmOrder env orderId actor now).Commits OmsCommit :=
  commits_confirmOrder omsCommit_transitionStatus
    (fun _ => .attributed orderId actor now (orderWrite_updateOrder_nil _ orderId _))
    (fun _ _ => (OmsPlain.of_eq rfl).commit) fun _ => (OmsPlain.of_eq rfl).commit

/-- Until its last two commits `unconfirm_order` touches no order. -/
theorem commits_prepareUnconfirm {R : Oms → Oms → Prop}
    (hR : ∀ w w' : Oms, w'.db.orders = w.db.orders → R w w') (env : External)
    (orderId actor : UUID) : (prepareUnconfirm env orderId actor).Commits R := by
  refine Proc.Commits.store.bind fun w => (commits_withSession _).bind fun _ => ?_
  split
  · exact .throw _
  · refine (commits_pushConfirmationTags (fun _ _ => hR _ _ rfl) (fun _ => hR _ _ rfl)
      _ _ _ _).bind fun _ => .forM (fun shipment => ?_) _
    have hcancel : ∀ w : Oms, R w
        { w with db := w.db.updateStatus shipment.id (some .cancelled) } := fun w => hR _ _ rfl
    refine .ite (.pure _) ?_
    split
    · refine Proc.Commits.tryCatch ?_ fun e => ?_
      · unfold cancelShipment
        split
        · exact .throw _
        · split
          · exact .throw _
          · refine commits_transaction fun w a w' hwrite => ?_
            cases hwrite
            exact hcancel w
      · split
        · exact .throw _
        · exact .throw _
    · refine commits_transaction fun w a w' hwrite => ?_
      cases hwrite
      exact hcancel w

theorem commits_unconfirmOrder (env : External) (orderId actor : UUID) :
    (unconfirmOrder env orderId actor).Commits OmsCommit := by
  refine (commits_prepareUnconfirm (fun _ _ h => (OmsPlain.of_eq h).commit) _ _ _).bind fun _ => ?_
  refine (commits_transitionStatus omsCommit_transitionStatus).bind fun _ => ?_
  refine (commits_ordersTransaction fun w orders hok => ?_).bind fun _ => commits_getOrder orderId
  cases hok
  exact .cleared orderId (orderWrite_updateOrder_nil _ orderId _)

theorem commits_upsertSyncedOrder (data : SyncedOrder) :
    (upsertSyncedOrder data).Commits OmsPlain := by
  refine commits_transaction fun w a w' hwrite => ?_
  split at hwrite
  · cases hwrite
  · rename_i created orders hok
    cases hwrite
    exact plainCommit_upsertSyncedOrder hok

/-- What the commits of a procedure on the orders do, they do to the whole store. -/
theorem steps_lift {ρ : Type} {p : Staged OrdersDB ρ} {db : OrdersDB} (h : p.Steps PaymentCommit db)
    {w w₀ : Oms} (hw : w.db.orders = db) : (p.lift w₀.setOrders).Steps OmsPayment w := by
  induction p generalizing db w with
  | done r => exact True.intro
  | commit db' next ih =>
    refine ⟨?_, ih h.2 rfl⟩
    rw [OmsPayment, hw]
    exact h.1

theorem commits_applyPaymentEvent [PyText] (e : Payments.PaymentEvent) :
    (applyPaymentEvent e).Commits OmsPayment := fun _ w =>
  (steps_lift (steps_applyPaymentEvent w.db.orders e) rfl).andThen fun _ _ => True.intro

end OrderService

/-! ## Section 4: Runs -/

/-- A call that writes orders, with what it is given; and what other services leave of the
shipments. -/
inductive OrderCall where
  | createOrder (r : NewOrder) (now : Instant) (actor : Option UUID)
  | transitionStatus (orderId : UUID) (newStatus : OrderStatus) (actor : Option UUID)
  | confirmOrder (env : External) (orderId actor : UUID) (now : Instant)
  | unconfirmOrder (env : External) (orderId actor : UUID)
  | applyPaymentEvent (e : Payments.PaymentEvent)
  | upsertSyncedOrder (data : SyncedOrder)
  | elsewhere (shipments : ShipmentTable)

namespace OrderCall

variable [PyText]

/-- The user the call is made by. -/
def actor : OrderCall → Option UUID
  | createOrder _ _ actor | transitionStatus _ _ actor => actor
  | confirmOrder _ _ actor _ | unconfirmOrder _ _ actor => some actor
  | _ => none

/-- What the call runs; what it returns is for its caller. -/
def proc : OrderCall → OmsProc PUnit
  | createOrder r now actor => do let _ ← OrderService.createOrder r now actor
  | transitionStatus orderId newStatus actor => do
    let _ ← OrderService.transitionStatus orderId newStatus actor
  | confirmOrder env orderId actor now => do
    let _ ← OrderService.confirmOrder env orderId actor now
  | unconfirmOrder env orderId actor => do let _ ← OrderService.unconfirmOrder env orderId actor
  | applyPaymentEvent e => do let _ ← OrderService.applyPaymentEvent e
  | upsertSyncedOrder data => do let _ ← OrderService.upsertSyncedOrder data
  | elsewhere shipments =>
    transaction none fun w =>
      .ok (PUnit.unit, { w with db := { w.db with shipments := shipments } })

/-- The call as a request of its own. -/
def request (w : Oms) (c : OrderCall) : Staged Oms (Except PyException PUnit × RequestSession) :=
  c.proc (RequestSession.authenticated c.actor) w

end OrderCall

variable [PyText]

/-- What a commit of the call does. -/
def OrderCall.CommitRel : OrderCall → Oms → Oms → Prop
  | .applyPaymentEvent _ => OmsPayment
  | _ => OmsCommit

/-- Every commit of every call does what a commit of the call does. -/
theorem commits_call (c : OrderCall) : c.proc.Commits c.CommitRel := by
  cases c with
  | createOrder r now actor =>
    exact ((OrderService.commits_createOrder r now actor).mono fun _ _ h => h.commit).bind
      fun _ => .pure _
  | transitionStatus orderId newStatus actor =>
    exact (OrderService.commits_transitionStatus
      OrderService.omsCommit_transitionStatus).bind fun _ => .pure _
  | confirmOrder env orderId actor now =>
    exact (OrderService.omsCommit_confirmOrder env orderId actor now).bind fun _ => .pure _
  | unconfirmOrder env orderId actor =>
    exact (OrderService.commits_unconfirmOrder env orderId actor).bind fun _ => .pure _
  | applyPaymentEvent e =>
    exact (OrderService.commits_applyPaymentEvent e).bind fun _ => .pure _
  | upsertSyncedOrder data =>
    exact ((OrderService.commits_upsertSyncedOrder data).mono fun _ _ h => h.commit).bind
      fun _ => .pure _
  | elsewhere shipments =>
    unfold OrderCall.proc
    refine commits_transaction fun w a w' hwrite => ?_
    cases hwrite
    exact (OmsPlain.of_eq rfl).commit

/-! ## Section 5: Every change of status is an edge -/

/-- Every order is still there, with the same status or one that is an edge away. -/
def EdgeStep (w w' : Oms) : Prop :=
  ∀ o ∈ w.db.orders.orders.rows, ∃ o' ∈ w'.db.orders.orders.rows, o'.id = o.id ∧
    (o'.status = o.status ∨ o'.status ∈ orderStatusTransitions o.status)

omit [PyText] in
/-- A write of one order's row that respects the edges. -/
theorem OrderWrite.edge {orderId : UUID} {f : Order → Order} {events : List OrderEvent}
    {w w' : Oms} (h : OrderWrite orderId f events w.db.orders w'.db.orders)
    (hid : ∀ o, (f o).id = o.id)
    (hstatus : ∀ o ∈ w.db.orders.orders.rows, o.id = orderId →
      (f o).status = o.status ∨ (f o).status ∈ orderStatusTransitions o.status) :
    EdgeStep w w' := by
  intro o ho
  rw [h.rows_eq]
  refine ⟨_, List.mem_map_of_mem ho, ?_⟩
  by_cases heq : o.id = orderId
  · rw [if_pos heq]
    exact ⟨hid o, hstatus o ho heq⟩
  · rw [if_neg heq]
    exact ⟨rfl, .inl rfl⟩

omit [PyText] in
theorem QuietCommit.edgeStep {w w' : Oms} {events : List OrderEvent}
    (h : QuietCommit w.db.orders w'.db.orders events) : EdgeStep w w' :=
  fun o ho => ⟨o, by rwa [h.orders_eq], rfl, .inl rfl⟩

omit [PyText] in
theorem OmsPlain.edgeStep {w w' : Oms} (h : OmsPlain w w') : EdgeStep w w' := by
  cases h with
  | untouched events quiet => exact quiet.edgeStep
  | created o source rows_eq =>
    intro o ho
    rw [rows_eq]
    exact ⟨o, List.mem_append_left _ ho, rfl, .inl rfl⟩
  | resynced o mem f resync write =>
    refine write.edge (fun o => (resync o).id_eq) fun o' _ _ => ?_
    rcases (resync o').status with hsame | ⟨hcancelled, hedge⟩
    · exact .inl hsame
    · exact .inr (hcancelled ▸ hedge)

omit [PyText] in
theorem OmsPayment.edgeStep {w w' : Oms} (h : OmsPayment w w') : EdgeStep w w' := by
  cases h with
  | untouched events quiet => exact quiet.edgeStep
  | settled o mem write =>
    refine write.edge (fun _ => rfl) fun o' _ _ => ?_
    simp only [Payments.markOrderPaid]
    split
    · rename_i hpending
      exact .inr (hpending.1 ▸ hpending.2)
    · exact .inl rfl

omit [PyText] in
theorem OmsCommit.edgeStep {w w' : Oms} (h : OmsCommit w w') : EdgeStep w w' := by
  cases h with
  | plain h => exact OmsPlain.edgeStep h
  | transitioned o mem newStatus edge write =>
    refine write.edge (fun _ => rfl) fun o' ho' hid => .inr ?_
    rw [OrdersDB.order_eq_of_id_eq mem ho' hid]
    exact edge
  | attributed orderId telecallerId now write =>
    exact write.edge (fun _ => rfl) fun _ _ _ => .inl rfl
  | cleared orderId write => exact write.edge (fun _ => rfl) fun _ _ _ => .inl rfl

/-- Every commit of every call respects the edges. -/
theorem edgeStep_call (w : Oms) (c : OrderCall) : (c.request w).Steps EdgeStep w := by
  refine (commits_call c).mono (fun w w' h => ?_) _ w
  cases c with
  | applyPaymentEvent e => exact OmsPayment.edgeStep h
  | _ => exact OmsCommit.edgeStep h

/-- A delivery of an order that is stored already. -/
def ResyncStep (w w' : Oms) : Prop :=
  ∀ o ∈ w.db.orders.orders.rows, ∃ o' ∈ w'.db.orders.orders.rows, o'.id = o.id ∧
    (o'.status = o.status ∨
      o'.status = .cancelled ∧ .cancelled ∈ orderStatusTransitions o.status)

omit [PyText] in
theorem resyncStep_upsertSyncedOrder {w : Oms} {db' : OrdersDB} {data : SyncedOrder}
    {created : Bool} (h : upsertSyncedOrder w.db.orders data = some (created, db')) :
    ResyncStep w (w.setOrders db') := by
  have hkept : ∀ rows : List Order, (∀ o ∈ w.db.orders.orders.rows, o ∈ rows) →
      ∀ o ∈ w.db.orders.orders.rows, ∃ o' ∈ rows, o'.id = o.id ∧ (o'.status = o.status ∨
        o'.status = .cancelled ∧ .cancelled ∈ orderStatusTransitions o.status) :=
    fun rows hrows o ho => ⟨o, hrows o ho, rfl, .inl rfl⟩
  rcases SyncedOrder.upsertSyncedOrder_cases h with rfl | ⟨existing, -, -, hrows, -⟩ |
    ⟨-, hrows, -⟩
  · exact hkept _ fun _ ho => ho
  · intro o ho
    rw [Oms.orders_setOrders, hrows]
    refine ⟨_, List.mem_map_of_mem ho, ?_⟩
    by_cases heq : o.id = existing.id
    · rw [if_pos (by simpa using heq)]
      exact ⟨rfl, (resyncOf_write data w.db.orders o).status⟩
    · rw [if_neg (by simpa using heq)]
      exact ⟨rfl, .inl rfl⟩
  · refine hkept _ fun o ho => ?_
    rw [Oms.orders_setOrders, hrows]
    exact List.mem_append_left _ ho

omit [PyText] in
theorem ResyncStep.refl (w : Oms) : ResyncStep w w := fun o ho => ⟨o, ho, rfl, .inl rfl⟩

omit [PyText] in
theorem ResyncStep.trans {w w' w'' : Oms} (h : ResyncStep w w') (h' : ResyncStep w' w'') :
    ResyncStep w w'' := by
  intro o ho
  obtain ⟨o', ho', hid, hstatus⟩ := h o ho
  obtain ⟨o'', ho'', hid', hstatus'⟩ := h' o' ho'
  refine ⟨o'', ho'', hid'.trans hid, ?_⟩
  rcases hstatus' with hsame | ⟨hcancelled, hedge⟩
  · rwa [hsame]
  · -- nothing leaves CANCELLED, so the first step kept the status
    rcases hstatus with hsame' | ⟨hcancelled', -⟩
    · exact .inr ⟨hcancelled, hsame' ▸ hedge⟩
    · rw [hcancelled'] at hedge
      cases hedge

/-- Wherever it is cut, a delivery changes a stored order's status by cancelling it only. -/
theorem resyncStep_interrupt (w : Oms) (data : SyncedOrder) (n : ℕ) :
    ResyncStep w (Staged.interrupt OrderCall.request w (.upsertSyncedOrder data, n)) := by
  have hproc : (OrderService.upsertSyncedOrder data).Commits ResyncStep := by
    refine commits_transaction fun w a w' hwrite => ?_
    split at hwrite
    · cases hwrite
    · rename_i created orders hok
      cases hwrite
      exact resyncStep_upsertSyncedOrder hok
  have hcall : (OrderCall.upsertSyncedOrder data).proc.Commits ResyncStep :=
    hproc.bind fun _ => .pure _
  exact (hcall _ w).cut ResyncStep.refl ResyncStep.trans n

omit [PyText] in
/-- A status without an edge is kept. -/
theorem EdgeStep.terminal {w w' : Oms} (h : EdgeStep w w') {o : Order}
    (ho : o ∈ w.db.orders.orders.rows) (hterminal : orderStatusTransitions o.status = []) :
    ∃ o' ∈ w'.db.orders.orders.rows, o'.id = o.id ∧ o'.status = o.status := by
  obtain ⟨o', ho', hid, hsame | hedge⟩ := h o ho
  · exact ⟨o', ho', hid, hsame⟩
  · rw [hterminal] at hedge
    cases hedge

/-- Over every run of the calls, each cut anywhere: between consecutive commits the status
of an order changes along an edge only; an order whose status has no edge keeps it to the
end of the run; and a delivery changes the status of a stored order, if at all, along an edge
to `CANCELLED`. -/
theorem status_changes_are_edges (w : Oms) (calls : List (OrderCall × ℕ)) :
    (w :: Staged.history OrderCall.request w calls).IsChain EdgeStep ∧
    (∀ o ∈ w.db.orders.orders.rows, orderStatusTransitions o.status = [] →
      ∀ w' ∈ Staged.history OrderCall.request w calls,
        ∃ o' ∈ w'.db.orders.orders.rows, o'.id = o.id ∧ o'.status = o.status) ∧
    ∀ pre data n post, calls = pre ++ (.upsertSyncedOrder data, n) :: post →
      ResyncStep (run (Staged.interrupt OrderCall.request) w pre)
        (run (Staged.interrupt OrderCall.request) w (pre ++ [(.upsertSyncedOrder data, n)])) := by
  have hchain : (w :: Staged.history OrderCall.request w calls).IsChain EdgeStep :=
    Staged.history_isChain edgeStep_call w calls
  refine ⟨hchain, fun o ho hterminal => ?_, fun pre data n post _ => ?_⟩
  · -- the status is kept from each state of the history to the next
    refine hchain.cons_induction (fun w' => ∃ o' ∈ w'.db.orders.orders.rows,
      o'.id = o.id ∧ o'.status = o.status) _ ?_ ⟨o, ho, rfl, rfl⟩
    rintro w₁ w₂ hedge ⟨o₁, ho₁, hid₁, hstatus₁⟩
    obtain ⟨o₂, ho₂, hid₂, hstatus₂⟩ := hedge.terminal ho₁ (by rwa [hstatus₁])
    exact ⟨o₂, ho₂, hid₂.trans hid₁, hstatus₂.trans hstatus₁⟩
  · rw [run_append, run_cons, run_nil]
    exact resyncStep_interrupt _ data n

omit [PyText] in
/-- Without payments none is without its order. -/
theorem payment_order_empty : ∀ p ∈ (Table.empty : PaymentTable).rows,
    ∃ o ∈ (Table.empty : OrderTable).rows, o.id = p.orderId := by
  simp

/-- A store without orders. -/
def noOrders : Oms where
  db := { orders := { payment_order := payment_order_empty } }

end AyushOms.Orders
