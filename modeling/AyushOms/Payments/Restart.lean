import AyushOms.Payments.Progress

/-!
# Restarting an Interrupted Payment Event

A call that carries a verified success commits the transaction row, the payment and the
order one after another, and the row is also what later deliveries are deduplicated by. So
a call that was cut is repaired by a later delivery of its event exactly when it was cut
before it recorded the row, or after it had nothing left to do.

## Main results

- `billed_callStep`: what a Cashfree order id is billed with never changes
- `redelivery_settles_iff`: when a later delivery settles payment and order
- `cut_after_record_is_not_repaired`: a cut that no later delivery repairs
-/

namespace AyushOms.Payments

open AyushOms.Lib AyushOms.Orders AyushOms.Orders.OrdersDB

section AnyText

variable [PyText]

/-! ## Section 1: What an order id is billed with -/

omit [PyText] in
/-- Amount and currency of a Cashfree order id: those of its payment row, or of the order
such a row would be created for. -/
def billed (db : OrdersDB) (cashfreeOrderId : String) : Option (ℚ × String) :=
  match db.getPaymentByExternalId .cashfree cashfreeOrderId with
  | some payment => some (payment.amount, payment.currency)
  | none => (externalOrder db cashfreeOrderId).map fun o => (o.totalAmount, o.currency)

/-- The event claims success for a known order id, with the exact amount and the currency
the id is billed with when it gives one. -/
def KnownSuccess (db : OrdersDB) (e : PaymentEvent) : Prop :=
  normalizePaymentStatus e.rawStatus = some .paid ∧
    ∃ amount currency, billed db e.cashfreeOrderId = some (amount, currency) ∧
      e.amount = some amount ∧
      ∀ c, e.currency = some c → c ≠ "" → PyText.upper c = PyText.upper currency

omit [PyText] in
/-- The order a Cashfree order id belongs to depends on number, total and currency only. -/
theorem externalOrder_updateOrder (db : OrdersDB) (orderId : UUID)
    (f : Table.KeyPreserving Order.keys)
    (hf : ∀ o, (f o).orderNumber = o.orderNumber ∧ (f o).totalAmount = o.totalAmount ∧
      (f o).currency = o.currency) (cashfreeOrderId : String) :
    ((externalOrder (db.updateOrder orderId f) cashfreeOrderId).map
        fun o => (o.totalAmount, o.currency)) =
      (externalOrder db cashfreeOrderId).map fun o => (o.totalAmount, o.currency) := by
  -- an update that keeps the numbers finds the same row, rewritten
  have hnumber : ∀ number, (db.updateOrder orderId f).getOrderByNumber number =
      (db.getOrderByNumber number).map fun o => if o.id == orderId then f o else o :=
    fun number => Table.find?_modify db.orders fun o => by rw [(hf o).1]
  have hcolumns : ∀ o : Order, ((if o.id == orderId then f o else o).totalAmount,
      (if o.id == orderId then f o else o).currency) = (o.totalAmount, o.currency) := by
    intro o
    split
    · rw [(hf o).2.1, (hf o).2.2]
    · rfl
  unfold externalOrder
  rw [hnumber, hnumber]
  cases db.getOrderByNumber cashfreeOrderId with
  | some o => simp only [Option.map_some, Option.some_or, hcolumns]
  | none =>
    cases db.getOrderByNumber ("#" ++ cashfreeOrderId) with
    | none => rfl
    | some o => simp only [Option.map_none, Option.map_some, Option.none_or, hcolumns]

omit [PyText] in
theorem billed_congr {db db' : OrdersDB} (hp : db'.payments = db.payments)
    (ho : db'.orders = db.orders) (id : String) : billed db' id = billed db id := by
  unfold billed getPaymentByExternalId externalOrder getOrderByNumber
  rw [hp, ho]

omit [PyText] in
theorem billed_writePayment (db : OrdersDB) (payment : Payment) (e : PaymentEvent)
    (status : PaymentStatus) (id : String) :
    billed (writePayment db payment e status) id = billed db id := by
  have hfind : (writePayment db payment e status).getPaymentByExternalId .cashfree id =
      (db.getPaymentByExternalId .cashfree id).map
        fun p => if p.id == payment.id then e.write status p else p :=
    Table.find?_modify db.payments fun _ => rfl
  unfold billed
  rw [hfind]
  cases db.getPaymentByExternalId .cashfree id with
  | none => rfl
  | some p =>
    dsimp only [Option.map_some]
    split <;> rfl

omit [PyText] in
theorem billed_applyOrderState {db db' : OrdersDB} {payment : Payment}
    {status : PaymentStatus} (h : applyOrderState db payment status = some db') (id : String) :
    billed db' id = billed db id := by
  unfold applyOrderState at h
  split at h
  · cases h
  · rename_i order _
    split at h
    · cases h
      have horder := externalOrder_updateOrder db order.id ⟨markOrderPaid, fun _ => rfl⟩
        (fun _ => ⟨rfl, rfl, rfl⟩) id
      have hsame : billed (db.updateOrder order.id ⟨markOrderPaid, fun _ => rfl⟩) id =
          billed db id := by
        unfold billed
        rw [horder]
        rfl
      exact hsame
    · cases h
      rfl

omit [PyText] in
theorem durable_billed_settlePayment (db : OrdersDB) (payment : Payment) (e : PaymentEvent)
    (status : PaymentStatus) (id : String) :
    (settlePayment db payment e status).Durable fun db' => billed db' id = billed db id := by
  refine ⟨billed_writePayment db payment e status id, ?_⟩
  cases hstate : applyOrderState (writePayment db payment e status) payment status with
  | none => exact True.intro
  | some ordered =>
    exact ⟨(billed_applyOrderState hstate id).trans
      (billed_writePayment db payment e status id), True.intro⟩

theorem durable_billed_applyToPayment (db : OrdersDB) (payment : Payment) (e : PaymentEvent)
    (id : String) :
    (applyToPayment db payment e).Durable fun db' => billed db' id = billed db id := by
  obtain ⟨_, _, _, h⟩ | ⟨status, _, _, _, h⟩ | ⟨status, _, _, _, _, h⟩ :=
    applyToPayment_cases db payment e
  · rw [h]
    exact True.intro
  · rw [h]
    obtain ⟨hp, ho⟩ := recordTransaction_frame db payment e status
    exact ⟨billed_congr hp ho id, True.intro⟩
  · rw [h]
    obtain ⟨hp, ho⟩ := recordTransaction_frame db payment e status
    refine ⟨billed_congr hp ho id, ?_⟩
    exact (durable_billed_settlePayment _ payment e status id).mono
      fun _ h' => h'.trans (billed_congr hp ho id)

omit [PyText] in
/-- The payment row created for an order id is billed with what the order was. -/
theorem billed_created {db db' : OrdersDB} {cashfreeOrderId : String} {payment : Payment}
    (hnone : db.getPaymentByExternalId .cashfree cashfreeOrderId = none)
    (h : createPaymentFromExternal db cashfreeOrderId = some (payment, db')) (id : String) :
    billed db' id = billed db id := by
  obtain ⟨horders, _, _, hrows, hfound⟩ := createPaymentFromExternal_eq_some hnone h
  -- the id the row was created for, or any other
  by_cases hid : id = cashfreeOrderId
  · subst hid
    unfold createPaymentFromExternal at h
    split at h
    · cases h
    · rename_i order horder
      simp only [Option.some.injEq, Prod.mk.injEq] at h
      obtain ⟨_, _, ⟨existing, hfind, _⟩ | ⟨_, hrow, _⟩⟩ :=
        upsertPayment_spec db .cashfree id (externalPaymentFields order id)
          ⟨order, externalOrder_mem horder, rfl⟩
      · rw [hnone] at hfind
        cases hfind
      · rw [← h.1, hrow] at hfound
        unfold billed
        rw [hfound, hnone, horder]
        rfl
  · have hfind : db'.getPaymentByExternalId .cashfree id =
        db.getPaymentByExternalId .cashfree id := by
      have hother : ¬ payment.externalId = some id := by
        have hext := (getPaymentByExternalId_eq_some.mp hfound).2.2
        rw [hext]
        exact fun he => hid (Option.some.inj he).symm
      unfold getPaymentByExternalId Table.find?
      rw [hrows, List.find?_append]
      simp [hother]
    unfold billed externalOrder getOrderByNumber
    rw [hfind, horders]

/-- What an order id is billed with is the same in every state a call leaves. -/
theorem billed_callStep (db : OrdersDB) (call : PaymentCall) (id : String) :
    billed (callStep db call) id = billed db id := by
  have hdurable : (applyPaymentEvent db call.event).Durable
      fun db' => billed db' id = billed db id := by
    unfold applyPaymentEvent
    cases hfind : db.getPaymentByExternalId .cashfree call.event.cashfreeOrderId with
    | some payment => exact durable_billed_applyToPayment db payment call.event id
    | none =>
      cases hcreate : createPaymentFromExternal db call.event.cashfreeOrderId with
      | none => exact True.intro
      | some created =>
        have hsame := billed_created hfind hcreate id
        exact ⟨hsame, (durable_billed_applyToPayment created.2 created.1 call.event id).mono
          fun _ h => h.trans hsame⟩
  exact hdurable.cut rfl call.cutAfter

theorem billed_run (db : OrdersDB) (calls : List PaymentCall) (id : String) :
    billed (run callStep db calls) id = billed db id :=
  run_invariant callStep (fun db' call h => (billed_callStep db' call id).trans h) rfl calls

/-- A success stays a success for its order id. -/
theorem KnownSuccess.run {db : OrdersDB} {e : PaymentEvent} (h : KnownSuccess db e)
    (calls : List PaymentCall) : KnownSuccess (Lib.run callStep db calls) e := by
  unfold KnownSuccess
  rw [billed_run]
  exact h

/-! ## Section 2: Settled events -/

/-- What an uninterrupted call leaves behind: the payment is paid, its order is paid, and an
order that was pending in `db₀` is confirmed. -/
def Settled (db₀ db : OrdersDB) (e : PaymentEvent) : Prop :=
  ∃ p ∈ db.payments.rows, p.sourceSystem = some .cashfree ∧
    p.externalId = some e.cashfreeOrderId ∧ p.status = .paid ∧
    ∃ o ∈ db.orders.rows, o.id = p.orderId ∧ o.paymentStatus = .paid ∧
      ∀ o₀ ∈ db₀.orders.rows, o₀.id = o.id → o₀.status = .pending → o.status = .confirmed

omit [PyText] in
theorem settled_congr {db₀ db db' : OrdersDB} {e : PaymentEvent}
    (hp : db'.payments = db.payments) (ho : db'.orders = db.orders) :
    Settled db₀ db' e ↔ Settled db₀ db e := by
  unfold Settled
  rw [hp, ho]

/-- Payment events change an order's status only from pending to confirmed. -/
theorem status_run (db : OrdersDB) (calls : List PaymentCall) :
    ∀ o' ∈ (run callStep db calls).orders.rows, ∃ o ∈ db.orders.rows, o.id = o'.id ∧
      (o'.status = o.status ∨ o.status = .pending ∧ o'.status = .confirmed) := by
  refine run_rel callStep
    (R := fun db db' => ∀ o' ∈ db'.orders.rows, ∃ o ∈ db.orders.rows, o.id = o'.id ∧
      (o'.status = o.status ∨ o.status = .pending ∧ o'.status = .confirmed))
    (fun _ o ho => ⟨o, ho, rfl, .inl rfl⟩) ?_ ?_ db calls
  · intro a b c hab hbc o'' ho''
    obtain ⟨o', ho', hid', h'⟩ := hbc o'' ho''
    obtain ⟨o, ho, hid, h⟩ := hab o' ho'
    refine ⟨o, ho, hid.trans hid', ?_⟩
    -- a confirmed order is never pending again, so the two steps compose
    rcases h' with h' | ⟨h', h''⟩
    · rw [h']
      exact h
    · rcases h with h | ⟨_, h⟩
      · exact .inr ⟨h ▸ h', h''⟩
      · rw [h'] at h
        cases h
  · intro db call o' ho'
    obtain ⟨o, ho, hid, h⟩ := (safeStep_cut db call.event call.cutAfter).order_earned o' ho'
    refine ⟨o, ho, hid, ?_⟩
    rcases h with ⟨_, h⟩ | ⟨⟨_, h⟩, _⟩
    · exact .inl h
    · exact h

omit [PyText] in
/-- A success that is settled pays the payment's order and confirms it when pending. -/
theorem order_final_settlePayment {db : OrdersDB} {p : Payment} {e : PaymentEvent}
    (hp : p ∈ db.payments.rows) (s : OrdersDB) :
    ∃ o ∈ db.orders.rows, o.id = p.orderId ∧
      markOrderPaid o ∈ ((settlePayment db p e .paid).final s).orders.rows := by
  obtain ⟨o, ho⟩ := getOrder_of_payment hp
  obtain ⟨hmem, hid⟩ := getOrder_eq_some.mp ho
  refine ⟨o, hmem, hid, ?_⟩
  rw [orders_final_settlePayment hp, if_pos rfl]
  exact List.mem_map.mpr ⟨o, hmem, by rw [if_pos hid]⟩

/-- A success for a payment that exists, when the event is recorded or not. -/
theorem settled_final_iff {db₀ db : OrdersDB} {p : Payment} {e : PaymentEvent}
    (hp : p ∈ db.payments.rows) (hvalid : ValidSuccess e p)
    (hstatus : ∀ o ∈ db.orders.rows, ∃ o₀ ∈ db₀.orders.rows, o₀.id = o.id ∧
      (o.status = o₀.status ∨ o₀.status = .pending ∧ o.status = .confirmed)) :
    Settled db₀ ((applyToPayment db p e).final db) e ↔
      ¬ Recorded db e.cfPaymentId ∨ Settled db₀ db e := by
  obtain ⟨hpayments, horders⟩ := recordTransaction_frame db p e .paid
  obtain ⟨hrec, _, h⟩ | ⟨hnew, h⟩ := applyToPayment_of_validSuccess db hvalid
  · rw [h, Staged.final_commit, Staged.final_done, settled_congr hpayments horders]
    exact ⟨.inr, fun h => h.resolve_left (not_not_intro hrec)⟩
  · refine ⟨fun _ => .inl hnew, fun _ => ?_⟩
    rw [h, Staged.final_commit]
    obtain ⟨o, ho, hid, hmark⟩ := order_final_settlePayment (e := e) (hpayments ▸ hp)
      (recordTransaction db p e .paid).1
    -- an unrecorded success: the payment is written paid and its order marked
    refine ⟨e.write .paid p, ?_, hvalid.sourceSystem, hvalid.externalId, rfl, markOrderPaid o,
      hmark, hid, rfl, ?_⟩
    · rw [payments_final_settlePayment]
      exact (mem_writePayment (hpayments ▸ hp)).mpr (.inl rfl)
    · intro o₁ ho₁ hid₁ hpending
      obtain ⟨o₀, ho₀, hid₀, hevolved⟩ := hstatus o (horders ▸ ho)
      obtain rfl : o₁ = o₀ := order_eq_of_id_eq ho₀ ho₁ (hid₁.trans hid₀.symm)
      -- pending when the first call began, hence pending or confirmed now
      have hcases : o.status = .pending ∨ o.status = .confirmed := by
        rcases hevolved with hsame | ⟨_, hconfirmed⟩
        · exact .inl (hsame.trans hpending)
        · exact .inr hconfirmed
      rcases hcases with hs | hs <;> simp [markOrderPaid, hs, orderStatusTransitions]

/-! ## Section 3: Redelivery -/

/-- A success for a known order id is valid for the payment row, found or created. -/
theorem validSuccess_of_known {db : OrdersDB} {p : Payment} {e : PaymentEvent}
    (hknown : KnownSuccess db e)
    (hfound : db.getPaymentByExternalId .cashfree e.cashfreeOrderId = some p) :
    ValidSuccess e p := by
  obtain ⟨hstatus, amount, currency, hbilled, hamount, hcurrency⟩ := hknown
  obtain ⟨_, hsource, hexternal⟩ := getPaymentByExternalId_eq_some.mp hfound
  rw [billed, hfound, Option.some.injEq, Prod.mk.injEq] at hbilled
  obtain ⟨rfl, rfl⟩ := hbilled
  exact ⟨hsource, hexternal, hstatus, hamount, hcurrency⟩

/-- One delivery of a known success settles payment and order exactly when its gateway id
was not recorded yet, or everything was settled already. -/
theorem settled_eventStep_iff {db₀ db : OrdersDB} {e : PaymentEvent}
    (hknown : KnownSuccess db e)
    (hstatus : ∀ o ∈ db.orders.rows, ∃ o₀ ∈ db₀.orders.rows, o₀.id = o.id ∧
      (o.status = o₀.status ∨ o₀.status = .pending ∧ o.status = .confirmed)) :
    Settled db₀ (eventStep db e) e ↔ ¬ Recorded db e.cfPaymentId ∨ Settled db₀ db e := by
  cases hfind : db.getPaymentByExternalId .cashfree e.cashfreeOrderId with
  | some p =>
    have hvalid := validSuccess_of_known hknown hfind
    have hp := (getPaymentByExternalId_eq_some.mp hfind).1
    rw [eventStep_of_found hp hvalid.sourceSystem hvalid.externalId]
    exact settled_final_iff hp hvalid hstatus
  | none =>
    -- the payment row does not exist yet, so nothing can be settled before the delivery
    have hunsettled : ¬ Settled db₀ db e := by
      rintro ⟨p, hp, hsource, hexternal, _⟩
      rw [getPaymentByExternalId_eq_some.mpr ⟨hp, hsource, hexternal⟩] at hfind
      cases hfind
    cases hcreate : createPaymentFromExternal db e.cashfreeOrderId with
    | none =>
      obtain ⟨_, amount, currency, hbilled, _⟩ := hknown
      rw [billed, hfind] at hbilled
      unfold createPaymentFromExternal at hcreate
      split at hcreate
      · rename_i hnone
        rw [hnone] at hbilled
        cases hbilled
      · cases hcreate
    | some created =>
      obtain ⟨p, db₁⟩ := created
      obtain ⟨horders, htransactions, hpending, hrows, hfound⟩ :=
        createPaymentFromExternal_eq_some hfind hcreate
      have hknown₁ : KnownSuccess db₁ e := by
        unfold KnownSuccess
        rw [billed_created hfind hcreate]
        exact hknown
      have hvalid := validSuccess_of_known hknown₁ hfound
      have hp := (getPaymentByExternalId_eq_some.mp hfound).1
      -- the row just created is pending, so it is not settled either
      have hunsettled₁ : ¬ Settled db₀ db₁ e := by
        rintro ⟨p', hp', hsource, hexternal, hpaid, _⟩
        have hfound' := getPaymentByExternalId_eq_some.mpr ⟨hp', hsource, hexternal⟩
        rw [hfound, Option.some.injEq] at hfound'
        rw [← hfound', hpending] at hpaid
        cases hpaid
      have hrecorded : Recorded db₁ e.cfPaymentId ↔ Recorded db e.cfPaymentId := by
        unfold Recorded
        rw [htransactions]
      have hstep : eventStep db e = (applyToPayment db₁ p e).final db₁ := by
        simp only [eventStep, applyPaymentEvent, hfind, hcreate, Staged.final_commit]
      rw [hstep, settled_final_iff hp hvalid (horders ▸ hstatus), hrecorded,
        or_iff_left hunsettled, or_iff_left hunsettled₁]

/-- A call carrying a known success is cut anywhere, other calls follow, and its event is
delivered again: payment and order are then settled exactly when, before the redelivery,
the gateway id was not recorded, or they were settled already. -/
theorem redelivery_settles_iff {db : OrdersDB} {e : PaymentEvent} (hknown : KnownSuccess db e)
    (cutAfter : ℕ) (others : List PaymentCall) :
    let db' := run callStep db (⟨e, cutAfter⟩ :: others)
    Settled db (eventStep db' e) e ↔ ¬ Recorded db' e.cfPaymentId ∨ Settled db db' e :=
  settled_eventStep_iff (hknown.run _) (status_run db _)

end AnyText

/-! ## Section 4: A cut that is not repaired -/

/-- The success of the awaited payment. -/
theorem knownSuccess_awaitingPayment : KnownSuccess awaitingPayment (attempt "SUCCESS") := by
  refine ⟨by decide, 500, "INR", by decide, rfl, ?_⟩
  rintro c hc -
  cases hc
  rfl

/-- Cut right after its transaction row, the call leaves a pending payment, and its
redelivery is taken for a duplicate. -/
theorem cut_after_record_is_not_repaired :
    let db' := callStep awaitingPayment ⟨attempt "SUCCESS", 1⟩
    KnownSuccess awaitingPayment (attempt "SUCCESS") ∧
    (applyPaymentEvent db' (attempt "SUCCESS")).result.reason = some .duplicateTransaction ∧
    ¬ Settled awaitingPayment (eventStep db' (attempt "SUCCESS")) (attempt "SUCCESS") ∧
    Settled awaitingPayment (eventStep awaitingPayment (attempt "SUCCESS"))
      (attempt "SUCCESS") := by
  refine ⟨knownSuccess_awaitingPayment, by decide, ?_, ?_⟩
  · unfold Settled
    decide
  · unfold Settled
    decide

/-- Cut before its first commit, the call is repaired. -/
theorem redelivery_settles_awaitingPayment :
    Settled awaitingPayment
      (eventStep (run callStep awaitingPayment [⟨attempt "SUCCESS", 0⟩]) (attempt "SUCCESS"))
      (attempt "SUCCESS") :=
  (redelivery_settles_iff knownSuccess_awaitingPayment 0 []).mpr (.inl (by
    rintro ⟨_, _, t, ht, _⟩
    exact absurd ht List.not_mem_nil))

end AyushOms.Payments
