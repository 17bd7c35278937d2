import AyushOms.Payments.Safety

/-!
# When a Success Takes Effect

`apply_payment_event` deduplicates on the gateway's payment id before it looks at the
status. A verified success therefore makes its payment paid exactly when the payment is
paid already or no earlier event was recorded under the same id.

## Main results

- `paidAt_eventStep_iff`: one success
- `paid_once_succeeded_iff`: whole runs
- `pending_event_hides_success`: a run in which a success has no effect
-/

namespace AyushOms.Payments

open AyushOms.Lib AyushOms.Orders AyushOms.Orders.OrdersDB

section AnyText

variable [PyText]

/-! ## Section 1: One success -/

/-- The payment is paid. -/
def PaidAt (db : OrdersDB) (paymentId : UUID) : Prop :=
  ∃ p ∈ db.payments.rows, p.id = paymentId ∧ p.status = .paid

/-- The event is a verified success for the payment as it stands. -/
def SucceedsFor (db : OrdersDB) (paymentId : UUID) (e : PaymentEvent) : Prop :=
  ∃ p ∈ db.payments.rows, p.id = paymentId ∧ ValidSuccess e p

/-- The end of a call for a payment that exists. -/
theorem eventStep_of_found {db : OrdersDB} {e : PaymentEvent} {p : Payment}
    (hp : p ∈ db.payments.rows) (hs : p.sourceSystem = some .cashfree)
    (he : p.externalId = some e.cashfreeOrderId) :
    eventStep db e = (applyToPayment db p e).final db := by
  simp only [eventStep, applyPaymentEvent, getPaymentByExternalId_eq_some.mpr ⟨hp, hs, he⟩]

omit [PyText] in
/-- The payments after a settlement: the payment has been written. -/
theorem payments_final_settlePayment {db : OrdersDB} {payment : Payment} {e : PaymentEvent}
    {status : PaymentStatus} (s : OrdersDB) :
    ((settlePayment db payment e status).final s).payments =
      (writePayment db payment e status).payments := by
  unfold settlePayment
  cases hstate : applyOrderState (writePayment db payment e status) payment status with
  | none => rfl
  | some ordered => exact (applyOrderState_eq_some hstate).1

omit [PyText] in
/-- The orders after a settlement: the payment's order is marked when the status is paid. -/
theorem orders_final_settlePayment {db : OrdersDB} {payment : Payment} {e : PaymentEvent}
    {status : PaymentStatus} (hp : payment ∈ db.payments.rows) (s : OrdersDB) :
    ((settlePayment db payment e status).final s).orders.rows =
      if status = .paid then
        db.orders.rows.map fun o => if o.id = payment.orderId then markOrderPaid o else o
      else db.orders.rows := by
  unfold settlePayment
  cases hstate : applyOrderState (writePayment db payment e status) payment status with
  -- the order cannot be gone: the payment's foreign key names it
  | none =>
    obtain ⟨o, ho⟩ := getOrder_of_payment hp
    have hfound : (writePayment db payment e status).getOrder payment.orderId = some o := ho
    unfold applyOrderState at hstate
    rw [hfound] at hstate
    dsimp only at hstate
    split at hstate <;> cases hstate
  | some ordered =>
    obtain ⟨_, ⟨hne, horders⟩ | ⟨hpaid, hrows⟩⟩ := applyOrderState_eq_some hstate
    · rw [if_neg hne]
      exact congrArg Table.rows horders
    · rw [if_pos hpaid]
      exact hrows

/-- A verified success is a duplicate, or it is recorded and settled. -/
theorem applyToPayment_of_validSuccess (db : OrdersDB) {p : Payment} {e : PaymentEvent}
    (hvalid : ValidSuccess e p) :
    (Recorded db e.cfPaymentId ∧ ∃ result, applyToPayment db p e =
      .commit (recordTransaction db p e .paid).1 (.done result)) ∨
    (¬ Recorded db e.cfPaymentId ∧ applyToPayment db p e =
      .commit (recordTransaction db p e .paid).1
        (settlePayment (recordTransaction db p e .paid).1 p e .paid)) := by
  have hstatus : ∀ {status}, normalizePaymentStatus e.rawStatus = some status →
      status = .paid := by
    intro status h
    rw [hvalid.status, Option.some.injEq] at h
    exact h.symm
  -- a verified success is not refused and not late, which leaves two of the three cases
  obtain ⟨_, _, hbad, _⟩ | ⟨status, reason, hs, hrec, h⟩ | ⟨status, hs, _, _, hnew, h⟩ :=
    applyToPayment_cases db p e
  · exact absurd (moneyProblem_eq_none_iff.mpr ⟨hvalid.amount, hvalid.currency⟩)
      (hbad hvalid.status)
  · obtain rfl := hstatus hs
    exact .inl ⟨hrec rfl, _, h⟩
  · obtain rfl := hstatus hs
    exact .inr ⟨hnew, h⟩

/-- A verified success leaves its payment paid exactly when it was paid already or the
gateway's id was not recorded before. -/
theorem paidAt_eventStep_iff {db : OrdersDB} {paymentId : UUID} {e : PaymentEvent}
    (hsuccess : SucceedsFor db paymentId e) :
    PaidAt (eventStep db e) paymentId ↔ PaidAt db paymentId ∨ ¬ Recorded db e.cfPaymentId := by
  obtain ⟨p, hp, rfl, hvalid⟩ := hsuccess
  rw [eventStep_of_found hp hvalid.sourceSystem hvalid.externalId]
  have hpayments := (recordTransaction_frame db p e .paid).1
  obtain ⟨hrec, _, h⟩ | ⟨hnew, h⟩ := applyToPayment_of_validSuccess db hvalid
  · -- a duplicate: nothing but the transaction table was touched
    rw [h, Staged.final_commit, Staged.final_done, PaidAt, PaidAt, hpayments]
    exact ⟨.inl, fun h => h.resolve_right (not_not_intro hrec)⟩
  · refine ⟨fun _ => .inr hnew, fun _ => ⟨e.write .paid p, ?_, rfl, rfl⟩⟩
    rw [h, Staged.final_commit, payments_final_settlePayment]
    exact (mem_writePayment (hpayments ▸ hp)).mpr (.inl rfl)

/-! ## Section 2: Runs -/

/-- From the moment a verified success for the payment has been processed, the payment is
paid. -/
def PaidOnceSucceeded (db : OrdersDB) (paymentId : UUID) (events : List PaymentEvent) : Prop :=
  ∀ pre e mid post, events = pre ++ e :: (mid ++ post) →
    SucceedsFor (run eventStep db pre) paymentId e →
      PaidAt (run eventStep db (pre ++ e :: mid)) paymentId

/-- A success finds its payment paid, or its gateway id unrecorded. -/
def Lands (paymentId : UUID) (db : OrdersDB) (e : PaymentEvent) : Prop :=
  SucceedsFor db paymentId e → PaidAt db paymentId ∨ ¬ Recorded db e.cfPaymentId

/-- Being paid lasts. -/
theorem PaidAt.run {db : OrdersDB} {paymentId : UUID} (h : PaidAt db paymentId)
    (events : List PaymentEvent) : PaidAt (Lib.run eventStep db events) paymentId := by
  obtain ⟨p, hp, hid, hpaid⟩ := h
  obtain ⟨p', hp', hid', hpaid'⟩ := paid_kept_run hp hpaid (wholeCalls events)
  rw [run_wholeCalls] at hp'
  exact ⟨p', hp', hid'.trans hid, hpaid'⟩

/-- Over every run: the payment is paid from its first processed success on, exactly when
each success of the run finds the payment paid or its gateway id unrecorded. -/
theorem paid_once_succeeded_iff (db : OrdersDB) (paymentId : UUID)
    (events : List PaymentEvent) :
    PaidOnceSucceeded db paymentId events ↔ Along eventStep (Lands paymentId) db events := by
  rw [along_iff_forall_split]
  -- from left to right the run right up to the success decides; back, being paid lasts
  constructor
  · rintro h pre e post rfl hsuccess
    have hpaid := h pre e [] post rfl hsuccess
    rw [run_append, run_cons, run_nil] at hpaid
    exact (paidAt_eventStep_iff hsuccess).mp hpaid
  · rintro h pre e mid post rfl hsuccess
    have hlands := h pre e (mid ++ post) rfl hsuccess
    rw [run_append, run_cons]
    exact ((paidAt_eventStep_iff hsuccess).mpr hlands).run mid

end AnyText

/-! ## Section 3: A success without effect -/

/-- An order of 500 INR with a pending Cashfree payment. -/
def awaitingPayment : OrdersDB where
  orders := Table.ofList [{ id := 1, orderNumber := "#AWL1", totalAmount := 500 }] (by decide)
  payments := Table.ofList [{
    id := 10, sourceSystem := some .cashfree, externalId := some "AWL1", orderId := 1,
    paymentType := .prepaid, amount := 500, provider := some "cashfree" }] (by decide)
  payment_order := by simp

/-- An attempt of that payment as the gateway reports it. -/
def attempt (status : String) : PaymentEvent where
  cashfreeOrderId := "AWL1"
  cfPaymentId := some "975672265"
  rawStatus := some status
  amount := some 500
  currency := some "INR"

/-- A reconciliation sees the attempt while it is still pending; the success of the same
attempt is then taken for a duplicate. -/
theorem pending_event_hides_success :
    ¬ PaidOnceSucceeded awaitingPayment 10 [attempt "PENDING", attempt "SUCCESS"] := by
  intro h
  have hvalid : SucceedsFor (run eventStep awaitingPayment [attempt "PENDING"]) 10
      (attempt "SUCCESS") := by
    refine ⟨_, List.mem_singleton_self _, rfl, ⟨rfl, rfl, by decide, rfl, ?_⟩⟩
    rintro c hc -
    cases hc
    decide
  have hpaid := h [attempt "PENDING"] (attempt "SUCCESS") [] [] rfl hvalid
  revert hpaid
  unfold PaidAt
  decide

end AyushOms.Payments
