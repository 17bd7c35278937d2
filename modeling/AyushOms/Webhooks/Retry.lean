import AyushOms.Lib.Run
import AyushOms.Payments.Progress
import AyushOms.Webhooks.Endpoints

/-!
# Retried Deliveries

The idempotency key decides what becomes of a delivery: while its key is unrecorded the
delivery is handed to its handler, and once a delivery of the key was processed or ignored
no later one is. Cashfree's key is the attempt's `cf_payment_id`, whatever status the
delivery reports.

## Main results

- `handed_until_completed`: over every run, what the endpoints hand on.
- `second_status_not_handed`: two deliveries of one attempt with different statuses.
-/

namespace AyushOms.Webhooks

open AyushOms.Lib AyushOms.Orders AyushOms.Payments

section AnyText

variable [PyText] {τ : Type*} {sha256 : String → String} {config : WebhookConfig}

/-! ## Section 1: The key over a run -/

/-- The processing of a key ended without an exception. -/
def Completed (events : EventTable) (integration : IntegrationCode) (eventId : String) : Prop :=
  ∃ status ∈ [WebhookEventStatus.processed, .ignored],
    statusOf events integration eventId = some status

omit [PyText] in
theorem Completed.known {events : EventTable} {integration : IntegrationCode}
    {eventId : String} (h : Completed events integration eventId) :
    Known events integration eventId := by
  obtain ⟨status, _, hstatus⟩ := h
  exact known_iff_statusOf.mpr ⟨status, hstatus⟩

/-- A completed key stays completed, whatever is delivered afterwards. -/
theorem Completed.run {s : WebhookState τ} {integration : IntegrationCode} {eventId : String}
    (h : Completed s.events integration eventId) (ds : List (Delivery τ)) :
    Completed (Lib.run (deliverStep sha256 config) s ds).events integration eventId := by
  have hstep : ∀ (s : WebhookState τ) (d : Delivery τ), Completed s.events integration eventId →
      Completed (deliverStep sha256 config s d).events integration eventId := by
    rintro s d ⟨status, hmem, hstatus⟩
    refine ⟨status, hmem, ?_⟩
    rw [statusOf_deliverStep d (known_iff_statusOf.mpr ⟨status, hstatus⟩), hstatus]
  exact run_invariant (deliverStep sha256 config) hstep h ds

/-! ## Section 2: One delivery -/

/-- An accepted delivery of a recorded key is acknowledged and changes nothing. -/
theorem respond_of_known {s : WebhookState τ} {d : Delivery τ} {incoming : Incoming}
    (hd : d.Accepted config incoming)
    (hknown : Known s.events incoming.integration (incoming.eventId sha256)) :
    respond sha256 config s d = ⟨200, false, s⟩ := by
  rcases respond_of_accepted sha256 s hd with ⟨handle, h⟩ | ⟨handle, h⟩
  · rw [h _ (receive_of_known hknown).symm]
  · rw [h _ (receive_of_known hknown).symm]

/-- An accepted delivery of an unrecorded key is handed on; it is completed and
acknowledged, or failed and answered with a server error. -/
theorem respond_of_not_known {s : WebhookState τ} {d : Delivery τ} {incoming : Incoming}
    (hd : d.Accepted config incoming)
    (hnew : ¬ Known s.events incoming.integration (incoming.eventId sha256)) :
    let r := respond sha256 config s d
    r.handed = true ∧
      (r.answer = 200 ∧
          Completed r.state.events incoming.integration (incoming.eventId sha256) ∨
        r.answer = 500 ∧
          statusOf r.state.events incoming.integration (incoming.eventId sha256) =
            some .failed) := by
  -- the answer and the mark both follow from the handler's outcome
  have outcome : ∀ (handled : Handled) (events : EventTable) (answer : Nat),
      answer = handled.answer →
      statusOf events incoming.integration (incoming.eventId sha256) = some handled.status →
      answer = 200 ∧ Completed events incoming.integration (incoming.eventId sha256) ∨
        answer = 500 ∧
          statusOf events incoming.integration (incoming.eventId sha256) = some .failed := by
    rintro handled events answer rfl hstatus
    cases handled with
    | applied => exact .inl ⟨rfl, .processed, by simp, hstatus⟩
    | notApplied => exact .inl ⟨rfl, .ignored, by simp, hstatus⟩
    | raised => exact .inr ⟨rfl, hstatus⟩
  rcases respond_of_accepted sha256 s hd with ⟨handle, h⟩ | ⟨handle, h⟩
  · obtain ⟨recorded, hins, hreceive⟩ := receive_of_not_known .proceed handle s.orders hnew
    obtain ⟨hhanded, hanswer, hstatus⟩ := processNew_proceed hins handle s.orders
    rw [h _ hreceive.symm]
    exact ⟨hhanded, outcome _ _ _ hanswer hstatus⟩
  · obtain ⟨recorded, hins, hreceive⟩ := receive_of_not_known .proceed handle s.tracking hnew
    obtain ⟨hhanded, hanswer, hstatus⟩ := processNew_proceed hins handle s.tracking
    rw [h _ hreceive.symm]
    exact ⟨hhanded, outcome _ _ _ hanswer hstatus⟩

/-! ## Section 3: Runs of deliveries -/

/-- After any run: an accepted delivery whose key is unrecorded is handed to its handler and
answered by the outcome, and once its key is completed no later delivery of the key is
handed on. -/
theorem handed_until_completed (s : WebhookState τ) (pre : List (Delivery τ))
    {d : Delivery τ} {incoming : Incoming} (hd : d.Accepted config incoming) :
    let before := run (deliverStep sha256 config) s pre
    let after := deliverStep sha256 config before d
    (¬ Known before.events incoming.integration (incoming.eventId sha256) →
      (respond sha256 config before d).handed = true ∧
        ((respond sha256 config before d).answer = 200 ∧
            Completed after.events incoming.integration (incoming.eventId sha256) ∨
          (respond sha256 config before d).answer = 500 ∧
            statusOf after.events incoming.integration (incoming.eventId sha256) =
              some .failed)) ∧
    (Completed after.events incoming.integration (incoming.eventId sha256) →
      ∀ (mid : List (Delivery τ)) (d' : Delivery τ) (incoming' : Incoming),
        d'.Accepted config incoming' → incoming'.integration = incoming.integration →
        incoming'.eventId sha256 = incoming.eventId sha256 →
        let later := run (deliverStep sha256 config) after mid
        respond sha256 config later d' = ⟨200, false, later⟩) := by
  refine ⟨fun hnew => respond_of_not_known hd hnew, ?_⟩
  intro hcompleted mid d' incoming' hd' hintegration hkey
  refine respond_of_known hd' ?_
  rw [hintegration, hkey]
  exact (hcompleted.run mid).known

end AnyText

/-! ## Section 4: One attempt, two statuses -/

/-- A deployment with both integrations. -/
def deployed : WebhookConfig where
  shiprocketSecret := "shiprocket-secret"

/-- A Cashfree delivery for the awaited payment's attempt 975672265. -/
def attemptPayload (type status : String) : CashfreePayload where
  canonical := type
  eventType := some type
  orderId := some "AWL1"
  cfPaymentId := some "975672265"
  paymentStatus := some status
  paymentAmount := some (some 500)
  paymentCurrency := some "INR"

def attemptDelivery (type status : String) : Delivery Unit :=
  .cashfree ⟨true, .object (attemptPayload type status), 0⟩ none

/-- The shop awaits a payment and has recorded no webhook. -/
def awaitingWebhook : WebhookState Unit where
  events := ⟨[], by simp⟩
  orders := awaitingPayment
  tracking := ()

theorem attemptDelivery_accepted (type status : String)
    (h : recognizedWebhookTypes.contains type = true) :
    (attemptDelivery type status).Accepted deployed (attemptPayload type status).incoming :=
  ⟨rfl, rfl, attemptPayload type status, rfl, rfl, h,
    show pyOr (some "AWL1") none ≠ none by decide, by simp [attemptPayload]⟩

/-- The attempt is reported as dropped and then as successful: both deliveries are accepted
and report different statuses, and the second is not handed on; the payment stays
failed. -/
theorem second_status_not_handed :
    let dropped := attemptDelivery "PAYMENT_USER_DROPPED_WEBHOOK" "USER_DROPPED"
    let success := attemptDelivery "PAYMENT_SUCCESS_WEBHOOK" "SUCCESS"
    let after := deliverStep id deployed awaitingWebhook dropped
    (respond id deployed awaitingWebhook dropped).handed = true ∧
      (respond id deployed after success).handed = false ∧
      (deliverStep id deployed after success).orders.payments.rows.map (·.status) = [.failed] := by
  decide

/-- The run of the two deliveries, by the general result. -/
theorem handed_until_completed_attempt :
    let dropped := attemptDelivery "PAYMENT_USER_DROPPED_WEBHOOK" "USER_DROPPED"
    let success := attemptDelivery "PAYMENT_SUCCESS_WEBHOOK" "SUCCESS"
    let after := deliverStep id deployed awaitingWebhook dropped
    respond id deployed after success = ⟨200, false, after⟩ := by
  have h := @handed_until_completed _ Unit id deployed awaitingWebhook [] _ _
    (attemptDelivery_accepted "PAYMENT_USER_DROPPED_WEBHOOK" "USER_DROPPED" (by decide))
  have hcompleted : Completed
      (deliverStep id deployed awaitingWebhook
        (attemptDelivery "PAYMENT_USER_DROPPED_WEBHOOK" "USER_DROPPED")).events
      .cashfree "975672265" := by
    unfold Completed
    decide
  exact h.2 hcompleted [] _ _ (attemptDelivery_accepted _ "SUCCESS" (by decide)) rfl rfl

end AyushOms.Webhooks
