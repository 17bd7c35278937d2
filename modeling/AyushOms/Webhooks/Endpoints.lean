import AyushOms.Payments.Safety
import AyushOms.Webhooks.Service

/-!
# The Webhook Endpoints

`POST /webhooks/cashfree/payment` and `POST /webhooks/shiprocket/tracking`. Both verify the
sender, parse the body, ingest the delivery and process it in the request. The Cashfree
endpoint is idempotent by `cf_payment_id` when the payload has one; the Shiprocket endpoint
always by the hash of the payload.
-/

namespace AyushOms.Webhooks

open AyushOms.Lib AyushOms.Orders AyushOms.Payments

/-! ## Section 1: Requests -/

/-- A request body: not JSON, JSON but no object, or an object. -/
inductive Body (π : Type*) where
  | invalidJson
  | notAnObject
  | object (payload : π)
  deriving DecidableEq

/-- What the Cashfree endpoint reads from a payload. -/
structure CashfreePayload where
  /-- The payload as canonical JSON. -/
  canonical : String
  /-- `type`. -/
  eventType : Option String
  /-- `data.order.order_id`, when it is a string. -/
  orderId : Option String
  /-- `str(data.payment.cf_payment_id)`. -/
  cfPaymentId : Option String
  paymentStatus : Option String
  /-- `none` when `payment_amount` is present and not a decimal. -/
  paymentAmount : Option (Option ℚ)
  paymentCurrency : Option String := none
  paymentMethod : Option String := none
  paymentTime : Option Instant := none
  deriving DecidableEq

/-- A request to the Cashfree endpoint, after `verify_webhook_signature`. -/
structure CashfreeRequest where
  signatureValid : Bool
  body : Body CashfreePayload
  now : Instant := 0
  deriving DecidableEq

/-- `RECOGNIZED_WEBHOOK_TYPES`. -/
def recognizedWebhookTypes : List String :=
  ["PAYMENT_SUCCESS_WEBHOOK", "PAYMENT_FAILED_WEBHOOK", "PAYMENT_USER_DROPPED_WEBHOOK"]

def CashfreePayload.isRecognized (payload : CashfreePayload) : Bool :=
  payload.eventType.any fun type => recognizedWebhookTypes.contains type

/-- The delivery as it is ingested. -/
def CashfreePayload.incoming (payload : CashfreePayload) : Incoming where
  integration := .cashfree
  eventType := (pyOr payload.eventType none).getD "unknown"
  canonical := payload.canonical
  externalEventId := payload.cfPaymentId
  externalResourceId := pyOr payload.orderId none

/-- The arguments handed to `apply_payment_event`. -/
def CashfreePayload.event (payload : CashfreePayload) (orderId : String) (now : Instant) :
    PaymentEvent where
  cashfreeOrderId := orderId
  cfPaymentId := payload.cfPaymentId
  rawStatus := payload.paymentStatus
  amount := payload.paymentAmount.join
  currency := payload.paymentCurrency
  paymentMethodName := payload.paymentMethod
  paidAt := payload.paymentTime
  now := now

/-- What the Shiprocket endpoint reads from a payload. -/
structure TrackingPayload where
  canonical : String
  /-- The first of `token`, `secret`, `webhook_secret`, `webhook_token` that is set. -/
  bodyToken : Option String := none
  /-- The first of `awb`, `awb_code`, `shipment_id` that is set. -/
  resourceId : Option String := none
  deriving DecidableEq

structure ShiprocketRequest where
  headerToken : Option String
  body : Body TrackingPayload
  deriving DecidableEq

/-- The delivery as it is ingested: no stable event id, so the hash is its key. -/
def TrackingPayload.incoming (payload : TrackingPayload) : Incoming where
  integration := .shiprocket
  eventType := "shipment.tracking_update"
  canonical := payload.canonical
  externalEventId := none
  externalResourceId := payload.resourceId

/-- `verify_webhook_token`. -/
def verifyWebhookToken (headerToken bodyToken : Option String) (secret : String) : Bool :=
  !pyFalsy secret && (pyOr headerToken none == some secret || pyOr bodyToken none == some secret)

/-! ## Section 2: The endpoints -/

section Endpoints

variable [PyText] {τ : Type*} (sha256 : String → String)

/-- The state the endpoints share; `τ` is the state tracking webhooks are applied to. -/
structure WebhookState (τ : Type*) where
  events : EventTable
  orders : OrdersDB
  tracking : τ

/-- The deployment: which integrations exist, and Shiprocket's shared secret. -/
structure WebhookConfig where
  cashfreeIntegration : Bool := true
  shiprocketIntegration : Bool := true
  shiprocketSecret : String

/-- The effect of one request on the shared state. -/
structure Response (τ : Type*) where
  answer : Nat
  handed : Bool
  state : WebhookState τ

/-- `apply_payment_event` inside the endpoint's `try`; a failure cuts the call after some of
its commits. -/
def handlePayment (e : PaymentEvent) (failure : Option ℕ) (db : OrdersDB) :
    Handled × OrdersDB :=
  match failure with
  | some commits => (.raised, (applyPaymentEvent db e).cut db commits)
  | none =>
    (if (applyPaymentEvent db e).result.applied then .applied else .notApplied,
      (applyPaymentEvent db e).final db)

/-- What the Cashfree endpoint decides about a recorded delivery before the `try`. -/
def CashfreePayload.preflight (payload : CashfreePayload) : Preflight :=
  if payload.isRecognized = false then .ignore
  else if payload.paymentAmount = none then .crash
  else .proceed

/-- A request the endpoint turns away leaves no trace. -/
def refuse (s : WebhookState τ) (answer : Nat) : Response τ := ⟨answer, false, s⟩

/-- `receive_cashfree_payment_webhook`. -/
def receiveCashfreePaymentWebhook (config : WebhookConfig) (s : WebhookState τ)
    (request : CashfreeRequest) (failure : Option ℕ) : Response τ :=
  -- the signature is checked on the raw body, before anything is recorded
  if request.signatureValid = false then refuse s 401
  else
    match request.body with
    | .invalidJson | .notAnObject => refuse s 400
    | .object payload =>
      let orderId := pyOr payload.orderId none
      if payload.isRecognized = true ∧ orderId = none then refuse s 400
      else if config.cashfreeIntegration = false then refuse s 404
      else
        let r := receive sha256 s.events payload.incoming payload.preflight
          (handlePayment (payload.event (orderId.getD "") request.now) failure) s.orders
        ⟨r.answer, r.handed, { s with events := r.events, orders := r.app }⟩

/-- `receive_shiprocket_tracking_webhook`; `track` is `apply_tracking_webhook` with whatever
failures it meets. -/
def receiveShiprocketTrackingWebhook (config : WebhookConfig) (s : WebhookState τ)
    (request : ShiprocketRequest) (track : TrackingPayload → τ → Handled × τ) : Response τ :=
  let secret := pyStrip config.shiprocketSecret
  let headerToken := (request.headerToken.map pyStrip).bind fun token => pyOr (some token) none
  let headerValid := verifyWebhookToken headerToken none secret
  match request.body with
  -- a body that cannot be read can only be trusted through the header
  | .invalidJson | .notAnObject => refuse s (if headerValid then 400 else 401)
  | .object payload =>
    if headerValid = false ∧ verifyWebhookToken none payload.bodyToken secret = false then
      refuse s 401
    else if config.shiprocketIntegration = false then refuse s 404
    else
      let r := receive sha256 s.events payload.incoming .proceed (track payload) s.tracking
      ⟨r.answer, r.handed, { s with events := r.events, tracking := r.app }⟩

/-! ## Section 3: Runs -/

/-- A request to one of the endpoints, with the failures its processing meets. -/
inductive Delivery (τ : Type*) where
  | cashfree (request : CashfreeRequest) (failure : Option ℕ)
  | shiprocket (request : ShiprocketRequest) (track : TrackingPayload → τ → Handled × τ)

/-- What a request does. -/
def respond (config : WebhookConfig) (s : WebhookState τ) : Delivery τ → Response τ
  | .cashfree request failure => receiveCashfreePaymentWebhook sha256 config s request failure
  | .shiprocket request track =>
    receiveShiprocketTrackingWebhook sha256 config s request track

/-- The state a request leaves. -/
def deliverStep (config : WebhookConfig) (s : WebhookState τ) (d : Delivery τ) :
    WebhookState τ :=
  (respond sha256 config s d).state

/-- The endpoint reads and ingests the request as this delivery. -/
def Delivery.Accepted (config : WebhookConfig) : Delivery τ → Incoming → Prop
  | .cashfree request _, d =>
    request.signatureValid = true ∧ config.cashfreeIntegration = true ∧
      ∃ payload, request.body = .object payload ∧ d = payload.incoming ∧
        payload.isRecognized = true ∧ pyOr payload.orderId none ≠ none ∧
        payload.paymentAmount ≠ none
  | .shiprocket request _, d =>
    config.shiprocketIntegration = true ∧
      ∃ payload, request.body = .object payload ∧ d = payload.incoming ∧
        verifyWebhookToken ((request.headerToken.map pyStrip).bind fun token =>
          pyOr (some token) none) payload.bodyToken (pyStrip config.shiprocketSecret) = true

variable {sha256}

omit [PyText] in
theorem verifyWebhookToken_or {headerToken bodyToken : Option String} {secret : String} :
    verifyWebhookToken headerToken bodyToken secret = true ↔
      verifyWebhookToken headerToken none secret = true ∨
        verifyWebhookToken none bodyToken secret = true := by
  have hnone : (pyOr none none == some secret) = false := rfl
  unfold verifyWebhookToken
  rw [hnone]
  cases pyFalsy secret <;> simp

variable (sha256) in
/-- An accepted delivery is ingested and processed through the shared course. -/
theorem respond_of_accepted {config : WebhookConfig} (s : WebhookState τ) {d : Delivery τ}
    {incoming : Incoming} (h : d.Accepted config incoming) :
    (∃ handle : OrdersDB → Handled × OrdersDB, ∀ r, r =
        receive sha256 s.events incoming .proceed handle s.orders →
      respond sha256 config s d =
        ⟨r.answer, r.handed, { s with events := r.events, orders := r.app }⟩) ∨
    (∃ handle : τ → Handled × τ, ∀ r, r =
        receive sha256 s.events incoming .proceed handle s.tracking →
      respond sha256 config s d =
        ⟨r.answer, r.handed, { s with events := r.events, tracking := r.app }⟩) := by
  cases d with
  | cashfree request failure =>
    obtain ⟨hsig, hconfig, payload, hbody, rfl, hrec, horder, hamount⟩ := h
    refine .inl ⟨handlePayment (payload.event ((pyOr payload.orderId none).getD "") request.now)
      failure, ?_⟩
    rintro r rfl
    have hpre : payload.preflight = .proceed := by
      simp [CashfreePayload.preflight, hrec, hamount]
    simp [respond, receiveCashfreePaymentWebhook, hsig, hconfig, hbody, horder, hpre]
  | shiprocket request track =>
    obtain ⟨hconfig, payload, hbody, rfl, htoken⟩ := h
    refine .inr ⟨track payload, ?_⟩
    rintro r rfl
    have htoken' := verifyWebhookToken_or.mp htoken
    have hpass : ¬ (verifyWebhookToken ((request.headerToken.map pyStrip).bind fun token =>
          pyOr (some token) none) none (pyStrip config.shiprocketSecret) = false ∧
        verifyWebhookToken none payload.bodyToken (pyStrip config.shiprocketSecret) = false) := by
      rintro ⟨h₁, h₂⟩
      rw [h₁, h₂] at htoken'
      simp at htoken'
    simp only [respond, receiveShiprocketTrackingWebhook, hbody]
    rw [if_neg hpass]
    simp [hconfig]

/-- Whatever is requested, a recorded key keeps its status. -/
theorem statusOf_deliverStep {config : WebhookConfig} {s : WebhookState τ} (d : Delivery τ)
    {integration : IntegrationCode} {eventId : String}
    (h : Known s.events integration eventId) :
    statusOf (deliverStep sha256 config s d).events integration eventId =
      statusOf s.events integration eventId := by
  unfold deliverStep respond
  cases d with
  | cashfree request failure =>
    dsimp only [receiveCashfreePaymentWebhook]
    split
    · rfl
    · split
      · rfl
      · rfl
      · split
        · rfl
        · split
          · rfl
          · exact statusOf_receive_of_known h
  | shiprocket request track =>
    dsimp only [receiveShiprocketTrackingWebhook]
    split
    · rfl
    · rfl
    · split
      · rfl
      · split
        · rfl
        · exact statusOf_receive_of_known h

end Endpoints

end AyushOms.Webhooks
