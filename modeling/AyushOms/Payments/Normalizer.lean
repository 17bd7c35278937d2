import AyushOms.Orders.Model

/-!
# Cashfree Normalization

`app.integrations.cashfree.normalizer`: the status map, the merchant order id, and the
arguments of a payment event as each of the three sources (webhook, per-order
reconciliation, recon sync) builds them from what Cashfree sent.
-/

namespace AyushOms.Payments

open AyushOms.Lib AyushOms.Orders

/-! ## Section 1: Payment events -/

/-- The arguments of `apply_payment_event`; `now` is the clock the call reads. -/
structure PaymentEvent where
  cashfreeOrderId : String
  cfPaymentId : Option String
  rawStatus : Option String
  amount : Option ℚ
  currency : Option String := none
  paymentMethodName : Option String := none
  paidAt : Option Instant := none
  now : Instant := 0
  deriving DecidableEq

/-! ## Section 2: Payment status mapping -/

/-- `_PAYMENT_STATUS_MAP`. -/
def paymentStatusMap : List (String × PaymentStatus) := [
  ("SUCCESS", .paid),
  ("FAILED", .failed),
  ("USER_DROPPED", .failed),
  ("CANCELLED", .failed),
  ("VOID", .failed),
  ("PENDING", .pending),
  ("NOT_ATTEMPTED", .pending),
  ("FLAGGED", .pending)]

/-- `normalize_payment_status`: `none` for an unrecognized or missing status. -/
def normalizePaymentStatus [PyText] (rawStatus : Option String) : Option PaymentStatus :=
  match rawStatus with
  | none => none
  | some raw => if pyFalsy raw then none else paymentStatusMap.lookup (PyText.upper (pyStrip raw))

example : normalizePaymentStatus (some " success ") = some .paid := by decide

/-! ## Section 3: Merchant order ids -/

/-- `_ORDER_ID_MAX_LENGTH`. -/
def orderIdMaxLength : Int := 45

/-- The complement of `_INVALID_ORDER_ID_CHARS`. -/
def isOrderIdChar (c : Char) : Bool :=
  c.isAlphanum || c == '_' || c == '-'

/-- `text[:stop]`, with Python's reading of a negative `stop`. -/
def pySlice (text : List Char) (stop : Int) : List Char :=
  if 0 ≤ stop then text.take stop.toNat else text.take (text.length - (-stop).toNat)

/-- `build_cashfree_order_id`. -/
def buildCashfreeOrderId (orderNumber : String) (disambiguator : Option String) : String :=
  let kept := orderNumber.toList.filter isOrderIdChar
  let base := if kept.isEmpty then "AWLORDER".toList else kept
  match pyOr disambiguator none with
  | none => String.ofList (pySlice base orderIdMaxLength)
  | some text =>
    let suffix := '-' :: text.toList
    String.ofList (pySlice base (orderIdMaxLength - suffix.length) ++ suffix)

example : buildCashfreeOrderId "#AWL92268" (some "1") = "AWL92268-1" := by decide

/-! ## Section 4: The three sources -/

/-- One payment attempt of `GET /orders/{order_id}/payments`. -/
structure GatewayPayment where
  cfPaymentId : Option String
  paymentStatus : Option String
  paymentAmount : Option ℚ
  paymentCurrency : Option String
  paymentMethod : Option String
  paymentTime : Option Instant
  deriving DecidableEq

/-- The event `reconcile_payment` builds from an attempt. -/
def GatewayPayment.toEvent (raw : GatewayPayment) (cashfreeOrderId : String) (now : Instant) :
    PaymentEvent where
  cashfreeOrderId := cashfreeOrderId
  cfPaymentId := raw.cfPaymentId
  rawStatus := raw.paymentStatus
  amount := raw.paymentAmount
  currency := raw.paymentCurrency
  paymentMethodName := raw.paymentMethod
  paidAt := raw.paymentTime
  now := now

/-- One row of a `POST /recon` page. -/
structure ReconRow where
  eventType : Option String
  orderId : Option String
  cfPaymentId : Option String
  status : Option String
  paymentAmount : Option ℚ
  paymentCurrency : Option String
  paymentTime : Option Instant
  deriving DecidableEq

/-- `normalize_recon_row`: `none` for a refund or dispute row and for a row without an
order id. -/
def normalizeReconRow (raw : ReconRow) (now : Instant) : Option PaymentEvent :=
  if raw.eventType = none ∨ raw.eventType = some "PAYMENT" then
    (pyOr raw.orderId none).map fun orderId => {
      cashfreeOrderId := orderId
      cfPaymentId := raw.cfPaymentId
      rawStatus := raw.status
      amount := raw.paymentAmount
      currency := raw.paymentCurrency
      paymentMethodName := none
      paidAt := raw.paymentTime
      now := now }
  else none

end AyushOms.Payments
