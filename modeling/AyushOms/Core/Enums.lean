/-!
# Status Vocabularies

The enumerations of `app.models.enums` that the modelled services read and write. Each
keeps the source's members in the source's order; `value` is the stored text, given where
a modelled function writes it into an event or a payload.
-/

namespace AyushOms

/-! ## Orders and payments -/

inductive OrderStatus where
  | pending | confirmed | processing | packed | shipped | delivered | cancelled
  deriving DecidableEq, Repr, Inhabited

def OrderStatus.value : OrderStatus → String
  | pending => "pending"
  | confirmed => "confirmed"
  | processing => "processing"
  | packed => "packed"
  | shipped => "shipped"
  | delivered => "delivered"
  | cancelled => "cancelled"

inductive FulfillmentStatus where
  | unfulfilled | partiallyFulfilled | fulfilled
  deriving DecidableEq, Repr, Inhabited

inductive PaymentType where
  | cod | prepaid | other
  deriving DecidableEq, Repr, Inhabited

inductive PaymentStatus where
  | pending | authorized | paid | failed | refunded | partiallyRefunded
  deriving DecidableEq, Repr, Inhabited

def PaymentStatus.value : PaymentStatus → String
  | pending => "pending"
  | authorized => "authorized"
  | paid => "paid"
  | failed => "failed"
  | refunded => "refunded"
  | partiallyRefunded => "partially_refunded"

/-- The known values of `source_system`. -/
inductive SourceSystem where
  | shopify | shiprocket | blueDart | cashfree | manual
  deriving DecidableEq, Repr, Inhabited

/-! ## Shipments and returns to origin -/

inductive ShipmentStatus where
  | pending | pickedUp | inTransit | outForDelivery | delivered | ndr | rtoInitiated
  | rtoDelivered | cancelled
  deriving DecidableEq, Repr, Inhabited

def ShipmentStatus.value : ShipmentStatus → String
  | pending => "pending"
  | pickedUp => "picked_up"
  | inTransit => "in_transit"
  | outForDelivery => "out_for_delivery"
  | delivered => "delivered"
  | ndr => "ndr"
  | rtoInitiated => "rto_initiated"
  | rtoDelivered => "rto_delivered"
  | cancelled => "cancelled"

inductive RTOStatus where
  | initiated | inTransit | received | cancelled
  deriving DecidableEq, Repr, Inhabited

inductive ReturnStatus where
  | requested | approved | rejected | inTransit | received | completed | cancelled
  deriving DecidableEq, Repr, Inhabited

inductive RefundStatus where
  | pending | processing | completed | failed | cancelled
  deriving DecidableEq, Repr, Inhabited

/-- How far the push of a row to Shopify has come. -/
inductive ShopifySyncStatus where
  | notApplicable | pending | synced | failed
  deriving DecidableEq, Repr, Inhabited

/-! ## Inventory -/

/-- What changed a variant's `available_quantity` and why. -/
inductive InventoryMovementType where
  | dispatch | rtoRestock | manualAdjustment | initialStock
  deriving DecidableEq, Repr, Inhabited

/-! ## Telecalling -/

/-- Whether an assignment is the current one of its order. -/
inductive AssignmentStatus where
  | active | inactive
  deriving DecidableEq, Repr, Inhabited

/-- What came of a call; the values after `other` are read from old rows and never written. -/
inductive TelecallingStatus where
  | notCalled | notAnswering | busy | switchedOff | callBackLater | interested | notInterested
  | confirmed | cancelled | other
  | callAttempted | connected | notReceived | invalidNumber | callBackRequested
  | followUpRequired
  deriving DecidableEq, Repr, Inhabited

/-- The classification of an order by where it came from. -/
inductive OrderChannel where
  | shopify | manual | distributor | influencerSample | amazon | flipkart | blinkit | meesho
  deriving DecidableEq, Repr, Inhabited

/-! ## Synchronisation and webhooks -/

inductive SyncType where
  | full | incremental | webhook
  deriving DecidableEq, Repr, Inhabited

inductive SyncJobStatus where
  | queued | running | completed | partially | failed | cancelled
  deriving DecidableEq, Repr, Inhabited

inductive WebhookEventStatus where
  | received | processing | processed | failed | ignored
  deriving DecidableEq, Repr, Inhabited

end AyushOms
