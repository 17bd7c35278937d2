import AyushOms.Lib.Run
import AyushOms.Tracking.Identity
import Mathlib.Data.Finset.Card

/-!
# Creating Shipments at Shiprocket

`ShiprocketOperationsService.create_shipment_for_order` and its bulk form. A call reads the
order and its shipments and decides whether the order may ship, asks Shiprocket to create
an order there, and stores the shipment of the answer. Between these steps anything else
may run, the provider may act on a request whose answer is lost, the HTTP client may send
the request again, and the process may die.

The provider's own record of what it created is kept beside the database: it is what the
steps of one call are meant to agree on, and the database learns of it late or never.
-/

namespace AyushOms.Tracking

open AyushOms.Lib AyushOms.Orders AyushOms.Inventory

/-! ## Section 1: Whether an order may ship -/

namespace TrackingDB

/-- `ShipmentRepository.list_for_order`. -/
def shipmentsForOrder (db : TrackingDB) (orderId : UUID) : List Shipment :=
  db.shipments.rows.filter fun s => s.orderId == orderId

/-- `_check_shippable`. The order's `fulfillment_status` belongs to the Shopify side of the
row and is passed in. -/
def checkShippable (db : TrackingDB) (order : Order)
    (fulfillmentStatus : FulfillmentStatus) : Except OMSError Unit :=
  if order.status ≠ .confirmed then
    .error (.conflict
      ("Order is '" ++ order.status.value ++ "', not confirmed — cannot ship."))
  else if fulfillmentStatus = .fulfilled then
    .error (.conflict "Order is already fulfilled.")
  else if order.shippingAddress = none then
    .error (.conflict "Order has no shipping address on file.")
  -- the idempotency guard: a cancelled shipment does not block a re-ship
  else if (db.shipmentsForOrder order.id).any (fun s => s.currentStatus != .cancelled) then
    .error (.conflict ("A shipment already exists for this order — refresh the page instead " ++
      "of creating another one."))
  else if db.orders.stock.checkStockAvailable order.id ≠ [] then
    .error (.conflict "Cannot create shipment — insufficient stock for one or more items.")
  else .ok ()

/-- What the environment has set up. -/
structure ShiprocketSetup where
  pickupLocation : Option String := some "Primary"
  adapterRegistered : Bool := true

/-- `create_shipment_for_order` up to the call of the provider. -/
def beginShipment (db : TrackingDB) (orderId : UUID) (fulfillmentStatus : FulfillmentStatus)
    (setup : ShiprocketSetup) : Except OMSError Unit :=
  match db.orders.getOrder orderId with
  | none => .error (.notFound "Order not found.")
  | some order =>
    match db.checkShippable order fulfillmentStatus with
    | .error e => .error e
    | .ok () =>
      if pyOr setup.pickupLocation none = none then
        .error (.integration ("Shiprocket is not configured with a pickup location " ++
          "(SHIPROCKET_EMAIL/SHIPROCKET_PASSWORD/SHIPROCKET_PICKUP_LOCATION)."))
      else if setup.adapterRegistered = false then
        .error (.integration "No adapter registered for integration 'shiprocket'.")
      else .ok ()

/-- `cancel_shipment`; `answer` is the provider's. -/
def cancelShipment (db : TrackingDB) (shipmentId : UUID) (answer : Except OMSError Unit) :
    Except OMSError TrackingDB :=
  match db.getShipment shipmentId with
  | none => .error (.notFound "Shipment not found.")
  | some shipment =>
    if pyOr shipment.shiprocketShipmentId none = none then
      .error (.conflict "Shipment has no Shiprocket shipment id — nothing to cancel in Shiprocket.")
    else
      match answer with
      | .error e => .error e
      | .ok () => .ok (db.updateStatus shipmentId (some .cancelled))

end TrackingDB

/-! ## Section 2: The HTTP client -/

/-- `ShiprocketApiError`, and whether it was raised for an answer of the provider. -/
structure ApiFailure where
  errorType : String
  statusCode : Option ℕ := none
  ofResponse : Bool := false
  deriving DecidableEq, Repr

/-- What one attempt ends with: a body, with the `shipment_id` it names, a failure the
client classifies, or a body that is no JSON. -/
inductive Answer where
  | body (shipmentId : Option String)
  | failure (e : ApiFailure)
  | unreadable
  deriving DecidableEq, Repr

/-- `_RETRYABLE_ERROR_TYPES`. -/
def retryableErrorTypes : List String :=
  ["timeout", "network_error", "http_429", "http_500", "http_502", "http_503", "http_504"]

/-- `DEFAULT_RETRY_POLICY.max_retries`. -/
def maxRetries : ℕ := 5

/-- The local variables of `ShiprocketClient.request`. -/
structure Request where
  attempts : ℕ := 0
  reauthenticated : Bool := false
  deriving DecidableEq, Repr

/-- The request as it is sent again after a failure; `none` when the failure is raised. -/
def Request.afterFailure (r : Request) (e : ApiFailure) : Option Request :=
  -- one 401 renews the token and is no attempt
  if e.ofResponse = true ∧ e.statusCode = some 401 ∧ r.reauthenticated = false then
    some { r with reauthenticated := true }
  else if maxRetries < r.attempts + 1 ∨ e.errorType ∉ retryableErrorTypes then none
  else some { r with attempts := r.attempts + 1 }

/-! ## Section 3: Calls in progress -/

/-- Where a call is with the order it works on. -/
inductive Stage where
  | idle
  | requesting (r : Request)
  | answered (shipmentId : String)
  deriving DecidableEq, Repr

/-- The provider may still act for the call. -/
def Stage.isRequesting : Stage → Bool
  | .requesting _ => true
  | _ => false

/-- After this failure the client sends the request again. -/
def Stage.resends (e : ApiFailure) : Stage → Bool
  | .requesting r => (r.afterFailure e).isSome
  | _ => false

/-- A call of `create_shipment_for_order` (one order) or of
`bulk_create_shipments_for_orders` (its list): the orders left, the first one in work. -/
structure Caller where
  orderIds : List UUID
  stage : Stage := .idle
  deriving DecidableEq, Repr

/-- The database, the calls begun so far by number, what the provider has created (for
which order, under which shipment id), and which shipments have been seen cancelled (of
which order). -/
structure ShipWorld where
  db : TrackingDB
  callers : List Caller := []
  created : List (UUID × String) := []
  cancelled : Finset (UUID × UUID) := ∅

/-- One step of a call, or of another service. -/
inductive ShipEvent where
  | call (orderIds : List UUID)
  | check (n : ℕ) (fulfillmentStatus : FulfillmentStatus) (setup : TrackingDB.ShiprocketSetup)
  | post (n : ℕ) (created : Option String) (answer : Answer)
  | store (n : ℕ)
  | crash (n : ℕ)
  | cancelShipment (shipmentId : UUID) (answer : Except OMSError Unit)
  | track (shipmentId : UUID) (call : TrackingDB.TrackingCall)
  | pull (data : SyncedShipment) (env : LookupEnv)
  | shop (orders : OrdersDB)

namespace ShipWorld

/-- The orders created for one order. -/
def createdFor (w : ShipWorld) (orderId : UUID) : List (UUID × String) :=
  w.created.filter fun c => c.1 == orderId

/-- The shipments of one order that have been seen cancelled. -/
def cancelledFor (w : ShipWorld) (orderId : UUID) : Finset (UUID × UUID) :=
  w.cancelled.filter fun c => c.1 = orderId

def setCaller (w : ShipWorld) (n : ℕ) (c : Caller) : ShipWorld :=
  { w with callers := w.callers.set n c }

/-- A call that got an answer, or gives up on the order and turns to the next: a single
call raises, a bulk call records the failure. -/
def afterPost (orderId : UUID) (rest : List UUID) (r : Request) : Answer → Caller
  | .body shipmentId =>
    match pyOr shipmentId none with
    | some id => { orderIds := orderId :: rest, stage := .answered id }
    -- an answer without a shipment id raises
    | none => { orderIds := rest }
  | .failure e =>
    match r.afterFailure e with
    | some r => { orderIds := orderId :: rest, stage := .requesting r }
    | none => { orderIds := rest }
  | .unreadable => { orderIds := rest }

/-- The row a call stores. -/
def createdShipment (shipmentId : String) : SyncedShipment where
  externalId := shipmentId
  shiprocketShipmentId := some shipmentId

variable [PyText]

/-- What an event does. An event of a call that is not at the step it names does nothing. -/
def act (w : ShipWorld) : ShipEvent → ShipWorld
  | .call orderIds => { w with callers := w.callers ++ [{ orderIds := orderIds }] }
  | .check n fulfillmentStatus setup =>
    match w.callers[n]? with
    | some ⟨orderId :: rest, .idle⟩ =>
      match w.db.beginShipment orderId fulfillmentStatus setup with
      | .ok () => w.setCaller n { orderIds := orderId :: rest, stage := .requesting {} }
      | .error _ => w.setCaller n { orderIds := rest }
    | _ => w
  | .post n created answer =>
    match w.callers[n]? with
    | some ⟨orderId :: rest, .requesting r⟩ =>
      -- the provider may have created the order whatever the client gets to see
      { w with created := w.created ++ (created.map fun id => (orderId, id)).toList }.setCaller n
        (afterPost orderId rest r answer)
    | _ => w
  | .store n =>
    match w.callers[n]? with
    | some ⟨orderId :: rest, .answered shipmentId⟩ =>
      match w.db.upsertSyncedShipment (createdShipment shipmentId) orderId with
      | .ok (_, db) => { w with db := db }.setCaller n { orderIds := rest }
      -- created at the provider and not stored here
      | .error _ => w.setCaller n { orderIds := rest }
    | _ => w
  | .crash n => w.setCaller n { orderIds := [] }
  | .cancelShipment shipmentId answer =>
    match w.db.cancelShipment shipmentId answer with
    | .ok db => { w with db := db }
    | .error _ => w
  | .track shipmentId call => { w with db := (w.db.applyTrackingEvent shipmentId call).2 }
  | .pull data env =>
    match w.db.upsertShipment data env with
    | .ok (_, db) => { w with db := db }
    | .error _ => w
  | .shop orders => { w with db := { w.db with orders := orders } }

/-- Take note of the shipments that are cancelled now. -/
def note (w : ShipWorld) : ShipWorld :=
  { w with
    cancelled := w.cancelled ∪ ((w.db.shipments.rows.filter fun s =>
      s.currentStatus == .cancelled).map fun s => (s.orderId, s.id)).toFinset }

def step (w : ShipWorld) (e : ShipEvent) : ShipWorld := (w.act e).note

/-- No call has begun. -/
def start (db : TrackingDB) : ShipWorld := note { db := db }

end ShipWorld

end AyushOms.Tracking
