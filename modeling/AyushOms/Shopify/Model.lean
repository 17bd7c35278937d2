import AyushOms.Core.Session
import AyushOms.Lib.Procedure
import AyushOms.Telecalling.Model
import AyushOms.Tracking.Model
import Mathlib.Data.List.Infix

/-!
# The Shopify Side: Tags, Requests, Adapter and Store

The texts `app.services.shopify_fulfillment_service` sends (tags, channels, addresses), the
requests the adapter can be asked for and what it can answer, and the store the services of
the backend share: the database, and the requests that have been sent out. A request that is
sent cannot be taken back, so it is as durable as a commit.
-/

namespace AyushOms.Shopify

open AyushOms.Lib AyushOms.Orders AyushOms.Tracking AyushOms.Telecalling

/-! ## Section 1: Tags -/

/-- `CONFIRMATION_TAG`. -/
def confirmationTag : String := "OMS Confirmed"

/-- `_MAX_TAG_LENGTH`. -/
def maxTagLength : ℕ := 255

/-- `" ".join(text.split())`: words separated by one blank. -/
def pyJoinWords (text : String) : String :=
  " ".intercalate (((text.toList.splitOnP pyIsSpace).filter fun word => word ≠ []).map
    String.ofList)

/-- `_telecaller_confirmation_tag`. -/
def telecallerConfirmationTag (telecallerName : String) : String :=
  let cleaned := pyJoinWords (String.ofList (telecallerName.toList.map fun c =>
    if c = ',' then ' ' else c))
  String.ofList ((cleaned ++ " confirmed by OMS").toList.take maxTagLength)

/-- `_confirmation_tags`. -/
def confirmationTags (telecallerName : Option String) : List String :=
  match telecallerName with
  | some name =>
    if pyFalsy (pyStrip name) then [confirmationTag]
    else [confirmationTag, telecallerConfirmationTag name]
  | none => [confirmationTag]

/-- `OUTCOME_TAGS`, in the source's order. -/
def outcomeTags : List (TelecallingStatus × String) :=
  [(.notAnswering, "Not Answering"), (.busy, "Busy"), (.switchedOff, "Switched Off"),
    (.callBackLater, "Call Back Later"), (.interested, "Interested"),
    (.notInterested, "Not Interested"), (.cancelled, "Cancelled"), (.other, "Other")]

/-- `OrderChannel.LABELS`, in the source's order. -/
def channelLabels : List (OrderChannel × String) :=
  [(.shopify, "Shopify Order"), (.manual, "Manual Order"), (.distributor, "Distributor Order"),
    (.influencerSample, "Influencer Sample"), (.amazon, "Amazon Order"),
    (.flipkart, "Flipkart Order"), (.blinkit, "Blinkit Order"), (.meesho, "Meesho Order")]

/-- `_SHOPIFY_TAG_CHANNEL_KEYWORDS`. -/
def shopifyTagChannelKeywords : List (String × OrderChannel) :=
  [("distributor", .distributor), ("influencer", .influencerSample), ("amazon", .amazon),
    ("flipkart", .flipkart), ("blinkit", .blinkit), ("meesho", .meesho)]

/-- `resolve_order_channel`: the first keyword of the first tag that has one. -/
def resolveOrderChannel [PyText] (order : Order) : OrderChannel :=
  if order.sourceSystem = some .manual then .manual
  else
    ((order.shopifyTags.getD []).findSome? fun tag =>
      (shopifyTagChannelKeywords.find? fun keyword =>
        decide (keyword.1.toList <:+: (PyText.lower tag).toList)).map (·.2)).getD .shopify

/-- `OrderChannel.LABELS[channel]`. -/
def channelTag (channel : OrderChannel) : String := (channelLabels.lookup channel).getD ""

/-- The tags `sync_call_tags` adds and the tags it removes. -/
def callTags [PyText] (order : Order) (outcome : TelecallingStatus) :
    List String × List String :=
  let channel := resolveOrderChannel order
  (channelTag channel :: (outcomeTags.lookup outcome).toList,
    (channelLabels.filter fun label => label.1 != channel).map (·.2) ++
      (outcomeTags.filter fun tag => tag.1 != outcome).map (·.2))

/-! ## Section 2: Requests and answers -/

/-- `MailingAddressInput`. -/
structure AddressInput where
  firstName : Option String
  lastName : Option String
  address1 : Option String
  address2 : Option String
  city : Option String
  province : Option String
  country : Option String
  zip : Option String
  phone : Option String
  deriving DecidableEq, Repr

/-- `_to_shopify_address_input`. -/
def toShopifyAddressInput (address : ShippingAddress) : AddressInput :=
  let contactName := pyStrip (address.contactName.getD "")
  -- split at the first blank, when there is one
  let first := String.ofList (contactName.toList.takeWhile (· ≠ ' '))
  let rest := String.ofList ((contactName.toList.dropWhile (· ≠ ' ')).drop 1)
  let (firstName, lastName) :=
    if ' ' ∈ contactName.toList then (some first, some rest)
    else (none, pyOr (some contactName) none)
  { firstName := pyOr firstName none
    lastName := pyOr lastName none
    address1 := address.line1
    address2 := address.line2
    city := address.city
    province := address.state
    country := address.country
    zip := address.pinCode
    phone := address.contactPhone }

/-- `f"gid://shopify/Order/{shopify_order_id}"`. -/
def orderGid (shopifyOrderId : String) : String := "gid://shopify/Order/" ++ shopifyOrderId

/-- A request to Shopify. -/
inductive ShopifyRequest where
  | openFulfillmentOrder (orderGid : String)
  | createFulfillment (fulfillmentOrderId trackingNumber : String)
      (trackingCompany : Option String)
  | updateTracking (fulfillmentId trackingNumber : String) (trackingCompany : Option String)
  | addTags (orderGid : String) (tags : List String)
  | removeTags (orderGid : String) (tags : List String)
  | updateAddress (orderGid : String) (address : AddressInput)
  deriving DecidableEq, Repr

/-- The request creates a fulfillment. -/
def ShopifyRequest.creates : ShopifyRequest → Bool
  | .createFulfillment .. => true
  | _ => false

/-- The answer to a creation or an update of a fulfillment: the value under its key `id`,
when it has that key. -/
structure Fulfillment where
  id : Option (Option String)
  deriving DecidableEq, Repr

/-- How the adapter behaves during a call of a service: what it returns, or the exception it
raises. -/
structure ShopifyAdapter where
  getOpenFulfillmentOrderId : String → Except PyException (Option String)
  createFulfillment : String → String → Option String → Except PyException Fulfillment
  updateFulfillmentTracking : String → String → Option String → Except PyException Fulfillment
  addOrderTags : String → List String → Except PyException Unit
  removeOrderTags : String → List String → Except PyException Unit
  updateOrderShippingAddress : String → AddressInput → Except PyException Unit

/-- `get_adapter(IntegrationCode.SHOPIFY)`. -/
abbrev Registry := Option ShopifyAdapter

/-! ## Section 3: The store -/

/-- `Courier`. -/
structure Courier where
  id : UUID
  name : String
  sourceSystem : Option SourceSystem := none
  externalId : Option String := none
  deriving DecidableEq, Repr

/-- The database all services share, and the requests sent to Shopify so far. -/
structure Oms where
  db : TrackingDB := {}
  /-- `product_variants.product_id`, the one column of the variants that stock does not use. -/
  productOf : UUID → UUID := fun _ => 0
  calls : CallDB := {}
  couriers : List Courier := []
  sent : List ShopifyRequest := []

/-- What a request runs. -/
abbrev OmsProc (α : Type) := Proc Oms RequestSession PyException α

namespace Oms

def getCourier (w : Oms) (id : UUID) : Option Courier := w.couriers.find? fun c => c.id == id

def setOrders (w : Oms) (orders : OrdersDB) : Oms := { w with db := { w.db with orders := orders } }

/-- The request has been sent. -/
def withSent (w : Oms) (request : ShopifyRequest) : Oms := { w with sent := w.sent ++ [request] }

@[simp] theorem db_withSent (w : Oms) (request : ShopifyRequest) : (w.withSent request).db = w.db :=
  rfl

@[simp] theorem sent_withSent (w : Oms) (request : ShopifyRequest) :
    (w.withSent request).sent = w.sent ++ [request] := rfl

@[simp] theorem orders_setOrders (w : Oms) (orders : OrdersDB) :
    (w.setOrders orders).db.orders = orders := rfl

@[simp] theorem shipments_setOrders (w : Oms) (orders : OrdersDB) :
    (w.setOrders orders).db.shipments = w.db.shipments := rfl

@[simp] theorem calls_setOrders (w : Oms) (orders : OrdersDB) :
    (w.setOrders orders).calls = w.calls := rfl

@[simp] theorem sent_setOrders (w : Oms) (orders : OrdersDB) :
    (w.setOrders orders).sent = w.sent := rfl

end Oms

/-! ## Section 4: What procedures are made of -/

/-- A statement, or a change of what the session has loaded. -/
def withSession (f : RequestSession → RequestSession) : OmsProc PUnit :=
  Proc.memory fun k => (.ok PUnit.unit, f k)

/-- `session.get`. -/
def getById {α : Type} (e : Entity) (find : Oms → Option α) : OmsProc (Option α) := do
  let w ← Proc.store
  withSession fun k => k.get e (find w).isSome
  return find w

/-- A `SELECT` of one row the caller goes on to use; `missing` is raised without it. -/
def selectRow {α : Type} (e : Entity) (find : Oms → Option α) (missing : OMSError) : OmsProc α := do
  let w ← Proc.store
  match find w with
  | some row => do
    withSession fun k => k.load e
    return row
  | none => do
    withSession fun k => k.execute
    throw (.oms missing)

/-- Flush the writes, record them in the audit log under the acting user, and commit. -/
def transaction {α : Type} (actor : Option UUID) (write : Oms → Except PyException (α × Oms)) :
    OmsProc α := fun k w =>
  match write w with
  | .error e => .done (.error e, k.execute)
  | .ok (a, w') =>
    if k.CanRead actor then .commit w' (.done (.ok a, k.commit))
    else .done (.error .missingGreenlet, k.execute)

/-- Send a request to Shopify; its answer is returned or raised. -/
def send {α : Type} (request : ShopifyRequest) (answer : Except PyException α) : OmsProc α :=
  fun k w => .commit (w.withSent request) (.done (answer, k))

/-- `OrderService.get_order`. -/
def getOrder (orderId : UUID) : OmsProc Order :=
  selectRow (.order orderId) (fun w => w.db.orders.getOrder orderId) (.notFound "Order not found.")

/-! ## Section 5: Running them -/

section Run

variable {α : Type} {k : RequestSession} {w : Oms} {e : Entity} {find : Oms → Option α}
  {missing : OMSError} {actor : Option UUID} {write : Oms → Except PyException (α × Oms)}

theorem getById_run : getById e find k w = .done (.ok (find w), k.get e (find w).isSome) := rfl

theorem withSession_run (f : RequestSession → RequestSession) :
    withSession f k w = .done (.ok PUnit.unit, f k) := rfl

theorem selectRow_run_some {row : α} (h : find w = some row) :
    selectRow e find missing k w = .done (.ok row, k.load e) := by
  rw [selectRow, Proc.bind_run, Proc.store_run, Staged.andThen_done, Proc.resume_ok, h]
  rfl

theorem selectRow_run_none (h : find w = none) :
    selectRow e find missing k w = .done (.error (.oms missing), k.execute) := by
  rw [selectRow, Proc.bind_run, Proc.store_run, Staged.andThen_done, Proc.resume_ok, h]
  rfl

theorem send_run (request : ShopifyRequest) (answer : Except PyException α) :
    send request answer k w = .commit (w.withSent request) (.done (answer, k)) := rfl

theorem transaction_run_ok {a : α} {w' : Oms} (hk : k.CanRead actor)
    (h : write w = .ok (a, w')) :
    transaction actor write k w = .commit w' (.done (.ok a, k.commit)) := by
  simp only [transaction, h, if_pos hk]

theorem transaction_run_error {e : PyException} (h : write w = .error e) :
    transaction actor write k w = .done (.error e, k.execute) := by
  simp only [transaction, h]

end Run

/-! ## Section 6: What their commits do -/

section Commits

variable {R : Oms → Oms → Prop} {α : Type}

theorem commits_withSession (f : RequestSession → RequestSession) :
    (withSession f).Commits R := fun _ _ => True.intro

theorem commits_getById (e : Entity) (find : Oms → Option α) : (getById e find).Commits R :=
  Proc.Commits.store.bind fun _ => (commits_withSession _).bind fun _ => .pure _

theorem commits_selectRow (e : Entity) (find : Oms → Option α) (missing : OMSError) :
    (selectRow e find missing).Commits R := by
  refine Proc.Commits.store.bind fun w => ?_
  split
  · exact (commits_withSession _).bind fun _ => .pure _
  · exact (commits_withSession _).bind fun _ => .throw _

theorem commits_getOrder (orderId : UUID) : (getOrder orderId).Commits R :=
  commits_selectRow _ _ _

theorem steps_transaction {actor : Option UUID} {write : Oms → Except PyException (α × Oms)}
    {k : RequestSession} {w : Oms} (h : ∀ a w', write w = .ok (a, w') → R w w') :
    (transaction actor write k w).Steps R w := by
  unfold transaction
  split
  · exact True.intro
  · rename_i a w' hwrite
    split
    · exact ⟨h a w' hwrite, True.intro⟩
    · exact True.intro

theorem commits_transaction {actor : Option UUID} {write : Oms → Except PyException (α × Oms)}
    (h : ∀ w a w', write w = .ok (a, w') → R w w') : (transaction actor write).Commits R :=
  fun _ w => steps_transaction (h w)

theorem commits_send {request : ShopifyRequest} {answer : Except PyException α}
    (h : ∀ w, R w (w.withSent request)) : (send request answer).Commits R :=
  fun _ w => ⟨h w, True.intro⟩

end Commits

/-! ## Section 7: The acting user stays readable -/

section Keeps

variable {actor : Option UUID} {α : Type}

theorem keeps_withSession {f : RequestSession → RequestSession}
    (h : ∀ k, k.CanRead actor → (f k).CanRead actor) :
    (withSession f).Keeps fun k => k.CanRead actor := Proc.Keeps.memory h

theorem keeps_getById (e : Entity) (find : Oms → Option α) :
    (getById e find).Keeps fun k => k.CanRead actor :=
  Proc.Keeps.store.bind fun _ =>
    (keeps_withSession fun _ h => RequestSession.canRead_get h e _).bind fun _ => .pure _

theorem keeps_selectRow (e : Entity) (find : Oms → Option α) (missing : OMSError) :
    (selectRow e find missing).Keeps fun k => k.CanRead actor := by
  refine Proc.Keeps.store.bind fun w => ?_
  split
  · exact (keeps_withSession fun _ h => RequestSession.canRead_load h e).bind fun _ => .pure _
  · exact (keeps_withSession fun _ h =>
      RequestSession.canRead_execute.mpr h).bind fun _ => .throw _

theorem keeps_getOrder (orderId : UUID) : (getOrder orderId).Keeps fun k => k.CanRead actor :=
  keeps_selectRow _ _ _

theorem keeps_transaction {user : Option UUID} {write : Oms → Except PyException (α × Oms)} :
    (transaction user write).Keeps fun k => k.CanRead actor := by
  intro k w hk
  unfold transaction
  split
  · exact hk
  · split <;> exact hk

theorem keeps_send (request : ShopifyRequest) (answer : Except PyException α) :
    (send request answer).Keeps fun k => k.CanRead actor := fun _ _ hk => hk

end Keeps

end AyushOms.Shopify
