import AyushOms.Orders.Service
import AyushOms.Telecalling.Service

/-!
# The Methods of the Telecalling Service

The methods of `app.services.telecalling_service.TelecallingService` that change an order, as
procedures of a request: the transactions on assignments and call attempts, what `log_call`
does after its commit, and the methods that check the assignment and go on with the order
service.
-/

namespace AyushOms.Telecalling

open AyushOms.Lib AyushOms.Orders AyushOms.Shopify

namespace TelecallingService

/-! ## Section 1: Transactions on the call log -/

/-- The statements of a transaction, its audit record and its commit. -/
def callTransaction {α : Type} (actor : User) (body : CallTxn α) : OmsProc α :=
  transaction (some actor.id) fun w =>
    match body.run CallWrite.apply (.fresh w.calls fun _ => none) with
    | (.error e, _) => .error e
    | (.ok a, session) => .ok (a, { w with calls := session.working })

/-- `_confirm_order_from_call_log`. -/
def confirmOrderFromCallLog (env : External) (orderId actor : UUID) (now : Instant) :
    OmsProc PUnit :=
  tryCatch
    (do
      let _ ← OrderService.confirmOrder env orderId actor now
      return PUnit.unit)
    fun e =>
      match e with
      | .oms (.conflict _) => pure PUnit.unit
      | e => throw e

/-- `log_call`; an order is confirmed at `confirmedAt`. -/
def logCall [PyText] (env : External) (c : LogCall) (confirmedAt : Instant) :
    OmsProc CallAttempt := do
  let attempt ← callTransaction c.actor (Telecalling.logCall c)
  if c.outcome = .confirmed then
    confirmOrderFromCallLog env c.orderId c.actor.id confirmedAt
  syncCallTags env.shopify c.orderId c.outcome (some c.actor.id)
  return attempt

/-- `edit_call_attempt`. -/
def editCallAttempt (c : EditCall) : OmsProc CallAttempt :=
  callTransaction c.actor (Telecalling.editCallAttempt c)

/-- `delete_call_attempt`. -/
def deleteCallAttempt (c : DeleteCall) : OmsProc CallAttempt :=
  callTransaction c.actor (Telecalling.deleteCallAttempt c)

/-- `schedule_follow_up`. -/
def scheduleFollowUp (orderId : UUID) (nextFollowUpAt : Instant) (actor : User) :
    OmsProc OrderAssignment :=
  callTransaction actor (Telecalling.scheduleFollowUp orderId nextFollowUpAt actor)

/-! ## Section 2: Methods that go on with the order service -/

/-- An attribute of the acting user is read. -/
def readActor (actor : UUID) : OmsProc PUnit :=
  Proc.memory fun k =>
    if k.CanRead (some actor) then (.ok PUnit.unit, k) else (.error .missingGreenlet, k)

/-- The check at the beginning of these methods. -/
def checkAssigned (orderId : UUID) (actor : User) : OmsProc PUnit := do
  let w ← Proc.store
  withSession RequestSession.execute
  match getActiveForOrder w.calls.assignments orderId with
  | none => throw (.oms (.notFound "Order is not currently assigned."))
  | some assignment => do
    readActor actor.id
    if actor.isSuperuser = false ∧ assignment.assignedTo ≠ actor.id then
      throw (.oms (.authorization "This order is not assigned to you."))

/-- `confirm_assigned_order`. -/
def confirmAssignedOrder (env : External) (orderId : UUID) (actor : User) (now : Instant) :
    OmsProc Order := do
  checkAssigned orderId actor
  OrderService.confirmOrder env orderId actor.id now

/-- `unconfirm_assigned_order`. -/
def unconfirmAssignedOrder (env : External) (orderId : UUID) (actor : User) : OmsProc Order := do
  checkAssigned orderId actor
  OrderService.unconfirmOrder env orderId actor.id

/-- `update_assigned_order_address`. -/
def updateAssignedOrderAddress (env : External) (orderId : UUID) (actor : User)
    (address : ShippingAddress) (now : Instant) : OmsProc Order := do
  checkAssigned orderId actor
  OrderService.updateShippingAddress env orderId actor.id address now

/-- `update_assigned_order_item_variant`. -/
def updateAssignedOrderItemVariant (orderId itemId : UUID) (actor : User) (newVariantId : UUID) :
    OmsProc Order := do
  checkAssigned orderId actor
  OrderService.updateItemVariant orderId itemId newVariantId actor.id

/-! ## Section 3: Bulk confirmation -/

/-- One entry of the list `bulk_confirm_assigned_orders` returns. -/
structure ConfirmResult where
  orderId : UUID
  success : Bool
  message : Option String
  deriving DecidableEq, Repr

/-- The `except` blocks of the loop. -/
def recoverConfirm (orderId : UUID) : PyException → OmsProc ConfirmResult
  | .oms (.notFound message) | .oms (.authorization message) | .oms (.conflict message)
  | .oms (.validation message) => pure ⟨orderId, false, some message⟩
  | _ => do
    withSession RequestSession.rollback
    return ⟨orderId, false, some "Could not confirm this order."⟩

/-- One turn of the loop. -/
def confirmOne (env : External) (actor : User) (orderId : UUID) (now : Instant) :
    OmsProc ConfirmResult :=
  tryCatch
    (do
      let _ ← confirmAssignedOrder env orderId actor now
      return ⟨orderId, true, none⟩)
    (recoverConfirm orderId)

/-- `bulk_confirm_assigned_orders`; each id comes with the time of its turn. -/
def bulkConfirmAssignedOrders (env : External) (actor : User) :
    List (UUID × Instant) → OmsProc (List ConfirmResult)
  | [] => pure []
  | (orderId, now) :: rest => do
    let result ← confirmOne env actor orderId now
    let results ← bulkConfirmAssignedOrders env actor rest
    return result :: results

end TelecallingService

end AyushOms.Telecalling
