import AyushOms.Telecalling.Model
import AyushOms.Tracking.Model

/-!
# The Scope of Shipment Staff

`app.services.shipment_staff_service.ShipmentStaffService`: a Shipment Staff user sees the
orders confirmed by the telecallers assigned to them, with their shipments and NDRs. Every
method that takes an id looks the row up, checks the scope, and hands on to the services that
Fulfillment uses, which are a parameter here.

## Main results

- `staff_outcome_same_iff`: when an id outside the scope gives away whether its row exists
-/

namespace AyushOms.Shipments

open AyushOms.Lib AyushOms.Orders AyushOms.Tracking AyushOms.Telecalling

/-! ## Section 1: Rows and services -/

/-- A row of `users`, with its `shipment_staff_id`. -/
structure StaffMember extends User where
  shipmentStaffId : Option UUID := none
  deriving DecidableEq, Repr

/-- `NDR`. -/
structure NDR where
  id : UUID
  shipmentId : UUID
  orderId : UUID
  deriving DecidableEq, Repr

/-- What the service reads. -/
structure StaffStore where
  db : TrackingDB := {}
  users : List StaffMember := []
  ndrs : List NDR := []

/-- A method: it reads and writes the store, and may raise. -/
abbrev StaffProc (α : Type) := ExceptT PyException (StateM StaffStore) α

/-- One result of `bulk_process_existing_shipments_for_my_scope`. -/
structure BulkEntry where
  orderId : UUID
  orderNumber : Option String := none
  status : String
  shiprocketShipmentId : Option String := none
  shiprocketOrderId : Option String := none
  awb : Option String := none
  courierName : Option String := none
  reason : Option String := none
  deriving DecidableEq, Repr

/-- The shared services the methods hand on to, with the arguments they add to the id. -/
structure SharedServices where
  createShipmentForOrder : UUID → StaffProc Shipment
  processShipmentForOrder : Order → StaffProc BulkEntry
  getTimeline : UUID → StaffProc (List ShipmentEvent)
  assignAwb : UUID → StaffProc Shipment
  requestPickup : UUID → StaffProc Shipment
  refreshTrackingForShipment : UUID → StaffProc Shipment
  syncFulfillmentForShipment : UUID → StaffProc Shipment
  ndrReattempt : UUID → StaffProc NDR

/-! ## Section 2: The service -/

namespace ShipmentStaffService

/-- `resolve_scope`. -/
def resolveScope (actor : UUID) (s : StaffStore) : List UUID :=
  (s.users.filter fun u => u.shipmentStaffId == some actor).map (·.id)

/-- `order is None or order.confirmed_by_telecaller_id not in scope`, denied. -/
def inScope (actor : UUID) (s : StaffStore) (order : Option Order) : Option Order :=
  order.filter fun o => o.confirmedByTelecallerId.any fun id => resolveScope actor s |>.contains id

/-- `get_scoped_order`. -/
def getScopedOrder (orderId actor : UUID) : StaffProc Order := do
  let s ← get
  match inScope actor s (s.db.orders.getOrder orderId) with
  | none => throw (.oms (.authorization "Order not found or not in your scope."))
  | some order => return order

/-- `get_scoped_shipment`. -/
def getScopedShipment (shipmentId actor : UUID) : StaffProc Shipment := do
  let s ← get
  match s.db.getShipment shipmentId with
  | none => throw (.oms (.notFound "Shipment not found."))
  | some shipment =>
    match inScope actor s (s.db.orders.getOrder shipment.orderId) with
    | none => throw (.oms (.authorization "Shipment not found or not in your scope."))
    | some _ => return shipment

/-- `NDRRepository.get_by_id`. -/
def getNdr (s : StaffStore) (ndrId : UUID) : Option NDR := s.ndrs.find? fun n => n.id == ndrId

section Methods

variable (services : SharedServices)

/-- `create_shipment`. -/
def createShipment (orderId actor : UUID) : StaffProc Shipment := do
  let _ ← getScopedOrder orderId actor
  services.createShipmentForOrder orderId

/-- One turn of the loop of `bulk_process_existing_shipments_for_my_scope`. -/
def processOne (orderId actor : UUID) : StaffProc BulkEntry := do
  let failed : BulkEntry := {
    orderId := orderId
    status := "failed"
    reason := some "Order not found or not in your scope." }
  let order ← tryCatch (some <$> getScopedOrder orderId actor) fun e =>
    match e with
    | .oms (.notFound _) | .oms (.authorization _) => return none
    | e => throw e
  match order with
  | none => return failed
  | some order => services.processShipmentForOrder order

/-- `bulk_process_existing_shipments_for_my_scope`. -/
def bulkProcessExistingShipmentsForMyScope (orderIds : List UUID) (actor : UUID) :
    StaffProc (List BulkEntry) :=
  orderIds.mapM fun orderId => processOne services orderId actor

/-- A method that checks the scope of a shipment and hands its id on. -/
def onShipment {α : Type} (handOn : UUID → StaffProc α) (shipmentId actor : UUID) :
    StaffProc α := do
  let _ ← getScopedShipment shipmentId actor
  handOn shipmentId

/-- `get_timeline`. -/
def getTimeline : UUID → UUID → StaffProc (List ShipmentEvent) :=
  onShipment services.getTimeline

/-- `assign_awb`. -/
def assignAwb : UUID → UUID → StaffProc Shipment := onShipment services.assignAwb

/-- `request_pickup`. -/
def requestPickup : UUID → UUID → StaffProc Shipment := onShipment services.requestPickup

/-- `refresh_tracking`. -/
def refreshTracking : UUID → UUID → StaffProc Shipment :=
  onShipment services.refreshTrackingForShipment

/-- `retry_shopify_sync`. -/
def retryShopifySync : UUID → UUID → StaffProc Shipment :=
  onShipment services.syncFulfillmentForShipment

/-- `reattempt_ndr`. -/
def reattemptNdr (ndrId actor : UUID) : StaffProc NDR := do
  let s ← get
  match getNdr s ndrId with
  | none => throw (.oms (.notFound "NDR not found."))
  | some ndr =>
    match inScope actor s (s.db.orders.getOrder ndr.orderId) with
    | none => throw (.oms (.authorization "NDR not found or not in your scope."))
    | some _ => services.ndrReattempt ndrId

end Methods

end ShipmentStaffService

/-! ## Section 3: Calls and their outcomes -/

/-- A read or an action by id; `processOne` is what a bulk call does with one of its ids. -/
inductive StaffCall where
  | getScopedOrder (orderId : UUID)
  | createShipment (orderId : UUID)
  | processOne (orderId : UUID)
  | getScopedShipment (shipmentId : UUID)
  | getTimeline (shipmentId : UUID)
  | assignAwb (shipmentId : UUID)
  | requestPickup (shipmentId : UUID)
  | refreshTracking (shipmentId : UUID)
  | retryShopifySync (shipmentId : UUID)
  | reattemptNdr (ndrId : UUID)
  deriving DecidableEq, Repr

/-- What a call returns. -/
inductive StaffResult where
  | order (o : Order)
  | bulk (entry : BulkEntry)
  | shipment (s : Shipment)
  | timeline (events : List ShipmentEvent)
  | ndr (n : NDR)

/-- The row an id stands for. -/
inductive Target where
  | order (id : UUID)
  | shipment (id : UUID)
  | ndr (id : UUID)
  deriving DecidableEq, Repr

/-- The HTTP status an exception is answered with. -/
def statusCode : PyException → Nat
  | .oms e => e.statusCode
  | _ => 500

namespace StaffCall

open ShipmentStaffService

def target : StaffCall → Target
  | getScopedOrder id | createShipment id | processOne id => .order id
  | getScopedShipment id | getTimeline id | assignAwb id | requestPickup id
  | refreshTracking id | retryShopifySync id => .shipment id
  | reattemptNdr id => .ndr id

/-- The call, by the given user. -/
def proc (services : SharedServices) (actor : UUID) : StaffCall → StaffProc StaffResult
  | getScopedOrder id => .order <$> ShipmentStaffService.getScopedOrder id actor
  | createShipment id => .shipment <$> ShipmentStaffService.createShipment services id actor
  | processOne id => .bulk <$> ShipmentStaffService.processOne services id actor
  | getScopedShipment id => .shipment <$> ShipmentStaffService.getScopedShipment id actor
  | getTimeline id => .timeline <$> ShipmentStaffService.getTimeline services id actor
  | assignAwb id => .shipment <$> ShipmentStaffService.assignAwb services id actor
  | requestPickup id => .shipment <$> ShipmentStaffService.requestPickup services id actor
  | refreshTracking id => .shipment <$> ShipmentStaffService.refreshTracking services id actor
  | retryShopifySync id => .shipment <$> ShipmentStaffService.retryShopifySync services id actor
  | reattemptNdr id => .ndr <$> ShipmentStaffService.reattemptNdr services id actor

/-- The result, or the kind of error. -/
def outcome (services : SharedServices) (actor : UUID) (call : StaffCall) (s : StaffStore) :
    Except Nat StaffResult :=
  ((call.proc services actor).run s).1.mapError statusCode

end StaffCall

/-! ## Section 4: What the scope is -/

namespace Target

/-- The row is there. -/
def Exists (s : StaffStore) : Target → Prop
  | order id => (s.db.orders.getOrder id).isSome
  | shipment id => (s.db.getShipment id).isSome
  | ndr id => (ShipmentStaffService.getNdr s id).isSome

instance (s : StaffStore) (t : Target) : Decidable (t.Exists s) := by
  cases t <;> exact inferInstanceAs (Decidable (_ = true))

/-- The order the row is about. -/
def orderOf (s : StaffStore) : Target → Option Order
  | order id => s.db.orders.getOrder id
  | shipment id => (s.db.getShipment id).bind fun row => s.db.orders.getOrder row.orderId
  | ndr id => (ShipmentStaffService.getNdr s id).bind fun row => s.db.orders.getOrder row.orderId

/-- The order was confirmed by a telecaller assigned to the user. -/
def InScope (actor : UUID) (s : StaffStore) (t : Target) : Prop :=
  ∃ o, t.orderOf s = some o ∧
    ∃ u ∈ s.users, u.shipmentStaffId = some actor ∧ o.confirmedByTelecallerId = some u.id

/-- The id is an order's. -/
def IsOrder (t : Target) : Prop := ∃ id, t = order id

theorem inScope_of_orderOf {actor : UUID} {s : StaffStore} {t : Target} (h : ¬ t.InScope actor s) :
    ShipmentStaffService.inScope actor s (t.orderOf s) = none := by
  rw [ShipmentStaffService.inScope, Option.filter_eq_none_iff]
  intro o ho hconfirmed
  obtain ⟨id, hid, hmem⟩ := Option.any_eq_true _ _ |>.mp hconfirmed
  obtain ⟨u, hu, rfl⟩ := List.mem_map.mp (List.contains_iff_mem.mp hmem)
  exact h ⟨o, ho, u, (List.mem_filter.mp hu).1, by simpa using (List.mem_filter.mp hu).2, hid⟩

/-- A user nobody is assigned to sees nothing. -/
theorem not_inScope_of_unassigned {actor : UUID} {s : StaffStore} (t : Target)
    (h : ∀ u ∈ s.users, u.shipmentStaffId ≠ some actor) : ¬ t.InScope actor s := by
  rintro ⟨_, -, u, hu, hassigned, -⟩
  exact h u hu hassigned

end Target

/-! ## Section 5: What an id outside the scope is answered -/

theorem run_get_bind {α : Type} {f : StaffStore → StaffProc α} {s : StaffStore} :
    (get >>= f).run s = (f s).run s := rfl

/-- A call that fails at its first step fails. -/
theorem run_bind_error {α β : Type} {p : StaffProc α} {f : α → StaffProc β} {s s' : StaffStore}
    {e : PyException} (h : p.run s = (.error e, s')) : (p >>= f).run s = (.error e, s') := by
  show (match p.run s with
    | (a, t) => ExceptT.bindCont f a t) = _
  rw [h]
  rfl

theorem run_bind_ok {α β : Type} {p : StaffProc α} {f : α → StaffProc β} {s s' : StaffStore}
    {a : α} (h : p.run s = (.ok a, s')) : (p >>= f).run s = (f a).run s' := by
  show (match p.run s with
    | (a, t) => ExceptT.bindCont f a t) = _
  rw [h]
  rfl

/-- A failure stays one whatever its result would have become. -/
theorem run_map_error {α β : Type} {p : StaffProc α} {f : α → β} {s s' : StaffStore}
    {e : PyException} (h : p.run s = (.error e, s')) : (f <$> p).run s = (.error e, s') :=
  run_bind_error h

/-- A failure that is caught is the handler's. -/
theorem run_tryCatch_error {α : Type} {p : StaffProc α} {handle : PyException → StaffProc α}
    {s s' : StaffStore} {e : PyException} (h : p.run s = (.error e, s')) :
    (tryCatch p handle).run s = (handle e).run s' := by
  rw [ExceptT.run_tryCatch]
  change StateT.bind p.run _ s = _
  rw [StateT.bind, h]
  rfl

namespace ShipmentStaffService

variable {actor : UUID} {s : StaffStore}

theorem getScopedOrder_denied {orderId : UUID} (h : ¬ (Target.order orderId).InScope actor s) :
    (getScopedOrder orderId actor).run s =
      (.error (.oms (.authorization "Order not found or not in your scope.")), s) := by
  have hscope : inScope actor s (s.db.orders.getOrder orderId) = none :=
    Target.inScope_of_orderOf h
  rw [getScopedOrder, run_get_bind, hscope]
  rfl

/-- The lookup comes before the scope here, and has its own error. -/
def shipmentDenial (shipmentId : UUID) (s : StaffStore) : PyException :=
  if (Target.shipment shipmentId).Exists s then
    .oms (.authorization "Shipment not found or not in your scope.")
  else .oms (.notFound "Shipment not found.")

theorem getScopedShipment_denied {shipmentId : UUID}
    (h : ¬ (Target.shipment shipmentId).InScope actor s) :
    (getScopedShipment shipmentId actor).run s = (.error (shipmentDenial shipmentId s), s) := by
  have hscope : inScope actor s ((s.db.getShipment shipmentId).bind
      fun row => s.db.orders.getOrder row.orderId) = none := Target.inScope_of_orderOf h
  rw [getScopedShipment, run_get_bind]
  cases hrow : s.db.getShipment shipmentId with
  | none =>
    rw [shipmentDenial, if_neg (by simp [Target.Exists, hrow])]
    rfl
  | some row =>
    rw [hrow, Option.bind_some] at hscope
    rw [shipmentDenial, if_pos (by simp [Target.Exists, hrow])]
    simp only [hscope]
    rfl

/-- The lookup comes before the scope here as well. -/
def ndrDenial (ndrId : UUID) (s : StaffStore) : PyException :=
  if (Target.ndr ndrId).Exists s then .oms (.authorization "NDR not found or not in your scope.")
  else .oms (.notFound "NDR not found.")

theorem reattemptNdr_denied (services : SharedServices) {ndrId : UUID}
    (h : ¬ (Target.ndr ndrId).InScope actor s) :
    (reattemptNdr services ndrId actor).run s = (.error (ndrDenial ndrId s), s) := by
  have hscope : inScope actor s ((getNdr s ndrId).bind
      fun row => s.db.orders.getOrder row.orderId) = none := Target.inScope_of_orderOf h
  rw [reattemptNdr, run_get_bind]
  cases hrow : getNdr s ndrId with
  | none =>
    rw [ndrDenial, if_neg (by simp [Target.Exists, hrow])]
    rfl
  | some row =>
    rw [hrow, Option.bind_some] at hscope
    rw [ndrDenial, if_pos (by simp [Target.Exists, hrow])]
    simp only [hscope]
    rfl

/-- What a bulk call reports for an order it does not touch. -/
def deniedEntry (orderId : UUID) : BulkEntry where
  orderId := orderId
  status := "failed"
  reason := some "Order not found or not in your scope."

theorem processOne_denied (services : SharedServices) {orderId : UUID}
    (h : ¬ (Target.order orderId).InScope actor s) :
    (processOne services orderId actor).run s =
      (.ok (deniedEntry orderId), s) := by
  have hdenied : (some <$> getScopedOrder orderId actor).run s =
      (.error (.oms (.authorization "Order not found or not in your scope.")), s) :=
    run_map_error (getScopedOrder_denied h)
  rw [processOne, run_bind_ok (run_tryCatch_error hdenied)]
  rfl

/-- A bulk call with such orders alone says so of each of them, whether it exists or not. -/
theorem bulkProcess_denied (services : SharedServices) {orderIds : List UUID}
    (h : ∀ id ∈ orderIds, ¬ (Target.order id).InScope actor s) :
    (bulkProcessExistingShipmentsForMyScope services orderIds actor).run s =
      (.ok (orderIds.map deniedEntry), s) := by
  induction orderIds with
  | nil => rfl
  | cons id rest ih =>
    have hfirst : (processOne services id actor).run s = (.ok (deniedEntry id), s) :=
      processOne_denied services (h id List.mem_cons_self)
    have hrest := ih fun id hid => h id (List.mem_cons_of_mem _ hid)
    rw [bulkProcessExistingShipmentsForMyScope, List.mapM_cons, run_bind_ok hfirst]
    exact run_bind_ok hrest

end ShipmentStaffService

namespace StaffCall

open ShipmentStaffService

variable (services : SharedServices) {actor : UUID}

/-- The answer to an id outside the scope: an order's is the same whatever the tables hold. -/
def denied (s : StaffStore) : StaffCall → Except Nat StaffResult
  | processOne id => .ok (.bulk (deniedEntry id))
  | getScopedOrder _ | createShipment _ => .error 403
  | call => .error (if call.target.Exists s then 403 else 404)

theorem outcome_of_error {p : StaffProc StaffResult} {s s' : StaffStore} {e : PyException}
    (h : p.run s = (.error e, s')) : (p.run s).1.mapError statusCode = .error (statusCode e) := by
  rw [h]
  rfl

theorem statusCode_shipmentDenial (id : UUID) (s : StaffStore) :
    statusCode (shipmentDenial id s) = if (Target.shipment id).Exists s then 403 else 404 := by
  unfold shipmentDenial
  split <;> rfl

theorem statusCode_ndrDenial (id : UUID) (s : StaffStore) :
    statusCode (ndrDenial id s) = if (Target.ndr id).Exists s then 403 else 404 := by
  unfold ndrDenial
  split <;> rfl

/-- The calls on a shipment fail with the lookup that they share. -/
theorem outcome_shipment {α : Type} {id : UUID} {s : StaffStore} {p : Shipment → StaffProc α}
    {f : α → StaffResult} (h : ¬ (Target.shipment id).InScope actor s) :
    ((f <$> (ShipmentStaffService.getScopedShipment id actor >>= p)).run s).1.mapError statusCode =
      .error (if (Target.shipment id).Exists s then 403 else 404) := by
  rw [← statusCode_shipmentDenial]
  exact outcome_of_error (run_map_error (run_bind_error (getScopedShipment_denied h)))

theorem outcome_outOfScope {call : StaffCall} {s : StaffStore}
    (h : ¬ call.target.InScope actor s) : call.outcome services actor s = call.denied s := by
  cases call with
  | getScopedOrder id => exact outcome_of_error (run_map_error (getScopedOrder_denied h))
  | createShipment id =>
    exact outcome_of_error (run_map_error (run_bind_error (getScopedOrder_denied h)))
  | processOne id =>
    have hentry := processOne_denied services h
    rw [outcome, proc, map_eq_pure_bind, run_bind_ok hentry]
    rfl
  | getScopedShipment id =>
    have hrun := getScopedShipment_denied h
    exact (outcome_of_error (run_map_error hrun)).trans
      (congrArg Except.error (statusCode_shipmentDenial id s))
  | getTimeline id => exact outcome_shipment h
  | assignAwb id => exact outcome_shipment h
  | requestPickup id => exact outcome_shipment h
  | refreshTracking id => exact outcome_shipment h
  | retryShopifySync id => exact outcome_shipment h
  | reattemptNdr id =>
    have hrun := reattemptNdr_denied services h
    exact (outcome_of_error (run_map_error hrun)).trans
      (congrArg Except.error (statusCode_ndrDenial id s))

/-- Two answers differ when the row is looked up first and only one state has it. -/
theorem denied_eq_iff (call : StaffCall) (s₁ s₂ : StaffStore) :
    call.denied s₁ = call.denied s₂ ↔
      call.target.IsOrder ∨ (call.target.Exists s₁ ↔ call.target.Exists s₂) := by
  have hcode : ∀ t : Target, (Except.error (if t.Exists s₁ then 403 else 404) =
      (Except.error (if t.Exists s₂ then 403 else 404) : Except Nat StaffResult)) ↔
        (t.Exists s₁ ↔ t.Exists s₂) := by
    intro t
    by_cases h₁ : t.Exists s₁ <;> by_cases h₂ : t.Exists s₂ <;> simp [h₁, h₂]
  cases call with
  | getScopedOrder id => exact ⟨fun _ => .inl ⟨id, rfl⟩, fun _ => rfl⟩
  | createShipment id => exact ⟨fun _ => .inl ⟨id, rfl⟩, fun _ => rfl⟩
  | processOne id => exact ⟨fun _ => .inl ⟨id, rfl⟩, fun _ => rfl⟩
  | _ => exact (hcode _).trans ⟨.inr, fun h => h.resolve_left (by rintro ⟨_, h⟩; cases h)⟩

end StaffCall

/-! ## Section 6: Two states that differ outside the scope -/

section Comparison

variable (services : SharedServices) {actor : UUID} (call : StaffCall)

/-- What the user is told about an id outside the scope is the same in two states exactly
when the id is an order's, or its row is there in both of them or in neither. -/
theorem staff_outcome_same_iff {s₁ s₂ : StaffStore} (h₁ : ¬ call.target.InScope actor s₁)
    (h₂ : ¬ call.target.InScope actor s₂) :
    call.outcome services actor s₁ = call.outcome services actor s₂ ↔
      call.target.IsOrder ∨ (call.target.Exists s₁ ↔ call.target.Exists s₂) := by
  rw [call.outcome_outOfScope services h₁, call.outcome_outOfScope services h₂]
  exact call.denied_eq_iff s₁ s₂

/-- The states show the user the same orders and shipments. -/
def AgreeInScope (actor : UUID) (s₁ s₂ : StaffStore) : Prop :=
  (∀ o, (o ∈ s₁.db.orders.orders.rows ∧ (Target.order o.id).InScope actor s₁) ↔
    (o ∈ s₂.db.orders.orders.rows ∧ (Target.order o.id).InScope actor s₂)) ∧
  ∀ row, (row ∈ s₁.db.shipments.rows ∧ (Target.shipment row.id).InScope actor s₁) ↔
    (row ∈ s₂.db.shipments.rows ∧ (Target.shipment row.id).InScope actor s₂)

/-- The call tells the user nothing about an id outside the scope. -/
def HidesExistence (actor : UUID) : Prop :=
  ∀ s₁ s₂ : StaffStore, AgreeInScope actor s₁ s₂ → ¬ call.target.InScope actor s₁ →
    ¬ call.target.InScope actor s₂ → call.outcome services actor s₁ = call.outcome services actor s₂

theorem agreeInScope_of_unassigned {s₁ s₂ : StaffStore}
    (h₁ : ∀ u ∈ s₁.users, u.shipmentStaffId ≠ some actor)
    (h₂ : ∀ u ∈ s₂.users, u.shipmentStaffId ≠ some actor) : AgreeInScope actor s₁ s₂ :=
  ⟨fun _ => iff_of_false (fun h => Target.not_inScope_of_unassigned _ h₁ h.2)
    fun h => Target.not_inScope_of_unassigned _ h₂ h.2,
   fun _ => iff_of_false (fun h => Target.not_inScope_of_unassigned _ h₁ h.2)
    fun h => Target.not_inScope_of_unassigned _ h₂ h.2⟩

/-- The tables hold the row, and the user nobody. -/
theorem exists_unassigned_holding (t : Target) (ht : ¬ t.IsOrder) :
    ∃ s : StaffStore, s.users = [] ∧ t.Exists s := by
  cases t with
  | order id => exact absurd ⟨id, rfl⟩ ht
  | shipment id =>
    have hkeys : (([{ id := id, orderId := 0 }] : List Shipment).flatMap Shipment.keys).Nodup := by
      simp [Shipment.keys, externalKey]
    exact ⟨{ db := { shipments := Table.ofList _ hkeys } }, rfl,
      by simp [Target.Exists, TrackingDB.getShipment, Table.find?]⟩
  | ndr id =>
    exact ⟨{ ndrs := [{ id := id, shipmentId := 0, orderId := 0 }] }, rfl,
      by simp [Target.Exists, ShipmentStaffService.getNdr]⟩

/-- The calls that keep the promise of the service are the calls by order id. -/
theorem hidesExistence_iff : HidesExistence services call actor ↔ call.target.IsOrder := by
  constructor
  · intro hhides
    by_contra hnot
    obtain ⟨s, husers, hexists⟩ := exists_unassigned_holding call.target hnot
    have hs : ∀ u ∈ s.users, u.shipmentStaffId ≠ some actor := by simp [husers]
    have hempty : ∀ u ∈ ({} : StaffStore).users, u.shipmentStaffId ≠ some actor :=
      fun _ h => absurd h List.not_mem_nil
    have hsame := hhides s {} (agreeInScope_of_unassigned hs hempty)
      (Target.not_inScope_of_unassigned _ hs) (Target.not_inScope_of_unassigned _ hempty)
    rw [call.outcome_outOfScope services (Target.not_inScope_of_unassigned _ hs),
      call.outcome_outOfScope services (Target.not_inScope_of_unassigned _ hempty),
      call.denied_eq_iff] at hsame
    have hmissing : ¬ call.target.Exists {} := by cases call <;> exact Bool.false_ne_true
    exact hmissing ((hsame.resolve_left hnot).mp hexists)
  · intro horder s₁ s₂ _ h₁ h₂
    rw [call.outcome_outOfScope services h₁, call.outcome_outOfScope services h₂]
    exact (call.denied_eq_iff s₁ s₂).mpr (.inl horder)

end Comparison

/-- A shop whose one order was confirmed by a telecaller of the user 8. -/
def strangersOrder : StaffStore where
  db := {
    orders := { orders := Table.ofList [{
      id := 6, orderNumber := "#1006", confirmedByTelecallerId := some 4 }] (by decide) }
    shipments := Table.ofList [{ id := 9, orderId := 6, awb := some "AWB-9" }] (by decide) }
  users := [{ id := 4, name := "Meera", shipmentStaffId := some 8 }]
  ndrs := [{ id := 2, shipmentId := 9, orderId := 6 }]

/-- Shared services that no call here reaches. -/
def noServices : SharedServices where
  createShipmentForOrder := fun _ => throw (.other "")
  processShipmentForOrder := fun _ => throw (.other "")
  getTimeline := fun _ => throw (.other "")
  assignAwb := fun _ => throw (.other "")
  requestPickup := fun _ => throw (.other "")
  refreshTrackingForShipment := fun _ => throw (.other "")
  syncFulfillmentForShipment := fun _ => throw (.other "")
  ndrReattempt := fun _ => throw (.other "")

/-- The user 3 cannot tell the order 6 from one that does not exist. -/
theorem staff_outcome_same_order :
    (StaffCall.createShipment 6).outcome noServices 3 strangersOrder =
      (StaffCall.createShipment 6).outcome noServices 3 {} :=
  (staff_outcome_same_iff noServices (.createShipment 6)
    (Target.not_inScope_of_unassigned _ (by decide))
    (Target.not_inScope_of_unassigned _ (by decide))).mpr (.inl ⟨6, rfl⟩)

/-- They can tell that there is a shipment 9 and an NDR 2. -/
theorem staff_lookup_leaks :
    AgreeInScope 3 strangersOrder {} ∧
    (StaffCall.getScopedShipment 9).outcome noServices 3 strangersOrder = .error 403 ∧
    (StaffCall.getScopedShipment 9).outcome noServices 3 {} = .error 404 ∧
    (StaffCall.reattemptNdr 2).outcome noServices 3 strangersOrder = .error 403 ∧
    (StaffCall.reattemptNdr 2).outcome noServices 3 {} = .error 404 ∧
    ¬ HidesExistence noServices (.getScopedShipment 9) 3 ∧
    ¬ HidesExistence noServices (.reattemptNdr 2) 3 := by
  have hstrange : ∀ u ∈ strangersOrder.users, u.shipmentStaffId ≠ some 3 := by decide
  have hempty : ∀ u ∈ ({} : StaffStore).users, u.shipmentStaffId ≠ some 3 := by decide
  have hagree : AgreeInScope 3 strangersOrder {} := agreeInScope_of_unassigned hstrange hempty
  refine ⟨hagree, rfl, rfl, rfl, rfl, fun h => ?_, fun h => ?_⟩
  · have hsame := h strangersOrder {} hagree (Target.not_inScope_of_unassigned _ hstrange)
      (Target.not_inScope_of_unassigned _ hempty)
    cases hsame
  · have hsame := h strangersOrder {} hagree (Target.not_inScope_of_unassigned _ hstrange)
      (Target.not_inScope_of_unassigned _ hempty)
    cases hsame

end AyushOms.Shipments
