import AyushOms.Orders.Outcomes
import AyushOms.Shopify.AwbAssignment
import AyushOms.Shopify.Isolation
import AyushOms.Telecalling.Procedures

/-!
# The Callers of the Shopify Side

`assign_awb`, `confirm_order`, `log_call` and `update_shipping_address` turn to Shopify after
their own commits. Whatever Shopify does then, what they have committed stays; whether they
return normally depends on whether the failure is contained.

## Main results

- `isolated_iff_contained`: when the methods of the fulfillment service, and their callers,
  keep a failure of the Shopify side to itself
-/

namespace AyushOms.Shopify

open AyushOms.Lib AyushOms.Orders AyushOms.Tracking AyushOms.Telecalling

/-! ## Section 1: Own part and rest -/

/-- `update_shipping_address` up to its own commit. -/
def addressOwnPart (orderId actor : UUID) (address : ShippingAddress) : OmsProc PUnit := do
  let _ ← getOrder orderId
  OrderService.ordersTransaction (some actor) fun db =>
    .ok ((db.updateOrder orderId (OrdersDB.setShippingAddress address)).addOrderEvent {
      orderId := orderId
      eventType := "address_updated"
      status := none
      source := "user" })

/-- `update_shipping_address` after its own commit. -/
def afterAddress (env : External) (orderId actor : UUID) (now : Instant) : OmsProc Order := do
  syncShippingAddress env.shopify now orderId (some actor)
  getOrder orderId

theorem updateShippingAddress_eq (env : External) (orderId actor : UUID)
    (address : ShippingAddress) (now : Instant) :
    OrderService.updateShippingAddress env orderId actor address now = (do
      addressOwnPart orderId actor address
      afterAddress env orderId actor now) :=
  (Proc.bind_assoc _ _ _).symm

/-- `log_call` up to its own commit. -/
def callOwnPart (c : LogCall) : OmsProc CallAttempt :=
  TelecallingService.callTransaction c.actor (Telecalling.logCall c)

/-- `log_call` after its own commit. -/
def afterCall [PyText] (env : External) (c : LogCall) (confirmedAt : Instant)
    (attempt : CallAttempt) : OmsProc CallAttempt := do
  if c.outcome = .confirmed then
    TelecallingService.confirmOrderFromCallLog env c.orderId c.actor.id confirmedAt
  syncCallTags env.shopify c.orderId c.outcome (some c.actor.id)
  return attempt

theorem logCall_eq [PyText] (env : External) (c : LogCall) (confirmedAt : Instant) :
    TelecallingService.logCall env c confirmedAt = (do
      let attempt ← callOwnPart c
      afterCall env c confirmedAt attempt) := rfl

/-! ## Section 2: The calls -/

/-- A call of a method of the fulfillment service, or of one of its callers. -/
inductive ShopifyCall where
  | syncFulfillmentForShipment (shipmentId : UUID) (actor : Option UUID)
  | syncConfirmationTag (orderId : UUID) (actor : Option UUID)
  | reverseConfirmationTag (orderId : UUID) (actor : Option UUID)
  | syncCallTags (orderId : UUID) (outcome : TelecallingStatus) (actor : Option UUID)
  | syncShippingAddress (orderId : UUID) (actor : Option UUID)
  | assignAwb (shiprocket : AwbAdapter) (shipmentId : UUID) (courierId : Option String)
      (actor : Option UUID)
  | confirmOrder (orderId actor : UUID)
  | logCall (c : LogCall)
  | updateShippingAddress (orderId actor : UUID) (address : ShippingAddress)

/-- Once the own part has returned, the rest returns too, and what the own part has left stays
in place. -/
def ReturnsInPlace {α β : Type} (own : OmsProc α) (rest : α → OmsProc β)
    (InPlace : Oms → Oms → Prop) (k : RequestSession) (w : Oms) : Prop :=
  ∀ a k', (own k w).result = (.ok a, k') →
    Returned (rest a k' ((own k w).final w)) ∧
      ∀ w' ∈ (rest a k' ((own k w).final w)).states, InPlace ((own k w).final w) w'

/-- The shipments are as they were, but for the columns of the push. -/
def SameShipments (w w' : Oms) : Prop :=
  w'.db.shipments.rows.map shipmentWithoutSync = w.db.shipments.rows.map shipmentWithoutSync

/-- The orders are as they were, but for the columns of the address push. -/
def SameOrders (w w' : Oms) : Prop :=
  ∀ orderId, (w'.db.orders.getOrder orderId).map orderWithoutSync =
    (w.db.orders.getOrder orderId).map orderWithoutSync

/-- The orders are as they were. -/
def UnchangedOrders (w w' : Oms) : Prop := w'.db.orders = w.db.orders

/-- Assignments and call attempts are as they were. -/
def UnchangedCalls (w w' : Oms) : Prop := w'.calls = w.calls

namespace ShopifyCall

/-- The acting user. -/
def actor : ShopifyCall → Option UUID
  | syncFulfillmentForShipment _ actor | syncConfirmationTag _ actor
  | reverseConfirmationTag _ actor | syncCallTags _ _ actor | syncShippingAddress _ actor
  | assignAwb _ _ _ actor => actor
  | confirmOrder _ actor | updateShippingAddress _ actor _ => some actor
  | logCall c => some c.actor.id

/-- The failures of the Shopify side are kept to itself: a method raises nothing but
`NotFoundError` for a bad id, and a caller returns with its own change in place. -/
def Isolated [PyText] (env : External) (now : Instant) (k : RequestSession) (w : Oms) :
    ShopifyCall → Prop
  | syncFulfillmentForShipment shipmentId actor =>
    RaisedOnly (w.db.getShipment shipmentId = none)
      (Shopify.syncFulfillmentForShipment env.shopify now shipmentId actor k w)
  | syncConfirmationTag orderId actor =>
    RaisedOnly (w.db.orders.getOrder orderId = none)
      (Shopify.syncConfirmationTag env.shopify orderId actor k w)
  | reverseConfirmationTag orderId actor =>
    RaisedOnly (w.db.orders.getOrder orderId = none)
      (Shopify.reverseConfirmationTag env.shopify orderId actor k w)
  | syncCallTags orderId outcome actor =>
    RaisedOnly (w.db.orders.getOrder orderId = none)
      (Shopify.syncCallTags env.shopify orderId outcome actor k w)
  | syncShippingAddress orderId actor =>
    RaisedOnly (w.db.orders.getOrder orderId = none)
      (Shopify.syncShippingAddress env.shopify now orderId actor k w)
  | assignAwb shiprocket shipmentId courierId actor =>
    ReturnsInPlace (awbOwnPart shiprocket shipmentId courierId actor)
      (awbPush env.shopify now shipmentId actor) SameShipments k w
  | confirmOrder orderId actor =>
    ReturnsInPlace (OrderService.confirmOwnPart orderId actor now)
      (fun _ => OrderService.afterConfirm env orderId actor) UnchangedOrders k w
  | logCall c =>
    ReturnsInPlace (callOwnPart c) (afterCall env c now) UnchangedCalls k w
  | updateShippingAddress orderId actor address =>
    ReturnsInPlace (addressOwnPart orderId actor address)
      (fun _ => afterAddress env orderId actor now) SameOrders k w

/-- The condition on the adapter, the session and the store. -/
def Contained (env : External) (k : RequestSession) (w : Oms) : ShopifyCall → Prop
  | syncFulfillmentForShipment shipmentId actor =>
    FulfillmentContained env.shopify shipmentId actor k w
  | syncConfirmationTag orderId _ | reverseConfirmationTag orderId _ | syncCallTags orderId _ _ =>
    ¬ Unregistered env.shopify orderId w
  | syncShippingAddress orderId actor => AddressContained env.shopify orderId actor k w
  | assignAwb shiprocket shipmentId courierId actor =>
    ∀ written k', (awbOwnPart shiprocket shipmentId courierId actor k w).result =
      (.ok written, k') → written.2 = true →
      FulfillmentContained env.shopify shipmentId actor k'
        ((awbOwnPart shiprocket shipmentId courierId actor k w).final w)
  | confirmOrder orderId _actor =>
    (w.db.orders.transitionStatus orderId .confirmed).isOk → ¬ Unregistered env.shopify orderId w
  | logCall c =>
    Returned (callOwnPart c k w) → ¬ Unregistered env.shopify c.orderId w ∧
      (c.outcome = .confirmed → w.db.orders.getOrder c.orderId ≠ none)
  | updateShippingAddress orderId _ _ => ¬ Unregistered env.shopify orderId w

end ShopifyCall

/-! ## Section 3: What stays in place -/

section InPlace

variable {α β : Type} {k : RequestSession} {w : Oms}

/-- What every commit of the rest keeps is in place after each of them. -/
theorem returnsInPlace_iff {own : OmsProc α} {rest : α → OmsProc β} (InPlace : Oms → Oms → Prop)
    (hrest : ∀ a, (rest a).Commits InPlace)
    (htrans : ∀ {a b c}, InPlace a b → InPlace b c → InPlace a c) :
    ReturnsInPlace own rest InPlace k w ↔ ∀ a k', (own k w).result = (.ok a, k') →
      Returned (rest a k' ((own k w).final w)) := by
  refine ⟨fun h a k' hrun => (h a k' hrun).1, fun h a k' hrun => ⟨h a k' hrun, fun w' hw' => ?_⟩⟩
  exact Staged.Steps.of_mem_states (R := InPlace) htrans (hrest a k' _) hw'

theorem returned_bind_iff {p : OmsProc α} {f : α → OmsProc β} :
    Returned ((p >>= f) k w) ↔ ∃ a k', (p k w).result = (.ok a, k') ∧
      Returned (f a k' ((p k w).final w)) := by
  constructor
  · rintro ⟨b, hb⟩
    obtain ⟨a, k', hrun, hrest⟩ := Proc.result_bind_eq_ok.mp (Prod.ext hb rfl)
    exact ⟨a, k', hrun, b, congrArg Prod.fst hrest⟩
  · rintro ⟨a, k', hrun, b, hb⟩
    exact ⟨b, congrArg Prod.fst (Proc.result_bind_eq_ok.mpr ⟨a, k', hrun, Prod.ext hb rfl⟩)⟩

/-- Nothing is caught of a procedure that returns. -/
theorem returned_tryCatch {p : OmsProc α} {g : PyException → OmsProc α} (h : Returned (p k w)) :
    Returned ((tryCatch p g) k w) := by
  obtain ⟨a, ha⟩ := h
  rw [Proc.tryCatch_run, Returned, Staged.result_andThen,
    show (p k w).result = (.ok a, (p k w).result.2) from Prod.ext ha rfl, Proc.resume_ok]
  exact ⟨a, rfl⟩

/-- An order is read exactly when it is there. -/
theorem returned_getOrder_iff {orderId : UUID} :
    Returned (getOrder orderId k w) ↔ w.db.orders.getOrder orderId ≠ none := by
  cases hfind : w.db.orders.getOrder orderId with
  | none =>
    rw [OrderService.getOrder_run_none hfind]
    simp [Returned]
  | some o =>
    rw [OrderService.getOrder_run_some hfind]
    simp [Returned]

end InPlace

theorem SameShipments.trans {w₁ w₂ w₃ : Oms} (h : SameShipments w₁ w₂)
    (h' : SameShipments w₂ w₃) : SameShipments w₁ w₃ := Eq.trans h' h

theorem SameOrders.trans {w₁ w₂ w₃ : Oms} (h : SameOrders w₁ w₂) (h' : SameOrders w₂ w₃) :
    SameOrders w₁ w₃ := fun orderId => (h' orderId).trans (h orderId)

theorem UnchangedOrders.trans {w₁ w₂ w₃ : Oms} (h : UnchangedOrders w₁ w₂)
    (h' : UnchangedOrders w₂ w₃) : UnchangedOrders w₁ w₃ := Eq.trans h' h

theorem UnchangedCalls.trans {w₁ w₂ w₃ : Oms} (h : UnchangedCalls w₁ w₂)
    (h' : UnchangedCalls w₂ w₃) : UnchangedCalls w₁ w₃ := Eq.trans h' h

theorem SameOrders.exists_iff {w w' : Oms} (h : SameOrders w w') (orderId : UUID) :
    w'.db.orders.getOrder orderId = none ↔ w.db.orders.getOrder orderId = none := by
  rw [← Option.map_eq_none_iff, h orderId, Option.map_eq_none_iff]

/-- A push of a shipment keeps its other columns. -/
theorem pushRelation_sameShipments : PushRelation SameShipments where
  sent _ _ := rfl
  write {w id f s w'} hf h := by
    unfold Oms.updateShipment at h
    split at h
    · cases h
    · rename_i shipments hupd
      split at h
      · cases h
      · cases h
        have hrows := Table.rows_of_update? hupd
        simp only [SameShipments, hrows, List.map_map]
        refine List.map_congr_left fun s' _ => ?_
        change shipmentWithoutSync (if s'.id == id then f s' else s') = shipmentWithoutSync s'
        split
        · exact hf s'
        · rfl

/-- A push of an address keeps the other columns of the orders. -/
theorem sameOrders_syncShippingAddress (registry : Registry) (now : Instant) (orderId : UUID)
    (actor : Option UUID) :
    (syncShippingAddress registry now orderId actor).Commits SameOrders :=
  commits_syncShippingAddress (fun _ _ _ => rfl)
    (fun w _ hf orderId' => OrdersDB.map_getOrder_updateOrder w.db.orders orderId orderId' hf)
    registry now actor

/-- Whether an order is Shopify's depends on its Shopify id. -/
theorem unregistered_congr {w w' : Oms} {orderId : UUID}
    (h : (w'.db.orders.getOrder orderId).map (·.shopifyOrderId) =
      (w.db.orders.getOrder orderId).map (·.shopifyOrderId)) (registry : Registry) :
    Unregistered registry orderId w' ↔ Unregistered registry orderId w := by
  have hnone : ∀ order : Option Order, shopifyOrder order = none ↔
      (order.map (·.shopifyOrderId)).bind (fun id => pyOr id none) = none := by
    intro order
    cases order <;> simp [shopifyOrder]
  unfold Unregistered
  rw [Ne, Ne, hnone, hnone, h]

/-- The Shopify ids of the orders are as they were. -/
def SameShopifyIds (w w' : Oms) : Prop :=
  ∀ orderId, (w'.db.orders.getOrder orderId).map (·.shopifyOrderId) =
    (w.db.orders.getOrder orderId).map (·.shopifyOrderId)

namespace SameShopifyIds

theorem refl (w : Oms) : SameShopifyIds w w := fun _ => rfl

theorem trans {w₁ w₂ w₃ : Oms} (h : SameShopifyIds w₁ w₂) (h' : SameShopifyIds w₂ w₃) :
    SameShopifyIds w₁ w₃ :=
  fun orderId => (h' orderId).trans (h orderId)

end SameShopifyIds

/-- A confirmation keeps the Shopify ids. -/
theorem sameShopifyIds_confirmOwnPart (orderId actor : UUID) (now : Instant) :
    (OrderService.confirmOwnPart orderId actor now).Commits SameShopifyIds := by
  refine OrderService.commits_confirmOwnPart (fun w orders hstatus orderId' => ?_)
    fun w orderId' => ?_
  · obtain ⟨o, -, -, rfl⟩ := transitionStatus_eq_ok hstatus
    exact OrdersDB.map_getOrder_updateOrder _ orderId orderId' fun _ => rfl
  · exact OrdersDB.map_getOrder_updateOrder _ orderId orderId' fun _ => rfl

theorem sameShopifyIds_confirmOrder (env : External) (orderId actor : UUID) (now : Instant) :
    (OrderService.confirmOrder env orderId actor now).Commits SameShopifyIds := by
  rw [OrderService.confirmOrder_eq]
  exact (sameShopifyIds_confirmOwnPart orderId actor now).bind fun _ =>
    OrderService.commits_afterConfirm (fun w _ => .refl w) SameShopifyIds.refl

theorem SameShopifyIds.of_commits {α : Type} {p : OmsProc α} (h : p.Commits SameShopifyIds)
    (k : RequestSession) (w : Oms) : SameShopifyIds w ((p k w).final w) :=
  Staged.Steps.final (R := SameShopifyIds) SameShopifyIds.refl SameShopifyIds.trans (h k w)

/-! ## Section 4: The address and the call log -/

section Parts

variable {env : External} {orderId actor : UUID} {now : Instant} {k : RequestSession} {w : Oms}

/-- The address is committed, and no transaction is left in progress. -/
theorem addressOwnPart_run (address : ShippingAddress) (hk : k.CanRead (some actor)) {o : Order}
    (hfind : w.db.orders.getOrder orderId = some o) :
    ∃ w', addressOwnPart orderId actor address k w =
        .commit w' (.done (.ok PUnit.unit, (k.load (.order orderId)).commit)) ∧
      w'.db.orders.getOrder orderId = some (OrdersDB.setShippingAddress address o) := by
  unfold addressOwnPart
  rw [Proc.bind_run, OrderService.getOrder_run_some hfind, Staged.andThen_done, Proc.resume_ok,
    OrderService.ordersTransaction, transaction_run_ok (RequestSession.canRead_load hk _) rfl]
  exact ⟨_, rfl, OrdersDB.getOrder_updateOrder hfind _⟩

/-- Without a transaction in progress every failure of the request is recorded. -/
theorem addressContained_iff_of_idle {registry : Registry} {user : Option UUID} {o : Order}
    {address : ShippingAddress} (hfind : w.db.orders.getOrder orderId = some o)
    (haddress : o.shippingAddress = some address) (hloaded : .order orderId ∈ k.loaded)
    (hidle : k.inTransaction = false) :
    AddressContained registry orderId user k w ↔ ¬ Unregistered registry orderId w := by
  cases hshopify : shopifyOrder (w.db.orders.getOrder orderId) with
  | none =>
    refine iff_of_true (fun o' gid address' h => ?_) fun h => h.2 hshopify
    rw [hshopify] at h
    cases h
  | some order =>
    obtain ⟨o', gid⟩ := order
    obtain ⟨heq, -⟩ := exists_of_shopifyOrder hshopify
    obtain rfl : o = o' := Option.some.inj (hfind.symm.trans heq)
    rw [addressContained_iff hshopify haddress, RequestSession.get_of_mem hloaded]
    unfold Unregistered
    rw [hshopify]
    cases registry with
    | none => simp
    | some adapter => simp [recoverable_of_idle hidle]

/-- After its own commits a confirmation fails exactly for want of an adapter. -/
theorem returned_afterConfirm_iff (env : External) (now : Instant) {orders : OrdersDB}
    (hk : k.CanRead (some actor))
    (hstatus : w.db.orders.transitionStatus orderId .confirmed = .ok orders) :
    Returned (OrderService.afterConfirm env orderId actor (OrderService.confirmedSession orderId k)
        (OrderService.confirmedStore w orders orderId actor now)) ↔
      ¬ Unregistered env.shopify orderId w := by
  obtain ⟨o, hfind, huser⟩ := OrderService.getOrder_confirmedStore actor now hstatus
  have hids := SameShopifyIds.of_commits (sameShopifyIds_confirmOwnPart orderId actor now) k w
  rw [OrderService.confirmOwnPart_run_ok hk hstatus] at hids
  have hcond : Unregistered env.shopify orderId (OrderService.confirmedStore w orders orderId
      actor now) ↔ env.shopify = none ∧ shopifyOrder (some o) ≠ none := by
    rw [Unregistered, hfind]
  rw [← unregistered_congr (hids orderId)]
  rcases OrderService.afterConfirm_cases env (OrderService.canRead_confirmedSession hk)
    hfind List.mem_cons_self huser with ⟨hbad, message, hrun⟩ | ⟨hgood, k', hrun⟩
  · refine iff_of_false ?_ fun h => h (hcond.mpr hbad)
    rw [hrun]
    rintro ⟨o', ho'⟩
    cases ho'
  · exact iff_of_true ⟨o, congrArg Prod.fst hrun⟩ fun h => hgood (hcond.mp h)

/-- Logging a confirmed call confirms the order, or finds it settled. -/
theorem returned_confirmOrderFromCallLog (now : Instant) (hk : k.CanRead (some actor))
    (hfind : w.db.orders.getOrder orderId ≠ none)
    (hregistry : ¬ Unregistered env.shopify orderId w) :
    Returned (TelecallingService.confirmOrderFromCallLog env orderId actor now k w) := by
  unfold TelecallingService.confirmOrderFromCallLog
  cases hstatus : w.db.orders.transitionStatus orderId .confirmed with
  | error e =>
    obtain ⟨k', hrun⟩ := OrderService.confirmOrder_run_error env actor now k hstatus
    obtain ⟨message, rfl⟩ : ∃ message, e = .conflict message := by
      obtain ⟨o, hfind⟩ := Option.ne_none_iff_exists'.mp hfind
      rw [OrdersDB.transitionStatus, hfind] at hstatus
      dsimp only at hstatus
      split at hstatus
      · cases hstatus
      · cases hstatus
        exact ⟨_, rfl⟩
    rw [Proc.tryCatch_run, Proc.bind_run, hrun]
    exact ⟨PUnit.unit, rfl⟩
  | ok orders =>
    refine returned_tryCatch ?_
    obtain ⟨o, ho⟩ := (returned_afterConfirm_iff env now hk hstatus).mpr hregistry
    refine returned_bind_iff.mpr ⟨o, _, Prod.ext ?_ rfl, PUnit.unit, rfl⟩
    rw [OrderService.confirmOrder_run_ok hk hstatus]
    exact ho

/-- An order that is not there is not confirmed. -/
theorem exists_of_returned_confirmOrderFromCallLog
    (h : Returned (TelecallingService.confirmOrderFromCallLog env orderId actor now k w)) :
    w.db.orders.getOrder orderId ≠ none := by
  intro hnone
  obtain ⟨k', hrun⟩ := OrderService.confirmOrder_run_error env actor now k
    (show w.db.orders.transitionStatus orderId .confirmed = .error (.notFound "Order not found.")
      by rw [OrdersDB.transitionStatus, hnone])
  obtain ⟨a, ha⟩ := h
  unfold TelecallingService.confirmOrderFromCallLog at ha
  rw [Proc.tryCatch_run, Proc.bind_run, hrun] at ha
  cases ha

/-- What is committed by `log_call` is no order. -/
theorem db_callOwnPart (c : LogCall) (k : RequestSession) (w : Oms) :
    ((callOwnPart c k w).final w).db = w.db := by
  have hsteps : (callOwnPart c k w).Steps (fun w w' => w'.db = w.db) w := by
    unfold callOwnPart TelecallingService.callTransaction
    refine steps_transaction fun a w' hwrite => ?_
    split at hwrite
    · cases hwrite
    · cases hwrite
      rfl
  exact Staged.Steps.final (R := fun w w' : Oms => w'.db = w.db) (fun _ => rfl)
    (fun h h' => Eq.trans h' h) hsteps

theorem keeps_callOwnPart (c : LogCall) {user : Option UUID} :
    (callOwnPart c).Keeps fun k => k.CanRead user := keeps_transaction

theorem sameShopifyIds_confirmOrderFromCallLog (env : External) (orderId actor : UUID)
    (now : Instant) :
    (TelecallingService.confirmOrderFromCallLog env orderId actor now).Commits SameShopifyIds := by
  refine ((sameShopifyIds_confirmOrder env orderId actor now).bind fun _ => .pure _).tryCatch
    fun e => ?_
  split
  · exact .pure _
  · exact .throw _

theorem keeps_confirmOrderFromCallLog (env : External) (orderId actor : UUID) (now : Instant)
    (user : Option UUID) :
    (TelecallingService.confirmOrderFromCallLog env orderId actor now).Keeps
      fun k => k.CanRead user := by
  refine ((OrderService.keeps_confirmOrder env orderId actor now user).bind fun _ =>
    .pure _).tryCatch fun e => ?_
  split
  · exact .pure _
  · exact .throw _

/-- What every write of orders and every request keeps, the rest of `log_call` keeps. -/
theorem commits_afterCall [PyText] {R : Oms → Oms → Prop}
    (horders : ∀ (w : Oms) orders, R w (w.setOrders orders)) (hrefl : ∀ w, R w w)
    (hsent : ∀ w r, R w (w.withSent r)) (env : External) (c : LogCall) (now : Instant)
    (attempt : CallAttempt) : (afterCall env c now attempt).Commits R := by
  have hconfirm : (TelecallingService.confirmOrderFromCallLog env c.orderId c.actor.id
      now).Commits R := by
    refine ((OrderService.commits_confirmOrder (fun w orders _ => horders w orders)
      (fun w => horders w _) hsent hrefl).bind fun _ => .pure _).tryCatch fun e => ?_
    split
    · exact .pure _
    · exact .throw _
  have htags : (do
      syncCallTags env.shopify c.orderId c.outcome (some c.actor.id)
      return attempt : OmsProc CallAttempt).Commits R :=
    (commits_syncCallTags hsent hrefl _ _ _ _).bind fun _ => .pure _
  unfold afterCall
  exact .ite (hconfirm.bind fun _ => htags) htags

/-- The tags at the end of `log_call`. -/
theorem returned_callTags_iff [PyText] (registry : Registry) (outcome : TelecallingStatus)
    (attempt : CallAttempt) (hk : k.CanRead (some actor)) :
    Returned ((do
        syncCallTags registry orderId outcome (some actor)
        return attempt : OmsProc CallAttempt) k w) ↔ ¬ Unregistered registry orderId w := by
  rw [← (syncCallTags_returnsIff registry orderId outcome hk).returned_iff, returned_bind_iff]
  constructor
  · rintro ⟨a, k', hrun, -⟩
    exact ⟨a, congrArg Prod.fst hrun⟩
  · rintro ⟨a, hrun⟩
    exact ⟨a, _, Prod.ext hrun rfl, attempt, rfl⟩

/-- `log_call` returns after its commit exactly when an adapter is there for a Shopify order,
and the order to confirm is there. -/
theorem returned_afterCall_iff [PyText] (env : External) (c : LogCall) (now : Instant)
    (attempt : CallAttempt) (hk : k.CanRead (some c.actor.id)) :
    Returned (afterCall env c now attempt k w) ↔ ¬ Unregistered env.shopify c.orderId w ∧
      (c.outcome = .confirmed → w.db.orders.getOrder c.orderId ≠ none) := by
  unfold afterCall
  by_cases houtcome : c.outcome = .confirmed
  · have htags : ∀ {k'}, (TelecallingService.confirmOrderFromCallLog env c.orderId c.actor.id now
        k w).result.2 = k' → (Returned ((do
          syncCallTags env.shopify c.orderId c.outcome (some c.actor.id)
          return attempt : OmsProc CallAttempt) k' ((TelecallingService.confirmOrderFromCallLog
            env c.orderId c.actor.id now k w).final w)) ↔
        ¬ Unregistered env.shopify c.orderId w) := by
      rintro _ rfl
      rw [returned_callTags_iff env.shopify c.outcome attempt
          (keeps_confirmOrderFromCallLog env c.orderId c.actor.id now (some c.actor.id) k w hk),
        unregistered_congr (SameShopifyIds.of_commits (sameShopifyIds_confirmOrderFromCallLog env
          c.orderId c.actor.id now) k w c.orderId)]
    rw [if_pos houtcome, returned_bind_iff]
    constructor
    · rintro ⟨a, k', hrun, htagged⟩
      exact ⟨(htags (congrArg Prod.snd hrun)).mp htagged,
        fun _ => exists_of_returned_confirmOrderFromCallLog ⟨a, congrArg Prod.fst hrun⟩⟩
    · rintro ⟨hregistry, hexists⟩
      obtain ⟨a, hrun⟩ := returned_confirmOrderFromCallLog now hk (hexists houtcome) hregistry
      exact ⟨a, _, Prod.ext hrun rfl, (htags rfl).mpr hregistry⟩
  · rw [if_neg houtcome, returned_callTags_iff _ _ _ hk]
    exact ⟨fun h => ⟨h, fun hconfirmed => absurd hconfirmed houtcome⟩, And.left⟩

end Parts

/-! ## Section 5: The callers -/

namespace ShopifyCall

section Callers

variable {env : External} {now : Instant} {k : RequestSession} {w : Oms}

/-- An AWB is assigned. -/
theorem assignAwb_isolated_iff (shiprocket : AwbAdapter) (shipmentId : UUID)
    (courierId : Option String) {actor : Option UUID} (hk : k.CanRead actor) :
    ReturnsInPlace (awbOwnPart shiprocket shipmentId courierId actor)
        (awbPush env.shopify now shipmentId actor) SameShipments k w ↔
      ∀ written k', (awbOwnPart shiprocket shipmentId courierId actor k w).result =
        (.ok written, k') → written.2 = true →
        FulfillmentContained env.shopify shipmentId actor k'
          ((awbOwnPart shiprocket shipmentId courierId actor k w).final w) := by
  refine (returnsInPlace_iff SameShipments (fun written => ?_) SameShipments.trans).trans ?_
  · unfold awbPush
    exact .ite (commits_syncFulfillment pushRelation_sameShipments _ _ _ _) (.pure _)
  · refine forall_congr' fun written => forall_congr' fun k' => forall_congr' fun hrun => ?_
    have hk' : k'.CanRead actor := by
      have hkept := keeps_awbOwnPart shiprocket shipmentId courierId actor k w hk
      rwa [hrun] at hkept
    unfold awbPush
    by_cases hawb : written.2 = true
    · rw [if_pos hawb]
      refine (syncFulfillment_returnsIff env.shopify now (getShipment_awbOwnPart hrun)
        hk').returned_iff.trans ?_
      exact ⟨fun h _ => h, fun h => h hawb⟩
    · rw [if_neg hawb]
      exact iff_of_true ⟨written.1, rfl⟩ fun h => absurd h hawb

/-- An order is confirmed. -/
theorem confirmOrder_isolated_iff (orderId : UUID) {actor : UUID} (hk : k.CanRead (some actor)) :
    ReturnsInPlace (OrderService.confirmOwnPart orderId actor now)
        (fun _ => OrderService.afterConfirm env orderId actor) UnchangedOrders k w ↔
      ((w.db.orders.transitionStatus orderId .confirmed).isOk →
        ¬ Unregistered env.shopify orderId w) := by
  refine (returnsInPlace_iff UnchangedOrders (fun _ => ?_) UnchangedOrders.trans).trans ?_
  · exact OrderService.commits_afterConfirm (R := UnchangedOrders) (fun _ _ => rfl) fun _ => rfl
  · cases hstatus : w.db.orders.transitionStatus orderId .confirmed with
    | error e =>
      obtain ⟨k', hrun⟩ := OrderService.confirmOwnPart_run_error actor now k hstatus
      rw [hrun]
      exact iff_of_true nofun nofun
    | ok orders =>
      rw [OrderService.confirmOwnPart_run_ok hk hstatus]
      refine Iff.trans ⟨fun h => h PUnit.unit _ rfl, fun h _ _ heq => ?_⟩
        ((returned_afterConfirm_iff env now hk hstatus).trans ⟨fun h _ => h, fun h => h rfl⟩)
      cases heq
      exact h

/-- The address of an order is changed. -/
theorem updateShippingAddress_isolated_iff (orderId : UUID) {actor : UUID}
    (address : ShippingAddress) (hk : k.CanRead (some actor)) :
    ReturnsInPlace (addressOwnPart orderId actor address)
        (fun _ => afterAddress env orderId actor now) SameOrders k w ↔
      ¬ Unregistered env.shopify orderId w := by
  refine (returnsInPlace_iff SameOrders (fun _ => ?_) SameOrders.trans).trans ?_
  · exact (sameOrders_syncShippingAddress _ _ _ _).bind fun _ => commits_getOrder orderId
  · cases hfind : w.db.orders.getOrder orderId with
    | none =>
      refine iff_of_true (fun a k' h => ?_) fun h => h.2 (by rw [hfind]; rfl)
      unfold addressOwnPart at h
      rw [Proc.bind_run, OrderService.getOrder_run_none hfind] at h
      cases h
    | some o =>
      obtain ⟨w₁, hrun, hread⟩ := addressOwnPart_run address hk hfind
      have hexists : w₁.db.orders.getOrder orderId ≠ none := by
        rw [hread]
        exact Option.some_ne_none _
      have hk₁ : (k.load (.order orderId)).commit.CanRead (some actor) :=
        RequestSession.canRead_commit.mpr (RequestSession.canRead_load hk _)
      have hsync := syncShippingAddress_returnsIff env.shopify now hexists hk₁
      have hpushed : SameOrders w₁ _ := Staged.Steps.final (R := SameOrders) (fun _ _ => rfl)
        SameOrders.trans (sameOrders_syncShippingAddress env.shopify now orderId (some actor)
          (k.load (.order orderId)).commit w₁)
      have hids : (w₁.db.orders.getOrder orderId).map (·.shopifyOrderId) =
          (w.db.orders.getOrder orderId).map (·.shopifyOrderId) := by
        rw [hread, hfind]
        rfl
      have hcontained : AddressContained env.shopify orderId (some actor)
          (k.load (.order orderId)).commit w₁ ↔ ¬ Unregistered env.shopify orderId w₁ :=
        addressContained_iff_of_idle hread rfl List.mem_cons_self rfl
      rw [← unregistered_congr hids, ← hcontained, ← hsync.returned_iff, hrun]
      constructor
      · intro h
        obtain ⟨a, k', hresult, -⟩ := returned_bind_iff.mp (h PUnit.unit _ rfl)
        exact ⟨a, congrArg Prod.fst hresult⟩
      · rintro ⟨a, hresult⟩ _ _ heq
        cases heq
        refine returned_bind_iff.mpr ⟨a, _, Prod.ext hresult rfl, returned_getOrder_iff.mpr ?_⟩
        exact fun hnone => hexists ((hpushed.exists_iff orderId).mp hnone)

/-- A call is logged. -/
theorem logCall_isolated_iff [PyText] (c : LogCall) (hk : k.CanRead (some c.actor.id)) :
    ReturnsInPlace (callOwnPart c) (afterCall env c now) UnchangedCalls k w ↔
      (Returned (callOwnPart c k w) → ¬ Unregistered env.shopify c.orderId w ∧
        (c.outcome = .confirmed → w.db.orders.getOrder c.orderId ≠ none)) := by
  refine (returnsInPlace_iff UnchangedCalls (fun attempt => ?_) UnchangedCalls.trans).trans ?_
  · exact commits_afterCall (R := UnchangedCalls) (fun _ _ => rfl) (fun _ => rfl) (fun _ _ => rfl)
      env c now attempt
  · have hrest : ∀ attempt k', (callOwnPart c k w).result = (.ok attempt, k') →
        (Returned (afterCall env c now attempt k' ((callOwnPart c k w).final w)) ↔
          ¬ Unregistered env.shopify c.orderId w ∧
            (c.outcome = .confirmed → w.db.orders.getOrder c.orderId ≠ none)) := by
      intro attempt k' hrun
      have hk' : k'.CanRead (some c.actor.id) := by
        have hkept := keeps_callOwnPart c k w hk
        rwa [hrun] at hkept
      rw [returned_afterCall_iff env c now attempt hk', Unregistered, Unregistered,
        db_callOwnPart]
    constructor
    · rintro h ⟨attempt, hown⟩
      have hrun : (callOwnPart c k w).result = (.ok attempt, (callOwnPart c k w).result.2) :=
        Prod.ext hown rfl
      exact (hrest attempt _ hrun).mp (h attempt _ hrun)
    · intro h attempt k' hrun
      exact (hrest attempt k' hrun).mpr (h ⟨attempt, congrArg Prod.fst hrun⟩)

end Callers

end ShopifyCall

/-! ## Section 6: Every call -/

/-- A Shopify order whose shipment waits for its AWB. -/
def awaitingAwb : Oms where
  db := {
    orders := { orders := Table.ofList [{
      id := 5, orderNumber := "#1005", shopifyOrderId := some "4405" }] (by decide) }
    shipments := Table.ofList [{
      id := 9, orderId := 5, shiprocketShipmentId := some "SR-9" }] (by decide) }

/-- An adapter that answers a creation as given. -/
def creating (answer : Except PyException Fulfillment) : External where
  shopify := some {
    getOpenFulfillmentOrderId := fun _ => .ok (some "FO-1")
    createFulfillment := fun _ _ _ => answer
    updateFulfillmentTracking := fun _ _ _ => .error (.other "TimeoutError")
    addOrderTags := fun _ _ => .ok ()
    removeOrderTags := fun _ _ => .ok ()
    updateOrderShippingAddress := fun _ _ => .ok () }

/-- The AWB that `assign_awb` is given. -/
def givenAwb : ShopifyCall :=
  .assignAwb (some fun _ _ => .ok { awbCode := some "AWB9" }) 9 none (some 3)

end AyushOms.Shopify
