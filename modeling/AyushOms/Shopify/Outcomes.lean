import AyushOms.Shopify.FulfillmentService

/-!
# The Paths of a Fulfillment Push

`sync_fulfillment_for_shipment` step by step: which of its guards ends it, and what it sends
and commits for every answer of the adapter when none does.

## Main results

- `syncFulfillment_cases`: the guards
- `attemptPush_openFailed` and its companions: one equation for each answer
-/

namespace AyushOms.Shopify

open AyushOms.Lib AyushOms.Orders AyushOms.Tracking AyushOms.Telecalling

/-! ## Section 1: Writing a shipment -/

/-- The keys determine the id. -/
theorem shipment_id_eq_of_keys_eq {s s' : Shipment} (h : s.keys = s'.keys) : s.id = s'.id := by
  simp only [Shipment.keys, List.cons_append, List.cons.injEq, ShipmentKey.id.injEq] at h
  exact h.1

/-- The row of one shipment is written by `f`; orders and requests are untouched. -/
structure ShipmentWrite (shipmentId : UUID) (f : Shipment → Shipment) (w w' : Oms) : Prop where
  row : w'.db.getShipment shipmentId = (w.db.getShipment shipmentId).map f
  orders_eq : w'.db.orders = w.db.orders
  sent_eq : w'.sent = w.sent

namespace Oms

theorem updateShipment_eq_ok {w w' : Oms} {shipmentId : UUID} {f : Shipment → Shipment}
    {s : Shipment} (h : w.updateShipment shipmentId f = .ok (s, w')) :
    ShipmentWrite shipmentId f w w' ∧ w'.db.getShipment shipmentId = some s := by
  unfold updateShipment at h
  split at h
  · cases h
  · rename_i shipments hupd
    split at h
    · cases h
    · rename_i s' hfind
      cases h
      refine ⟨⟨?_, rfl, rfl⟩, hfind⟩
      -- the row found is a written one, and it was found before under the same id
      have hid : s.id = shipmentId := by simpa using List.find?_some hfind
      have hmem := Table.mem_of_find?_eq_some hfind
      rw [Table.rows_of_update? hupd, List.mem_map] at hmem
      obtain ⟨s₀, hs₀, rfl⟩ := hmem
      by_cases heq : s₀.id = shipmentId
      · rw [TrackingDB.getShipment_eq_some.mpr ⟨hs₀, heq⟩]
        exact hfind.trans (by simp [heq])
      · rw [if_neg (by simpa using heq)] at hid
        exact absurd hid heq

/-- A write that keeps the keys is not refused. -/
theorem updateShipment_of_keys {w : Oms} {shipmentId : UUID} {s : Shipment}
    (hs : w.db.getShipment shipmentId = some s) (f : Table.KeyPreserving Shipment.keys) :
    ∃ w', w.updateShipment shipmentId f = .ok (f s, w') ∧ ShipmentWrite shipmentId f w w' := by
  have hupd : w.db.shipments.update? (fun s => s.id == shipmentId) f =
      some (w.db.shipments.modify (fun s => s.id == shipmentId) f) :=
    dif_pos (w.db.shipments.modify _ f).unique
  have hread : (w.db.shipments.modify (fun s => s.id == shipmentId) f).find?
      (fun s => s.id == shipmentId) = some (f s) := by
    obtain ⟨hmem, rfl⟩ := TrackingDB.getShipment_eq_some.mp hs
    rw [Table.find?_modify _ fun r => by rw [shipment_id_eq_of_keys_eq (f.keeps r)]]
    rw [show w.db.shipments.find? _ = some s from hs]
    simp
  have hok : w.updateShipment shipmentId f = .ok (f s, { w with db := { w.db with
      shipments := w.db.shipments.modify (fun s => s.id == shipmentId) f } }) := by
    unfold updateShipment
    rw [hupd]
    simp only [hread]
  exact ⟨_, hok, (updateShipment_eq_ok hok).1⟩

end Oms

/-! ## Section 2: The guards -/

section Reads

variable {k : RequestSession} {w : Oms}

theorem loadShipment_run_none {shipmentId : UUID} (h : w.db.getShipment shipmentId = none)
    (missing : PyException) :
    loadShipment shipmentId missing k w =
      .done (.error missing, k.get (.shipment shipmentId) false) := by
  unfold loadShipment
  simp only [Proc.bind_run, getById_run, h, Staged.andThen_done, Proc.resume_ok]
  rfl

theorem loadShipment_run_some {shipmentId : UUID} {s : Shipment}
    (h : w.db.getShipment shipmentId = some s) (missing : PyException) :
    loadShipment shipmentId missing k w = .done (.ok s, k.get (.shipment shipmentId) true) := by
  unfold loadShipment
  simp only [Proc.bind_run, getById_run, h, Staged.andThen_done, Proc.resume_ok]
  rfl

theorem findOrder_run (orderId : UUID) :
    findOrder orderId k w = .done (.ok (w.db.orders.getOrder orderId),
      k.get (.order orderId) (w.db.orders.getOrder orderId).isSome) := rfl

/-- The session after the courier of a shipment has been looked up. -/
def courierSession (w : Oms) (courierId : Option UUID) (k : RequestSession) : RequestSession :=
  match courierId with
  | none => k
  | some id => k.get (.courier id) (w.getCourier id).isSome

/-- The name of a shipment's courier. -/
def courierNameOf (w : Oms) (courierId : Option UUID) : Option String :=
  courierId.bind fun id => (w.getCourier id).map (·.name)

theorem courierName_run (courierId : Option UUID) :
    courierName courierId k w =
      .done (.ok (courierNameOf w courierId), courierSession w courierId k) := by
  cases courierId <;> rfl

end Reads

/-- A call that no guard of `sync_fulfillment_for_shipment` ends. -/
structure Pushes (w : Oms) (shipmentId : UUID) (s : Shipment) (awb : String) (order : Order)
    (shopifyOrderId : String) : Prop where
  shipment : w.db.getShipment shipmentId = some s
  order : shopifyOrder (w.db.orders.getOrder s.orderId) = some (order, shopifyOrderId)
  unsynced : pyOr s.shopifyFulfillmentId none = none
  awb : pyOr s.awb none = some awb

section Pushes

variable {w : Oms} {shipmentId : UUID} {s : Shipment} {awb : String} {order : Order} {gid : String}

theorem Pushes.id_eq (h : Pushes w shipmentId s awb order gid) : s.id = shipmentId :=
  (TrackingDB.getShipment_eq_some.mp h.shipment).2

theorem Pushes.withSent (h : Pushes w shipmentId s awb order gid) (request : ShopifyRequest) :
    Pushes (w.withSent request) shipmentId s awb order gid :=
  ⟨h.shipment, h.order, h.unsynced, h.awb⟩

end Pushes

/-- The session when the guards have been passed. -/
def guardedSession (k : RequestSession) (s : Shipment) : RequestSession :=
  (k.get (.shipment s.id) true).get (.order s.orderId) true

/-- What the guards make of a call: it is refused or returns without a commit; or the order is
not from Shopify and the status is written; or the shipment is pushed. -/
theorem syncFulfillment_cases (registry : Registry) (now : Instant) (shipmentId : UUID)
    (actor : Option UUID) (k : RequestSession) (w : Oms) :
    (∃ k', w.db.getShipment shipmentId = none ∧
      syncFulfillmentForShipment registry now shipmentId actor k w =
        .done (.error (.oms (.notFound "Shipment not found.")), k')) ∨
    (∃ s k', w.db.getShipment shipmentId = some s ∧
      (∀ awb order gid, ¬ Pushes w shipmentId s awb order gid) ∧
      syncFulfillmentForShipment registry now shipmentId actor k w = .done (.ok s, k')) ∨
    (∃ s k', w.db.getShipment shipmentId = some s ∧
      shopifyOrder (w.db.orders.getOrder s.orderId) = none ∧
      syncFulfillmentForShipment registry now shipmentId actor k w =
        transaction none (fun w => w.updateShipment shipmentId markNotApplicable) k' w) ∨
    ∃ s awb order gid, Pushes w shipmentId s awb order gid ∧
      syncFulfillmentForShipment registry now shipmentId actor k w =
        (do let adapter ← getAdapter registry
            attemptPush now shipmentId actor (pushFulfillment adapter now actor s awb order gid))
          (guardedSession k s) w := by
  unfold syncFulfillmentForShipment
  rw [Proc.bind_run]
  cases hs : w.db.getShipment shipmentId with
  | none =>
    rw [loadShipment_run_none hs]
    exact .inl ⟨_, rfl, rfl⟩
  | some s =>
    rw [loadShipment_run_some hs, Staged.andThen_done, Proc.resume_ok, Proc.bind_run,
      findOrder_run, Staged.andThen_done, Proc.resume_ok]
    cases horder : shopifyOrder (w.db.orders.getOrder s.orderId) with
    | none =>
      -- an order from elsewhere: the status is written, if it is another
      have hpush : ∀ awb order gid, ¬ Pushes w shipmentId s awb order gid := fun awb order gid h =>
        absurd (h.order.symm.trans horder) (Option.some_ne_none _)
      by_cases hstatus : s.shopifySyncStatus = .notApplicable
      · exact .inr (.inl ⟨s, _, rfl, hpush, by rw [if_neg (not_not_intro hstatus)]; rfl⟩)
      · exact .inr (.inr (.inl ⟨s, _, rfl, horder, by rw [if_pos hstatus]⟩))
    | some o =>
      obtain ⟨order, gid⟩ := o
      by_cases hid : pyOr s.shopifyFulfillmentId none = none
      · cases hawb : pyOr s.awb none with
        | none =>
          have hpush : ∀ awb order gid, ¬ Pushes w shipmentId s awb order gid :=
            fun awb order gid h => absurd (h.awb.symm.trans hawb) (Option.some_ne_none _)
          exact .inr (.inl ⟨s, _, rfl, hpush, by simp only [hid]; rfl⟩)
        | some awb =>
          obtain ⟨-, hsid⟩ := TrackingDB.getShipment_eq_some.mp hs
          have hfound : (w.db.orders.getOrder s.orderId).isSome = true := by
            obtain ⟨o, ho, -⟩ := Option.bind_eq_some_iff.mp horder
            rw [ho]
            rfl
          refine .inr (.inr (.inr ⟨s, awb, order, gid, ⟨hs, horder, hid, hawb⟩, ?_⟩))
          simp only [hid, hfound, guardedSession, hsid]
          rfl
      · have hpush : ∀ awb order gid, ¬ Pushes w shipmentId s awb order gid :=
          fun awb order gid h => hid h.unsynced
        exact .inr (.inl ⟨s, _, rfl, hpush, by simp only [if_pos hid]; rfl⟩)

theorem getAdapter_run_none {α : Type} (f : ShopifyAdapter → OmsProc α) (k : RequestSession)
    (w : Oms) : (getAdapter none >>= f) k w =
      .done (.error (.oms (.integration "No adapter registered for integration 'shopify'.")), k) :=
  rfl

theorem getAdapter_run_some {α : Type} (adapter : ShopifyAdapter) (f : ShopifyAdapter → OmsProc α)
    (k : RequestSession) (w : Oms) : (getAdapter (some adapter) >>= f) k w = f adapter k w := rfl

/-! ## Section 3: The push -/

section Push

variable {now : Instant} {shipmentId : UUID} {actor : Option UUID} {k : RequestSession} {w : Oms}
  {α : Type} {f : α → OmsProc (Shipment ⊕ Fulfillment)}

/-- What the `except` blocks return is returned. -/
theorem recovered_finishPush (now : Instant) (e : PyException) :
    (Sum.inl <$> recoverFulfillment shipmentId actor e) >>= finishPush now shipmentId actor =
      recoverFulfillment shipmentId actor e :=
  (Proc.map_bind _ _ _).trans (Proc.bind_pure _)

/-- A push that settles the shipment itself. -/
theorem attemptPush_inl (push : OmsProc Shipment) :
    attemptPush now shipmentId actor (Sum.inl <$> push) =
      tryCatch push (recoverFulfillment shipmentId actor) := by
  unfold attemptPush
  rw [Proc.tryCatch_map]
  exact (Proc.map_bind _ _ _).trans (Proc.bind_pure _)

theorem attemptPush_of_done {p : OmsProc α} {a : α} {k' : RequestSession}
    (h : p k w = .done (.ok a, k')) :
    attemptPush now shipmentId actor (p >>= f) k w =
      attemptPush now shipmentId actor (f a) k' w := by
  unfold attemptPush
  rw [Proc.bind_run, Proc.bind_run, Proc.tryCatch_run, Proc.tryCatch_run, Proc.bind_run, h,
    Staged.andThen_done, Proc.resume_ok]

theorem attemptPush_of_raise {p : OmsProc α} {e : PyException} {k' : RequestSession}
    (h : p k w = .done (.error e, k')) :
    attemptPush now shipmentId actor (p >>= f) k w =
      recoverFulfillment shipmentId actor e k' w := by
  rw [← recovered_finishPush now]
  unfold attemptPush
  rw [Proc.bind_run, Proc.bind_run, Proc.tryCatch_run, Proc.bind_run, h, Staged.andThen_done,
    Proc.resume_error, Proc.raise_run, Staged.andThen_done, Proc.resume_error]

theorem attemptPush_send_ok (request : ShopifyRequest) (a : α) :
    attemptPush now shipmentId actor (send request (.ok a) >>= f) k w =
      .commit (w.withSent request)
        (attemptPush now shipmentId actor (f a) k (w.withSent request)) := rfl

theorem attemptPush_send_error (request : ShopifyRequest) (e : PyException) :
    attemptPush now shipmentId actor (send request (.error e) >>= f) k w =
      .commit (w.withSent request)
        (recoverFulfillment shipmentId actor e k (w.withSent request)) := by
  rw [← recovered_finishPush now]
  rfl

/-- A creation that succeeds is recorded after the `try` statement. -/
theorem attemptPush_create_ok (request : ShopifyRequest) (fulfillment : Fulfillment) :
    attemptPush now shipmentId actor (Sum.inr <$> send request (.ok fulfillment)) k w =
      .commit (w.withSent request)
        (recordFulfillment now shipmentId actor fulfillment k (w.withSent request)) := rfl

theorem attemptPush_create_error (request : ShopifyRequest) (e : PyException) :
    attemptPush now shipmentId actor (Sum.inr <$> send request (.error e)) k w =
      .commit (w.withSent request)
        (recoverFulfillment shipmentId actor e k (w.withSent request)) :=
  attemptPush_send_error request e

variable {adapter : ShopifyAdapter} {s : Shipment} {awb : String} {order : Order} {gid : String}

theorem attemptPush_openFailed {e : PyException}
    (h : adapter.getOpenFulfillmentOrderId (orderGid gid) = .error e) :
    attemptPush now shipmentId actor (pushFulfillment adapter now actor s awb order gid) k w =
      .commit (w.withSent (.openFulfillmentOrder (orderGid gid)))
        (recoverFulfillment shipmentId actor e k
          (w.withSent (.openFulfillmentOrder (orderGid gid)))) := by
  unfold pushFulfillment
  rw [h, attemptPush_send_error]

theorem attemptPush_nothingOpen (h : adapter.getOpenFulfillmentOrderId (orderGid gid) = .ok none) :
    attemptPush now shipmentId actor (pushFulfillment adapter now actor s awb order gid) k w =
      .commit (w.withSent (.openFulfillmentOrder (orderGid gid)))
        (attemptPush now shipmentId actor
          (pushNothingOpen adapter now actor s awb order (courierNameOf w s.courierId))
          (courierSession w s.courierId k)
          (w.withSent (.openFulfillmentOrder (orderGid gid)))) := by
  unfold pushFulfillment
  rw [h, attemptPush_send_ok, attemptPush_of_done (courierName_run s.courierId)]
  rfl

theorem attemptPush_open {fulfillmentOrderId : String}
    (h : adapter.getOpenFulfillmentOrderId (orderGid gid) = .ok (some fulfillmentOrderId)) :
    attemptPush now shipmentId actor (pushFulfillment adapter now actor s awb order gid) k w =
      .commit (w.withSent (.openFulfillmentOrder (orderGid gid)))
        (attemptPush now shipmentId actor
          (Sum.inr <$> send
            (.createFulfillment fulfillmentOrderId awb (courierNameOf w s.courierId))
            (adapter.createFulfillment fulfillmentOrderId awb (courierNameOf w s.courierId)))
          (courierSession w s.courierId k)
          (w.withSent (.openFulfillmentOrder (orderGid gid)))) := by
  unfold pushFulfillment
  rw [h, attemptPush_send_ok, attemptPush_of_done (courierName_run s.courierId)]
  rfl

end Push

/-! ## Section 4: Tags -/

section Tags

variable {push : ShopifyAdapter → String → List String → ShopifyRequest × Except PyException Unit}
  {registry : Registry} {adapter : ShopifyAdapter} {orderId : UUID} {actor : Option UUID}
  {k : RequestSession} {w : Oms} {o : Order} {gid : String}

theorem exists_of_shopifyOrder {order : Option Order} (h : shopifyOrder order = some (o, gid)) :
    order = some o ∧ pyOr o.shopifyOrderId none = some gid := by
  obtain ⟨o', ho', hid⟩ := Option.bind_eq_some_iff.mp h
  obtain ⟨id, hid, heq⟩ := Option.map_eq_some_iff.mp hid
  cases heq
  exact ⟨ho', hid⟩

/-- The session after the order and the telecaller have been looked up. -/
def tagSession (w : Oms) (orderId : UUID) (o : Order) (k : RequestSession) : RequestSession :=
  match o.confirmedByTelecallerId with
  | none => k.get (.order orderId) true
  | some id => (k.get (.order orderId) true).get (.user id) (w.calls.getUser id).isSome

/-- The name `_confirming_telecaller_name` finds. -/
def telecallerNameOf (w : Oms) (o : Order) : Option String :=
  o.confirmedByTelecallerId.bind fun id => (w.calls.getUser id).map (·.name)

theorem canRead_tagSession (hk : k.CanRead actor) : (tagSession w orderId o k).CanRead actor := by
  unfold tagSession
  split
  · exact RequestSession.canRead_get hk _ _
  · exact RequestSession.canRead_get (RequestSession.canRead_get hk _ _) _ _

/-- When the order and the telecaller are loaded already, no transaction is begun. -/
theorem tagSession_of_loaded (horder : Entity.order orderId ∈ k.loaded)
    (huser : ∀ id ∈ o.confirmedByTelecallerId, Entity.user id ∈ k.loaded) :
    tagSession w orderId o k = k := by
  unfold tagSession
  split
  · exact RequestSession.get_of_mem horder _
  · rename_i id hid
    rw [RequestSession.get_of_mem horder, RequestSession.get_of_mem (huser id hid)]

theorem confirmingTelecallerName_run (order : Order) :
    confirmingTelecallerName order k w = .done (.ok (telecallerNameOf w order),
      match order.confirmedByTelecallerId with
      | none => k
      | some id => k.get (.user id) (w.calls.getUser id).isSome) := by
  unfold confirmingTelecallerName telecallerNameOf
  cases order.confirmedByTelecallerId <;> rfl

/-- An order that Shopify does not know is left alone. -/
theorem pushConfirmationTags_run_none (h : shopifyOrder (w.db.orders.getOrder orderId) = none) :
    pushConfirmationTags push registry orderId actor k w =
      .done (.ok (), k.get (.order orderId) (w.db.orders.getOrder orderId).isSome) := by
  unfold pushConfirmationTags
  rw [Proc.bind_run, findOrder_run, Staged.andThen_done, Proc.resume_ok, h]
  rfl

/-- The order and the telecaller are looked up before the adapter. -/
theorem pushConfirmationTags_run_some
    (h : shopifyOrder (w.db.orders.getOrder orderId) = some (o, gid)) :
    pushConfirmationTags push registry orderId actor k w =
      (do
        let adapter ← getAdapter registry
        let pushed := push adapter (orderGid gid) (confirmationTags (telecallerNameOf w o))
        if ← bestEffort (send pushed.1 pushed.2) then auditOnly actor else pure ())
      (tagSession w orderId o k) w := by
  obtain ⟨horder, -⟩ := exists_of_shopifyOrder h
  unfold pushConfirmationTags
  rw [Proc.bind_run, findOrder_run, Staged.andThen_done, Proc.resume_ok, h, horder]
  unfold tagSession telecallerNameOf
  refine (Proc.bind_run _ _ _ _).trans ?_
  rw [confirmingTelecallerName_run]
  unfold telecallerNameOf
  cases o.confirmedByTelecallerId <;> rfl

/-- What a request whose failure is only logged, and the audit record after it, commit. -/
theorem bestEffort_run (request : ShopifyRequest) (answer : Except PyException Unit) :
    bestEffort (send request answer) k w =
      .commit (w.withSent request) (.done (.ok answer.isOk, k)) := by
  cases answer <;> rfl

theorem auditOnly_run (hk : k.CanRead actor) :
    auditOnly actor k w = .commit w (.done (.ok (), k.commit)) :=
  transaction_run_ok hk rfl

/-- Without an adapter an order that Shopify knows raises. -/
theorem pushConfirmationTags_run_unregistered
    (h : shopifyOrder (w.db.orders.getOrder orderId) = some (o, gid)) :
    pushConfirmationTags push none orderId actor k w =
      .done (.error (.oms (.integration "No adapter registered for integration 'shopify'.")),
        tagSession w orderId o k) := by
  rw [pushConfirmationTags_run_some h]
  rfl

/-- With an adapter nothing is raised: the request is sent, and recorded when it succeeded. -/
theorem pushConfirmationTags_run_registered (hk : k.CanRead actor)
    (h : shopifyOrder (w.db.orders.getOrder orderId) = some (o, gid)) :
    pushConfirmationTags push (some adapter) orderId actor k w =
      let pushed := push adapter (orderGid gid) (confirmationTags (telecallerNameOf w o))
      .commit (w.withSent pushed.1)
        (if pushed.2.isOk then
          .commit (w.withSent pushed.1) (.done (.ok (), (tagSession w orderId o k).commit))
        else .done (.ok (), tagSession w orderId o k)) := by
  rw [pushConfirmationTags_run_some h, getAdapter_run_some]
  refine (Proc.bind_run _ _ _ _).trans ?_
  rw [bestEffort_run, Staged.andThen_commit, Staged.andThen_done, Proc.resume_ok]
  refine congrArg (Staged.commit _) ?_
  cases (push adapter (orderGid gid) (confirmationTags (telecallerNameOf w o))).2 with
  | error e => rfl
  | ok a => exact auditOnly_run (canRead_tagSession hk)

end Tags

/-! ## Section 5: What the parts commit and keep -/

section Rules

variable {actor : Option UUID}

theorem commits_getAdapter {R : Oms → Oms → Prop} (registry : Registry) :
    (getAdapter registry).Commits R := by
  unfold getAdapter
  split
  · exact .throw _
  · exact .pure _

theorem commits_loadShipment {R : Oms → Oms → Prop} (shipmentId : UUID) (missing : PyException) :
    (loadShipment shipmentId missing).Commits R := by
  refine (commits_getById _ _).bind fun shipment => ?_
  split
  · exact .throw _
  · exact .pure _

theorem keeps_loadShipment (shipmentId : UUID) (missing : PyException) :
    (loadShipment shipmentId missing).Keeps fun k => k.CanRead actor := by
  refine (keeps_getById _ _).bind fun shipment => ?_
  split
  · exact .throw _
  · exact .pure _

theorem keeps_getAdapter (registry : Registry) :
    (getAdapter registry).Keeps fun k => k.CanRead actor := by
  unfold getAdapter
  split
  · exact .throw _
  · exact .pure _

theorem commits_bestEffort {R : Oms → Oms → Prop} (hsent : ∀ w r, R w (w.withSent r))
    (request : ShopifyRequest) (answer : Except PyException Unit) :
    (bestEffort (send request answer)).Commits R :=
  ((commits_send fun w => hsent w request).bind fun _ => .pure _).tryCatch fun _ => .pure _

theorem keeps_bestEffort (request : ShopifyRequest) (answer : Except PyException Unit) :
    (bestEffort (send request answer)).Keeps fun k => k.CanRead actor :=
  ((keeps_send _ _).bind fun _ => .pure _).tryCatch fun _ => .pure _

theorem commits_auditOnly {R : Oms → Oms → Prop} (hrefl : ∀ w, R w w) (actor : Option UUID) :
    (auditOnly actor).Commits R :=
  commits_transaction fun w _ _ hwrite => by
    cases hwrite
    exact hrefl w

/-- The tags of a confirmation change nothing but the requests sent. -/
theorem commits_pushConfirmationTags {R : Oms → Oms → Prop} (hsent : ∀ w r, R w (w.withSent r))
    (hrefl : ∀ w, R w w)
    (push : ShopifyAdapter → String → List String → ShopifyRequest × Except PyException Unit)
    (registry : Registry) (orderId : UUID) (actor : Option UUID) :
    (pushConfirmationTags push registry orderId actor).Commits R := by
  refine (commits_getById _ _).bind fun order => ?_
  split
  · exact .pure _
  · refine Proc.Commits.bind ?_ fun name => (commits_getAdapter _).bind fun adapter =>
      (commits_bestEffort hsent _ _).bind fun pushed => .ite (commits_auditOnly hrefl _) (.pure _)
    unfold confirmingTelecallerName
    split
    · exact .pure _
    · exact (commits_getById _ _).bind fun _ => .pure _

theorem keeps_pushConfirmationTags
    (push : ShopifyAdapter → String → List String → ShopifyRequest × Except PyException Unit)
    (registry : Registry) (orderId : UUID) (user : Option UUID) :
    (pushConfirmationTags push registry orderId user).Keeps fun k => k.CanRead actor := by
  refine (keeps_getById _ _).bind fun order => ?_
  split
  · exact .pure _
  · refine Proc.Keeps.bind ?_ fun name => (keeps_getAdapter _).bind fun adapter =>
      (keeps_bestEffort _ _).bind fun pushed => .ite keeps_transaction (.pure _)
    unfold confirmingTelecallerName
    split
    · exact .pure _
    · exact (keeps_getById _ _).bind fun _ => .pure _

/-- So do the tags of a call. -/
theorem commits_syncCallTags [PyText] {R : Oms → Oms → Prop} (hsent : ∀ w r, R w (w.withSent r))
    (hrefl : ∀ w, R w w) (registry : Registry) (orderId : UUID) (outcome : TelecallingStatus)
    (actor : Option UUID) : (syncCallTags registry orderId outcome actor).Commits R := by
  refine (commits_getById _ _).bind fun order => ?_
  split
  · exact .pure _
  · exact (commits_getAdapter _).bind fun adapter => (commits_bestEffort hsent _ _).bind
      fun added => (commits_bestEffort hsent _ _).bind fun removed =>
        .ite (commits_auditOnly hrefl _) (.pure _)

end Rules

end AyushOms.Shopify
