import AyushOms.Lib.Run
import AyushOms.Orders.Lifecycle

/-!
# Confirmation Attribution

`confirm_order` stamps who confirmed an order and when, `unconfirm_order` takes the stamp
back. The status and the stamp are written in separate commits, and the status endpoint has the
same edge back to `PENDING` without the stamp and without the guards.

## Main results

- `keepsAttribution_iff`: one call
- `attribution_consistent_iff`: the runs in which a pending order carries no stamp and every
  return to `PENDING` has passed the guards of `unconfirm_order`
-/

namespace AyushOms.Orders

open AyushOms.Lib AyushOms.Shopify AyushOms.Tracking

/-! ## Section 1: Consistency -/

def Unattributed (o : Order) : Prop :=
  o.confirmedByTelecallerId = none ∧ o.confirmedAt = none

instance (o : Order) : Decidable (Unattributed o) :=
  inferInstanceAs (Decidable (o.confirmedByTelecallerId = none ∧ o.confirmedAt = none))

/-- A pending order carries no stamp. -/
def AttributionConsistent (w : Oms) : Prop :=
  ∀ o ∈ w.db.orders.orders.rows, o.status = .pending → Unattributed o

/-- An order that goes from `CONFIRMED` back to `PENDING` does so by `unconfirm_order`, whose
guards it has passed. -/
def RevertsGuarded (w : Oms) (c : OrderCall) (w' : Oms) : Prop :=
  ∀ o ∈ w.db.orders.orders.rows, o.status = .confirmed →
    ∀ o' ∈ w'.db.orders.orders.rows, o'.id = o.id → o'.status = .pending →
      (∃ env actor, c = .unconfirmOrder env o.id actor) ∧
        unconfirmGuard w o.id = .ok (w.db.shipmentsForOrder o.id)

/-- What the guards say: no shipment of the order has progressed or is fulfilled at
Shopify. -/
theorem unconfirmGuard_eq_ok {w : Oms} {orderId : UUID} {shipments : List Shipment}
    (h : unconfirmGuard w orderId = .ok shipments) :
    shipments = w.db.shipmentsForOrder orderId ∧ ∀ s ∈ shipments,
      shipmentProgressBlockMessage s.currentStatus = none ∧ s.shopifySyncStatus ≠ .synced := by
  unfold unconfirmGuard at h
  split at h
  · cases h
  · split at h
    · cases h
    · dsimp only at h
      split at h
      · cases h
      · rename_i hnone
        cases h
        refine ⟨rfl, fun s hs => ?_⟩
        have hblocks := List.findSome?_eq_none_iff.mp hnone s hs
        unfold shipmentBlocks at hblocks
        split at hblocks
        · cases hblocks
        · rename_i hmessage
          refine ⟨hmessage, fun hsynced => ?_⟩
          rw [if_pos hsynced] at hblocks
          cases hblocks

/-! ## Section 2: What the other calls keep -/

/-- Orders persist, none comes back to `PENDING`, and consistency is kept. -/
structure Kept (w w' : Oms) : Prop where
  persists : ∀ o ∈ w.db.orders.orders.rows, ∃ o' ∈ w'.db.orders.orders.rows, o'.id = o.id
  pending : ∀ o ∈ w.db.orders.orders.rows, ∀ o' ∈ w'.db.orders.orders.rows, o'.id = o.id →
    o'.status = .pending → o.status = .pending
  consistent : AttributionConsistent w → AttributionConsistent w'

theorem Kept.of_eq {w w' : Oms} (h : w'.db.orders.orders = w.db.orders.orders) : Kept w w' where
  persists o ho := ⟨o, by rwa [h], rfl⟩
  pending o ho o' ho' hid hpending := by
    rw [h] at ho'
    rwa [← OrdersDB.order_eq_of_id_eq ho ho' hid]
  consistent hw := by
    unfold AttributionConsistent
    rwa [h]

theorem Kept.refl (w : Oms) : Kept w w := .of_eq rfl

theorem Kept.trans {w w' w'' : Oms} (h : Kept w w') (h' : Kept w' w'') : Kept w w'' where
  persists o ho := by
    obtain ⟨o', ho', hid⟩ := h.persists o ho
    obtain ⟨o'', ho'', hid'⟩ := h'.persists o' ho'
    exact ⟨o'', ho'', hid'.trans hid⟩
  pending o ho o'' ho'' hid hpending := by
    obtain ⟨o', ho', hid'⟩ := h.persists o ho
    exact h.pending o ho o' ho' hid' (h'.pending o' ho' o'' ho'' (hid.trans hid'.symm) hpending)
  consistent hw := h'.consistent (h.consistent hw)

/-- A write that makes no order pending and stamps none that is. -/
theorem OrderWrite.kept {orderId : UUID} {f : Order → Order} {events : List OrderEvent}
    {w : Oms} (w' : Oms) (h : OrderWrite orderId f events w.db.orders w'.db.orders)
    (hid : ∀ o, (f o).id = o.id)
    (hpending : ∀ o ∈ w.db.orders.orders.rows, o.id = orderId → (f o).status = .pending →
      o.status = .pending ∧ (Unattributed o → Unattributed (f o))) : Kept w w' where
  persists o ho := by
    rw [h.rows_eq]
    refine ⟨_, List.mem_map_of_mem ho, ?_⟩
    split
    · exact hid o
    · rfl
  pending o ho o' ho' hoid hstatus := by
    obtain ⟨o₁, ho₁, ⟨heq, rfl⟩ | ⟨-, rfl⟩⟩ := h.mem ho'
    · rw [hid] at hoid
      obtain rfl := OrdersDB.order_eq_of_id_eq ho ho₁ hoid
      exact (hpending o₁ ho₁ heq hstatus).1
    · rwa [← OrdersDB.order_eq_of_id_eq ho ho₁ hoid]
  consistent hw o' ho' hstatus := by
    obtain ⟨o, ho, ⟨heq, rfl⟩ | ⟨-, rfl⟩⟩ := h.mem ho'
    · obtain ⟨hbefore, hstamp⟩ := hpending o ho heq hstatus
      exact hstamp (hw o ho hbefore)
    · exact hw o' ho hstatus

theorem OmsPlain.kept {w w' : Oms} (h : OmsPlain w w') : Kept w w' := by
  cases h with
  | untouched events quiet => exact .of_eq quiet.orders_eq
  | created o source rows_eq events_eq unattributed =>
    have hmem : ∀ o' ∈ w.db.orders.orders.rows, o' ∈ w'.db.orders.orders.rows := fun o' ho' => by
      rw [rows_eq]
      exact List.mem_append_left _ ho'
    refine ⟨fun o' ho' => ⟨o', hmem o' ho', rfl⟩, fun o' ho' o'' ho'' hid hpending => ?_,
      fun hw o' ho' hpending => ?_⟩
    · rwa [← OrdersDB.order_eq_of_id_eq (hmem o' ho') ho'' hid]
    · rw [rows_eq, List.mem_append, List.mem_singleton] at ho'
      rcases ho' with ho' | rfl
      · exact hw o' ho' hpending
      · exact unattributed
  | resynced o mem f resync write =>
    refine write.kept w' (fun o => (resync o).id_eq) fun o' _ _ hpending => ⟨?_, fun hstamp => ?_⟩
    · rcases (resync o').status with hsame | ⟨hcancelled, -⟩
      · rwa [← hsame]
      · rw [hcancelled] at hpending
        cases hpending
    · exact ⟨(resync o').telecaller_eq.trans hstamp.1, (resync o').confirmedAt_eq.trans hstamp.2⟩

theorem OmsPayment.kept {w w' : Oms} (h : OmsPayment w w') : Kept w w' := by
  cases h with
  | untouched events quiet => exact .of_eq quiet.orders_eq
  | settled o mem write =>
    refine write.kept w' (fun _ => rfl) fun o' _ _ hpending => ⟨?_, fun hstamp => hstamp⟩
    simp only [Payments.markOrderPaid] at hpending
    split at hpending
    · cases hpending
    · exact hpending

/-- A transition to another status than `PENDING`. -/
theorem kept_transitionStatus {w : Oms} {orders : OrdersDB} {orderId : UUID}
    {newStatus : OrderStatus} (hne : newStatus ≠ .pending)
    (h : w.db.orders.transitionStatus orderId newStatus = .ok orders) :
    Kept w (w.setOrders orders) := by
  obtain ⟨o, -, -, rfl⟩ := transitionStatus_eq_ok h
  have hwrite := orderWrite_updateOrder w.db.orders orderId (OrdersDB.setStatus newStatus)
    [⟨orderId, "status_changed", some newStatus.value, "system"⟩]
  exact OrderWrite.kept (w.setOrders _) hwrite (fun _ => rfl) fun o' _ _ hpending =>
    absurd hpending hne

/-- After a transition the order has the new status. -/
theorem status_of_transitionStatus {db db' : OrdersDB} {orderId : UUID} {newStatus : OrderStatus}
    (h : db.transitionStatus orderId newStatus = .ok db') :
    ∀ o ∈ db'.orders.rows, o.id = orderId → o.status = newStatus := by
  obtain ⟨o, -, -, rfl⟩ := transitionStatus_eq_ok h
  intro o' ho' hid
  obtain ⟨o₁, -, ⟨-, rfl⟩ | ⟨hne, rfl⟩⟩ :=
    (orderWrite_updateOrder db orderId (OrdersDB.setStatus newStatus) [_]).mem ho'
  · rfl
  · exact absurd hid hne

/-! ## Section 3: Confirming -/

namespace OrderService

/-- `transition_status` commits once, when its transaction is not refused. -/
theorem transitionStatus_run (orderId : UUID) (newStatus : OrderStatus) {actor : Option UUID}
    {k : RequestSession} (w : Oms) (hk : k.CanRead actor) :
    (∃ e k' e', transitionStatus orderId newStatus actor k w = .done (.error e, k') ∧
      w.db.orders.transitionStatus orderId newStatus = .error e') ∨
    ∃ orders o k', transitionStatus orderId newStatus actor k w =
      .commit (w.setOrders orders) (.done (.ok o, k')) ∧
      w.db.orders.transitionStatus orderId newStatus = .ok orders := by
  cases hwrite : w.db.orders.transitionStatus orderId newStatus with
  | error e =>
    obtain ⟨k', hrun⟩ := transitionStatus_run_error actor k hwrite
    exact .inl ⟨_, k', e, hrun, rfl⟩
  | ok orders =>
    obtain ⟨o, hrun⟩ := transitionStatus_run_ok hk hwrite
    exact .inr ⟨orders, o, _, hrun, rfl⟩

/-- `confirm_order` stamps an order that its first commit has confirmed. -/
theorem steps_confirmOrder (env : External) (orderId actor : UUID) (now : Instant)
    {k : RequestSession} {w : Oms} (hk : k.CanRead (some actor)) :
    (confirmOrder env orderId actor now k w).Steps Kept w := by
  unfold confirmOrder
  rw [Proc.bind_run]
  rcases transitionStatus_run orderId .confirmed w hk with
    ⟨e, k', -, hrun, -⟩ | ⟨orders, o, k', hrun, hwrite⟩
  · rw [hrun]
    exact True.intro
  · rw [hrun]
    refine ⟨kept_transitionStatus (by decide) hwrite, Proc.steps_bind ?_ fun _ => ?_⟩
    · refine steps_transaction fun a w' hstamp => ?_
      cases hstamp
      refine OrderWrite.kept _ (orderWrite_updateOrder_nil orders orderId _) (fun _ => rfl)
        fun o' ho' hid hpending => ?_
      have hconfirmed : o'.status = .confirmed := status_of_transitionStatus hwrite o' ho' hid
      have hsame : o'.status = .pending := hpending
      rw [hsame] at hconfirmed
      cases hconfirmed
    · exact (commits_pushConfirmationTags (fun _ _ => .of_eq rfl) (fun _ => .of_eq rfl)
        _ _ _ _).bind
        fun _ => commits_getOrder orderId

end OrderService

/-! ## Section 4: Unconfirming -/

namespace OrderService

/-- Nothing `unconfirm_order` does before its last two commits expires the acting user. -/
theorem keeps_prepareUnconfirm (env : External) (orderId user : UUID) (actor : Option UUID) :
    (prepareUnconfirm env orderId user).Keeps fun k => k.CanRead actor := by
  refine Proc.Keeps.store.bind fun w =>
    (keeps_withSession fun _ h => RequestSession.canRead_load h _).bind fun _ => ?_
  split
  · exact .throw _
  · refine (keeps_pushConfirmationTags _ _ _ _).bind fun _ => .forM (fun shipment => ?_) _
    refine .ite (.pure _) ?_
    split
    · refine Proc.Keeps.tryCatch ?_ fun e => ?_
      · unfold cancelShipment
        split
        · exact .throw _
        · split
          · exact .throw _
          · exact keeps_transaction
      · split
        · exact .throw _
        · exact .throw _
    · exact keeps_transaction

/-- The last two commits of `unconfirm_order`. -/
def finishUnconfirm (orderId actor : UUID) : OmsProc Order := do
  let _ ← transitionStatus orderId .pending (some actor)
  ordersTransaction none fun db => .ok (db.updateOrder orderId OrdersDB.clearAttribution)
  getOrder orderId

theorem finishUnconfirm_run (orderId actor : UUID) {k : RequestSession} (w : Oms)
    (hk : k.CanRead (some actor)) :
    (∃ r e, finishUnconfirm orderId actor k w = .done r ∧
      w.db.orders.transitionStatus orderId .pending = .error e) ∨
    ∃ orders r, finishUnconfirm orderId actor k w = .commit (w.setOrders orders)
      (.commit (w.setOrders (orders.updateOrder orderId OrdersDB.clearAttribution)) (.done r)) ∧
      w.db.orders.transitionStatus orderId .pending = .ok orders := by
  unfold finishUnconfirm
  rw [Proc.bind_run]
  rcases transitionStatus_run orderId .pending w hk with
    ⟨e, k', e', hrun, hrefused⟩ | ⟨orders, o, k', hrun, hwrite⟩
  · rw [hrun]
    exact .inl ⟨_, e', rfl, hrefused⟩
  · rw [hrun, Staged.andThen_commit, Staged.andThen_done, Proc.resume_ok, Proc.bind_run,
      ordersTransaction, transaction_run_ok RequestSession.canRead_none rfl, Staged.andThen_commit,
      Staged.andThen_done, Proc.resume_ok]
    obtain ⟨r, hr⟩ := getOrder_run orderId k'.commit
      (w.setOrders (orders.updateOrder orderId OrdersDB.clearAttribution))
    exact .inr ⟨orders, r, by rw [← hr]; rfl, hwrite⟩

end OrderService

/-- What an unconfirm call has done before its last two commits. -/
def preparedUnconfirm (w : Oms) (env : External) (orderId actor : UUID) :
    Staged Oms (Except PyException PUnit × RequestSession) :=
  OrderService.prepareUnconfirm env orderId actor (.authenticated (some actor)) w

/-- The order is confirmed and carries a stamp. -/
def Stamped (w : Oms) (orderId : UUID) : Prop :=
  ∃ o, w.db.orders.getOrder orderId = some o ∧ o.status = .confirmed ∧ ¬ Unattributed o

/-- The call is stopped between the commit of the status and the commit of the stamp. -/
def StoppedInGap (w : Oms) (env : External) (orderId actor : UUID) (n : ℕ) : Prop :=
  (preparedUnconfirm w env orderId actor).result.1 = .ok PUnit.unit ∧
    n = (preparedUnconfirm w env orderId actor).commits + 1 ∧ Stamped w orderId

/-- Up to its last two commits the call leaves the orders alone. -/
theorem orders_cut_preparedUnconfirm (w : Oms) (env : External) (orderId actor : UUID) (n : ℕ) :
    ((preparedUnconfirm w env orderId actor).cut w n).db.orders = w.db.orders :=
  Staged.Steps.cut (R := fun w w' : Oms => w'.db.orders = w.db.orders) (fun _ => rfl)
    (fun h h' => h'.trans h)
    (OrderService.commits_prepareUnconfirm (fun _ _ h => h) env orderId actor _ w) n

/-- The call gets as far as its last two commits only past the guards. -/
theorem unconfirmGuard_of_prepared (w : Oms) (env : External) (orderId actor : UUID)
    (h : (preparedUnconfirm w env orderId actor).result.1 = .ok PUnit.unit) :
    unconfirmGuard w orderId = .ok (w.db.shipmentsForOrder orderId) := by
  unfold preparedUnconfirm OrderService.prepareUnconfirm at h
  rw [Proc.bind_run, Proc.store_run, Staged.andThen_done, Proc.resume_ok, Proc.bind_run,
    withSession, Proc.memory_run, Staged.andThen_done, Proc.resume_ok] at h
  cases hguard : unconfirmGuard w orderId with
  | error e =>
    rw [hguard] at h
    cases h
  | ok shipments => rw [(unconfirmGuard_eq_ok hguard).1]

/-- Two writes of one order after another. -/
theorem OrderWrite.comp {orderId : UUID} {f g : Order → Order} {events events' : List OrderEvent}
    {db db' db'' : OrdersDB} (h : OrderWrite orderId f events db db')
    (h' : OrderWrite orderId g events' db' db'') (hid : ∀ o, (f o).id = o.id) :
    OrderWrite orderId (g ∘ f) (events ++ events') db db'' where
  rows_eq := by
    rw [h'.rows_eq, h.rows_eq, List.map_map]
    refine List.map_congr_left fun o _ => ?_
    by_cases heq : o.id = orderId
    · simp [heq, hid]
    · simp [heq]
  events_eq := by rw [h'.events_eq, h.events_eq, List.append_assoc]

section Write

variable {orderId : UUID} {f : Order → Order} {events : List OrderEvent} {w : Oms} (w' : Oms)

/-- The written order is consistent, and the others are as they were. -/
theorem OrderWrite.consistent (h : OrderWrite orderId f events w.db.orders w'.db.orders)
    (hw : AttributionConsistent w) (hf : ∀ o ∈ w.db.orders.orders.rows, o.id = orderId →
      Unattributed (f o)) : AttributionConsistent w' := by
  intro o' ho' hpending
  obtain ⟨o, ho, ⟨hid, rfl⟩ | ⟨-, rfl⟩⟩ := h.mem ho'
  · exact hf o ho hid
  · exact hw o' ho hpending

/-- Only the written order can have come back to `PENDING`, and the call has passed the
guards for it. -/
theorem OrderWrite.revertsGuarded (h : OrderWrite orderId f events w.db.orders w'.db.orders)
    (hid : ∀ o, (f o).id = o.id)
    (hguard : unconfirmGuard w orderId = .ok (w.db.shipmentsForOrder orderId)) (env : External)
    (actor : UUID) : RevertsGuarded w (.unconfirmOrder env orderId actor) w' := by
  intro o ho hconfirmed o' ho' hoid hpending
  obtain ⟨o₁, ho₁, ⟨rfl, rfl⟩ | ⟨-, rfl⟩⟩ := h.mem ho'
  · rw [hid] at hoid
    exact ⟨⟨env, actor, by rw [hoid]⟩, by rw [← hoid, hguard]⟩
  · obtain rfl := OrdersDB.order_eq_of_id_eq ho ho₁ hoid
    rw [hconfirmed] at hpending
    cases hpending

end Write

/-- No order becomes pending or loses its consistency. -/
theorem Kept.good {w w' : Oms} (h : Kept w w') (hw : AttributionConsistent w) (c : OrderCall) :
    AttributionConsistent w' ∧ RevertsGuarded w c w' := by
  refine ⟨h.consistent hw, fun o ho hconfirmed o' ho' hid hpending => ?_⟩
  have hbefore := h.pending o ho o' ho' hid hpending
  rw [hconfirmed] at hbefore
  cases hbefore

/-- Only a confirmed order goes back to `PENDING`. -/
theorem confirmed_of_pending_edge {status : OrderStatus}
    (h : .pending ∈ orderStatusTransitions status) : status = .confirmed := by
  cases status <;> first | rfl | exact absurd h (by decide)

/-- A transition to `PENDING` is carried out on a confirmed order. -/
theorem transitionStatus_pending {db : OrdersDB} {orderId : UUID} {o : Order}
    (hfind : db.getOrder orderId = some o) (hconfirmed : o.status = .confirmed) :
    ∃ db', db.transitionStatus orderId .pending = .ok db' := by
  simp only [OrdersDB.transitionStatus, hfind, hconfirmed]
  exact ⟨_, if_pos (by decide)⟩

/-- What is left of an unconfirm call once it has passed the guards and cancelled the
shipments. -/
theorem goodStep_finishUnconfirm {w : Oms} (w' : Oms) (hw : AttributionConsistent w)
    {env : External} {orderId actor : UUID}
    (hguard : unconfirmGuard w orderId = .ok (w.db.shipmentsForOrder orderId))
    {orders : OrdersDB} (hwrite : w.db.orders.transitionStatus orderId .pending = .ok orders) :
    (AttributionConsistent (w'.setOrders orders) ∧
      RevertsGuarded w (.unconfirmOrder env orderId actor) (w'.setOrders orders) ↔
        ¬ Stamped w orderId) ∧
    AttributionConsistent
      (w'.setOrders (orders.updateOrder orderId OrdersDB.clearAttribution)) ∧
    RevertsGuarded w (.unconfirmOrder env orderId actor)
      (w'.setOrders (orders.updateOrder orderId OrdersDB.clearAttribution)) := by
  obtain ⟨o, hfind, hedge, rfl⟩ := transitionStatus_eq_ok hwrite
  have hconfirmed := confirmed_of_pending_edge hedge
  obtain ⟨hmem, hid⟩ := OrdersDB.getOrder_eq_some.mp hfind
  have hstatus := orderWrite_updateOrder w.db.orders orderId (OrdersDB.setStatus .pending)
    [⟨orderId, "status_changed", some OrderStatus.pending.value, "system"⟩]
  have hstamp := orderWrite_updateOrder_nil
    { w.db.orders.updateOrder orderId (OrdersDB.setStatus .pending) with
      orderEvents := w.db.orders.orderEvents ++
        [⟨orderId, "status_changed", some OrderStatus.pending.value, "system"⟩] }
    orderId OrdersDB.clearAttribution
  have hboth := hstatus.comp hstamp fun _ => rfl
  refine ⟨⟨fun h => ?_, fun h => ⟨?_, ?_⟩⟩, ?_, ?_⟩
  · -- the order is pending now, so it carries no stamp
    rintro ⟨o₁, hfind₁, -, hattributed⟩
    obtain rfl : o = o₁ := Option.some.inj (hfind.symm.trans hfind₁)
    have hread := OrdersDB.getOrder_updateOrder hfind (OrdersDB.setStatus .pending)
    have hnone : Unattributed (OrdersDB.setStatus .pending o) :=
      h.1 _ (OrdersDB.getOrder_eq_some.mp hread).1 rfl
    exact hattributed hnone
  · refine OrderWrite.consistent (w := w) (w'.setOrders _) hstatus hw fun o₁ ho₁ hid₁ => ?_
    obtain rfl := OrdersDB.order_eq_of_id_eq hmem ho₁ (hid₁.trans hid.symm)
    by_contra hattributed
    exact h ⟨o₁, hfind, hconfirmed, hattributed⟩
  · exact OrderWrite.revertsGuarded (w'.setOrders _) hstatus (fun _ => rfl) hguard env actor
  · exact OrderWrite.consistent (w := w) (w'.setOrders _) hboth hw fun _ _ _ => ⟨rfl, rfl⟩
  · exact OrderWrite.revertsGuarded (w'.setOrders _) hboth (fun _ => rfl) hguard env actor

/-! ## Section 5: One call -/

/-- The call sends a confirmed order back to `PENDING` through the status endpoint. -/
def RevertsUnguarded (w : Oms) : OrderCall × ℕ → Prop
  | (.transitionStatus orderId .pending _, n) =>
    n ≠ 0 ∧ ∃ o, w.db.orders.getOrder orderId = some o ∧ o.status = .confirmed
  | _ => False

/-- The condition on a call: not a return to `PENDING` through the status endpoint, and not an
unconfirm stopped between its last two commits. -/
def KeepsAttribution (w : Oms) (e : OrderCall × ℕ) : Prop :=
  ¬ RevertsUnguarded w e ∧
    match e with
    | (.unconfirmOrder env orderId actor, n) => ¬ StoppedInGap w env orderId actor n
    | _ => True

section Calls

variable [PyText]

/-- What one interrupted call does. -/
abbrev attributionStep : Oms → OrderCall × ℕ → Oms := Staged.interrupt OrderCall.request

/-- The state is consistent, and the call has taken no order back without the guards. -/
def GoodStep (w : Oms) (e : OrderCall × ℕ) : Prop :=
  AttributionConsistent (attributionStep w e) ∧ RevertsGuarded w e.1 (attributionStep w e)

theorem goodStep_of_steps {w : Oms} {c : OrderCall} (hw : AttributionConsistent w)
    (h : (c.request w).Steps Kept w) (n : ℕ) : GoodStep w (c, n) :=
  (h.cut Kept.refl Kept.trans n).good hw c

theorem goodStep_transitionStatus {w : Oms} (hw : AttributionConsistent w) (orderId : UUID)
    (newStatus : OrderStatus) (actor : Option UUID) (n : ℕ) :
    GoodStep w (.transitionStatus orderId newStatus actor, n) ↔
      ¬ RevertsUnguarded w (.transitionStatus orderId newStatus actor, n) := by
  by_cases hne : newStatus = .pending
  · subst hne
    have hcut : attributionStep w (.transitionStatus orderId .pending actor, n) =
        (OrderService.transitionStatus orderId .pending actor (.authenticated actor) w).cut w n :=
      Proc.cut_map n
    unfold GoodStep
    rw [hcut]
    rcases OrderService.transitionStatus_run orderId .pending w
      (RequestSession.canRead_authenticated actor) with
      ⟨e, k', e', hrun, hrefused⟩ | ⟨orders, o, k', hrun, hwrite⟩
    · -- refused: nothing happens
      rw [hrun, Staged.cut_done]
      refine iff_of_true ((Kept.refl w).good hw _) ?_
      rintro ⟨-, o, hfind, hconfirmed⟩
      obtain ⟨db', hok⟩ := transitionStatus_pending hfind hconfirmed
      rw [hrefused] at hok
      cases hok
    · obtain ⟨o₁, hfind, hedge, rfl⟩ := transitionStatus_eq_ok hwrite
      have hconfirmed := confirmed_of_pending_edge hedge
      obtain ⟨hmem, hid⟩ := OrdersDB.getOrder_eq_some.mp hfind
      rw [hrun]
      cases n with
      | zero =>
        rw [Staged.cut_zero]
        exact iff_of_true ((Kept.refl w).good hw _) fun h => h.1 rfl
      | succ n =>
        rw [Staged.cut_commit_succ, Staged.cut_done]
        refine iff_of_false (fun h => ?_) fun h => h ⟨Nat.succ_ne_zero n, o₁, hfind, hconfirmed⟩
        -- the order went back, and not by `unconfirm_order`
        obtain ⟨hmem', hid'⟩ := OrdersDB.getOrder_eq_some.mp
          (OrdersDB.getOrder_updateOrder hfind (OrdersDB.setStatus .pending))
        obtain ⟨⟨env, user, heq⟩, -⟩ := h.2 o₁ hmem hconfirmed _ hmem' (hid'.trans hid.symm) rfl
        cases heq
  · refine iff_of_true (goodStep_of_steps hw ?_ n) fun h => ?_
    · exact ((OrderService.commits_transitionStatus fun w orders h =>
        kept_transitionStatus hne h).bind fun _ => .pure _) _ w
    · cases newStatus <;> first | exact h | exact hne rfl

theorem goodStep_unconfirmOrder {w : Oms} (hw : AttributionConsistent w) (env : External)
    (orderId actor : UUID) (n : ℕ) :
    GoodStep w (.unconfirmOrder env orderId actor, n) ↔ ¬ StoppedInGap w env orderId actor n := by
  have hcut : attributionStep w (.unconfirmOrder env orderId actor, n) =
      ((preparedUnconfirm w env orderId actor).andThen w
        (Proc.resume (fun _ => OrderService.finishUnconfirm orderId actor) Proc.raise)).cut w n :=
    Proc.cut_map n
  have hframe := orders_cut_preparedUnconfirm w env orderId actor
  have hfinal : ((preparedUnconfirm w env orderId actor).final w).db.orders = w.db.orders := by
    rw [← Staged.cut_of_commits_le (le_refl (preparedUnconfirm w env orderId actor).commits)]
    exact hframe _
  have hkept : ∀ w' : Oms, w'.db.orders = w.db.orders →
      AttributionConsistent w' ∧ RevertsGuarded w (.unconfirmOrder env orderId actor) w' :=
    fun w' h => Kept.good (.of_eq (by rw [h])) hw _
  have hreadable : (preparedUnconfirm w env orderId actor).result.2.CanRead (some actor) :=
    OrderService.keeps_prepareUnconfirm env orderId actor (some actor) _ w
      (RequestSession.canRead_authenticated _)
  have hguard := unconfirmGuard_of_prepared w env orderId actor
  unfold GoodStep StoppedInGap
  rw [hcut]
  generalize hP : preparedUnconfirm w env orderId actor = P at *
  by_cases hn : n ≤ P.commits
  · -- stopped before the orders are written
    rw [Staged.cut_andThen_of_le hn]
    refine iff_of_true (hkept _ (hframe n)) ?_
    rintro ⟨-, rfl, -⟩
    exact absurd hn (Nat.not_succ_le_self _)
  · obtain ⟨m, rfl⟩ : ∃ m, n = P.commits + (m + 1) := ⟨n - P.commits - 1, by omega⟩
    rw [Staged.cut_andThen_of_ge]
    rcases hresult : P.result with ⟨e | ⟨⟨⟩⟩, k'⟩
    · -- refused by the guards, or a cancellation failed
      rw [Proc.resume_error, Proc.raise_run, Staged.cut_done]
      refine iff_of_true (hkept _ hfinal) ?_
      rintro ⟨hok, -, -⟩
      cases hok
    · rw [hresult] at hreadable hguard
      rw [Proc.resume_ok]
      rcases OrderService.finishUnconfirm_run orderId actor (P.final w) hreadable with
        ⟨r, e, hrun, hrefused⟩ | ⟨orders, r, hrun, hwrite⟩
      · rw [hrun, Staged.cut_done]
        refine iff_of_true (hkept _ hfinal) ?_
        rintro ⟨-, -, o, hfind, hconfirmed, -⟩
        obtain ⟨db', hok⟩ := transitionStatus_pending hfind hconfirmed
        rw [hfinal, hok] at hrefused
        cases hrefused
      · rw [hfinal] at hwrite
        obtain ⟨hgap, hdone⟩ := goodStep_finishUnconfirm (P.final w) hw (hguard rfl) hwrite
        rw [hrun, Staged.cut_commit_succ]
        cases m with
        | zero =>
          rw [Staged.cut_zero, hgap]
          simp
        | succ m =>
          rw [Staged.cut_commit_succ, Staged.cut_done]
          refine iff_of_true hdone ?_
          rintro ⟨-, hn, -⟩
          omega

/-- A call keeps the attribution consistent, and takes no order back past the guards, exactly
when it meets the condition. -/
theorem keepsAttribution_iff {w : Oms} (hw : AttributionConsistent w) (e : OrderCall × ℕ) :
    GoodStep w e ↔ KeepsAttribution w e := by
  obtain ⟨c, n⟩ := e
  have hkept : c.proc.Commits Kept → ¬ RevertsUnguarded w (c, n) →
      (GoodStep w (c, n) ↔ ¬ RevertsUnguarded w (c, n) ∧ True) := fun h hc =>
    iff_of_true (goodStep_of_steps hw (h _ w) n) ⟨hc, True.intro⟩
  cases c with
  | createOrder r now actor =>
    exact hkept (((OrderService.commits_createOrder r now actor).mono fun _ _ h => h.kept).bind
      fun _ => .pure _) id
  | transitionStatus orderId newStatus actor =>
    rw [goodStep_transitionStatus hw]
    exact (and_iff_left True.intro).symm
  | confirmOrder env orderId actor now =>
    refine iff_of_true (goodStep_of_steps hw ?_ n) ⟨id, True.intro⟩
    exact Proc.steps_bind (OrderService.steps_confirmOrder env orderId actor now
      (RequestSession.canRead_authenticated _)) fun _ => .pure _
  | unconfirmOrder env orderId actor =>
    rw [goodStep_unconfirmOrder hw]
    exact (and_iff_right id).symm
  | applyPaymentEvent e =>
    exact hkept (((OrderService.commits_applyPaymentEvent e).mono fun _ _ h => h.kept).bind
      fun _ => .pure _) id
  | upsertSyncedOrder data =>
    exact hkept (((OrderService.commits_upsertSyncedOrder data).mono fun _ _ h => h.kept).bind
      fun _ => .pure _) id
  | elsewhere shipments =>
    refine hkept ?_ id
    unfold OrderCall.proc
    refine commits_transaction fun w a w' hwrite => ?_
    cases hwrite
    exact .of_eq rfl

/-! ## Section 6: Runs -/

/-- Over every run of the calls, each cut anywhere: in every state reached a pending order
carries no stamp, and no order has gone back to `PENDING` but through the guards of
`unconfirm_order`, exactly when every call of the run meets the condition. -/
theorem attribution_consistent_iff {w : Oms} (hw : AttributionConsistent w)
    (calls : List (OrderCall × ℕ)) :
    Throughout attributionStep AttributionConsistent w calls ∧
      Along attributionStep (fun w e => RevertsGuarded w e.1 (attributionStep w e)) w calls ↔
    Along attributionStep KeepsAttribution w calls := by
  induction calls generalizing w with
  | nil => simp [throughout_nil, Along, hw]
  | cons e calls ih =>
    rw [throughout_cons, along_cons, along_cons, ← keepsAttribution_iff hw e]
    constructor
    · rintro ⟨⟨-, hrest⟩, hguarded, hrest'⟩
      have hnext : AttributionConsistent (attributionStep w e) := hrest [] List.nil_prefix
      exact ⟨⟨hnext, hguarded⟩, (ih hnext).mp ⟨hrest, hrest'⟩⟩
    · rintro ⟨⟨hnext, hguarded⟩, hrest⟩
      obtain ⟨hrest, hrest'⟩ := (ih hnext).mpr hrest
      exact ⟨⟨hw, hrest⟩, hguarded, hrest'⟩

end Calls

/-- An order is created, and confirmed by a telecaller. -/
def confirmedOrder : Oms :=
  run attributionStep noOrders [(.createOrder { orderNumber := "A-1", items := [] } 10 (some 3), 1),
    (.confirmOrder {} 1 3 20, 2)]

/-- Unconfirmed, the order has lost its stamp. -/
theorem attribution_consistent_unconfirmed :
    AttributionConsistent (run attributionStep confirmedOrder [(.unconfirmOrder {} 1 3, 2)]) := by
  have hw : AttributionConsistent confirmedOrder := by
    unfold AttributionConsistent
    decide +kernel
  have hcommits : ¬ 2 = (preparedUnconfirm confirmedOrder {} 1 3).commits + 1 := by decide +kernel
  exact ((attribution_consistent_iff hw [(.unconfirmOrder {} 1 3, 2)]).mpr
    (along_cons.mpr ⟨⟨id, fun h => hcommits h.2.1⟩, True.intro⟩)).1.final

/-- Set back to `PENDING` at the status endpoint, the order keeps its stamp. -/
theorem status_endpoint_keeps_stamp :
    ¬ AttributionConsistent
      (run attributionStep confirmedOrder [(.transitionStatus 1 .pending (some 4), 1)]) := by
  unfold AttributionConsistent
  decide +kernel

end AyushOms.Orders
