import AyushOms.Orders.Attribution
import Mathlib.Data.List.TakeWhile

/-!
# Confirming and Unconfirming as a Whole

`unconfirm_order` promises that "either the whole thing proceeds, or nothing does". It takes
the confirmation tags off the Shopify order and cancels the shipments one by one, each with a
commit of its own, before `transition_status` checks that the order is `CONFIRMED` at all.
`confirm_order` promises the stamp "in the same transaction as the status change", and
`transition_status` has committed before the stamp is written.

## Main results

- `triple_cancellations`: where the loop over the shipments stops
- `triple_prepareUnconfirm`: what is left when an unconfirm gets no further than its last two
  commits
- `unconfirm_allOrNothing_iff`: the calls of `unconfirm_order` that keep the promise
- `confirm_atomic_iff`: the calls of `confirm_order` that keep theirs
-/

namespace AyushOms.Orders

open AyushOms.Lib AyushOms.Shopify AyushOms.Tracking

/-! ## Section 1: The tags of the orders at Shopify -/

/-- What Shopify makes of a request, given the tags of its orders: `tagsAdd` and `tagsRemove`
change the tags of one order, unless they are refused. -/
def tagsAfterRequest (adapter : ShopifyAdapter) (tags : String → List String) :
    ShopifyRequest → String → List String
  | .addTags gid added =>
    if (adapter.addOrderTags gid added).isOk then
      Function.update tags gid (tags gid ++ added.filter fun tag => tag ∉ tags gid)
    else tags
  | .removeTags gid removed =>
    if (adapter.removeOrderTags gid removed).isOk then
      Function.update tags gid ((tags gid).filter fun tag => tag ∉ removed)
    else tags
  | _ => tags

/-- The tags when a call has led from one state to another: what it sent has been answered. -/
def tagsAfter (env : External) (tags : String → List String) (w w' : Oms) :
    String → List String :=
  match env.shopify with
  | none => tags
  | some adapter => (w'.sent.drop w.sent.length).foldl (tagsAfterRequest adapter) tags

/-! ## Section 2: What is promised -/

/-- The order, its tags and its shipments are as they were. -/
def Untouched (env : External) (tags : String → List String) (orderId : UUID) (w w' : Oms) :
    Prop :=
  w'.db.orders.getOrder orderId = w.db.orders.getOrder orderId ∧
    tagsAfter env tags w w' = tags ∧
    w'.db.shipmentsForOrder orderId = w.db.shipmentsForOrder orderId

/-- The order is `PENDING` without a stamp, and every shipment that was `PENDING` is
cancelled. -/
def Reverted (orderId : UUID) (w w' : Oms) : Prop :=
  (∃ o, w'.db.orders.getOrder orderId = some o ∧ o.status = .pending ∧ Unattributed o) ∧
    ∀ s ∈ w.db.shipmentsForOrder orderId, s.currentStatus = .pending →
      ∃ s' ∈ w'.db.shipmentsForOrder orderId, s'.id = s.id ∧ s'.currentStatus = .cancelled

/-- What a call has to leave, by how it ends. -/
def UnconfirmsWhole (env : External) (tags : String → List String) (orderId actor : UUID)
    (k : RequestSession) (w : Oms) : Prop :=
  let call := OrderService.unconfirmOrder env orderId actor k w
  match call.result.1 with
  | .error _ => Untouched env tags orderId w (call.final w)
  | .ok _ => Reverted orderId w (call.final w)

/-! ## Section 3: When it is kept -/

/-- The shipments a call has to cancel, in its order. -/
def pendingShipments (w : Oms) (orderId : UUID) : List Shipment :=
  (w.db.shipmentsForOrder orderId).filter fun s => s.currentStatus = .pending

/-- The cancellation of the shipment goes through: Shiprocket does not know it, or accepts. -/
def cancels (env : External) (s : Shipment) : Bool :=
  match pyOr s.shiprocketShipmentId none with
  | none => true
  | some id => env.shiprocket.any fun cancel => (cancel id).isOk

/-- The guards refuse the call: there is no such order, Shopify has fulfilled it, or one of
its shipments has progressed or is fulfilled at Shopify. -/
def Refused (w : Oms) (orderId : UUID) : Prop :=
  ∀ o, w.db.orders.getOrder orderId = some o →
    (o.fulfillmentStatus = .fulfilled ∧ pyOr o.shopifyConfirmationFulfillmentId none = none) ∨
    ∃ s ∈ w.db.shipmentsForOrder orderId, shipmentBlocks s ≠ none

/-- The order is known to Shopify, and no adapter is registered. -/
def TagsUnreachable (env : External) (w : Oms) (orderId : UUID) : Prop :=
  env.shopify = none ∧ shopifyOrder (w.db.orders.getOrder orderId) ≠ none

/-- Shopify takes a tag off the order: it has one of the confirmation tags and the request is
accepted. -/
def LosesTags (env : External) (tags : String → List String) (w : Oms) (orderId : UUID) : Prop :=
  ∃ adapter o id, env.shopify = some adapter ∧
    shopifyOrder (w.db.orders.getOrder orderId) = some (o, id) ∧
    (adapter.removeOrderTags (orderGid id) (confirmationTags (telecallerNameOf w o))).isOk = true ∧
    ∃ tag ∈ confirmationTags (telecallerNameOf w o), tag ∈ tags (orderGid id)

/-- Nothing stands in the way of the call: the order is confirmed and every cancellation goes
through. -/
def GoesThrough (env : External) (w : Oms) (orderId : UUID) : Prop :=
  (∃ o, w.db.orders.getOrder orderId = some o ∧ o.status = .confirmed) ∧
    ∀ s ∈ pendingShipments w orderId, cancels env s = true

/-- The condition: the call is refused before anything is done, or it goes through, or what
fails is the first thing it does: no tag is taken off, and the first shipment it has to
cancel, if there is one, cannot be cancelled. -/
def AllOrNothing (env : External) (tags : String → List String) (w : Oms) (orderId : UUID) :
    Prop :=
  Refused w orderId ∨ TagsUnreachable env w orderId ∨ GoesThrough env w orderId ∨
    ¬ LosesTags env tags w orderId ∧
      ∀ s ∈ (pendingShipments w orderId).head?, cancels env s = false

section Condition

variable {env : External} {w : Oms} {orderId : UUID}

theorem unconfirmGuard_of_refused (h : Refused w orderId) :
    ∃ e, unconfirmGuard w orderId = .error e := by
  unfold unconfirmGuard
  split
  · exact ⟨_, rfl⟩
  · rename_i o hfind
    split
    · exact ⟨_, rfl⟩
    · rename_i hfulfilled
      obtain ⟨s, hs, hblocks⟩ := (h o hfind).resolve_left hfulfilled
      dsimp only
      split
      · exact ⟨_, rfl⟩
      · rename_i hnone
        exact absurd (List.findSome?_eq_none_iff.mp hnone s hs) hblocks

theorem unconfirmGuard_of_not_refused (h : ¬ Refused w orderId) :
    unconfirmGuard w orderId = .ok (w.db.shipmentsForOrder orderId) := by
  unfold Refused at h
  push Not at h
  obtain ⟨o, hfind, hfulfilled, hblocks⟩ := h
  unfold unconfirmGuard
  simp only [hfind, if_neg (not_and.mpr hfulfilled)]
  rw [List.findSome?_eq_none_iff.mpr hblocks]

end Condition

/-! ## Section 4: The cancellations -/

/-- The status a cancellation writes. -/
def cancelRow (db : TrackingDB) (s : Shipment) : TrackingDB :=
  db.updateStatus s.id (some .cancelled)

/-- The shipments the loop cancels before it stops. -/
def cancelledBefore (env : External) (shipments : List Shipment) : List Shipment :=
  (shipments.filter fun s => s.currentStatus = .pending).takeWhile (cancels env)

/-- The state after the loop. -/
def afterCancelling (env : External) (shipments : List Shipment) (w : Oms) : Oms :=
  { w with db := (cancelledBefore env shipments).foldl cancelRow w.db }

section Cancelling

variable {env : External} {actor : UUID} {s : Shipment} {shipments : List Shipment}

theorem cancelledBefore_cons_of_not_pending (h : s.currentStatus ≠ .pending) :
    cancelledBefore env (s :: shipments) = cancelledBefore env shipments := by
  simp [cancelledBefore, h]

theorem cancelledBefore_cons_of_cancels (h : s.currentStatus = .pending)
    (hs : cancels env s = true) :
    cancelledBefore env (s :: shipments) = s :: cancelledBefore env shipments := by
  simp [cancelledBefore, h, hs]

theorem cancelledBefore_cons_of_fails (h : s.currentStatus = .pending)
    (hs : cancels env s = false) : cancelledBefore env (s :: shipments) = [] := by
  simp [cancelledBefore, h, hs]

/-- A shipment that has to be cancelled and can be is, in a commit of its own. -/
theorem cancelForUnconfirm_run_ok {k : RequestSession} (w : Oms) (hk : k.CanRead (some actor))
    (h : s.currentStatus = .pending) (hs : cancels env s = true) :
    OrderService.cancelForUnconfirm env actor s k w =
      .commit { w with db := cancelRow w.db s } (.done (.ok PUnit.unit, k.commit)) := by
  unfold OrderService.cancelForUnconfirm
  rw [if_neg (not_not_intro h)]
  unfold cancels at hs
  split at hs
  · rename_i hid
    rw [hid]
    exact transaction_run_ok hk rfl
  · rename_i id hid
    rw [hid]
    cases hshiprocket : env.shiprocket with
    | none =>
      rw [hshiprocket] at hs
      cases hs
    | some cancel =>
      cases haccepted : cancel id with
      | error e =>
        simp [hshiprocket, haccepted, Except.isOk, Except.toBool] at hs
      | ok a =>
        have hrun : OrderService.cancelShipment env s id actor k w =
            .commit { w with db := cancelRow w.db s } (.done (.ok PUnit.unit, k.commit)) := by
          unfold OrderService.cancelShipment
          rw [hshiprocket]
          dsimp only
          rw [haccepted]
          exact transaction_run_ok hk rfl
        dsimp only
        rw [Proc.tryCatch_run, hrun]
        rfl

/-- One that cannot be cancelled raises, and nothing is written. -/
theorem cancelForUnconfirm_run_error (actor : UUID) (k : RequestSession) (w : Oms)
    (h : s.currentStatus = .pending) (hs : cancels env s = false) :
    ∃ e, OrderService.cancelForUnconfirm env actor s k w = .done (.error e, k) := by
  unfold OrderService.cancelForUnconfirm
  rw [if_neg (not_not_intro h)]
  unfold cancels at hs
  split at hs
  · cases hs
  · rename_i id hid
    have hrun : ∃ e, OrderService.cancelShipment env s id actor k w = .done (.error e, k) := by
      unfold OrderService.cancelShipment
      cases hshiprocket : env.shiprocket with
      | none => exact ⟨_, rfl⟩
      | some cancel =>
        cases haccepted : cancel id with
        | error e => exact ⟨e, by dsimp only; rw [haccepted]; rfl⟩
        | ok a => simp [hshiprocket, haccepted, Except.isOk, Except.toBool] at hs
    obtain ⟨e, hrun⟩ := hrun
    rw [hid]
    dsimp only
    rw [Proc.tryCatch_run, hrun, Staged.andThen_done, Proc.resume_error]
    -- the `except` block raises the conflict in place of an integration error
    split
    · exact ⟨_, rfl⟩
    · exact ⟨_, rfl⟩

/-- The loop cancels up to the first shipment that cannot be cancelled, and returns when there
is none. -/
theorem triple_cancellations (env : External) (actor : UUID) (shipments : List Shipment)
    (w₀ : Oms) :
    (shipments.forM (OrderService.cancelForUnconfirm env actor)).Triple
      (fun k w => k.CanRead (some actor) ∧ w = w₀)
      fun r k w => k.CanRead (some actor) ∧ w = afterCancelling env shipments w₀ ∧
        r.isOk = (shipments.filter fun s => s.currentStatus = .pending).all (cancels env) := by
  induction shipments generalizing w₀ with
  | nil => exact Proc.Spec.pure fun k w hP => ⟨hP.1, hP.2, rfl⟩
  | cons s shipments ih =>
    rw [Proc.triple_iff]
    rintro k w ⟨hk, rfl⟩
    rw [Proc.forM_cons_run]
    by_cases hpending : s.currentStatus = .pending
    · cases hs : cancels env s with
      | true =>
        rw [cancelForUnconfirm_run_ok w hk hpending hs]
        obtain ⟨hread, hfinal, hok⟩ :=
          (ih { w with db := cancelRow w.db s } k.commit _ ⟨hk, rfl⟩).2
        refine ⟨hread, hfinal.trans ?_, hok.trans ?_⟩
        · simp only [afterCancelling, cancelledBefore_cons_of_cancels hpending hs,
            List.foldl_cons]
        · simp [hpending, hs]
      | false =>
        obtain ⟨e, hrun⟩ := cancelForUnconfirm_run_error actor k w hpending hs
        rw [hrun, Staged.andThen_done, Proc.resume_error, Proc.raise_run]
        refine ⟨hk, ?_, ?_⟩
        · simp only [afterCancelling, cancelledBefore_cons_of_fails hpending hs, List.foldl_nil,
            Staged.final_done]
        · simp [hpending, hs, Except.isOk, Except.toBool]
    · -- cancelled already
      have hrun : OrderService.cancelForUnconfirm env actor s k w = .done (.ok PUnit.unit, k) := by
        unfold OrderService.cancelForUnconfirm
        rw [if_pos hpending]
        rfl
      rw [hrun]
      obtain ⟨hread, hfinal, hok⟩ := (ih w k w ⟨hk, rfl⟩).2
      refine ⟨hread, hfinal.trans ?_, hok.trans ?_⟩
      · simp only [afterCancelling, cancelledBefore_cons_of_not_pending hpending]
      · simp [hpending]

end Cancelling

/-! ## Section 5: What the cancellations leave -/

section Rows

variable {env : External} {orderId : UUID} {w : Oms}

/-- The row of a shipment after the loop has cancelled those listed. -/
def afterCancel (cancelled : List Shipment) (s : Shipment) : Shipment :=
  if s.id ∈ cancelled.map (·.id) then { s with currentStatus := .cancelled } else s

@[simp] theorem afterCancel_nil : afterCancel [] = id := by
  funext s
  simp [afterCancel]

theorem rows_foldl_cancelRow (cancelled : List Shipment) (db : TrackingDB) :
    (cancelled.foldl cancelRow db).shipments.rows =
      db.shipments.rows.map (afterCancel cancelled) := by
  induction cancelled generalizing db with
  | nil => simp
  | cons c cancelled ih =>
    rw [List.foldl_cons, ih]
    simp only [cancelRow, TrackingDB.updateStatus, TrackingDB.updateShipmentRow, Table.rows_modify,
      List.map_map]
    refine List.map_congr_left fun s _ => ?_
    by_cases hid : s.id = c.id
    · simp [afterCancel, hid]
    · simp [afterCancel, hid]

theorem orders_foldl_cancelRow (cancelled : List Shipment) (db : TrackingDB) :
    (cancelled.foldl cancelRow db).orders = db.orders := by
  induction cancelled generalizing db with
  | nil => rfl
  | cons c cancelled ih => exact ih (cancelRow db c)

theorem shipmentsForOrder_foldl_cancelRow (cancelled : List Shipment) (db : TrackingDB)
    (orderId : UUID) : (cancelled.foldl cancelRow db).shipmentsForOrder orderId =
      (db.shipmentsForOrder orderId).map (afterCancel cancelled) := by
  have horder : ∀ s, (afterCancel cancelled s).orderId = s.orderId := fun s => by
    unfold afterCancel
    split <;> rfl
  simp only [TrackingDB.shipmentsForOrder, rows_foldl_cancelRow, List.filter_map]
  refine congrArg (List.map _) (List.filter_congr fun s _ => ?_)
  rw [Function.comp_apply, horder]

/-- A shipment the loop has cancelled was `PENDING`, so its row has changed. -/
theorem map_afterCancel_eq_self_iff {cancelled shipments : List Shipment}
    (h : ∀ s ∈ cancelled, s ∈ shipments ∧ s.currentStatus = .pending) :
    shipments.map (afterCancel cancelled) = shipments ↔ cancelled = [] := by
  constructor
  · intro hsame
    refine List.eq_nil_iff_forall_not_mem.mpr fun s hs => ?_
    obtain ⟨hmem, hpending⟩ := h s hs
    have hrow : afterCancel cancelled s = s :=
      List.map_inj_left.mp (hsame.trans (List.map_id _).symm) s hmem
    have hcancelled : (afterCancel cancelled s).currentStatus = .cancelled := by
      rw [afterCancel, if_pos (List.mem_map_of_mem hs)]
    rw [hrow, hpending] at hcancelled
    cases hcancelled
  · rintro rfl
    simp

theorem mem_cancelledBefore {shipments : List Shipment} {s : Shipment}
    (h : s ∈ cancelledBefore env shipments) : s ∈ shipments ∧ s.currentStatus = .pending := by
  simpa using List.mem_filter.mp ((List.takeWhile_prefix _).subset h)

theorem cancelledBefore_eq_nil_iff {shipments : List Shipment} :
    cancelledBefore env shipments = [] ↔
      ∀ s ∈ (shipments.filter fun s => s.currentStatus = .pending).head?,
        cancels env s = false := by
  unfold cancelledBefore
  cases shipments.filter fun s => s.currentStatus = .pending with
  | nil => simp
  | cons s rest => simp [List.takeWhile_cons]

end Rows

/-! ## Section 6: The call -/

/-- The request that takes the tags off has been sent. -/
def untagged (env : External) (orderId : UUID) (w : Oms) : Oms :=
  match shopifyOrder (w.db.orders.getOrder orderId), env.shopify with
  | some (o, id), some _ =>
    w.withSent (.removeTags (orderGid id) (confirmationTags (telecallerNameOf w o)))
  | _, _ => w

@[simp] theorem db_untagged (env : External) (orderId : UUID) (w : Oms) :
    (untagged env orderId w).db = w.db := by
  unfold untagged
  split <;> rfl

section Call

variable {env : External} {orderId actor : UUID}

/-- The tags can fail only for want of an adapter, and then nothing has been sent. -/
theorem triple_reverseConfirmationTag (env : External) (orderId actor : UUID) (w₀ : Oms) :
    (reverseConfirmationTag env.shopify orderId (some actor)).Triple
      (fun k w => k.CanRead (some actor) ∧ w = w₀)
      fun r k w => k.CanRead (some actor) ∧ match r with
        | .ok _ => w = untagged env orderId w₀ ∧ ¬ TagsUnreachable env w₀ orderId
        | .error _ => w = w₀ ∧ TagsUnreachable env w₀ orderId := by
  rw [Proc.triple_iff]
  rintro k w ⟨hk, rfl⟩
  refine ⟨keeps_pushConfirmationTags _ _ _ _ k w hk, ?_⟩
  unfold reverseConfirmationTag untagged TagsUnreachable
  cases horder : shopifyOrder (w.db.orders.getOrder orderId) with
  | none =>
    rw [pushConfirmationTags_run_none horder]
    exact ⟨rfl, fun h => h.2 rfl⟩
  | some o =>
    obtain ⟨o, id⟩ := o
    cases hregistry : env.shopify with
    | none =>
      rw [pushConfirmationTags_run_unregistered horder]
      exact ⟨rfl, rfl, Option.some_ne_none _⟩
    | some adapter =>
      rw [pushConfirmationTags_run_registered hk horder]
      dsimp only
      -- the audit record is written or not, the request has been sent
      generalize (adapter.removeOrderTags _ _).isOk = accepted
      cases accepted with
      | false => exact ⟨rfl, fun h => Option.some_ne_none _ h.1⟩
      | true => exact ⟨rfl, fun h => Option.some_ne_none _ h.1⟩

/-- The last two commits go through when the order is confirmed. -/
theorem triple_finishUnconfirm (orderId actor : UUID) (w₀ : Oms) :
    (OrderService.finishUnconfirm orderId actor).Triple
      (fun k w => k.CanRead (some actor) ∧ w = w₀)
      fun r _ w => match r with
        | .ok _ => (∃ o, w₀.db.orders.getOrder orderId = some o ∧ o.status = .confirmed) ∧
          w.db.shipments = w₀.db.shipments ∧
          ∃ o, w.db.orders.getOrder orderId = some o ∧ o.status = .pending ∧ Unattributed o
        | .error _ => w = w₀ ∧
          ∀ o, w₀.db.orders.getOrder orderId = some o → o.status ≠ .confirmed := by
  rw [Proc.triple_iff]
  rintro k w ⟨hk, rfl⟩
  unfold OrderService.finishUnconfirm
  rw [Proc.bind_run]
  cases hstatus : w.db.orders.transitionStatus orderId .pending with
  | error e =>
    obtain ⟨k', hrun⟩ := OrderService.transitionStatus_run_error (some actor) k hstatus
    rw [hrun]
    refine ⟨rfl, fun o hfind hconfirmed => ?_⟩
    obtain ⟨db', hok⟩ := transitionStatus_pending hfind hconfirmed
    rw [hstatus] at hok
    cases hok
  | ok orders =>
    obtain ⟨o, hfind, hread⟩ := OrderService.getOrder_of_transitionStatus hstatus
    obtain ⟨o', hfind', hedge, -⟩ := transitionStatus_eq_ok hstatus
    have hcleared := OrdersDB.getOrder_updateOrder hread OrdersDB.clearAttribution
    obtain ⟨_, hrun⟩ := OrderService.transitionStatus_run_ok hk hstatus
    rw [hrun, Staged.andThen_commit, Staged.andThen_done, Proc.resume_ok, Proc.bind_run,
      OrderService.ordersTransaction, transaction_run_ok RequestSession.canRead_none rfl,
      Staged.andThen_commit, Staged.andThen_done, Proc.resume_ok, Oms.orders_setOrders,
      OrderService.getOrder_run_some
        (w := (w.setOrders orders).setOrders (orders.updateOrder orderId _)) hcleared]
    exact ⟨⟨o', hfind', confirmed_of_pending_edge hedge⟩, rfl, _, hcleared, rfl, rfl, rfl⟩

/-- The state when the call has got as far as its last two commits, or as the first
cancellation that fails. -/
def preparedStore (env : External) (orderId : UUID) (w : Oms) : Oms :=
  afterCancelling env (w.db.shipmentsForOrder orderId) (untagged env orderId w)

/-- What is left before the last two commits, by how far the call has got. -/
theorem triple_prepareUnconfirm (env : External) (orderId actor : UUID) (w₀ : Oms) :
    (OrderService.prepareUnconfirm env orderId actor).Triple
      (fun k w => k.CanRead (some actor) ∧ w = w₀)
      fun r k w => k.CanRead (some actor) ∧ match r with
        | .ok _ => ¬ Refused w₀ orderId ∧ ¬ TagsUnreachable env w₀ orderId ∧
          w = preparedStore env orderId w₀ ∧
          (pendingShipments w₀ orderId).all (cancels env) = true
        | .error _ => ((Refused w₀ orderId ∨ TagsUnreachable env w₀ orderId) ∧ w = w₀) ∨
          ¬ Refused w₀ orderId ∧ ¬ TagsUnreachable env w₀ orderId ∧
            w = preparedStore env orderId w₀ ∧
            (pendingShipments w₀ orderId).all (cancels env) = false := by
  rw [Proc.triple_iff]
  rintro k w ⟨hk, rfl⟩
  have hload := RequestSession.canRead_load hk (.order orderId)
  unfold OrderService.prepareUnconfirm
  rw [Proc.bind_run, Proc.store_run, Staged.andThen_done, Proc.resume_ok, Proc.bind_run,
    withSession, Proc.memory_run, Staged.andThen_done, Proc.resume_ok]
  by_cases hrefused : Refused w orderId
  · obtain ⟨e, hguard⟩ := unconfirmGuard_of_refused hrefused
    rw [hguard]
    exact ⟨hload, .inl ⟨.inl hrefused, rfl⟩⟩
  · rw [unconfirmGuard_of_not_refused hrefused]
    dsimp only
    rw [Proc.bind_run, Staged.result_andThen, Staged.final_andThen]
    obtain ⟨hread, hmid⟩ := (triple_reverseConfirmationTag env orderId actor w _ w ⟨hload, rfl⟩).2
    revert hread hmid
    generalize reverseConfirmationTag env.shopify orderId (some actor) _ w = tags
    rintro hread hmid
    obtain ⟨⟨e | a, k'⟩, hresult⟩ : ∃ r, tags.result = r := ⟨_, rfl⟩
    · rw [hresult] at hread hmid ⊢
      rw [hmid.1]
      exact ⟨hread, .inl ⟨.inr hmid.2, rfl⟩⟩
    · rw [hresult] at hread hmid ⊢
      obtain ⟨hstore, hreach⟩ := hmid
      rw [hstore, Proc.resume_ok]
      obtain ⟨hread', hfinal, hok⟩ := (triple_cancellations env actor
        (w.db.shipmentsForOrder orderId) (untagged env orderId w) k' _ ⟨hread, rfl⟩).2
      refine ⟨hread', ?_⟩
      rw [hfinal]
      -- the loop has ended at the first cancellation that failed, or after the last shipment
      split
      · rename_i hret
        rw [hret] at hok
        exact ⟨hrefused, hreach, rfl, hok.symm⟩
      · rename_i hret
        rw [hret] at hok
        exact .inr ⟨hrefused, hreach, rfl, hok.symm⟩

/-! ## Section 7: Which calls keep the promise -/

/-- The tags are as they were unless Shopify has taken one off. -/
theorem tagsAfter_untagged (env : External) (tags : String → List String) (orderId : UUID)
    {w w' : Oms} (h : w'.sent = (untagged env orderId w).sent) :
    tagsAfter env tags w w' = tags ↔ ¬ LosesTags env tags w orderId := by
  unfold tagsAfter LosesTags
  unfold untagged at h
  cases hregistry : env.shopify with
  | none => simp
  | some adapter =>
    cases horder : shopifyOrder (w.db.orders.getOrder orderId) with
    | none =>
      rw [hregistry, horder] at h
      simp [h]
    | some o =>
      obtain ⟨o, id⟩ := o
      rw [hregistry, horder] at h
      rw [h, Oms.sent_withSent, List.drop_left]
      simp only [List.foldl_cons, List.foldl_nil, tagsAfterRequest]
      by_cases haccepted : (adapter.removeOrderTags (orderGid id)
          (confirmationTags (telecallerNameOf w o))).isOk = true
      · rw [if_pos haccepted, Function.update_eq_self_iff, List.filter_eq_self]
        constructor
        · rintro hkept ⟨_, _, _, ⟨rfl⟩, ⟨rfl⟩, -, tag, htag, hon⟩
          exact absurd htag (by simpa using hkept tag hon)
        · intro hnone tag hon
          have hother : tag ∉ confirmationTags (telecallerNameOf w o) := fun htag =>
            hnone ⟨adapter, o, id, rfl, rfl, haccepted, tag, htag, hon⟩
          simpa using hother
      · rw [if_neg haccepted]
        refine iff_of_true rfl ?_
        rintro ⟨_, _, _, ⟨rfl⟩, ⟨rfl⟩, h, -⟩
        exact haccepted h

theorem untouched_preparedStore_iff (env : External) (tags : String → List String)
    (orderId : UUID) (w : Oms) :
    Untouched env tags orderId w (preparedStore env orderId w) ↔
      ¬ LosesTags env tags w orderId ∧
        ∀ s ∈ (pendingShipments w orderId).head?, cancels env s = false := by
  have horder : (preparedStore env orderId w).db.orders.getOrder orderId =
      w.db.orders.getOrder orderId := by
    simp only [preparedStore, afterCancelling, orders_foldl_cancelRow, db_untagged]
  have hshipments : (preparedStore env orderId w).db.shipmentsForOrder orderId =
      w.db.shipmentsForOrder orderId ↔
        ∀ s ∈ (pendingShipments w orderId).head?, cancels env s = false := by
    rw [pendingShipments, ← cancelledBefore_eq_nil_iff,
      ← map_afterCancel_eq_self_iff fun s hs => mem_cancelledBefore hs]
    simp only [preparedStore, afterCancelling, shipmentsForOrder_foldl_cancelRow, db_untagged]
  unfold Untouched
  have hsent : (preparedStore env orderId w).sent = (untagged env orderId w).sent := rfl
  rw [tagsAfter_untagged env tags orderId hsent, hshipments]
  exact and_iff_right horder

theorem untouched_self (env : External) (tags : String → List String) (orderId : UUID) (w : Oms) :
    Untouched env tags orderId w w := by
  refine ⟨rfl, ?_, rfl⟩
  unfold tagsAfter
  split
  · rfl
  · rw [List.drop_length]
    rfl

/-- What a call that gets through leaves of the shipments. -/
theorem cancelled_of_all {s : Shipment} {w : Oms}
    (hall : (pendingShipments w orderId).all (cancels env) = true)
    (hs : s ∈ w.db.shipmentsForOrder orderId) (hpending : s.currentStatus = .pending) :
    ∃ s' ∈ (preparedStore env orderId w).db.shipmentsForOrder orderId,
      s'.id = s.id ∧ s'.currentStatus = .cancelled := by
  have hlisted : s ∈ cancelledBefore env (w.db.shipmentsForOrder orderId) := by
    have hwhole : cancelledBefore env (w.db.shipmentsForOrder orderId) =
        pendingShipments w orderId :=
      List.takeWhile_eq_self_iff.mpr (List.all_eq_true.mp hall)
    rw [hwhole]
    exact List.mem_filter.mpr ⟨hs, by simpa using hpending⟩
  refine ⟨afterCancel (cancelledBefore env (w.db.shipmentsForOrder orderId)) s, ?_, ?_⟩
  · simp only [preparedStore, afterCancelling, shipmentsForOrder_foldl_cancelRow, db_untagged]
    exact List.mem_map_of_mem hs
  · rw [afterCancel, if_pos (List.mem_map_of_mem hlisted)]
    exact ⟨rfl, rfl⟩

/-- A call of `unconfirm_order` leaves the order, its tags and its shipments alone when it raises,
and the order unconfirmed and its shipments cancelled when it returns, exactly under the
condition. -/
theorem unconfirm_allOrNothing_iff (env : External) (tags : String → List String)
    (orderId actor : UUID) {k : RequestSession} (hk : k.CanRead (some actor)) (w : Oms) :
    UnconfirmsWhole env tags orderId actor k w ↔ AllOrNothing env tags w orderId := by
  have hsplit : OrderService.unconfirmOrder env orderId actor k w =
      (OrderService.prepareUnconfirm env orderId actor k w).andThen w
        (Proc.resume (fun _ => OrderService.finishUnconfirm orderId actor) Proc.raise) := rfl
  have huntouched := untouched_preparedStore_iff env tags orderId w
  obtain ⟨hread, hprepared⟩ := (triple_prepareUnconfirm env orderId actor w k w ⟨hk, rfl⟩).2
  unfold UnconfirmsWhole AllOrNothing
  rw [hsplit]
  dsimp only
  rw [Staged.result_andThen, Staged.final_andThen]
  revert hread hprepared
  generalize OrderService.prepareUnconfirm env orderId actor k w = prepared
  intro hread hprepared
  obtain ⟨⟨e | a, k'⟩, hresult⟩ : ∃ r, prepared.result = r := ⟨_, rfl⟩
  · rw [hresult] at hread hprepared ⊢
    rw [Proc.resume_error, Proc.raise_run]
    dsimp only [Staged.result_done, Staged.final_done]
    rcases hprepared with ⟨hearly, hfinal⟩ | ⟨hrefused, hreach, hfinal, hall⟩
    · rw [hfinal]
      refine iff_of_true (untouched_self env tags orderId w) ?_
      rcases hearly with hrefused | hreach
      · exact .inl hrefused
      · exact .inr (.inl hreach)
    · -- a cancellation has failed
      have hstuck : ¬ GoesThrough env w orderId := fun h => by
        rw [List.all_eq_true.mpr h.2] at hall
        cases hall
      rw [hfinal, huntouched]
      simp only [hrefused, hreach, hstuck, false_or]
  · rw [hresult] at hread hprepared ⊢
    obtain ⟨hrefused, hreach, hfinal, hall⟩ := hprepared
    rw [Proc.resume_ok, hfinal]
    have horder : (preparedStore env orderId w).db.orders = w.db.orders := by
      simp only [preparedStore, afterCancelling, orders_foldl_cancelRow, db_untagged]
    have hfinish := (triple_finishUnconfirm orderId actor (preparedStore env orderId w) k' _
      ⟨hread, rfl⟩).2
    rw [horder] at hfinish
    split
    · -- the order was not confirmed
      rename_i hret
      rw [hret] at hfinish
      have hstuck : ¬ GoesThrough env w orderId := by
        rintro ⟨⟨o, hfind, hconfirmed⟩, -⟩
        exact hfinish.2 o hfind hconfirmed
      rw [hfinish.1, huntouched]
      simp only [hrefused, hreach, hstuck, false_or]
    · rename_i hret
      rw [hret] at hfinish
      obtain ⟨hconfirmed, hshipments, hreverted⟩ := hfinish
      refine iff_of_true ⟨hreverted, fun s hs hpending => ?_⟩
        (.inr (.inr (.inl ⟨hconfirmed, List.all_eq_true.mp hall⟩)))
      obtain ⟨s', hs', hid, hcancelled⟩ := cancelled_of_all hall hs hpending
      refine ⟨s', ?_, hid, hcancelled⟩
      rwa [TrackingDB.shipmentsForOrder, hshipments]

end Call

/-- An order confirmed by user 3 with two parcels that have not left; Shiprocket knows only
the second. -/
def twoParcels : Oms where
  db := {
    orders := { orders := Table.ofList [{
      id := 1
      orderNumber := "#AWL1"
      status := .confirmed
      confirmedByTelecallerId := some 3
      confirmedAt := some 20 }] (by decide) }
    shipments := Table.ofList [
      { id := 70, orderId := 1 },
      { id := 71, orderId := 1, shiprocketShipmentId := some "9001" }] (by decide) }

/-- Shiprocket accepts every cancellation. -/
def acceptsAll : External where
  shiprocket := some fun _ => .ok ()

/-- Shiprocket refuses every cancellation. -/
def refusesAll : External where
  shiprocket := some fun _ => .error (.oms (.integration "Cannot cancel."))

/-- With both cancellations accepted the call goes through. -/
theorem unconfirm_allOrNothing_accepted :
    UnconfirmsWhole acceptsAll (fun _ => []) 1 3 (.authenticated (some 3)) twoParcels :=
  (unconfirm_allOrNothing_iff acceptsAll (fun _ => []) 1 3
    (RequestSession.canRead_authenticated (some 3)) twoParcels).mpr
    (.inr (.inr (.inl ⟨⟨_, rfl, rfl⟩, by decide⟩)))

/-- With the second refused the call raises, and the first parcel is cancelled. -/
theorem unconfirm_stops_halfway :
    ¬ UnconfirmsWhole refusesAll (fun _ => []) 1 3 (.authenticated (some 3)) twoParcels := by
  intro h
  have hshipments : ((OrderService.unconfirmOrder refusesAll 1 3 (.authenticated (some 3))
      twoParcels).final twoParcels).db.shipmentsForOrder 1 = twoParcels.db.shipmentsForOrder 1 :=
    h.2.2
  exact absurd hshipments (by decide +kernel)

/-! ## Section 8: Confirming -/

/-- Who confirmed an order and when. -/
def stamp (o : Order) : Option UUID × Option Instant := (o.confirmedByTelecallerId, o.confirmedAt)

/-- The status has become `CONFIRMED` since `o` was read. -/
def ConfirmedSince (o o' : Order) : Prop := o.status ≠ .confirmed ∧ o'.status = .confirmed

/-- The stamp of the telecaller has been set since `o` was read. -/
def StampedSince (actor : UUID) (now : Instant) (o o' : Order) : Prop :=
  stamp o' = (some actor, some now) ∧ stamp o ≠ (some actor, some now)

/-- What `confirm_order` promises of every state it can be stopped in: the call has confirmed
the order just when it has stamped it, and an order past `PENDING` keeps its stamp. -/
def ConfirmedWhole (orderId actor : UUID) (now : Instant) (w w' : Oms) : Prop :=
  ∀ o o', w.db.orders.getOrder orderId = some o → w'.db.orders.getOrder orderId = some o' →
    (ConfirmedSince o o' ↔ StampedSince actor now o o') ∧
      (o.status ≠ .pending → stamp o' = stamp o)

/-- The call is not stopped between its two commits. Nor does the order carry the very stamp
the call sets: the stamps are of earlier moments. -/
def NotBetweenCommits (orderId actor : UUID) (now : Instant) (w : Oms) (n : ℕ) : Prop :=
  ∀ o, w.db.orders.getOrder orderId = some o → o.status = .pending →
    n ≠ 1 ∧ (2 ≤ n → stamp o ≠ (some actor, some now))

section Confirm

variable {orderId actor : UUID} {now : Instant} {w : Oms}

/-- Where nothing has happened, nothing is confirmed and nothing is stamped. -/
theorem confirmedWhole_self : ConfirmedWhole orderId actor now w w := by
  intro o o' hfind hfind'
  obtain rfl := Option.some.inj (hfind.symm.trans hfind')
  exact ⟨iff_of_false (fun h => h.1 h.2) fun h => h.2 h.1, fun _ => rfl⟩

/-- Only a pending order is confirmed. -/
theorem transitionStatus_confirmed_iff {o : Order} (h : w.db.orders.getOrder orderId = some o) :
    (∃ orders, w.db.orders.transitionStatus orderId .confirmed = .ok orders) ↔
      o.status = .pending := by
  have hedge : OrderStatus.confirmed ∈ orderStatusTransitions o.status ↔ o.status = .pending := by
    cases o.status <;> decide
  simp only [OrdersDB.transitionStatus, h, ← hedge]
  split
  · rename_i hmem
    exact iff_of_true ⟨_, rfl⟩ hmem
  · rename_i hmem
    refine iff_of_false ?_ hmem
    rintro ⟨orders, hok⟩
    cases hok

/-- After its own two commits `confirm_order` leaves the orders alone. -/
theorem orders_cut_afterConfirm (env : External) (orderId actor : UUID) (k : RequestSession)
    (w : Oms) (n : ℕ) :
    ((OrderService.afterConfirm env orderId actor k w).cut w n).db.orders = w.db.orders := by
  have hcommits : (OrderService.afterConfirm env orderId actor).Commits
      fun w w' : Oms => w'.db.orders = w.db.orders :=
    OrderService.commits_afterConfirm (fun _ _ => rfl) fun _ => rfl
  exact Staged.Steps.cut (R := fun w w' : Oms => w'.db.orders = w.db.orders) (fun _ => rfl)
    (fun h h' => h'.trans h) (hcommits k w) n

/-- Stopped after any number of commits, a call of `confirm_order` has confirmed the order
together with the stamp, and has not stamped an order confirmed before, exactly under the
condition. -/
theorem confirm_atomic_iff (env : External) (orderId actor : UUID) (now : Instant)
    {k : RequestSession} (hk : k.CanRead (some actor)) (w : Oms) (n : ℕ) :
    ConfirmedWhole orderId actor now w
        ((OrderService.confirmOrder env orderId actor now k w).cut w n) ↔
      NotBetweenCommits orderId actor now w n := by
  cases hstatus : w.db.orders.transitionStatus orderId .confirmed with
  | error e =>
    obtain ⟨k', hrun⟩ := OrderService.confirmOrder_run_error env actor now k hstatus
    rw [hrun, Staged.cut_done]
    refine iff_of_true confirmedWhole_self fun o hfind hpending => ?_
    obtain ⟨orders, hok⟩ := (transitionStatus_confirmed_iff hfind).mpr hpending
    rw [hstatus] at hok
    cases hok
  | ok orders =>
    obtain ⟨o, hfind, hread⟩ := OrderService.getOrder_of_transitionStatus hstatus
    have hpending : o.status = .pending := (transitionStatus_confirmed_iff hfind).mp ⟨_, hstatus⟩
    have hcondition : NotBetweenCommits orderId actor now w n ↔
        n ≠ 1 ∧ (2 ≤ n → stamp o ≠ (some actor, some now)) := by
      refine ⟨fun h => h o hfind hpending, fun h o' hfind' _ => ?_⟩
      obtain rfl := Option.some.inj (hfind.symm.trans hfind')
      exact h
    -- at a state whose row of the order is known
    have hat : ∀ (w' : Oms) (o' : Order), w'.db.orders.getOrder orderId = some o' →
        o'.status = .confirmed → (ConfirmedWhole orderId actor now w w' ↔
          StampedSince actor now o o') := fun w' o' hfind' hconfirmed => by
      have hsince : ConfirmedSince o o' := ⟨by rw [hpending]; decide, hconfirmed⟩
      constructor
      · intro h
        exact (h o o' hfind hfind').1.mp hsince
      · intro h o₁ o₂ hfind₁ hfind₂
        obtain rfl := Option.some.inj (hfind.symm.trans hfind₁)
        obtain rfl := Option.some.inj (hfind'.symm.trans hfind₂)
        exact ⟨iff_of_true hsince h, fun hne => absurd hpending hne⟩
    rw [OrderService.confirmOrder_run_ok hk hstatus, hcondition]
    match n with
    | 0 =>
      rw [Staged.cut_zero]
      exact iff_of_true confirmedWhole_self ⟨by decide, fun h => absurd h (by decide)⟩
    | 1 =>
      -- the status is committed and the stamp is not
      rw [Staged.cut_commit_succ, Staged.cut_zero, hat (w.setOrders orders) _ hread rfl]
      exact iff_of_false (fun h => h.2 h.1) fun h => h.1 rfl
    | n + 2 =>
      have hstamped := OrdersDB.getOrder_updateOrder hread (OrdersDB.setAttribution actor now)
      rw [Staged.cut_commit_succ, Staged.cut_commit_succ,
        hat _ _ (by rw [orders_cut_afterConfirm]; exact hstamped) rfl]
      constructor
      · intro h
        exact ⟨by omega, fun _ => h.2⟩
      · intro h
        exact ⟨rfl, h.2 (by omega)⟩

end Confirm

/-- An order nobody has confirmed. -/
def unconfirmedOrder : Oms where
  db := { orders := { orders := Table.ofList [{ id := 1, orderNumber := "#AWL1" }] (by decide) } }

/-- A call that is not stopped confirms and stamps. -/
theorem confirm_atomic_finished : ConfirmedWhole 1 3 20 unconfirmedOrder
    ((OrderService.confirmOrder {} 1 3 20 (.authenticated (some 3)) unconfirmedOrder).cut
      unconfirmedOrder 2) := by
  refine (confirm_atomic_iff {} 1 3 20 (RequestSession.canRead_authenticated (some 3))
    unconfirmedOrder 2).mpr fun o hfind _ => ⟨by decide, fun _ => ?_⟩
  cases hfind
  decide

/-- One that is stopped after its first commit leaves a confirmed order without a stamp. -/
theorem confirm_stopped_without_stamp : ¬ ConfirmedWhole 1 3 20 unconfirmedOrder
    ((OrderService.confirmOrder {} 1 3 20 (.authenticated (some 3)) unconfirmedOrder).cut
      unconfirmedOrder 1) := by
  intro h
  have hstamp := (h _ _ rfl rfl).1.mp ⟨by decide, rfl⟩
  exact absurd hstamp.1 (by decide)

end AyushOms.Orders
