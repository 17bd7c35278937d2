import AyushOms.Lib.Run
import AyushOms.Shopify.Outcomes

/-!
# Pushing a Shipment Once

A shipment that is `SYNCED` is skipped by later calls when its row also carries a fulfillment
id, which is what the guard reads. Two ways of writing `SYNCED` leave the id empty: a retry
that finds no open fulfillment order, and an answer whose id is null or empty.

## Main results

- `identified_step`: what one call keeps
- `pushed_once`: the runs after which a `SYNCED` shipment is left alone
-/

namespace AyushOms.Shopify

open AyushOms.Lib AyushOms.Orders AyushOms.Tracking AyushOms.Telecalling

/-! ## Section 1: Calls -/

/-- A call of `sync_fulfillment_for_shipment`: how the adapter behaves during it, and the
session it runs in. -/
structure FulfillmentCall where
  registry : Registry
  now : Instant
  actor : Option UUID
  session : RequestSession

/-- The call for one shipment. -/
def pushCall (shipmentId : UUID) (w : Oms) (c : FulfillmentCall) :
    Staged Oms (Except PyException Shipment × RequestSession) :=
  syncFulfillmentForShipment c.registry c.now shipmentId c.actor c.session w

/-- One call, cut anywhere. -/
abbrev pushStep (shipmentId : UUID) : Oms → FulfillmentCall × ℕ → Oms :=
  Staged.interrupt (pushCall shipmentId)

/-- The sync row of the shipment is `SYNCED`. -/
def Synced (shipmentId : UUID) (w : Oms) : Prop :=
  ∃ s, w.db.getShipment shipmentId = some s ∧ s.shopifySyncStatus = .synced

/-- A `SYNCED` row carries what the guard reads, and its order is a Shopify order. -/
def Identified (shipmentId : UUID) (w : Oms) : Prop :=
  ∀ s, w.db.getShipment shipmentId = some s → s.shopifySyncStatus = .synced →
    pyOr s.shopifyFulfillmentId none ≠ none ∧ shopifyOrder (w.db.orders.getOrder s.orderId) ≠ none

/-- A call finds the guard closed and does nothing. -/
theorem pushStep_of_synced {shipmentId : UUID} {w : Oms} (hsynced : Synced shipmentId w)
    (hw : Identified shipmentId w) (e : FulfillmentCall × ℕ) : pushStep shipmentId w e = w := by
  obtain ⟨s, hs, hstatus⟩ := hsynced
  obtain ⟨hid, horder⟩ := hw s hs hstatus
  have hdone : ∃ r, pushCall shipmentId w e.1 = .done r := by
    unfold pushCall
    rcases syncFulfillment_cases e.1.registry e.1.now shipmentId e.1.actor e.1.session w with
      ⟨k', -, hrun⟩ | ⟨s', k', -, -, hrun⟩ | ⟨s', k', hs', hnone, -⟩ |
      ⟨s', awb, order, gid, hpush, -⟩
    · exact ⟨_, hrun⟩
    · exact ⟨_, hrun⟩
    · obtain rfl : s = s' := Option.some.inj (hs.symm.trans hs')
      exact absurd hnone horder
    · obtain rfl : s = s' := Option.some.inj (hs.symm.trans hpush.shipment)
      exact absurd hpush.unsynced hid
  obtain ⟨r, hr⟩ := hdone
  rw [pushStep, Staged.interrupt, hr, Staged.cut_done]

theorem run_of_synced {shipmentId : UUID} {w : Oms} (hsynced : Synced shipmentId w)
    (hw : Identified shipmentId w) (calls : List (FulfillmentCall × ℕ)) :
    run (pushStep shipmentId) w calls = w := by
  induction calls with
  | nil => rfl
  | cons e calls ih => rw [run_cons, pushStep_of_synced hsynced hw e, ih]

/-! ## Section 2: What one call keeps -/

/-- What a commit keeps. -/
def KeepsIdentified (shipmentId : UUID) (w w' : Oms) : Prop :=
  Identified shipmentId w → Identified shipmentId w'

variable {shipmentId : UUID}

theorem keepsIdentified_withSent (w : Oms) (request : ShopifyRequest) :
    KeepsIdentified shipmentId w (w.withSent request) := fun h => h

/-- A write of the row that is `SYNCED` only with an id, and only of a Shopify order. -/
theorem ShipmentWrite.identified {f : Shipment → Shipment} {w w' : Oms}
    (h : ShipmentWrite shipmentId f w w')
    (hf : ∀ s, w.db.getShipment shipmentId = some s → (f s).shopifySyncStatus = .synced →
      pyOr (f s).shopifyFulfillmentId none ≠ none ∧
        shopifyOrder (w.db.orders.getOrder (f s).orderId) ≠ none) :
    Identified shipmentId w' := by
  intro s' hs' hstatus
  rw [h.row] at hs'
  obtain ⟨s, hs, rfl⟩ := Option.map_eq_some_iff.mp hs'
  rw [h.orders_eq]
  exact hf s hs hstatus

/-- A write of the row to another status. -/
theorem keepsIdentified_updateShipment {f : Shipment → Shipment}
    (hf : ∀ s, (f s).shopifySyncStatus ≠ .synced) {w w' : Oms} {s : Shipment}
    (h : w.updateShipment shipmentId f = .ok (s, w')) : KeepsIdentified shipmentId w w' :=
  fun _ => (Oms.updateShipment_eq_ok h).1.identified fun s _ hstatus => absurd hstatus (hf s)

/-- Whatever a push has raised, its recovery writes `FAILED`. -/
theorem commits_recoverFulfillment (actor : Option UUID) (e : PyException) :
    (recoverFulfillment shipmentId actor e).Commits (KeepsIdentified shipmentId) := by
  have hrecord : ∀ message,
      (recordFailure shipmentId actor message).Commits (KeepsIdentified shipmentId) :=
    fun message => commits_transaction fun w s w' h =>
      keepsIdentified_updateShipment (f := markFailed message) (fun _ h => by cases h) h
  unfold recoverFulfillment
  split
  · exact hrecord _
  · exact (commits_withSession _).bind fun _ => (commits_loadShipment _ _).bind fun _ => hrecord _

/-- The answer names a fulfillment without an id. -/
def EmptyId (fulfillment : Fulfillment) : Prop :=
  ∃ id, fulfillment.id = some id ∧ pyOr id none = none

/-- A pushed shipment is written `SYNCED` without an id by the second commit (a retry finds
nothing open) or by the third (the answer has no id). -/
def WritesNoId (adapter : ShopifyAdapter) (s : Shipment) (awb : String) (order : Order)
    (gid : String) (courier : Option String) (n : ℕ) : Prop :=
  match adapter.getOpenFulfillmentOrderId (orderGid gid) with
  | .error _ => False
  | .ok none =>
    match pyOr order.shopifyConfirmationFulfillmentId none with
    | some confirmationId => 3 ≤ n ∧ ∃ fulfillment,
        adapter.updateFulfillmentTracking confirmationId awb courier = .ok fulfillment ∧
          EmptyId fulfillment
    | none => 2 ≤ n ∧ s.shopifySyncStatus = .failed
  | .ok (some fulfillmentOrderId) => 3 ≤ n ∧ ∃ fulfillment,
      adapter.createFulfillment fulfillmentOrderId awb courier = .ok fulfillment ∧
        EmptyId fulfillment

/-- The condition on a call: it does not write `SYNCED` without an id. -/
def SyncsWithId (shipmentId : UUID) (w : Oms) (e : FulfillmentCall × ℕ) : Prop :=
  ∀ s awb order gid adapter, Pushes w shipmentId s awb order gid → e.1.registry = some adapter →
    ¬ WritesNoId adapter s awb order gid (courierNameOf w s.courierId) e.2

section Push

variable {w : Oms} {s : Shipment} {awb : String} {order : Order} {gid : String}
  {actor : Option UUID} {now : Instant} {k : RequestSession}

/-- The transaction that records an id. -/
theorem steps_markSynced (h : Pushes w shipmentId s awb order gid) {id : Option String}
    (hid : pyOr id none ≠ none) :
    (transaction actor (fun w => w.updateShipment shipmentId (markSynced id now)) k w).Steps
      (KeepsIdentified shipmentId) w := by
  refine steps_transaction fun s' w' hwrite _ => ?_
  refine (Oms.updateShipment_eq_ok hwrite).1.identified fun s₀ hs₀ _ => ⟨hid, ?_⟩
  obtain rfl : s = s₀ := Option.some.inj (h.shipment.symm.trans hs₀)
  rw [show (markSynced id now s).orderId = s.orderId from rfl, h.order]
  exact Option.some_ne_none _

/-- The answer to a creation is recorded after the `try` statement. -/
theorem steps_recordFulfillment (h : Pushes w shipmentId s awb order gid)
    {fulfillment : Fulfillment} (hid : ¬ EmptyId fulfillment) :
    (recordFulfillment now shipmentId actor fulfillment k w).Steps
      (KeepsIdentified shipmentId) w := by
  unfold recordFulfillment fulfillmentId
  cases hf : fulfillment.id with
  | none => exact True.intro
  | some id => exact steps_markSynced h fun hempty => hid ⟨id, hf, hempty⟩

/-- The answer to an update is recorded inside it. -/
theorem steps_recordTracking (h : Pushes w shipmentId s awb order gid)
    {fulfillment : Fulfillment} (hid : ¬ EmptyId fulfillment) :
    (attemptPush now shipmentId actor (do
      let id ← fulfillmentId fulfillment
      Sum.inl <$> transaction actor fun w => w.updateShipment s.id (markSynced id now)) k w).Steps
      (KeepsIdentified shipmentId) w := by
  cases hf : fulfillment.id with
  | none =>
    rw [attemptPush_of_raise (e := .keyError "id") (by rw [fulfillmentId, hf]; rfl)]
    exact commits_recoverFulfillment actor _ k w
  | some id =>
    rw [attemptPush_of_done (a := id) (by rw [fulfillmentId, hf]; rfl), attemptPush_inl, h.id_eq]
    exact Proc.steps_tryCatch (steps_markSynced h fun hempty => hid ⟨id, hf, hempty⟩)
      (commits_recoverFulfillment actor)

/-- Nothing was open: the row becomes `NOT_APPLICABLE` unless the last attempt had failed. -/
theorem steps_notApplicable (h : Pushes w shipmentId s awb order gid)
    (hstatus : s.shopifySyncStatus ≠ .failed) :
    (attemptPush now shipmentId actor (Sum.inl <$> transaction none fun w =>
      w.updateShipment s.id (if s.shopifySyncStatus = .failed
        then markAlreadyFulfilled now else markNotApplicable)) k w).Steps
      (KeepsIdentified shipmentId) w := by
  rw [attemptPush_inl, h.id_eq, if_neg hstatus]
  exact Proc.steps_tryCatch (steps_transaction fun _ _ hwrite =>
    keepsIdentified_updateShipment (f := markNotApplicable) (fun _ h => by cases h) hwrite)
    (commits_recoverFulfillment actor)

end Push

theorem KeepsIdentified.cut {ρ : Type} {p : Staged Oms ρ} {w : Oms}
    (h : p.Steps (KeepsIdentified shipmentId) w) (hw : Identified shipmentId w) (n : ℕ) :
    Identified shipmentId (p.cut w n) :=
  h.cut (fun _ => id) (fun hab hbc hw => hbc (hab hw)) n hw

/-- The first commits of a push only record requests. -/
theorem identified_cut_sent {ρ : Type} {w : Oms} {r r' : ShopifyRequest} {p : Staged Oms ρ}
    (hw : Identified shipmentId w) {n : ℕ} (hn : ¬ 3 ≤ n) :
    Identified shipmentId
      ((Staged.commit (w.withSent r) (.commit ((w.withSent r).withSent r') p)).cut w n) := by
  rcases n with - | - | - | n
  · exact hw
  · exact hw
  · exact hw
  · exact absurd (Nat.le_add_left 3 n) hn

theorem identified_push {w : Oms} {s : Shipment} {awb : String} {order : Order} {gid : String}
    (hw : Identified shipmentId w) (h : Pushes w shipmentId s awb order gid)
    (adapter : ShopifyAdapter) (now : Instant) (actor : Option UUID) (k : RequestSession) (n : ℕ)
    (hn : ¬ WritesNoId adapter s awb order gid (courierNameOf w s.courierId) n) :
    Identified shipmentId ((attemptPush now shipmentId actor
      (pushFulfillment adapter now actor s awb order gid) k w).cut w n) := by
  unfold WritesNoId at hn
  have hsent : ∀ w r, KeepsIdentified shipmentId w (Oms.withSent w r) := keepsIdentified_withSent
  -- what Shopify has for the order decides what is sent, and what it answers what is written
  cases hopen : adapter.getOpenFulfillmentOrderId (orderGid gid) with
  | error e =>
    rw [attemptPush_openFailed hopen]
    exact KeepsIdentified.cut (.commit (hsent _ _) (commits_recoverFulfillment actor e _ _)) hw n
  | ok open? =>
    rw [hopen] at hn
    cases open? with
    | none =>
      rw [attemptPush_nothingOpen hopen]
      unfold pushNothingOpen
      cases hconfirmation : pyOr order.shopifyConfirmationFulfillmentId none with
      | none =>
        rw [hconfirmation] at hn
        -- the second commit writes a failed shipment `SYNCED`, and another not applicable
        by_cases hstatus : s.shopifySyncStatus = .failed
        · rcases n with - | - | n
          · exact hw
          · exact hw
          · exact absurd ⟨Nat.le_add_left 2 n, hstatus⟩ hn
        · exact KeepsIdentified.cut
            (.commit (hsent _ _) (steps_notApplicable (h.withSent _) hstatus)) hw n
      | some confirmationId =>
        rw [hconfirmation] at hn
        dsimp only at hn ⊢
        cases hupdate : adapter.updateFulfillmentTracking confirmationId awb
            (courierNameOf w s.courierId) with
        | error e =>
          rw [attemptPush_send_error]
          exact KeepsIdentified.cut (.commit (hsent _ _) (.commit (hsent _ _)
            (commits_recoverFulfillment actor e _ _))) hw n
        | ok fulfillment =>
          rw [attemptPush_send_ok]
          by_cases hid : EmptyId fulfillment
          · exact identified_cut_sent hw fun hle => hn ⟨hle, fulfillment, hupdate, hid⟩
          · exact KeepsIdentified.cut (.commit (hsent _ _) (.commit (hsent _ _)
              (steps_recordTracking ((h.withSent _).withSent _) hid))) hw n
    | some fulfillmentOrderId =>
      rw [attemptPush_open hopen]
      dsimp only at hn
      cases hcreate : adapter.createFulfillment fulfillmentOrderId awb
          (courierNameOf w s.courierId) with
      | error e =>
        rw [attemptPush_create_error]
        exact KeepsIdentified.cut (.commit (hsent _ _) (.commit (hsent _ _)
          (commits_recoverFulfillment actor e _ _))) hw n
      | ok fulfillment =>
        rw [attemptPush_create_ok]
        by_cases hid : EmptyId fulfillment
        · exact identified_cut_sent hw fun hle => hn ⟨hle, fulfillment, hcreate, hid⟩
        · exact KeepsIdentified.cut (.commit (hsent _ _) (.commit (hsent _ _)
            (steps_recordFulfillment ((h.withSent _).withSent _) hid))) hw n

/-- A call that meets the condition keeps a `SYNCED` row identified, wherever it is cut. -/
theorem identified_step {w : Oms} (e : FulfillmentCall × ℕ) (hw : Identified shipmentId w)
    (he : SyncsWithId shipmentId w e) : Identified shipmentId (pushStep shipmentId w e) := by
  obtain ⟨c, n⟩ := e
  unfold pushStep Staged.interrupt pushCall
  rcases syncFulfillment_cases c.registry c.now shipmentId c.actor c.session w with
    ⟨k', -, hrun⟩ | ⟨s, k', -, -, hrun⟩ | ⟨s, k', -, -, hrun⟩ | ⟨s, awb, order, gid, hpush, hrun⟩
  · rwa [hrun, Staged.cut_done]
  · rwa [hrun, Staged.cut_done]
  · rw [hrun]
    exact KeepsIdentified.cut (steps_transaction fun _ _ hwrite =>
      keepsIdentified_updateShipment (f := markNotApplicable) (fun _ h => by cases h) hwrite) hw n
  · rw [hrun]
    cases hregistry : c.registry with
    | none =>
      rw [getAdapter_run_none, Staged.cut_done]
      exact hw
    | some adapter =>
      rw [getAdapter_run_some]
      exact identified_push hw hpush adapter c.now c.actor _ n
        (he s awb order gid adapter hpush hregistry)

/-! ## Section 3: Runs -/

/-- Over every run of calls for one shipment that meet the condition, each cut anywhere: once
the shipment is `SYNCED`, the rest of the run changes nothing and sends nothing. -/
theorem pushed_once {w : Oms} (hw : Identified shipmentId w) {calls : List (FulfillmentCall × ℕ)}
    (hcalls : Along (pushStep shipmentId) (SyncsWithId shipmentId) w calls) :
    ∀ pre mid post, calls = pre ++ mid ++ post →
      Synced shipmentId (run (pushStep shipmentId) w pre) →
      run (pushStep shipmentId) w (pre ++ mid) = run (pushStep shipmentId) w pre := by
  rintro pre mid post rfl hsynced
  have hpre : Identified shipmentId (run (pushStep shipmentId) w pre) :=
    throughout_of_along (fun _ e => identified_step e) hw hcalls pre
      ((List.prefix_append pre mid).trans (List.prefix_append _ post))
  rw [run_append]
  exact run_of_synced hsynced hpre mid

/-- A Shopify order whose shipment has an AWB and a failed push. -/
def failedPush : Oms where
  db := {
    orders := { orders := Table.ofList [{
      id := 7, orderNumber := "#1007", shopifyOrderId := some "4407" }] (by decide) }
    shipments := Table.ofList [{
      id := 9, orderId := 7, awb := some "AWB1", shopifySyncStatus := .failed }] (by decide) }

/-- A retry during which Shopify answers the two lookups as given. -/
def retry (fulfillmentOrder : Option String) : FulfillmentCall where
  registry := some {
    getOpenFulfillmentOrderId := fun _ => .ok fulfillmentOrder
    createFulfillment := fun _ _ _ => .ok ⟨some (some "F-1")⟩
    updateFulfillmentTracking := fun _ _ _ => .error (.other "TimeoutError")
    addOrderTags := fun _ _ => .ok ()
    removeOrderTags := fun _ _ => .ok ()
    updateOrderShippingAddress := fun _ _ => .ok () }
  now := 50
  actor := some 3
  session := .authenticated (some 3)

/-- Pushed by a retry, the shipment is left alone by the next one. -/
theorem pushed_once_retried :
    run (pushStep 9) failedPush [(retry (some "FO-1"), 3), (retry (some "FO-1"), 3)] =
      run (pushStep 9) failedPush [(retry (some "FO-1"), 3)] := by
  have hidentified : Identified 9 failedPush := fun s hs hstatus => by
    cases hs
    cases hstatus
  have hretry : ∀ w, SyncsWithId 9 w (retry (some "FO-1"), 3) := fun w => by
    rintro s awb order gid adapter - hadapter hwrites
    cases hadapter
    obtain ⟨-, fulfillment, hcreate, id, hid, hempty⟩ := hwrites
    cases hcreate
    cases hid
    exact absurd hempty (by decide)
  have hcalls : Along (pushStep 9) (SyncsWithId 9) failedPush
      [(retry (some "FO-1"), 3), (retry (some "FO-1"), 3)] :=
    ⟨hretry _, hretry _, True.intro⟩
  exact pushed_once hidentified hcalls [(retry (some "FO-1"), 3)] [(retry (some "FO-1"), 3)] []
    rfl ⟨_, rfl, rfl⟩

/-- A retry that finds nothing open writes `SYNCED` without an id, and the next one creates
a fulfillment. -/
theorem retry_creates_again :
    ∃ first second, Synced 9 (pushStep 9 failedPush first) ∧
      (pushStep 9 (pushStep 9 failedPush first) second).db.getShipment 9 ≠
        (pushStep 9 failedPush first).db.getShipment 9 ∧
      (pushStep 9 (pushStep 9 failedPush first) second).sent.filter (·.creates) ≠
        (pushStep 9 failedPush first).sent.filter (·.creates) := by
  refine ⟨(retry none, 2), (retry (some "FO-1"), 3), ⟨_, rfl, rfl⟩, ?_, ?_⟩
  · decide +kernel
  · decide +kernel

end AyushOms.Shopify
