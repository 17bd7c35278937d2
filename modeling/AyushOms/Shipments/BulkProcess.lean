import AyushOms.Shipments.AssignSessions

/-!
# Failures in Bulk Processing

A turn of `bulk_process_existing_shipments`, alone and after other turns. What the location of the
order leaves of the session decides whether the turn returns at all, and an acting user it has
lost is missed by the first later order that gets to the audit record of `assign_awb`.

## Main results

- `processReliance_sound`: what a turn needs and loses
-/

namespace AyushOms.Shipments

open AyushOms.Lib AyushOms.Lib.Proc AyushOms.Orders AyushOms.Tracking AyushOms.Shopify

/-! ## Section 1: What a turn comes to -/

/-- What is known of an order once it has been located. -/
inductive Found where
  | unlocated
  | incomplete (shiprocketOrderId : String)
  | labelled (l : Located) (awb : String)
  | unlabelled (l : Located)

/-- What the store has of the order. -/
def findShipment (st : ShipStore) (order : Order) (resolved : List (UUID × Option String)) :
    Found :=
  match resolvedId resolved order.id with
  | none => .unlocated
  | some id =>
    match locatedShipment st (st.oms.db.shipmentsForOrder order.id) id with
    | none => .incomplete id
    | some (shipment, shipmentId) =>
      match pyOr shipment.awb none with
      | some awb => .labelled ⟨order, id, shipment, shipmentId⟩ awb
      | none => .unlabelled ⟨order, id, shipment, shipmentId⟩

/-- The session after the shipments of the order have been selected. -/
def listedSession (st : ShipStore) (order : Order) (k : RequestSession) : RequestSession :=
  loadShipments (st.oms.db.shipmentsForOrder order.id) k.execute

/-- The lookup of the courier goes through. -/
def CourierFound (entry : ProcessEntry) (courierId : Option UUID) (k : RequestSession) : Prop :=
  ∀ id ∈ courierId, .courier id ∈ k.loaded ∨ entry.courierFault = none

/-- The session after the `except` blocks around `assign_awb`. -/
def recoveredSession : Except PyException Shipment × RequestSession → RequestSession
  | (.ok _, k) => k
  | (.error e, k) => if (expectedCreate e).isSome then k else k.rollback

/-- `assign_awb` leaves the order readable, and nothing fails after it. -/
def AssignmentReturns (actor : Option UUID) (entry : ProcessEntry) (l : Located)
    (k : RequestSession) (w : Oms) : Prop :=
  .order l.order.id ∈
      (recoveredSession (assignAttempt actor entry l.shipment.id k w).result).loaded ∧
    ∀ updated k', (assignAttempt actor entry l.shipment.id k w).result = (.ok updated, k') →
      pyOr updated.awb none ≠ none → CourierFound entry updated.courierId k'

/-- `assign_awb` gets to its audit record. -/
def Audits (actor : Option UUID) (entry : ProcessEntry) (l : Located) (k : RequestSession)
    (w : Oms) : Prop :=
  (∃ written, (awbOwnPart entry.shiprocket l.shipment.id none actor k w).result.1 = .ok written) ∧
    ∀ f ∈ entry.ownFault,
      (awbOwnPart entry.shiprocket l.shipment.id none actor k w).commits ≤ f.commits

/-- Nothing fails outside the `try` block, once the order has been located. -/
def FoundReturns (actor : Option UUID) (entry : ProcessEntry) (k : RequestSession) (w : Oms) :
    Found → Prop
  | .unlocated => True
  | .incomplete _ => entry.shipmentsFault = none
  | .labelled l _ => entry.shipmentsFault = none ∧ CourierFound entry l.shipment.courierId k
  | .unlabelled l => entry.shipmentsFault = none ∧ AssignmentReturns actor entry l k w

/-- The shipments of a located order are read. -/
theorem FoundReturns.shipmentsFault_eq {actor : Option UUID} {entry : ProcessEntry}
    {k : RequestSession} {w : Oms} {found : Found} (h : FoundReturns actor entry k w found)
    (hlocated : found ≠ .unlocated) : entry.shipmentsFault = none := by
  cases found with
  | unlocated => exact absurd rfl hlocated
  | incomplete id => exact h
  | labelled l awb => exact h.1
  | unlabelled l => exact h.1

/-- The order is there, and its location returns. -/
structure Locates (actor : Option UUID) (entry : ProcessEntry) (st : ShipStore) (order : Order)
    (resolved : List (UUID × Option String)) (k' : RequestSession) (st' : ShipStore) : Prop where
  found : st.oms.db.orders.getOrder entry.orderId = some order
  result : (locateShiprocketOrders entry.locate [order.id]
    ((RequestSession.authenticated actor).load (.order order.id)) st).result = (.ok resolved, k')
  final : (locateShiprocketOrders entry.locate [order.id]
    ((RequestSession.authenticated actor).load (.order order.id)) st).final st = st'

/-- A turn returns when nothing fails outside its `try` block and the order is readable where it
is read. It needs the acting user at the audit record of `assign_awb`, and it loses the row in a
scan that is rolled back. -/
def processReliance (actor : Option UUID) : Reliance ProcessEntry ShipStore where
  Returns entry st := entry.lookupFault = none ∧
    ∀ order, st.oms.db.orders.getOrder entry.orderId = some order → ∃ resolved k' st',
      Locates actor entry st order resolved k' st' ∧ .order order.id ∈ k'.loaded ∧
        FoundReturns actor entry (listedSession st' order k') st'.oms
          (findShipment st' order resolved)
  Needs entry st := ∃ order resolved k' st' l, Locates actor entry st order resolved k' st' ∧
    findShipment st' order resolved = .unlabelled l ∧
      Audits actor entry l (listedSession st' order k') st'.oms
  Restores _ _ := False
  Loses entry st := ∃ order resolved k' st', Locates actor entry st order resolved k' st' ∧
    ¬ k'.CanRead actor

/-! ## Section 2: After the location -/

/-- What `process_shipment_for_order` does with the order ids. -/
def afterLocate (actor : Option UUID) (entry : ProcessEntry) (order : Order)
    (resolved : List (UUID × Option String)) : ShipProc BulkEntry := do
  readOrder order.id
  match resolvedId resolved order.id with
  | none =>
    return report order "failed" none none
      (some "Existing Shiprocket order could not be located for this order.")
  | some shiprocketOrderId => processResolved actor entry order shiprocketOrderId

/-- What `process_shipment_for_order` does once the shipments have been selected. -/
def followUp (actor : Option UUID) (entry : ProcessEntry) (order : Order) :
    Found → ShipProc BulkEntry
  | .unlocated => pure (report order "failed" none none
      (some "Existing Shiprocket order could not be located for this order."))
  | .incomplete shiprocketOrderId => pure (report order "failed" none (some shiprocketOrderId)
      (some "Located Shiprocket order has no shipment id on file."))
  | .labelled l awb => do
    let courierName ← courierNameFor entry.courierFault l.shipment.courierId
    return { report l.order "skipped" (some l.shiprocketShipmentId) (some l.shiprocketOrderId)
        (some "AWB already assigned.") with
      awb := some awb
      courierName := courierName }
  | .unlabelled l => assignLocated actor entry l

section After

variable {actor : Option UUID} {entry : ProcessEntry} {order : Order}
  {resolved : List (UUID × Option String)} {k : RequestSession} {st : ShipStore}

theorem readOrder_run {orderId : UUID} (h : .order orderId ∈ k.loaded) :
    readOrder orderId k st = .done (.ok PUnit.unit, k) := by
  rw [readOrder, memory_run, if_pos h]

theorem readOrder_run_lost {orderId : UUID} (h : .order orderId ∉ k.loaded) :
    readOrder orderId k st = .done (.error .missingGreenlet, k) := by
  rw [readOrder, memory_run, if_neg h]

theorem listForOrder_run_none (orderId : UUID) : listForOrder none orderId k st =
    .done (.ok (st.oms.db.shipmentsForOrder orderId),
      loadShipments (st.oms.db.shipmentsForOrder orderId) k.execute) := rfl

theorem listForOrder_run_some (e : PyException) (orderId : UUID) :
    listForOrder (some e) orderId k st = .done (.error e, k.execute) := rfl

theorem afterLocate_run_lost (h : .order order.id ∉ k.loaded) :
    afterLocate actor entry order resolved k st = .done (.error .missingGreenlet, k) := by
  rw [afterLocate, bind_run, readOrder_run_lost h]
  rfl

theorem afterLocate_run_unlocated (h : .order order.id ∈ k.loaded)
    (hfound : findShipment st order resolved = .unlocated) :
    afterLocate actor entry order resolved k st =
      followUp actor entry order (findShipment st order resolved) k st := by
  rw [hfound, afterLocate, bind_run, readOrder_run h, Staged.andThen_done, resume_ok]
  cases hid : resolvedId resolved order.id with
  | none => rfl
  | some id =>
    unfold findShipment at hfound
    simp only [hid] at hfound
    split at hfound
    · cases hfound
    · split at hfound <;> cases hfound

theorem afterLocate_run_failed (h : .order order.id ∈ k.loaded)
    (hfound : findShipment st order resolved ≠ .unlocated) {e : PyException}
    (hfault : entry.shipmentsFault = some e) :
    afterLocate actor entry order resolved k st = .done (.error e, k.execute) := by
  rw [afterLocate, bind_run, readOrder_run h, Staged.andThen_done, resume_ok]
  cases hid : resolvedId resolved order.id with
  | none =>
    unfold findShipment at hfound
    simp only [hid] at hfound
    exact absurd rfl hfound
  | some id =>
    dsimp only
    rw [processResolved, hfault, bind_run, listForOrder_run_some]
    rfl

theorem afterLocate_run_found (h : .order order.id ∈ k.loaded)
    (hfound : findShipment st order resolved ≠ .unlocated) (hfault : entry.shipmentsFault = none) :
    afterLocate actor entry order resolved k st = followUp actor entry order
      (findShipment st order resolved) (listedSession st order k) st := by
  rw [afterLocate, bind_run, readOrder_run h, Staged.andThen_done, resume_ok]
  unfold findShipment at hfound ⊢
  cases hid : resolvedId resolved order.id with
  | none =>
    simp only [hid] at hfound
    exact absurd rfl hfound
  | some id =>
    dsimp only
    rw [processResolved, hfault, bind_run, listForOrder_run_none, Staged.andThen_done, resume_ok,
      bind_run, store_run, Staged.andThen_done, resume_ok]
    cases locatedShipment st (st.oms.db.shipmentsForOrder order.id) id with
    | none => rfl
    | some located =>
      obtain ⟨shipment, shipmentId⟩ := located
      dsimp only
      cases pyOr shipment.awb none with
      | none => rfl
      | some awb => rfl

/-- The row of a courier is selected, or loaded before. -/
theorem courierNameFor_run_ok (st : ShipStore) {courierId : Option UUID}
    (h : CourierFound entry courierId k) :
    ∃ k', courierNameFor entry.courierFault courierId k st =
        .done (.ok (courierNameOf st.oms courierId), k') ∧
      ∀ user, k'.CanRead user ↔ k.CanRead user := by
  cases courierId with
  | none => exact ⟨k, rfl, fun _ => Iff.rfl⟩
  | some id =>
    rw [courierNameFor, bind_run, selectById, bind_run, store_run, Staged.andThen_done, resume_ok,
      memory_run]
    by_cases hloaded : .courier id ∈ k.loaded
    · rw [if_pos hloaded]
      exact ⟨k, rfl, fun _ => Iff.rfl⟩
    · rw [if_neg hloaded, (h id rfl).resolve_left hloaded]
      exact ⟨_, rfl, fun _ => RequestSession.canRead_get_iff (by simp) _⟩

theorem courierNameFor_run_error (st : ShipStore) {courierId : Option UUID}
    (h : ¬ CourierFound entry courierId k) :
    ∃ e, courierNameFor entry.courierFault courierId k st = .done (.error e, k.execute) := by
  cases courierId with
  | none => exact absurd (fun id hid => by cases hid) h
  | some id =>
    have hmissing : .courier id ∉ k.loaded ∧ entry.courierFault ≠ none := by
      rw [← not_or]
      exact fun hfound => h fun id' hid => by
        cases hid
        exact hfound
    obtain ⟨e, he⟩ := Option.ne_none_iff_exists'.mp hmissing.2
    refine ⟨e, ?_⟩
    rw [courierNameFor, bind_run, selectById, bind_run, store_run, Staged.andThen_done, resume_ok,
      memory_run, if_neg hmissing.1, he]
    rfl

end After

/-! ## Section 3: The assignment -/

/-- What is reported of an order whose `try` block was entered. -/
def assignedEntry (l : Located) (w : Oms) : Except PyException Shipment → BulkEntry
  | .ok updated =>
    match pyOr updated.awb none with
    | none => report l.order "failed" updated.shiprocketShipmentId (some l.shiprocketOrderId)
        (some "Shiprocket did not return an AWB for this shipment.")
    | some awb =>
      { report l.order "success" updated.shiprocketShipmentId (some l.shiprocketOrderId) none with
        awb := some awb
        courierName := courierNameOf w updated.courierId }
  | .error e =>
    l.failed ((expectedCreate e).getD "Could not process shipment for this order.")

section Assign

variable {actor : Option UUID} {entry : ProcessEntry} {l : Located} {k k' : RequestSession}
  {st : ShipStore}

/-- Both `except` blocks read the order, the second after a rollback. -/
theorem recoverProcess_run (e : PyException) : recoverProcess l e k st =
    (do readOrder l.order.id
        return assignedEntry l st.oms (.error e)) (recoveredSession (.error e, k)) st := by
  simp only [recoverProcess, recoveredSession, assignedEntry]
  cases expectedCreate e with
  | none => rfl
  | some message => rfl

theorem recoverProcess_run_ok {e : PyException}
    (h : .order l.order.id ∈ (recoveredSession (.error e, k)).loaded) : recoverProcess l e k st =
      .done (.ok (assignedEntry l st.oms (.error e)), recoveredSession (.error e, k)) := by
  rw [recoverProcess_run, bind_run, readOrder_run h]
  rfl

theorem recoverProcess_run_lost {e : PyException}
    (h : .order l.order.id ∉ (recoveredSession (.error e, k)).loaded) : recoverProcess l e k st =
      .done (.error .missingGreenlet, recoveredSession (.error e, k)) := by
  rw [recoverProcess_run, bind_run, readOrder_run_lost h]
  rfl

theorem finishProcess_run_lost (updated : Shipment) (h : .order l.order.id ∉ k.loaded) :
    finishProcess entry l updated k st = .done (.error .missingGreenlet, k) := by
  rw [finishProcess, bind_run, readOrder_run_lost h]
  rfl

theorem finishProcess_run_ok (st : ShipStore) {updated : Shipment}
    (h : .order l.order.id ∈ k.loaded)
    (hcourier : pyOr updated.awb none ≠ none → CourierFound entry updated.courierId k) :
    ∃ k', finishProcess entry l updated k st =
        .done (.ok (assignedEntry l st.oms (.ok updated)), k') ∧
      ∀ user, k'.CanRead user ↔ k.CanRead user := by
  rw [finishProcess, bind_run, readOrder_run h, Staged.andThen_done, resume_ok]
  simp only [assignedEntry]
  cases hawb : pyOr updated.awb none with
  | none => exact ⟨k, rfl, fun _ => Iff.rfl⟩
  | some awb =>
    obtain ⟨k', hrun, hread⟩ := courierNameFor_run_ok st
      (hcourier (by rw [hawb]; exact Option.some_ne_none awb))
    dsimp only
    rw [bind_run, hrun]
    exact ⟨k', rfl, hread⟩

theorem finishProcess_run_error (st : ShipStore) {updated : Shipment}
    (h : .order l.order.id ∈ k.loaded)
    (hawb : pyOr updated.awb none ≠ none) (hcourier : ¬ CourierFound entry updated.courierId k) :
    ∃ e k', finishProcess entry l updated k st = .done (.error e, k') := by
  rw [finishProcess, bind_run, readOrder_run h, Staged.andThen_done, resume_ok]
  obtain ⟨awb, hawb⟩ := Option.ne_none_iff_exists'.mp hawb
  obtain ⟨e, hrun⟩ := courierNameFor_run_error st hcourier
  rw [hawb]
  dsimp only
  rw [bind_run, hrun]
  exact ⟨e, _, rfl⟩

/-- What follows `assign_awb` commits nothing, and tells how the turn ends. -/
theorem assignLocated_ends (actor : Option UUID) (entry : ProcessEntry) (l : Located)
    (k : RequestSession) (st : ShipStore) :
    ∃ r : ShipStore → Except PyException BulkEntry × RequestSession,
    (∀ s, resume (finishProcess entry l) (recoverProcess l) s
      (assignAttempt actor entry l.shipment.id k st.oms).result = .done (r s)) ∧
    (AssignmentReturns actor entry l k st.oms → ∀ s : ShipStore, (r s).1 =
        .ok (assignedEntry l s.oms (assignAttempt actor entry l.shipment.id k st.oms).result.1) ∧
      ∀ user, (r s).2.CanRead user ↔ (recoveredSession
        (assignAttempt actor entry l.shipment.id k st.oms).result).CanRead user) ∧
    (¬ AssignmentReturns actor entry l k st.oms → ∀ s, ∃ e, (r s).1 = .error e) := by
  unfold AssignmentReturns
  generalize (assignAttempt actor entry l.shipment.id k st.oms).result = attempt
  obtain ⟨e | updated, k'⟩ := attempt
  · by_cases h : .order l.order.id ∈ (recoveredSession (.error e, k')).loaded
    · refine ⟨_, fun s => recoverProcess_run_ok h, fun _ s => ⟨rfl, fun _ => Iff.rfl⟩,
        fun hnot => ?_⟩
      exact absurd ⟨h, fun updated k'' heq => by cases heq⟩ hnot
    · exact ⟨_, fun s => recoverProcess_run_lost h, fun hyes => absurd hyes.1 h,
        fun _ s => ⟨_, rfl⟩⟩
  · by_cases h : .order l.order.id ∈ k'.loaded
    · by_cases hcourier : pyOr updated.awb none ≠ none → CourierFound entry updated.courierId k'
      · choose r hrun using fun s : ShipStore => finishProcess_run_ok s h hcourier
        refine ⟨fun s => (_, r s), fun s => (hrun s).1, fun _ s => ⟨rfl, (hrun s).2⟩,
          fun hnot => ?_⟩
        exact absurd ⟨h, fun updated' k'' heq => by cases heq; exact hcourier⟩ hnot
      · obtain ⟨hawb, hmissing⟩ := Classical.not_imp.mp hcourier
        choose e r hrun using fun s : ShipStore => finishProcess_run_error s h hawb hmissing
        refine ⟨fun s => (_, r s), hrun, fun hyes => ?_, fun _ s => ⟨_, rfl⟩⟩
        exact absurd (hyes.2 updated k' rfl) hcourier
    · exact ⟨_, fun s => finishProcess_run_lost updated h, fun hyes => absurd hyes.1 h,
        fun _ s => ⟨_, rfl⟩⟩

theorem states_assignLocated : (assignLocated actor entry l k st).states =
    (assignAttempt actor entry l.shipment.id k st.oms).states.map
      fun w => { st with oms := w } := by
  obtain ⟨r, hrun, -⟩ := assignLocated_ends actor entry l k st
  rw [assignLocated, Proc.thenElse, Staged.states_andThen, onOms, Staged.result_lift, hrun,
    Staged.states_lift]
  exact List.append_nil _

theorem result_assignLocated_of_returns (h : AssignmentReturns actor entry l k st.oms) :
    (assignLocated actor entry l k st).result.1 =
        .ok (assignedEntry l ((assignAttempt actor entry l.shipment.id k st.oms).final st.oms)
          (assignAttempt actor entry l.shipment.id k st.oms).result.1) ∧
      ∀ user, (assignLocated actor entry l k st).result.2.CanRead user ↔ (recoveredSession
        (assignAttempt actor entry l.shipment.id k st.oms).result).CanRead user := by
  obtain ⟨r, hrun, hreturns, -⟩ := assignLocated_ends actor entry l k st
  have hfinal : ((onOms (assignAttempt actor entry l.shipment.id) k st).final st).oms =
      (assignAttempt actor entry l.shipment.id k st.oms).final st.oms :=
    congrArg ShipStore.oms (Staged.final_lift (fun w => { st with oms := w }) _ st.oms)
  rw [← hfinal, assignLocated, Proc.thenElse, Staged.result_andThen]
  rw [show (onOms (assignAttempt actor entry l.shipment.id) k st).result =
    (assignAttempt actor entry l.shipment.id k st.oms).result from Staged.result_lift _ _, hrun]
  exact hreturns h _

theorem result_assignLocated_of_not_returns (h : ¬ AssignmentReturns actor entry l k st.oms) :
    ∃ e, (assignLocated actor entry l k st).result.1 = .error e := by
  obtain ⟨r, hrun, -, hraises⟩ := assignLocated_ends actor entry l k st
  rw [assignLocated, Proc.thenElse, Staged.result_andThen]
  rw [show (onOms (assignAttempt actor entry l.shipment.id) k st).result =
    (assignAttempt actor entry l.shipment.id k st.oms).result from Staged.result_lift _ _, hrun]
  exact hraises h _

/-- Attempts with the same outcome make turns with the same outcome. -/
theorem sameOutcome_assignLocated (h : AssignmentReturns actor entry l k st.oms)
    (h' : AssignmentReturns actor entry l k' st.oms)
    (hsame : SameOutcome (assignAttempt actor entry l.shipment.id k st.oms)
      (assignAttempt actor entry l.shipment.id k' st.oms)) :
    SameOutcome (assignLocated actor entry l k st) (assignLocated actor entry l k' st) where
  states_eq := by rw [states_assignLocated, states_assignLocated, hsame.states_eq]
  result_eq := by
    rw [(result_assignLocated_of_returns h).1, (result_assignLocated_of_returns h').1,
      hsame.result_eq, hsame.final_eq]

theorem states_assignAttempt_of_same
    (h : SameOutcome (assignLocated actor entry l k st) (assignLocated actor entry l k' st)) :
    (assignAttempt actor entry l.shipment.id k st.oms).states =
      (assignAttempt actor entry l.shipment.id k' st.oms).states := by
  have hstates := h.states_eq
  rw [states_assignLocated, states_assignLocated] at hstates
  exact List.map_injective_iff.mpr (fun w w' heq => congrArg ShipStore.oms heq) hstates

end Assign

/-! ## Section 4: An assignment after other turns -/

section Sessions

variable {actor : Option UUID} {entry : ProcessEntry} {l : Located} {k k' : RequestSession}
  {w : Oms} {held : Prop}

/-- A failed statement of the push costs the session the order. -/
theorem pushFault_of_returns {f : Unexpected} (hfault : entry.pushFault = some f)
    (h : AssignmentReturns actor entry l k w) {written : Shipment × Bool} {k₁ : RequestSession}
    (hown : (ownAttempt actor entry l.shipment.id k w).result = (.ok written, k₁)) :
    written.2 = false := by
  by_contra hawb
  have hloaded := h.1
  rw [assignAttempt, (bind_of_ok hown).1, pushAttempt, if_pos (by simpa using hawb), hfault,
    Option.map_some, faulty_some, Staged.result_failAt] at hloaded
  have hunexpected : expectedCreate (Unexpected.ofStatement f).error = none :=
    expectedCreate_unexpected f
  simp only [recoveredSession, hunexpected, Option.isSome_none, Bool.false_eq_true,
    if_false] at hloaded
  rw [RequestSession.rollback_of_inTransaction (by simp [Fault.session, Unexpected.ofStatement])]
    at hloaded
  exact List.not_mem_nil hloaded

theorem assignAttempt_of_unlabelled (h : ∀ written k₁,
      (ownAttempt actor entry l.shipment.id k w).result = (.ok written, k₁) → written.2 = false) :
    assignAttempt actor entry l.shipment.id k w =
      assignAttempt actor { entry with pushFault := none } l.shipment.id k w := by
  refine Staged.andThen_congr ?_
  cases hown : (ownAttempt actor entry l.shipment.id k w).result with
  | mk r k₁ =>
    cases r with
    | error e => rfl
    | ok written =>
      have hawb := h written k₁ hown
      simp only [resume_ok, pushAttempt, hawb, Bool.false_eq_true, if_false]

theorem loaded_recoveredSession (r : Except PyException Shipment × RequestSession) :
    ∀ e ∈ (recoveredSession r).loaded, e ∈ r.2.loaded := by
  obtain ⟨error | s, k⟩ := r
  · intro e he
    rw [recoveredSession] at he
    split at he
    · exact he
    · exact RequestSession.loaded_rollback_subset e he
  · exact fun _ => id

/-- From a session that has loaded more, the attempt ends like one from the fresh session that
leaves the order readable. -/
theorem assignAttempt_wider (h : Wider l.order.id actor held k k')
    (hreturns : AssignmentReturns actor entry l k' w) :
    SameOutcome (assignAttempt actor entry l.shipment.id k w)
        (assignAttempt actor entry l.shipment.id k' w) ∧
      Wider l.order.id actor held (assignAttempt actor entry l.shipment.id k w).result.2
        (assignAttempt actor entry l.shipment.id k' w).result.2 := by
  have hkept : ¬ OrderLost l.order.id (assignAttempt actor entry l.shipment.id k' w).result.2 :=
    not_not_intro (loaded_recoveredSession _ _ hreturns.1)
  cases hfault : entry.pushFault with
  | none => exact (respectsUnless_assignAttempt hfault k k' w h).resolve_right hkept
  | some f =>
    have hown : (ownAttempt actor entry l.shipment.id).Respects (Wider l.order.id actor held) :=
      respects_faulty _ (fun _ _ h f n => h.session f n) (respects_awbOwnPart _)
    have hunlabelled' : ∀ written k₁,
        (ownAttempt actor entry l.shipment.id k' w).result = (.ok written, k₁) →
          written.2 = false := fun _ _ => pushFault_of_returns hfault hreturns
    have hunlabelled : ∀ written k₁,
        (ownAttempt actor entry l.shipment.id k w).result = (.ok written, k₁) →
          written.2 = false := by
      intro written k₁ hresult
      have hsame : (ownAttempt actor entry l.shipment.id k w).result.1 =
          (ownAttempt actor entry l.shipment.id k' w).result.1 := (hown.sameOutcome h w).result_eq
      rw [hresult] at hsame
      refine hunlabelled' written (ownAttempt actor entry l.shipment.id k' w).result.2 ?_
      exact Prod.ext hsame.symm rfl
    rw [assignAttempt_of_unlabelled hunlabelled'] at hkept ⊢
    rw [assignAttempt_of_unlabelled hunlabelled]
    have hnone : ({ entry with pushFault := none } : ProcessEntry).pushFault = none := rfl
    exact (respectsUnless_assignAttempt hnone k k' w h).resolve_right hkept

theorem recoveredSession_wider {a : Except PyException Shipment}
    (h : Wider l.order.id actor held k k')
    (hloaded : .order l.order.id ∈ (recoveredSession (a, k')).loaded) :
    recoveredSession (a, k) = k := by
  cases a with
  | ok s => rfl
  | error e =>
    simp only [recoveredSession] at hloaded ⊢
    split
    · rfl
    · rename_i hunexpected
      rw [if_neg hunexpected] at hloaded
      refine RequestSession.rollback_of_not_inTransaction ?_
      by_contra htx
      have htx' := h.inTransaction (by simpa using htx)
      rw [RequestSession.rollback_of_inTransaction htx'] at hloaded
      exact List.not_mem_nil hloaded

/-- So the turn returns there too, and neither loses nor finds the acting user. -/
theorem assignmentReturns_wider (h : Wider l.order.id actor held k k')
    (hreturns : AssignmentReturns actor entry l k' w) :
    AssignmentReturns actor entry l k w ∧
      ((recoveredSession (assignAttempt actor entry l.shipment.id k w).result).CanRead actor ↔
        held) := by
  obtain ⟨⟨-, hresult⟩, hwider⟩ := assignAttempt_wider h hreturns
  obtain ⟨hloaded, hcourier⟩ := hreturns
  unfold AssignmentReturns
  revert hresult hwider hloaded hcourier
  generalize (assignAttempt actor entry l.shipment.id k w).result = r
  generalize (assignAttempt actor entry l.shipment.id k' w).result = r'
  obtain ⟨a, k₁⟩ := r
  obtain ⟨a', k₁'⟩ := r'
  rintro hwider rfl hloaded hcourier
  rw [recoveredSession_wider hwider hloaded]
  refine ⟨⟨hwider.loaded_sub _ hwider.order_loaded, ?_⟩, hwider.reads⟩
  intro updated k₂ heq hawb id hid
  cases heq
  exact (hcourier updated k₁' rfl hawb id hid).imp_left (hwider.loaded_sub _)

/-- An attempt whose first half raises ends there. -/
theorem assignAttempt_of_error {e : PyException} {k₁ : RequestSession}
    (h : (ownAttempt actor entry l.shipment.id k w).result = (.error e, k₁)) :
    (assignAttempt actor entry l.shipment.id k w).result = (.error e, k₁) ∧
      (assignAttempt actor entry l.shipment.id k w).states =
        (ownAttempt actor entry l.shipment.id k w).states := by
  rw [assignAttempt, bind_run, Staged.result_andThen, Staged.states_andThen, h]
  exact ⟨rfl, List.append_nil _⟩

theorem ownAttempt_of_none (h : entry.ownFault = none) :
    ownAttempt actor entry l.shipment.id =
      awbOwnPart entry.shiprocket l.shipment.id none actor := by
  rw [ownAttempt, h]
  rfl

theorem ownAttempt_struck {f : Unexpected} (h : entry.ownFault = some f) :
    (ownAttempt actor entry l.shipment.id k w).result = (.error f.error, f.session
        (awbOwnPart entry.shiprocket l.shipment.id none actor k w).commits k) ∧
      (ownAttempt actor entry l.shipment.id k w).states =
        (awbOwnPart entry.shiprocket l.shipment.id none actor k w).states.take f.commits := by
  rw [ownAttempt, h, Option.map_some, faulty_some, Staged.result_failAt, Staged.states_failAt]
  exact ⟨rfl, rfl⟩

variable {R : RequestSession → RequestSession → Prop}

/-- Halves that end alike with an exception make attempts that do. -/
theorem assignAttempt_alike {e : PyException}
    (hsame : SameOutcome (ownAttempt actor entry l.shipment.id k w)
      (ownAttempt actor entry l.shipment.id k' w))
    (hR : R (ownAttempt actor entry l.shipment.id k w).result.2
      (ownAttempt actor entry l.shipment.id k' w).result.2)
    (he : (ownAttempt actor entry l.shipment.id k' w).result.1 = .error e) :
    (∃ e, (assignAttempt actor entry l.shipment.id k' w).result.1 = .error e) ∧
      SameOutcome (assignAttempt actor entry l.shipment.id k w)
        (assignAttempt actor entry l.shipment.id k' w) ∧
      R (assignAttempt actor entry l.shipment.id k w).result.2
        (assignAttempt actor entry l.shipment.id k' w).result.2 := by
  have hown : (ownAttempt actor entry l.shipment.id k w).result =
      (.error e, (ownAttempt actor entry l.shipment.id k w).result.2) :=
    Prod.ext (hsame.result_eq.trans he) rfl
  have hown' : (ownAttempt actor entry l.shipment.id k' w).result =
      (.error e, (ownAttempt actor entry l.shipment.id k' w).result.2) := Prod.ext he rfl
  obtain ⟨hresult, hstates⟩ := assignAttempt_of_error hown
  obtain ⟨hresult', hstates'⟩ := assignAttempt_of_error hown'
  rw [hresult, hresult']
  exact ⟨⟨e, rfl⟩, ⟨by rw [hstates, hstates', hsame.states_eq], by rw [hresult, hresult']⟩, hR⟩

/-- So do parts that end alike with an exception, whatever else strikes. -/
theorem assignAttempt_alike_of_raised {e : PyException}
    (hsession : ∀ k k', R k k' → ∀ f n, R (Fault.session f n k) (Fault.session f n k'))
    (h : R k k')
    (he : (awbOwnPart entry.shiprocket l.shipment.id none actor k' w).result.1 = .error e)
    (hsame : SameOutcome (awbOwnPart entry.shiprocket l.shipment.id none actor k w)
      (awbOwnPart entry.shiprocket l.shipment.id none actor k' w))
    (hagree : R (awbOwnPart entry.shiprocket l.shipment.id none actor k w).result.2
      (awbOwnPart entry.shiprocket l.shipment.id none actor k' w).result.2) :
    (∃ e, (assignAttempt actor entry l.shipment.id k' w).result.1 = .error e) ∧
      SameOutcome (assignAttempt actor entry l.shipment.id k w)
        (assignAttempt actor entry l.shipment.id k' w) ∧
      R (assignAttempt actor entry l.shipment.id k w).result.2
        (assignAttempt actor entry l.shipment.id k' w).result.2 := by
  cases hfault : entry.ownFault with
  | none =>
    rw [← ownAttempt_of_none hfault] at he hsame hagree
    exact assignAttempt_alike hsame hagree he
  | some f =>
    refine assignAttempt_alike (sameOutcome_faulty _ hsame) ?_
      (congrArg Prod.fst (ownAttempt_struck hfault).1)
    rw [(ownAttempt_struck hfault).1, (ownAttempt_struck hfault).1, ← Staged.length_states,
      ← Staged.length_states, hsame.states_eq]
    exact hsession _ _ h _ _

/-- And parts of which one commits once more, when a failure strikes before that commit. -/
theorem assignAttempt_alike_of_early {f : Unexpected} {w₁ : Oms} (hfault : entry.ownFault = some f)
    (hsession : ∀ k k', R k k' → ∀ f n, R (Fault.session f n k) (Fault.session f n k'))
    (h : R k k') (hstates : (awbOwnPart entry.shiprocket l.shipment.id none actor k' w).states =
      (awbOwnPart entry.shiprocket l.shipment.id none actor k w).states ++ [w₁])
    (hearly : f.commits < (awbOwnPart entry.shiprocket l.shipment.id none actor k' w).commits) :
    (∃ e, (assignAttempt actor entry l.shipment.id k' w).result.1 = .error e) ∧
      SameOutcome (assignAttempt actor entry l.shipment.id k w)
        (assignAttempt actor entry l.shipment.id k' w) ∧
      R (assignAttempt actor entry l.shipment.id k w).result.2
        (assignAttempt actor entry l.shipment.id k' w).result.2 := by
  have hcommits : (awbOwnPart entry.shiprocket l.shipment.id none actor k' w).commits =
      (awbOwnPart entry.shiprocket l.shipment.id none actor k w).commits + 1 := by
    rw [← Staged.length_states, hstates, List.length_append, Staged.length_states]
    rfl
  refine assignAttempt_alike ⟨?_, ?_⟩ ?_ (congrArg Prod.fst (ownAttempt_struck hfault).1)
  · rw [(ownAttempt_struck hfault).2, (ownAttempt_struck hfault).2, hstates,
      List.take_append_of_le_length (by rw [Staged.length_states]; omega)]
  · rw [(ownAttempt_struck hfault).1, (ownAttempt_struck hfault).1]
  · rw [(ownAttempt_struck hfault).1, (ownAttempt_struck hfault).1, hcommits]
    -- the session of a failure counts the commits only up to its own
    have hsession' : ∀ n, f.commits ≤ n → f.session (n + 1) k' = f.session n k' := by
      intro n hn
      rw [Fault.session, Fault.session, min_eq_left hn, min_eq_left (Nat.le_succ_of_le hn)]
    rw [hsession' _ (by omega)]
    exact hsession _ _ h _ _

/-- The attempt of a turn whose acting user is expired: as in the fresh session when it does not
get to the audit record; and else it raises in a transaction, or has committed less. -/
theorem assignAttempt_expired (entry : ProcessEntry) (w : Oms)
    (hR : Tolerant l.shipment.id R)
    (hsession : ∀ k k', R k k' → ∀ f n, R (Fault.session f n k) (Fault.session f n k'))
    (hexpired : ∀ k k', R k k' → ¬ k.CanRead actor) (h : R k k') :
    (¬ Audits actor entry l k' w ∧
      (∃ e, (assignAttempt actor entry l.shipment.id k' w).result.1 = .error e) ∧
      SameOutcome (assignAttempt actor entry l.shipment.id k w)
        (assignAttempt actor entry l.shipment.id k' w) ∧
      R (assignAttempt actor entry l.shipment.id k w).result.2
        (assignAttempt actor entry l.shipment.id k' w).result.2) ∨
    Audits actor entry l k' w ∧
      ((∃ k₁, (assignAttempt actor entry l.shipment.id k w).result =
          (.error .missingGreenlet, k₁) ∧ k₁.inTransaction = true) ∨
        (assignAttempt actor entry l.shipment.id k w).states ≠
          (assignAttempt actor entry l.shipment.id k' w).states) := by
  rcases awbOwnPart_expired entry.shiprocket w hR hexpired h with
    ⟨e, he, hsame, hagree⟩ | ⟨written, w₁, hok, hstates, hraised, htx⟩
  · refine .inl ⟨?_, assignAttempt_alike_of_raised hsession h he hsame hagree⟩
    rintro ⟨⟨written, hok⟩, -⟩
    rw [he] at hok
    cases hok
  · -- the first session is one commit behind, so it matters whether a failure strikes before it
    have hcommits : (awbOwnPart entry.shiprocket l.shipment.id none actor k' w).commits =
        (awbOwnPart entry.shiprocket l.shipment.id none actor k w).commits + 1 := by
      rw [← Staged.length_states, hstates, List.length_append, Staged.length_states]
      rfl
    cases hfault : entry.ownFault with
    | none =>
      have haudits : Audits actor entry l k' w := ⟨⟨written, hok⟩, by simp [hfault]⟩
      refine .inr ⟨haudits, .inl ⟨_, (assignAttempt_of_error (e := .missingGreenlet) ?_).1, htx⟩⟩
      rw [ownAttempt_of_none hfault]
      exact Prod.ext hraised rfl
    | some f =>
      by_cases hlate : (awbOwnPart entry.shiprocket l.shipment.id none actor k' w).commits ≤
          f.commits
      · have haudits : Audits actor entry l k' w := ⟨⟨written, hok⟩, by simpa [hfault] using hlate⟩
        refine .inr ⟨haudits, .inr ?_⟩
        rw [(assignAttempt_of_error (ownAttempt_struck hfault).1).2,
          (assignAttempt_of_error (ownAttempt_struck hfault).1).2, (ownAttempt_struck hfault).2,
          (ownAttempt_struck hfault).2,
          List.take_of_length_le (by rw [Staged.length_states]; omega),
          List.take_of_length_le (by rw [Staged.length_states]; omega), hstates]
        simp
      · have hnot : ¬ Audits actor entry l k' w :=
          fun haudits => hlate (haudits.2 f (by rw [hfault]; rfl))
        exact .inl ⟨hnot, assignAttempt_alike_of_early hfault hsession h hstates
          (not_le.mp hlate)⟩

end Sessions

/-! ## Section 5: After the location -/

section AfterLocate

variable {actor : Option UUID} {entry : ProcessEntry} {order : Order}
  {resolved : List (UUID × Option String)} {k k' : RequestSession} {st : ShipStore} {held : Prop}

/-- A located shipment is one of the order's. -/
theorem findShipment_eq_unlabelled {l : Located}
    (h : findShipment st order resolved = .unlabelled l) :
    l.order = order ∧ l.shipment ∈ st.oms.db.shipmentsForOrder order.id := by
  unfold findShipment at h
  split at h
  · cases h
  · split at h
    · cases h
    · rename_i shipment shipmentId hlocated
      split at h
      · cases h
      · cases h
        obtain ⟨s, hfind, hid⟩ := Option.bind_eq_some_iff.mp hlocated
        obtain ⟨id, -, heq⟩ := Option.map_eq_some_iff.mp hid
        cases heq
        exact ⟨rfl, List.mem_of_find?_eq_some hfind⟩

theorem result_followUp_labelled (actor : Option UUID) (order : Order) (st : ShipStore)
    {l : Located} (awb : String) (h : CourierFound entry l.shipment.courierId k) :
    ∃ k', followUp actor entry order (.labelled l awb) k st = .done (.ok
        { report l.order "skipped" (some l.shiprocketShipmentId) (some l.shiprocketOrderId)
            (some "AWB already assigned.") with
          awb := some awb
          courierName := courierNameOf st.oms l.shipment.courierId }, k') ∧
      ∀ user, k'.CanRead user ↔ k.CanRead user := by
  obtain ⟨k', hrun, hread⟩ := courierNameFor_run_ok st h
  refine ⟨k', ?_, hread⟩
  rw [followUp, bind_run, hrun]
  rfl

/-- Whether what follows the location returns. -/
theorem afterLocate_returns_iff :
    (∃ r, (afterLocate actor entry order resolved k st).result.1 = .ok r) ↔
      .order order.id ∈ k.loaded ∧ FoundReturns actor entry (listedSession st order k) st.oms
        (findShipment st order resolved) := by
  by_cases hloaded : .order order.id ∈ k.loaded
  · rw [and_iff_right hloaded]
    by_cases hunlocated : findShipment st order resolved = .unlocated
    · rw [afterLocate_run_unlocated hloaded hunlocated, hunlocated]
      exact iff_of_true ⟨_, rfl⟩ True.intro
    · cases hfault : entry.shipmentsFault with
      | some e =>
        rw [afterLocate_run_failed hloaded hunlocated hfault]
        refine iff_of_false (fun ⟨r, hr⟩ => by cases hr) fun h => ?_
        have hnone := h.shipmentsFault_eq hunlocated
        rw [hfault] at hnone
        cases hnone
      | none =>
        rw [afterLocate_run_found hloaded hunlocated hfault]
        cases hfound : findShipment st order resolved with
        | unlocated => exact absurd hfound hunlocated
        | incomplete id => exact iff_of_true ⟨_, rfl⟩ hfault
        | labelled l awb =>
          rw [FoundReturns, hfault, and_iff_right rfl]
          by_cases hcourier : CourierFound entry l.shipment.courierId (listedSession st order k)
          · obtain ⟨k', hrun, -⟩ := result_followUp_labelled actor order st awb hcourier
            exact iff_of_true ⟨_, by rw [hrun]; rfl⟩ hcourier
          · obtain ⟨e, hrun⟩ := courierNameFor_run_error st hcourier
            refine iff_of_false (fun ⟨r, hr⟩ => ?_) hcourier
            rw [followUp, bind_run, hrun] at hr
            cases hr
        | unlabelled l =>
          rw [FoundReturns, hfault, and_iff_right rfl]
          by_cases hassign : AssignmentReturns actor entry l (listedSession st order k) st.oms
          · exact iff_of_true ⟨_, (result_assignLocated_of_returns hassign).1⟩ hassign
          · obtain ⟨e, he⟩ := result_assignLocated_of_not_returns hassign
            refine iff_of_false (fun ⟨r, hr⟩ => ?_) hassign
            rw [followUp, he] at hr
            cases hr
  · rw [afterLocate_run_lost hloaded]
    exact iff_of_false (fun ⟨r, hr⟩ => by cases hr) fun h => hloaded h.1

theorem Wider.listed (h : Wider order.id actor held k k') :
    Wider order.id actor held (listedSession st order k) (listedSession st order k') where
  order_loaded := List.mem_append_right _ h.order_loaded
  loaded_sub e he := by
    rcases List.mem_append.mp he with he | he
    · exact List.mem_append_left _ he
    · exact List.mem_append_right _ (h.loaded_sub e he)
  inTransaction _ := rfl
  reads := by
    rw [← h.reads]
    simp [RequestSession.CanRead, listedSession, loadShipments]
  reads' := by
    rw [← h.reads']
    simp [RequestSession.CanRead, listedSession, loadShipments]

/-- After other turns that have not cost the session the acting user, what follows the location
is as alone. -/
theorem afterLocate_wider (h : Wider order.id actor held k k')
    (hfound : FoundReturns actor entry (listedSession st order k') st.oms
      (findShipment st order resolved)) :
    SameOutcome (afterLocate actor entry order resolved k st)
        (afterLocate actor entry order resolved k' st) ∧
      ((afterLocate actor entry order resolved k st).result.2.CanRead actor ↔ held) := by
  have hloaded := h.loaded_sub _ h.order_loaded
  have hlisted : Wider order.id actor held (listedSession st order k) (listedSession st order k') :=
    h.listed
  by_cases hunlocated : findShipment st order resolved = .unlocated
  · rw [afterLocate_run_unlocated hloaded hunlocated,
      afterLocate_run_unlocated h.order_loaded hunlocated, hunlocated]
    exact ⟨⟨rfl, rfl⟩, h.reads⟩
  · have hfault := hfound.shipmentsFault_eq hunlocated
    rw [afterLocate_run_found hloaded hunlocated hfault,
      afterLocate_run_found h.order_loaded hunlocated hfault]
    cases hcase : findShipment st order resolved with
    | unlocated => exact absurd hcase hunlocated
    | incomplete id => exact ⟨⟨rfl, rfl⟩, hlisted.reads⟩
    | labelled l awb =>
      rw [hcase] at hfound
      obtain ⟨k₁', hrun', -⟩ := result_followUp_labelled actor order st awb hfound.2
      have hcourier : CourierFound entry l.shipment.courierId (listedSession st order k) :=
        fun id hid => (hfound.2 id hid).imp_left (hlisted.loaded_sub _)
      obtain ⟨k₁, hrun, hread⟩ := result_followUp_labelled actor order st awb hcourier
      rw [hrun, hrun']
      exact ⟨⟨rfl, rfl⟩, (hread actor).trans hlisted.reads⟩
    | unlabelled l =>
      rw [hcase] at hfound
      obtain ⟨rfl, -⟩ := findShipment_eq_unlabelled hcase
      obtain ⟨hreturns, hread⟩ := assignmentReturns_wider hlisted hfound.2
      exact ⟨sameOutcome_assignLocated hreturns hfound.2 (assignAttempt_wider hlisted hfound.2).1,
        ((result_assignLocated_of_returns hreturns).2 actor).trans hread⟩

/-- The session of a turn whose acting user is expired, next to a fresh one. -/
abbrev Expired (actor : Option UUID) (rows : Entity → Prop) :
    RequestSession → RequestSession → Prop :=
  Agree rows (fun e => ∃ id, e = .courier id) fun id => actor = some id

theorem Expired.not_canRead {rows : Entity → Prop} {id : UUID} (h : Expired (some id) rows k k') :
    ¬ k.CanRead (some id) := fun hread => h.users_gone id rfl (hread id rfl)

theorem tolerant_agree {rows others : Entity → Prop} {gone : UUID → Prop} {shipmentId : UUID}
    (hrow : rows (.shipment shipmentId)) : Tolerant shipmentId (Agree rows others gone) where
  execute _ _ h := h.execute
  commit _ _ h := h.commit
  load _ _ _ h := h.load (by simp)
  get k k' found h := by
    by_cases hloaded : .shipment shipmentId ∈ k.loaded
    · rw [RequestSession.get_of_mem hloaded,
        RequestSession.get_of_mem ((h.rows_iff _ hrow).mp hloaded)]
      exact h
    · unfold RequestSession.get
      rw [if_neg hloaded, if_neg fun h' => hloaded ((h.rows_iff _ hrow).mpr h')]
      split
      · exact h.load (by simp)
      · exact h.execute

theorem Agree.session {rows others : Entity → Prop} {gone : UUID → Prop}
    (h : Agree rows others gone k k') (f : Fault) (n : ℕ) :
    Agree rows others gone (f.session n k) (f.session n k') where
  inTransaction_eq := by rw [Fault.session, Fault.session, h.inTransaction_eq]
  rows_iff := h.rows_iff
  others_sub := h.others_sub
  users_gone := h.users_gone

/-- The shipments of the order are loaded in both sessions then. -/
theorem Agree.listed {rows others : Entity → Prop} {gone : UUID → Prop}
    (h : Agree rows others gone k k') {s : Shipment}
    (hs : s ∈ st.oms.db.shipmentsForOrder order.id) :
    Agree (fun e => rows e ∨ e = .shipment s.id) others gone (listedSession st order k)
      (listedSession st order k') where
  inTransaction_eq := rfl
  rows_iff e he := by
    rcases he with he | rfl
    · exact (h.execute.loadShipments _).rows_iff e he
    · have hmem : Entity.shipment s.id ∈
          (st.oms.db.shipmentsForOrder order.id).map fun s => Entity.shipment s.id :=
        List.mem_map_of_mem hs
      exact iff_of_true (List.mem_append_left _ hmem) (List.mem_append_left _ hmem)
  others_sub := (h.execute.loadShipments _).others_sub
  users_gone := (h.execute.loadShipments _).users_gone

/-- An assignment whose acting user is expired. -/
theorem assignLocated_expired {rows : Entity → Prop} {id : UUID} {l : Located}
    (h : Expired (some id) rows k k') (horder : rows (.order l.order.id))
    (hshipment : rows (.shipment l.shipment.id))
    (hreturns : AssignmentReturns (some id) entry l k' st.oms) :
    (SameOutcome (assignLocated (some id) entry l k st) (assignLocated (some id) entry l k' st) ↔
        ¬ Audits (some id) entry l k' st.oms) ∧
      (SameOutcome (assignLocated (some id) entry l k st) (assignLocated (some id) entry l k' st) →
        ¬ (assignLocated (some id) entry l k st).result.2.CanRead (some id)) := by
  rcases assignAttempt_expired entry st.oms (tolerant_agree hshipment)
    (fun _ _ h f n => h.session f n) (fun _ _ h => Expired.not_canRead h) h with
    ⟨hnot, ⟨e, he⟩, hsame, hagree⟩ | ⟨haudits, hdiffer⟩
  · -- the sessions roll back together
    have hfails : (assignAttempt (some id) entry l.shipment.id k st.oms).result.1 = .error e :=
      hsame.result_eq.trans he
    have hrecovered : Expired (some id) rows
        (recoveredSession (assignAttempt (some id) entry l.shipment.id k st.oms).result)
        (recoveredSession (assignAttempt (some id) entry l.shipment.id k' st.oms).result) := by
      rw [← Prod.eta (assignAttempt (some id) entry l.shipment.id k st.oms).result,
        ← Prod.eta (assignAttempt (some id) entry l.shipment.id k' st.oms).result, hfails, he,
        recoveredSession, recoveredSession]
      split
      · exact hagree
      · exact hagree.rollback
    have hreturns' : AssignmentReturns (some id) entry l k st.oms := by
      refine ⟨(hrecovered.rows_iff _ horder).mpr hreturns.1, fun updated k₁ heq => ?_⟩
      rw [heq] at hfails
      cases hfails
    refine ⟨iff_of_true (sameOutcome_assignLocated hreturns' hreturns hsame) hnot, fun _ => ?_⟩
    rw [(result_assignLocated_of_returns hreturns').2]
    exact hrecovered.not_canRead
  · have hnot : ¬ SameOutcome (assignLocated (some id) entry l k st)
        (assignLocated (some id) entry l k' st) := by
      intro hsame
      rcases hdiffer with ⟨k₁, hraised, htx⟩ | hstates
      · have hraises : ¬ AssignmentReturns (some id) entry l k st.oms := by
          rintro ⟨hloaded, -⟩
          rw [hraised, recoveredSession, if_neg (by simp [expectedCreate]),
            RequestSession.rollback_of_inTransaction htx] at hloaded
          exact List.not_mem_nil hloaded
        obtain ⟨e, he⟩ := result_assignLocated_of_not_returns hraises
        have hresult := hsame.result_eq
        rw [he, (result_assignLocated_of_returns hreturns).1] at hresult
        cases hresult
      · exact hstates (states_assignAttempt_of_same hsame)
    exact ⟨iff_of_false hnot (not_not_intro haudits), fun hsame => absurd hsame hnot⟩

/-- After the acting user has been lost, what follows the location is as alone when it does not
get to the audit record. -/
theorem afterLocate_expired {rows : Entity → Prop} {id : UUID} (h : Expired (some id) rows k k')
    (horder : rows (.order order.id)) (hloaded' : .order order.id ∈ k'.loaded)
    (hfound : FoundReturns (some id) entry (listedSession st order k') st.oms
      (findShipment st order resolved)) :
    (SameOutcome (afterLocate (some id) entry order resolved k st)
        (afterLocate (some id) entry order resolved k' st) ↔
      ¬ ∃ l, findShipment st order resolved = .unlabelled l ∧
        Audits (some id) entry l (listedSession st order k') st.oms) ∧
    (SameOutcome (afterLocate (some id) entry order resolved k st)
        (afterLocate (some id) entry order resolved k' st) →
      ¬ (afterLocate (some id) entry order resolved k st).result.2.CanRead (some id)) := by
  have hloaded := (h.rows_iff _ horder).mpr hloaded'
  have hlisted : Expired (some id) rows (listedSession st order k) (listedSession st order k') :=
    h.execute.loadShipments _
  by_cases hunlocated : findShipment st order resolved = .unlocated
  · rw [afterLocate_run_unlocated hloaded hunlocated,
      afterLocate_run_unlocated hloaded' hunlocated, hunlocated]
    exact ⟨iff_of_true ⟨rfl, rfl⟩ (by simp), fun _ => h.not_canRead⟩
  · have hfault := hfound.shipmentsFault_eq hunlocated
    rw [afterLocate_run_found hloaded hunlocated hfault,
      afterLocate_run_found hloaded' hunlocated hfault]
    cases hcase : findShipment st order resolved with
    | unlocated => exact absurd hcase hunlocated
    | incomplete shiprocketOrderId =>
      exact ⟨iff_of_true ⟨rfl, rfl⟩ (by simp), fun _ => hlisted.not_canRead⟩
    | labelled l awb =>
      rw [hcase] at hfound
      obtain ⟨k₁', hrun', -⟩ := result_followUp_labelled (some id) order st awb hfound.2
      have hcourier : CourierFound entry l.shipment.courierId (listedSession st order k) :=
        fun courierId hid => (hfound.2 courierId hid).imp_left
          (hlisted.others_sub _ ⟨courierId, rfl⟩)
      obtain ⟨k₁, hrun, hread⟩ := result_followUp_labelled (some id) order st awb hcourier
      rw [hrun, hrun']
      exact ⟨iff_of_true ⟨rfl, rfl⟩ (by simp),
        fun _ hread' => hlisted.not_canRead ((hread _).mp hread')⟩
    | unlabelled l =>
      rw [hcase] at hfound
      obtain ⟨rfl, hmem⟩ := findShipment_eq_unlabelled hcase
      obtain ⟨hiff, hlost⟩ := assignLocated_expired (h.listed hmem) (.inl horder) (.inr rfl)
        hfound.2
      refine ⟨hiff.trans (not_congr ?_), hlost⟩
      constructor
      · exact fun haudits => ⟨l, rfl, haudits⟩
      · rintro ⟨l', heq, haudits⟩
        cases heq
        exact haudits

end AfterLocate

/-! ## Section 6: The turn -/

section Turn

variable {actor : Option UUID} {entry : ProcessEntry} {order : Order}
  {resolved : List (UUID × Option String)} {k k' k₁ : RequestSession} {st st₁ : ShipStore}

/-- The location begins with a statement. -/
theorem locate_execute (env : LocateEnv) (orderId : UUID) :
    locateShiprocketOrders env [orderId] k.execute st =
      locateShiprocketOrders env [orderId] k st := by
  rw [locateShiprocketOrders, checkStored, listForOrder]
  cases env.localFault orderId with
  | none => rfl
  | some e => rfl

theorem processTurn_run_missing (actor : Option UUID) (k : RequestSession)
    (h : st.oms.db.orders.getOrder entry.orderId = none)
    (hfault : entry.lookupFault = none) : ∃ k',
      processTurn actor entry k st = .done (.ok {
        orderId := entry.orderId
        status := "failed"
        reason := some "Order not found." }, k') ∧ ∀ user, k'.CanRead user ↔ k.CanRead user := by
  rw [processTurn, bind_run, selectById, bind_run, store_run, Staged.andThen_done, resume_ok,
    memory_run, hfault, h]
  split
  · exact ⟨k, rfl, fun _ => Iff.rfl⟩
  · exact ⟨_, rfl, fun _ => RequestSession.canRead_get_iff (by simp) _⟩

theorem processTurn_run_found (h : st.oms.db.orders.getOrder entry.orderId = some order)
    (hfault : entry.lookupFault = none) : processTurn actor entry k st =
      (locateShiprocketOrders entry.locate [order.id] >>= afterLocate actor entry order)
        (k.get (.order order.id) true) st := by
  obtain ⟨-, hid⟩ := OrdersDB.getOrder_eq_some.mp h
  rw [processTurn, bind_run, selectById, bind_run, store_run, Staged.andThen_done, resume_ok,
    memory_run, hfault, h, ← hid]
  by_cases hloaded : .order order.id ∈ k.loaded
  · rw [if_pos hloaded, RequestSession.get_of_mem hloaded]
    rfl
  · rw [if_neg hloaded]
    rfl

/-- A failed lookup, of a row that is not loaded. -/
theorem processTurn_run_fault {e : PyException} (hfault : entry.lookupFault = some e)
    (hloaded : .order entry.orderId ∉ k.loaded) :
    processTurn actor entry k st = .done (.error e, k.execute) := by
  rw [processTurn, bind_run, selectById, bind_run, store_run, Staged.andThen_done, resume_ok,
    memory_run, hfault, if_neg hloaded]
  rfl

theorem order_not_mem_authenticated (orderId : UUID) :
    .order orderId ∉ (RequestSession.authenticated actor).loaded := by
  cases actor <;> simp [RequestSession.authenticated]

theorem get_authenticated (orderId : UUID) :
    (RequestSession.authenticated actor).get (.order orderId) true =
      (RequestSession.authenticated actor).load (.order orderId) := by
  rw [RequestSession.get, if_neg (order_not_mem_authenticated orderId)]
  rfl

/-- An order is located in one way. -/
theorem Locates.unique {order' : Order} {resolved' : List (UUID × Option String)}
    {st₂ : ShipStore} (h : Locates actor entry st order resolved k₁ st₁)
    (h' : Locates actor entry st order' resolved' k' st₂) :
    order' = order ∧ resolved' = resolved ∧ k' = k₁ ∧ st₂ = st₁ := by
  obtain ⟨hfound, hresult, hfinal⟩ := h
  obtain ⟨hfound', hresult', hfinal'⟩ := h'
  obtain rfl : order' = order := Option.some.inj (hfound'.symm.trans hfound)
  have heq := hresult'.symm.trans hresult
  exact ⟨rfl, Except.ok.inj (congrArg Prod.fst heq), congrArg Prod.snd heq,
    hfinal'.symm.trans hfinal⟩

/-- The turn of an order that is located, after other turns and alone. -/
theorem processTurn_located (hfault : entry.lookupFault = none)
    (h : Locates actor entry st order resolved k' st₁)
    {rows others : Entity → Prop} {gone : UUID → Prop}
    (hagree : Agree rows others gone (k.get (.order order.id) true).execute
      ((RequestSession.authenticated actor).load (.order order.id))) :
    ∃ k₁, Agree rows others gone k₁ k' ∧
      (SameOutcome (processTurn actor entry k st)
          (processTurn actor entry (.authenticated actor) st) ↔
        SameOutcome (afterLocate actor entry order resolved k₁ st₁)
          (afterLocate actor entry order resolved k' st₁)) ∧
      (processTurn actor entry k st).result =
        (afterLocate actor entry order resolved k₁ st₁).result := by
  have hrespects : (locateShiprocketOrders entry.locate [order.id]).Respects
      (Agree rows others gone) := respects_locate _ _
  have hsame := hrespects.sameOutcome hagree st
  have hafter := (hrespects _ _ st hagree).2
  rw [locate_execute] at hsame hafter
  have hiff := hsame.thenElse_iff (f := afterLocate actor entry order) (g := raise)
  have hfirst := hsame.result_eq
  have hfinal := hsame.final_eq st
  rw [h.result] at hafter hiff hfirst
  rw [h.final] at hiff hfinal
  have hok : (locateShiprocketOrders entry.locate [order.id] (k.get (.order order.id) true)
      st).result = (.ok resolved, (locateShiprocketOrders entry.locate [order.id]
        (k.get (.order order.id) true) st).result.2) := Prod.ext hfirst rfl
  have hresult := bind_of_ok (f := afterLocate actor entry order) hok
  rw [processTurn_run_found h.found hfault, processTurn_run_found h.found hfault,
    get_authenticated]
  refine ⟨_, hafter, ?_, ?_⟩
  · refine hiff.trans ?_
    rw [← Prod.eta (locateShiprocketOrders entry.locate [order.id]
      (k.get (.order order.id) true) st).result, hfirst]
    rfl
  · rw [hresult.1, hfinal]

/-- What the reliance says of an order that is located. -/
theorem Locates.returns_iff (h : Locates actor entry st order resolved k' st₁)
    (hfault : entry.lookupFault = none) : (processReliance actor).Returns entry st ↔
      .order order.id ∈ k'.loaded ∧ FoundReturns actor entry (listedSession st₁ order k') st₁.oms
        (findShipment st₁ order resolved) := by
  refine (and_iff_right hfault).trans ⟨fun hreturns => ?_, fun hfound order' horder => ?_⟩
  · obtain ⟨resolved', k₂, st₂, h', hfound⟩ := hreturns order h.found
    obtain ⟨-, rfl, rfl, rfl⟩ := h.unique h'
    exact hfound
  · obtain rfl : order' = order := Option.some.inj (horder.symm.trans h.found)
    exact ⟨resolved, k', st₁, h, hfound⟩

theorem Locates.needs_iff (h : Locates actor entry st order resolved k' st₁) :
    (processReliance actor).Needs entry st ↔ ∃ l, findShipment st₁ order resolved = .unlabelled l ∧
      Audits actor entry l (listedSession st₁ order k') st₁.oms := by
  constructor
  · rintro ⟨order', resolved', k₂, st₂, l, h', hneeds⟩
    obtain ⟨rfl, rfl, rfl, rfl⟩ := h.unique h'
    exact ⟨l, hneeds⟩
  · rintro ⟨l, hneeds⟩
    exact ⟨order, resolved, k', st₁, l, h, hneeds⟩

theorem Locates.loses_iff (h : Locates actor entry st order resolved k' st₁) :
    (processReliance actor).Loses entry st ↔ ¬ k'.CanRead actor := by
  constructor
  · rintro ⟨order', resolved', k₂, st₂, h', hloses⟩
    obtain ⟨rfl, rfl, rfl, rfl⟩ := h.unique h'
    exact hloses
  · exact fun hloses => ⟨order, resolved, k', st₁, h, hloses⟩

theorem not_needs_of_missing (h : st.oms.db.orders.getOrder entry.orderId = none) :
    ¬ (processReliance actor).Needs entry st := by
  rintro ⟨order, resolved, k', st', l, hlocates, -⟩
  rw [hlocates.found] at h
  cases h

theorem not_loses_of_missing (h : st.oms.db.orders.getOrder entry.orderId = none) :
    ¬ (processReliance actor).Loses entry st := by
  rintro ⟨order, resolved, k', st', hlocates, -⟩
  rw [hlocates.found] at h
  cases h

/-- Alone, a turn returns exactly when the reliance says so. -/
theorem processTurn_returns_iff : (processReliance actor).Returns entry st ↔
    ∃ r, (processTurn actor entry (.authenticated actor) st).result.1 = .ok r := by
  cases hfault : entry.lookupFault with
  | some e =>
    rw [processTurn_run_fault hfault (order_not_mem_authenticated _)]
    refine iff_of_false (fun h => ?_) fun ⟨r, hr⟩ => by cases hr
    rw [h.1] at hfault
    cases hfault
  | none =>
    cases horder : st.oms.db.orders.getOrder entry.orderId with
    | none =>
      obtain ⟨k', hrun, -⟩ := processTurn_run_missing actor (.authenticated actor) horder hfault
      refine iff_of_true ⟨hfault, fun order h => ?_⟩ ⟨_, by rw [hrun]; rfl⟩
      rw [horder] at h
      cases h
    | some order =>
      rw [processTurn_run_found horder hfault, get_authenticated]
      cases hlocate : (locateShiprocketOrders entry.locate [order.id]
        ((RequestSession.authenticated actor).load (.order order.id)) st).result with
      | mk r k' =>
        cases r with
        | error e =>
          refine iff_of_false (fun h => ?_) fun ⟨r, hr⟩ => ?_
          · obtain ⟨resolved, k₁, st₁, hlocates, -⟩ := h.2 order horder
            rw [hlocates.result] at hlocate
            cases hlocate
          · rw [(bind_of_error (congrArg Prod.fst hlocate)).1] at hr
            cases hr
        | ok resolved =>
          have hlocates : Locates actor entry st order resolved k' _ := ⟨horder, hlocate, rfl⟩
          rw [hlocates.returns_iff hfault, (bind_of_ok hlocate).1]
          exact afterLocate_returns_iff.symm

/-- With the acting user readable a turn is as alone. -/
theorem processTurn_held (hk : k.CanRead actor)
    (hreturns : (processReliance actor).Returns entry st) :
    SameOutcome (processTurn actor entry k st) (processTurn actor entry (.authenticated actor) st) ∧
      ((processTurn actor entry k st).result.2.CanRead actor ↔
        ¬ (processReliance actor).Loses entry st) := by
  have hfault := hreturns.1
  cases horder : st.oms.db.orders.getOrder entry.orderId with
  | none =>
    obtain ⟨k₁, hrun, hread⟩ := processTurn_run_missing actor k horder hfault
    obtain ⟨k₁', hrun', -⟩ := processTurn_run_missing actor (.authenticated actor) horder hfault
    rw [hrun, hrun']
    exact ⟨⟨rfl, rfl⟩, iff_of_true ((hread actor).mpr hk) (not_loses_of_missing horder)⟩
  | some order =>
    obtain ⟨resolved, k', st₁, hlocates, hloaded, hfound⟩ := hreturns.2 order horder
    have hread : ∀ id, actor = some id → .user id ∈ (k.get (.order order.id) true).execute.loaded :=
      fun id hid => RequestSession.mem_loaded_get (hk id hid) true
    have horderLoaded : .order order.id ∈ (k.get (.order order.id) true).execute.loaded :=
      RequestSession.mem_loaded_get_self
    have hagree : Agree (fun e => e = .order order.id ∨ ∃ id, actor = some id ∧ e = .user id)
        (fun _ => True) (fun _ => False) (k.get (.order order.id) true).execute
        ((RequestSession.authenticated actor).load (.order order.id)) := by
      refine ⟨rfl, fun e he => ?_, fun e _ he => ?_, fun _ h => h.elim⟩
      · rcases he with rfl | ⟨id, hid, rfl⟩
        · exact iff_of_true horderLoaded List.mem_cons_self
        · exact iff_of_true (hread id hid)
            (RequestSession.canRead_load (RequestSession.canRead_authenticated actor) _ id hid)
      · rcases List.mem_cons.mp he with rfl | he
        · exact horderLoaded
        · cases actor with
          | none => exact absurd he List.not_mem_nil
          | some id =>
            obtain rfl := List.mem_singleton.mp he
            exact hread id rfl
    obtain ⟨k₁, hagree', hiff, hresult⟩ := processTurn_located hfault hlocates hagree
    have hwider : Wider order.id actor (k'.CanRead actor) k₁ k' := by
      refine ⟨hloaded, fun e => hagree'.others_sub e True.intro,
        fun htx => hagree'.inTransaction_eq ▸ htx, ?_, Iff.rfl⟩
      exact forall₂_congr fun id hid => hagree'.rows_iff _ (.inr ⟨id, hid, rfl⟩)
    obtain ⟨hsame, hread'⟩ := afterLocate_wider hwider hfound
    rw [hiff, hresult, hlocates.loses_iff, not_not]
    exact ⟨hsame, hread'⟩

/-- Without, it is when it does not get to the audit record, and the user stays lost. -/
theorem processTurn_expired {id : UUID} (hk : ¬ k.CanRead (some id))
    (hreturns : (processReliance (some id)).Returns entry st) :
    (SameOutcome (processTurn (some id) entry k st)
        (processTurn (some id) entry (.authenticated (some id)) st) ↔
      ¬ (processReliance (some id)).Needs entry st) ∧
    (SameOutcome (processTurn (some id) entry k st)
        (processTurn (some id) entry (.authenticated (some id)) st) →
      ¬ (processTurn (some id) entry k st).result.2.CanRead (some id)) := by
  have hfault := hreturns.1
  cases horder : st.oms.db.orders.getOrder entry.orderId with
  | none =>
    obtain ⟨k₁, hrun, hread⟩ := processTurn_run_missing (some id) k horder hfault
    obtain ⟨k₁', hrun', -⟩ := processTurn_run_missing (some id) (.authenticated (some id)) horder
      hfault
    rw [hrun, hrun']
    exact ⟨iff_of_true ⟨rfl, rfl⟩ (not_needs_of_missing horder),
      fun _ h => hk ((hread _).mp h)⟩
  | some order =>
    obtain ⟨resolved, k', st₁, hlocates, hloaded, hfound⟩ := hreturns.2 order horder
    have hagree : Expired (some id) (· = .order order.id) (k.get (.order order.id) true).execute
        ((RequestSession.authenticated (some id)).load (.order order.id)) := by
      refine ⟨rfl, ?_, ?_, ?_⟩
      · rintro e rfl
        exact iff_of_true RequestSession.mem_loaded_get_self List.mem_cons_self
      · rintro e ⟨courierId, rfl⟩ he
        simp [RequestSession.authenticated] at he
      · intro id' hid hmem
        obtain rfl := Option.some.inj hid
        refine hk fun id' hid => ?_
        cases hid
        exact (RequestSession.mem_loaded_get_iff (by simp)).mp hmem
    obtain ⟨k₁, hagree', hiff, hresult⟩ := processTurn_located hfault hlocates hagree
    rw [hiff, hresult, hlocates.needs_iff]
    exact afterLocate_expired hagree' rfl hloaded hfound

end Turn

/-- What the turns of bulk processing need and lose. -/
theorem processReliance_sound (actor : Option UUID) :
    (processReliance actor).Sound (processTurn actor) (.authenticated actor)
      fun k => k.CanRead actor where
  returns_iff _ _ := processTurn_returns_iff
  same_iff entry k st hreturns := by
    by_cases hk : k.CanRead actor
    · exact iff_of_true (processTurn_held hk hreturns).1 (.inl hk)
    · cases actor with
      | none => exact absurd RequestSession.canRead_none hk
      | some id => exact (processTurn_expired hk hreturns).1.trans (or_iff_right hk).symm
  holds_iff entry k st hreturns hsame := by
    by_cases hk : k.CanRead actor
    · exact (processTurn_held hk hreturns).2.trans (and_iff_right (.inl hk)).symm
    · cases actor with
      | none => exact absurd RequestSession.canRead_none hk
      | some id =>
        refine iff_of_false ((processTurn_expired hk hreturns).2 hsame) ?_
        rintro ⟨hheld | hrestored, -⟩
        · exact hk hheld
        · exact hrestored

end AyushOms.Shipments
