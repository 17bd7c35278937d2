import AyushOms.Lib.Run
import AyushOms.Tracking.Effects

/-!
# Dispatch Deducts Stock

A shipment whose status says that the parcel left must have its order's stock deducted, or
still be polled, so that a later poll deducts it. `apply_tracking_event` deducts; the
refresh on demand and the pull sync only write the status.

## Main results

- `allCovered_ingestStep`: what one ingestion call preserves
- `allCovered_throughout`: over every run whose calls keep the gap closed, every dispatched
  shipment is deducted or polled
- `delivered_without_deduction`: the two paths that write `DELIVERED` and leave it there
-/

namespace AyushOms.Tracking

open AyushOms.Lib AyushOms.Orders AyushOms.Inventory

namespace TrackingDB

/-! ## Section 1: The property -/

/-- A dispatched shipment's order is deducted, or the background refresh still polls it. -/
def Covered (db : TrackingDB) (s : Shipment) : Prop :=
  s.currentStatus ∈ dispatchedStatuses →
    db.orders.stock.Deducted s.orderId ∨ refreshSelects s = true

def AllCovered (db : TrackingDB) : Prop := ∀ s ∈ db.shipments.rows, db.Covered s

instance (db : TrackingDB) : Decidable db.AllCovered :=
  inferInstanceAs (Decidable (∀ s ∈ db.shipments.rows, s.currentStatus ∈ dispatchedStatuses →
    db.orders.stock.Deducted s.orderId ∨ refreshSelects s = true))

/-- A dispatched shipment with an AWB is polled until it is `DELIVERED`. -/
theorem refreshSelects_of_dispatched {s : Shipment} (hawb : s.awb.isSome = true)
    (hstatus : s.currentStatus ∈ dispatchedStatuses) (hne : s.currentStatus ≠ .delivered) :
    refreshSelects s = true := by
  have hterminal : s.currentStatus ∉ terminalStatuses := fun h =>
    hne ((terminal_of_dispatched hstatus).mp h)
  simp [refreshSelects, hawb, hterminal]

/-- Writing a status to one shipment keeps every shipment covered, when a dispatched status
finds the shipment's order deducted or leaves the shipment polled. -/
theorem allCovered_of_statusWritten {db db' : TrackingDB} {id : UUID}
    {status : Option ShipmentStatus} (hwritten : StatusWritten db db' id status)
    (hlater : StockLater db db') (hcov : db.AllCovered)
    (hstatus : ∀ s ∈ db.shipments.rows, s.id = id →
      ∀ status' ∈ dispatchedStatuses, status = some status' →
        db'.orders.stock.Deducted s.orderId ∨ s.awb.isSome = true ∧ status' ≠ .delivered) :
    db'.AllCovered := by
  intro s' hs' hdispatched
  obtain ⟨s, hs, -, horder, hawb, hnew⟩ := hwritten.mem hs'
  by_cases hwrites : s.id = id ∧ status.isSome = true
  · -- the shipment the status was written to
    obtain ⟨hid, hsome⟩ := hwrites
    obtain ⟨status', rfl⟩ := Option.isSome_iff_exists.mp hsome
    rw [if_pos hid, Option.getD_some] at hnew
    rcases hstatus s hs hid status' (hnew ▸ hdispatched) rfl with hded | ⟨hsel, hne⟩
    · exact .inl (horder ▸ hded)
    · exact .inr (refreshSelects_of_dispatched (hawb ▸ hsel) hdispatched (hnew ▸ hne))
  · -- any other keeps its status, and with it what covered it
    have hsame : s'.currentStatus = s.currentStatus := by
      by_cases hid : s.id = id
      · have hnone : status = none := by
          cases status with
          | none => rfl
          | some _ => exact absurd ⟨hid, rfl⟩ hwrites
        rw [hnew, if_pos hid, hnone, Option.getD_none]
      · rw [hnew, if_neg hid]
    rcases hcov s hs (hsame ▸ hdispatched) with hded | hsel
    · exact .inl (horder ▸ hlater.deducted hded)
    · right
      unfold refreshSelects at hsel ⊢
      rwa [hawb, hsame]

end TrackingDB

/-! ## Section 2: The calls -/

/-- A call of one of the ingestion paths, with what it meets. -/
inductive IngestCall where
  | applyTrackingEvent (shipmentId : UUID) (call : TrackingDB.TrackingCall)
  | refreshTrackingForShipment (shipmentId : UUID)
      (response : Except OMSError (List NormalizedEvent))
  | upsertShipment (data : SyncedShipment) (env : LookupEnv)

section AnyText

variable [PyText]

open TrackingDB

/-- The database a call leaves; a pull sync that raises commits nothing. -/
def ingestStep (db : TrackingDB) : IngestCall → TrackingDB
  | .applyTrackingEvent id call => (db.applyTrackingEvent id call).2
  | .refreshTrackingForShipment id response => (db.refreshTrackingForShipment id response).2
  | .upsertShipment data env =>
    match db.upsertShipment data env with
    | .ok (_, db') => db'
    | .error _ => db

/-- When a call leaves no gap:

- a tracking event whose dispatch raises finds the order deducted, or a shipment with an AWB
  and a status other than `DELIVERED`;
- a refresh on demand that reports `DELIVERED` finds the order deducted;
- a pull sync that writes or keeps a dispatched status finds the order deducted, or gives or
  keeps an AWB and the status is not `DELIVERED`. -/
def LeavesNoGap (db : TrackingDB) : IngestCall → Prop
  | .applyTrackingEvent id call =>
    call.dispatchRaises = true → ∀ status ∈ dispatchedStatuses,
      call.event.mappedStatus = some status → ∀ s ∈ db.shipments.rows, s.id = id →
        db.orders.stock.Deducted s.orderId ∨ s.awb.isSome = true ∧ status ≠ .delivered
  | .refreshTrackingForShipment id response =>
    ∀ events, response = .ok events → ∀ e ∈ events, e.eventTimestamp ≠ none →
      e.mappedStatus = some .delivered → ∀ s ∈ db.shipments.rows, s.id = id →
        db.orders.stock.Deducted s.orderId
  | .upsertShipment data env =>
    ∀ orderId, db.orderForShipment data env = .ok orderId →
      let kept := db.getShipmentByExternalId data.sourceSystem data.externalId
      let status := data.currentStatus.getD (kept.elim .pending (·.currentStatus))
      status ∈ dispatchedStatuses →
        db.orders.stock.Deducted orderId ∨
          (data.awb.or (kept.bind (·.awb))).isSome = true ∧ status ≠ .delivered

/-! ## Section 3: One call -/

theorem allCovered_applyTrackingEvent {db : TrackingDB} {id : UUID} {call : TrackingCall}
    (hcov : db.AllCovered) (hgap : LeavesNoGap db (.applyTrackingEvent id call)) :
    (db.applyTrackingEvent id call).2.AllCovered := by
  by_cases hrec : db.Recordable id call
  · obtain ⟨shipment, hmem, rfl, hwritten, hlater, hded⟩ := applyTrackingEvent_of_recordable hrec
    refine allCovered_of_statusWritten hwritten hlater hcov ?_
    intro s hs hid status hstatus hmapped
    rw [shipment_eq_of_id_eq hmem hs hid]
    -- the deduction happened, or the guard has covered for it
    cases hraises : call.dispatchRaises with
    | false => exact .inl (hded status hstatus hmapped hraises)
    | true =>
      rcases hgap hraises status hstatus hmapped shipment hmem rfl with h | h
      · exact .inl (hlater.deducted h)
      · exact .inr h
  · rwa [applyTrackingEvent_of_not_recordable hrec]

/-- The loop of the refresh on demand, turn by turn: the AWB and the stock stay. -/
theorem allCovered_recordEvents {db : TrackingDB} {id : UUID} {events : List NormalizedEvent}
    (hcov : db.AllCovered) (hawb : ∀ s ∈ db.shipments.rows, s.id = id → s.awb.isSome = true)
    (hded : ∀ e ∈ events, e.eventTimestamp ≠ none → e.mappedStatus = some .delivered →
      ∀ s ∈ db.shipments.rows, s.id = id → db.orders.stock.Deducted s.orderId) :
    (db.recordEvents id events).2.AllCovered := by
  -- the AWB and the stock stay, so the guard holds at every turn
  induction events generalizing db with
  | nil => exact hcov
  | cons e es ih =>
    rw [recordEvents]
    split
    · exact ih hcov hawb fun e' he' => hded e' (List.mem_cons_of_mem e he')
    · rename_i eventTimestamp hat
      split
      · exact hcov
      · rename_i created db₁ hrecord
        obtain ⟨hwritten, horders, -⟩ := recordEvent_eq_ok hrecord
        have hcov₁ : db₁.AllCovered := by
          refine allCovered_of_statusWritten hwritten (StockLater.of_orders_eq horders) hcov ?_
          intro s hs hid status _ hmapped
          -- `DELIVERED` ends the polling, any other status keeps the shipment selected
          by_cases hdelivered : status = .delivered
          · left
            rw [horders]
            exact hded e List.mem_cons_self (by simp [hat]) (hdelivered ▸ hmapped) s hs hid
          · exact .inr ⟨hawb s hs hid, hdelivered⟩
        refine ih hcov₁ ?_ ?_
        · intro s' hs' hid
          obtain ⟨s, hs, hid', -, hawb', -⟩ := hwritten.mem hs'
          exact hawb' ▸ hawb s hs (hid' ▸ hid)
        · intro e' he' hat' hmapped' s' hs' hid
          obtain ⟨s, hs, hid', horder, -, -⟩ := hwritten.mem hs'
          rw [horders, horder]
          exact hded e' (List.mem_cons_of_mem e he') hat' hmapped' s hs (hid' ▸ hid)

theorem allCovered_refreshTrackingForShipment {db : TrackingDB} {id : UUID}
    {response : Except OMSError (List NormalizedEvent)} (hcov : db.AllCovered)
    (hgap : LeavesNoGap db (.refreshTrackingForShipment id response)) :
    (db.refreshTrackingForShipment id response).2.AllCovered := by
  unfold refreshTrackingForShipment
  split
  · exact hcov
  · rename_i shipment hshipment
    obtain ⟨hmem, rfl⟩ := getShipment_eq_some.mp hshipment
    split
    · exact hcov
    · rename_i hawb
      split
      · exact hcov
      · rename_i events
        refine allCovered_recordEvents hcov ?_ (hgap events rfl)
        intro s hs hid
        rw [shipment_eq_of_id_eq hmem hs hid]
        cases hnone : shipment.awb with
        | none => exact absurd (by rw [hnone]; rfl) hawb
        | some _ => rfl

omit [PyText] in
/-- The row a pull sync writes or creates, in terms of what it is given and keeps. -/
theorem allCovered_upsertSyncedShipment {db db' : TrackingDB} {data : SyncedShipment}
    {orderId : UUID} {created : Bool} (hcov : db.AllCovered)
    (h : db.upsertSyncedShipment data orderId = .ok (created, db'))
    (hgap :
      let kept := db.getShipmentByExternalId data.sourceSystem data.externalId
      let status := data.currentStatus.getD (kept.elim .pending (·.currentStatus))
      status ∈ dispatchedStatuses →
        db.orders.stock.Deducted orderId ∨
          (data.awb.or (kept.bind (·.awb))).isSome = true ∧ status ≠ .delivered) :
    db'.AllCovered := by
  unfold upsertSyncedShipment at h
  split at h
  · rename_i existing hexisting
    rw [hexisting] at hgap
    split at h
    · cases h
    · rename_i shipments hupdate
      cases h
      intro s' hs'
      rw [Table.rows_of_update? hupdate, List.mem_map] at hs'
      obtain ⟨s, hs, rfl⟩ := hs'
      -- the known shipment is rewritten, the others stay
      by_cases hid : s.id = existing.id
      · rw [shipment_eq_of_id_eq (Table.mem_of_find?_eq_some hexisting) hs hid]
        simp only [beq_self_eq_true, if_true]
        intro hdispatched
        rcases hgap hdispatched with hded | ⟨hawb, hne⟩
        · exact .inl hded
        · exact .inr (refreshSelects_of_dispatched hawb hdispatched hne)
      · simp only [beq_iff_eq, hid, if_false]
        exact hcov s hs
  · rename_i hnone
    rw [hnone] at hgap
    dsimp only at h
    split at h
    · cases h
    · rename_i shipments hinsert
      cases h
      intro s' hs'
      rw [Table.rows_of_insert? hinsert, List.mem_append, List.mem_singleton] at hs'
      rcases hs' with hs' | rfl
      · exact hcov s' hs'
      · intro hdispatched
        rcases hgap hdispatched with hded | ⟨hawb, hne⟩
        · exact .inl hded
        · refine .inr (refreshSelects_of_dispatched ?_ hdispatched hne)
          rwa [Option.bind_none, Option.or_none] at hawb

/-- One call that leaves no gap keeps every dispatched shipment deducted or polled. -/
theorem allCovered_ingestStep (db : TrackingDB) (call : IngestCall) (hcov : db.AllCovered)
    (hgap : LeavesNoGap db call) : (ingestStep db call).AllCovered := by
  cases call with
  | applyTrackingEvent id call => exact allCovered_applyTrackingEvent hcov hgap
  | refreshTrackingForShipment id response =>
    exact allCovered_refreshTrackingForShipment hcov hgap
  | upsertShipment data env =>
    simp only [ingestStep, upsertShipment]
    cases horder : db.orderForShipment data env with
    | error raised => exact hcov
    | ok orderId =>
      simp only [bind, Except.bind]
      cases hupsert : db.upsertSyncedShipment data orderId with
      | error raised => exact hcov
      | ok result => exact allCovered_upsertSyncedShipment hcov hupsert (hgap orderId horder)

/-! ## Section 4: Runs -/

/-- In every run whose calls leave no gap, from every state in which no gap is open, every
dispatched shipment of every state has its order's stock deducted or is still polled. -/
theorem allCovered_throughout {db : TrackingDB} {calls : List IngestCall}
    (hcov : db.AllCovered) (hcalls : Along ingestStep LeavesNoGap db calls) :
    Throughout ingestStep AllCovered db calls :=
  throughout_of_along allCovered_ingestStep hcov hcalls

/-! ## Section 5: The background refresh -/

/-- One poll is a run of the shared handler. -/
theorem applyTrackingEvents_eq_run (db : TrackingDB) (id : UUID) (calls : List TrackingCall) :
    ∃ done, done <+: calls ∧ (db.applyTrackingEvents id calls).2 =
      run ingestStep db (done.map (.applyTrackingEvent id)) := by
  induction calls generalizing db with
  | nil => exact ⟨[], List.nil_prefix, rfl⟩
  | cons call calls ih =>
    cases hcall : db.applyTrackingEvent id call with | mk outcome db₁ =>
    have hstep : ingestStep db (.applyTrackingEvent id call) = db₁ := by
      rw [ingestStep, hcall]
    cases outcome with
    | error raised =>
      refine ⟨[call], List.cons_prefix_cons.mpr ⟨rfl, List.nil_prefix⟩, ?_⟩
      simp only [applyTrackingEvents, hcall, List.map_cons, List.map_nil, run_cons, run_nil, hstep]
    | ok created =>
      obtain ⟨done, hprefix, hrest⟩ := ih db₁
      refine ⟨call :: done, List.cons_prefix_cons.mpr ⟨rfl, hprefix⟩, ?_⟩
      simp only [applyTrackingEvents, hcall, List.map_cons, run_cons, hstep, hrest]

/-- The background refresh is a run of the shared handler over shipments it selected. -/
theorem refreshTracking_eq_run (db : TrackingDB)
    (getTracking : Shipment → Except OMSError (List TrackingCall)) :
    ∃ calls, (db.refreshTracking getTracking).2 = run ingestStep db calls ∧
      ∀ call ∈ calls, ∃ s ∈ db.shipments.rows, refreshSelects s = true ∧
        ∃ event, call = .applyTrackingEvent s.id event := by
  have hloop : ∀ (shipments : List Shipment) (acc : RefreshCounts × TrackingDB),
      ∃ calls, (shipments.foldl (refreshOne getTracking) acc).2 = run ingestStep acc.2 calls ∧
        ∀ call ∈ calls, ∃ s ∈ shipments, ∃ event, call = .applyTrackingEvent s.id event := by
    intro shipments
    induction shipments with
    | nil => exact fun acc => ⟨[], rfl, fun _ h => absurd h List.not_mem_nil⟩
    | cons s shipments ih =>
      rintro ⟨counts, db⟩
      -- one shipment is polled: its events up to the first that raises
      have hone : ∃ calls : List TrackingCall, (refreshOne getTracking (counts, db) s).2 =
          run ingestStep db (calls.map (.applyTrackingEvent s.id)) := by
        unfold refreshOne
        cases getTracking s with
        | error _ => exact ⟨[], rfl⟩
        | ok events =>
          obtain ⟨done, -, hrun⟩ := applyTrackingEvents_eq_run db s.id events
          refine ⟨done, ?_⟩
          rw [← hrun]
          dsimp only
          split <;> simp only [*]
      obtain ⟨first, hfirst⟩ := hone
      obtain ⟨rest, hrest, hmem⟩ := ih (refreshOne getTracking (counts, db) s)
      refine ⟨first.map (.applyTrackingEvent s.id) ++ rest, ?_, ?_⟩
      · rw [List.foldl_cons, hrest, hfirst, run_append]
      · intro call hcall
        rcases List.mem_append.mp hcall with hcall | hcall
        · obtain ⟨event, -, rfl⟩ := List.mem_map.mp hcall
          exact ⟨s, List.mem_cons_self, event, rfl⟩
        · obtain ⟨s', hs', hevent⟩ := hmem call hcall
          exact ⟨s', List.mem_cons_of_mem s hs', hevent⟩
  obtain ⟨calls, hrun, hmem⟩ := hloop (db.shipments.rows.filter refreshSelects)
    ({ received := (db.shipments.rows.filter refreshSelects).length }, db)
  refine ⟨calls, hrun, fun call hcall => ?_⟩
  obtain ⟨s, hs, hevent⟩ := hmem call hcall
  exact ⟨s, (List.mem_filter.mp hs).1, (List.mem_filter.mp hs).2, hevent⟩

end AnyText

/-! ## Section 6: A delivered shipment that nothing deducts -/

/-- A shipment with an AWB that the courier has not picked up. -/
def parcel : Shipment where
  id := 70
  orderId := 7
  sourceSystem := some .shiprocket
  externalId := some "9001"
  shiprocketShipmentId := some "9001"
  awb := some "77931116852"

/-- Its order of one unit, and ten boxes in stock. -/
def awaitingPickup : TrackingDB where
  orders := {
    stock := {
      variants := Stock.twoOrders.variants
      orderItems := Table.ofList
        [{ orderId := 7, productVariantId := some 1, sku := "TEA-60", quantity := 1 }]
        (by decide) }
    orders := Table.ofList [{ id := 7, orderNumber := "#AWL7" }] (by decide) }
  shipments := Table.ofList [parcel] (by decide)

/-- The courier reports a status. -/
def reported (status : String) (eventTimestamp : Instant) : NormalizedEvent where
  status := status
  eventTimestamp := some eventTimestamp

/-- Picked up with a dispatch that works, the parcel may be reported delivered on demand. -/
theorem allCovered_throughout_pickup :
    Throughout ingestStep TrackingDB.AllCovered awaitingPickup
      [.applyTrackingEvent 70 { event := reported "PICKED UP" 50 },
        .refreshTrackingForShipment 70 (.ok [reported "DELIVERED" 100])] := by
  refine allCovered_throughout (by decide) ⟨?_, ?_, True.intro⟩
  · intro hraises
    cases hraises
  · rintro events heq e - - - s hs -
    have horder : ∀ s ∈ (ingestStep awaitingPickup (.applyTrackingEvent 70
        { event := reported "PICKED UP" 50 })).shipments.rows, s.orderId = 7 := by decide
    rw [horder s hs]
    decide

/-- A refresh on demand that reports `DELIVERED`, and likewise a pull sync that lists the
shipment as delivered, leaves a delivered shipment without any movement and without any
later poll; so does a tracking event whose dispatch raises. -/
theorem delivered_without_deduction :
    awaitingPickup.AllCovered ∧
    ¬ (ingestStep awaitingPickup
        (.refreshTrackingForShipment 70 (.ok [reported "DELIVERED" 100]))).AllCovered ∧
    ¬ (ingestStep awaitingPickup (.upsertShipment
        { externalId := "9001", currentStatus := some .delivered } {})).AllCovered ∧
    ¬ (ingestStep awaitingPickup (.applyTrackingEvent 70
        { event := reported "DELIVERED" 100, dispatchRaises := true })).AllCovered := by
  decide

end AyushOms.Tracking
