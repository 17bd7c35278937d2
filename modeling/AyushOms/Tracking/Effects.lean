import AyushOms.Inventory.Ledger
import AyushOms.Tracking.Service

/-!
# What Tracking Writes

One lemma for each service call of tracking ingestion: which status it writes to which
shipment, and what it does to the stock. Everything proved about tracking follows from
these.
-/

namespace AyushOms.Tracking

open AyushOms.Lib AyushOms.Orders AyushOms.Inventory

namespace TrackingDB

/-! ## Section 1: Two relations between database states -/

/-- The shipments are the same, with the same orders and AWBs; `status`, if any, has been
written to the one shipment and no status to any other. -/
def StatusWritten (db db' : TrackingDB) (id : UUID) (status : Option ShipmentStatus) : Prop :=
  ∃ f : Shipment → Shipment, db'.shipments.rows = db.shipments.rows.map f ∧
    ∀ s, (f s).id = s.id ∧ (f s).orderId = s.orderId ∧ (f s).awb = s.awb ∧
      (f s).currentStatus = if s.id = id then status.getD s.currentStatus else s.currentStatus

theorem StatusWritten.of_shipments_eq {db db' : TrackingDB} (id : UUID)
    (h : db'.shipments = db.shipments) : StatusWritten db db' id none :=
  ⟨fun s => s, by rw [h, List.map_id'], fun s => by simp⟩

theorem StatusWritten.trans {db db' db'' : TrackingDB} {id : UUID}
    {status status' : Option ShipmentStatus} (h : StatusWritten db db' id status)
    (h' : StatusWritten db' db'' id status') :
    StatusWritten db db'' id (status'.or status) := by
  obtain ⟨f, hrows, hf⟩ := h
  obtain ⟨g, hrows', hg⟩ := h'
  -- the later status wins on the shipment, no other row changes
  refine ⟨g ∘ f, by rw [hrows', hrows, List.map_map], fun s => ?_⟩
  obtain ⟨hid, horder, hawb, hstatus⟩ := hf s
  obtain ⟨hid', horder', hawb', hstatus'⟩ := hg (f s)
  refine ⟨hid'.trans hid, horder'.trans horder, hawb'.trans hawb, ?_⟩
  rw [Function.comp_apply, hstatus', hid, hstatus]
  by_cases hs : s.id = id
  · cases status' <;> simp [hs]
  · simp [hs]

/-- A row afterwards comes from the row it was. -/
theorem StatusWritten.mem {db db' : TrackingDB} {id : UUID} {status : Option ShipmentStatus}
    (h : StatusWritten db db' id status) {s' : Shipment} (hs' : s' ∈ db'.shipments.rows) :
    ∃ s ∈ db.shipments.rows, s'.id = s.id ∧ s'.orderId = s.orderId ∧ s'.awb = s.awb ∧
      s'.currentStatus = if s.id = id then status.getD s.currentStatus else s.currentStatus := by
  obtain ⟨f, hrows, hf⟩ := h
  rw [hrows, List.mem_map] at hs'
  obtain ⟨s, hs, rfl⟩ := hs'
  exact ⟨s, hs, hf s⟩

/-- The shipment itself afterwards. -/
theorem StatusWritten.of_mem {db db' : TrackingDB} {status : Option ShipmentStatus}
    {s : Shipment} (h : StatusWritten db db' s.id status) (hs : s ∈ db.shipments.rows) :
    ∃ s' ∈ db'.shipments.rows, s'.id = s.id ∧ s'.orderId = s.orderId ∧ s'.awb = s.awb ∧
      s'.currentStatus = status.getD s.currentStatus := by
  obtain ⟨f, hrows, hf⟩ := h
  refine ⟨f s, by rw [hrows]; exact List.mem_map_of_mem hs, ?_⟩
  simpa using hf s

/-- A later state of the stock: it has only evolved, and the order lines are the same. -/
structure StockLater (db db' : TrackingDB) : Prop where
  evolves : Stock.Evolves db.orders.stock db'.orders.stock
  items : db'.orders.stock.orderItems = db.orders.stock.orderItems

theorem StockLater.of_orders_eq {db db' : TrackingDB} (h : db'.orders = db.orders) :
    StockLater db db' := by
  refine ⟨?_, by rw [h]⟩
  rw [h]
  exact Stock.Evolves.refl _

theorem StockLater.trans {db db' db'' : TrackingDB} (h : StockLater db db')
    (h' : StockLater db' db'') : StockLater db db'' :=
  ⟨h.evolves.trans h'.evolves, h'.items.trans h.items⟩

/-- A deducted order stays deducted. -/
theorem StockLater.deducted {db db' : TrackingDB} (h : StockLater db db') {orderId : UUID}
    (hded : db.orders.stock.Deducted orderId) : db'.orders.stock.Deducted orderId :=
  hded.later h.evolves h.items

/-! ## Section 2: The services -/

theorem statusWritten_updateShipmentRow {db : TrackingDB} {id : UUID}
    {f : Table.KeyPreserving Shipment.keys} {status : Option ShipmentStatus}
    (hf : ∀ s, (f s).id = s.id ∧ (f s).orderId = s.orderId ∧ (f s).awb = s.awb ∧
      (f s).currentStatus = status.getD s.currentStatus) :
    StatusWritten db (db.updateShipmentRow id f) id status := by
  refine ⟨fun s => if s.id == id then f s else s, rfl, fun s => ?_⟩
  by_cases hs : s.id = id
  · simpa [hs] using hf s
  · simp [hs]

/-- A row rewritten in other columns keeps its status. -/
theorem statusWritten_of_unchanged {db : TrackingDB} {id : UUID}
    {f : Table.KeyPreserving Shipment.keys}
    (hf : ∀ s, (f s).id = s.id ∧ (f s).orderId = s.orderId ∧ (f s).awb = s.awb ∧
      (f s).currentStatus = s.currentStatus) :
    StatusWritten db (db.updateShipmentRow id f) id none :=
  statusWritten_updateShipmentRow hf

theorem addTrackingEvent_eq_ok {db db' : TrackingDB} {id : UUID} {e : NormalizedEvent}
    {eventTimestamp : Instant} {source : String} {created : Bool}
    (h : db.addTrackingEvent id e eventTimestamp source = .ok (created, db')) :
    StatusWritten db db' id none ∧ db'.orders = db.orders ∧ db'.rtos = db.rtos := by
  unfold addTrackingEvent at h
  split at h
  · cases h
  · split at h
    · split at h
      · cases h
      · cases h
        refine ⟨?_, rfl, rfl⟩
        exact statusWritten_of_unchanged fun _ => ⟨rfl, rfl, rfl, rfl⟩
    · cases h
      exact ⟨StatusWritten.of_shipments_eq id rfl, rfl, rfl⟩
    · cases h

theorem statusWritten_updateStatus (db : TrackingDB) (id : UUID)
    (status : Option ShipmentStatus) : StatusWritten db (db.updateStatus id status) id status := by
  cases status with
  | none => exact StatusWritten.of_shipments_eq id rfl
  | some status => exact statusWritten_updateShipmentRow fun _ => ⟨rfl, rfl, rfl, rfl⟩

theorem orders_updateStatus (db : TrackingDB) (id : UUID) (status : Option ShipmentStatus) :
    (db.updateStatus id status).orders = db.orders ∧
      (db.updateStatus id status).rtos = db.rtos := by
  cases status <;> exact ⟨rfl, rfl⟩

theorem upsertSyncedRto_eq_ok {db db' : TrackingDB} {data : SyncedRTO} {rtoId : UUID}
    (h : db.upsertSyncedRto data = .ok (rtoId, db')) :
    StatusWritten db db' data.shipmentId none ∧ db'.orders = db.orders := by
  -- the shipment gets its `rto_status`, a column of its own
  have hrow : ∀ rtos : RTOTable, StatusWritten db
      ({ db with rtos := rtos }.updateRtoStatus data.shipmentId data.status)
      data.shipmentId none := fun rtos =>
    statusWritten_of_unchanged fun _ => ⟨rfl, rfl, rfl, rfl⟩
  unfold upsertSyncedRto at h
  split at h
  · dsimp only at h
    split at h
    · cases h
    · cases h
      exact ⟨hrow _, rfl⟩
  · cases h
    exact ⟨hrow _, rfl⟩
  · cases h

theorem stockLater_dispatchEffect (db : TrackingDB) (shipment : Shipment)
    (call : TrackingCall) (status : ShipmentStatus) :
    StockLater db (db.dispatchEffect shipment call status) := by
  unfold dispatchEffect
  split
  · exact ⟨Stock.evolves_applyItems _ _ _ _, Stock.orderItems_applyItems _ _ _ _⟩
  · exact StockLater.of_orders_eq rfl

theorem stockLater_restockEffect (db : TrackingDB) (shipment : Shipment)
    (call : TrackingCall) (status : RTOStatus) (rtoId : UUID) :
    StockLater db (db.restockEffect shipment call status rtoId) := by
  unfold restockEffect
  split
  · exact ⟨Stock.evolves_applyItems _ _ _ _, Stock.orderItems_applyItems _ _ _ _⟩
  · exact StockLater.of_orders_eq rfl

theorem shipments_dispatchEffect (db : TrackingDB) (shipment : Shipment)
    (call : TrackingCall) (status : ShipmentStatus) :
    (db.dispatchEffect shipment call status).shipments = db.shipments := by
  unfold dispatchEffect
  split <;> rfl

theorem shipments_restockEffect (db : TrackingDB) (shipment : Shipment)
    (call : TrackingCall) (status : RTOStatus) (rtoId : UUID) :
    (db.restockEffect shipment call status rtoId).shipments = db.shipments := by
  unfold restockEffect
  split <;> rfl

/-- A dispatch that does not raise deducts the shipment's order. -/
theorem deducted_dispatchEffect (db : TrackingDB) (shipment : Shipment) {call : TrackingCall}
    {status : ShipmentStatus} (hstatus : status ∈ dispatchedStatuses)
    (hcall : call.dispatchRaises = false) :
    (db.dispatchEffect shipment call status).orders.stock.Deducted shipment.orderId := by
  unfold dispatchEffect
  rw [if_pos ⟨hstatus, hcall⟩]
  exact Stock.deducted_applyDispatch _ _ _

section AnyText

variable [PyText]

/-- Recording an event writes its status and nothing to stock or returns. -/
theorem recordEvent_eq_ok {db db' : TrackingDB} {id : UUID} {e : NormalizedEvent}
    {eventTimestamp : Instant} {source : String} {created : Bool}
    (h : db.recordEvent id e eventTimestamp source = .ok (created, db')) :
    StatusWritten db db' id e.mappedStatus ∧ db'.orders = db.orders ∧ db'.rtos = db.rtos := by
  unfold recordEvent at h
  cases hadd : db.addTrackingEvent id e eventTimestamp source with
  | error raised =>
    rw [hadd] at h
    cases h
  | ok added =>
    obtain ⟨created', db₁⟩ := added
    rw [hadd] at h
    cases h
    obtain ⟨hwritten, horders, hrtos⟩ := addTrackingEvent_eq_ok hadd
    obtain ⟨horders', hrtos'⟩ := orders_updateStatus db₁ id e.mappedStatus
    refine ⟨?_, horders'.trans horders, hrtos'.trans hrtos⟩
    have h := hwritten.trans (statusWritten_updateStatus db₁ id e.mappedStatus)
    rwa [Option.or_none] at h

end AnyText

/-- The effects of a status write no further status, move stock forward, and deduct the
order of a dispatched status unless the dispatch raises. -/
theorem statusEffects_spec (db : TrackingDB) (shipment : Shipment) (call : TrackingCall)
    (status : ShipmentStatus) :
    let db' := (db.statusEffects shipment call status).2
    StatusWritten db db' shipment.id none ∧ StockLater db db' ∧
      (status ∈ dispatchedStatuses → call.dispatchRaises = false →
        db'.orders.stock.Deducted shipment.orderId) := by
  have hwritten : StatusWritten db (db.dispatchEffect shipment call status) shipment.id none :=
    StatusWritten.of_shipments_eq _ (shipments_dispatchEffect _ _ _ _)
  have hlater := stockLater_dispatchEffect db shipment call status
  unfold statusEffects
  dsimp only
  split
  · exact ⟨hwritten, hlater, deducted_dispatchEffect db shipment⟩
  · rename_i rtoStatus hrto
    -- a status with a return is not a dispatched one
    have hno : ∀ db' : TrackingDB, status ∈ dispatchedStatuses → call.dispatchRaises = false →
        db'.orders.stock.Deducted shipment.orderId := by
      intro db' hstatus
      rw [rtoStatus_of_dispatched hstatus] at hrto
      cases hrto
    split
    · exact ⟨hwritten, hlater, hno _⟩
    · rename_i rtoId db₁ hupsert
      obtain ⟨hwritten₁, horders₁⟩ := upsertSyncedRto_eq_ok hupsert
      refine ⟨?_, ?_, hno _⟩
      · exact (hwritten.trans hwritten₁).trans
          (StatusWritten.of_shipments_eq _ (shipments_restockEffect _ _ _ _ _))
      · exact (hlater.trans (StockLater.of_orders_eq horders₁)).trans
          (stockLater_restockEffect _ _ _ _ _)

section AnyText

variable [PyText]

/-- The event carries a timestamp and can be recorded, or is recorded already. -/
def Recordable (db : TrackingDB) (id : UUID) (call : TrackingCall) : Prop :=
  ∃ eventTimestamp created db', call.event.eventTimestamp = some eventTimestamp ∧
    db.recordEvent id call.event eventTimestamp call.source = .ok (created, db')

instance (db : TrackingDB) (id : UUID) (call : TrackingCall) :
    Decidable (db.Recordable id call) :=
  decidable_of_iff
    (call.event.eventTimestamp.any (fun eventTimestamp =>
      (db.recordEvent id call.event eventTimestamp call.source).isOk) = true) (by
    cases hat : call.event.eventTimestamp with
    | none => simp [Recordable, hat]
    | some eventTimestamp =>
      cases hrecord : db.recordEvent id call.event eventTimestamp call.source with
      | error raised => simp [Recordable, hat, hrecord, Except.isOk, Except.toBool]
      | ok result =>
        have h : db.Recordable id call := ⟨eventTimestamp, result.1, result.2, hat, hrecord⟩
        simp only [Option.any_some, hrecord, Except.isOk, Except.toBool, h])

/-- A recorded event's status is written; its effects follow. -/
theorem applyTrackingEvent_of_recordable {db : TrackingDB} {id : UUID} {call : TrackingCall}
    (h : db.Recordable id call) :
    ∃ shipment ∈ db.shipments.rows, shipment.id = id ∧
      let db' := (db.applyTrackingEvent id call).2
      StatusWritten db db' id call.event.mappedStatus ∧ StockLater db db' ∧
        ∀ status ∈ dispatchedStatuses, call.event.mappedStatus = some status →
          call.dispatchRaises = false → db'.orders.stock.Deducted shipment.orderId := by
  obtain ⟨eventTimestamp, created, db₁, hat, hrecord⟩ := h
  cases hshipment : db.getShipment id with
  | none => simp [recordEvent, addTrackingEvent, hshipment, bind, Except.bind] at hrecord
  | some shipment =>
    obtain ⟨hmem, rfl⟩ := getShipment_eq_some.mp hshipment
    refine ⟨shipment, hmem, rfl, ?_⟩
    obtain ⟨hwritten, horders, -⟩ := recordEvent_eq_ok hrecord
    have hlater : StockLater db db₁ := StockLater.of_orders_eq horders
    simp only [applyTrackingEvent, hat, hshipment, hrecord]
    -- an unmapped status is recorded and has no effects
    cases hmapped : call.event.mappedStatus with
    | none =>
      rw [hmapped] at hwritten
      exact ⟨hwritten, hlater, fun _ _ h => nomatch h⟩
    | some status =>
      obtain ⟨hwritten', hlater', hded⟩ := statusEffects_spec db₁ shipment call status
      rw [hmapped] at hwritten
      refine ⟨hwritten.trans hwritten', hlater.trans hlater', ?_⟩
      rintro status' hstatus' heq
      cases heq
      exact hded hstatus'

/-- A call whose event is not recorded leaves the database as it was. -/
theorem applyTrackingEvent_of_not_recordable {db : TrackingDB} {id : UUID}
    {call : TrackingCall} (h : ¬ db.Recordable id call) :
    (db.applyTrackingEvent id call).2 = db := by
  unfold applyTrackingEvent
  split
  · rfl
  · rename_i eventTimestamp hat
    split
    · rfl
    · split
      · rfl
      · rename_i created db₁ hrecord
        exact absurd ⟨eventTimestamp, created, db₁, hat, hrecord⟩ h

end AnyText

/-! ## Section 3: Returns to origin -/

/-- A return found under the key is rewritten and keeps its id. -/
theorem upsertSyncedRto_of_single (db : TrackingDB) (data : SyncedRTO) {r : RTO}
    (h : db.rtosByExternalId .shiprocket data.externalId = [r]) :
    ∃ db', db.upsertSyncedRto data = .ok (r.id, db') ∧
      db'.rtos.rows = db.rtos.rows.map fun x => if x.id == r.id then data.write x else x := by
  simp only [upsertSyncedRto, h]
  exact ⟨_, rfl, rfl⟩

/-- An upsert rewrites the one return found, or adds one under an id of its own. -/
theorem rtos_upsertSyncedRto {db db' : TrackingDB} {data : SyncedRTO} {rtoId : UUID}
    (h : db.upsertSyncedRto data = .ok (rtoId, db')) :
    (∃ r, db.rtosByExternalId .shiprocket data.externalId = [r] ∧
      db'.rtos.rows = db.rtos.rows.map fun x => if x.id == r.id then data.write x else x) ∨
    (∃ new, (∀ r ∈ db.rtos.rows, r.id ≠ new.id) ∧ db'.rtos.rows = db.rtos.rows ++ [new]) := by
  unfold upsertSyncedRto at h
  split at h
  · dsimp only at h
    split at h
    · cases h
    · rename_i rtos hinsert
      cases h
      obtain ⟨-, hfree, hrows⟩ := Table.insert?_eq_some_iff.mp hinsert
      -- the insertion was accepted, so no row has the new id
      refine .inr ⟨_, fun r hr hid => ?_, hrows⟩
      exact hfree (.id r.id) (by simp [RTO.keys, hid]) r hr (by simp [RTO.keys])
  · rename_i existing hexisting
    cases h
    exact .inl ⟨existing, hexisting, rfl⟩
  · cases h

theorem rtos_dispatchEffect (db : TrackingDB) (shipment : Shipment) (call : TrackingCall)
    (status : ShipmentStatus) : (db.dispatchEffect shipment call status).rtos = db.rtos := by
  unfold dispatchEffect
  split <;> rfl

theorem rtos_restockEffect (db : TrackingDB) (shipment : Shipment) (call : TrackingCall)
    (status : RTOStatus) (rtoId : UUID) :
    (db.restockEffect shipment call status rtoId).rtos = db.rtos := by
  unfold restockEffect
  split <;> rfl

/-- The returns after a status: as they were; or, for a status that concerns a return, the
single return under the shipment's AWB rewritten with it, or a new one added. -/
theorem rtos_statusEffects (db : TrackingDB) (shipment : Shipment) (call : TrackingCall)
    (status : ShipmentStatus) :
    let db' := (db.statusEffects shipment call status).2
    db'.rtos = db.rtos ∨ ∃ rtoStatus, rtoStatusFromShipmentStatus status = some rtoStatus ∧
      ((∃ r, ∃ write : RTO → RTO, db.rtosByExternalId .shiprocket shipment.awb = [r] ∧
        (∀ x, (write x).id = x.id ∧ (write x).status = rtoStatus) ∧
        db'.rtos.rows = db.rtos.rows.map fun x => if x.id == r.id then write x else x) ∨
      (∃ new, (∀ r ∈ db.rtos.rows, r.id ≠ new.id) ∧
        db'.rtos.rows = db.rtos.rows ++ [new])) := by
  have hdispatch := rtos_dispatchEffect db shipment call status
  unfold statusEffects
  dsimp only
  split
  · exact .inl hdispatch
  · rename_i rtoStatus hrto
    split
    · exact .inl hdispatch
    · rename_i rtoId db₁ hupsert
      refine .inr ⟨rtoStatus, hrto, ?_⟩
      dsimp only
      rw [rtos_restockEffect]
      have hrows := rtos_upsertSyncedRto hupsert
      simp only [rtosByExternalId, hdispatch] at hrows ⊢
      rcases hrows with ⟨r, hr, hrows⟩ | hnew
      · exact .inl ⟨r, SyncedRTO.write _, hr, fun x => ⟨rfl, rfl⟩, hrows⟩
      · exact .inr hnew

/-- A status that concerns a return is written to the single one under the AWB. -/
theorem rtos_statusEffects_of_single {db : TrackingDB} {shipment : Shipment}
    {call : TrackingCall} {status : ShipmentStatus} {rtoStatus : RTOStatus} {r : RTO}
    (hrto : rtoStatusFromShipmentStatus status = some rtoStatus)
    (hr : db.rtosByExternalId .shiprocket shipment.awb = [r]) :
    ∃ r' ∈ (db.statusEffects shipment call status).2.rtos.rows,
      r'.id = r.id ∧ r'.status = rtoStatus := by
  have hdispatch := rtos_dispatchEffect db shipment call status
  have hmem : r ∈ db.rtos.rows := by
    have h : r ∈ db.rtosByExternalId .shiprocket shipment.awb := by simp [hr]
    exact (List.mem_filter.mp h).1
  obtain ⟨db₁, hupsert, hrows⟩ := upsertSyncedRto_of_single (db.dispatchEffect shipment call status)
    ⟨shipment.awb, shipment.id, shipment.orderId, shipment.courierId, rtoStatus,
      call.event.description⟩ (by simpa only [rtosByExternalId, hdispatch] using hr)
  simp only [statusEffects, hrto, hupsert, rtos_restockEffect, hrows, hdispatch]
  refine ⟨_, List.mem_map_of_mem hmem, ?_⟩
  simp [SyncedRTO.write]

section AnyText

variable [PyText]

/-- The returns after one tracking event. -/
theorem rtos_applyTrackingEvent {db : TrackingDB} {s : Shipment} (hs : s ∈ db.shipments.rows)
    (call : TrackingCall) :
    let db' := (db.applyTrackingEvent s.id call).2
    db'.rtos = db.rtos ∨ ∃ status rtoStatus, db.Recordable s.id call ∧
      call.event.mappedStatus = some status ∧
      rtoStatusFromShipmentStatus status = some rtoStatus ∧
      ((∃ r, ∃ write : RTO → RTO, db.rtosByExternalId .shiprocket s.awb = [r] ∧
        (∀ x, (write x).id = x.id ∧ (write x).status = rtoStatus) ∧
        db'.rtos.rows = db.rtos.rows.map fun x => if x.id == r.id then write x else x) ∨
      (∃ new, (∀ r ∈ db.rtos.rows, r.id ≠ new.id) ∧
        db'.rtos.rows = db.rtos.rows ++ [new])) := by
  by_cases hrec : db.Recordable s.id call
  · -- recording leaves the returns alone, so only the effects matter
    obtain ⟨eventTimestamp, created, db₁, hat, hrecord⟩ := hrec
    obtain ⟨-, -, hrtos⟩ := recordEvent_eq_ok hrecord
    have hget := getShipment_eq_some.mpr ⟨hs, rfl⟩
    simp only [applyTrackingEvent, hat, hget, hrecord]
    cases hmapped : call.event.mappedStatus with
    | none => exact .inl hrtos
    | some status =>
      have heffects := rtos_statusEffects db₁ s call status
      simp only [rtosByExternalId, hrtos] at heffects ⊢
      rcases heffects with hsame | ⟨rtoStatus, hrto, hrows⟩
      · exact .inl hsame
      · exact .inr ⟨status, rtoStatus, ⟨eventTimestamp, created, db₁, hat, hrecord⟩, rfl, hrto,
          hrows⟩
  · left
    rw [applyTrackingEvent_of_not_recordable hrec]

/-- A recorded event of a return is written to the single one under the AWB. -/
theorem rtos_applyTrackingEvent_of_single {db : TrackingDB} {s : Shipment}
    (hs : s ∈ db.shipments.rows) {call : TrackingCall} (hrec : db.Recordable s.id call)
    {status : ShipmentStatus} {rtoStatus : RTOStatus} {r : RTO}
    (hmapped : call.event.mappedStatus = some status)
    (hrto : rtoStatusFromShipmentStatus status = some rtoStatus)
    (hr : db.rtosByExternalId .shiprocket s.awb = [r]) :
    ∃ r' ∈ (db.applyTrackingEvent s.id call).2.rtos.rows, r'.id = r.id ∧ r'.status = rtoStatus := by
  obtain ⟨eventTimestamp, created, db₁, hat, hrecord⟩ := hrec
  obtain ⟨-, -, hrtos⟩ := recordEvent_eq_ok hrecord
  have hget := getShipment_eq_some.mpr ⟨hs, rfl⟩
  simp only [applyTrackingEvent, hat, hget, hrecord, hmapped]
  refine rtos_statusEffects_of_single hrto ?_
  simpa only [rtosByExternalId, hrtos] using hr

end AnyText

end TrackingDB

end AyushOms.Tracking
