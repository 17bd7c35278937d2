import AyushOms.Tracking.Effects

/-!
# What Tracking Leaves Alone

Tracking writes statuses, places and times. The columns a shipment is found by (its ids,
its AWB, its order) and the shop's orders are the same after any number of events, whether
the events are recorded, repeated or raise.
-/

namespace AyushOms.Tracking

open AyushOms.Lib AyushOms.Orders AyushOms.Inventory

/-! ## Section 1: Identities -/

/-- The columns a shipment is found by are the same. -/
structure Shipment.SameIdentity (s s' : Shipment) : Prop where
  id_eq : s'.id = s.id
  orderId_eq : s'.orderId = s.orderId
  sourceSystem_eq : s'.sourceSystem = s.sourceSystem
  externalId_eq : s'.externalId = s.externalId
  shiprocketShipmentId_eq : s'.shiprocketShipmentId = s.shiprocketShipmentId
  awb_eq : s'.awb = s.awb

theorem Shipment.SameIdentity.refl (s : Shipment) : s.SameIdentity s :=
  ⟨rfl, rfl, rfl, rfl, rfl, rfl⟩

theorem Shipment.SameIdentity.trans {s s' s'' : Shipment} (h : s.SameIdentity s')
    (h' : s'.SameIdentity s'') : s.SameIdentity s'' where
  id_eq := h'.id_eq.trans h.id_eq
  orderId_eq := h'.orderId_eq.trans h.orderId_eq
  sourceSystem_eq := h'.sourceSystem_eq.trans h.sourceSystem_eq
  externalId_eq := h'.externalId_eq.trans h.externalId_eq
  shiprocketShipmentId_eq := h'.shiprocketShipmentId_eq.trans h.shiprocketShipmentId_eq
  awb_eq := h'.awb_eq.trans h.awb_eq

namespace TrackingDB

/-- The same shipments under the same identities, and the same orders. -/
structure IdentitiesKept (db db' : TrackingDB) : Prop where
  shipments : ∃ f : Shipment → Shipment, db'.shipments.rows = db.shipments.rows.map f ∧
    ∀ s : Shipment, s.SameIdentity (f s)
  orders : db'.orders.orders = db.orders.orders

theorem IdentitiesKept.of_tables_eq {db db' : TrackingDB} (hs : db'.shipments = db.shipments)
    (ho : db'.orders.orders = db.orders.orders) : IdentitiesKept db db' :=
  ⟨⟨id, by rw [hs, List.map_id], Shipment.SameIdentity.refl⟩, ho⟩

theorem IdentitiesKept.refl (db : TrackingDB) : IdentitiesKept db db := .of_tables_eq rfl rfl

theorem IdentitiesKept.trans {db db' db'' : TrackingDB} (h : IdentitiesKept db db')
    (h' : IdentitiesKept db' db'') : IdentitiesKept db db'' := by
  obtain ⟨f, hrows, hf⟩ := h.shipments
  obtain ⟨g, hrows', hg⟩ := h'.shipments
  exact ⟨⟨g ∘ f, by rw [hrows', hrows, List.map_map], fun s => (hf s).trans (hg (f s))⟩,
    h'.orders.trans h.orders⟩

theorem IdentitiesKept.updateShipmentRow {db : TrackingDB} {id : UUID}
    {f : Table.KeyPreserving Shipment.keys} (hf : ∀ s : Shipment, s.SameIdentity (f s)) :
    IdentitiesKept db (db.updateShipmentRow id f) := by
  refine ⟨⟨fun s => if s.id == id then f s else s, rfl, fun s => ?_⟩, rfl⟩
  by_cases hs : s.id = id
  · simpa [hs] using hf s
  · simpa [hs] using Shipment.SameIdentity.refl s

/-- A row before is there afterwards. -/
theorem IdentitiesKept.of_mem {db db' : TrackingDB} (h : IdentitiesKept db db') {s : Shipment}
    (hs : s ∈ db.shipments.rows) : ∃ s' ∈ db'.shipments.rows, s.SameIdentity s' := by
  obtain ⟨f, hrows, hf⟩ := h.shipments
  exact ⟨f s, hrows ▸ List.mem_map_of_mem hs, hf s⟩

/-- A row afterwards was there before. -/
theorem IdentitiesKept.mem {db db' : TrackingDB} (h : IdentitiesKept db db') {s' : Shipment}
    (hs' : s' ∈ db'.shipments.rows) : ∃ s ∈ db.shipments.rows, s.SameIdentity s' := by
  obtain ⟨f, hrows, hf⟩ := h.shipments
  rw [hrows, List.mem_map] at hs'
  obtain ⟨s, hs, rfl⟩ := hs'
  exact ⟨s, hs, hf s⟩

/-! ## Section 2: The services -/

theorem identitiesKept_updateStatus (db : TrackingDB) (id : UUID)
    (status : Option ShipmentStatus) : IdentitiesKept db (db.updateStatus id status) := by
  cases status with
  | none => exact IdentitiesKept.refl db
  | some status => exact .updateShipmentRow fun _ => ⟨rfl, rfl, rfl, rfl, rfl, rfl⟩

theorem identitiesKept_updateRtoStatus (db : TrackingDB) (id : UUID) (status : RTOStatus) :
    IdentitiesKept db (db.updateRtoStatus id status) :=
  .updateShipmentRow fun _ => ⟨rfl, rfl, rfl, rfl, rfl, rfl⟩

theorem identitiesKept_addTrackingEvent {db db' : TrackingDB} {id : UUID}
    {e : NormalizedEvent} {eventTimestamp : Instant} {source : String} {created : Bool}
    (h : db.addTrackingEvent id e eventTimestamp source = .ok (created, db')) :
    IdentitiesKept db db' := by
  unfold addTrackingEvent at h
  split at h
  · cases h
  · split at h
    · split at h
      · cases h
      · -- the event is inserted, and the shipment's place and time are written
        rename_i events _
        cases h
        have hevents : IdentitiesKept db { db with events := events } := .of_tables_eq rfl rfl
        exact hevents.trans (.updateShipmentRow fun _ => ⟨rfl, rfl, rfl, rfl, rfl, rfl⟩)
    · cases h
      exact IdentitiesKept.refl db
    · cases h

theorem identitiesKept_upsertSyncedRto {db db' : TrackingDB} {data : SyncedRTO} {rtoId : UUID}
    (h : db.upsertSyncedRto data = .ok (rtoId, db')) : IdentitiesKept db db' := by
  -- created or rewritten, the return is followed by its status on the shipment
  have hrow : ∀ rtos : RTOTable, IdentitiesKept db
      ({ db with rtos := rtos }.updateRtoStatus data.shipmentId data.status) := by
    intro rtos
    have hrtos : IdentitiesKept db { db with rtos := rtos } := .of_tables_eq rfl rfl
    exact hrtos.trans (identitiesKept_updateRtoStatus _ _ _)
  unfold upsertSyncedRto at h
  split at h
  · dsimp only at h
    split at h
    · cases h
    · cases h
      exact hrow _
  · cases h
    exact hrow _
  · cases h

theorem identitiesKept_dispatchEffect (db : TrackingDB) (shipment : Shipment)
    (call : TrackingCall) (status : ShipmentStatus) :
    IdentitiesKept db (db.dispatchEffect shipment call status) := by
  unfold dispatchEffect
  split
  · exact .of_tables_eq rfl rfl
  · exact .refl db

theorem identitiesKept_restockEffect (db : TrackingDB) (shipment : Shipment)
    (call : TrackingCall) (status : RTOStatus) (rtoId : UUID) :
    IdentitiesKept db (db.restockEffect shipment call status rtoId) := by
  unfold restockEffect
  split
  · exact .of_tables_eq rfl rfl
  · exact .refl db

theorem identitiesKept_statusEffects (db : TrackingDB) (shipment : Shipment)
    (call : TrackingCall) (status : ShipmentStatus) :
    IdentitiesKept db (db.statusEffects shipment call status).2 := by
  have hdispatch := identitiesKept_dispatchEffect db shipment call status
  unfold statusEffects
  dsimp only
  split
  · exact hdispatch
  · split
    · exact hdispatch
    · rename_i rtoId db₁ hupsert
      exact (hdispatch.trans (identitiesKept_upsertSyncedRto hupsert)).trans
        (identitiesKept_restockEffect _ _ _ _ _)

section AnyText

variable [PyText]

theorem identitiesKept_recordEvent {db db' : TrackingDB} {id : UUID} {e : NormalizedEvent}
    {eventTimestamp : Instant} {source : String} {created : Bool}
    (h : db.recordEvent id e eventTimestamp source = .ok (created, db')) :
    IdentitiesKept db db' := by
  unfold recordEvent at h
  cases hadd : db.addTrackingEvent id e eventTimestamp source with
  | error raised =>
    rw [hadd] at h
    cases h
  | ok added =>
    rw [hadd] at h
    cases h
    exact (identitiesKept_addTrackingEvent hadd).trans (identitiesKept_updateStatus _ _ _)

theorem identitiesKept_applyTrackingEvent (db : TrackingDB) (id : UUID) (call : TrackingCall) :
    IdentitiesKept db (db.applyTrackingEvent id call).2 := by
  unfold applyTrackingEvent
  split
  · exact .refl db
  · split
    · exact .refl db
    · split
      · exact .refl db
      · rename_i created db₁ hrecord
        have hrecorded := identitiesKept_recordEvent hrecord
        split
        · exact hrecorded
        · exact hrecorded.trans (identitiesKept_statusEffects _ _ _ _)

/-- Any number of events, the one that raises and ends them included. -/
theorem identitiesKept_applyTrackingEvents (id : UUID) (calls : List TrackingCall) :
    ∀ db : TrackingDB, IdentitiesKept db (db.applyTrackingEvents id calls).2 := by
  induction calls with
  | nil => exact IdentitiesKept.refl
  | cons call calls ih =>
    intro db
    have hfirst := identitiesKept_applyTrackingEvent db id call
    unfold applyTrackingEvents
    split
    · rename_i hcall
      rwa [hcall] at hfirst
    · rename_i db₁ hcall
      rw [hcall] at hfirst
      exact hfirst.trans (ih db₁)

end AnyText

end TrackingDB

end AyushOms.Tracking
