import AyushOms.Lib.Run
import AyushOms.Tracking.Parcel

/-!
# Webhook and Pull

The same parcel is reported by webhooks, which find its shipment by AWB, by shipment id or
through its order, and by the pull sync, which finds it by shipment id alone. This file
follows the parcel's row through any sequence of both.

The row decides: one that is stored under the shipment id is found by both ways, and stays.
One that a webhook stores under the AWB, or takes over from another shipment of the order,
is never found by a pull, whose own row its identifiers then exclude.

## Main results

- `Parcel.FiledAs.webhook`: what a webhook does once there is a row
- `Parcel.Unknown.files`, `Parcel.Unknown.misfiles`, `Parcel.Unknown.neither`: what a webhook
  does before there is one
- `Parcel.ingested_iff`: the sequences that leave one complete row and never fail
-/

namespace AyushOms.Tracking

open AyushOms.Lib AyushOms.Orders AyushOms.Inventory TrackingDB

/-! ## Section 1: The row a delivery writes -/

namespace Parcel

variable {p : Parcel}

/-- A sync of a parcel without a row creates it. -/
theorem Unknown.upsertSyncedShipment {db : TrackingDB} (h : p.Unknown db)
    {data : SyncedShipment} (hdata : p.Describes data) :
    ∃ db' id, db.upsertSyncedShipment data p.orderId = .ok (true, db') ∧
      p.FiledAs db' (data.newRow p.orderId id) := by
  let id := OrdersDB.unusedId (db.shipments.rows.map (·.id))
  have hunnamed : ∀ s ∈ db.shipments.rows, p.names s ≠ true := fun s hs => by simp [h s hs]
  have hnone : db.getShipmentByExternalId data.sourceSystem data.externalId = none := by
    refine Table.find?_eq_none.mpr fun s hs hfound => ?_
    simp only [Bool.and_eq_true, beq_iff_eq] at hfound
    exact hunnamed s hs (hdata.names_of_external hfound.1 hfound.2)
  -- its id is new, and whoever has one of its other keys names the parcel
  have hfree : ∀ k ∈ (data.newRow p.orderId id).keys, ∀ s ∈ db.shipments.rows, k ∉ s.keys := by
    intro k hk s hs hks
    by_cases hid : k = .id id
    · have hlt : s.id < id := OrdersDB.lt_unusedId (List.mem_map_of_mem hs)
      have hsame : s.id = id := by simpa [mem_shipmentKeys, hid, eq_comm] using hks
      exact absurd hsame hlt.ne
    · exact hunnamed s hs (hdata.names_of_shared_key hk hid hks)
  cases hins : db.shipments.insert? (data.newRow p.orderId id) with
  | none =>
    obtain ⟨k, hk, s, hs, hks⟩ := (Table.insert?_eq_none_iff (shipmentKeys_nodup _)).mp hins
    exact absurd hks (hfree k hk s hs)
  | some shipments =>
    refine ⟨{ db with shipments := shipments }, id, ?_, ?_⟩
    · simp only [TrackingDB.upsertSyncedShipment, hnone]
      rw [show db.shipments.insert? _ = some shipments from hins]
    · have hrows := Table.rows_of_insert? hins
      refine ⟨by simp [hrows], hdata.names_of_external rfl rfl, rfl, fun s hs hs' => ?_⟩
      simp only [hrows, List.mem_append, List.mem_singleton] at hs
      rcases hs with hold | rfl
      · exact absurd hs' (hunnamed s hold)
      · rfl

/-! ## Section 2: What a webhook is matched to -/

/-- Both lookups by identifier return rows that name the parcel. -/
theorem HasIds.names_of_found {ids : WebhookIds} (h : p.HasIds ids) {db : TrackingDB}
    {s : Shipment}
    (hfound : (pyOr ids.awb none).bind db.getShipmentByAwb = some s ∨
      (pyOr ids.shiprocketShipmentId none).bind (db.getShipmentByExternalId .shiprocket) =
        some s) : s ∈ db.shipments.rows ∧ p.names s = true := by
  rcases hfound with hfound | hfound
  · rcases h.awb with hawb | hawb <;> rw [hawb] at hfound
    · cases hfound
    · rw [pyOr_some p.awb_ne, Option.bind_some] at hfound
      obtain ⟨hs, hsame⟩ := getShipmentByAwb_eq_some hfound
      exact ⟨hs, names_of_carries (by simp [carries, hsame])⟩
  · rcases h.shiprocketShipmentId with hid | hid <;> rw [hid] at hfound
    · cases hfound
    · rw [pyOr_some p.shipmentId_ne, Option.bind_some] at hfound
      obtain ⟨hs, hsource, hexternal⟩ := getShipmentByExternalId_eq_some hfound
      exact ⟨hs, names_of_keyed (by simp [keyed, hsource, hexternal])⟩

theorem Unknown.not_found {ids : WebhookIds} {db : TrackingDB} (h : p.Unknown db)
    (hids : p.HasIds ids) : (pyOr ids.awb none).bind db.getShipmentByAwb = none ∧
      (pyOr ids.shiprocketShipmentId none).bind (db.getShipmentByExternalId .shiprocket) =
        none := by
  constructor <;> refine Option.eq_none_iff_forall_ne_some.mpr fun s hfound => ?_
  · obtain ⟨hs, hnamed⟩ := hids.names_of_found (.inl hfound)
    simp [h s hs] at hnamed
  · obtain ⟨hs, hnamed⟩ := hids.names_of_found (.inr hfound)
    simp [h s hs] at hnamed

/-- A webhook about a parcel with a row is matched to it or to nothing. -/
theorem FiledAs.findOrCreateShipment {db : TrackingDB} {x : Shipment} (h : p.FiledAs db x)
    {d : WebhookDelivery} (hd : p.Concerns db.orders (.webhook d)) :
    ∃ strategy, db.findOrCreateShipment d = .ok (some x.id, strategy, db) ∨
      db.findOrCreateShipment d = .ok (none, strategy, db) := by
  obtain ⟨hawb, hsid, order, strategy, horder, hid⟩ := hd
  have hids : p.HasIds d.ids := ⟨hawb, hsid⟩
  -- the order has this row, so the cascade never gets to the creation
  have hmem : x ∈ db.shipmentsForOrder order.id :=
    List.mem_filter.mpr ⟨h.mem, by simp [h.orderId_eq, hid]⟩
  unfold TrackingDB.findOrCreateShipment
  split
  · rename_i s hfound
    obtain ⟨hs, hnamed⟩ := hids.names_of_found (.inl hfound)
    exact ⟨_, .inl (by rw [h.eq_of_names hs hnamed])⟩
  · split
    · rename_i s hfound
      obtain ⟨hs, hnamed⟩ := hids.names_of_found (.inr hfound)
      exact ⟨_, .inl (by rw [h.eq_of_names hs hnamed])⟩
    · rw [horder]
      dsimp only
      split
      · rename_i existing hrows
        rw [hrows, List.mem_singleton] at hmem
        exact ⟨_, .inl (by rw [hmem])⟩
      · exact ⟨_, .inr rfl⟩
      · rename_i hrows
        rw [hrows] at hmem
        exact absurd hmem List.not_mem_nil

/-- Without a row for the parcel, an order's only shipment is the match. -/
theorem Unknown.adopted {db : TrackingDB} (h : p.Unknown db) {d : WebhookDelivery}
    (hd : p.Concerns db.orders (.webhook d)) {x : Shipment}
    (hone : db.shipmentsForOrder p.orderId = [x]) :
    ∃ strategy, db.findOrCreateShipment d = .ok (some x.id, strategy, db) := by
  obtain ⟨hawb, hsid, order, strategy, horder, hid⟩ := hd
  obtain ⟨hnoAwb, hnoId⟩ := h.not_found ⟨hawb, hsid⟩
  refine ⟨strategy, ?_⟩
  simp only [TrackingDB.findOrCreateShipment, hnoAwb, hnoId, horder, hid, hone]

/-- Without a row for the parcel, and with several shipments of the order or nothing to
store one under, there is no match. -/
theorem Unknown.unmatched {db : TrackingDB} (h : p.Unknown db) {d : WebhookDelivery}
    (hd : p.Concerns db.orders (.webhook d))
    (hnot : (db.shipmentsForOrder p.orderId = [] ∧
        pyOr d.ids.shiprocketShipmentId d.ids.awb = none) ∨
      ∃ x y rest, db.shipmentsForOrder p.orderId = x :: y :: rest) :
    ∃ strategy, db.findOrCreateShipment d = .ok (none, strategy, db) := by
  obtain ⟨hawb, hsid, order, strategy, horder, hid⟩ := hd
  obtain ⟨hnoAwb, hnoId⟩ := h.not_found ⟨hawb, hsid⟩
  rcases hnot with ⟨hnone, hnothing⟩ | ⟨x, y, rest, hmany⟩
  · refine ⟨"order_resolved_no_shipment_identifier", ?_⟩
    simp only [TrackingDB.findOrCreateShipment, hnoAwb, hnoId, horder, hid, hnone, hnothing]
  · refine ⟨"ambiguous_multiple_shipments_for_order", ?_⟩
    simp only [TrackingDB.findOrCreateShipment, hnoAwb, hnoId, horder, hid, hmany]

/-- For an order without shipments the row is created, under the identifier at hand. -/
theorem Unknown.created {db : TrackingDB} (h : p.Unknown db) {d : WebhookDelivery}
    (hd : p.Concerns db.orders (.webhook d)) (hnone : db.shipmentsForOrder p.orderId = [])
    {externalId : String}
    (hexternal : pyOr d.ids.shiprocketShipmentId d.ids.awb = some externalId) :
    ∃ db₁ id strategy, db.findOrCreateShipment d = .ok (some id, strategy, db₁) ∧
      p.FiledAs db₁ ((webhookShipment d.ids externalId).newRow p.orderId id) := by
  obtain ⟨hawb, hsid, order, strategy, horder, hid⟩ := hd
  have hids : p.HasIds d.ids := ⟨hawb, hsid⟩
  obtain ⟨hnoAwb, hnoId⟩ := h.not_found hids
  have hkey : externalId = p.shipmentId ∨ externalId = p.awb := by
    rcases hids.externalId with ⟨-, heq⟩ | ⟨-, heq⟩ <;> rw [heq] at hexternal
    · exact .inl (Option.some.inj hexternal).symm
    · rcases hawb with hnone | hsome
      · rw [hnone] at hexternal
        cases hexternal
      · rw [hsome] at hexternal
        exact .inr (Option.some.inj hexternal).symm
  have hdata : p.Describes (webhookShipment d.ids externalId) := ⟨rfl, hkey, hsid, hawb⟩
  obtain ⟨db₁, id, hupsert, hfiled⟩ := h.upsertSyncedShipment hdata
  -- the row just written is the one the key finds
  have hfound : db₁.getShipmentByExternalId .shiprocket externalId =
      some ((webhookShipment d.ids externalId).newRow p.orderId id) := by
    cases hfind : db₁.getShipmentByExternalId .shiprocket externalId with
    | none =>
      have hmiss := Table.find?_eq_none.mp hfind _ hfiled.mem
      simp [webhookShipment, SyncedShipment.newRow] at hmiss
    | some s =>
      obtain ⟨hs, hsource, hext⟩ := getShipmentByExternalId_eq_some hfind
      rw [hfiled.eq_of_names hs (hdata.names_of_external hsource hext)]
  refine ⟨db₁, id, strategy ++ "_created_shipment", ?_, hfiled⟩
  simp only [TrackingDB.findOrCreateShipment, hnoAwb, hnoId, horder, hid, hnone, hexternal,
    hupsert, hfound]
  rfl

/-! ## Section 3: What a webhook does to its shipment -/

theorem orders_of_upsertSyncedShipment {db db' : TrackingDB} {data : SyncedShipment}
    {orderId : UUID} {created : Bool}
    (h : db.upsertSyncedShipment data orderId = .ok (created, db')) : db'.orders = db.orders := by
  unfold TrackingDB.upsertSyncedShipment at h
  split at h
  · split at h <;> cases h
    rfl
  · dsimp only at h
    split at h <;> cases h
    rfl

theorem orders_of_findOrCreateShipment {db db' : TrackingDB} {d : WebhookDelivery}
    {found : Option UUID} {strategy : String}
    (h : db.findOrCreateShipment d = .ok (found, strategy, db')) : db'.orders = db.orders := by
  unfold TrackingDB.findOrCreateShipment at h
  repeat' split at h
  all_goals try (cases h; rfl)
  · cases h
  · rename_i hupsert
    cases h
    exact orders_of_upsertSyncedShipment hupsert

theorem orders_of_applyIdentifierUpdates {db db' : TrackingDB} {id : UUID} {ids : WebhookIds}
    (h : db.applyIdentifierUpdates id ids = .ok db') : db'.orders = db.orders := by
  unfold TrackingDB.applyIdentifierUpdates at h
  split at h
  · cases h
  · dsimp only at h
    split at h
    · cases h
      rfl
    · split at h <;> cases h
      rfl

section AnyText

variable [PyText]

/-- No delivery touches the shop's orders, so what it resolves to stays. -/
theorem orders_ingest (db : TrackingDB) (e : Delivery) :
    (db.ingest e).orders.orders = db.orders.orders := by
  cases e with
  | pull data env =>
    simp only [TrackingDB.ingest]
    cases hupsert : db.upsertShipment data env with
    | error raised => rfl
    | ok upserted =>
      cases horder : db.orderForShipment data env with
      | error raised => simp [TrackingDB.upsertShipment, horder, bind, Except.bind] at hupsert
      | ok orderId =>
        have hsynced : db.upsertSyncedShipment data orderId = .ok upserted := by
          simpa only [TrackingDB.upsertShipment, horder, bind, Except.bind] using hupsert
        rw [orders_of_upsertSyncedShipment hsynced]
  | webhook d =>
    simp only [TrackingDB.ingest, TrackingDB.applyTrackingWebhook]
    cases hfind : db.findOrCreateShipment d with
    | error raised => rfl
    | ok found =>
      obtain ⟨_ | id, strategy, db₁⟩ := found
      · simp only [orders_of_findOrCreateShipment hfind]
      · have hkept := (identitiesKept_applyTrackingEvents id d.trackingCalls db₁).orders
        rw [orders_of_findOrCreateShipment hfind] at hkept
        dsimp only
        split
        · rename_i htracked
          rwa [htracked] at hkept
        · rename_i htracked
          rw [htracked] at hkept
          split
          · exact hkept
          · rename_i hupdated
            rw [orders_of_applyIdentifierUpdates hupdated]
            exact hkept

/-- A webhook whose events raise leaves what the events had committed. -/
theorem ingest_of_raised {db db₁ db₂ : TrackingDB} {d : WebhookDelivery} {id : UUID}
    {strategy : String} {raised : Raised}
    (hfind : db.findOrCreateShipment d = .ok (some id, strategy, db₁))
    (htracked : db₁.applyTrackingEvents id d.trackingCalls = (.error raised, db₂)) :
    db.failsOnShipment (.webhook d) = false ∧ db.ingest (.webhook d) = db₂ := by
  simp [TrackingDB.failsOnShipment, TrackingDB.ingest, TrackingDB.applyTrackingWebhook, hfind,
    htracked]

/-- A webhook whose events are applied fills in the identifiers of its shipment, unless
another row has them. -/
theorem ingest_of_tracked {db db₁ db₂ : TrackingDB} {d : WebhookDelivery} {x : Shipment}
    {strategy : String} {created : Bool}
    (hfind : db.findOrCreateShipment d = .ok (some x.id, strategy, db₁))
    (htracked : db₁.applyTrackingEvents x.id d.trackingCalls = (.ok created, db₂))
    (hx : x ∈ db₂.shipments.rows)
    (honly : ∀ s ∈ db₂.shipments.rows, p.names s = true → s.id = x.id)
    (hids : p.HasIds d.ids) :
    db.failsOnShipment (.webhook d) = false ∧ (db.ingest (.webhook d)).shipments.rows =
      db₂.shipments.rows.map fun s => if s.id == x.id then identified d.ids s else s := by
  obtain ⟨db₃, hupdated, -, hrows⟩ := exists_applyIdentifierUpdates hx honly hids
  simp only [TrackingDB.failsOnShipment, TrackingDB.ingest, TrackingDB.applyTrackingWebhook,
    hfind, htracked, hupdated]
  exact ⟨trivial, hrows⟩

/-- Once a webhook is matched to the parcel's row it does not fail on the shipments, and
leaves the row under the key it is stored under. -/
theorem FiledAs.matched {db db₁ : TrackingDB} {x : Shipment} (h : p.FiledAs db₁ x)
    {d : WebhookDelivery} (hids : p.HasIds d.ids) {strategy : String}
    (hfind : db.findOrCreateShipment d = .ok (some x.id, strategy, db₁)) :
    db.failsOnShipment (.webhook d) = false ∧
      ∃ y, p.FiledAs (db.ingest (.webhook d)) y ∧ p.Keeps x y := by
  have hkept := identitiesKept_applyTrackingEvents x.id d.trackingCalls db₁
  cases htracked : db₁.applyTrackingEvents x.id d.trackingCalls with
  | mk outcome db₂ =>
    rw [htracked] at hkept
    obtain ⟨x', hx', hsame⟩ := h.kept hkept
    -- the identifiers are filled in after the last event, and not at all when one raises
    cases outcome with
    | error raised =>
      obtain ⟨hfails, hafter⟩ := ingest_of_raised hfind htracked
      rw [hafter]
      exact ⟨hfails, x', hx', .of_sameIdentity hsame⟩
    | ok created =>
      rw [← hsame.id_eq] at hfind htracked
      obtain ⟨hfails, hrows⟩ := ingest_of_tracked hfind htracked hx'.mem hx'.only hids
      refine ⟨hfails, identified d.ids x', ?_, .trans (.of_sameIdentity hsame) ?_⟩
      · exact filedAs_rewrite hx'.mem hx'.only hrows hx'.orderId_eq
          (names_identified hids hx'.named)
      · exact keeps_identified hids x'

/-- A webhook that is matched to nothing changes nothing. -/
theorem ingest_of_unmatched {db : TrackingDB} {d : WebhookDelivery} {strategy : String}
    (hfind : db.findOrCreateShipment d = .ok (none, strategy, db)) :
    db.failsOnShipment (.webhook d) = false ∧ db.ingest (.webhook d) = db := by
  simp [TrackingDB.failsOnShipment, TrackingDB.ingest, TrackingDB.applyTrackingWebhook, hfind]

/-- A webhook about a parcel with a row keeps the row. -/
theorem FiledAs.webhook {db : TrackingDB} {x : Shipment} (h : p.FiledAs db x)
    {d : WebhookDelivery} (hd : p.Concerns db.orders (.webhook d)) :
    db.failsOnShipment (.webhook d) = false ∧
      ∃ y, p.FiledAs (db.ingest (.webhook d)) y ∧ p.Keeps x y := by
  obtain ⟨strategy, hfind | hfind⟩ := h.findOrCreateShipment hd
  · exact h.matched ⟨hd.1, hd.2.1⟩ hfind
  · obtain ⟨hfails, hafter⟩ := ingest_of_unmatched hfind
    rw [hafter]
    exact ⟨hfails, x, h, .refl x⟩

/-! ## Section 4: What a pull does -/

/-- The first pull creates a complete row. -/
theorem Unknown.pull {db : TrackingDB} (h : p.Unknown db) {data : SyncedShipment}
    {env : LookupEnv} (hpull : p.Concerns db.orders (.pull data env)) :
    db.failsOnShipment (.pull data env) = false ∧ p.Complete (db.ingest (.pull data env)) := by
  have hcreate := upsertShipment_of_not_found
    (getShipmentByExternalId_eq_none fun s hs => h.keyed_eq_false hs) hpull
  obtain ⟨hsource, hexternal, hsid, hawb, -⟩ := hpull
  obtain ⟨db', id, hupsert, hfiled⟩ :=
    h.upsertSyncedShipment ⟨hsource, .inl hexternal, .inr hsid, .inr hawb⟩
  rw [hupsert] at hcreate
  simp only [TrackingDB.failsOnShipment, TrackingDB.ingest, hcreate]
  refine ⟨trivial, _, hfiled, ?_, hsid, hawb⟩
  simp [keyed, SyncedShipment.newRow, hsource, hexternal]

/-- A pull rewrites the row that is stored under the shipment id, and completes it. -/
theorem Known.pull {db : TrackingDB} (h : p.Known db) {data : SyncedShipment}
    {env : LookupEnv} (hpull : p.Concerns db.orders (.pull data env)) :
    db.failsOnShipment (.pull data env) = false ∧ p.Complete (db.ingest (.pull data env)) := by
  obtain ⟨x, hx, hkeyed⟩ := h
  obtain ⟨hsource, hexternal, hsid, hawb, -⟩ := hpull
  have hfind := hx.getShipmentByExternalId hkeyed
  have hrewrites : p.Rewrites x (data.write p.orderId x) :=
    ⟨rfl, rfl, rfl, .inr (by simp [SyncedShipment.write, hsid]),
      .inr (by simp [SyncedShipment.write, hawb]), rfl⟩
  obtain ⟨shipments, hupdate⟩ := exists_rewrite hx.mem hx.only hrewrites
  have hupsert : db.upsertShipment data env =
      .ok (false, { db with shipments := shipments }) := by
    simp [TrackingDB.upsertShipment, orderForShipment, TrackingDB.upsertSyncedShipment, hsource,
      hexternal, hfind, hx.orderId_eq, hupdate, pyFalsy, p.shipmentId_ne, bind, Except.bind]
  simp only [TrackingDB.failsOnShipment, TrackingDB.ingest, hupsert]
  have hkeyed' : p.keyed (data.write p.orderId x) = true := hkeyed
  refine ⟨trivial, data.write p.orderId x, ?_, hkeyed', ?_, ?_⟩
  · exact filedAs_rewrite hx.mem hx.only (Table.rows_of_update? hupdate) rfl
      (names_of_keyed hkeyed')
  · simp [SyncedShipment.write, hsid]
  · simp [SyncedShipment.write, hawb]

/-- A row stored under something else is not found by a pull, and its identifiers exclude
the row the pull would create. -/
theorem Misfiled.pull {db : TrackingDB} (h : p.Misfiled db) {data : SyncedShipment}
    {env : LookupEnv} (hpull : p.Concerns db.orders (.pull data env)) :
    db.failsOnShipment (.pull data env) = true := by
  obtain ⟨x, hx, hkeyed, hcarries⟩ := h
  have hnone := getShipmentByExternalId_eq_none fun s hs => hx.keyed_eq_false hkeyed hs
  have hcreate := upsertShipment_of_not_found hnone hpull
  obtain ⟨hsource, hexternal, hsid, hawb, -⟩ := hpull
  -- the new row carries both identifiers, and the old one has one of them
  have hrefused : ∀ id, db.shipments.insert? (data.newRow p.orderId id) = none := by
    intro id
    refine (Table.insert?_eq_none_iff (shipmentKeys_nodup _)).mpr ?_
    simp only [carries, Bool.or_eq_true, beq_iff_eq] at hcarries
    rcases hcarries with hid | hid
    · exact ⟨.shiprocket p.shipmentId, by simp [mem_shipmentKeys, SyncedShipment.newRow, hsid],
        x, hx.mem, by simp [mem_shipmentKeys, hid]⟩
    · exact ⟨.awb p.awb, by simp [mem_shipmentKeys, SyncedShipment.newRow, hawb], x, hx.mem,
        by simp [mem_shipmentKeys, hid]⟩
  simp [TrackingDB.failsOnShipment, hcreate, TrackingDB.upsertSyncedShipment, hsource,
    hexternal, hnone, hrefused]

/-! ## Section 5: The first row -/

/-- The delivery gives a parcel without a row one that both ways find. -/
def Files (p : Parcel) (db : TrackingDB) : Delivery → Prop
  | .pull _ _ => True
  | .webhook d => db.shipmentsForOrder p.orderId = [] ∧
    pyOr d.ids.shiprocketShipmentId d.ids.awb = some p.shipmentId

/-- The delivery gives a parcel without a row one that a pull does not find: it creates one
under the AWB, or takes over the only shipment the order has. -/
def Misfiles (p : Parcel) (db : TrackingDB) : Delivery → Prop
  | .pull _ _ => False
  | .webhook d =>
    (db.shipmentsForOrder p.orderId = [] ∧
      ∃ id, pyOr d.ids.shiprocketShipmentId d.ids.awb = some id ∧ id ≠ p.shipmentId) ∨
    ∃ x, db.shipmentsForOrder p.orderId = [x] ∧
      (d.ids.shiprocketShipmentId ≠ none ∨ d.ids.awb ≠ none) ∧
      ∃ created, (db.applyTrackingEvents x.id d.trackingCalls).1 = .ok created

/-- The webhook stores the row under the shipment id. -/
theorem Unknown.files {db : TrackingDB} (h : p.Unknown db) {d : WebhookDelivery}
    (hd : p.Concerns db.orders (.webhook d)) (hfiles : p.Files db (.webhook d)) :
    db.failsOnShipment (.webhook d) = false ∧ p.Known (db.ingest (.webhook d)) := by
  obtain ⟨hnone, hexternal⟩ := hfiles
  obtain ⟨db₁, id, strategy, hfind, hfiled⟩ := h.created hd hnone hexternal
  obtain ⟨hfails, y, hy, hkeeps⟩ := hfiled.matched ⟨hd.1, hd.2.1⟩ hfind
  refine ⟨hfails, y, hy, hkeeps.keyed_eq.trans ?_⟩
  simp [keyed, webhookShipment, SyncedShipment.newRow]

/-- The order's only shipment gets the parcel's identifiers and keeps its own key. -/
theorem Unknown.takes_over {db : TrackingDB} (h : p.Unknown db) {d : WebhookDelivery}
    (hd : p.Concerns db.orders (.webhook d)) {x : Shipment}
    (hone : db.shipmentsForOrder p.orderId = [x])
    (hgiven : d.ids.shiprocketShipmentId ≠ none ∨ d.ids.awb ≠ none) {created : Bool}
    (htracked : (db.applyTrackingEvents x.id d.trackingCalls).1 = .ok created) :
    db.failsOnShipment (.webhook d) = false ∧ p.Misfiled (db.ingest (.webhook d)) := by
  have hids : p.HasIds d.ids := ⟨hd.1, hd.2.1⟩
  obtain ⟨strategy, hfind⟩ := h.adopted hd hone
  have hx := List.mem_filter.mp (hone ▸ List.mem_singleton_self x :
    x ∈ db.shipmentsForOrder p.orderId)
  have horder : x.orderId = p.orderId := by simpa using hx.2
  have hkept := identitiesKept_applyTrackingEvents x.id d.trackingCalls db
  have htracked' : db.applyTrackingEvents x.id d.trackingCalls =
      (.ok created, (db.applyTrackingEvents x.id d.trackingCalls).2) := Prod.ext htracked rfl
  obtain ⟨x', hx', hsame⟩ := hkept.of_mem hx.1
  rw [← hsame.id_eq] at hfind htracked' hkept hx'
  -- nobody names the parcel yet, so the identifiers are free
  have hunknown := h.kept hkept
  have honly : ∀ s ∈ (db.applyTrackingEvents x'.id d.trackingCalls).2.shipments.rows,
      p.names s = true → s.id = x'.id := fun s hs hnamed => by
    rw [hunknown s hs] at hnamed
    cases hnamed
  obtain ⟨hfails, hrows⟩ := ingest_of_tracked hfind htracked' hx' honly hids
  have hcarries : p.carries (identified d.ids x') = true := by
    rcases hgiven with hgiven | hgiven
    · simp [carries, identified, hids.shiprocketShipmentId.resolve_left hgiven]
    · simp [carries, identified, hids.awb.resolve_left hgiven]
  refine ⟨hfails, identified d.ids x', ?_, ?_, hcarries⟩
  · exact filedAs_rewrite hx' honly hrows (hsame.orderId_eq.trans horder)
      (names_of_carries hcarries)
  · exact (keeps_identified hids x').keyed_eq.trans (hunknown.keyed_eq_false hx')

/-- The webhook's row is one that a pull does not find. -/
theorem Unknown.misfiles {db : TrackingDB} (h : p.Unknown db) {d : WebhookDelivery}
    (hd : p.Concerns db.orders (.webhook d)) (hmisfiles : p.Misfiles db (.webhook d)) :
    db.failsOnShipment (.webhook d) = false ∧ p.Misfiled (db.ingest (.webhook d)) := by
  have hids : p.HasIds d.ids := ⟨hd.1, hd.2.1⟩
  rcases hmisfiles with ⟨hnone, id, hexternal, hne⟩ | ⟨x, hone, hgiven, created, htracked⟩
  · obtain ⟨db₁, rowId, strategy, hfind, hfiled⟩ := h.created hd hnone hexternal
    obtain ⟨hfails, y, hy, hkeeps⟩ := hfiled.matched hids hfind
    refine ⟨hfails, y, hy, hkeeps.keyed_eq.trans ?_, hkeeps.carries ?_⟩
    · simp [keyed, webhookShipment, SyncedShipment.newRow, hne]
    · -- with the shipment id at hand it would be stored under that
      rcases hids.externalId with ⟨-, heq⟩ | ⟨-, heq⟩ <;> rw [heq] at hexternal
      · exact absurd (Option.some.inj hexternal).symm hne
      · have hawb : d.ids.awb = some p.awb :=
          hids.awb.resolve_left (by rw [hexternal]; exact Option.some_ne_none id)
        simp [carries, webhookShipment, SyncedShipment.newRow, hawb]
  · exact h.takes_over hd hone hgiven htracked

/-- The order's only shipment keeps its identifiers when the events raise or the delivery
has none to add. -/
theorem Unknown.not_taken_over {db : TrackingDB} (h : p.Unknown db) {d : WebhookDelivery}
    (hd : p.Concerns db.orders (.webhook d)) {x : Shipment}
    (hone : db.shipmentsForOrder p.orderId = [x])
    (hnothing : ∀ created, (db.applyTrackingEvents x.id d.trackingCalls).1 = .ok created →
      d.ids.shiprocketShipmentId = none ∧ d.ids.awb = none) :
    db.failsOnShipment (.webhook d) = false ∧ p.Unknown (db.ingest (.webhook d)) := by
  obtain ⟨strategy, hfind⟩ := h.adopted hd hone
  have hx : x ∈ db.shipments.rows :=
    List.mem_of_mem_filter (hone ▸ List.mem_singleton_self x)
  have hkept := identitiesKept_applyTrackingEvents x.id d.trackingCalls db
  cases htracked : db.applyTrackingEvents x.id d.trackingCalls with
  | mk outcome db₁ =>
    rw [htracked] at hkept hnothing
    have hunknown := h.kept hkept
    cases outcome with
    | error raised =>
      obtain ⟨hfails, hafter⟩ := ingest_of_raised hfind htracked
      exact ⟨hfails, hafter ▸ hunknown⟩
    | ok created =>
      obtain ⟨x', hx', hsame⟩ := hkept.of_mem hx
      rw [← hsame.id_eq] at hfind htracked
      obtain ⟨hfails, hafter⟩ := ingest_of_tracked hfind htracked hx'
        (fun s hs hnamed => absurd hnamed (by simp [hunknown s hs])) ⟨hd.1, hd.2.1⟩
      refine ⟨hfails, fun s hs => ?_⟩
      rw [hafter] at hs
      obtain ⟨s₁, hs₁, rfl⟩ := List.mem_map.mp hs
      -- nothing is filled in, so the rows are those the events left
      have hsame₁ : identified d.ids s₁ = s₁ := by
        simp [identified, (hnothing created rfl).1, (hnothing created rfl).2]
      rw [hsame₁, ite_self]
      exact hunknown s₁ hs₁

/-- Any other webhook leaves the parcel without a row. -/
theorem Unknown.neither {db : TrackingDB} (h : p.Unknown db) {d : WebhookDelivery}
    (hd : p.Concerns db.orders (.webhook d)) (hfiles : ¬ p.Files db (.webhook d))
    (hmisfiles : ¬ p.Misfiles db (.webhook d)) :
    db.failsOnShipment (.webhook d) = false ∧ p.Unknown (db.ingest (.webhook d)) := by
  -- the lookups by identifier miss, so the order's shipments decide
  match hrows : db.shipmentsForOrder p.orderId with
  | [] =>
    have hnothing : pyOr d.ids.shiprocketShipmentId d.ids.awb = none := by
      refine Option.eq_none_iff_forall_ne_some.mpr fun id hid => ?_
      by_cases hne : id = p.shipmentId
      · exact hfiles ⟨hrows, hne ▸ hid⟩
      · exact hmisfiles (.inl ⟨hrows, id, hid, hne⟩)
    obtain ⟨strategy, hfind⟩ := h.unmatched hd (.inl ⟨hrows, hnothing⟩)
    obtain ⟨hfails, hafter⟩ := ingest_of_unmatched hfind
    exact ⟨hfails, by rwa [hafter]⟩
  | [x] =>
    refine h.not_taken_over hd hrows fun created htracked => ?_
    by_contra hgiven
    rw [not_and_or] at hgiven
    exact hmisfiles (.inr ⟨x, hrows, hgiven, created, htracked⟩)
  | x :: y :: rest =>
    obtain ⟨strategy, hfind⟩ := h.unmatched hd (.inr ⟨x, y, rest, hrows⟩)
    obtain ⟨hfails, hafter⟩ := ingest_of_unmatched hfind
    exact ⟨hfails, by rwa [hafter]⟩

/-! ## Section 6: Whole runs -/

/-- What ingestion promises about a parcel: one row for it at the end, no delivery that
fails on the shipments' unique columns, and both identifiers on the row once a pull has
run. -/
structure Ingested (p : Parcel) (db : TrackingDB) (es : List Delivery) : Prop where
  one_row : ((run TrackingDB.ingest db es).shipments.rows.filter p.names).length = 1
  no_failure : Along TrackingDB.ingest (fun db e => db.failsOnShipment e = false) db es
  complete : (∃ e ∈ es, e.isPull = true) →
    ∀ s ∈ (run TrackingDB.ingest db es).shipments.rows, p.names s = true →
      s.shiprocketShipmentId = some p.shipmentId ∧ s.awb = some p.awb

/-- The first delivery that gives the parcel a row gives it one that both ways find, or no
pull comes after it. -/
def FiledRight (p : Parcel) : TrackingDB → List Delivery → Prop
  | _, [] => False
  | db, e :: es => p.Files db e ∨ (p.Misfiles db e ∧ ∀ e' ∈ es, e'.isPull = false) ∨
    (¬ p.Files db e ∧ ¬ p.Misfiles db e ∧ FiledRight p (db.ingest e) es)

theorem Ingested.tail {db : TrackingDB} {e : Delivery} {es : List Delivery}
    (h : p.Ingested db (e :: es)) : p.Ingested (db.ingest e) es :=
  ⟨h.one_row, h.no_failure.2, fun ⟨e', he', hpull⟩ =>
    h.complete ⟨e', List.mem_cons_of_mem e he', hpull⟩⟩

theorem ingested_cons_webhook {db : TrackingDB} {d : WebhookDelivery} {es : List Delivery}
    (hfails : db.failsOnShipment (.webhook d) = false) :
    p.Ingested db (.webhook d :: es) ↔ p.Ingested (db.ingest (.webhook d)) es := by
  refine ⟨Ingested.tail, fun h => ⟨h.one_row, ⟨hfails, h.no_failure⟩, ?_⟩⟩
  rintro ⟨e, he, hpull⟩
  rcases List.mem_cons.mp he with rfl | he
  · cases hpull
  · exact h.complete ⟨e, he, hpull⟩

/-- What is still to come is about the parcel after a delivery too. -/
theorem Concerns.ingest {db : TrackingDB} {e : Delivery} {es : List Delivery}
    (h : ∀ e' ∈ e :: es, p.Concerns db.orders e') :
    ∀ e' ∈ es, p.Concerns (db.ingest e).orders e' := fun e' he' =>
  (h e' (List.mem_cons_of_mem e he')).congr (orders_ingest db e)

theorem Known.webhook {db : TrackingDB} (h : p.Known db) {d : WebhookDelivery}
    (hd : p.Concerns db.orders (.webhook d)) :
    db.failsOnShipment (.webhook d) = false ∧ p.Known (db.ingest (.webhook d)) := by
  obtain ⟨x, hx, hkeyed⟩ := h
  obtain ⟨hfails, y, hy, hkeeps⟩ := hx.webhook hd
  exact ⟨hfails, y, hy, hkeeps.keyed_eq.trans hkeyed⟩

/-- A complete row stays complete. -/
theorem Complete.ingest {db : TrackingDB} (h : p.Complete db) {e : Delivery}
    (he : p.Concerns db.orders e) : p.Complete (db.ingest e) := by
  cases e with
  | webhook d =>
    obtain ⟨x, hx, hkeyed, hsid, hawb⟩ := h
    obtain ⟨-, y, hy, hkeeps⟩ := hx.webhook he
    exact ⟨y, hy, hkeeps.keyed_eq.trans hkeyed, hkeeps.shiprocketShipmentId hsid,
      hkeeps.awb hawb⟩
  | pull data env => exact (h.known.pull he).2

theorem Complete.run {es : List Delivery} : ∀ {db : TrackingDB}, p.Complete db →
    (∀ e ∈ es, p.Concerns db.orders e) → p.Complete (run TrackingDB.ingest db es) := by
  induction es with
  | nil => exact fun h _ => h
  | cons e es ih =>
    exact fun h hes => ih (h.ingest (hes e List.mem_cons_self)) (Concerns.ingest hes)

/-- A parcel whose row both ways find is ingested whatever comes. -/
theorem Known.ingested {es : List Delivery} : ∀ {db : TrackingDB}, p.Known db →
    (∀ e ∈ es, p.Concerns db.orders e) → p.Ingested db es := by
  induction es with
  | nil =>
    rintro db ⟨x, hx, -⟩ -
    exact ⟨hx.length_filter, True.intro, fun ⟨e, he, _⟩ => absurd he List.not_mem_nil⟩
  | cons e es ih =>
    intro db h hes
    have he := hes e List.mem_cons_self
    cases e with
    | webhook d =>
      obtain ⟨hfails, hnext⟩ := h.webhook he
      exact (ingested_cons_webhook hfails).mpr (ih hnext (Concerns.ingest hes))
    | pull data env =>
      -- from the first pull on the row is complete
      obtain ⟨hfails, hcomplete⟩ := h.pull he
      have hrest := ih hcomplete.known (Concerns.ingest hes)
      exact ⟨hrest.one_row, ⟨hfails, hrest.no_failure⟩, fun _ s hs hnamed =>
        (hcomplete.run (Concerns.ingest hes)).of_names hs hnamed⟩

/-- A parcel whose row no pull finds is ingested exactly when no pull comes. -/
theorem Misfiled.ingested_iff_no_pull {es : List Delivery} : ∀ {db : TrackingDB}, p.Misfiled db →
    (∀ e ∈ es, p.Concerns db.orders e) →
    (p.Ingested db es ↔ ∀ e ∈ es, e.isPull = false) := by
  induction es with
  | nil =>
    rintro db ⟨x, hx, -⟩ -
    refine ⟨fun _ e he => absurd he List.not_mem_nil, fun _ => ?_⟩
    exact ⟨hx.length_filter, True.intro, fun ⟨e, he, _⟩ => absurd he List.not_mem_nil⟩
  | cons e es ih =>
    intro db h hes
    have he := hes e List.mem_cons_self
    cases e with
    | webhook d =>
      obtain ⟨x, hx, hkeyed, hcarries⟩ := h
      obtain ⟨hfails, y, hy, hkeeps⟩ := hx.webhook he
      have hnext : p.Misfiled (db.ingest (.webhook d)) :=
        ⟨y, hy, hkeeps.keyed_eq.trans hkeyed, hkeeps.carries hcarries⟩
      rw [ingested_cons_webhook hfails, ih hnext (Concerns.ingest hes), List.forall_mem_cons]
      exact (and_iff_right rfl).symm
    | pull data env =>
      refine ⟨fun hingested => ?_, fun hno => ?_⟩
      · have hfails : db.failsOnShipment (.pull data env) = false := hingested.no_failure.1
        rw [h.pull he] at hfails
        cases hfails
      · cases hno _ List.mem_cons_self

/-- A parcel without a row is ingested exactly when its first row is filed right. -/
theorem Unknown.ingested_iff_filedRight {es : List Delivery} : ∀ {db : TrackingDB}, p.Unknown db →
    (∀ e ∈ es, p.Concerns db.orders e) → (p.Ingested db es ↔ p.FiledRight db es) := by
  induction es with
  | nil =>
    refine fun h _ => ⟨fun hingested => ?_, False.elim⟩
    have hone := hingested.one_row
    rw [run_nil, h.length_filter] at hone
    cases hone
  | cons e es ih =>
    intro db h hes
    have he := hes e List.mem_cons_self
    have hrest := Concerns.ingest hes
    cases e with
    | pull data env =>
      obtain ⟨hfails, hcomplete⟩ := h.pull he
      have htail := hcomplete.known.ingested hrest
      refine ⟨fun _ => .inl True.intro, fun _ => ⟨htail.one_row, ⟨hfails, htail.no_failure⟩, ?_⟩⟩
      exact fun _ s hs hnamed => (hcomplete.run hrest).of_names hs hnamed
    | webhook d =>
      -- the row it leaves, if any, decides for the rest of the run
      by_cases hfiles : p.Files db (.webhook d)
      · obtain ⟨hfails, hknown⟩ := h.files he hfiles
        rw [ingested_cons_webhook hfails]
        exact ⟨fun _ => .inl hfiles, fun _ => hknown.ingested hrest⟩
      · by_cases hmisfiles : p.Misfiles db (.webhook d)
        · obtain ⟨hfails, hmisfiled⟩ := h.misfiles he hmisfiles
          rw [ingested_cons_webhook hfails, hmisfiled.ingested_iff_no_pull hrest]
          simp only [FiledRight, hfiles, hmisfiles, not_true_eq_false, false_and, and_false,
            or_false, false_or, true_and]
        · obtain ⟨hfails, hunknown⟩ := h.neither he hfiles hmisfiles
          rw [ingested_cons_webhook hfails, ih hunknown hrest]
          simp only [FiledRight, hfiles, hmisfiles, not_false_eq_true, false_and, false_or,
            true_and]

/-- A parcel without a row, or with one that both ways find, is ingested exactly when it has
its row already or its first one is filed right. -/
theorem ingested_iff {db : TrackingDB} {es : List Delivery}
    (hstart : p.Unknown db ∨ p.Known db) (hes : ∀ e ∈ es, p.Concerns db.orders e) :
    p.Ingested db es ↔ p.Known db ∨ p.FiledRight db es := by
  rcases hstart with hunknown | hknown
  · rw [hunknown.ingested_iff_filedRight hes]
    refine (or_iff_right fun hknown => ?_).symm
    obtain ⟨x, hx, -⟩ := hknown
    have hnamed := hunknown x hx.mem
    rw [hx.named] at hnamed
    cases hnamed
  · exact ⟨fun _ => .inl hknown, fun _ => hknown.ingested hes⟩

end AnyText

/-- An order that has no shipment yet. -/
def awaitingShipment : TrackingDB where
  orders := { orders := Table.ofList [{ id := 7, orderNumber := "1012" }] (by decide) }

/-- The parcel of that order. -/
def teaParcel : Parcel where
  orderId := 7
  shipmentId := "S1"
  awb := "AWB1"

/-- A webhook that names the order and these identifiers. -/
def named (awb shiprocketShipmentId : Option String) : Delivery :=
  .webhook { ids := {
    awb := awb, shiprocketShipmentId := shiprocketShipmentId, channelOrderId := some "1012" } }

/-- The parcel's item in the provider's list. -/
def listed : Delivery :=
  .pull { externalId := "S1", shiprocketShipmentId := some "S1", awb := some "AWB1",
          channelOrderId := some "1012" } {}

theorem unknown_awaitingShipment : teaParcel.Unknown awaitingShipment := by
  simp [Unknown, awaitingShipment]

theorem concerns_named {awb shiprocketShipmentId : Option String}
    (hawb : awb = none ∨ awb = some "AWB1")
    (hsid : shiprocketShipmentId = none ∨ shiprocketShipmentId = some "S1") :
    teaParcel.Concerns awaitingShipment.orders (named awb shiprocketShipmentId) :=
  ⟨hawb, hsid, _, _, rfl, rfl⟩

theorem concerns_listed : teaParcel.Concerns awaitingShipment.orders listed :=
  ⟨rfl, rfl, rfl, rfl, _, rfl, rfl⟩

theorem ingested_iff_shipmentIdFirst :
    teaParcel.Ingested awaitingShipment
      [named (some "AWB1") (some "S1"), listed, named (some "AWB1") none] := by
  refine (ingested_iff (.inl unknown_awaitingShipment) ?_).mpr (.inr (.inl ⟨rfl, rfl⟩))
  simp only [List.forall_mem_cons]
  exact ⟨concerns_named (.inr rfl) (.inr rfl), concerns_listed,
    concerns_named (.inr rfl) (.inl rfl), by simp⟩

/-- The AWB alone comes first: the pull fails on it, and the row never gets the shipment
id. -/
theorem awb_first_excludes_pull :
    teaParcel.Unknown awaitingShipment ∧
      (∀ e ∈ [named (some "AWB1") none, listed],
        teaParcel.Concerns awaitingShipment.orders e) ∧
      ¬ teaParcel.Ingested awaitingShipment [named (some "AWB1") none, listed] ∧
      (run TrackingDB.ingest awaitingShipment
          [named (some "AWB1") none, listed]).shipments.rows.map
        (fun s => (s.externalId, s.shiprocketShipmentId, s.awb)) =
          [(some "AWB1", none, some "AWB1")] := by
  refine ⟨unknown_awaitingShipment, ?_, fun h => ?_, by decide +kernel⟩
  · simp only [List.forall_mem_cons]
    exact ⟨concerns_named (.inr rfl) (.inl rfl), concerns_listed, by simp⟩
  · exact absurd h.no_failure (by decide +kernel)

end Parcel

end AyushOms.Tracking
