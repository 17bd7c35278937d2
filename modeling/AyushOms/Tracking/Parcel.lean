import AyushOms.Tracking.Webhook

/-!
# The Row of a Parcel

A parcel has a shipment id and an AWB at the provider, and an order here. Its row is the
shipment that carries one of the two or is stored under one. This file says where a parcel
can stand (no row, one row the pull sync finds, one row it does not find), which rows the
lookups of both ways return there, and which writes the unique columns accept.
-/

namespace AyushOms.Tracking

open AyushOms.Lib AyushOms.Orders AyushOms.Inventory TrackingDB

/-! ## Section 1: Parcels -/

/-- One shipment at the provider, and the order here it belongs to. -/
structure Parcel where
  orderId : UUID
  shipmentId : String
  awb : String
  shipmentId_ne : shipmentId ≠ "" := by decide
  awb_ne : awb ≠ "" := by decide

namespace Parcel

/-- The row is stored under the shipment id. -/
def keyed (p : Parcel) (s : Shipment) : Bool :=
  s.sourceSystem == some .shiprocket && s.externalId == some p.shipmentId

/-- The row carries one of the parcel's identifiers. -/
def carries (p : Parcel) (s : Shipment) : Bool :=
  s.shiprocketShipmentId == some p.shipmentId || s.awb == some p.awb

/-- The row is for the parcel: it carries an identifier or is stored under one. -/
def names (p : Parcel) (s : Shipment) : Bool :=
  p.carries s || p.keyed s ||
    (s.sourceSystem == some .shiprocket && s.externalId == some p.awb)

/-- The delivery is about the parcel, and its order can be resolved: a webhook whose
identifiers, where it has them, are the parcel's, or a pull with both. -/
def Concerns (p : Parcel) (db : OrdersDB) : Delivery → Prop
  | .webhook d => (d.ids.awb = none ∨ d.ids.awb = some p.awb) ∧
    (d.ids.shiprocketShipmentId = none ∨ d.ids.shiprocketShipmentId = some p.shipmentId) ∧
    ∃ order strategy, webhookOrder db d = some (order, strategy) ∧ order.id = p.orderId
  | .pull data env => data.sourceSystem = .shiprocket ∧ data.externalId = p.shipmentId ∧
    data.shiprocketShipmentId = some p.shipmentId ∧ data.awb = some p.awb ∧
    ∃ order, resolveOrder db data env = .ok order ∧ order.id = p.orderId

/-! ## Section 2: Where a parcel stands -/

/-- There is no row for the parcel. -/
def Unknown (p : Parcel) (db : TrackingDB) : Prop :=
  ∀ s ∈ db.shipments.rows, p.names s = false

/-- This row is the one for the parcel, and belongs to its order. -/
structure FiledAs (p : Parcel) (db : TrackingDB) (x : Shipment) : Prop where
  mem : x ∈ db.shipments.rows
  named : p.names x = true
  orderId_eq : x.orderId = p.orderId
  only : ∀ s ∈ db.shipments.rows, p.names s = true → s.id = x.id

/-- The row is stored under the shipment id: both ways find it. -/
def Known (p : Parcel) (db : TrackingDB) : Prop :=
  ∃ x, p.FiledAs db x ∧ p.keyed x = true

/-- The row carries an identifier and is stored under something else: a pull does not find
it. -/
def Misfiled (p : Parcel) (db : TrackingDB) : Prop :=
  ∃ x, p.FiledAs db x ∧ p.keyed x = false ∧ p.carries x = true

/-- The row is stored under the shipment id and carries both identifiers. -/
def Complete (p : Parcel) (db : TrackingDB) : Prop :=
  ∃ x, p.FiledAs db x ∧ p.keyed x = true ∧ x.shiprocketShipmentId = some p.shipmentId ∧
    x.awb = some p.awb

variable {p : Parcel}

theorem names_of_carries {s : Shipment} (h : p.carries s = true) : p.names s = true := by
  simp [names, h]

theorem names_of_keyed {s : Shipment} (h : p.keyed s = true) : p.names s = true := by
  simp [names, h]

theorem names_of_sameIdentity {s s' : Shipment} (h : s.SameIdentity s') :
    p.keyed s' = p.keyed s ∧ p.carries s' = p.carries s ∧ p.names s' = p.names s := by
  simp [names, keyed, carries, h.sourceSystem_eq, h.externalId_eq, h.shiprocketShipmentId_eq,
    h.awb_eq]

theorem Complete.known {db : TrackingDB} (h : p.Complete db) : p.Known db := by
  obtain ⟨x, hx, hkeyed, -⟩ := h
  exact ⟨x, hx, hkeyed⟩

/-- The one row is the one the filter finds. -/
theorem FiledAs.length_filter {db : TrackingDB} {x : Shipment} (h : p.FiledAs db x) :
    (db.shipments.rows.filter p.names).length = 1 := by
  refine Nat.le_antisymm ?_ (List.length_pos_of_mem (List.mem_filter.mpr ⟨h.mem, h.named⟩))
  have hle : (db.shipments.rows.filter fun s => s.id == x.id).length ≤ 1 :=
    db.shipments.length_filter_le_one (k := .id x.id) fun s hs => by
      simp only [beq_iff_eq] at hs
      simp [Shipment.keys, hs]
  rw [← List.countP_eq_length_filter] at hle ⊢
  refine (List.countP_mono_left fun s hs hnamed => ?_).trans hle
  simpa using h.only s hs hnamed

theorem Unknown.length_filter {db : TrackingDB} (h : p.Unknown db) :
    (db.shipments.rows.filter p.names).length = 0 := by
  rw [List.length_eq_zero_iff, List.filter_eq_nil_iff]
  intro s hs
  simp [h s hs]

theorem FiledAs.eq_of_names {db : TrackingDB} {x s : Shipment} (h : p.FiledAs db x)
    (hs : s ∈ db.shipments.rows) (hnamed : p.names s = true) : s = x :=
  TrackingDB.shipment_eq_of_id_eq h.mem hs (h.only s hs hnamed)

theorem Unknown.keyed_eq_false {db : TrackingDB} (h : p.Unknown db) {s : Shipment}
    (hs : s ∈ db.shipments.rows) : p.keyed s = false :=
  Bool.eq_false_iff.mpr fun hkeyed => by simpa [h s hs] using names_of_keyed hkeyed

theorem FiledAs.keyed_eq_false {db : TrackingDB} {x s : Shipment} (h : p.FiledAs db x)
    (hx : p.keyed x = false) (hs : s ∈ db.shipments.rows) : p.keyed s = false :=
  Bool.eq_false_iff.mpr fun hkeyed => by
    rw [h.eq_of_names hs (names_of_keyed hkeyed), hx] at hkeyed
    cases hkeyed

theorem Complete.of_names {db : TrackingDB} (h : p.Complete db) {s : Shipment}
    (hs : s ∈ db.shipments.rows) (hnamed : p.names s = true) :
    s.shiprocketShipmentId = some p.shipmentId ∧ s.awb = some p.awb := by
  obtain ⟨x, hx, -, hsid, hawb⟩ := h
  rw [hx.eq_of_names hs hnamed]
  exact ⟨hsid, hawb⟩

/-- Tracking leaves a parcel's row where it is. -/
theorem FiledAs.kept {db db' : TrackingDB} {x : Shipment} (h : p.FiledAs db x)
    (hkept : db.IdentitiesKept db') : ∃ x', p.FiledAs db' x' ∧ x.SameIdentity x' := by
  obtain ⟨x', hx', hsame⟩ := hkept.of_mem h.mem
  refine ⟨x', ⟨hx', ?_, hsame.orderId_eq.trans h.orderId_eq, fun s' hs' hnamed => ?_⟩, hsame⟩
  · rw [(names_of_sameIdentity hsame).2.2]
    exact h.named
  · obtain ⟨s, hs, hsame'⟩ := hkept.mem hs'
    rw [(names_of_sameIdentity hsame').2.2] at hnamed
    rw [hsame'.id_eq, hsame.id_eq]
    exact h.only s hs hnamed

theorem Unknown.kept {db db' : TrackingDB} (h : p.Unknown db) (hkept : db.IdentitiesKept db') :
    p.Unknown db' := by
  intro s' hs'
  obtain ⟨s, hs, hsame⟩ := hkept.mem hs'
  rw [(names_of_sameIdentity hsame).2.2]
  exact h s hs

/-! ## Section 3: Lookups -/

/-- Orders are resolved from the orders alone. -/
theorem resolveOrderByChannelOrderId_congr {db db' : OrdersDB} (h : db'.orders = db.orders)
    (id : Option String) :
    resolveOrderByChannelOrderId db' id = resolveOrderByChannelOrderId db id := by
  simp only [resolveOrderByChannelOrderId, OrdersDB.getOrderByNumber, h]

theorem resolveShopifyOrderByApiOrderId_congr {db db' : OrdersDB} (h : db'.orders = db.orders)
    (id : Option String) :
    resolveShopifyOrderByApiOrderId db' id = resolveShopifyOrderByApiOrderId db id := by
  simp only [resolveShopifyOrderByApiOrderId, OrdersDB.getOrderByExternalId, h]

theorem Concerns.congr {db db' : OrdersDB} (h : db'.orders = db.orders) {e : Delivery}
    (he : p.Concerns db e) : p.Concerns db' e := by
  have hchannel := resolveOrderByChannelOrderId_congr h
  have hapi := resolveShopifyOrderByApiOrderId_congr h
  cases e with
  | webhook d =>
    simpa only [Concerns, webhookOrder, resolveOrderViaOrdersShow, hchannel, hapi] using he
  | pull data env =>
    simpa only [Concerns, resolveOrder, hchannel, hapi] using he

theorem getShipmentByAwb_eq_some {db : TrackingDB} {awb : String} {s : Shipment}
    (h : db.getShipmentByAwb awb = some s) : s ∈ db.shipments.rows ∧ s.awb = some awb :=
  ⟨Table.mem_of_find?_eq_some h, by simpa using List.find?_some h⟩

theorem getShipmentByExternalId_eq_some {db : TrackingDB} {source : SourceSystem}
    {externalId : String} {s : Shipment}
    (h : db.getShipmentByExternalId source externalId = some s) :
    s ∈ db.shipments.rows ∧ s.sourceSystem = some source ∧ s.externalId = some externalId :=
  ⟨Table.mem_of_find?_eq_some h, by simpa using List.find?_some h⟩

/-- A row stored under the shipment id is the one the pull finds. -/
theorem FiledAs.getShipmentByExternalId {db : TrackingDB} {x : Shipment} (h : p.FiledAs db x)
    (hkeyed : p.keyed x = true) :
    db.getShipmentByExternalId .shiprocket p.shipmentId = some x := by
  cases hfind : db.getShipmentByExternalId .shiprocket p.shipmentId with
  | none => exact absurd hkeyed (Table.find?_eq_none.mp hfind x h.mem)
  | some s =>
    obtain ⟨hs, hsource, hexternal⟩ := getShipmentByExternalId_eq_some hfind
    rw [h.eq_of_names hs (names_of_keyed (by simp [keyed, hsource, hexternal]))]

/-- Where no row is stored under the shipment id, the pull finds none. -/
theorem getShipmentByExternalId_eq_none {db : TrackingDB}
    (h : ∀ s ∈ db.shipments.rows, p.keyed s = false) :
    db.getShipmentByExternalId .shiprocket p.shipmentId = none := by
  refine Table.find?_eq_none.mpr fun s hs => ?_
  change ¬ p.keyed s = true
  rw [h s hs]
  decide

/-- A pull that finds no row asks for the order. -/
theorem upsertShipment_of_not_found {db : TrackingDB} {data : SyncedShipment}
    {env : LookupEnv} (hnone : db.getShipmentByExternalId .shiprocket p.shipmentId = none)
    (hpull : p.Concerns db.orders (.pull data env)) :
    db.upsertShipment data env = db.upsertSyncedShipment data p.orderId := by
  obtain ⟨hsource, hexternal, -, -, order, horder, hid⟩ := hpull
  simp [TrackingDB.upsertShipment, orderForShipment, hsource, hexternal, hnone, horder, hid,
    bind, Except.bind, Except.map]

/-! ## Section 4: Writes -/

/-- A row rewritten for the parcel: the same key, and an identifier is the parcel's or the
one that was there. -/
structure Rewrites (p : Parcel) (x y : Shipment) : Prop where
  id_eq : y.id = x.id
  sourceSystem_eq : y.sourceSystem = x.sourceSystem
  externalId_eq : y.externalId = x.externalId
  shiprocketShipmentId : y.shiprocketShipmentId = x.shiprocketShipmentId ∨
    y.shiprocketShipmentId = some p.shipmentId
  awb : y.awb = x.awb ∨ y.awb = some p.awb
  shopifyFulfillmentId : y.shopifyFulfillmentId = x.shopifyFulfillmentId

/-- A key of a row carries its identifier. -/
theorem names_of_key {s : Shipment} {k : ShipmentKey} (hk : k ∈ s.keys)
    (h : k = .shiprocket p.shipmentId ∨ k = .awb p.awb ∨
      k = .external (.shiprocket, p.shipmentId) ∨ k = .external (.shiprocket, p.awb)) :
    p.names s = true := by
  rcases h with rfl | rfl | rfl | rfl <;>
    simp_all [mem_shipmentKeys, names, carries, keyed, mem_externalKey]

/-- A synced shipment that may become the parcel's row. -/
structure Describes (p : Parcel) (data : SyncedShipment) : Prop where
  sourceSystem : data.sourceSystem = .shiprocket
  externalId : data.externalId = p.shipmentId ∨ data.externalId = p.awb
  shiprocketShipmentId : data.shiprocketShipmentId = none ∨
    data.shiprocketShipmentId = some p.shipmentId
  awb : data.awb = none ∨ data.awb = some p.awb

theorem Describes.names_of_external {data : SyncedShipment} (h : p.Describes data)
    {s : Shipment} (hsource : s.sourceSystem = some data.sourceSystem)
    (hexternal : s.externalId = some data.externalId) : p.names s = true := by
  rw [h.sourceSystem] at hsource
  rcases h.externalId with hext | hext <;> rw [hext] at hexternal <;>
    simp [names, keyed, hsource, hexternal]

/-- Whoever shares a key with the row it becomes names the parcel, the row's own id apart. -/
theorem Describes.names_of_shared_key {data : SyncedShipment} (h : p.Describes data)
    {id : UUID} {k : ShipmentKey} (hk : k ∈ (data.newRow p.orderId id).keys)
    (hid : k ≠ .id id) {s : Shipment} (hks : k ∈ s.keys) : p.names s = true := by
  rcases mem_shipmentKeys.mp hk with rfl | ⟨⟨source, external⟩, hkey, rfl⟩ | ⟨sid, hsid, rfl⟩ |
    ⟨awb, hawb, rfl⟩ | ⟨fulfillment, hfulfillment, rfl⟩
  · exact absurd rfl hid
  · obtain ⟨hsource, hexternal⟩ := mem_externalKey.mp hkey
    obtain ⟨hsource', hexternal'⟩ : s.sourceSystem = some source ∧ s.externalId = some external :=
      mem_externalKey.mp (by simpa [mem_shipmentKeys] using hks)
    exact h.names_of_external (hsource'.trans hsource.symm) (hexternal'.trans hexternal.symm)
  · have hgiven := hsid.symm.trans (h.shiprocketShipmentId.resolve_left (by
      rw [show data.shiprocketShipmentId = some sid from hsid]
      exact Option.some_ne_none sid))
    exact names_of_key hks (.inl (by rw [Option.some.inj hgiven]))
  · have hgiven := hawb.symm.trans (h.awb.resolve_left (by
      rw [show data.awb = some awb from hawb]
      exact Option.some_ne_none awb))
    exact names_of_key hks (.inr (.inl (by rw [Option.some.inj hgiven])))
  -- a new row has no fulfillment id
  · cases hfulfillment

/-- The parcel's row can be rewritten: no other row has the keys it gets. -/
theorem exists_rewrite {db : TrackingDB} {x : Shipment} {f : Shipment → Shipment}
    (hx : x ∈ db.shipments.rows)
    (honly : ∀ s ∈ db.shipments.rows, p.names s = true → s.id = x.id)
    (hf : p.Rewrites x (f x)) :
    ∃ t, db.shipments.update? (fun s => s.id == x.id) f = some t := by
  have heq : ∀ s ∈ db.shipments.rows, s.id = x.id → s = x := fun s hs hid =>
    TrackingDB.shipment_eq_of_id_eq hx hs hid
  refine Table.exists_update? (fun s hs hid => heq s hs (by simpa using hid))
    (by simp [Shipment.keys]) (shipmentKeys_nodup _) fun k hk s hs hks => ?_
  -- a key the row had is not shared; one it gets names the parcel
  have hold : k ∈ x.keys → s = x := fun h => db.shipments.eq_of_shared_key hs hx hks h
  have hnew : p.names s = true → s = x := fun h => heq s hs (honly s hs h)
  rw [mem_shipmentKeys, hf.id_eq, hf.sourceSystem_eq, hf.externalId_eq] at hk
  rcases hk with hid | hexternal | ⟨id, hid, rfl⟩ | ⟨awb, hawb, rfl⟩ | hfulfillment
  · exact hold (mem_shipmentKeys.mpr (.inl hid))
  · exact hold (mem_shipmentKeys.mpr (.inr (.inl hexternal)))
  · rcases hf.shiprocketShipmentId with h | h
    · exact hold (mem_shipmentKeys.mpr (.inr (.inr (.inl ⟨id, h ▸ hid, rfl⟩))))
    · rw [h, Option.some.injEq] at hid
      exact hnew (names_of_key hks (.inl (by rw [hid])))
  · rcases hf.awb with h | h
    · exact hold (mem_shipmentKeys.mpr (.inr (.inr (.inr (.inl ⟨awb, h ▸ hawb, rfl⟩)))))
    · rw [h, Option.some.injEq] at hawb
      exact hnew (names_of_key hks (.inr (.inl (by rw [hawb]))))
  · rw [hf.shopifyFulfillmentId] at hfulfillment
    exact hold (mem_shipmentKeys.mpr (.inr (.inr (.inr (.inr hfulfillment)))))

/-- The rewritten row is the one for the parcel. -/
theorem filedAs_rewrite {db db' : TrackingDB} {x : Shipment} {f : Shipment → Shipment}
    (hx : x ∈ db.shipments.rows)
    (honly : ∀ s ∈ db.shipments.rows, p.names s = true → s.id = x.id)
    (hrows : db'.shipments.rows =
      db.shipments.rows.map fun s => if s.id == x.id then f s else s)
    (horder : (f x).orderId = p.orderId)
    (hnamed : p.names (f x) = true) : p.FiledAs db' (f x) := by
  refine ⟨?_, hnamed, horder, fun s' hs' hs'named => ?_⟩
  · rw [hrows]
    exact List.mem_map.mpr ⟨x, hx, by simp⟩
  · rw [hrows, List.mem_map] at hs'
    obtain ⟨s, hs, rfl⟩ := hs'
    by_cases hsx : s.id = x.id
    · rw [TrackingDB.shipment_eq_of_id_eq hx hs hsx]
      simp
    · simp only [beq_iff_eq, hsx, if_false] at hs'named
      exact absurd (honly s hs hs'named) hsx

/-! ## Section 5: Identifiers filled in -/

/-- The row a webhook leaves on the shipment it was matched to. -/
def identified (ids : WebhookIds) (s : Shipment) : Shipment :=
  { s with
    awb := ids.awb.or s.awb
    shiprocketShipmentId := ids.shiprocketShipmentId.or s.shiprocketShipmentId }

/-- The identifiers a delivery about the parcel may have. -/
structure HasIds (p : Parcel) (ids : WebhookIds) : Prop where
  awb : ids.awb = none ∨ ids.awb = some p.awb
  shiprocketShipmentId : ids.shiprocketShipmentId = none ∨
    ids.shiprocketShipmentId = some p.shipmentId

theorem pyOr_some {id : String} (h : id ≠ "") (default : Option String) :
    pyOr (some id) default = some id := by
  simp [pyOr, pyFalsy, h]

/-- What a webhook would store a new row under. -/
theorem HasIds.externalId {ids : WebhookIds} (h : p.HasIds ids) :
    (ids.shiprocketShipmentId = some p.shipmentId ∧
        pyOr ids.shiprocketShipmentId ids.awb = some p.shipmentId) ∨
      (ids.shiprocketShipmentId = none ∧ pyOr ids.shiprocketShipmentId ids.awb = ids.awb) := by
  rcases h.shiprocketShipmentId with hid | hid <;> rw [hid]
  · exact .inr ⟨rfl, rfl⟩
  · exact .inl ⟨rfl, pyOr_some p.shipmentId_ne _⟩

theorem newIdentifier_or {given stored : Option String} {id : String} (hne : id ≠ "")
    (h : given = none ∨ given = some id) :
    (newIdentifier given stored).or stored = given.or stored := by
  rcases h with rfl | rfl
  · simp [newIdentifier, pyOr]
  · rw [newIdentifier, pyOr_some hne]
    by_cases hstored : stored = some id <;> simp [Option.filter, hstored]

theorem rewrites_identified {ids : WebhookIds} (h : p.HasIds ids) (x : Shipment) :
    p.Rewrites x (identified ids x) := by
  refine ⟨rfl, rfl, rfl, ?_, ?_, rfl⟩
  · rcases h.shiprocketShipmentId with hid | hid <;> simp [identified, hid]
  · rcases h.awb with hawb | hawb <;> simp [identified, hawb]

/-- What a webhook keeps of the parcel's row. -/
structure Keeps (p : Parcel) (x y : Shipment) : Prop where
  keyed_eq : p.keyed y = p.keyed x
  shiprocketShipmentId : x.shiprocketShipmentId = some p.shipmentId →
    y.shiprocketShipmentId = some p.shipmentId
  awb : x.awb = some p.awb → y.awb = some p.awb

theorem Keeps.refl (x : Shipment) : p.Keeps x x := ⟨rfl, id, id⟩

theorem Keeps.of_sameIdentity {x y : Shipment} (h : x.SameIdentity y) : p.Keeps x y :=
  ⟨(names_of_sameIdentity h).1, fun hx => h.shiprocketShipmentId_eq.trans hx,
    fun hx => h.awb_eq.trans hx⟩

theorem Keeps.trans {x y z : Shipment} (h : p.Keeps x y) (h' : p.Keeps y z) : p.Keeps x z :=
  ⟨h'.keyed_eq.trans h.keyed_eq, fun hx => h'.shiprocketShipmentId (h.shiprocketShipmentId hx),
    fun hx => h'.awb (h.awb hx)⟩

theorem Keeps.carries {x y : Shipment} (h : p.Keeps x y) (hx : p.carries x = true) :
    p.carries y = true := by
  simp only [Parcel.carries, Bool.or_eq_true, beq_iff_eq] at hx ⊢
  exact hx.imp h.shiprocketShipmentId h.awb

theorem keeps_identified {ids : WebhookIds} (h : p.HasIds ids) (x : Shipment) :
    p.Keeps x (identified ids x) := by
  refine ⟨rfl, fun hx => ?_, fun hx => ?_⟩
  · rcases h.shiprocketShipmentId with hid | hid <;> simp [identified, hid, hx]
  · rcases h.awb with hawb | hawb <;> simp [identified, hawb, hx]

/-- The row still names the parcel with its identifiers filled in. -/
theorem names_identified {ids : WebhookIds} (h : p.HasIds ids) {x : Shipment}
    (hx : p.names x = true) : p.names (identified ids x) = true := by
  simp only [names, Bool.or_eq_true] at hx ⊢
  exact hx.imp (Or.imp (keeps_identified h x).carries id) id

/-- Filling in the identifiers never fails while no other row is the parcel's. -/
theorem exists_applyIdentifierUpdates {db : TrackingDB} {x : Shipment} {ids : WebhookIds}
    (hx : x ∈ db.shipments.rows)
    (honly : ∀ s ∈ db.shipments.rows, p.names s = true → s.id = x.id) (hids : p.HasIds ids) :
    ∃ db', db.applyIdentifierUpdates x.id ids = .ok db' ∧ db'.orders = db.orders ∧
      db'.shipments.rows =
        db.shipments.rows.map fun s => if s.id == x.id then identified ids s else s := by
  have hget : db.getShipment x.id = some x := TrackingDB.getShipment_eq_some.mpr ⟨hx, rfl⟩
  have heq : ∀ s ∈ db.shipments.rows, s.id = x.id → s = x := fun s hs hid =>
    TrackingDB.shipment_eq_of_id_eq hx hs hid
  let write (s : Shipment) : Shipment :=
    { s with
      awb := (newIdentifier ids.awb x.awb).or s.awb
      shiprocketShipmentId :=
        (newIdentifier ids.shiprocketShipmentId x.shiprocketShipmentId).or
          s.shiprocketShipmentId }
  -- an identifier the row has already is not new, and writing it again changes nothing
  have hwrite : write x = identified ids x := by
    simp only [write, identified, newIdentifier_or p.awb_ne hids.awb,
      newIdentifier_or p.shipmentId_ne hids.shiprocketShipmentId]
  -- only the one row is written, so its own identifiers decide what is new
  have hmap : (db.shipments.rows.map fun s => if s.id == x.id then write s else s) =
      db.shipments.rows.map fun s => if s.id == x.id then identified ids s else s := by
    refine List.map_congr_left fun s hs => ?_
    by_cases hid : s.id = x.id
    · rw [heq s hs hid, hwrite]
    · simp [hid]
  simp only [TrackingDB.applyIdentifierUpdates, hget]
  split
  · rename_i hnothing
    refine ⟨db, rfl, rfl, ?_⟩
    rw [← hmap]
    conv_lhs => rw [← List.map_id db.shipments.rows]
    refine List.map_congr_left fun s hs => ?_
    by_cases hid : s.id = x.id
    · simp [write, hnothing]
    · simp [hid]
  · obtain ⟨t, ht⟩ := exists_rewrite (f := write) hx honly
      (hwrite ▸ rewrites_identified hids x)
    rw [show db.shipments.update? (fun s => s.id == x.id) _ = some t from ht]
    exact ⟨_, rfl, rfl, (Table.rows_of_update? ht).trans hmap⟩

end Parcel

end AyushOms.Tracking
