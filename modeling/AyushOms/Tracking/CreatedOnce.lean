import AyushOms.Lib.Budget
import AyushOms.Tracking.CreateShipment

/-!
# One Live Shiprocket Order

An order may be created at Shiprocket again only when what was created for it before has
been cancelled. The code asks its own shipments, before it calls the provider; the answer
is stored after. This file finds the runs in which that is enough.

## Main results

- `ShipWorld.inv_step`: what one guarded step keeps
- `ShipWorld.one_live_order_throughout`: along guarded runs, an order is created at most
  once more than its shipments are cancelled
- `ShipWorld.two_live_orders`: two calls that overlap, and one whose first answer is lost
-/

namespace AyushOms.Tracking

open AyushOms.Lib AyushOms.Orders AyushOms.Inventory

namespace TrackingDB

/-! ## Section 1: Shipments are never lost -/

/-- Every shipment is still there, under the id and the external id it had. -/
def RowsPersist (db db' : TrackingDB) : Prop :=
  ∀ s ∈ db.shipments.rows, ∃ s' ∈ db'.shipments.rows,
    s'.id = s.id ∧ s'.sourceSystem = s.sourceSystem ∧ s'.externalId = s.externalId

theorem RowsPersist.of_eq {db db' : TrackingDB} (h : db'.shipments = db.shipments) :
    RowsPersist db db' :=
  fun s hs => ⟨s, h ▸ hs, rfl, rfl, rfl⟩

theorem IdentitiesKept.rowsPersist {db db' : TrackingDB} (h : IdentitiesKept db db') :
    RowsPersist db db' := by
  intro s hs
  obtain ⟨s', hs', hsame⟩ := h.of_mem hs
  exact ⟨s', hs', hsame.id_eq, hsame.sourceSystem_eq, hsame.externalId_eq⟩

theorem rowsPersist_upsertSyncedShipment {db db' : TrackingDB} {data : SyncedShipment}
    {orderId : UUID} {created : Bool}
    (h : db.upsertSyncedShipment data orderId = .ok (created, db')) : RowsPersist db db' := by
  unfold upsertSyncedShipment at h
  split at h
  · split at h
    · cases h
    · rename_i shipments hupdate
      cases h
      intro s hs
      -- the known shipment is rewritten in place
      refine ⟨_, (Table.rows_of_update? hupdate) ▸ List.mem_map_of_mem hs, ?_⟩
      split <;> exact ⟨rfl, rfl, rfl⟩
  · dsimp only at h
    split at h
    · cases h
    · rename_i shipments hinsert
      cases h
      intro s hs
      refine ⟨s, ?_, rfl, rfl, rfl⟩
      simp only [Table.rows_of_insert? hinsert]
      exact List.mem_append_left _ hs

theorem rowsPersist_upsertShipment {db db' : TrackingDB} {data : SyncedShipment}
    {env : LookupEnv} {created : Bool}
    (h : db.upsertShipment data env = .ok (created, db')) : RowsPersist db db' := by
  unfold upsertShipment at h
  cases horder : db.orderForShipment data env with
  | error e =>
    rw [horder] at h
    cases h
  | ok orderId =>
    rw [horder] at h
    exact rowsPersist_upsertSyncedShipment h

theorem rowsPersist_cancelShipment {db db' : TrackingDB} {shipmentId : UUID}
    {answer : Except OMSError Unit} (h : db.cancelShipment shipmentId answer = .ok db') :
    RowsPersist db db' := by
  unfold cancelShipment at h
  split at h
  · cases h
  · split at h
    · cases h
    · split at h
      · cases h
      · cases h
        exact (identitiesKept_updateStatus _ _ _).rowsPersist

/-- An order that may ship has no shipment but cancelled ones. -/
theorem cancelled_of_beginShipment {db : TrackingDB} {orderId : UUID}
    {fulfillmentStatus : FulfillmentStatus} {setup : ShiprocketSetup}
    (h : db.beginShipment orderId fulfillmentStatus setup = .ok ()) {s : Shipment}
    (hs : s ∈ db.shipments.rows) (ho : s.orderId = orderId) : s.currentStatus = .cancelled := by
  unfold beginShipment at h
  split at h
  · cases h
  · rename_i order horder
    obtain ⟨_, hid⟩ := OrdersDB.getOrder_eq_some.mp horder
    split at h
    · cases h
    · rename_i hcheck
      by_contra hstatus
      -- the guard of `_check_shippable` sees the shipment
      have hlive : (db.shipmentsForOrder order.id).any
          (fun s => s.currentStatus != .cancelled) = true := by
        refine List.any_eq_true.mpr ⟨s, List.mem_filter.mpr ⟨hs, ?_⟩, ?_⟩
        · simp [ho, hid]
        · simpa using hstatus
      unfold checkShippable at hcheck
      rw [if_pos hlive] at hcheck
      split at hcheck
      · cases hcheck
      · split at hcheck
        · cases hcheck
        · split at hcheck <;> cases hcheck

end TrackingDB

namespace ShipWorld

/-! ## Section 2: What the runs must keep to -/

/-- The call is past its check for the order, and the provider may still act for it. -/
def Requesting (w : ShipWorld) (n : ℕ) (orderId : UUID) : Prop :=
  ∃ rest r, w.callers[n]? = some ⟨orderId :: rest, .requesting r⟩

/-- No call is past its check for the order and waits for the provider. -/
def NoneRequesting (w : ShipWorld) (orderId : UUID) : Prop :=
  ∀ c ∈ w.callers, c.orderIds.head? = some orderId → c.stage.isRequesting = false

/-- What was created for the order is stored as its shipments. -/
def AllStored (w : ShipWorld) (orderId : UUID) : Prop :=
  ∀ c ∈ w.createdFor orderId, ∃ s ∈ w.db.shipments.rows,
    s.orderId = orderId ∧ s.sourceSystem = some .shiprocket ∧ s.externalId = some c.2

/-- What is asked of a step. A call passes its check while no other call on the order waits
for the provider and what was created for the order before is stored; a request the
provider acted on is not sent again. -/
def Guarded (w : ShipWorld) : ShipEvent → Prop
  | .check n fulfillmentStatus setup => ∀ c ∈ w.callers[n]?, ∀ orderId ∈ c.orderIds.head?,
    c.stage = .idle → w.db.beginShipment orderId fulfillmentStatus setup = .ok () →
      w.NoneRequesting orderId ∧ w.AllStored orderId
  | .post n created (.failure e) => ∀ c ∈ w.callers[n]?, created.isSome = true →
    c.stage.resends e = false
  | _ => True

/-- The provider gives each order it creates a shipment id of its own. -/
def NumbersAnew (w : ShipWorld) : ShipEvent → Prop
  | .post _ (some id) _ => id ∉ w.created.map Prod.snd
  | _ => True

instance (w : ShipWorld) (orderId : UUID) : Decidable (w.NoneRequesting orderId) :=
  inferInstanceAs (Decidable (∀ c ∈ w.callers, c.orderIds.head? = some orderId →
    c.stage.isRequesting = false))

instance (w : ShipWorld) (orderId : UUID) : Decidable (w.AllStored orderId) :=
  inferInstanceAs (Decidable (∀ c ∈ w.createdFor orderId, ∃ s ∈ w.db.shipments.rows,
    s.orderId = orderId ∧ s.sourceSystem = some .shiprocket ∧ s.externalId = some c.2))

instance (w : ShipWorld) : (e : ShipEvent) → Decidable (w.Guarded e)
  | .check n fulfillmentStatus setup =>
    inferInstanceAs (Decidable (∀ c ∈ w.callers[n]?, ∀ orderId ∈ c.orderIds.head?,
      c.stage = .idle → w.db.beginShipment orderId fulfillmentStatus setup = .ok () →
        w.NoneRequesting orderId ∧ w.AllStored orderId))
  | .post n created (.failure e) =>
    inferInstanceAs (Decidable (∀ c ∈ w.callers[n]?, created.isSome = true →
      c.stage.resends e = false))
  | .post _ _ (.body _) | .post _ _ .unreadable | .call _ | .store _ | .crash _
  | .cancelShipment _ _ | .track _ _ | .pull _ _ | .shop _ => isTrue True.intro

instance (w : ShipWorld) : (e : ShipEvent) → Decidable (w.NumbersAnew e)
  | .post _ (some id) _ => inferInstanceAs (Decidable (id ∉ w.created.map Prod.snd))
  | .post _ none _ | .call _ | .check _ _ _ | .store _ | .crash _ | .cancelShipment _ _
  | .track _ _ | .pull _ _ | .shop _ => isTrue True.intro

theorem NoneRequesting.not_requesting {w : ShipWorld} {o : UUID} (h : w.NoneRequesting o)
    (n : ℕ) : ¬ w.Requesting n o := by
  rintro ⟨rest, r, hn⟩
  exact absurd (h _ (List.mem_of_getElem? hn) rfl) nofun

/-! ## Section 3: The invariant -/

/-- The shipment of this id has been seen cancelled as one of the order's. -/
def Released (w : ShipWorld) (orderId : UUID) (shipmentId : String) : Prop :=
  ∃ s ∈ w.db.shipments.rows, s.sourceSystem = some .shiprocket ∧
    s.externalId = some shipmentId ∧ (orderId, s.id) ∈ w.cancelled

/-- At most one order is live at the provider for each order here, none while a call may
still create one, and at most one call may. -/
structure Inv (w : ShipWorld) : Prop where
  distinct : (w.created.map Prod.snd).Nodup
  noted : ∀ s ∈ w.db.shipments.rows, s.currentStatus = .cancelled →
    (s.orderId, s.id) ∈ w.cancelled
  one_live : ∀ o id id', (o, id) ∈ w.created → (o, id') ∈ w.created →
    ¬ w.Released o id → ¬ w.Released o id' → id = id'
  none_live : ∀ n o, w.Requesting n o → ∀ id, (o, id) ∈ w.created → w.Released o id
  one_requesting : ∀ n m o, w.Requesting n o → w.Requesting m o → n = m

theorem Released.mono {w w' : ShipWorld} (hrows : TrackingDB.RowsPersist w.db w'.db)
    (hcancelled : w.cancelled ⊆ w'.cancelled) {o : UUID} {id : String}
    (h : w.Released o id) : w'.Released o id := by
  obtain ⟨s, hs, hsource, hexternal, hmem⟩ := h
  obtain ⟨s', hs', hid, hsource', hexternal'⟩ := hrows s hs
  exact ⟨s', hs', hsource'.trans hsource, hexternal'.trans hexternal,
    hcancelled (hid ▸ hmem)⟩

@[simp] theorem db_note (w : ShipWorld) : w.note.db = w.db := rfl
@[simp] theorem callers_note (w : ShipWorld) : w.note.callers = w.callers := rfl
@[simp] theorem created_note (w : ShipWorld) : w.note.created = w.created := rfl

theorem cancelled_subset_note (w : ShipWorld) : w.cancelled ⊆ w.note.cancelled :=
  Finset.subset_union_left

theorem mem_cancelled_note {w : ShipWorld} {s : Shipment} (hs : s ∈ w.db.shipments.rows)
    (hstatus : s.currentStatus = .cancelled) : (s.orderId, s.id) ∈ w.note.cancelled := by
  refine Finset.mem_union_right _ (List.mem_toFinset.mpr (List.mem_map_of_mem ?_))
  exact List.mem_filter.mpr ⟨hs, by simp [hstatus]⟩

theorem Released.note {w w' : ShipWorld} (hrows : TrackingDB.RowsPersist w.db w'.db)
    (hcancelled : w'.cancelled = w.cancelled) {o : UUID} {id : String}
    (h : w.Released o id) : w'.note.Released o id := by
  have hsub : w.cancelled ⊆ w'.note.cancelled := by
    rw [← hcancelled]
    exact cancelled_subset_note w'
  refine Released.mono ?_ hsub h
  exact hrows

theorem inv_start (db : TrackingDB) : (start db).Inv where
  distinct := List.nodup_nil
  noted _ hs hstatus := mem_cancelled_note hs hstatus
  one_live _ _ _ h := absurd h List.not_mem_nil
  none_live _ _ _ _ h := absurd h List.not_mem_nil
  one_requesting _ _ _ h := by
    obtain ⟨_, _, hn⟩ := h
    cases hn

/-- A step that creates nothing and lets no call past its check keeps the invariant. -/
theorem Inv.frame {w w' : ShipWorld} (h : w.Inv) (hcreated : w'.created = w.created)
    (hrows : TrackingDB.RowsPersist w.db w'.db) (hcancelled : w'.cancelled = w.cancelled)
    (hcallers : ∀ n o, w'.Requesting n o → w.Requesting n o) : w'.note.Inv := by
  have hmono : ∀ {o id}, w.Released o id → w'.note.Released o id :=
    fun hr => hr.note hrows hcancelled
  refine ⟨?_, fun _ hs hstatus => mem_cancelled_note hs hstatus, ?_, ?_, ?_⟩
  · rw [created_note, hcreated]
    exact h.distinct
  · intro o id id' hid hid' hlive hlive'
    rw [created_note, hcreated] at hid hid'
    exact h.one_live o id id' hid hid' (fun hr => hlive (hmono hr)) fun hr => hlive' (hmono hr)
  · intro n o hn id hid
    rw [created_note, hcreated] at hid
    exact hmono (h.none_live n o (hcallers n o hn) id hid)
  · intro n m o hn hm
    exact h.one_requesting n m o (hcallers n o hn) (hcallers m o hm)

/-- Who waits for the provider after one call moved on: that call, when it was told to, or
another one that did before. -/
theorem requesting_setCaller {w : ShipWorld} {n m : ℕ} {c : Caller} {o : UUID}
    (h : (w.setCaller n c).Requesting m o) :
    (m = n ∧ ∃ rest r, c = ⟨o :: rest, .requesting r⟩) ∨ (m ≠ n ∧ w.Requesting m o) := by
  obtain ⟨rest, r, hm⟩ := h
  simp only [setCaller, List.getElem?_set] at hm
  split at hm
  · rename_i heq
    split at hm
    · exact .inl ⟨heq.symm, rest, r, Option.some.inj hm⟩
    · cases hm
  · rename_i hne
    exact .inr ⟨fun heq => hne heq.symm, rest, r, hm⟩

/-- A call that moves on without passing a check waits only if it waited before. -/
theorem requesting_of_setCaller {w : ShipWorld} {n : ℕ} {c : Caller}
    (hc : ∀ o rest r, c = ⟨o :: rest, .requesting r⟩ → w.Requesting n o) (m : ℕ) (o : UUID)
    (h : (w.setCaller n c).Requesting m o) : w.Requesting m o := by
  obtain ⟨rfl, rest, r, heq⟩ | ⟨_, hw⟩ := requesting_setCaller h
  · exact hc o rest r heq
  · exact hw

theorem requesting_call {w : ShipWorld} {orderIds : List UUID} {n : ℕ} {o : UUID}
    (h : Requesting { w with callers := w.callers ++ [{ orderIds := orderIds }] } n o) :
    w.Requesting n o := by
  obtain ⟨rest, r, hn⟩ := h
  rw [List.getElem?_append] at hn
  split at hn
  · exact ⟨rest, r, hn⟩
  · -- the call that begins is at no request
    rw [List.getElem?_singleton] at hn
    split at hn <;> cases hn

/-- A call that keeps waiting after an attempt works on the same order. -/
theorem afterPost_requesting {orderId o : UUID} {rest rest' : List UUID} {r r' : Request}
    {answer : Answer} (h : afterPost orderId rest r answer = ⟨o :: rest', .requesting r'⟩) :
    o = orderId ∧ ∃ e, answer = .failure e ∧ r.afterFailure e = some r' := by
  cases answer with
  | body shipmentId =>
    simp only [afterPost] at h
    split at h <;> cases h
  | failure e =>
    simp only [afterPost] at h
    split at h
    · rename_i r'' hafter
      cases h
      exact ⟨rfl, e, rfl, hafter⟩
    · cases h
  | unreadable => cases h

/-! ## Section 4: Steps -/

/-- A call passes its check. -/
theorem Inv.passCheck {w : ShipWorld} (h : w.Inv) {n : ℕ} {orderId : UUID} {rest : List UUID}
    {fulfillmentStatus : FulfillmentStatus} {setup : TrackingDB.ShiprocketSetup}
    (hbegin : w.db.beginShipment orderId fulfillmentStatus setup = .ok ())
    (hnone : w.NoneRequesting orderId) (hstored : w.AllStored orderId) :
    (w.setCaller n ⟨orderId :: rest, .requesting {}⟩).note.Inv := by
  have hmono : ∀ {o id}, w.Released o id →
      (w.setCaller n ⟨orderId :: rest, .requesting {}⟩).note.Released o id :=
    fun hr => hr.note (TrackingDB.RowsPersist.of_eq rfl) rfl
  refine ⟨h.distinct, fun _ hs hstatus => mem_cancelled_note hs hstatus, ?_, ?_, ?_⟩
  · intro o id id' hid hid' hlive hlive'
    exact h.one_live o id id' hid hid' (fun hr => hlive (hmono hr)) fun hr => hlive' (hmono hr)
  · intro m o hm id hid
    obtain ⟨-, _, _, heq⟩ | ⟨_, hm⟩ := requesting_setCaller hm
    · -- what was created before is stored, and the check saw it cancelled
      cases heq
      obtain ⟨s, hs, ho, hsource, hexternal⟩ :=
        hstored (orderId, id) (List.mem_filter.mpr ⟨hid, by simp⟩)
      have hstatus := TrackingDB.cancelled_of_beginShipment hbegin hs ho
      exact hmono ⟨s, hs, hsource, hexternal, ho ▸ h.noted s hs hstatus⟩
    · exact hmono (h.none_live m o hm id hid)
  · intro m m' o hm hm'
    obtain ⟨hmn, _, _, heq⟩ | ⟨_, hm⟩ := requesting_setCaller hm
    · cases heq
      obtain ⟨hmn', _⟩ | ⟨_, hm'⟩ := requesting_setCaller hm'
      · exact hmn.trans hmn'.symm
      · exact absurd hm' (hnone.not_requesting m')
    · obtain ⟨_, _, _, heq'⟩ | ⟨_, hm'⟩ := requesting_setCaller hm'
      · cases heq'
        exact absurd hm (hnone.not_requesting m)
      · exact h.one_requesting m m' o hm hm'

/-- The provider creates an order for a call that then no longer waits. -/
theorem Inv.create {w : ShipWorld} (h : w.Inv) {n : ℕ} {orderId : UUID} {c : Caller}
    {id : String} (hn : w.Requesting n orderId) (hnew : id ∉ w.created.map Prod.snd)
    (hc : ∀ o rest r, c ≠ ⟨o :: rest, .requesting r⟩) :
    ({ w with created := w.created ++ [(orderId, id)] }.setCaller n c).note.Inv := by
  have hmono : ∀ {o id'}, w.Released o id' →
      ({ w with created := w.created ++ [(orderId, id)] }.setCaller n c).note.Released o id' :=
    fun hr => hr.note (TrackingDB.RowsPersist.of_eq rfl) rfl
  have hwaits : ∀ m o, ({ w with created := w.created ++ [(orderId, id)] }.setCaller n
      c).note.Requesting m o → m ≠ n ∧ w.Requesting m o := by
    intro m o hm
    obtain ⟨_, rest, r, heq⟩ | hm₁ := requesting_setCaller hm
    · exact absurd heq (hc o rest r)
    · exact hm₁
  have hcreated : ∀ {o a}, (o, a) ∈ ({ w with created := w.created ++ [(orderId, id)] }.setCaller n
      c).note.created → (o, a) ∈ w.created ∨ o = orderId ∧ a = id := by
    intro o a ha
    rcases List.mem_append.mp ha with ha₁ | ha₁
    · exact .inl ha₁
    · exact .inr (Prod.mk.inj (List.mem_singleton.mp ha₁))
  refine ⟨?_, fun _ hs hstatus => mem_cancelled_note hs hstatus, ?_, ?_, ?_⟩
  · change ((w.created ++ [(orderId, id)]).map Prod.snd).Nodup
    rw [List.map_append, List.nodup_append']
    refine ⟨h.distinct, by simp, fun x hx hx' => ?_⟩
    simp only [List.map_cons, List.map_nil, List.mem_singleton] at hx'
    exact hnew (hx' ▸ hx)
  · intro o a b ha hb hlive hlive'
    -- nothing created before for this order is live, so the new one is the only live one
    rcases hcreated ha with ha₁ | ⟨rfl, rfl⟩
    · rcases hcreated hb with hb₁ | ⟨rfl, rfl⟩
      · exact h.one_live o a b ha₁ hb₁ (fun hr => hlive (hmono hr)) fun hr => hlive' (hmono hr)
      · exact absurd (hmono (h.none_live n o hn a ha₁)) hlive
    · rcases hcreated hb with hb₁ | ⟨_, rfl⟩
      · exact absurd (hmono (h.none_live n o hn b hb₁)) hlive'
      · rfl
  · intro m o hm a ha
    obtain ⟨hmn, hm₁⟩ := hwaits m o hm
    rcases hcreated ha with ha₁ | ⟨rfl, _⟩
    · exact hmono (h.none_live m o hm₁ a ha₁)
    · exact absurd (h.one_requesting m n o hm₁ hn) hmn
  · intro m m' o hm hm'
    exact h.one_requesting m m' o (hwaits m o hm).2 (hwaits m' o hm').2

section AnyText

variable [PyText]

/-- One step of a guarded run. -/
theorem inv_step {w : ShipWorld} {e : ShipEvent} (h : w.Inv) (hguard : w.Guarded e)
    (hnew : w.NumbersAnew e) : (w.step e).Inv := by
  have hsame : w.note.Inv :=
    h.frame rfl (TrackingDB.RowsPersist.of_eq rfl) rfl fun _ _ => id
  -- a caller that is left idle, in a database that lost no row
  have hidle : ∀ n orderIds db, TrackingDB.RowsPersist w.db db →
      ({ w with db := db }.setCaller n { orderIds := orderIds }).note.Inv := by
    intro n orderIds db hrows
    exact h.frame rfl hrows rfl (requesting_of_setCaller (w := { w with db := db }) nofun)
  cases e with
  | call orderIds =>
    exact h.frame rfl (TrackingDB.RowsPersist.of_eq rfl) rfl fun _ _ => requesting_call
  | check n fulfillmentStatus setup =>
    simp only [step, act]
    split
    · rename_i orderId rest hn
      split
      · rename_i hbegin
        obtain ⟨hnone, hstored⟩ := hguard _ hn orderId rfl rfl hbegin
        exact h.passCheck hbegin hnone hstored
      · exact hidle n rest w.db (TrackingDB.RowsPersist.of_eq rfl)
    · exact hsame
  | post n created answer =>
    simp only [step, act]
    split
    · rename_i orderId rest r hn
      have hrequesting : w.Requesting n orderId := ⟨rest, r, hn⟩
      cases created with
      | none =>
        refine h.frame (List.append_nil _) (TrackingDB.RowsPersist.of_eq rfl) rfl ?_
        refine requesting_of_setCaller (w := { w with created := w.created ++ [] }) ?_
        intro o rest' r' heq
        obtain ⟨rfl, -⟩ := afterPost_requesting heq
        exact hrequesting
      | some id =>
        refine h.create hrequesting hnew fun o rest' r' heq => ?_
        -- a request the provider acted on is not sent again
        obtain ⟨-, e, rfl, hafter⟩ := afterPost_requesting heq
        have hgiven : (r.afterFailure e).isSome = false := hguard _ hn rfl
        rw [hafter] at hgiven
        cases hgiven
    · exact hsame
  | store n =>
    simp only [step, act]
    split
    · split
      · rename_i hupsert
        exact hidle n _ _ (TrackingDB.rowsPersist_upsertSyncedShipment hupsert)
      · exact hidle n _ w.db (TrackingDB.RowsPersist.of_eq rfl)
    · exact hsame
  | crash n => exact hidle n [] w.db (TrackingDB.RowsPersist.of_eq rfl)
  | cancelShipment shipmentId answer =>
    simp only [step, act]
    split
    · rename_i hcancel
      exact h.frame rfl (TrackingDB.rowsPersist_cancelShipment hcancel) rfl fun _ _ => id
    · exact hsame
  | track shipmentId call =>
    exact h.frame rfl
      (TrackingDB.identitiesKept_applyTrackingEvent w.db shipmentId call).rowsPersist rfl
      fun _ _ => id
  | pull data env =>
    simp only [step, act]
    split
    · rename_i hpull
      exact h.frame rfl (TrackingDB.rowsPersist_upsertShipment hpull) rfl fun _ _ => id
    · exact hsame
  | shop orders => exact h.frame rfl (TrackingDB.RowsPersist.of_eq rfl) rfl fun _ _ => id

/-! ## Section 5: Runs -/

omit [PyText] in
/-- At most one more order was created for an order here than its shipments were cancelled. -/
theorem Inv.created_le {w : ShipWorld} (h : w.Inv) (o : UUID) :
    (w.createdFor o).length ≤ 1 + (w.cancelledFor o).card := by
  -- an order is matched with the cancelled shipment stored under its id
  have hpairs : (w.createdFor o).Nodup := (List.Nodup.of_map _ h.distinct).filter _
  refine length_le_succ_card_of_matched (fun c x => c.1 = o ∧ ∃ s ∈ w.db.shipments.rows,
    s.sourceSystem = some .shiprocket ∧ s.externalId = some c.2 ∧ x = (o, s.id)) ?_ hpairs ?_
  · rintro ⟨_, a⟩ ⟨_, b⟩ x ⟨rfl, s, hs, _, ha, rfl⟩ ⟨rfl, s', hs', _, hb, hx⟩
    have hid : s' = s := TrackingDB.shipment_eq_of_id_eq hs hs' (Prod.mk.inj hx).2.symm
    rw [hid, ha] at hb
    exact Prod.ext rfl (Option.some.inj hb)
  · rintro ⟨o₁, a⟩ ha ⟨o₂, b⟩ hb hlive hlive'
    obtain ⟨ha₁, ho₁⟩ := List.mem_filter.mp ha
    obtain ⟨hb₁, ho₂⟩ := List.mem_filter.mp hb
    simp only [beq_iff_eq] at ho₁ ho₂
    subst ho₁ ho₂
    refine Prod.ext rfl (h.one_live _ a b ha₁ hb₁ (fun hr => hlive ?_) fun hr => hlive' ?_)
    all_goals
      obtain ⟨s, hs, hsource, hexternal, hmem⟩ := hr
      exact ⟨_, Finset.mem_filter.mpr ⟨hmem, rfl⟩, rfl, s, hs, hsource, hexternal, rfl⟩

/-- In any interleaving of calls, of their retries and of everything else: while the calls
keep to the guard, each order has been created at most once more than its shipments have
been cancelled. -/
theorem one_live_order_throughout {db : TrackingDB} {es : List ShipEvent}
    (hprovider : Along step NumbersAnew (start db) es)
    (hguard : Along step Guarded (start db) es) :
    Throughout step (fun w => ∀ o, (w.createdFor o).length ≤ 1 + (w.cancelledFor o).card)
      (start db) es := by
  have hinv : Throughout step Inv (start db) es :=
    throughout_of_along (fun _ _ h hstep => inv_step h hstep.1 hstep.2) (inv_start db)
      (hguard.and hprovider)
  exact fun pre hpre o => (hinv pre hpre).created_le o

end AnyText

/-- A confirmed order for two units of a variant with ten boxes. -/
def readyToShip : TrackingDB where
  orders := {
    orders := Table.ofList [{
      id := 7, orderNumber := "1007", status := .confirmed, shippingAddress := some {} }]
      (by decide)
    stock := {
      variants := Stock.twoOrders.variants
      orderItems := Table.ofList
        [{ orderId := 7, productVariantId := some 1, sku := "TEA-60", quantity := 2 }]
        (by decide) } }

/-- The steps of call `n` when nothing goes wrong. -/
def shipped (n : ℕ) (shipmentId : String) : List ShipEvent :=
  [.check n .unfulfilled {}, .post n (some shipmentId) (.body (some shipmentId)), .store n]

/-- The order is shipped, its shipment cancelled, and the order shipped again. -/
def reship : List ShipEvent :=
  .call [7] :: shipped 0 "S1" ++ .cancelShipment 1 (.ok ()) :: .call [7] :: shipped 1 "S2"

theorem one_live_order_throughout_reship :
    ((run step (start readyToShip) reship).createdFor 7).length = 2 ∧
      ((run step (start readyToShip) reship).createdFor 7).length ≤
        1 + ((run step (start readyToShip) reship).cancelledFor 7).card := by
  have hprovider : Along step NumbersAnew (start readyToShip) reship := by decide +kernel
  have hguard : Along step Guarded (start readyToShip) reship := by decide +kernel
  exact ⟨by decide +kernel, (one_live_order_throughout hprovider hguard).final 7⟩

/-- Two calls pass their checks before either stores its shipment. -/
def overlapping : List ShipEvent :=
  [.call [7], .call [7], .check 0 .unfulfilled {}, .check 1 .unfulfilled {},
    .post 0 (some "S1") (.body (some "S1")), .post 1 (some "S2") (.body (some "S2")),
    .store 0, .store 1]

/-- The provider acts on a request whose answer is lost, and the client sends it again. -/
def lostAnswer : List ShipEvent :=
  [.call [7], .check 0 .unfulfilled {}, .post 0 (some "S1") (.failure { errorType := "timeout" }),
    .post 0 (some "S2") (.body (some "S2")), .store 0]

/-- Two orders are live at the provider, and no shipment was cancelled. -/
theorem two_live_orders :
    ¬ ((run step (start readyToShip) overlapping).createdFor 7).length ≤
      1 + ((run step (start readyToShip) overlapping).cancelledFor 7).card ∧
    ¬ ((run step (start readyToShip) lostAnswer).createdFor 7).length ≤
      1 + ((run step (start readyToShip) lostAnswer).cancelledFor 7).card := by
  decide +kernel

end ShipWorld

end AyushOms.Tracking
