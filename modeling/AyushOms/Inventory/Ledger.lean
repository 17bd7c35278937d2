import AyushOms.Inventory.Service
import AyushOms.Lib.Run

/-!
# The Stock Ledger

`available_quantity` is a stored absolute value; the ledger of movements is kept next to
it. This file proves that the two never part company while the inventory service's calls
run one after another, and that the automatic movements are idempotent.

## Main results

- `Stock.reconciled_recordMovement_iff`: a write keeps quantity and ledger in agreement
  exactly when its row was computed from the quantity it replaces
- `Stock.reconciled_step`, `Stock.evolves_step`: what one operation preserves
- `Stock.run_reconciled_and_idempotent`: over any run the quantities reconcile, each
  automatic movement is recorded at most once, and firing it again changes nothing
-/

namespace AyushOms.Inventory

open AyushOms.Lib AyushOms.Orders

namespace Stock

/-! ## Section 1: Agreement of quantity and ledger -/

/-- Every variant's stored quantity is its opening quantity plus its movements, and each
movement records the running quantity. -/
def Reconciled (opening : UUID → Int) (s : Stock) : Prop :=
  ∀ v ∈ s.variants.rows,
    Balanced InventoryMovement.quantityDelta InventoryMovement.quantityAfter (opening v.id)
      v.availableQuantity (s.movementsOf v.id)

/-- The row starts from the quantity its variant has in this state. -/
def ComputedFrom (s : Stock) (m : InventoryMovement) : Prop :=
  ∀ v ∈ s.variants.rows, v.id = m.productVariantId →
    m.quantityAfter = v.availableQuantity + m.quantityDelta

instance (s : Stock) (m : InventoryMovement) : Decidable (s.ComputedFrom m) :=
  inferInstanceAs (Decidable (∀ v ∈ s.variants.rows, v.id = m.productVariantId →
    m.quantityAfter = v.availableQuantity + m.quantityDelta))

/-- Without movements every variant opens with the quantity it has. -/
theorem reconciled_of_no_movements {s : Stock} {opening : UUID → Int}
    (hm : s.movements.rows = [])
    (hopen : ∀ v ∈ s.variants.rows, opening v.id = v.availableQuantity) :
    s.Reconciled opening := by
  intro v hv
  rw [hopen v hv, movementsOf, hm]
  exact balanced_nil v.availableQuantity

theorem movementsOf_of_accepted {s : Stock} {m : InventoryMovement} {t : MovementTable}
    (h : s.movements.insert? m = some t) (variantId : UUID) :
    (s.recordMovement m).movementsOf variantId =
      if m.productVariantId = variantId then s.movementsOf variantId ++ [m]
      else s.movementsOf variantId := by
  rw [recordMovement_of_accepted h]
  simp only [movementsOf, Table.rows_of_insert? h, List.filter_append]
  by_cases hv : m.productVariantId = variantId <;> simp [hv]

/-- The variants after an accepted row: its own has the recorded quantity, the others are
as they were. -/
theorem mem_variants_of_accepted {s : Stock} {m : InventoryMovement} {t : MovementTable}
    (h : s.movements.insert? m = some t) {v' : ProductVariant} :
    v' ∈ (s.recordMovement m).variants.rows ↔
      ∃ v ∈ s.variants.rows,
        (v.id = m.productVariantId ∧ v' = { v with availableQuantity := m.quantityAfter }) ∨
        (v.id ≠ m.productVariantId ∧ v' = v) := by
  rw [recordMovement_of_accepted h]
  exact mem_setAvailable

/-- An accepted write keeps quantity and ledger in agreement exactly when its row was
computed from the quantity it replaces. -/
theorem reconciled_recordMovement_iff {s : Stock} {opening : UUID → Int}
    {m : InventoryMovement} {t : MovementTable} (hs : s.Reconciled opening)
    (h : s.movements.insert? m = some t) :
    (s.recordMovement m).Reconciled opening ↔ s.ComputedFrom m := by
  constructor
  · -- read the written variant back: it is balanced only if the row started from it
    intro hafter v hv hid
    have hv' : { v with availableQuantity := m.quantityAfter } ∈
        (s.recordMovement m).variants.rows :=
      (mem_variants_of_accepted h).mpr ⟨v, hv, .inl ⟨hid, rfl⟩⟩
    have hbal := hafter _ hv'
    rw [movementsOf_of_accepted h, if_pos hid.symm] at hbal
    exact (balanced_concat (hs v hv)).mp hbal
  · -- the row's own variant takes the new balance, the others keep theirs
    intro hm v' hv'
    obtain ⟨v, hv, ⟨hid, rfl⟩ | ⟨hid, rfl⟩⟩ := (mem_variants_of_accepted h).mp hv'
    · rw [movementsOf_of_accepted h, if_pos hid.symm]
      exact (balanced_concat (hs v hv)).mpr (hm v hv hid)
    · rw [movementsOf_of_accepted h, if_neg fun he => hid he.symm]
      exact hs _ hv

/-- A write computed from the present quantity keeps the agreement, refused or not. -/
theorem reconciled_recordMovement {s : Stock} {opening : UUID → Int} {m : InventoryMovement}
    (hs : s.Reconciled opening) (hm : s.ComputedFrom m) :
    (s.recordMovement m).Reconciled opening := by
  cases h : s.movements.insert? m with
  | none => rwa [recordMovement_of_refused h]
  | some t => exact (reconciled_recordMovement_iff hs h).mpr hm

/-- The stock is the same: identities, quantities and ledger are as before, only the
conversion settings of the variants may differ. -/
def SameStock (s s' : Stock) : Prop :=
  ∃ f : ProductVariant → ProductVariant,
    (∀ v, (f v).id = v.id ∧ (f v).sku = v.sku ∧
      (f v).availableQuantity = v.availableQuantity) ∧
    s'.variants.rows = s.variants.rows.map f ∧ s'.movements = s.movements

theorem SameStock.of_tables_eq {s s' : Stock} (hv : s'.variants = s.variants)
    (hm : s'.movements = s.movements) : SameStock s s' :=
  ⟨id, fun _ => ⟨rfl, rfl, rfl⟩, by rw [hv, List.map_id], hm⟩

theorem sameStock_updateVariant {s : Stock} {variantId : UUID}
    {f : Table.KeyPreserving ProductVariant.keys}
    (hkeep : ∀ v, (f v).id = v.id ∧ (f v).sku = v.sku ∧
      (f v).availableQuantity = v.availableQuantity) :
    SameStock s (s.updateVariant variantId f) := by
  refine ⟨fun v => if v.id == variantId then f v else v, fun v => ?_, rfl, rfl⟩
  by_cases hv : v.id = variantId <;> simp [hv, hkeep]

theorem reconciled_of_sameStock {s s' : Stock} {opening : UUID → Int} (h : SameStock s s')
    (hs : s.Reconciled opening) : s'.Reconciled opening := by
  obtain ⟨f, hkeep, hrows, hm⟩ := h
  intro v' hv'
  rw [hrows, List.mem_map] at hv'
  obtain ⟨v, hv, rfl⟩ := hv'
  obtain ⟨hid, _, hq⟩ := hkeep v
  rw [movementsOf, hm, hid, hq]
  exact hs v hv

/-- A planned row starts from the quantity of the state it was planned in. -/
theorem computedFrom_of_planItem {kind : AutoMovement} {orderId : UUID} {s : Stock}
    {item : OrderItem} {m : InventoryMovement} (h : planItem kind orderId s item = some m) :
    s.ComputedFrom m := by
  obtain ⟨_, v, hres, _, rfl⟩ := planItem_eq_some_iff.mp h
  intro v' hv' hid
  rw [eq_of_id_eq (resolveVariant_mem hres) hv' hid]

theorem computedFrom_of_planAddStock {s : Stock} {variantId : UUID} {quantityToAdd : Int}
    {reason : String} {actor : Option UUID} {m : InventoryMovement}
    (h : s.planAddStock variantId quantityToAdd reason actor = .ok m) : s.ComputedFrom m := by
  obtain ⟨v, hv, _, _, rfl⟩ := planAddStock_eq_ok h
  intro v' hv' hid
  rw [eq_of_id_eq hv hv' hid]

theorem reconciled_itemStep {kind : AutoMovement} {orderId : UUID} {opening : UUID → Int}
    (s : Stock) (item : OrderItem) (hs : s.Reconciled opening) :
    (itemStep kind orderId s item).Reconciled opening := by
  unfold itemStep
  cases h : planItem kind orderId s item with
  | none => exact hs
  | some m => exact reconciled_recordMovement hs (computedFrom_of_planItem h)

theorem reconciled_applyItems {kind : AutoMovement} {orderId : UUID} {opening : UUID → Int}
    {s : Stock} (hs : s.Reconciled opening) (items : List OrderItem) :
    (applyItems kind orderId s items).Reconciled opening :=
  run_invariant (itemStep kind orderId) reconciled_itemStep hs items

/-! ## Section 2: Stock only evolves -/

/-- The columns a line item is resolved by. -/
def identities (s : Stock) : List (UUID × String) :=
  s.variants.rows.map fun v => (v.id, v.sku)

/-- A later state: the same variants, and a ledger that has only grown. -/
structure Evolves (s s' : Stock) : Prop where
  identities_eq : s'.identities = s.identities
  ledger_prefix : s.movements.rows <+: s'.movements.rows

theorem Evolves.refl (s : Stock) : Evolves s s := ⟨rfl, List.prefix_rfl⟩

theorem Evolves.trans {a b c : Stock} (h : Evolves a b) (h' : Evolves b c) : Evolves a c :=
  ⟨h'.identities_eq.trans h.identities_eq, h.ledger_prefix.trans h'.ledger_prefix⟩

/-- Setting a quantity leaves the identities alone. -/
theorem identities_setAvailable (s : Stock) (variantId : UUID) (quantity : Int) :
    (s.setAvailable variantId quantity).identities = s.identities := by
  simp only [identities, setAvailable, updateVariant, Table.rows_modify, List.map_map]
  refine List.map_congr_left fun v _ => ?_
  by_cases hv : v.id = variantId <;> simp [hv]

theorem evolves_of_sameStock {s s' : Stock} (h : SameStock s s') : Evolves s s' := by
  obtain ⟨f, hkeep, hrows, hm⟩ := h
  refine ⟨?_, by rw [hm]⟩
  simp only [identities, hrows, List.map_map]
  refine List.map_congr_left fun v _ => ?_
  simp [hkeep]

theorem evolves_recordMovement (s : Stock) (m : InventoryMovement) :
    Evolves s (s.recordMovement m) := by
  cases h : s.movements.insert? m with
  | none =>
    rw [recordMovement_of_refused h]
    exact Evolves.refl s
  | some t =>
    rw [recordMovement_of_accepted h]
    refine ⟨identities_setAvailable s _ _, ?_⟩
    rw [Table.rows_of_insert? h]
    exact List.prefix_append _ _

theorem evolves_recordPlanned (s : Stock) (planned : Option InventoryMovement) :
    Evolves s (s.recordPlanned planned) := by
  cases planned with
  | none => exact Evolves.refl s
  | some m => exact evolves_recordMovement s m

theorem evolves_applyItems (kind : AutoMovement) (orderId : UUID) (s : Stock)
    (items : List OrderItem) : Evolves s (applyItems kind orderId s items) :=
  run_rel (itemStep kind orderId) Evolves.refl Evolves.trans
    (fun s _ => evolves_recordPlanned s _) s items

/-- Which variant a line resolves to depends on the identities only. -/
theorem Evolves.resolveVariant_id {s s' : Stock} (h : Evolves s s') (p : Option UUID)
    (sku : String) :
    (s'.resolveVariant p sku).map (·.id) = (s.resolveVariant p sku).map (·.id) := by
  -- a lookup by id or SKU sees the identities only
  have hfind : ∀ q : UUID × String → Bool,
      (s'.variants.find? fun v => q (v.id, v.sku)).map (·.id) =
        (s.variants.find? fun v => q (v.id, v.sku)).map (·.id) := by
    intro q
    have hmap : ∀ s : Stock, (s.variants.find? fun v => q (v.id, v.sku)).map (·.id) =
        (s.identities.find? q).map Prod.fst := by
      intro s
      simp only [identities, List.find?_map, Option.map_map]
      rfl
    rw [hmap, hmap, h.identities_eq]
  have hid := fun id => hfind fun k => k.1 == id
  have hsku := hfind fun k => k.2 == sku
  -- the linked variant when it exists, else the one with the SKU
  cases p with
  | none => exact hsku
  | some id =>
    have hid := hid id
    simp only [resolveVariant, Option.bind_some, getById]
    cases hs : s.variants.find? fun v => v.id == id with
    | none =>
      rw [hs, Option.map_none, Option.map_eq_none_iff] at hid
      rw [hid]
      exact hsku
    | some v =>
      rw [hs, Option.map_some, Option.map_eq_some_iff] at hid
      obtain ⟨v', hv', heq⟩ := hid
      rw [hv']
      simpa using heq

theorem Evolves.existsForOrder {s s' : Stock} (h : Evolves s s') {o v : UUID}
    {t : InventoryMovementType} (hex : s.existsForOrder o v t = true) :
    s'.existsForOrder o v t = true := by
  obtain ⟨m, hm, hkey⟩ := existsForOrder_iff.mp hex
  exact existsForOrder_iff.mpr ⟨m, h.ledger_prefix.subset hm, hkey⟩

/-! ## Section 3: Idempotency of the automatic movements -/

/-- A line that a movement has nothing left to do for stays so. -/
theorem Evolves.planItem_eq_none {s s' : Stock} (h : Evolves s s') {kind kind' : AutoMovement}
    (hkind : kind'.movementType = kind.movementType) {orderId : UUID} {item : OrderItem}
    (hnone : planItem kind orderId s item = none) : planItem kind' orderId s' item = none := by
  rw [planItem_eq_none_iff] at hnone ⊢
  intro hq v' hres'
  have hmap := h.resolveVariant_id item.productVariantId item.sku
  rw [hres', Option.map_some, eq_comm, Option.map_eq_some_iff] at hmap
  obtain ⟨v, hres, hid⟩ := hmap
  rw [← hid, hkind]
  exact h.existsForOrder (hnone hq v hres)

/-- The row a line plans is never refused. -/
theorem accepted_of_planItem {kind : AutoMovement} {orderId : UUID} {s : Stock}
    {item : OrderItem} {m : InventoryMovement} (h : planItem kind orderId s item = some m) :
    ∃ t, s.movements.insert? m = some t := by
  obtain ⟨_, v, _, hex, rfl⟩ := planItem_eq_some_iff.mp h
  -- a refusal means that the key is taken, which the plan has looked up
  refine Option.ne_none_iff_exists'.mp fun hnone => ?_
  obtain ⟨k, hk, m', hm', hk'⟩ :=
    (Table.insert?_eq_none_iff (InventoryMovement.keys_nodup _)).mp hnone
  simp only [InventoryMovement.keys, List.mem_singleton] at hk
  subst hk
  rw [existsForOrder_iff.mpr ⟨m', hm', hk'⟩] at hex
  cases hex

/-- After its turn in the loop a line has nothing left to do. -/
theorem planItem_itemStep {kind : AutoMovement} {orderId : UUID} {s : Stock}
    {item : OrderItem} :
    planItem kind orderId (itemStep kind orderId s item) item = none := by
  unfold itemStep
  cases h : planItem kind orderId s item with
  | none => exact h
  | some m =>
    obtain ⟨t, ht⟩ := accepted_of_planItem h
    obtain ⟨_, v, hres, _, hm⟩ := planItem_eq_some_iff.mp h
    rw [planItem_eq_none_iff]
    intro _ v' hres'
    -- the line still resolves to the variant its row was recorded for
    have hid : v'.id = v.id := by
      have hmap := (evolves_recordMovement s m).resolveVariant_id item.productVariantId item.sku
      rw [hres, show (s.recordMovement m).resolveVariant _ _ = some v' from hres'] at hmap
      simpa using hmap
    have hkey : (v'.id, orderId, kind.movementType) ∈ m.keys := by
      rw [hid, hm]
      exact InventoryMovement.mem_keys.mpr ⟨rfl, rfl, rfl⟩
    refine existsForOrder_iff.mpr ⟨m, ?_, hkey⟩
    simp only [recordPlanned, recordMovement_of_accepted ht, Table.rows_of_insert? ht]
    exact List.mem_append_right _ (List.mem_singleton_self _)

/-- After the loop none of its lines has anything left to do. -/
theorem planItem_applyItems {kind : AutoMovement} {orderId : UUID} {item : OrderItem} :
    ∀ {items : List OrderItem} {s : Stock}, item ∈ items →
      planItem kind orderId (applyItems kind orderId s items) item = none
  | first :: rest, s, hmem => by
    have hrest : applyItems kind orderId s (first :: rest) =
        applyItems kind orderId (itemStep kind orderId s first) rest := rfl
    rw [hrest]
    -- the lines after this one only let the stock evolve
    rcases List.mem_cons.mp hmem with rfl | hmem
    · exact (evolves_applyItems kind orderId _ rest).planItem_eq_none rfl planItem_itemStep
    · exact planItem_applyItems hmem

/-- A loop over lines with nothing left to do changes nothing. -/
theorem applyItems_of_planItem_eq_none {kind : AutoMovement} {orderId : UUID} {s : Stock}
    {items : List OrderItem} (h : ∀ item ∈ items, planItem kind orderId s item = none) :
    applyItems kind orderId s items = s := by
  induction items with
  | nil => rfl
  | cons item items ih =>
    have hfirst := h item List.mem_cons_self
    have hstep : itemStep kind orderId s item = s := by rw [itemStep, hfirst]; rfl
    have hcons : applyItems kind orderId s (item :: items) =
        applyItems kind orderId (itemStep kind orderId s item) items := rfl
    rw [hcons, hstep]
    exact ih fun item' hmem => h item' (List.mem_cons_of_mem item hmem)

/-- Firing an automatic movement again, at any later time and over no other lines than the
first time, changes nothing. -/
theorem applyItems_again (kind kind' : AutoMovement)
    (hkind : kind'.movementType = kind.movementType) {orderId : UUID} {s s' : Stock}
    {items items' : List OrderItem}
    (hlater : Evolves (applyItems kind orderId s items) s') (hitems : items' ⊆ items) :
    applyItems kind' orderId s' items' = s' :=
  applyItems_of_planItem_eq_none fun _ hmem =>
    hlater.planItem_eq_none hkind (planItem_applyItems (hitems hmem))

/-- Moving stock leaves the order lines alone. -/
theorem orderItems_applyItems (kind : AutoMovement) (orderId : UUID) (s : Stock)
    (items : List OrderItem) : (applyItems kind orderId s items).orderItems = s.orderItems := by
  refine run_rel (itemStep kind orderId) (R := fun s s' => s'.orderItems = s.orderItems)
    (fun _ => rfl) (fun h h' => h'.trans h) ?_ s items
  intro s item
  unfold itemStep
  cases planItem kind orderId s item with
  | none => rfl
  | some m =>
    simp only [recordPlanned, recordMovement]
    split <;> rfl

/-- The order's stock is deducted: every variant that one of its lines with a positive
quantity resolves to has the order's dispatch row. -/
def Deducted (s : Stock) (orderId : UUID) : Prop :=
  ∀ item ∈ s.listForOrder orderId, 0 < item.quantity →
    ∀ v, s.resolveVariant item.productVariantId item.sku = some v →
      s.existsForOrder orderId v.id .dispatch = true

instance (s : Stock) (orderId : UUID) : Decidable (s.Deducted orderId) :=
  decidable_of_iff (∀ item ∈ s.listForOrder orderId, 0 < item.quantity →
    ∀ v ∈ (s.resolveVariant item.productVariantId item.sku).toList,
      s.existsForOrder orderId v.id .dispatch = true) (by simp [Deducted])

theorem planItem_dispatch_eq_none_iff (shipmentId : UUID) {orderId : UUID} {s : Stock}
    {item : OrderItem} :
    planItem (dispatchMovement shipmentId) orderId s item = none ↔
      (0 < item.quantity → ∀ v, s.resolveVariant item.productVariantId item.sku = some v →
        s.existsForOrder orderId v.id .dispatch = true) :=
  planItem_eq_none_iff

/-- An order is deducted when a dispatch has nothing left to do for any of its lines. -/
theorem deducted_iff_planItem (shipmentId : UUID) {s : Stock} {orderId : UUID} :
    s.Deducted orderId ↔ ∀ item ∈ s.listForOrder orderId,
      planItem (dispatchMovement shipmentId) orderId s item = none :=
  forall₂_congr fun _ _ => (planItem_dispatch_eq_none_iff shipmentId).symm

/-- A dispatch deducts its order. -/
theorem deducted_applyDispatch (s : Stock) (orderId shipmentId : UUID) :
    (s.applyDispatch orderId shipmentId).Deducted orderId := by
  rw [deducted_iff_planItem shipmentId]
  intro item hitem
  have hlines : (s.applyDispatch orderId shipmentId).listForOrder orderId =
      s.listForOrder orderId := by
    unfold listForOrder applyDispatch
    rw [orderItems_applyItems]
  exact planItem_applyItems (hlines ▸ hitem)

/-- While its lines stay as they are, a deducted order stays deducted. -/
theorem Deducted.later {s s' : Stock} {orderId : UUID} (h : s.Deducted orderId)
    (hlater : Evolves s s') (hitems : s'.orderItems = s.orderItems) : s'.Deducted orderId := by
  rw [deducted_iff_planItem 0] at h ⊢
  unfold listForOrder at h ⊢
  rw [hitems]
  exact fun item hitem => hlater.planItem_eq_none rfl (h item hitem)

/-! ## Section 4: Runs of operations -/

/-- The calls of the inventory service, and the other services' rewriting of line items
(an order resync, a line moved to another variant). -/
inductive StockOp where
  | applyDispatch (orderId shipmentId : UUID)
  | applyRtoRestock (orderId rtoId : UUID)
  | addStock (variantId : UUID) (quantityToAdd : Int) (reason : String) (actor : Option UUID)
  | updatePackSize (variantId : UUID) (packSize : Int)
  | updatePacketsPerBox (variantId : UUID) (packetsPerBox : Int)
  | rewriteItems (items : ItemTable)

/-- The committed state after a call; one that raises commits nothing. -/
def step (s : Stock) : StockOp → Stock
  | .applyDispatch orderId shipmentId => s.applyDispatch orderId shipmentId
  | .applyRtoRestock orderId rtoId => s.applyRtoRestock orderId rtoId
  | .addStock variantId quantityToAdd reason actor =>
    match s.addStock variantId quantityToAdd reason actor with
    | .ok (_, s') => s'
    | .error _ => s
  | .updatePackSize variantId packSize =>
    match s.updatePackSize variantId packSize with
    | .ok s' => s'
    | .error _ => s
  | .updatePacketsPerBox variantId packetsPerBox =>
    match s.updatePacketsPerBox variantId packetsPerBox with
    | .ok s' => s'
    | .error _ => s
  | .rewriteItems items => { s with orderItems := items }

theorem sameStock_updateSetting {s s' : Stock} {variantId : UUID} {value : Int}
    {message : String} {current : ProductVariant → Int}
    {set : 0 < value → Table.KeyPreserving ProductVariant.keys}
    (hkeep : ∀ h v, (set h v).id = v.id ∧ (set h v).sku = v.sku ∧
      (set h v).availableQuantity = v.availableQuantity)
    (h : s.updateSetting variantId value message current set = .ok s') :
    SameStock s s' := by
  obtain rfl | ⟨hpos, rfl⟩ := updateSetting_eq_ok h
  · exact SameStock.of_tables_eq rfl rfl
  · exact sameStock_updateVariant (hkeep hpos)

/-- What one operation can do to the stock: run one of the two loops, record one row
computed from the present quantity, or leave quantities, identities and ledger alone. -/
theorem step_cases (s : Stock) (op : StockOp) :
    (∃ kind orderId, s.step op = applyItems kind orderId s (s.listForOrder orderId)) ∨
    (∃ m, s.ComputedFrom m ∧ s.step op = s.recordMovement m) ∨ SameStock s (s.step op) := by
  have hnothing : SameStock s s := SameStock.of_tables_eq rfl rfl
  -- the two automatic movements loop, an addition writes one row, the rest moves no stock
  cases op with
  | applyDispatch orderId shipmentId => exact .inl ⟨dispatchMovement shipmentId, orderId, rfl⟩
  | applyRtoRestock orderId rtoId => exact .inl ⟨rtoRestockMovement rtoId, orderId, rfl⟩
  | addStock variantId quantityToAdd reason actor =>
    simp only [step, addStock]
    cases h : s.planAddStock variantId quantityToAdd reason actor with
    | error e => exact .inr (.inr hnothing)
    | ok m => exact .inr (.inl ⟨m, computedFrom_of_planAddStock h, rfl⟩)
  | updatePackSize variantId packSize =>
    simp only [step]
    cases h : s.updatePackSize variantId packSize with
    | error e => exact .inr (.inr hnothing)
    | ok s' => exact .inr (.inr (sameStock_updateSetting (fun _ _ => ⟨rfl, rfl, rfl⟩) h))
  | updatePacketsPerBox variantId packetsPerBox =>
    simp only [step]
    cases h : s.updatePacketsPerBox variantId packetsPerBox with
    | error e => exact .inr (.inr hnothing)
    | ok s' => exact .inr (.inr (sameStock_updateSetting (fun _ _ => ⟨rfl, rfl, rfl⟩) h))
  | rewriteItems items => exact .inr (.inr (SameStock.of_tables_eq rfl rfl))

theorem reconciled_step {opening : UUID → Int} (s : Stock) (op : StockOp)
    (hs : s.Reconciled opening) : (s.step op).Reconciled opening := by
  obtain ⟨kind, orderId, h⟩ | ⟨m, hm, h⟩ | h := step_cases s op
  · rw [h]
    exact reconciled_applyItems hs _
  · rw [h]
    exact reconciled_recordMovement hs hm
  · exact reconciled_of_sameStock h hs

theorem evolves_step (s : Stock) (op : StockOp) : Evolves s (s.step op) := by
  obtain ⟨kind, orderId, h⟩ | ⟨m, _, h⟩ | h := step_cases s op
  · rw [h]
    exact evolves_applyItems kind orderId s _
  · rw [h]
    exact evolves_recordMovement s m
  · exact evolves_of_sameStock h

theorem evolves_run (s : Stock) (ops : List StockOp) : Evolves s (run step s ops) :=
  run_rel step Evolves.refl Evolves.trans evolves_step s ops

theorem reconciled_run {opening : UUID → Int} {s : Stock} (hs : s.Reconciled opening)
    (ops : List StockOp) : (run step s ops).Reconciled opening :=
  run_invariant step reconciled_step hs ops

/-- Whatever the order of calls: each variant's quantity is its opening quantity plus its
movements, each movement records the running quantity, an order moves a variant at most
once per movement type, and firing a dispatch or a restock again, after any further calls
that left the order no line it did not have at the first firing, changes nothing. -/
theorem run_reconciled_and_idempotent {opening : UUID → Int} {s₀ : Stock}
    (h₀ : s₀.Reconciled opening) (ops : List StockOp) :
    let s := run step s₀ ops
    (∀ v ∈ s.variants.rows,
      v.availableQuantity =
        opening v.id + ((s.movementsOf v.id).map InventoryMovement.quantityDelta).sum) ∧
    (∀ v ∈ s.variants.rows,
      RunningBalance InventoryMovement.quantityDelta InventoryMovement.quantityAfter
        (opening v.id) (s.movementsOf v.id)) ∧
    (∀ orderId variantId type,
      (s.movements.rows.filter (matchesOrder orderId variantId type)).length ≤ 1) ∧
    (∀ orderId shipmentId shipmentId' later,
      let s' := run step (s.applyDispatch orderId shipmentId) later
      s'.listForOrder orderId ⊆ s.listForOrder orderId →
        s'.applyDispatch orderId shipmentId' = s') ∧
    (∀ orderId rtoId rtoId' later,
      let s' := run step (s.applyRtoRestock orderId rtoId) later
      s'.listForOrder orderId ⊆ s.listForOrder orderId →
        s'.applyRtoRestock orderId rtoId' = s') := by
  intro s
  have hs : s.Reconciled opening := reconciled_run h₀ ops
  refine ⟨fun v hv => (hs v hv).stored_eq, fun v hv => (hs v hv).running,
    length_filter_matchesOrder_le_one s, ?_, ?_⟩
  · -- the replay may name another shipment: the key is the order's
    intro orderId shipmentId shipmentId' later s' hitems
    have hlater : Evolves (s.applyDispatch orderId shipmentId) s' := evolves_run _ later
    exact applyItems_again (dispatchMovement shipmentId) (dispatchMovement shipmentId') rfl hlater
      hitems
  · intro orderId rtoId rtoId' later s' hitems
    have hlater : Evolves (s.applyRtoRestock orderId rtoId) s' := evolves_run _ later
    exact applyItems_again (rtoRestockMovement rtoId) (rtoRestockMovement rtoId') rfl hlater hitems

/-- A variant with ten boxes and two orders of one unit each. -/
def twoOrders : Stock where
  variants := Table.ofList [{ id := 1, sku := "TEA-60", availableQuantity := 10 }] (by decide)
  orderItems := Table.ofList [
    { orderId := 7, productVariantId := some 1, sku := "TEA-60", quantity := 1 },
    { orderId := 8, productVariantId := none, sku := "TEA-60", quantity := 1 }] (by decide)

theorem twoOrders_reconciled : twoOrders.Reconciled fun _ => 10 :=
  reconciled_of_no_movements rfl (by decide)

/-- A dispatch, its replay, another order's dispatch, an addition and a restock. -/
theorem run_reconciled_and_idempotent_twoOrders :
    let s := run step twoOrders
      [.applyDispatch 7 70, .applyDispatch 7 71, .applyDispatch 8 80,
        .addStock 1 5 "recount" none, .applyRtoRestock 7 700]
    s.variants.rows.map (·.availableQuantity) = [14] ∧
    ∀ v ∈ s.variants.rows,
      v.availableQuantity =
        10 + ((s.movementsOf v.id).map InventoryMovement.quantityDelta).sum :=
  ⟨by decide, (run_reconciled_and_idempotent twoOrders_reconciled _).1⟩

end Stock

end AyushOms.Inventory
