import AyushOms.Inventory.Restock
import Mathlib.Algebra.Order.BigOperators.Group.List

/-!
# What a Dispatch Takes

`apply_dispatch` goes over an order's lines and keeps one ledger row for the order and a
variant; a later line of the same variant finds that row and is skipped. So a dispatch takes
the boxes of the first line of each variant, and `check_stock_available`, which looks at
every line by itself, covers it.

## Main results

- `Stock.mem_variants_applyDispatch`: the quantities a dispatch leaves
- `Stock.applyDispatch_takes_sum_iff`: when that is what the order's lines add up to
- `Stock.checkStockAvailable_sound`: an order without a shortage is dispatched from stock
-/

namespace AyushOms.Inventory.Stock

open AyushOms.Lib AyushOms.Orders

/-! ## Section 1: The lines of a variant -/

/-- The smallest number of boxes that holds what the line asks for. -/
theorem boxesFor_spec (item : OrderItem) (v : ProductVariant) :
    item.quantity * v.packSize ≤ boxesFor item v * v.packetsPerBox ∧
      (boxesFor item v - 1) * v.packetsPerBox < item.quantity * v.packSize := by
  have hpos : 0 < v.packetsPerBox := v.packetsPerBox_pos
  have hdiv := Int.mul_ediv_add_emod (-(item.quantity * v.packSize)) v.packetsPerBox
  have hlow := Int.emod_nonneg (-(item.quantity * v.packSize)) hpos.ne'
  have hhigh := Int.emod_lt_of_pos (-(item.quantity * v.packSize)) hpos
  rw [boxesFor, ceilDiv, Int.fdiv_eq_ediv_of_nonneg _ hpos.le, Int.sub_mul, Int.neg_mul,
    Int.one_mul, Int.mul_comm _ v.packetsPerBox]
  omega

/-- A line with a positive quantity that resolves to the variant. -/
def countsFor (s : Stock) (variantId : UUID) (item : OrderItem) : Bool :=
  decide (0 < item.quantity) &&
    (s.resolveVariant item.productVariantId item.sku).any fun v => v.id == variantId

/-- The lines among the given ones that count for the variant, in their order. -/
def linesFor (s : Stock) (items : List OrderItem) (variantId : UUID) : List OrderItem :=
  items.filter (s.countsFor variantId)

/-- What a dispatch over the lines takes of the variant. -/
def taken (s : Stock) (orderId : UUID) (items : List OrderItem) (v : ProductVariant) : Int :=
  if s.existsForOrder orderId v.id .dispatch then 0
  else ((s.linesFor items v.id).head?.map fun item => boxesFor item v).getD 0

theorem countsFor_iff {s : Stock} {variantId : UUID} {item : OrderItem} :
    s.countsFor variantId item = true ↔ 0 < item.quantity ∧
      ∃ v, s.resolveVariant item.productVariantId item.sku = some v ∧ v.id = variantId := by
  simp [countsFor, Option.any_eq_true]

/-- A line counts for one variant at most. -/
theorem countsFor_unique {s : Stock} {id id' : UUID} {item : OrderItem}
    (h : s.countsFor id item = true) (h' : s.countsFor id' item = true) : id = id' := by
  obtain ⟨-, v, hres, rfl⟩ := countsFor_iff.mp h
  obtain ⟨-, v', hres', rfl⟩ := countsFor_iff.mp h'
  rw [Option.some.inj (hres.symm.trans hres')]

/-- Which lines count depends on the identities only. -/
theorem Evolves.countsFor {s s' : Stock} (h : Evolves s s') (variantId : UUID)
    (item : OrderItem) : s'.countsFor variantId item = s.countsFor variantId item := by
  have hid := h.resolveVariant_id item.productVariantId item.sku
  have hany : ∀ s : Stock,
      ((s.resolveVariant item.productVariantId item.sku).any fun v => v.id == variantId) =
        ((s.resolveVariant item.productVariantId item.sku).map (·.id)).any (· == variantId) := by
    intro s
    cases s.resolveVariant item.productVariantId item.sku <;> rfl
  rw [Stock.countsFor, Stock.countsFor, hany, hany, hid]

/-! ## Section 2: The loop -/

/-- A line plans a row for the variant it counts for, unless there is one. -/
theorem planItem_dispatch_of_countsFor {s : Stock} {orderId : UUID} (shipmentId : UUID)
    {item : OrderItem} {v : ProductVariant} (hv : v ∈ s.variants.rows)
    (hcounts : s.countsFor v.id item = true)
    (hfresh : s.existsForOrder orderId v.id .dispatch = false) :
    ∃ m, planItem (dispatchMovement shipmentId) orderId s item = some m ∧
      m.productVariantId = v.id ∧ m.quantityDelta = -boxesFor item v ∧
        m.quantityAfter = v.availableQuantity - boxesFor item v := by
  obtain ⟨hq, w, hres, hid⟩ := countsFor_iff.mp hcounts
  obtain rfl : w = v := eq_of_id_eq hv (resolveVariant_mem hres) hid
  exact ⟨_, planItem_eq_some_iff.mpr ⟨hq, w, hres, hfresh, rfl⟩, rfl, rfl, rfl⟩

/-- A planned row is for a variant the line counts for. -/
theorem countsFor_of_planItem {kind : AutoMovement} {s : Stock} {orderId : UUID}
    {item : OrderItem} {m : InventoryMovement} (h : planItem kind orderId s item = some m) :
    s.countsFor m.productVariantId item = true ∧
      s.existsForOrder orderId m.productVariantId kind.movementType = false := by
  obtain ⟨hq, v, hres, hfresh, rfl⟩ := planItem_eq_some_iff.mp h
  exact ⟨countsFor_iff.mpr ⟨hq, v, hres, rfl⟩, hfresh⟩

/-- After a line's turn there is a row for the variants that had one and for its own. -/
theorem existsForOrder_itemStep (shipmentId : UUID) (s : Stock) (orderId : UUID)
    (item : OrderItem) {v : ProductVariant} (hv : v ∈ s.variants.rows) :
    (itemStep (dispatchMovement shipmentId) orderId s item).existsForOrder orderId v.id .dispatch =
      (s.existsForOrder orderId v.id .dispatch || s.countsFor v.id item) := by
  rw [Bool.eq_iff_iff, Bool.or_eq_true, existsForOrder_iff, rows_itemStep]
  constructor
  · rintro ⟨m, hm, hkey⟩
    rcases List.mem_append.mp hm with hm | hm
    · exact .inl (existsForOrder_iff.mpr ⟨m, hm, hkey⟩)
    · have hid : m.productVariantId = v.id := (InventoryMovement.mem_keys.mp hkey).2.1
      exact .inr (hid ▸ (countsFor_of_planItem (Option.mem_toList.mp hm)).1)
  · intro h
    cases hfresh : s.existsForOrder orderId v.id .dispatch with
    | true =>
      obtain ⟨m, hm, hkey⟩ := existsForOrder_iff.mp hfresh
      exact ⟨m, List.mem_append_left _ hm, hkey⟩
    | false =>
      have hcounts : s.countsFor v.id item = true := h.resolve_left (by simp [hfresh])
      obtain ⟨m, hplan, hid, -, -⟩ :=
        planItem_dispatch_of_countsFor shipmentId hv hcounts hfresh
      obtain ⟨horder, htype⟩ := planItem_orderId hplan
      exact ⟨m, List.mem_append_right _ (Option.mem_toList.mpr hplan),
        InventoryMovement.mem_keys.mpr ⟨horder, hid, htype⟩⟩

theorem taken_of_exists {s : Stock} {orderId : UUID} {items : List OrderItem}
    {v : ProductVariant} (h : s.existsForOrder orderId v.id .dispatch = true) :
    s.taken orderId items v = 0 := if_pos h

@[simp] theorem taken_nil (s : Stock) (orderId : UUID) (v : ProductVariant) :
    s.taken orderId [] v = 0 := by
  simp [taken, linesFor]

theorem taken_cons_of_counts {s : Stock} {orderId : UUID} {item : OrderItem}
    {rest : List OrderItem} {v : ProductVariant}
    (hfresh : s.existsForOrder orderId v.id .dispatch = false)
    (hcounts : s.countsFor v.id item = true) :
    s.taken orderId (item :: rest) v = boxesFor item v := by
  simp [taken, linesFor, hfresh, hcounts]

theorem taken_cons_of_not_counts {s : Stock} {orderId : UUID} {item : OrderItem}
    {rest : List OrderItem} {v : ProductVariant} (hcounts : s.countsFor v.id item = false) :
    s.taken orderId (item :: rest) v = s.taken orderId rest v := by
  simp [taken, linesFor, hcounts]

/-- What the lines take is what the first takes and what the others take after it. -/
theorem taken_cons {s s₁ : Stock} (hev : Evolves s s₁) {orderId : UUID} {item : OrderItem}
    {rest : List OrderItem} {v : ProductVariant}
    (hrow : s₁.existsForOrder orderId v.id .dispatch =
      (s.existsForOrder orderId v.id .dispatch || s.countsFor v.id item)) :
    s.taken orderId [item] v + s₁.taken orderId rest v = s.taken orderId (item :: rest) v := by
  cases hfresh : s.existsForOrder orderId v.id .dispatch with
  | true =>
    rw [taken_of_exists hfresh, taken_of_exists hfresh, taken_of_exists (by rw [hrow, hfresh]; rfl),
      Int.zero_add]
  | false =>
    cases hcounts : s.countsFor v.id item with
    | true =>
      have hdone : s₁.existsForOrder orderId v.id .dispatch = true := by
        rw [hrow, hcounts, Bool.or_true]
      rw [taken_cons_of_counts hfresh hcounts, taken_cons_of_counts hfresh hcounts,
        taken_of_exists hdone, Int.add_zero]
    | false =>
      have hopen : s₁.existsForOrder orderId v.id .dispatch = false := by
        rw [hrow, hfresh, hcounts, Bool.or_false]
      have hlines : s₁.linesFor rest v.id = s.linesFor rest v.id :=
        List.filter_congr fun line _ => hev.countsFor v.id line
      rw [taken_cons_of_not_counts hcounts, taken_cons_of_not_counts hcounts, taken_nil,
        Int.zero_add, taken, taken, hfresh, hopen, hlines]

/-- One turn takes the line's boxes from its variant when there is no row yet. -/
theorem mem_variants_itemStep (shipmentId : UUID) (s : Stock) (orderId : UUID) (item : OrderItem)
    {v' : ProductVariant} :
    v' ∈ (itemStep (dispatchMovement shipmentId) orderId s item).variants.rows ↔
      ∃ v ∈ s.variants.rows, v' = { v with
        availableQuantity := v.availableQuantity - s.taken orderId [item] v } := by
  rw [itemStep]
  cases hplan : planItem (dispatchMovement shipmentId) orderId s item with
  | none =>
    -- the line counts for no variant without a row
    have hnone : ∀ v ∈ s.variants.rows, s.taken orderId [item] v = 0 := by
      intro v hv
      cases hfresh : s.existsForOrder orderId v.id .dispatch with
      | true => exact taken_of_exists hfresh
      | false =>
        cases hcounts : s.countsFor v.id item with
        | false => rw [taken_cons_of_not_counts hcounts, taken_nil]
        | true =>
          obtain ⟨m, hm, -⟩ := planItem_dispatch_of_countsFor shipmentId hv hcounts hfresh
          cases hplan.symm.trans hm
    constructor
    · intro hv
      exact ⟨v', hv, by rw [hnone v' hv, Int.sub_zero]⟩
    · rintro ⟨v, hv, rfl⟩
      rw [hnone v hv, Int.sub_zero]
      exact hv
  | some m =>
    obtain ⟨t, ht⟩ := accepted_of_planItem hplan
    obtain ⟨hcounts, hfresh⟩ := countsFor_of_planItem hplan
    rw [recordPlanned, mem_variants_of_accepted ht]
    refine exists_congr fun v => and_congr_right fun hv => ?_
    by_cases hid : v.id = m.productVariantId
    · -- the row's own variant
      rw [← hid] at hcounts hfresh
      obtain ⟨m', hm', -, -, hafter⟩ :=
        planItem_dispatch_of_countsFor shipmentId hv hcounts hfresh
      obtain rfl : m = m' := Option.some.inj (hplan.symm.trans hm')
      simp only [hid, true_and, ne_eq, not_true_eq_false, false_and, or_false, hafter,
        taken_cons_of_counts hfresh hcounts]
    · have hother : s.countsFor v.id item = false :=
        Bool.eq_false_iff.mpr fun h => hid (countsFor_unique h hcounts)
      simp only [hid, false_and, ne_eq, not_false_eq_true, true_and, false_or,
        taken_cons_of_not_counts hother, taken_nil, Int.sub_zero]

/-- The loop takes what the lines say: each variant once, the first of its lines. -/
theorem mem_variants_applyItems (shipmentId : UUID) (orderId : UUID) {v' : ProductVariant}
    (items : List OrderItem) (s : Stock) :
    v' ∈ (applyItems (dispatchMovement shipmentId) orderId s items).variants.rows ↔
      ∃ v ∈ s.variants.rows, v' = { v with
        availableQuantity := v.availableQuantity - s.taken orderId items v } := by
  induction items generalizing s with
  | nil => simp [applyItems]
  | cons item rest ih =>
    let s₁ := itemStep (dispatchMovement shipmentId) orderId s item
    have hev : Evolves s s₁ := evolves_recordPlanned s _
    -- what the rest takes after this turn completes what the line took
    have hsplit : ∀ v ∈ s.variants.rows,
        s.taken orderId [item] v + s₁.taken orderId rest v = s.taken orderId (item :: rest) v :=
      fun v hv => taken_cons hev (existsForOrder_itemStep shipmentId s orderId item hv)
    have hcons : applyItems (dispatchMovement shipmentId) orderId s (item :: rest) =
        applyItems (dispatchMovement shipmentId) orderId s₁ rest := rfl
    rw [hcons, ih s₁]
    constructor
    · rintro ⟨v₁, hv₁, rfl⟩
      obtain ⟨v, hv, rfl⟩ := (mem_variants_itemStep shipmentId s orderId item).mp hv₁
      refine ⟨v, hv, ?_⟩
      rw [← hsplit v hv, ← Int.sub_sub]
      rfl
    · rintro ⟨v, hv, rfl⟩
      refine ⟨_, (mem_variants_itemStep shipmentId s orderId item).mpr ⟨v, hv, rfl⟩, ?_⟩
      rw [← hsplit v hv, ← Int.sub_sub]
      rfl

/-! ## Section 3: What an order's dispatch takes -/

/-- The quantities after a dispatch. -/
theorem mem_variants_applyDispatch {s : Stock} {orderId shipmentId : UUID} {v' : ProductVariant} :
    v' ∈ (s.applyDispatch orderId shipmentId).variants.rows ↔
      ∃ v ∈ s.variants.rows, v' = { v with
        availableQuantity := v.availableQuantity - s.taken orderId (s.listForOrder orderId) v } :=
  mem_variants_applyItems shipmentId orderId (s.listForOrder orderId) s

/-- The boxes that the order's lines ask of a variant. -/
def asked (s : Stock) (orderId : UUID) (v : ProductVariant) : Int :=
  ((s.linesFor (s.listForOrder orderId) v.id).map fun item => boxesFor item v).sum

/-- The first of some positive numbers is their sum when there is no other. -/
theorem head_eq_sum_iff {boxes : List Int} (hpos : ∀ b ∈ boxes, 0 < b) :
    boxes.head?.getD 0 = boxes.sum ↔ boxes.length ≤ 1 := by
  match boxes with
  | [] => simp
  | [b] => simp
  | b :: c :: rest =>
    have hc : 0 < c := hpos c (by simp)
    have hrest : 0 ≤ rest.sum := List.sum_nonneg fun b hb => (hpos b (by simp [hb])).le
    simp only [List.head?_cons, Option.getD_some, List.sum_cons, List.length_cons]
    omega

theorem mem_linesFor {s : Stock} {items : List OrderItem} {variantId : UUID} {item : OrderItem} :
    item ∈ s.linesFor items variantId ↔ item ∈ items ∧ s.countsFor variantId item = true :=
  List.mem_filter

/-- A dispatch of an order without a dispatch row for the variant takes the sum of its lines'
boxes exactly when at most one of them counts for the variant. -/
theorem applyDispatch_takes_sum_iff {s : Stock} {orderId : UUID} (shipmentId : UUID)
    {v : ProductVariant} (hv : v ∈ s.variants.rows)
    (hfresh : s.existsForOrder orderId v.id .dispatch = false) :
    (∀ v' ∈ (s.applyDispatch orderId shipmentId).variants.rows, v'.id = v.id →
      v.availableQuantity - v'.availableQuantity = s.asked orderId v) ↔
        (s.linesFor (s.listForOrder orderId) v.id).length ≤ 1 := by
  let lines := s.linesFor (s.listForOrder orderId) v.id
  have hpos : ∀ b ∈ lines.map fun item => boxesFor item v, 0 < b := by
    intro b hb
    obtain ⟨item, hitem, rfl⟩ := List.mem_map.mp hb
    exact boxesFor_pos (countsFor_iff.mp (mem_linesFor.mp hitem).2).1
  have htaken : s.taken orderId (s.listForOrder orderId) v =
      (lines.map fun item => boxesFor item v).head?.getD 0 := by
    rw [taken, hfresh, if_neg Bool.false_ne_true, List.head?_map]
  have hasked : s.taken orderId (s.listForOrder orderId) v = s.asked orderId v ↔
      lines.length ≤ 1 := by
    rw [htaken, asked, head_eq_sum_iff hpos, List.length_map]
  rw [← hasked]
  constructor
  · intro h
    have htook := h _ (mem_variants_applyDispatch.mpr ⟨v, hv, rfl⟩) rfl
    dsimp only at htook
    omega
  · intro h v' hv' hid
    obtain ⟨w, hw, rfl⟩ := mem_variants_applyDispatch.mp hv'
    obtain rfl : w = v := eq_of_id_eq hv hw hid
    dsimp only
    omega

/-- Six boxes of a variant. -/
def sixBoxes : ProductVariant where
  id := 7
  sku := "AW-60"
  availableQuantity := 6
  packSize_pos := Int.one_pos
  packetsPerBox_pos := Int.one_pos

/-- An order of two and of three units on lines of their own. -/
def splitLines (second : String) : Stock where
  variants := Table.ofList [sixBoxes, { sixBoxes with id := 8, sku := "AW-120" }] (by decide)
  orderItems := Table.ofList [
    { orderId := 1, productVariantId := some 7, sku := "AW-60", quantity := 2 },
    { orderId := 1, productVariantId := none, sku := second, quantity := 3 }]
    (by simp [OrderItem.keys, externalKey])

/-- The two lines are of two variants. -/
theorem applyDispatch_takes_sum_twoVariants :
    (splitLines "AW-120").asked 1 sixBoxes = 2 ∧
    ∀ v' ∈ ((splitLines "AW-120").applyDispatch 1 3).variants.rows, v'.id = 7 →
      6 - v'.availableQuantity = (splitLines "AW-120").asked 1 sixBoxes :=
  have hmem : sixBoxes ∈ (splitLines "AW-120").variants.rows := by decide
  ⟨by decide, (applyDispatch_takes_sum_iff 3 hmem (by decide)).mpr (by decide)⟩

/-- The two lines are of one variant: two boxes are taken of the five. -/
theorem second_line_not_taken :
    (splitLines "AW-60").existsForOrder 1 7 .dispatch = false ∧
    (splitLines "AW-60").asked 1 sixBoxes = 5 ∧
    ((splitLines "AW-60").applyDispatch 1 3).variants.rows.map
      (fun v => (v.id, v.availableQuantity)) = [(7, 4), (8, 6)] := by
  decide

/-! ## Section 4: The check before a shipment -/

/-- A line's required boxes, as the check computes them. -/
def Requires (s : Stock) (item : OrderItem) (v : ProductVariant) (boxes : Int) : Prop :=
  0 < item.quantity ∧ s.resolveVariant item.productVariantId item.sku = some v ∧
    boxes = boxesFor item v

/-- No shortage means that every line is covered by itself. -/
theorem checkStockAvailable_eq_nil_iff {s : Stock} {orderId : UUID} :
    s.checkStockAvailable orderId = [] ↔ ∀ item ∈ s.listForOrder orderId, ∀ v boxes,
      s.Requires item v boxes → boxes ≤ v.availableQuantity := by
  rw [checkStockAvailable, List.filterMap_eq_nil_iff]
  refine forall₂_congr fun item _ => ?_
  by_cases hq : item.quantity ≤ 0
  · have hnone : ¬ 0 < item.quantity := by omega
    simp [hq, hnone, Requires]
  · have hpos : 0 < item.quantity := by omega
    cases hres : s.resolveVariant item.productVariantId item.sku with
    | none => simp [hq, hres, Requires]
    | some v => simp [hq, hpos, hres, Requires]

/-- What a dispatch takes of a variant is nothing, or what the check required for a line. -/
theorem taken_cases (s : Stock) (orderId : UUID) {v : ProductVariant}
    (hv : v ∈ s.variants.rows) :
    s.taken orderId (s.listForOrder orderId) v = 0 ∨
      ∃ item ∈ s.listForOrder orderId,
        s.Requires item v (s.taken orderId (s.listForOrder orderId) v) := by
  unfold taken
  split
  · exact .inl rfl
  · cases hlines : (s.linesFor (s.listForOrder orderId) v.id).head? with
    | none => exact .inl rfl
    | some item =>
      obtain ⟨hitem, hcounts⟩ := mem_linesFor.mp (List.mem_of_head? hlines)
      obtain ⟨hq, w, hres, hid⟩ := countsFor_iff.mp hcounts
      obtain rfl : w = v := eq_of_id_eq hv (resolveVariant_mem hres) hid
      exact .inr ⟨item, hitem, hq, hres, rfl⟩

/-- The row explains what was taken of the variant. -/
structure Explains (m : InventoryMovement) (v : ProductVariant) (boxes : Int) : Prop where
  variant : v.id = m.productVariantId
  delta : m.quantityDelta = -boxes
  after : m.quantityAfter = v.availableQuantity - boxes
  pos : 0 < boxes

theorem explains_of_planItem {shipmentId orderId : UUID} {s : Stock} {item : OrderItem}
    {m : InventoryMovement} (h : planItem (dispatchMovement shipmentId) orderId s item = some m)
    (rest : List OrderItem) :
    ∃ v ∈ s.variants.rows, Explains m v (s.taken orderId (item :: rest) v) := by
  obtain ⟨hcounts, hfresh⟩ := countsFor_of_planItem h
  obtain ⟨hq, v, hres, hid⟩ := countsFor_iff.mp hcounts
  have hv : v ∈ s.variants.rows := resolveVariant_mem hres
  rw [← hid] at hcounts hfresh
  obtain ⟨m', hm', -, hdelta, hafter⟩ :=
    planItem_dispatch_of_countsFor shipmentId hv hcounts hfresh
  obtain rfl : m = m' := Option.some.inj (h.symm.trans hm')
  refine ⟨v, hv, hid, ?_, ?_, ?_⟩ <;> rw [taken_cons_of_counts hfresh hcounts]
  · exact hdelta
  · exact hafter
  · exact boxesFor_pos hq

/-- The rows a dispatch adds explain what it took. -/
theorem mem_movements_applyItems (shipmentId orderId : UUID) {m : InventoryMovement}
    (items : List OrderItem) (s : Stock)
    (hm : m ∈ (applyItems (dispatchMovement shipmentId) orderId s items).movements.rows) :
    m ∈ s.movements.rows ∨
      ∃ v ∈ s.variants.rows, Explains m v (s.taken orderId items v) := by
  induction items generalizing s with
  | nil => exact .inl hm
  | cons item rest ih =>
    let s₁ := itemStep (dispatchMovement shipmentId) orderId s item
    have hev : Evolves s s₁ := evolves_recordPlanned s _
    rcases ih s₁ hm with hold | ⟨v₁, hv₁, hexplains⟩
    · rw [rows_itemStep, List.mem_append, Option.mem_toList] at hold
      exact hold.imp_right fun hplan => explains_of_planItem hplan rest
    · -- a later turn takes the variant only if this one did not
      obtain ⟨v, hv, rfl⟩ := (mem_variants_itemStep shipmentId s orderId item).mp hv₁
      have hrow := existsForOrder_itemStep shipmentId s orderId item hv
      have hsplit : s.taken orderId [item] v + s₁.taken orderId rest v =
          s.taken orderId (item :: rest) v := taken_cons hev hrow
      have hpos : 0 < s₁.taken orderId rest v := hexplains.pos
      have hopen : s₁.existsForOrder orderId v.id .dispatch = false :=
        Bool.eq_false_iff.mpr fun h => hpos.ne' (taken_of_exists h)
      have hnone : s.taken orderId [item] v = 0 := by
        rw [hopen, eq_comm, Bool.or_eq_false_iff] at hrow
        rw [taken_cons_of_not_counts hrow.2, taken_nil]
      refine .inr ⟨v, hv, hexplains.variant, ?_, ?_, ?_⟩
      · rw [← hsplit, hnone, Int.zero_add]
        exact hexplains.delta
      · have hafter := hexplains.after
        rw [← hsplit, hnone, Int.zero_add]
        simpa only [hnone, Int.sub_zero] using hafter
      · rw [← hsplit, hnone, Int.zero_add]
        exact hpos

/-- An order without a shortage is dispatched from stock: every variant the dispatch touches
keeps a quantity of at least zero, and every amount it deducts is what the check required for
one of the lines. -/
theorem checkStockAvailable_sound {s : Stock} {orderId : UUID} (shipmentId : UUID)
    (hok : s.checkStockAvailable orderId = []) :
    (∀ v ∈ s.variants.rows, ∀ v' ∈ (s.applyDispatch orderId shipmentId).variants.rows,
      v'.id = v.id → v' = v ∨
        (0 ≤ v'.availableQuantity ∧ ∃ item ∈ s.listForOrder orderId,
          s.Requires item v (v.availableQuantity - v'.availableQuantity))) ∧
    ∀ m ∈ (s.applyDispatch orderId shipmentId).movements.rows, m ∈ s.movements.rows ∨
      (0 ≤ m.quantityAfter ∧ ∃ item ∈ s.listForOrder orderId, ∃ v ∈ s.variants.rows,
        v.id = m.productVariantId ∧ s.Requires item v (-m.quantityDelta)) := by
  rw [checkStockAvailable_eq_nil_iff] at hok
  constructor
  · intro v hv v' hv' hid
    obtain ⟨w, hw, rfl⟩ := mem_variants_applyDispatch.mp hv'
    obtain rfl : w = v := eq_of_id_eq hv hw hid
    rcases s.taken_cases orderId hv with hnone | ⟨item, hitem, hrequires⟩
    · exact .inl (by rw [hnone, Int.sub_zero])
    · have hcovered := hok item hitem w _ hrequires
      refine .inr ⟨Int.sub_nonneg_of_le hcovered, item, hitem, ?_⟩
      rwa [Int.sub_sub_self]
  · intro m hm
    refine (mem_movements_applyItems shipmentId orderId _ s hm).imp_right ?_
    rintro ⟨v, hv, hexplains⟩
    rcases s.taken_cases orderId hv with hnone | ⟨item, hitem, hrequires⟩
    · exact absurd hnone hexplains.pos.ne'
    · have hcovered := hok item hitem v _ hrequires
      rw [hexplains.after, hexplains.delta, Int.neg_neg]
      exact ⟨Int.sub_nonneg_of_le hcovered, item, hitem, v, hv, hexplains.variant, hrequires⟩

/-- The check passes two lines of one variant, and the dispatch leaves four of six boxes. -/
theorem checkStockAvailable_sound_splitLines :
    (splitLines "AW-60").checkStockAvailable 1 = [] ∧
    ∀ m ∈ ((splitLines "AW-60").applyDispatch 1 3).movements.rows, 0 ≤ m.quantityAfter := by
  refine ⟨by decide, fun m hm => ?_⟩
  have hnew := (checkStockAvailable_sound 3 (by decide)).2 m hm
  exact (hnew.resolve_left List.not_mem_nil).1

end AyushOms.Inventory.Stock
