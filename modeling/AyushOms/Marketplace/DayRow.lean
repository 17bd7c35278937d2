import AyushOms.Core.Timezone
import AyushOms.Inventory.Ledger
import AyushOms.Inventory.Movements

/-!
# The Shopify Row of a Day

`get_product_platform_stock` shows, for one date, what Shopify's stock of a product opened with,
what was added and deducted, and what it closed with. The opening and the closing quantity are
looked up in the ledger, the other two are sums over the day. Where the ledger has no movement
yet, a quantity is unknown, and with one of a scope's quantities its total.

The rows of the manual platforms stand beside it and are left out.

## Main results

- `opening_add_window`: a ledger's balances before and after a window differ by its movements
- `shopify_row_balances`: whatever calls moved the stock before, the row of a past date
  balances, and the next day opens with what it closed with
-/

namespace AyushOms.Marketplace

open AyushOms.Lib AyushOms.Inventory

/-! ## Section 1: The row -/

/-- `PlatformStockSummaryRow`. -/
structure PlatformStockSummaryRow where
  platform : String
  platformLabel : String
  isAutomatic : Bool
  openingStock : Option ℤ
  stockAdded : ℤ
  stockDeducted : ℤ
  currentStock : Option ℤ
  lastUpdated : Option ℤ
  deriving DecidableEq, Repr

/-- What the bulk queries answered for one date. -/
structure ShopifyFigures where
  totals : List (UUID × ℤ × ℤ)
  lastUpdated : List (UUID × ℤ)
  closingAsOf : List (UUID × DatedMovement)
  openingAsOf : List (UUID × DatedMovement)
  isToday : Bool

/-- The totals `shopify_row` has so far. -/
structure RowTotals where
  added : ℤ := 0
  deducted : ℤ := 0
  opening : Option ℤ := some 0
  current : Option ℤ := some 0
  lastUpdatedAt : Option ℤ := none

/-- `None if total is None or value is None else total + value`. -/
def addKnown (total value : Option ℤ) : Option ℤ :=
  match total, value with
  | some total, some value => some (total + value)
  | _, _ => none

/-- `variant_opening`. -/
def ShopifyFigures.openingOf (f : ShopifyFigures) (variant : ProductVariant) : Option ℤ :=
  (f.openingAsOf.lookup variant.id).map fun m => m.quantityAfter

/-- `variant_current`. -/
def ShopifyFigures.currentOf (f : ShopifyFigures) (variant : ProductVariant) : Option ℤ :=
  if f.isToday then some variant.availableQuantity
  else (f.closingAsOf.lookup variant.id).map fun m => m.quantityAfter

/-- `shopify_totals.get(variant.id, (0, 0))`. -/
def ShopifyFigures.totalsOf (f : ShopifyFigures) (variant : ProductVariant) : ℤ × ℤ :=
  (f.totals.lookup variant.id).getD (0, 0)

/-- One variant of the scope. -/
def RowTotals.add (f : ShopifyFigures) (totals : RowTotals) (variant : ProductVariant) :
    RowTotals where
  added := totals.added + (f.totalsOf variant).1
  deducted := totals.deducted + (f.totalsOf variant).2
  opening := addKnown totals.opening (f.openingOf variant)
  current := addKnown totals.current (f.currentOf variant)
  lastUpdatedAt :=
    match f.lastUpdated.lookup variant.id, totals.lastUpdatedAt with
    | some updated, some latest => if latest < updated then some updated else some latest
    | some updated, none => some updated
    | none, latest => latest

/-- `shopify_row`. -/
def shopifyRow (f : ShopifyFigures) (scopeVariants : List ProductVariant) :
    PlatformStockSummaryRow :=
  let totals := scopeVariants.foldl (RowTotals.add f) {}
  { platform := "shopify"
    platformLabel := "Shopify"
    isAutomatic := true
    openingStock := totals.opening
    stockAdded := totals.added
    stockDeducted := totals.deducted
    currentStock := totals.current
    lastUpdated := totals.lastUpdatedAt }

/-- The queries of `get_product_platform_stock`. -/
def shopifyFigures (movements : List DatedMovement) (variants : List ProductVariant)
    (today stockDate : Lib.Date) : Except PyException ShopifyFigures := do
  let variantIds := variants.map fun v => v.id
  let isToday : Bool := stockDate = today
  let (dayStart, dayEnd) ← istDayBoundsForDate stockDate
  return {
    totals := movementTotalsBySignBulk movements variantIds dayStart dayEnd
    lastUpdated := lastMovementAtBulk movements variantIds dayEnd
    closingAsOf := if isToday then [] else getLatestAsOfBulk movements variantIds dayEnd
    openingAsOf := getLatestAsOfBulk movements variantIds dayStart
    isToday := isToday }

/-- The Shopify row of `get_product_platform_stock`, for the product or for the variants of one
of its `CatalogVariant`s. -/
def getShopifyRow (movements : List DatedMovement) (variants scopeVariants : List ProductVariant)
    (today stockDate : Lib.Date) : Except PyException PlatformStockSummaryRow := do
  let f ← shopifyFigures movements variants today stockDate
  return shopifyRow f scopeVariants

/-! ## Section 2: One variant -/

variable {movements : List DatedMovement}

/-- The times of a variant's movements ascend. -/
def TimesAscend (movements : List DatedMovement) (variantId : UUID) : Prop :=
  (ledgerOf movements variantId).Pairwise fun a b => a.createdAt < b.createdAt

/-- The balance of a running ledger before a time, if a movement has recorded it. -/
theorem balance_before {es : List DatedMovement} {opening : ℤ}
    (hrun : RunningBalance (fun m : DatedMovement => m.quantityDelta)
      (fun m => m.quantityAfter) opening es)
    (hasc : es.Pairwise fun a b => a.createdAt < b.createdAt) {t : ℤ} {m : DatedMovement}
    (hlast : (before es t).getLast? = some m) :
    m.quantityAfter = closing (fun m : DatedMovement => m.quantityDelta) opening (before es t) := by
  obtain ⟨rest, hrest⟩ := exists_before_append hasc t
  obtain ⟨front, hfront⟩ := List.getLast?_eq_some_iff.mp hlast
  have hrunBefore : RunningBalance (fun m : DatedMovement => m.quantityDelta)
      (fun m => m.quantityAfter) opening (before es t) := by
    rw [← hrest] at hrun
    exact hrun.of_append
  rw [hfront] at hrunBefore ⊢
  exact hrunBefore.after_getLast

/-- A ledger's balances before and after a window differ by the movements of the window. -/
theorem opening_add_window {es : List DatedMovement} {opening : ℤ}
    (hrun : RunningBalance (fun m : DatedMovement => m.quantityDelta)
      (fun m => m.quantityAfter) opening es)
    (hasc : es.Pairwise fun a b => a.createdAt < b.createdAt) {s t : ℤ} (hle : s ≤ t)
    {first last : DatedMovement} (hfirst : (before es s).getLast? = some first)
    (hlast : (before es t).getLast? = some last) :
    last.quantityAfter = first.quantityAfter +
      ((es.filter fun m => s ≤ m.createdAt ∧ m.createdAt < t).map
        fun m => m.quantityDelta).sum := by
  rw [balance_before hrun hasc hlast, balance_before hrun hasc hfirst, ← before_append hasc hle,
    closing_append]

/-! ## Section 3: The scope -/

/-- A variant's figures balance, where both quantities are known. -/
def Balances (f : ShopifyFigures) (variant : ProductVariant) : Prop :=
  ∀ opening current, f.openingOf variant = some opening → f.currentOf variant = some current →
    current = opening + (f.totalsOf variant).1 - (f.totalsOf variant).2

theorem addKnown_eq_some {total value : Option ℤ} {sum : ℤ} :
    addKnown total value = some sum ↔
      ∃ a b, total = some a ∧ value = some b ∧ sum = a + b := by
  cases total with
  | none => simp [addKnown]
  | some a =>
    cases value with
    | none => simp [addKnown]
    | some b => simp [addKnown, eq_comm]

/-- The totals of a scope balance when its variants do. -/
theorem balances_fold {f : ShopifyFigures} {scope : List ProductVariant}
    (hscope : ∀ variant ∈ scope, Balances f variant) {totals : RowTotals}
    (htotals : ∀ opening current, totals.opening = some opening → totals.current = some current →
      current = opening + totals.added - totals.deducted) :
    let row := scope.foldl (RowTotals.add f) totals
    ∀ opening current, row.opening = some opening → row.current = some current →
      current = opening + row.added - row.deducted := by
  induction scope generalizing totals with
  | nil => exact htotals
  | cons variant scope ih =>
    have hfirst := hscope variant List.mem_cons_self
    refine ih (fun other hmem => hscope other (List.mem_cons_of_mem variant hmem)) ?_
    intro opening current hopening hcurrent
    obtain ⟨a, b, ha, hb, rfl⟩ := addKnown_eq_some.mp hopening
    obtain ⟨c, d, hc, hd, rfl⟩ := addKnown_eq_some.mp hcurrent
    have hsofar := htotals a c ha hc
    have hvariant := hfirst b d hb hd
    show c + d = a + b + (totals.added + (f.totalsOf variant).1) -
      (totals.deducted + (f.totalsOf variant).2)
    omega

/-- One day's closing quantities are the opening ones of the next. -/
theorem current_fold_eq_opening_fold {f next : ShopifyFigures} {scope : List ProductVariant}
    (hscope : ∀ variant ∈ scope, f.currentOf variant = next.openingOf variant)
    {totals totals' : RowTotals} (htotals : totals.current = totals'.opening) :
    (scope.foldl (RowTotals.add f) totals).current =
      (scope.foldl (RowTotals.add next) totals').opening := by
  induction scope generalizing totals totals' with
  | nil => exact htotals
  | cons variant scope ih =>
    refine ih (fun other hmem => hscope other (List.mem_cons_of_mem variant hmem)) ?_
    show addKnown totals.current (f.currentOf variant) =
      addKnown totals'.opening (next.openingOf variant)
    rw [htotals, hscope variant List.mem_cons_self]

/-! ## Section 4: The row of a past date -/

variable {variants scope : List ProductVariant} {today stockDate : Lib.Date}

/-- The figures of a past date. -/
theorem shopifyFigures_eq (hdate : stockDate.Representable) (hpast : stockDate ≠ today)
    (hfirst : Representable (istDays.start stockDate.ordinal)) :
    shopifyFigures movements variants today stockDate = .ok
      { totals := movementTotalsBySignBulk movements (variants.map fun v => v.id)
          (istDays.start stockDate.ordinal) (istDays.start (stockDate.ordinal + 1))
        lastUpdated := lastMovementAtBulk movements (variants.map fun v => v.id)
          (istDays.start (stockDate.ordinal + 1))
        closingAsOf := getLatestAsOfBulk movements (variants.map fun v => v.id)
          (istDays.start (stockDate.ordinal + 1))
        openingAsOf := getLatestAsOfBulk movements (variants.map fun v => v.id)
          (istDays.start stockDate.ordinal)
        isToday := false } := by
  unfold shopifyFigures
  rw [istDayBoundsForDate_eq hdate, if_pos hfirst]
  simp only [hpast, decide_false]
  rfl

theorem shopifyFigures_error (hdate : stockDate.Representable)
    (hfirst : ¬ Representable (istDays.start stockDate.ordinal)) :
    shopifyFigures movements variants today stockDate = .error overflowError := by
  unfold shopifyFigures
  rw [istDayBoundsForDate_eq hdate, if_neg hfirst]
  rfl

/-- A past day's figures of one variant balance when its ledger runs. -/
theorem balances_of_running {variant : ProductVariant} {opening : ℤ}
    (hmem : variant ∈ variants)
    (hrun : RunningBalance (fun m : DatedMovement => m.quantityDelta)
      (fun m => m.quantityAfter) opening (ledgerOf movements variant.id))
    (hasc : TimesAscend movements variant.id) {f : ShopifyFigures}
    (hdate : stockDate.Representable) (hpast : stockDate ≠ today)
    (hfirst : Representable (istDays.start stockDate.ordinal))
    (hf : shopifyFigures movements variants today stockDate = .ok f) : Balances f variant := by
  have hid : variant.id ∈ variants.map fun v => v.id := List.mem_map_of_mem hmem
  rw [shopifyFigures_eq hdate hpast hfirst] at hf
  rw [← Except.ok.inj hf]
  intro o c hopening hcurrent
  obtain ⟨first, hfirst, rfl⟩ := Option.map_eq_some_iff.mp hopening
  obtain ⟨last, hlast, rfl⟩ := Option.map_eq_some_iff.mp hcurrent
  have hfirst := (lookup_getLatestAsOfBulk hid hasc _).symm.trans hfirst
  have hlast := (lookup_getLatestAsOfBulk hid hasc _).symm.trans hlast
  have hle := le_of_lt (istDays.start_lt_succ stockDate.ordinal)
  have hnet := movementTotals_net movements hid (istDays.start stockDate.ordinal)
    (istDays.start (stockDate.ordinal + 1))
  have hwindow := opening_add_window hrun hasc hle hfirst hlast
  rw [← hnet] at hwindow
  rw [hwindow]
  exact (Int.add_sub_assoc _ _ _).symm

/-- Whatever calls of the inventory service moved the stock, one after another: the row of a past
date balances, where it is known, and the next day opens with what it closed with. The row is
there for every past date but the first of all, whose start no timestamp can hold. -/
theorem shopify_row_balances {opening : UUID → Int} {s₀ : Stock} (h₀ : s₀.Reconciled opening)
    (ops : List Stock.StockOp) (movements : List DatedMovement)
    (variants scope : List ProductVariant) (hscope : scope ⊆ variants)
    (hvariants : ∀ v ∈ variants, v ∈ (run Stock.step s₀ ops).variants.rows)
    (hledger : ∀ v ∈ variants, (ledgerOf movements v.id).map (·.toInventoryMovement) =
      (run Stock.step s₀ ops).movementsOf v.id)
    (hasc : ∀ v ∈ variants, TimesAscend movements v.id)
    (stockDate today : Lib.Date) (hdate : stockDate.Representable)
    (htoday : today.Representable) (hpast : stockDate.ordinal < today.ordinal) :
    (1 < stockDate.ordinal →
      ∃ row, getShopifyRow movements variants scope today stockDate = .ok row) ∧
    ∀ row, getShopifyRow movements variants scope today stockDate = .ok row →
      (∀ o c, row.openingStock = some o → row.currentStock = some c →
        c = o + row.stockAdded - row.stockDeducted) ∧
      ∃ next, getShopifyRow movements variants scope today
          (Lib.Date.ofOrdinal (stockDate.ordinal + 1)) = .ok next ∧
        row.currentStock = next.openingStock := by
  have hbounds := (Lib.Date.representable_iff stockDate).mp hdate
  have htodayBounds := (Lib.Date.representable_iff today).mp htoday
  have hne : stockDate ≠ today := fun heq => by
    rw [heq] at hpast
    omega
  have hstart := representable_istDays_start hbounds.1 hbounds.2
  refine ⟨?_, ?_⟩
  · intro hlater
    refine ⟨_, bind_eq_ok.mpr ⟨_, shopifyFigures_eq hdate hne (hstart.mpr hlater), rfl⟩⟩
  · intro row hrow
    obtain ⟨f, hf, hrow⟩ := bind_eq_ok.mp hrow
    have hrow := Except.ok.inj hrow
    have hlater : Representable (istDays.start stockDate.ordinal) := by
      by_contra hnot
      rw [shopifyFigures_error hdate hnot] at hf
      cases hf
    refine ⟨?_, ?_⟩
    · -- each variant's ledger runs, so each variant balances, and so does the scope
      rw [← hrow]
      refine balances_fold (fun variant hmem => ?_) ?_
      · have hmem := hscope hmem
        have hrun := (Stock.reconciled_run h₀ ops variant (hvariants variant hmem)).running
        rw [← hledger variant hmem, runningBalance_map] at hrun
        exact balances_of_running hmem hrun (hasc variant hmem) hdate hne hlater hf
      · intro o c ho hc
        cases ho
        cases hc
        rfl
    · have hnextOrdinal : (Lib.Date.ofOrdinal (stockDate.ordinal + 1)).ordinal =
          stockDate.ordinal + 1 := Lib.Date.ordinal_ofOrdinal _
      have hnextDate : (Lib.Date.ofOrdinal (stockDate.ordinal + 1)).Representable := by
        rw [Lib.Date.representable_iff, hnextOrdinal]
        omega
      have hnextStart : Representable
          (istDays.start (Lib.Date.ofOrdinal (stockDate.ordinal + 1)).ordinal) := by
        rw [hnextOrdinal, representable_istDays_start (by omega) (by omega)]
        omega
      have hbounds := istDayBoundsForDate_eq hnextDate
      rw [if_pos hnextStart, hnextOrdinal] at hbounds
      refine ⟨_, bind_eq_ok.mpr ⟨_, bind_eq_ok.mpr ⟨_, hbounds, rfl⟩, rfl⟩, ?_⟩
      rw [shopifyFigures_eq hdate hne hlater] at hf
      rw [← hrow, ← Except.ok.inj hf]
      refine current_fold_eq_opening_fold (fun variant hmem => ?_) rfl
      rfl

/-- Ten boxes, of which one was dispatched and five were added two days later. -/
def teaMovements : List DatedMovement :=
  [{ productVariantId := 1, movementType := .dispatch, quantityDelta := -1, quantityAfter := 9
     orderId := some 7, shipmentId := some 70, reason := some "Shiprocket dispatch"
     id := 100, createdAt := 86400000000 },
   { productVariantId := 1, movementType := .manualAdjustment, quantityDelta := 5
     quantityAfter := 14, reason := some "recount", id := 101, createdAt := 259200000000 }]

/-- The variant as the two calls leave it. -/
def teaVariant : ProductVariant where
  id := 1
  sku := "TEA-60"
  availableQuantity := 14
  packSize_pos := Int.one_pos
  packetsPerBox_pos := Int.one_pos

/-- The day of the addition, and the day after. -/
theorem shopify_row_balances_tea :
    ∃ row, getShopifyRow teaMovements [teaVariant] [teaVariant] (Lib.Date.ofOrdinal 719200)
        (Lib.Date.ofOrdinal 719166) = .ok row ∧
      row.openingStock = some 9 ∧ row.stockAdded = 5 ∧ row.currentStock = some 14 ∧
      ∃ next, getShopifyRow teaMovements [teaVariant] [teaVariant] (Lib.Date.ofOrdinal 719200)
          (Lib.Date.ofOrdinal ((Lib.Date.ofOrdinal 719166).ordinal + 1)) = .ok next ∧
        row.currentStock = next.openingStock := by
  have hrow := shopify_row_balances Stock.twoOrders_reconciled
    [.applyDispatch 7 70, .addStock 1 5 "recount" none] teaMovements [teaVariant] [teaVariant]
    (by decide) (by decide) (by decide) (by unfold TimesAscend; decide)
    (Lib.Date.ofOrdinal 719166) (Lib.Date.ofOrdinal 719200) (by decide) (by decide) (by decide)
  refine ⟨_, rfl, by decide, by decide, by decide, ?_⟩
  exact (hrow.2 _ rfl).2

end AyushOms.Marketplace
