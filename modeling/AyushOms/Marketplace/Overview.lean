import AyushOms.Marketplace.Grouping
import Mathlib.Data.List.Dedup
import Mathlib.Tactic.Ring

/-!
# The Inventory Overview and the Product Detail

`list_product_stock` shows a row for every product, from sums over all its variants and one sum of
its adjustments; `get_product_stock` shows a product from its OMS-visible variants, each with its
own variants and adjustments. Both convert adjustments from boxes to packets where all the
variants looked at agree on the packets in a box: the overview looks at the product's, the detail
at each group's. They count OMS-visible variants differently as well.

## Main results

- `totalPackets_eq_iff`: when the two totals of packets are the same
- `omsVariantCount_eq_iff`: when the two counts are
- `overview_agrees_iff`: the overview row and the detail header
-/

namespace AyushOms.Marketplace

open AyushOms.Lib AyushOms.Inventory

/-! ## Section 1: Stock and pack sizes -/

inductive StockStatus where
  | inStock | lowStock | outOfStock
  deriving DecidableEq, Repr

/-- `InventoryService.compute_stock_status`. -/
def computeStockStatus (availableBoxes threshold : Int) : StockStatus :=
  if availableBoxes ≤ 0 then .outOfStock
  else if availableBoxes ≤ threshold then .lowStock
  else .inStock

/-- `{v.packets_per_box for v in members}`. -/
def packSizes (members : List CatalogueVariant) : List Int :=
  (members.map fun v => v.packetsPerBox).dedup

/-- `sum(v.available_quantity * v.packets_per_box for v in members)`. -/
def packetsOf (members : List CatalogueVariant) : Int :=
  (members.map fun v => v.availableQuantity * v.packetsPerBox).sum

/-- Boxes of an adjustment in packets, where there is one pack size. -/
def adjustmentPackets (adjustment : Int) (members : List CatalogueVariant) : Option Int :=
  match packSizes members with
  | [packetsPerBox] => some (adjustment * packetsPerBox)
  | _ => none

/-- `if adjustment and len(pack_sizes) == 1: total_packets += …`. -/
def addPackets (total adjustment : Int) (members : List CatalogueVariant) : Int :=
  if adjustment ≠ 0 then total + (adjustmentPackets adjustment members).getD 0 else total

/-! ## Section 2: The product detail -/

/-- `OmsCatalogVariantResponse`. -/
structure OmsCatalogVariantResponse where
  catalogVariantId : Option UUID
  name : String
  displayOrder : Int
  isActive : Bool
  availableBoxes : Int
  totalPackets : Int
  stockStatus : StockStatus
  packetsPerBoxUniform : Bool
  underlyingVariantCount : ℕ
  deriving DecidableEq

/-- `_oms_variant_response`. -/
def omsVariantResponse (group : OmsVariantGroup) (threshold adjustmentTotal : Int) :
    OmsCatalogVariantResponse :=
  let members := group.variants
  let availableBoxes := totalAvailable members + adjustmentTotal
  { catalogVariantId := group.catalogVariantId
    name := group.name
    displayOrder := group.displayOrder
    isActive := group.isActive
    availableBoxes := availableBoxes
    totalPackets := addPackets (packetsOf members) adjustmentTotal members
    stockStatus := computeStockStatus availableBoxes threshold
    packetsPerBoxUniform := (packSizes members).length ≤ 1
    underlyingVariantCount := members.length }

/-- `InventoryProductStockResponse`. -/
structure InventoryProductStockResponse where
  productId : UUID
  productLevelAdjustmentBoxes : Int
  productLevelAdjustmentPackets : Option Int
  availableBoxes : Int
  totalPackets : Int
  stockStatus : StockStatus
  packetsPerBoxUniform : Bool
  omsVariantCount : ℕ
  underlyingVariantCount : ℕ
  omsVariants : List OmsCatalogVariantResponse
  deriving DecidableEq

/-- `adjustment_totals.get(catalog_variant_id, 0)`. -/
def adjustmentTotalOf (adjustmentTotals : List (UUID × Int)) (catalogVariantId : Option UUID) :
    Int :=
  (catalogVariantId.bind fun id => adjustmentTotals.lookup id).getD 0

/-- `_product_stock_response`. -/
def productStockResponse (productId : UUID) (omsGroups : List OmsVariantGroup) (threshold : Int)
    (adjustmentTotals : List (UUID × Int)) (productLevelAdjustment : Int) :
    InventoryProductStockResponse :=
  let allUnderlying := omsGroups.flatMap (·.variants)
  let availableBoxes := totalAvailable allUnderlying + (adjustmentTotals.map Prod.snd).sum +
    productLevelAdjustment
  let omsVariants := omsGroups.map fun g =>
    omsVariantResponse g threshold (adjustmentTotalOf adjustmentTotals g.catalogVariantId)
  { productId := productId
    productLevelAdjustmentBoxes := productLevelAdjustment
    productLevelAdjustmentPackets :=
      if productLevelAdjustment ≠ 0 then adjustmentPackets productLevelAdjustment allUnderlying
      else some 0
    availableBoxes := availableBoxes
    totalPackets := addPackets (omsVariants.map (·.totalPackets)).sum productLevelAdjustment
      allUnderlying
    stockStatus := computeStockStatus availableBoxes threshold
    packetsPerBoxUniform := (packSizes allUnderlying).length ≤ 1
    omsVariantCount := omsGroups.length
    underlyingVariantCount := allUnderlying.length
    omsVariants := omsVariants }

namespace MarketplaceDB

/-- `sum_by_product`: the catalogue variants of the product that have adjustments, with what these
add up to. -/
def sumsByCatalogVariant (db : MarketplaceDB) (productId : UUID) : List (UUID × Int) :=
  ((db.catalogue.catalogVariants.filter fun cv => cv.productId == productId).filter fun cv =>
    db.adjustments.rows.any fun a => a.scope = .catalogVariant cv.id).map
      fun cv => (cv.id, db.sumForScope (.catalogVariant cv.id))

/-- `sum_all_for_products`, read with `.get(product_id, 0)`. -/
def sumAllForProducts (db : MarketplaceDB) (productIds : List UUID) : UUID → Int :=
  let add (totals : UUID → Int) (row : UUID × Int) : UUID → Int :=
    Function.update totals row.1 (totals row.1 + row.2)
  let viaCv := productIds.dedup.map fun id => (id, db.sumByProduct id)
  let direct := productIds.dedup.map fun id => (id, db.sumForScope (.product id))
  direct.foldl add (viaCv.foldl add fun _ => 0)

end MarketplaceDB

/-- `get_product_stock`. -/
def getProductStock [PyText] (threshold : Int) (productId : UUID) :
    Call InventoryProductStockResponse := do
  let omsGroups ← getOmsVariantsForProduct productId
  let adjustmentTotals ← Txn.select fun db => db.sumsByCatalogVariant productId
  let productLevelAdjustment ← Txn.select fun db => db.sumForScope (.product productId)
  pure (productStockResponse productId omsGroups threshold adjustmentTotals productLevelAdjustment)

/-! ## Section 3: The overview -/

/-- `InventoryProductSummaryResponse`. -/
structure InventoryProductSummaryResponse where
  id : UUID
  variantCount : ℕ
  totalAvailableBoxes : Int
  totalPackets : Int
  stockStatus : StockStatus
  deriving DecidableEq

/-- A product of the page, with its loaded relationships. -/
structure ListedProduct where
  id : UUID
  variants : List CatalogueVariant
  catalogVariants : List CatalogVariant

/-- A turn of the loop of `list_product_stock`. -/
def productSummary (threshold : Int) (ledgerTotals : UUID → Int) (product : ListedProduct) :
    InventoryProductSummaryResponse :=
  let variants := product.variants
  let ledgerTotal := ledgerTotals product.id
  let totalBoxes := totalAvailable variants + ledgerTotal
  { id := product.id
    variantCount := product.catalogVariants.length +
      (variants.filter fun v => v.catalogVariantId.isNone).length
    totalAvailableBoxes := totalBoxes
    totalPackets := addPackets (packetsOf variants) ledgerTotal variants
    stockStatus := computeStockStatus totalBoxes threshold }

/-- What `list_products` loads for a product. -/
def MarketplaceDB.listedProduct (db : MarketplaceDB) (productId : UUID) : ListedProduct where
  id := productId
  variants := db.variantsForProduct productId
  catalogVariants := db.catalogVariantsForProduct productId

/-- `list_product_stock`, for the products of a page. -/
def listProductStock (threshold : Int) (productIds : List UUID) :
    Call (List InventoryProductSummaryResponse) := do
  let products ← Txn.select fun db => productIds.map db.listedProduct
  let ledgerTotals ← Txn.select fun db => db.sumAllForProducts productIds
  pure (products.map (productSummary threshold ledgerTotals))

/-! ## Section 4: Conversion -/

/-- The packets in a box of variants that agree on them, else zero. -/
def boxRatio (members : List CatalogueVariant) : Int :=
  match packSizes members with
  | [packetsPerBox] => packetsPerBox
  | _ => 0

theorem addPackets_eq (total adjustment : Int) (members : List CatalogueVariant) :
    addPackets total adjustment members = total + adjustment * boxRatio members := by
  have hconvert : (adjustmentPackets adjustment members).getD 0 =
      adjustment * boxRatio members := by
    unfold adjustmentPackets boxRatio
    split
    · rfl
    · simp
  unfold addPackets
  split
  · rw [hconvert]
  · rename_i hzero
    rw [not_not.mp hzero, zero_mul, add_zero]

theorem packSizes_eq_singleton_iff {members : List CatalogueVariant} {n : Int} :
    packSizes members = [n] ↔ members ≠ [] ∧ ∀ v ∈ members, v.packetsPerBox = n := by
  constructor
  · intro h
    have hmem : ∀ v ∈ members, v.packetsPerBox = n := by
      intro v hv
      have hsize : v.packetsPerBox ∈ packSizes members :=
        List.mem_dedup.mpr (List.mem_map_of_mem hv)
      rw [h] at hsize
      exact List.mem_singleton.mp hsize
    refine ⟨?_, hmem⟩
    rintro rfl
    cases h
  · rintro ⟨hne, hall⟩
    have hsizes : members.map (fun v => v.packetsPerBox) =
        List.replicate members.length n :=
      List.eq_replicate_iff.mpr ⟨List.length_map _, by simpa using hall⟩
    rw [packSizes, hsizes, List.replicate_dedup (List.length_eq_zero_iff.not.mpr hne)]

/-- Of variants that agree, those that are picked agree, if there are any. -/
theorem boxRatio_filter {members : List CatalogueVariant} {n : Int}
    (h : packSizes members = [n]) (p : CatalogueVariant → Bool) :
    boxRatio (members.filter p) = if members.filter p = [] then 0 else n := by
  obtain ⟨-, hall⟩ := packSizes_eq_singleton_iff.mp h
  split
  · rename_i hempty
    rw [hempty]
    rfl
  · rename_i hsome
    have hsizes : packSizes (members.filter p) = [n] :=
      packSizes_eq_singleton_iff.mpr ⟨hsome, fun v hv => hall v (List.mem_filter.mp hv).1⟩
    rw [boxRatio, hsizes]

theorem boxRatio_perm {members members' : List CatalogueVariant} (h : members.Perm members') :
    boxRatio members = boxRatio members' := by
  have hsizes : (packSizes members).Perm (packSizes members') := (h.map _).dedup
  unfold boxRatio
  split
  · rename_i n hn
    rw [hn] at hsizes
    rw [← List.singleton_perm.mp hsizes]
  · rename_i hn
    split
    · rename_i n hn'
      rw [hn'] at hsizes
      exact absurd (List.perm_singleton.mp hsizes) (hn n)
    · rfl

/-! ## Section 5: The sums of the adjustments -/

/-- Rows of one each are added to the entries they name. -/
theorem foldl_update_apply (f : UUID → Int) {ids : List UUID} (hids : ids.Nodup)
    (totals : UUID → Int) (k : UUID) :
    ((ids.map fun id => (id, f id)).foldl
      (fun totals row => Function.update totals row.1 (totals row.1 + row.2)) totals) k =
      totals k + if k ∈ ids then f k else 0 := by
  induction ids generalizing totals with
  | nil => simp
  | cons id rest ih =>
    obtain ⟨hnew, hrest⟩ := List.nodup_cons.mp hids
    rw [List.map_cons, List.foldl_cons, ih hrest]
    by_cases hk : k = id
    · subst hk
      simp [hnew]
    · simp [hk]

/-- The entries of the catalogue variants that have one, read with a default of zero. -/
theorem lookup_sums (f : UUID → Int) (has : UUID → Bool) (hnone : ∀ id, has id = false → f id = 0)
    {listed : List CatalogVariant} {cv : CatalogVariant} (hcv : cv ∈ listed) :
    (((listed.filter fun cv => has cv.id).map fun cv => (cv.id, f cv.id)).lookup cv.id).getD 0 =
      f cv.id := by
  induction listed with
  | nil => cases hcv
  | cons cv' rest ih =>
    rw [List.filter_cons]
    by_cases hid : cv.id = cv'.id
    · cases hhas : has cv'.id with
      | true => simp [hid]
      | false =>
        -- no other entry has this id either
        have hlookup : ((rest.filter fun cv => has cv.id).map fun cv => (cv.id, f cv.id)).lookup
            cv.id = none := by
          refine List.lookup_eq_none_iff.mpr fun entry hentry => ?_
          obtain ⟨other, hother, rfl⟩ := List.mem_map.mp hentry
          have hhas' := (List.mem_filter.mp hother).2
          refine bne_iff_ne.mpr fun hsame => ?_
          rw [← hid, show cv.id = other.id from hsame, hhas'] at hhas
          cases hhas
        rw [if_neg Bool.false_ne_true, hlookup, hid, hnone _ hhas]
        rfl
    · have hrest : cv ∈ rest := (List.mem_cons.mp hcv).resolve_left fun h => hid (by rw [h])
      split
      · rw [List.map_cons, List.lookup_cons, beq_false_of_ne hid]
        exact ih hrest
      · exact ih hrest

namespace MarketplaceDB

variable (db : MarketplaceDB)

/-- The overview reads all the adjustments of a product on its page. -/
theorem sumAllForProducts_apply {productIds : List UUID} {productId : UUID}
    (h : productId ∈ productIds) :
    db.sumAllForProducts productIds productId =
      db.sumByProduct productId + db.sumForScope (.product productId) := by
  have hmem : productId ∈ productIds.dedup := List.mem_dedup.mpr h
  rw [sumAllForProducts, foldl_update_apply _ (List.nodup_dedup _),
    foldl_update_apply _ (List.nodup_dedup _), if_pos hmem, if_pos hmem, zero_add]

/-- A catalogue variant without adjustments adds nothing. -/
theorem sumForScope_of_none {scope : AdjustmentScope}
    (h : (db.adjustments.rows.any fun a => a.scope = scope) = false) :
    db.sumForScope scope = 0 := by
  have hnone : db.adjustments.rows.filter (fun a => a.scope = scope) = [] := by
    refine List.filter_eq_nil_iff.mpr fun a ha hscope => ?_
    exact absurd (List.any_eq_true.mpr ⟨a, ha, hscope⟩) (Bool.eq_false_iff.mp h)
  rw [sumForScope, hnone]
  rfl

theorem sum_sumsByCatalogVariant (productId : UUID) :
    ((db.sumsByCatalogVariant productId).map Prod.snd).sum = db.sumByProduct productId := by
  rw [sumsByCatalogVariant, sumByProduct, List.map_map]
  induction db.catalogue.catalogVariants.filter fun cv => cv.productId == productId with
  | nil => rfl
  | cons cv rest ih =>
    rw [List.filter_cons, List.map_cons, List.sum_cons, ← ih]
    split
    · rfl
    · rename_i hnone
      rw [db.sumForScope_of_none (Bool.eq_false_iff.mpr hnone), zero_add]

/-- The detail reads the adjustments of each catalogue variant of the product. -/
theorem adjustmentTotalOf_sums {productId : UUID} {cv : CatalogVariant}
    (hcv : cv ∈ db.catalogVariantsForProduct productId) :
    adjustmentTotalOf (db.sumsByCatalogVariant productId) (some cv.id) =
      db.sumForScope (.catalogVariant cv.id) := by
  have hlisted : cv ∈ db.catalogue.catalogVariants.filter fun cv => cv.productId == productId :=
    (List.mem_insertionSort _).mp hcv
  rw [adjustmentTotalOf, sumsByCatalogVariant, Option.bind_some]
  exact lookup_sums (fun id => db.sumForScope (.catalogVariant id)) _
    (fun _ h => db.sumForScope_of_none h) hlisted

end MarketplaceDB

/-! ## Section 6: The detail header -/

namespace KeyedDB

variable (db : KeyedDB) (productId : UUID)

/-- The variants of the product that are linked to a catalogue variant. -/
def linkedTo (cv : CatalogVariant) : List CatalogueVariant :=
  (db.variantsForProduct productId).filter fun v => v.catalogVariantId = some cv.id

/-- What `get_product_stock` returns for a product. -/
def stockResponse [PyText] (threshold : Int) : InventoryProductStockResponse :=
  productStockResponse productId (db.groupsOf productId) threshold
    (db.sumsByCatalogVariant productId) (db.sumForScope (.product productId))

/-- What `list_product_stock` shows of it. -/
def summaryResponse (threshold : Int) (productIds : List UUID) : InventoryProductSummaryResponse :=
  productSummary threshold (db.sumAllForProducts productIds) (db.listedProduct productId)

/-- Of a group on the detail page, the adjustments of its catalogue variant are read. -/
theorem adjustmentTotalOf_group [PyText] {g : OmsVariantGroup} (hg : g ∈ db.groupsOf productId) :
    adjustmentTotalOf (db.sumsByCatalogVariant productId) g.catalogVariantId =
      db.groupAdjustments g := by
  cases hid : g.catalogVariantId with
  | none => simp [adjustmentTotalOf, MarketplaceDB.groupAdjustments, hid]
  | some id =>
    obtain ⟨cv, hcv, rfl⟩ := (db.omsVariants_groupsOf productId).listed hg hid
    rw [db.adjustmentTotalOf_sums hcv, MarketplaceDB.groupAdjustments, hid]

/-- Both pages show the same boxes. -/
theorem availableBoxes_eq [PyText] (threshold : Int) {productIds : List UUID}
    (h : productId ∈ productIds) :
    (db.summaryResponse productId threshold productIds).totalAvailableBoxes =
      (db.stockResponse productId threshold).availableBoxes := by
  have hvariants := (db.omsVariants_groupsOf productId).variants_perm
  change totalAvailable (db.variantsForProduct productId) +
      db.sumAllForProducts productIds productId =
    totalAvailable ((db.groupsOf productId).flatMap (·.variants)) +
      ((db.sumsByCatalogVariant productId).map Prod.snd).sum + db.sumForScope (.product productId)
  rw [db.sumAllForProducts_apply h, db.sum_sumsByCatalogVariant, totalAvailable_perm hvariants,
    add_assoc]

/-- The packets of the overview: those of the variants, and all the adjustments at the product's
own conversion. -/
theorem summary_totalPackets (threshold : Int) {productIds : List UUID}
    (h : productId ∈ productIds) :
    (db.summaryResponse productId threshold productIds).totalPackets =
      packetsOf (db.variantsForProduct productId) +
        (db.sumByProduct productId + db.sumForScope (.product productId)) *
          boxRatio (db.variantsForProduct productId) := by
  rw [← db.sumAllForProducts_apply h, ← addPackets_eq]
  rfl

/-- What the packets of the adjustments come to, group by group. -/
def groupAdjustmentPackets : Int :=
  ((db.catalogVariantsForProduct productId).map fun cv =>
    db.sumForScope (.catalogVariant cv.id) * boxRatio (db.linkedTo productId cv)).sum

/-- The packets of the detail: those of the variants, the adjustments of each group at its own
conversion, and the product's at the product's. -/
theorem stock_totalPackets [PyText] (threshold : Int) :
    (db.stockResponse productId threshold).totalPackets =
      packetsOf (db.variantsForProduct productId) + db.groupAdjustmentPackets productId +
        db.sumForScope (.product productId) * boxRatio (db.variantsForProduct productId) := by
  have hvariants := (db.omsVariants_groupsOf productId).variants_perm
  have hgroup : ∀ g ∈ db.groupsOf productId,
      (omsVariantResponse g threshold
        (adjustmentTotalOf (db.sumsByCatalogVariant productId) g.catalogVariantId)).totalPackets =
      packetsOf g.variants + db.groupAdjustments g * boxRatio g.variants := by
    intro g hg
    rw [db.adjustmentTotalOf_group productId hg, ← addPackets_eq]
    rfl
  have hpackets : ((db.groupsOf productId).map fun g => packetsOf g.variants).sum =
      packetsOf (db.variantsForProduct productId) := by
    rw [packetsOf, ← (hvariants.map _).sum_eq]
    exact sum_members _ _
  have hadjustments : ((db.groupsOf productId).map fun g =>
      db.groupAdjustments g * boxRatio g.variants).sum = db.groupAdjustmentPackets productId :=
    sum_groups _ (db.listed_ids_nodup productId) fun g hnone => by
      rw [db.groupAdjustments_of_none hnone, zero_mul]
  change addPackets (((db.groupsOf productId).map fun g => omsVariantResponse g threshold
      (adjustmentTotalOf (db.sumsByCatalogVariant productId) g.catalogVariantId)).map
        (·.totalPackets)).sum (db.sumForScope (.product productId))
      ((db.groupsOf productId).flatMap (·.variants)) = _
  rw [addPackets_eq, boxRatio_perm hvariants, List.map_map, ← hpackets, ← hadjustments,
    ← List.sum_map_add]
  congr 2
  exact List.map_congr_left hgroup

/-! ## Section 7: When the two agree -/

/-- What the adjustments of the catalogue variants without members add up to. -/
def emptyAdjustments : Int :=
  (((db.catalogVariantsForProduct productId).filter fun cv => db.linkedTo productId cv = []).map
    fun cv => db.sumForScope (.catalogVariant cv.id)).sum

/-- Where the product's variants agree on the packets in a box, the adjustments of catalogue
variants without members add up to nothing; where they do not, the adjustments of those whose
own members agree come to no packets. -/
def AdjustmentsConvert : Prop :=
  match packSizes (db.variantsForProduct productId) with
  | [] => True
  | [_] => db.emptyAdjustments productId = 0
  | _ :: _ :: _ => db.groupAdjustmentPackets productId = 0

/-- No variant is linked to a catalogue variant of another product. -/
def LinksListed : Prop :=
  ∀ v ∈ db.variantsForProduct productId, ∀ id ∈ v.catalogVariantId,
    ∃ cv ∈ db.catalogVariantsForProduct productId, cv.id = id

/-- Where all the variants agree, the groups convert the adjustments of those catalogue variants
that have members. -/
theorem groupAdjustmentPackets_of_uniform {n : Int}
    (h : packSizes (db.variantsForProduct productId) = [n]) :
    db.groupAdjustmentPackets productId =
      (db.sumByProduct productId - db.emptyAdjustments productId) * n := by
  have hlisted : db.sumByProduct productId = ((db.catalogVariantsForProduct productId).map
      fun cv => db.sumForScope (.catalogVariant cv.id)).sum :=
    ((List.perm_insertionSort MarketplaceDB.catalogVariantLe _).map _).sum_eq.symm
  rw [hlisted, groupAdjustmentPackets, emptyAdjustments]
  induction db.catalogVariantsForProduct productId with
  | nil => simp
  | cons cv rest ih =>
    have hratio := boxRatio_filter h fun v => v.catalogVariantId = some cv.id
    rw [List.map_cons, List.sum_cons, ih, List.filter_cons, List.map_cons, List.sum_cons,
      linkedTo, hratio]
    by_cases hempty : (db.variantsForProduct productId).filter
        (fun v => v.catalogVariantId = some cv.id) = []
    · simp [hempty]
    · simp only [hempty, decide_false, if_false, Bool.false_eq_true]
      ring

/-- The two totals of packets are the same exactly when the adjustments convert alike. -/
theorem totalPackets_eq_iff [PyText] (threshold : Int) {productIds : List UUID}
    (h : productId ∈ productIds) :
    (db.summaryResponse productId threshold productIds).totalPackets =
      (db.stockResponse productId threshold).totalPackets ↔ db.AdjustmentsConvert productId := by
  rw [db.summary_totalPackets productId threshold h, db.stock_totalPackets productId threshold,
    AdjustmentsConvert]
  cases hsizes : packSizes (db.variantsForProduct productId) with
  | nil =>
    have hnone : db.variantsForProduct productId = [] := by
      cases hv : db.variantsForProduct productId with
      | nil => rfl
      | cons v rest =>
        have hmem : v.packetsPerBox ∈ packSizes (db.variantsForProduct productId) :=
          List.mem_dedup.mpr (List.mem_map_of_mem (by rw [hv]; exact List.mem_cons_self))
        rw [hsizes] at hmem
        cases hmem
    have hlinked : ∀ cv, db.linkedTo productId cv = [] := fun cv => by
      rw [linkedTo, hnone, List.filter_nil]
    simp [groupAdjustmentPackets, hlinked, hnone, boxRatio, packSizes]
  | cons n others =>
    cases others with
    | nil =>
      have hpos : 0 < n := by
        obtain ⟨hne, hall⟩ := packSizes_eq_singleton_iff.mp hsizes
        obtain ⟨v, hv⟩ := List.exists_mem_of_ne_nil _ hne
        exact hall v hv ▸ v.packetsPerBox_pos
      have hratio : boxRatio (db.variantsForProduct productId) = n := by rw [boxRatio, hsizes]
      rw [db.groupAdjustmentPackets_of_uniform productId hsizes, hratio]
      dsimp only
      constructor
      · intro heq
        have hzero : db.emptyAdjustments productId * n = 0 := by
          rw [add_mul, sub_mul] at heq
          omega
        exact (mul_eq_zero.mp hzero).resolve_right hpos.ne'
      · intro hzero
        rw [hzero]
        ring
    | cons m others =>
      have hratio : boxRatio (db.variantsForProduct productId) = 0 := by rw [boxRatio, hsizes]
      rw [hratio, mul_zero, mul_zero, add_zero, add_zero]
      dsimp only
      omega

/-- The two counts are the same exactly when no variant is linked to what is not listed. -/
theorem omsVariantCount_eq_iff [PyText] (threshold : Int) (productIds : List UUID) :
    (db.summaryResponse productId threshold productIds).variantCount =
      (db.stockResponse productId threshold).omsVariantCount ↔ db.LinksListed productId := by
  obtain ⟨leftover, hleftover, hperm⟩ := omsVariantGroups_perm (db.variantsForProduct productId)
    (db.listed_ids_nodup productId)
  have hgroups : (db.groupsOf productId).length =
      (db.catalogVariantsForProduct productId).length + leftover.length := by
    rw [groupsOf, hperm.length_eq, List.length_append, List.length_map, List.length_map,
      List.length_zipIdx]
  -- a variant without a link is among those left over
  have hunlinked : (db.variantsForProduct productId).filter (fun v => v.catalogVariantId.isNone) =
      ((db.variantsForProduct productId).filter fun v =>
        ∀ cv ∈ db.catalogVariantsForProduct productId, v.catalogVariantId ≠ some cv.id).filter
          fun v => v.catalogVariantId.isNone := by
    rw [List.filter_filter]
    refine List.filter_congr fun v _ => ?_
    cases v.catalogVariantId <;> simp
  change (db.catalogVariantsForProduct productId).length +
      ((db.variantsForProduct productId).filter fun v => v.catalogVariantId.isNone).length =
    (db.groupsOf productId).length ↔ _
  rw [hgroups, Nat.add_left_cancel_iff, hunlinked, hleftover.length_eq,
    List.length_filter_eq_length_iff, LinksListed]
  constructor
  · intro hnone v hv id hid
    by_contra hunlisted
    push Not at hunlisted
    have hleft : ∀ cv ∈ db.catalogVariantsForProduct productId, v.catalogVariantId ≠ some cv.id :=
      fun cv hcv hcvid => hunlisted cv hcv (Option.some.inj (hcvid.symm.trans hid))
    have hisNone := hnone v (List.mem_filter.mpr ⟨hv, decide_eq_true hleft⟩)
    rw [hid] at hisNone
    cases hisNone
  · intro hlisted v hv
    obtain ⟨hvariant, hleft⟩ := List.mem_filter.mp hv
    cases hid : v.catalogVariantId with
    | none => rfl
    | some id =>
      obtain ⟨cv, hcv, rfl⟩ := hlisted v hvariant id hid
      exact absurd hid (of_decide_eq_true hleft cv hcv)

variable {db productId}

theorem completes_getProductStock [PyText] (hproduct : (db.getProduct productId).isSome)
    (threshold : Int) :
    Txn.Completes Row.insert (getProductStock threshold productId) db.toMarketplaceDB
      (db.stockResponse productId threshold) db.toMarketplaceDB :=
  Txn.completes_bind (completes_getOmsVariantsForProduct hproduct)
    (Txn.completes_bind Txn.completes_select
      (Txn.completes_bind Txn.completes_select Txn.completes_pure))

theorem completes_listProductStock (threshold : Int) (productIds : List UUID) :
    Txn.Completes Row.insert (listProductStock threshold productIds) db.toMarketplaceDB
      (productIds.map fun id => db.summaryResponse id threshold productIds) db.toMarketplaceDB := by
  refine Txn.completes_bind Txn.completes_select (Txn.completes_bind Txn.completes_select ?_)
  rw [List.map_map]
  exact Txn.completes_pure

end KeyedDB

/-- **Overview and detail.** For every product of a page, the row of the overview and the header
of the detail are both shown; they agree on the boxes, the packets and the OMS-visible variants
exactly when the adjustments convert alike and no variant is linked to a catalogue variant of
another product. -/
theorem overview_agrees_iff [PyText] (db : KeyedDB) (threshold : Int) {productIds : List UUID}
    {productId : UUID} (hlisted : productId ∈ productIds)
    (hproduct : (db.getProduct productId).isSome) :
    ∃ rows row header,
      Txn.Completes Row.insert (listProductStock threshold productIds) db.toMarketplaceDB rows
        db.toMarketplaceDB ∧
      row ∈ rows ∧ row.id = productId ∧
      Txn.Completes Row.insert (getProductStock threshold productId) db.toMarketplaceDB header
        db.toMarketplaceDB ∧
      (row.totalAvailableBoxes = header.availableBoxes ∧
          row.totalPackets = header.totalPackets ∧ row.variantCount = header.omsVariantCount ↔
        db.AdjustmentsConvert productId ∧ db.LinksListed productId) := by
  refine ⟨_, db.summaryResponse productId threshold productIds,
    db.stockResponse productId threshold, KeyedDB.completes_listProductStock threshold productIds,
    List.mem_map_of_mem hlisted, rfl, KeyedDB.completes_getProductStock hproduct threshold, ?_⟩
  rw [db.totalPackets_eq_iff productId threshold hlisted, db.omsVariantCount_eq_iff]
  exact and_iff_right (db.availableBoxes_eq productId threshold hlisted)

/-! ## Section 8: An adjustment of an empty catalogue variant -/

/-- Five boxes added to a catalogue variant. -/
def fiveBoxes (catalogVariantId : UUID) : CatalogVariantStockAdjustment where
  scope := .catalogVariant catalogVariantId
  productMarketplaceMovementId := none
  quantityDelta := 5
  quantityAfter := 5
  reason := "Edit stock"

theorem fiveBoxes_keys (catalogVariantId : UUID) :
    ([fiveBoxes catalogVariantId].flatMap CatalogVariantStockAdjustment.keys).Nodup :=
  List.nodup_nil

/-- A product with ten boxes of one variant, linked as given, and five boxes added to its
catalogue variant. -/
def oneFlavour (link : Option UUID) : KeyedDB where
  catalogue := {
    products := [1]
    catalogVariants := [{ id := 20, productId := 1, name := "Gold Packet" }]
    variants := [linkedVariant 10 "AWL-60" 10 link] }
  adjustments := Table.ofList [fiveBoxes 20] (fiveBoxes_keys 20)
  catalogVariant_ids := List.nodup_singleton 20

/-- The variant is not linked yet: the overview shows fifteen packets, the detail ten. -/
theorem empty_variant_diverges :
    ((oneFlavour none).summaryResponse 1 10 [1]).totalPackets = 15 ∧
      ((oneFlavour none).stockResponse 1 10).totalPackets = 10 := by
  decide +kernel

/-- Once it is linked, both show the same. -/
theorem overview_agrees_linked :
    ∃ rows row header,
      Txn.Completes Row.insert (listProductStock 10 [1]) (oneFlavour (some 20)).toMarketplaceDB rows
        (oneFlavour (some 20)).toMarketplaceDB ∧
      row ∈ rows ∧
      Txn.Completes Row.insert (getProductStock 10 1) (oneFlavour (some 20)).toMarketplaceDB header
        (oneFlavour (some 20)).toMarketplaceDB ∧
      row.totalAvailableBoxes = header.availableBoxes ∧
      row.totalPackets = header.totalPackets ∧ row.variantCount = header.omsVariantCount := by
  obtain ⟨rows, row, header, hrows, hrow, -, hheader, hiff⟩ :=
    overview_agrees_iff (oneFlavour (some 20)) 10 (List.mem_singleton_self 1) rfl
  have hconvert : (oneFlavour (some 20)).AdjustmentsConvert 1 := by
    change (oneFlavour (some 20)).emptyAdjustments 1 = 0
    decide +kernel
  have hlinks : (oneFlavour (some 20)).LinksListed 1 := by
    unfold KeyedDB.LinksListed
    decide +kernel
  exact ⟨rows, row, header, hrows, hrow, hheader, hiff.mpr ⟨hconvert, hlinks⟩⟩

end AyushOms.Marketplace
