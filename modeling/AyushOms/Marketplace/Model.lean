import AyushOms.Inventory.Service
import AyushOms.Lib.Buckets
import AyushOms.Lib.DatedLedger
import AyushOms.Lib.Transaction
import Mathlib.Data.List.Sort

/-!
# Marketplace Stock: Rows, Tables and Repositories

The manual marketplace ledgers sit beside the Shopify stock: `platform_stock_movements`
keeps one running balance for each SKU and platform, `product_marketplace_movements` one for
each product, scope and platform. A movement of the second also moves the OMS total, through
a row of `catalog_variant_stock_adjustments` that is linked to it.

Both ledgers are append-only and list their rows in creation order. The constraints of the
database are carried by the types: ids are unique, a movement is reversed at most once and
replaced at most once, it has at most one adjustment, and an adjustment has exactly one
scope.
-/

namespace AyushOms.Marketplace

open AyushOms.Lib AyushOms.Inventory

/-! ## Section 1: Dates and platforms -/

/-- A calendar date, by its proleptic Gregorian ordinal (`date.toordinal()`). -/
abbrev Date := Int

/-- A number of at least `width` digits. -/
def zeroPadded (width : Nat) (n : Int) : String :=
  let digits := toString n
  String.ofList (List.replicate (width - digits.length) '0') ++ digits

/-- `date.isoformat()`. Counted from the first of March, the leap day ends the year. -/
def Date.isoformat (date : Date) : String :=
  let days := date + 305
  let era := days / 146097
  let dayOfEra := days % 146097
  let yearOfEra := (dayOfEra - dayOfEra / 1460 + dayOfEra / 36524 - dayOfEra / 146096) / 365
  let dayOfYear := dayOfEra - (365 * yearOfEra + yearOfEra / 4 - yearOfEra / 100)
  let shifted := (5 * dayOfYear + 2) / 153
  let day := dayOfYear - (153 * shifted + 2) / 5 + 1
  let month := if shifted < 10 then shifted + 3 else shifted - 9
  let year := yearOfEra + era * 400 + if month ≤ 2 then 1 else 0
  zeroPadded 4 year ++ "-" ++ zeroPadded 2 month ++ "-" ++ zeroPadded 2 day

namespace InventoryPlatform

/-- `InventoryPlatform.ALL`. Shopify is not among them. -/
def ALL : List String := ["amazon", "flipkart", "blinkit", "meesho", "manual_other"]

/-- `InventoryPlatform.LABELS.get(platform, platform)`. -/
def label (platform : String) : String :=
  match platform with
  | "amazon" => "Amazon"
  | "flipkart" => "Flipkart"
  | "blinkit" => "Blinkit"
  | "meesho" => "Meesho"
  | "manual_other" => "Manual / Other"
  | platform => platform

end InventoryPlatform

inductive PlatformStockMovementType where
  | stockAdded | stockDeducted
  deriving DecidableEq, Repr, Inhabited

inductive ProductMarketplaceMovementType where
  | stockAdded | sale | rto | reversal
  deriving DecidableEq, Repr, Inhabited

/-! ## Section 2: Rows -/

/-- `CatalogVariant`: an OMS-visible variant, grouping SKUs of one product. -/
structure CatalogVariant where
  id : UUID
  productId : UUID
  name : String
  displayOrder : Int := 0
  isActive : Bool := true
  deriving DecidableEq, Repr

/-- `ProductVariant`, with the columns that group it. -/
structure CatalogueVariant extends Inventory.ProductVariant where
  productId : UUID
  catalogVariantId : Option UUID := none
  title : Option String := none
  titleOverride : Option String := none
  deriving DecidableEq, Repr

/-- `PlatformStockMovement`: the manual ledger of one SKU and platform. -/
structure PlatformStockMovement where
  id : UUID
  productVariantId : UUID
  platform : String
  movementType : PlatformStockMovementType
  quantityDelta : Int
  quantityAfter : Int
  stockDate : Date
  reason : Option String := none
  actorUserId : Option UUID := none
  deriving DecidableEq, Repr

/-- `ProductMarketplaceMovement`: the manual ledger of one product, scope and platform.
Quantities are in outers, except the packets staff typed. -/
structure ProductMarketplaceMovement where
  id : UUID
  productId : UUID
  catalogVariantId : Option UUID
  platform : String
  movementType : ProductMarketplaceMovementType
  quantityPackets : Int
  quantityDelta : Int
  quantityAfter : Int
  stockDate : Date
  reason : Option String := none
  actorUserId : Option UUID := none
  reversesMovementId : Option UUID := none
  replacesMovementId : Option UUID := none
  deriving DecidableEq, Repr

/-- `ck_cv_stock_adjustments_exactly_one_scope`: an adjustment belongs to one catalogue
variant or to one product. -/
inductive AdjustmentScope where
  | catalogVariant (id : UUID)
  | product (id : UUID)
  deriving DecidableEq, Repr

/-- The column `catalog_variant_id` of a scope. -/
def AdjustmentScope.catalogVariantId : AdjustmentScope → Option UUID
  | .catalogVariant id => some id
  | .product _ => none

/-- `CatalogVariantStockAdjustment`: one row of the OMS total. -/
structure CatalogVariantStockAdjustment where
  scope : AdjustmentScope
  productMarketplaceMovementId : Option UUID
  quantityDelta : Int
  quantityAfter : Int
  reason : String
  actorUserId : Option UUID := none
  deriving DecidableEq, Repr

/-! ## Section 3: Constraints and tables -/

/-- The unique columns of `product_marketplace_movements`. -/
inductive MovementKey where
  | id (id : UUID)
  | reverses (id : UUID)
  | replaces (id : UUID)
  deriving DecidableEq

def PlatformStockMovement.keys (m : PlatformStockMovement) : List UUID := [m.id]

/-- The keys a movement occupies; a `NULL` column occupies none. -/
def ProductMarketplaceMovement.keys (m : ProductMarketplaceMovement) : List MovementKey :=
  .id m.id :: (m.reversesMovementId.map .reverses).toList ++
    (m.replacesMovementId.map .replaces).toList

/-- `uq_cv_stock_adjustments_product_marketplace_movement_id`. -/
def CatalogVariantStockAdjustment.keys (a : CatalogVariantStockAdjustment) : List UUID :=
  a.productMarketplaceMovementId.toList

abbrev PlatformMovementTable := Table PlatformStockMovement UUID PlatformStockMovement.keys

abbrev ProductMovementTable :=
  Table ProductMarketplaceMovement MovementKey ProductMarketplaceMovement.keys

abbrev AdjustmentTable :=
  Table CatalogVariantStockAdjustment UUID CatalogVariantStockAdjustment.keys

/-- The catalogue the ledgers refer to, which other parts of the backend edit. -/
structure Catalogue where
  products : List UUID := []
  catalogVariants : List CatalogVariant := []
  variants : List CatalogueVariant := []
  deriving DecidableEq

/-- The part of the database that marketplace stock lives in. -/
structure MarketplaceDB where
  catalogue : Catalogue := {}
  platformMovements : PlatformMovementTable := Table.empty
  productMovements : ProductMovementTable := Table.empty
  adjustments : AdjustmentTable := Table.empty
  deriving DecidableEq

namespace ProductMarketplaceMovement

theorem mem_keys_id {m : ProductMarketplaceMovement} {i : UUID} :
    MovementKey.id i ∈ m.keys ↔ m.id = i := by
  simp [keys, eq_comm]

theorem mem_keys_reverses {m : ProductMarketplaceMovement} {i : UUID} :
    MovementKey.reverses i ∈ m.keys ↔ m.reversesMovementId = some i := by
  simp [keys]

end ProductMarketplaceMovement

theorem CatalogVariantStockAdjustment.mem_keys {a : CatalogVariantStockAdjustment} {i : UUID} :
    i ∈ a.keys ↔ a.productMarketplaceMovementId = some i := by
  simp [keys]

/-! ## Section 4: Ledger keys -/

/-- The balance of `platform_stock_movements` a row belongs to. -/
structure SkuKey where
  productVariantId : UUID
  platform : String
  deriving DecidableEq, Repr

/-- The balance of `product_marketplace_movements` a row belongs to. -/
structure MarketplaceKey where
  productId : UUID
  catalogVariantId : Option UUID
  platform : String
  deriving DecidableEq, Repr

def PlatformStockMovement.key (m : PlatformStockMovement) : SkuKey :=
  ⟨m.productVariantId, m.platform⟩

def ProductMarketplaceMovement.key (m : ProductMarketplaceMovement) : MarketplaceKey :=
  ⟨m.productId, m.catalogVariantId, m.platform⟩

namespace MarketplaceDB

/-! ## Section 5: Repositories -/

/-- `session.get(Product, product_id)`. -/
def getProduct (db : MarketplaceDB) (productId : UUID) : Option UUID :=
  db.catalogue.products.find? fun id => id == productId

/-- `ProductVariantRepository.get_by_id`. -/
def getVariant (db : MarketplaceDB) (variantId : UUID) : Option CatalogueVariant :=
  db.catalogue.variants.find? fun v => v.id == variantId

/-- `ProductVariantRepository.list_for_product`. -/
def variantsForProduct (db : MarketplaceDB) (productId : UUID) : List CatalogueVariant :=
  db.catalogue.variants.filter fun v => v.productId == productId

/-- `ProductVariantRepository.list_for_catalog_variant`. -/
def variantsForCatalogVariant (db : MarketplaceDB) (catalogVariantId : UUID) :
    List CatalogueVariant :=
  db.catalogue.variants.filter fun v => v.catalogVariantId == some catalogVariantId

/-- `ORDER BY display_order ASC, name ASC`. -/
def catalogVariantLe (a b : CatalogVariant) : Prop :=
  a.displayOrder < b.displayOrder ∨ a.displayOrder = b.displayOrder ∧ ¬ b.name < a.name

instance (a b : CatalogVariant) : Decidable (catalogVariantLe a b) :=
  inferInstanceAs (Decidable (_ ∨ _))

/-- `CatalogVariantRepository.list_for_product`. -/
def catalogVariantsForProduct (db : MarketplaceDB) (productId : UUID) : List CatalogVariant :=
  (db.catalogue.catalogVariants.filter fun cv => cv.productId == productId).insertionSort
    catalogVariantLe

/-- `PlatformStockMovementRepository.get_latest_as_of`. -/
def platformLatestAsOf (db : MarketplaceDB) (key : SkuKey) (asOf : Date) :
    Option PlatformStockMovement :=
  latest? PlatformStockMovement.stockDate
    (visible PlatformStockMovement.key PlatformStockMovement.stockDate key asOf
      db.platformMovements.rows)

/-- `ProductMarketplaceMovementRepository.get_latest_as_of`. -/
def productLatestAsOf (db : MarketplaceDB) (key : MarketplaceKey) (asOf : Date) :
    Option ProductMarketplaceMovement :=
  latest? ProductMarketplaceMovement.stockDate
    (visible ProductMarketplaceMovement.key ProductMarketplaceMovement.stockDate key asOf
      db.productMovements.rows)

/-- The loop of `sum_for_date`: what a day added and what it deducted, both positive. -/
def addedAndDeducted (deltas : List Int) : Int × Int :=
  deltas.foldl
    (fun totals delta =>
      if 0 ≤ delta then (totals.1 + delta, totals.2) else (totals.1, totals.2 + -delta))
    (0, 0)

/-- `PlatformStockMovementRepository.sum_for_date`. -/
def platformSumForDate (db : MarketplaceDB) (key : SkuKey) (date : Date) : Int × Int :=
  addedAndDeducted
    ((db.platformMovements.rows.filter fun m => m.key = key ∧ m.stockDate = date).map
      PlatformStockMovement.quantityDelta)

/-- `ProductMarketplaceMovementRepository.sum_for_date`. -/
def productSumForDate (db : MarketplaceDB) (key : MarketplaceKey) (date : Date) : Int × Int :=
  addedAndDeducted
    ((db.productMovements.rows.filter fun m => m.key = key ∧ m.stockDate = date).map
      ProductMarketplaceMovement.quantityDelta)

/-- `ProductMarketplaceMovementRepository.get_by_id`. -/
def getMovement (db : MarketplaceDB) (movementId : UUID) : Option ProductMarketplaceMovement :=
  db.productMovements.find? fun m => m.id == movementId

/-- `ProductMarketplaceMovementRepository.reversed_ids`. -/
def reversedIds (db : MarketplaceDB) (movementIds : List UUID) : List UUID :=
  (db.productMovements.rows.filterMap ProductMarketplaceMovement.reversesMovementId).filter
    fun id => id ∈ movementIds

/-- `CatalogVariantStockAdjustmentRepository.get_for_movement`. -/
def getForMovement (db : MarketplaceDB) (movementId : UUID) :
    Option CatalogVariantStockAdjustment :=
  db.adjustments.find? fun a => a.productMarketplaceMovementId == some movementId

/-- The sum of the adjustments of one scope: `sum_for_catalog_variant` and
`sum_product_level`. -/
def sumForScope (db : MarketplaceDB) (scope : AdjustmentScope) : Int :=
  ((db.adjustments.rows.filter fun a => a.scope = scope).map
    CatalogVariantStockAdjustment.quantityDelta).sum

/-- The values of `CatalogVariantStockAdjustmentRepository.sum_by_product`, summed. -/
def sumByProduct (db : MarketplaceDB) (productId : UUID) : Int :=
  ((db.catalogue.catalogVariants.filter fun cv => cv.productId == productId).map
    fun cv => db.sumForScope (.catalogVariant cv.id)).sum

theorem getMovement_eq_some {db : MarketplaceDB} {i : UUID} {m : ProductMarketplaceMovement} :
    db.getMovement i = some m ↔ m ∈ db.productMovements.rows ∧ m.id = i := by
  constructor
  · intro h
    exact ⟨Table.mem_of_find?_eq_some h, by simpa using List.find?_some h⟩
  · rintro ⟨hm, rfl⟩
    exact db.productMovements.find?_eq_some_of_mem (k := .id m.id) hm (by simp)
      fun m' hm' => ProductMarketplaceMovement.mem_keys_id.mpr (by simpa using hm')

theorem getForMovement_eq_some {db : MarketplaceDB} {i : UUID}
    {a : CatalogVariantStockAdjustment} :
    db.getForMovement i = some a ↔
      a ∈ db.adjustments.rows ∧ a.productMarketplaceMovementId = some i := by
  constructor
  · intro h
    exact ⟨Table.mem_of_find?_eq_some h, by simpa using List.find?_some h⟩
  · rintro ⟨ha, hi⟩
    exact db.adjustments.find?_eq_some_of_mem (k := i) ha (by simp [hi])
      fun a' ha' => CatalogVariantStockAdjustment.mem_keys.mpr (by simpa using ha')

/-- A movement that some row reverses is listed among the reversed ones. -/
theorem mem_reversedIds {db : MarketplaceDB} {i : UUID} {ids : List UUID} :
    i ∈ db.reversedIds ids ↔
      i ∈ ids ∧ ∃ m ∈ db.productMovements.rows, m.reversesMovementId = some i := by
  simp [reversedIds, and_comm]

end MarketplaceDB

end AyushOms.Marketplace
