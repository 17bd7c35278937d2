import AyushOms.Marketplace.Model

/-!
# The Platform Inventory Service

`app.services.platform_inventory_service.PlatformInventoryService`: the per-SKU ledger
(`record_movement`), the product ledger (`record_product_movement`) and its append-only
corrections (`undo_movement`, `edit_movement`), with the effect each has on the OMS total
(`InventoryService.apply_marketplace_stock_effect`).

Each method is a program of its statements, one for every query, insertion, commit and
rollback of the source. Rows get their ids, and calls their date of today, as arguments.
-/

namespace AyushOms.Marketplace

open AyushOms.Lib AyushOms.Inventory

/-! ## Section 1: Statements and exceptions -/

/-- What a statement or a check raises: a domain error, the database's `IntegrityError`, or
any other exception. -/
inductive Failure where
  | domain (error : OMSError)
  | integrityError
  | other (name : String)
  deriving DecidableEq, Repr

/-- The insertions. An audit entry is in no table modelled here, but writing it can fail. -/
inductive Row where
  | platformMovement (row : PlatformStockMovement)
  | productMovement (row : ProductMarketplaceMovement)
  | adjustment (row : CatalogVariantStockAdjustment)
  | auditLog (action : String)
  deriving DecidableEq, Repr

/-- The database's answer to an insertion. -/
def Row.insert (row : Row) (db : MarketplaceDB) : Except Failure MarketplaceDB :=
  match row with
  | .platformMovement row =>
    match db.platformMovements.insert? row with
    | some table => .ok { db with platformMovements := table }
    | none => .error .integrityError
  | .productMovement row =>
    match db.productMovements.insert? row with
    | some table => .ok { db with productMovements := table }
    | none => .error .integrityError
  | .adjustment row =>
    match db.adjustments.insert? row with
    | some table => .ok { db with adjustments := table }
    | none => .error .integrityError
  | .auditLog _ => .ok db

/-- A service call, or a part of one. -/
abbrev Call (α : Type) := Txn MarketplaceDB Row Failure α

def validation (message : String) : Failure := .domain (.validation message)

def notFound (message : String) : Failure := .domain (.notFound message)

/-- `reason.strip() if reason and reason.strip() else None`. -/
def cleanReason (reason : Option String) : Option String :=
  match reason with
  | none => none
  | some text => if pyFalsy (pyStrip text) then none else some (pyStrip text)

def unknownPlatform (platform : String) : Failure :=
  let allowed := ", ".intercalate InventoryPlatform.ALL
  validation s!"Unknown platform '{platform}'. Must be one of: {allowed}."

/-! ## Section 2: The per-SKU ledger -/

/-- `PlatformInventoryService.record_movement`. -/
def recordMovement (variantId : UUID) (platform : String)
    (movementType : PlatformStockMovementType) (quantity : Int) (reason : Option String)
    (stockDate : Option Date) (actor : Option UUID) (today : Date) (movementId : UUID) :
    Call PlatformStockMovement := do
  Txn.raiseIf (quantity ≤ 0) (validation "Quantity must be a positive number.")
  Txn.raiseIf (platform ∉ InventoryPlatform.ALL) (unknownPlatform platform)
  let variant ← Txn.select fun db => db.getVariant variantId
  let _ ← Txn.orRaise variant (notFound "Product variant not found.")
  let resolvedDate := stockDate.getD today
  let latest ← Txn.select fun db => db.platformLatestAsOf ⟨variantId, platform⟩ resolvedDate
  let previousQuantity := (latest.map (·.quantityAfter)).getD 0
  let delta := if movementType = .stockAdded then quantity else -quantity
  let label := InventoryPlatform.label platform
  let date := resolvedDate.isoformat
  Txn.raiseIf (movementType ≠ .stockAdded ∧ previousQuantity + delta < 0)
    (validation (s!"Cannot deduct {quantity} boxes: only {previousQuantity} boxes of " ++
      s!"{label} stock recorded as of {date}."))
  let movement : PlatformStockMovement := {
    id := movementId
    productVariantId := variantId
    platform := platform
    movementType := movementType
    quantityDelta := delta
    quantityAfter := previousQuantity + delta
    stockDate := resolvedDate
    reason := cleanReason reason
    actorUserId := actor }
  Txn.flush (.platformMovement movement)
  Txn.flush (.auditLog "inventory.platform_stock_movement")
  Txn.commitSession
  pure movement

/-! ## Section 3: Scopes and conversion -/

/-- `(pack_size, packets_per_box)`, both positive. -/
structure ConversionFactor where
  packSize : Int
  packetsPerBox : Int
  packSize_pos : 0 < packSize
  packetsPerBox_pos : 0 < packetsPerBox

/-- `_product_conversion_factor`: the one ratio all the variants agree on. -/
def productConversionFactor (variants : List CatalogueVariant) :
    Except Failure ConversionFactor :=
  match variants with
  | [] =>
    .error (validation "This product has no variants to record marketplace stock against.")
  | v :: rest =>
    -- both sets have one element exactly when nothing differs from the first variant
    if rest.any fun w => w.packSize != v.packSize || w.packetsPerBox != v.packetsPerBox then
      .error (validation ("This product's SKUs use different pack sizes, so a single " ++
        "product-level packet quantity cannot be converted to a deterministic stock change. " ++
        "Record this movement per SKU instead, or standardize the product's pack sizes first."))
    else .ok ⟨v.packSize, v.packetsPerBox, v.packSize_pos, v.packetsPerBox_pos⟩

/-- `_ceil_div(quantity_packets * pack_size, packets_per_box)`. -/
def ConversionFactor.outers (factor : ConversionFactor) (quantityPackets : Int) : Int :=
  ceilDiv (quantityPackets * factor.packSize) factor.packetsPerBox

/-- `InventoryService.list_variants_for_product`. -/
def listVariantsForProduct (productId : UUID) : Call (List CatalogueVariant) := do
  let product ← Txn.select fun db => db.getProduct productId
  let _ ← Txn.orRaise product (notFound "Product not found.")
  Txn.select fun db => db.variantsForProduct productId

/-- The scope of a movement and the variants that decide its conversion. -/
structure MarketplaceScope where
  catalogVariantId : Option UUID
  variants : List CatalogueVariant

/-- `_resolve_marketplace_scope`: a product with two or more catalogue variants is tracked per
variant, any other as a whole. -/
def resolveMarketplaceScope (productId : UUID) (catalogVariantId : Option UUID) :
    Call MarketplaceScope := do
  let variants ← listVariantsForProduct productId
  let cvs ← Txn.select fun db => db.catalogVariantsForProduct productId
  if 2 ≤ cvs.length then do
    let cv ← Txn.orRaise catalogVariantId (validation
      ("This product's marketplace stock is tracked per variant -- choose which " ++
        "variant (e.g. Gold Packet) this movement belongs to."))
    Txn.raiseIf (cv ∉ cvs.map (·.id))
      (validation "That variant does not belong to this product.")
    pure ⟨some cv, variants.filter fun v => v.catalogVariantId == some cv⟩
  else do
    Txn.raiseIf (catalogVariantId ≠ none) (validation
      ("This product's marketplace stock is not tracked per variant; " ++
        "do not send a variant."))
    pure ⟨none, variants⟩

/-- `OmsVariantGroup`: one OMS-visible variant. -/
structure OmsVariantGroup where
  catalogVariantId : Option UUID
  name : String
  displayOrder : Int
  isActive : Bool
  variants : List CatalogueVariant

/-- `(g.display_order, g.name.lower())`, compared. -/
def OmsVariantGroup.le [PyText] (a b : OmsVariantGroup) : Prop :=
  a.displayOrder < b.displayOrder ∨
    a.displayOrder = b.displayOrder ∧ ¬ PyText.lower b.name < PyText.lower a.name

instance [PyText] (a b : OmsVariantGroup) : Decidable (a.le b) :=
  inferInstanceAs (Decidable (_ ∨ _))

/-- `title_override or title or sku`. -/
def CatalogueVariant.displayName (v : CatalogueVariant) : String :=
  (pyOr v.titleOverride (pyOr v.title (some v.sku))).getD v.sku

/-- `members`: the variants, by the catalogue variant they are linked to. -/
abbrev Members := Buckets (Option UUID) CatalogueVariant

/-- The group of each listed catalogue variant, with the members it pops, and the buckets that
are left. -/
def catalogGroups : List CatalogVariant → Members → List OmsVariantGroup × Members
  | [], members => ([], members)
  | cv :: rest, members =>
    let (groups, left) := catalogGroups rest (members.without (some cv.id))
    ({ catalogVariantId := some cv.id, name := cv.name, displayOrder := cv.displayOrder,
       isActive := cv.isActive, variants := members.bucket (some cv.id) } :: groups, left)

/-- The implicit group of a variant that no listed catalogue variant claims. -/
def implicitGroup (entry : CatalogueVariant × ℕ) : OmsVariantGroup where
  catalogVariantId := none
  name := entry.1.displayName
  displayOrder := 10000 + entry.2
  isActive := true
  variants := [entry.1]

/-- `(v.title_override or v.title or v.sku).lower()`, compared. -/
def CatalogueVariant.nameLe [PyText] (v w : CatalogueVariant) : Prop :=
  ¬ PyText.lower w.displayName < PyText.lower v.displayName

instance [PyText] (v w : CatalogueVariant) : Decidable (v.nameLe w) :=
  inferInstanceAs (Decidable (¬ _))

/-- The groups of `get_oms_variants_for_product`: one for each catalogue variant, one for each
variant left over. -/
def omsVariantGroups [PyText] (variants : List CatalogueVariant) (catalog : List CatalogVariant) :
    List OmsVariantGroup :=
  let (groups, left) := catalogGroups catalog (Buckets.bucketBy (·.catalogVariantId) variants)
  let leftover := left.values.insertionSort CatalogueVariant.nameLe
  (groups ++ leftover.zipIdx.map implicitGroup).insertionSort OmsVariantGroup.le

/-- `InventoryService.get_oms_variants_for_product`. -/
def getOmsVariantsForProduct [PyText] (productId : UUID) : Call (List OmsVariantGroup) := do
  let variants ← listVariantsForProduct productId
  let catalog ← Txn.select fun db => db.catalogVariantsForProduct productId
  pure (omsVariantGroups variants catalog)

/-! ## Section 4: The OMS total -/

def totalAvailable (variants : List CatalogueVariant) : Int :=
  (variants.map fun v => v.availableQuantity).sum

/-- `InventoryService.get_catalog_variant_total`. -/
def getCatalogVariantTotal (catalogVariantId : UUID) : Call Int := do
  let members ← Txn.select fun db => db.variantsForCatalogVariant catalogVariantId
  let adjustmentTotal ← Txn.select fun db => db.sumForScope (.catalogVariant catalogVariantId)
  pure (totalAvailable members + adjustmentTotal)

/-- `InventoryService.get_product_total`. -/
def getProductTotal (productId : UUID) : Call Int := do
  let variants ← Txn.select fun db => db.variantsForProduct productId
  let cvTotals ← Txn.select fun db => db.sumByProduct productId
  let productLevel ← Txn.select fun db => db.sumForScope (.product productId)
  pure (totalAvailable variants + cvTotals + productLevel)

/-- The total an adjustment of this scope starts from. -/
def previousTotal : AdjustmentScope → Call Int
  | .catalogVariant id => getCatalogVariantTotal id
  | .product id => getProductTotal id

/-- The scope of an adjustment: forced to the product, given, or resolved from the product
when it has exactly one real catalogue variant. -/
def resolveAdjustmentScope [PyText] (productId : UUID) (catalogVariantId : Option UUID)
    (productLevel : Bool) : Call AdjustmentScope :=
  if productLevel then pure (.product productId)
  else
    match catalogVariantId with
    | some cv => pure (.catalogVariant cv)
    | none => do
      let groups ← getOmsVariantsForProduct productId
      match groups with
      | [{ catalogVariantId := some cv, .. }] => pure (.catalogVariant cv)
      | _ => pure (.product productId)

/-- `InventoryService.apply_marketplace_stock_effect`. -/
def applyMarketplaceStockEffect [PyText] (productId : UUID) (quantityDelta : Int)
    (reason : String) (actor : Option UUID) (productMarketplaceMovementId : UUID)
    (catalogVariantId : Option UUID) (productLevel : Bool) :
    Call CatalogVariantStockAdjustment := do
  let scope ← resolveAdjustmentScope productId catalogVariantId productLevel
  let total ← previousTotal scope
  let adjustment : CatalogVariantStockAdjustment := {
    scope := scope
    productMarketplaceMovementId := some productMarketplaceMovementId
    quantityDelta := quantityDelta
    quantityAfter := total + quantityDelta
    reason := (reason.take 255).toString
    actorUserId := actor }
  Txn.flush (.adjustment adjustment)
  Txn.flush (.auditLog "inventory.marketplace_stock_effect")
  pure adjustment

/-! ## Section 5: The product ledger -/

/-- `_latest_balance`. -/
def latestBalance (key : MarketplaceKey) (asOf : Date) : Call Int := do
  let latest ← Txn.select fun db => db.productLatestAsOf key asOf
  pure ((latest.map (·.quantityAfter)).getD 0)

/-- `_append_movement`: one row, starting from the balance given, and its audit entry. -/
def appendMovement (row : ProductMarketplaceMovement) (previousQuantity : Int) :
    Call ProductMarketplaceMovement := do
  let movement := { row with quantityAfter := previousQuantity + row.quantityDelta }
  Txn.flush (.productMovement movement)
  Txn.flush (.auditLog "inventory.product_marketplace_movement")
  pure movement

/-- `_movement_label`. -/
def movementLabel (platform : String) (movementType : ProductMarketplaceMovementType) : String :=
  let label := InventoryPlatform.label platform
  let kind := if movementType = .sale then "sale" else "RTO"
  s!"{label} {kind}"

/-- A sale takes its outers out of the balance, an RTO puts them back. -/
def signedOuters (movementType : ProductMarketplaceMovementType) (outers : Int) : Int :=
  if movementType = .sale then -outers else outers

/-- The reason of the OMS-side row of a recorded movement. -/
def omsReason (label : String) (quantityPackets : Int) (reason : Option String) : String :=
  match reason with
  | none => s!"{label}: {quantityPackets} packets"
  | some text => s!"{label}: {quantityPackets} packets - {text}"

/-- `PlatformInventoryService.record_product_movement`. -/
def recordProductMovement [PyText] (productId : UUID) (platform : String)
    (movementType : ProductMarketplaceMovementType) (quantityPackets : Int)
    (reason : Option String) (stockDate : Option Date) (actor : Option UUID)
    (catalogVariantId : Option UUID) (today : Date) (movementId : UUID) :
    Call ProductMarketplaceMovement := do
  Txn.raiseIf (movementType ≠ .sale ∧ movementType ≠ .rto)
    (validation "Only a Sale or an RTO can be recorded for a marketplace.")
  Txn.raiseIf (quantityPackets ≤ 0) (validation "Quantity must be a positive number.")
  Txn.raiseIf (platform ∉ InventoryPlatform.ALL) (unknownPlatform platform)
  let scope ← resolveMarketplaceScope productId catalogVariantId
  let factor ← Txn.ofExcept (productConversionFactor scope.variants)
  let resolvedDate := stockDate.getD today
  let previousQuantity ←
    latestBalance ⟨productId, scope.catalogVariantId, platform⟩ resolvedDate
  -- a sale may take the balance below zero
  let delta := signedOuters movementType (factor.outers quantityPackets)
  let cleanedReason := cleanReason reason
  Txn.atomically id do
    let movement ← appendMovement
      { id := movementId
        productId := productId
        catalogVariantId := scope.catalogVariantId
        platform := platform
        movementType := movementType
        quantityPackets := quantityPackets
        quantityDelta := delta
        quantityAfter := 0
        stockDate := resolvedDate
        reason := cleanedReason
        actorUserId := actor }
      previousQuantity
    let _ ← applyMarketplaceStockEffect productId delta
      (omsReason (movementLabel platform movementType) quantityPackets cleanedReason) actor
      movement.id scope.catalogVariantId false
    pure movement

/-! ## Section 6: Corrections -/

def alreadyCorrected : Failure :=
  validation "This movement has already been undone or edited."

/-- `except IntegrityError`: another caller's correction came first. -/
def correctionFailure : Failure → Failure
  | .integrityError => alreadyCorrected
  | failure => failure

/-- `_load_correctable`. -/
def loadCorrectable (movementId : UUID) : Call ProductMarketplaceMovement := do
  let found ← Txn.select fun db => db.getMovement movementId
  let original ← Txn.orRaise found (notFound "Marketplace movement not found.")
  Txn.raiseIf (original.platform ∉ InventoryPlatform.ALL) (validation
    "Shopify's stock is automatic and synced; it cannot be edited or undone here.")
  Txn.raiseIf (original.movementType ≠ .sale ∧ original.movementType ≠ .rto) (validation
    "Only a manually recorded Sale or RTO can be edited or undone (a reversal cannot).")
  let reversed ← Txn.select fun db => db.reversedIds [original.id]
  Txn.raiseIf (reversed ≠ []) alreadyCorrected
  pure original

/-- `_append_reversal`: the negative of the original on the marketplace ledger, and of what
the original actually wrote on the OMS ledger. -/
def appendReversal [PyText] (original : ProductMarketplaceMovement) (reason : String)
    (actor : Option UUID) (stockDate : Date) (previousQuantity : Int) (reversalId : UUID) :
    Call ProductMarketplaceMovement := do
  let reversal ← appendMovement
    { id := reversalId
      productId := original.productId
      catalogVariantId := original.catalogVariantId
      platform := original.platform
      movementType := .reversal
      quantityPackets := original.quantityPackets
      quantityDelta := -original.quantityDelta
      quantityAfter := 0
      stockDate := stockDate
      reason := some reason
      actorUserId := actor
      reversesMovementId := some original.id }
    previousQuantity
  let originalEffect ← Txn.select fun db => db.getForMovement original.id
  match originalEffect with
  | none => pure reversal
  | some effect => do
    let label := movementLabel original.platform original.movementType
    let packets := original.quantityPackets
    let _ ← applyMarketplaceStockEffect original.productId (-effect.quantityDelta)
      s!"{label} reversed: {packets} packets - {reason}" actor reversal.id
      effect.scope.catalogVariantId (effect.scope.catalogVariantId == none)
    pure reversal

/-- `PlatformInventoryService.undo_movement`. -/
def undoMovement [PyText] (movementId : UUID) (reason : String) (actor : Option UUID)
    (today : Date) (reversalId : UUID) : Call ProductMarketplaceMovement := do
  let cleaned := pyStrip reason
  Txn.raiseIf (pyFalsy cleaned = true) (validation "A reason is required.")
  let original ← loadCorrectable movementId
  Txn.atomically correctionFailure do
    let previous ← latestBalance original.key today
    appendReversal original cleaned actor today previous reversalId

/-- `PlatformInventoryService.edit_movement`. -/
def editMovement [PyText] (movementId : UUID) (quantityPackets : Int) (reason : String)
    (actor : Option UUID) (today : Date) (reversalId replacementId : UUID) :
    Call ProductMarketplaceMovement := do
  let cleaned := pyStrip reason
  Txn.raiseIf (pyFalsy cleaned = true) (validation "A reason is required.")
  Txn.raiseIf (quantityPackets ≤ 0) (validation "Quantity must be a positive number.")
  let original ← loadCorrectable movementId
  Txn.raiseIf (quantityPackets = original.quantityPackets)
    (validation "The new quantity must be different from the current one.")
  let variants ← listVariantsForProduct original.productId
  let scopeVariants :=
    match original.catalogVariantId with
    | some cv => variants.filter fun v => v.catalogVariantId == some cv
    | none => variants
  let factor ← Txn.ofExcept (productConversionFactor scopeVariants)
  let delta := signedOuters original.movementType (factor.outers quantityPackets)
  Txn.atomically correctionFailure do
    let previous ← latestBalance original.key today
    let reversal ← appendReversal original cleaned actor today previous reversalId
    let replacement ← appendMovement
      { id := replacementId
        productId := original.productId
        catalogVariantId := original.catalogVariantId
        platform := original.platform
        movementType := original.movementType
        quantityPackets := quantityPackets
        quantityDelta := delta
        quantityAfter := 0
        stockDate := today
        reason := some cleaned
        actorUserId := actor
        replacesMovementId := some original.id }
      (previous + reversal.quantityDelta)
    let label := movementLabel original.platform original.movementType
    let packets := original.quantityPackets
    let _ ← applyMarketplaceStockEffect original.productId delta
      s!"{label} (edited {packets} -> {quantityPackets}): {quantityPackets} packets - {cleaned}"
      actor replacement.id original.catalogVariantId false
    pure replacement

end AyushOms.Marketplace
