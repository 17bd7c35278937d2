import AyushOms.Inventory.Model

/-!
# The Inventory Service

`app.services.inventory_service.InventoryService`: the two automatic movements driven by
Shiprocket tracking (`apply_dispatch`, `apply_rto_restock`), the manual addition
(`add_stock`) and the two conversion settings (`update_pack_size`,
`update_packets_per_box`).

The automatic movements read the stock, compute an absolute quantity together with the
ledger row that explains it, and write both inside a SAVEPOINT. Reading and computing is
`planItem`, the write is `recordMovement`; keeping the two apart is what lets the same
definitions describe calls that run one after another and calls that interleave.
-/

namespace AyushOms.Inventory

open AyushOms.Lib AyushOms.Orders

/-! ## Section 1: Boxes -/

/-- `_ceil_div`, with Python's floor division. -/
def ceilDiv (numerator denominator : Int) : Int :=
  -((-numerator).fdiv denominator)

example : ceilDiv 130 60 = 3 := by decide

/-- How many boxes an order line consumes. -/
def boxesFor (item : OrderItem) (variant : ProductVariant) : Int :=
  ceilDiv (item.quantity * variant.packSize) variant.packetsPerBox

namespace Stock

/-- `_resolve_variant`: the linked variant when it exists, else the one with the SKU. -/
def resolveVariant (s : Stock) (productVariantId : Option UUID) (sku : String) :
    Option ProductVariant :=
  match productVariantId.bind s.getById with
  | some variant => some variant
  | none => s.getBySku sku

/-! ## Section 2: Writes -/

/-- `ProductVariantRepository.update` of columns that occupy no key. -/
def updateVariant (s : Stock) (variantId : UUID)
    (f : Table.KeyPreserving ProductVariant.keys) : Stock :=
  { s with variants := s.variants.modify (fun v => v.id == variantId) f }

/-- `update(variant, available_quantity=new_quantity)`. -/
def setAvailable (s : Stock) (variantId : UUID) (quantity : Int) : Stock :=
  s.updateVariant variantId ⟨fun v => { v with availableQuantity := quantity }, fun _ => rfl⟩

/-- The SAVEPOINT: set the variant's quantity to the one the row records and insert the
row, or unwind both when the row's key is taken (`IntegrityError`). -/
def recordMovement (s : Stock) (m : InventoryMovement) : Stock :=
  match s.movements.insert? m with
  | none => s
  | some movements =>
    { s.setAvailable m.productVariantId m.quantityAfter with movements := movements }

/-- The SAVEPOINT for a line that planned a row, nothing for a skipped line. -/
def recordPlanned (s : Stock) (planned : Option InventoryMovement) : Stock :=
  match planned with
  | none => s
  | some m => s.recordMovement m

/-! ## Section 3: Automatic movements -/

/-- What `apply_dispatch` and `apply_rto_restock` do differently. -/
structure AutoMovement where
  movementType : InventoryMovementType
  quantityDelta : Stock → UUID → OrderItem → ProductVariant → Int
  shipmentId : Option UUID
  rtoId : Option UUID
  reason : String

/-- `apply_dispatch` takes the line's boxes out. -/
def dispatchMovement (shipmentId : UUID) : AutoMovement where
  movementType := .dispatch
  quantityDelta _ _ item variant := -boxesFor item variant
  shipmentId := some shipmentId
  rtoId := none
  reason := "Shiprocket dispatch"

/-- `apply_rto_restock` puts back what the order's own dispatch row took, or a fresh
conversion when no dispatch was ever recorded. -/
def rtoRestockMovement (rtoId : UUID) : AutoMovement where
  movementType := .rtoRestock
  quantityDelta s orderId item variant :=
    match s.getForOrder orderId variant.id .dispatch with
    | some dispatchMovement => dispatchMovement.quantityDelta.natAbs
    | none => boxesFor item variant
  shipmentId := none
  rtoId := some rtoId
  reason := "Shiprocket RTO received"

/-- The body of the loop over an order's lines, up to the write: `none` when the line is
skipped (nothing ordered, unresolved SKU, already recorded). -/
def planItem (kind : AutoMovement) (orderId : UUID) (s : Stock) (item : OrderItem) :
    Option InventoryMovement :=
  if item.quantity ≤ 0 then none
  else
    -- an unresolvable SKU is logged and skipped
    match s.resolveVariant item.productVariantId item.sku with
    | none => none
    | some variant =>
      if s.existsForOrder orderId variant.id kind.movementType then none
      else
        let quantityDelta := kind.quantityDelta s orderId item variant
        some {
          productVariantId := variant.id
          movementType := kind.movementType
          quantityDelta := quantityDelta
          quantityAfter := variant.availableQuantity + quantityDelta
          orderId := some orderId
          shipmentId := kind.shipmentId
          rtoId := kind.rtoId
          reason := some kind.reason }

/-- One turn of the loop over an order's lines. -/
def itemStep (kind : AutoMovement) (orderId : UUID) (s : Stock) (item : OrderItem) : Stock :=
  s.recordPlanned (planItem kind orderId s item)

/-- The loop over the lines, each in the state the lines before it left. -/
def applyItems (kind : AutoMovement) (orderId : UUID) (s : Stock) (items : List OrderItem) :
    Stock :=
  items.foldl (itemStep kind orderId) s

/-- `InventoryService.apply_dispatch`. -/
def applyDispatch (s : Stock) (orderId shipmentId : UUID) : Stock :=
  applyItems (dispatchMovement shipmentId) orderId s (s.listForOrder orderId)

/-- `InventoryService.apply_rto_restock`. -/
def applyRtoRestock (s : Stock) (orderId rtoId : UUID) : Stock :=
  applyItems (rtoRestockMovement rtoId) orderId s (s.listForOrder orderId)

/-! ## Section 4: Staff-initiated writes -/

/-- `add_stock` up to its write: the row of the addition. -/
def planAddStock (s : Stock) (variantId : UUID) (quantityToAdd : Int) (reason : String)
    (actor : Option UUID) : Except OMSError InventoryMovement :=
  if quantityToAdd ≤ 0 then
    .error (.validation "Quantity to add must be a positive number.")
  else if pyFalsy reason || pyFalsy (pyStrip reason) then
    .error (.validation "A reason is required for a manual stock adjustment.")
  else
    match s.getById variantId with
    | none => .error (.notFound "Product variant not found.")
    | some variant =>
      .ok {
        productVariantId := variant.id
        movementType := .manualAdjustment
        quantityDelta := quantityToAdd
        quantityAfter := variant.availableQuantity + quantityToAdd
        reason := some (pyStrip reason)
        actorUserId := actor }

/-- `InventoryService.add_stock`. -/
def addStock (s : Stock) (variantId : UUID) (quantityToAdd : Int) (reason : String)
    (actor : Option UUID) : Except OMSError (InventoryMovement × Stock) := do
  let movement ← s.planAddStock variantId quantityToAdd reason actor
  return (movement, s.recordMovement movement)

/-- The two conversion settings are updated alike: a positive value, an existing variant,
no write when the value is the present one. -/
def updateSetting (s : Stock) (variantId : UUID) (value : Int) (message : String)
    (current : ProductVariant → Int)
    (set : 0 < value → Table.KeyPreserving ProductVariant.keys) : Except OMSError Stock :=
  if h : value ≤ 0 then .error (.validation message)
  else
    match s.getById variantId with
    | none => .error (.notFound "Product variant not found.")
    | some variant =>
      -- the present value again: no write, no audit row
      if current variant = value then .ok s
      else .ok (s.updateVariant variantId (set (Int.not_le.mp h)))

/-- `InventoryService.update_packets_per_box`. -/
def updatePacketsPerBox (s : Stock) (variantId : UUID) (packetsPerBox : Int) :
    Except OMSError Stock :=
  s.updateSetting variantId packetsPerBox "Packets per box must be a positive integer."
    (·.packetsPerBox) fun h =>
      ⟨fun v => { v with packetsPerBox := packetsPerBox, packetsPerBox_pos := h }, fun _ => rfl⟩

/-- `InventoryService.update_pack_size`. -/
def updatePackSize (s : Stock) (variantId : UUID) (packSize : Int) : Except OMSError Stock :=
  s.updateSetting variantId packSize "Pack size must be a positive integer."
    (·.packSize) fun h =>
      ⟨fun v => { v with packSize := packSize, packSize_pos := h }, fun _ => rfl⟩

/-- One line an order has too few boxes for. -/
structure Shortage where
  sku : String
  productName : String
  available : Int
  required : Int
  requiredPackets : Int
  deriving DecidableEq, Repr

/-- `InventoryService.check_stock_available`: the lines the stock does not cover. -/
def checkStockAvailable (s : Stock) (orderId : UUID) : List Shortage :=
  (s.listForOrder orderId).filterMap fun item =>
    if item.quantity ≤ 0 then none
    else
      match s.resolveVariant item.productVariantId item.sku with
      | none => none
      | some variant =>
        let requiredBoxes := boxesFor item variant
        if variant.availableQuantity < requiredBoxes then
          some {
            sku := item.sku
            productName := item.productName
            available := variant.availableQuantity
            required := requiredBoxes
            requiredPackets := item.quantity }
        else none

/-! ## Section 5: What each piece does -/

theorem resolveVariant_mem {s : Stock} {p : Option UUID} {sku : String} {v : ProductVariant}
    (h : s.resolveVariant p sku = some v) : v ∈ s.variants.rows := by
  unfold resolveVariant at h
  split at h
  · rename_i v' hbind
    cases h
    obtain ⟨id, _, hid⟩ := Option.bind_eq_some_iff.mp hbind
    exact (getById_eq_some.mp hid).1
  · exact Table.mem_of_find?_eq_some h

/-- A line plans a row exactly when it orders something, resolves to a variant and has no
row of the kind yet; the row starts from the variant's quantity in the state read. -/
theorem planItem_eq_some_iff {kind : AutoMovement} {orderId : UUID} {s : Stock}
    {item : OrderItem} {m : InventoryMovement} :
    planItem kind orderId s item = some m ↔
      0 < item.quantity ∧ ∃ v, s.resolveVariant item.productVariantId item.sku = some v ∧
        s.existsForOrder orderId v.id kind.movementType = false ∧
        m = { productVariantId := v.id
              movementType := kind.movementType
              quantityDelta := kind.quantityDelta s orderId item v
              quantityAfter := v.availableQuantity + kind.quantityDelta s orderId item v
              orderId := some orderId
              shipmentId := kind.shipmentId
              rtoId := kind.rtoId
              reason := some kind.reason } := by
  unfold planItem
  by_cases hq : item.quantity ≤ 0
  · simp [hq]
  · have hpos : 0 < item.quantity := by omega
    cases hres : s.resolveVariant item.productVariantId item.sku with
    | none => simp [hq]
    | some v =>
      cases hex : s.existsForOrder orderId v.id kind.movementType with
      | true => simp [hq, hex]
      | false =>
        simp only [hq, if_false, hex, Bool.false_eq_true, Option.some.injEq, hpos, true_and]
        constructor
        · intro hm
          exact ⟨v, rfl, hex, hm.symm⟩
        · rintro ⟨_, rfl, _, hm⟩
          exact hm.symm

/-- A line is skipped exactly when it orders nothing, does not resolve, or has its row. -/
theorem planItem_eq_none_iff {kind : AutoMovement} {orderId : UUID} {s : Stock}
    {item : OrderItem} :
    planItem kind orderId s item = none ↔
      (0 < item.quantity → ∀ v, s.resolveVariant item.productVariantId item.sku = some v →
        s.existsForOrder orderId v.id kind.movementType = true) := by
  unfold planItem
  by_cases hq : item.quantity ≤ 0
  · have hpos : ¬ 0 < item.quantity := by omega
    simp [hq, hpos]
  · have hpos : 0 < item.quantity := by omega
    cases hres : s.resolveVariant item.productVariantId item.sku with
    | none => simp [hq]
    | some v =>
      cases hex : s.existsForOrder orderId v.id kind.movementType <;> simp [hq, hpos, hex]

/-- A successful addition records a row computed from the variant's present quantity, and
the row occupies no key. -/
theorem planAddStock_eq_ok {s : Stock} {variantId : UUID} {quantityToAdd : Int}
    {reason : String} {actor : Option UUID} {m : InventoryMovement}
    (h : s.planAddStock variantId quantityToAdd reason actor = .ok m) :
    ∃ v ∈ s.variants.rows, v.id = variantId ∧ 0 < quantityToAdd ∧
      m = { productVariantId := v.id
            movementType := .manualAdjustment
            quantityDelta := quantityToAdd
            quantityAfter := v.availableQuantity + quantityToAdd
            reason := some (pyStrip reason)
            actorUserId := actor } := by
  unfold planAddStock at h
  split at h
  · cases h
  · split at h
    · cases h
    · split at h
      · cases h
      · rename_i hq _ v hv
        obtain ⟨hmem, hid⟩ := getById_eq_some.mp hv
        cases h
        exact ⟨v, hmem, hid, by omega, rfl⟩

/-- The variants after an update: its own row rewritten, the others as they were. -/
theorem mem_updateVariant {s : Stock} {variantId : UUID}
    {f : Table.KeyPreserving ProductVariant.keys} {v' : ProductVariant} :
    v' ∈ (s.updateVariant variantId f).variants.rows ↔ ∃ v ∈ s.variants.rows,
      (v.id = variantId ∧ v' = f v) ∨ (v.id ≠ variantId ∧ v' = v) := by
  unfold updateVariant
  rw [Table.mem_modify]
  simp only [beq_iff_eq, ne_eq]

/-- A successful update of a setting writes nothing or one variant's setting. -/
theorem updateSetting_eq_ok {s s' : Stock} {variantId : UUID} {value : Int}
    {message : String} {current : ProductVariant → Int}
    {set : 0 < value → Table.KeyPreserving ProductVariant.keys}
    (h : s.updateSetting variantId value message current set = .ok s') :
    s' = s ∨ ∃ hpos, s' = s.updateVariant variantId (set hpos) := by
  unfold updateSetting at h
  split at h
  · cases h
  · split at h
    · cases h
    · split at h
      · exact .inl (Except.ok.inj h).symm
      · exact .inr ⟨_, (Except.ok.inj h).symm⟩

/-- The variants after a quantity is set. -/
theorem mem_setAvailable {s : Stock} {variantId : UUID} {quantity : Int}
    {v' : ProductVariant} :
    v' ∈ (s.setAvailable variantId quantity).variants.rows ↔ ∃ v ∈ s.variants.rows,
      (v.id = variantId ∧ v' = { v with availableQuantity := quantity }) ∨
      (v.id ≠ variantId ∧ v' = v) :=
  mem_updateVariant

/-- A refused row leaves the stock as it was. -/
theorem recordMovement_of_refused {s : Stock} {m : InventoryMovement}
    (h : s.movements.insert? m = none) : s.recordMovement m = s := by
  simp only [recordMovement, h]

/-- An accepted row sets its variant's quantity and ends the ledger. -/
theorem recordMovement_of_accepted {s : Stock} {m : InventoryMovement} {t : MovementTable}
    (h : s.movements.insert? m = some t) :
    s.recordMovement m =
      { s.setAvailable m.productVariantId m.quantityAfter with movements := t } := by
  simp only [recordMovement, h]

end Stock

end AyushOms.Inventory
