import AyushOms.Lib.Ledger
import AyushOms.Orders.Items
import Mathlib.Algebra.Order.Ring.Int
import Mathlib.Data.List.Perm.Basic

/-!
# Stock: Rows, Tables and Repositories

The rows of `product_variants`, `inventory_movements` and `order_items` that the
inventory service touches, with the constraints of the database carried by the types:
a variant's `pack_size` and `packets_per_box` are positive (the two `CHECK`
constraints), ids and SKUs are unique, and so is a movement's
`(product_variant_id, order_id, movement_type)` whenever `order_id` is set.

The movements table lists its rows in creation order.
-/

namespace AyushOms.Inventory

open AyushOms.Lib AyushOms.Orders

/-! ## Section 1: Rows -/

/-- `ProductVariant`, the columns stock depends on. Quantities are in boxes. -/
structure ProductVariant where
  id : UUID
  sku : String
  packSize : Int := 1
  packetsPerBox : Int := 1
  availableQuantity : Int := 0
  sourceSystem : Option SourceSystem := none
  externalId : Option String := none
  packSize_pos : 0 < packSize := by decide
  packetsPerBox_pos : 0 < packetsPerBox := by decide
  deriving DecidableEq, Repr

/-- `InventoryMovement`: one row of the stock ledger. -/
structure InventoryMovement where
  productVariantId : UUID
  movementType : InventoryMovementType
  quantityDelta : Int
  quantityAfter : Int
  orderId : Option UUID := none
  shipmentId : Option UUID := none
  rtoId : Option UUID := none
  actorUserId : Option UUID := none
  reason : Option String := none
  deriving DecidableEq, Repr

/-! ## Section 2: Constraints and tables -/

/-- The unique columns of `product_variants`. -/
inductive VariantKey where
  | id (id : UUID)
  | sku (sku : String)
  | external (key : SourceSystem × String)
  deriving DecidableEq

/-- The keys a variant row occupies. -/
def ProductVariant.keys (v : ProductVariant) : List VariantKey :=
  .id v.id :: .sku v.sku :: (externalKey v.sourceSystem v.externalId).map .external

/-- `uq_inventory_movements_variant_order_type`. A row whose `order_id` is `NULL` occupies
no key. -/
def InventoryMovement.keys (m : InventoryMovement) :
    List (UUID × UUID × InventoryMovementType) :=
  match m.orderId with
  | some orderId => [(m.productVariantId, orderId, m.movementType)]
  | none => []

abbrev VariantTable := Table ProductVariant VariantKey ProductVariant.keys

abbrev MovementTable :=
  Table InventoryMovement (UUID × UUID × InventoryMovementType) InventoryMovement.keys

theorem InventoryMovement.keys_nodup (m : InventoryMovement) : m.keys.Nodup := by
  unfold InventoryMovement.keys
  cases m.orderId <;> simp

theorem InventoryMovement.mem_keys {m : InventoryMovement} {v o : UUID}
    {t : InventoryMovementType} :
    (v, o, t) ∈ m.keys ↔ m.orderId = some o ∧ m.productVariantId = v ∧ m.movementType = t := by
  unfold InventoryMovement.keys
  cases m.orderId with
  | none => simp
  | some o' =>
    simp only [List.mem_singleton, Prod.mk.injEq, Option.some.injEq]
    constructor
    · rintro ⟨rfl, rfl, rfl⟩
      exact ⟨rfl, rfl, rfl⟩
    · rintro ⟨rfl, rfl, rfl⟩
      exact ⟨rfl, rfl, rfl⟩

/-- The part of the database that stock lives in. -/
structure Stock where
  variants : VariantTable := Table.empty
  movements : MovementTable := Table.empty
  orderItems : ItemTable := Table.empty
  deriving DecidableEq

namespace Stock

/-! ## Section 3: Repositories -/

/-- `ProductVariantRepository.get_by_id`. -/
def getById (s : Stock) (id : UUID) : Option ProductVariant :=
  s.variants.find? fun v => v.id == id

/-- `ProductVariantRepository.get_by_sku`. -/
def getBySku (s : Stock) (sku : String) : Option ProductVariant :=
  s.variants.find? fun v => v.sku == sku

/-- `OrderItemRepository.list_for_order`. -/
def listForOrder (s : Stock) (orderId : UUID) : List OrderItem :=
  s.orderItems.rows.filter fun item => item.orderId == orderId

/-- The `WHERE` clause of `get_for_order`. -/
def matchesOrder (orderId variantId : UUID) (type : InventoryMovementType)
    (m : InventoryMovement) : Bool :=
  m.orderId == some orderId && m.productVariantId == variantId && m.movementType == type

/-- `InventoryMovementRepository.get_for_order`: the earliest row of the key. -/
def getForOrder (s : Stock) (orderId variantId : UUID) (type : InventoryMovementType) :
    Option InventoryMovement :=
  s.movements.find? (matchesOrder orderId variantId type)

/-- `InventoryMovementRepository.exists_for_order`. -/
def existsForOrder (s : Stock) (orderId variantId : UUID) (type : InventoryMovementType) :
    Bool :=
  (s.getForOrder orderId variantId type).isSome

/-- A variant's ledger in creation order. -/
def movementsOf (s : Stock) (variantId : UUID) : List InventoryMovement :=
  s.movements.rows.filter fun m => m.productVariantId == variantId

theorem getById_eq_some {s : Stock} {id : UUID} {v : ProductVariant} :
    s.getById id = some v ↔ v ∈ s.variants.rows ∧ v.id = id := by
  constructor
  · intro h
    exact ⟨Table.mem_of_find?_eq_some h, by simpa using List.find?_some h⟩
  · rintro ⟨hv, rfl⟩
    exact s.variants.find?_eq_some_of_mem (k := .id v.id) hv (by simp)
      (by simp +contextual [ProductVariant.keys])

/-- Ids are unique. -/
theorem eq_of_id_eq {s : Stock} {v v' : ProductVariant} (hv : v ∈ s.variants.rows)
    (hv' : v' ∈ s.variants.rows) (hid : v'.id = v.id) : v' = v :=
  s.variants.eq_of_shared_key (k := .id v.id) hv' hv (by simp [ProductVariant.keys, hid])
    (by simp [ProductVariant.keys])

theorem matchesOrder_iff {o v : UUID} {t : InventoryMovementType} {m : InventoryMovement} :
    matchesOrder o v t m = true ↔ (v, o, t) ∈ m.keys := by
  simp only [matchesOrder, Bool.and_eq_true, beq_iff_eq, InventoryMovement.mem_keys, and_assoc]

theorem existsForOrder_iff {s : Stock} {o v : UUID} {t : InventoryMovementType} :
    s.existsForOrder o v t = true ↔ ∃ m ∈ s.movements.rows, (v, o, t) ∈ m.keys := by
  unfold existsForOrder getForOrder Table.find?
  rw [List.find?_isSome]
  exact exists_congr fun m => and_congr_right fun _ => matchesOrder_iff

/-- At most one row is recorded for an order, a variant and a movement type. -/
theorem length_filter_matchesOrder_le_one (s : Stock) (o v : UUID)
    (t : InventoryMovementType) :
    (s.movements.rows.filter (matchesOrder o v t)).length ≤ 1 :=
  s.movements.length_filter_le_one (k := (v, o, t)) fun _ => matchesOrder_iff.mp

end Stock

end AyushOms.Inventory
