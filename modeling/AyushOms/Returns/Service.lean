import AyushOms.Lib.Decimal
import AyushOms.Orders.Model

/-!
# Returns and Refunds

`app.services.return_service.ReturnService`: recording a return, moving it through its
statuses, and the refund that completing it creates. The rows come first; each call is then a
function of the database that either raises or gives the database after its commit.
-/

namespace AyushOms.Returns

open AyushOms.Lib AyushOms.Orders

/-! ## Section 1: Rows and tables -/

/-- The largest value of an `Integer` column. -/
def maxInteger : ℤ := 2 ^ 31 - 1

/-- A `Numeric(12, 2)` column holds what is below this in absolute value. -/
def numericLimit : ℚ := 10 ^ 10

/-- The columns of `order_items` that a refund reads. -/
structure PricedItem where
  id : UUID
  orderId : UUID
  quantity : ℤ
  totalAmount : ℚ
  totalAmount_lt : |totalAmount| < numericLimit
  deriving DecidableEq

structure Return where
  id : UUID
  orderId : UUID
  orderItemId : Option UUID
  customerId : Option UUID
  reason : Option String
  status : ReturnStatus := .requested
  quantity : ℤ := 1
  requestedAt : Option Instant := none
  approvedAt : Option Instant := none
  receivedAt : Option Instant := none
  completedAt : Option Instant := none
  notes : Option String := none
  sourceSystem : Option SourceSystem := none
  deriving DecidableEq

structure Refund where
  id : UUID
  orderId : UUID
  returnId : Option UUID
  amount : ℚ
  reason : Option String
  status : RefundStatus := .pending
  initiatedAt : Option Instant := none
  sourceSystem : Option SourceSystem := none
  deriving DecidableEq

abbrev PricedItemTable := Table PricedItem UUID fun item => [item.id]
abbrev ReturnTable := Table Return UUID fun r => [r.id]
abbrev RefundTable := Table Refund UUID fun f => [f.id]

/-- The tables the return service reads and writes, with the foreign keys of a return and the
one of a refund to its return. -/
structure ReturnsDB where
  shop : OrdersDB := {}
  orderItems : PricedItemTable := Table.empty
  returns : ReturnTable := Table.empty
  refunds : RefundTable := Table.empty
  return_order : ∀ r ∈ returns.rows, ∃ o ∈ shop.orders.rows, o.id = r.orderId := by simp
  return_item : ∀ r ∈ returns.rows, ∀ id ∈ r.orderItemId, ∃ item ∈ orderItems.rows,
    item.id = id := by simp
  refund_return : ∀ f ∈ refunds.rows, ∀ id ∈ f.returnId, ∃ r ∈ returns.rows, r.id = id := by
    simp

/-- `ReturnCreateRequest`; the schema refuses a quantity that is not positive. -/
structure ReturnCreateRequest where
  orderId : UUID
  orderItemId : Option UUID := none
  customerId : Option UUID := none
  reason : Option String := none
  quantity : ℤ := 1
  quantity_pos : 0 < quantity := by decide

/-- `ReturnUpdateRequest`. -/
structure ReturnUpdateRequest where
  status : Option ReturnStatus := none
  notes : Option String := none
  deriving DecidableEq

namespace ReturnsDB

/-! ## Section 2: Reads -/

/-- `ReturnRepository.get_by_id`. -/
def getReturn (db : ReturnsDB) (id : UUID) : Option Return := db.returns.find? fun r => r.id == id

/-- `OrderItemRepository.get_by_id`. -/
def getItem (db : ReturnsDB) (id : UUID) : Option PricedItem :=
  db.orderItems.find? fun item => item.id == id

/-- What `RefundRepository.get_by_return_id` selects. -/
def refundsOfReturn (db : ReturnsDB) (returnId : UUID) : List Refund :=
  db.refunds.rows.filter fun f => f.returnId == some returnId

/-- `RefundRepository.list_for_order`. -/
def refundsForOrder (db : ReturnsDB) (orderId : UUID) : List Refund :=
  db.refunds.rows.filter fun f => f.orderId == orderId

/-- `ReturnRepository.list_for_order`. -/
def returnsForOrder (db : ReturnsDB) (orderId : UUID) : List Return :=
  db.returns.rows.filter fun r => r.orderId == orderId

theorem getReturn_eq_some {db : ReturnsDB} {id : UUID} {r : Return} :
    db.getReturn id = some r ↔ r ∈ db.returns.rows ∧ r.id = id := by
  constructor
  · intro h
    exact ⟨Table.mem_of_find?_eq_some h, by simpa using List.find?_some h⟩
  · rintro ⟨hr, rfl⟩
    exact db.returns.find?_eq_some_of_mem (k := r.id) hr (by simp) (by simp +contextual)

theorem getItem_eq_some {db : ReturnsDB} {id : UUID} {item : PricedItem} :
    db.getItem id = some item ↔ item ∈ db.orderItems.rows ∧ item.id = id := by
  constructor
  · intro h
    exact ⟨Table.mem_of_find?_eq_some h, by simpa using List.find?_some h⟩
  · rintro ⟨hitem, rfl⟩
    exact db.orderItems.find?_eq_some_of_mem (k := item.id) hitem (by simp)
      (by simp +contextual)

/-- Return ids are unique. -/
theorem return_eq_of_id_eq {db : ReturnsDB} {r r' : Return} (hr : r ∈ db.returns.rows)
    (hr' : r' ∈ db.returns.rows) (hid : r'.id = r.id) : r' = r :=
  db.returns.eq_of_shared_key (k := r.id) hr' hr (by simp [hid]) (by simp)

/-! ## Section 3: The amount of a refund -/

/-- The significant digits and the rounding of Python's default decimal context. -/
def decimal (x : ℚ) : ℚ := Decimal.roundDigits 28 x

/-- The share of a line: `(total_amount / quantity * returned).quantize(Decimal("0.01"))`. The
ranges of the columns keep it within the context's digits, so `quantize` does not raise. -/
def itemShare (item : PricedItem) (returned : ℤ) : ℚ :=
  Decimal.roundTo (-2) (decimal (decimal (item.totalAmount / item.quantity) * returned))

/-- The fallback of `_compute_refund_amount`: the whole order. -/
def orderShare (db : ReturnsDB) (orderId : UUID) : ℚ :=
  match db.shop.getOrder orderId with
  | some order => order.totalAmount
  | none => 0

/-- `_compute_refund_amount`. -/
def computeRefundAmount (db : ReturnsDB) (r : Return) : ℚ :=
  match r.orderItemId.bind db.getItem with
  | some item => if item.quantity ≠ 0 then itemShare item r.quantity else db.orderShare r.orderId
  | none => db.orderShare r.orderId

/-! ## Section 4: Creating a return -/

def newReturnId (db : ReturnsDB) : UUID := OrdersDB.unusedId (db.returns.rows.map (·.id))

def newRefundId (db : ReturnsDB) : UUID := OrdersDB.unusedId (db.refunds.rows.map (·.id))

theorem lt_newReturnId {db : ReturnsDB} {r : Return} (hr : r ∈ db.returns.rows) :
    r.id < db.newReturnId :=
  OrdersDB.lt_unusedId (List.mem_map_of_mem hr)

theorem lt_newRefundId {db : ReturnsDB} {f : Refund} (hf : f ∈ db.refunds.rows) :
    f.id < db.newRefundId :=
  OrdersDB.lt_unusedId (List.mem_map_of_mem hf)

/-- The row `create_return` adds. -/
def newReturn (db : ReturnsDB) (request : ReturnCreateRequest) (now : Instant) : Return where
  id := db.newReturnId
  orderId := request.orderId
  orderItemId := request.orderItemId
  customerId := request.customerId
  reason := request.reason
  quantity := request.quantity
  status := .requested
  requestedAt := some now
  sourceSystem := some .manual

/-- The customer a return names exists. -/
def customerExists (db : ReturnsDB) (request : ReturnCreateRequest) : Bool :=
  request.customerId.all fun id => db.shop.customers.rows.any fun c => c.id == id

/-- The insertion of a return whose order and line exist. -/
def insertReturn (db : ReturnsDB) (request : ReturnCreateRequest) (now : Instant)
    (horder : ∃ o ∈ db.shop.orders.rows, o.id = request.orderId)
    (hitem : ∀ id ∈ request.orderItemId, ∃ item ∈ db.orderItems.rows, item.id = id) :
    ReturnsDB :=
  { db with
    returns := db.returns.insertFresh (db.newReturn request now) (by simp) (by
      intro k hk r hr hkr
      rw [List.mem_singleton] at hk hkr
      exact (lt_newReturnId hr).ne (hkr.symm.trans hk))
    return_order := by
      intro r hr
      rw [Table.rows_insertFresh, List.mem_append, List.mem_singleton] at hr
      rcases hr with hr | rfl
      · exact db.return_order r hr
      · exact horder
    return_item := by
      intro r hr
      rw [Table.rows_insertFresh, List.mem_append, List.mem_singleton] at hr
      rcases hr with hr | rfl
      · exact db.return_item r hr
      · exact hitem
    refund_return := by
      intro f hf id hid
      obtain ⟨r, hr, hrid⟩ := db.refund_return f hf id hid
      exact ⟨r, List.mem_append_left _ hr, hrid⟩ }

/-- `create_return`; an error leaves the database as it was. -/
def createReturn (db : ReturnsDB) (request : ReturnCreateRequest) (now : Instant) :
    Except PyException (Return × ReturnsDB) :=
  match horder : db.shop.getOrder request.orderId with
  | none => .error (.oms (.notFound "Order not found."))
  | some order =>
    if maxInteger < request.quantity then .error (.other "value out of int32 range")
    else if db.customerExists request = false then .error .integrityError
    else if hitem : ∀ id ∈ request.orderItemId, ∃ item ∈ db.orderItems.rows, item.id = id then
      .ok (db.newReturn request now,
        db.insertReturn request now ⟨order, OrdersDB.getOrder_eq_some.mp horder⟩ hitem)
    else .error .integrityError

/-! ## Section 5: Updating a return -/

/-- The columns `update_return` passes on; one that is not passed is left as it is. -/
structure ReturnColumns where
  status : Option ReturnStatus := none
  approvedAt : Option Instant := none
  receivedAt : Option Instant := none
  completedAt : Option Instant := none
  notes : Option String := none
  deriving DecidableEq

/-- Write the passed columns into a row. -/
def ReturnColumns.write (clean : ReturnColumns) :
    Table.KeyPreserving fun r : Return => [r.id] where
  apply r :=
    { r with
      status := clean.status.getD r.status
      approvedAt := clean.approvedAt.or r.approvedAt
      receivedAt := clean.receivedAt.or r.receivedAt
      completedAt := clean.completedAt.or r.completedAt
      notes := clean.notes.or r.notes }
  keeps _ := rfl

/-- The column `_timestamp_field_for` names. -/
inductive TimestampField where
  | approvedAt | receivedAt | completedAt | notes
  deriving DecidableEq, Repr

/-- `_timestamp_field_for`. -/
def timestampFieldFor : ReturnStatus → TimestampField
  | .approved => .approvedAt
  | .received => .receivedAt
  | .completed => .completedAt
  | .requested | .rejected | .inTransit | .cancelled => .notes

/-- Pass the time for a column. `notes` is a text column: `textOf` is what the database driver
makes of the time, `none` when it refuses. -/
def ReturnColumns.stamp (textOf : Instant → Option String) (now : Instant)
    (clean : ReturnColumns) : TimestampField → Option ReturnColumns
  | .approvedAt => some { clean with approvedAt := some now }
  | .receivedAt => some { clean with receivedAt := some now }
  | .completedAt => some { clean with completedAt := some now }
  | .notes => (textOf now).map fun text => { clean with notes := some text }

/-- What `update_return` passes on for a row, `none` when the driver refuses it. -/
def cleanColumns (textOf : Instant → Option String) (now : Instant)
    (request : ReturnUpdateRequest) (r : Return) : Option ReturnColumns :=
  match request.status with
  | some status =>
    if status ≠ r.status then
      ReturnColumns.stamp textOf now { status := some status, notes := request.notes }
        (timestampFieldFor status)
    else some { notes := request.notes }
  | none => some { notes := request.notes }

/-- `ReturnRepository.update`. -/
def writeReturn (db : ReturnsDB) (returnId : UUID) (clean : ReturnColumns) : ReturnsDB :=
  { db with
    returns := db.returns.modify (fun r => r.id == returnId) clean.write
    return_order := by
      intro r hr
      obtain ⟨r', hr', ⟨-, rfl⟩ | ⟨-, rfl⟩⟩ := Table.mem_modify.mp hr
      · exact db.return_order r' hr'
      · exact db.return_order _ hr'
    return_item := by
      intro r hr
      obtain ⟨r', hr', ⟨-, rfl⟩ | ⟨-, rfl⟩⟩ := Table.mem_modify.mp hr
      · exact db.return_item r' hr'
      · exact db.return_item _ hr'
    refund_return := by
      intro f hf id hid
      obtain ⟨r, hr, hrid⟩ := db.refund_return f hf id hid
      refine ⟨if r.id == returnId then clean.write r else r, List.mem_map_of_mem hr, ?_⟩
      split
      · exact hrid
      · exact hrid }

/-- The row `_create_refund_for_return` adds. -/
def newRefund (db : ReturnsDB) (r : Return) (now : Instant) : Refund where
  id := db.newRefundId
  orderId := r.orderId
  returnId := some r.id
  amount := db.computeRefundAmount r
  reason := r.reason
  status := .pending
  initiatedAt := some now
  sourceSystem := some .manual

/-- The insertion of the refund of a stored return. -/
def insertRefund (db : ReturnsDB) {r : Return} (hr : r ∈ db.returns.rows) (now : Instant) :
    ReturnsDB :=
  { db with
    refunds := db.refunds.insertFresh (db.newRefund r now) (by simp) (by
      intro k hk f hf hkf
      rw [List.mem_singleton] at hk hkf
      exact (lt_newRefundId hf).ne (hkf.symm.trans hk))
    refund_return := by
      intro f hf id hid
      rw [Table.rows_insertFresh, List.mem_append, List.mem_singleton] at hf
      rcases hf with hf | rfl
      · exact db.refund_return f hf id hid
      · exact ⟨r, hr, Option.some.inj hid⟩ }

/-- `_create_refund_for_return`: nothing when there is a refund already. -/
def createRefundForReturn (db : ReturnsDB) {r : Return} (hr : r ∈ db.returns.rows)
    (now : Instant) : Except PyException ReturnsDB :=
  match db.refundsOfReturn r.id with
  | [] =>
    if numericLimit ≤ |db.computeRefundAmount r| then .error (.other "numeric field overflow")
    else .ok (db.insertRefund hr now)
  | [_] => .ok db
  | _ :: _ :: _ =>
    .error (.other "Multiple rows were found when one or none was required")

/-- A written return is stored. -/
theorem mem_writeReturn {db : ReturnsDB} {returnId : UUID} {r : Return}
    (h : db.getReturn returnId = some r) (clean : ReturnColumns) :
    clean.write r ∈ (db.writeReturn returnId clean).returns.rows := by
  obtain ⟨hr, hid⟩ := getReturn_eq_some.mp h
  exact Table.mem_modify.mpr ⟨r, hr, .inl ⟨by simp [hid], rfl⟩⟩

/-- `update_return`; an error leaves the database as it was. -/
def updateReturn (textOf : Instant → Option String) (db : ReturnsDB) (returnId : UUID)
    (request : ReturnUpdateRequest) (now : Instant) : Except PyException (Return × ReturnsDB) :=
  match hfind : db.getReturn returnId with
  | none => .error (.oms (.notFound "Return not found."))
  | some r =>
    match cleanColumns textOf now request r with
    | none => .error (.other "invalid input for query argument")
    | some clean =>
      if request.status = some .completed then
        ((db.writeReturn returnId clean).createRefundForReturn
          (mem_writeReturn hfind clean) now).map fun db' => (clean.write r, db')
      else .ok (clean.write r, db.writeReturn returnId clean)

end ReturnsDB

/-! ## Section 6: Calls in any order -/

/-- A call of one of the two operations. -/
inductive ReturnCall where
  | create (request : ReturnCreateRequest) (now : Instant)
  | update (returnId : UUID) (request : ReturnUpdateRequest) (now : Instant)

/-- What a call leaves; the transaction of one that raises is rolled back. -/
def returnStep (textOf : Instant → Option String) (db : ReturnsDB) : ReturnCall → ReturnsDB
  | .create request now =>
    match db.createReturn request now with
    | .ok (_, db') => db'
    | .error _ => db
  | .update returnId request now =>
    match db.updateReturn textOf returnId request now with
    | .ok (_, db') => db'
    | .error _ => db

end AyushOms.Returns
