import AyushOms.Inventory.Model
import Mathlib.Data.Rat.Defs

/-!
# Orders and Payments: Rows and Tables

`customers`, `orders`, `order_events`, `payments` and `payment_transactions`, with the
columns the order, payment and telecalling services read or write, their unique
constraints, and the foreign key of a payment to its order. Amounts are rationals: a
`Decimal` comparison in the source is numerical.
-/

namespace AyushOms.Orders

open AyushOms.Lib AyushOms.Inventory

/-! ## Section 1: Rows -/

structure Customer where
  id : UUID
  phone : Option String := none
  sourceSystem : Option SourceSystem := none
  externalId : Option String := none
  deriving DecidableEq, Repr

/-- An order's address snapshot, as `normalize_address` builds it. -/
structure ShippingAddress where
  line1 : Option String := none
  line2 : Option String := none
  city : Option String := none
  state : Option String := none
  country : Option String := none
  pinCode : Option String := none
  contactName : Option String := none
  contactPhone : Option String := none
  deriving DecidableEq, Repr

structure Order where
  id : UUID
  orderNumber : String
  sourceSystem : Option SourceSystem := none
  externalId : Option String := none
  externalUpdatedAt : Option Instant := none
  shopifyOrderId : Option String := none
  customerId : Option UUID := none
  orderDatetime : Option Instant := none
  currency : String := "INR"
  subtotal : ℚ := 0
  discountAmount : ℚ := 0
  taxAmount : ℚ := 0
  shippingCharge : ℚ := 0
  totalAmount : ℚ := 0
  paymentType : PaymentType := .prepaid
  paymentStatus : PaymentStatus := .pending
  status : OrderStatus := .pending
  fulfillmentStatus : FulfillmentStatus := .unfulfilled
  shopifyTags : Option (List String) := none
  shopifyOrderNote : Option String := none
  shopifyShipmentStatus : Option String := none
  shippingAddress : Option ShippingAddress := none
  billingAddress : Option ShippingAddress := none
  shippingAddressSyncStatus : ShopifySyncStatus := .notApplicable
  shippingAddressSyncError : Option String := none
  shippingAddressSyncedAt : Option Instant := none
  confirmedByTelecallerId : Option UUID := none
  confirmedAt : Option Instant := none
  shopifyConfirmationFulfillmentId : Option String := none
  deriving DecidableEq

/-- One row of the append-only order timeline. -/
structure OrderEvent where
  orderId : UUID
  eventType : String
  status : Option String
  source : String := "system"
  deriving DecidableEq, Repr

/-- `Payment.payment_metadata`, the keys the code writes. -/
structure PaymentMetadata where
  cashfreeOrderId : Option String := none
  cfOrderId : Option String := none
  paymentSessionId : Option String := none
  orderStatus : Option String := none
  createdFrom : Option String := none
  lastRawPaymentStatus : Option String := none
  paymentMethod : Option String := none
  deriving DecidableEq, Repr

structure Payment where
  id : UUID
  sourceSystem : Option SourceSystem := none
  externalId : Option String := none
  orderId : UUID
  paymentType : PaymentType
  status : PaymentStatus := .pending
  amount : ℚ
  currency : String := "INR"
  provider : Option String := none
  externalTransactionId : Option String := none
  paidAt : Option Instant := none
  paymentMetadata : Option PaymentMetadata := none
  deriving DecidableEq

/-- One gateway callback or lookup applied to a payment. -/
structure PaymentTransaction where
  paymentId : UUID
  gateway : Option String
  gatewayTransactionId : Option String
  status : PaymentStatus
  amount : ℚ
  deriving DecidableEq

/-! ## Section 2: Constraints and tables -/

/-- `ORDER_STATUS_TRANSITIONS`. -/
def orderStatusTransitions : OrderStatus → List OrderStatus
  | .pending => [.confirmed, .cancelled]
  | .confirmed => [.processing, .cancelled, .pending]
  | .processing => [.packed, .cancelled]
  | .packed => [.shipped, .cancelled]
  | .shipped => [.delivered]
  | .delivered => []
  | .cancelled => []

/-- The unique columns shared by `customers` and `payments`. -/
inductive SyncedKey where
  | id (id : UUID)
  | external (key : SourceSystem × String)
  deriving DecidableEq

/-- The unique columns of `orders`. -/
inductive OrderKey where
  | id (id : UUID)
  | number (orderNumber : String)
  | external (key : SourceSystem × String)
  deriving DecidableEq

def Customer.keys (c : Customer) : List SyncedKey :=
  .id c.id :: (externalKey c.sourceSystem c.externalId).map .external

def Order.keys (o : Order) : List OrderKey :=
  .id o.id :: .number o.orderNumber ::
    (externalKey o.sourceSystem o.externalId).map .external

def Payment.keys (p : Payment) : List SyncedKey :=
  .id p.id :: (externalKey p.sourceSystem p.externalId).map .external

/-- `uq_payment_transactions_gateway_txn`; rows without an id never collide. -/
def PaymentTransaction.keys (t : PaymentTransaction) : List (String × String) :=
  match t.gateway, t.gatewayTransactionId with
  | some gateway, some id => [(gateway, id)]
  | _, _ => []

abbrev CustomerTable := Table Customer SyncedKey Customer.keys
abbrev OrderTable := Table Order OrderKey Order.keys
abbrev PaymentTable := Table Payment SyncedKey Payment.keys
abbrev TransactionTable := Table PaymentTransaction (String × String) PaymentTransaction.keys

/-- Keeping the keys of an order keeps its id. -/
theorem Order.id_eq_of_keys_eq {o o' : Order} (h : o.keys = o'.keys) : o.id = o'.id := by
  simp only [Order.keys, List.cons.injEq, OrderKey.id.injEq] at h
  exact h.1

/-- The database the order and payment services share. -/
structure OrdersDB where
  stock : Stock := {}
  customers : CustomerTable := Table.empty
  orders : OrderTable := Table.empty
  orderEvents : List OrderEvent := []
  payments : PaymentTable := Table.empty
  paymentTransactions : TransactionTable := Table.empty
  /-- The foreign key `payments.order_id`. -/
  payment_order : ∀ p ∈ payments.rows, ∃ o ∈ orders.rows, o.id = p.orderId := by
    simp

namespace OrdersDB

/-! ## Section 3: Reads -/

/-- `OrderRepository.get_by_id`. -/
def getOrder (db : OrdersDB) (id : UUID) : Option Order :=
  db.orders.find? fun o => o.id == id

/-- `OrderRepository.get_by_order_number`. -/
def getOrderByNumber (db : OrdersDB) (orderNumber : String) : Option Order :=
  db.orders.find? fun o => o.orderNumber == orderNumber

/-- `OrderRepository.get_by_source_external_id`. -/
def getOrderByExternalId (db : OrdersDB) (source : SourceSystem) (externalId : String) :
    Option Order :=
  db.orders.find? fun o => o.sourceSystem == some source && o.externalId == some externalId

/-- `PaymentRepository.get_by_source_external_id`. -/
def getPaymentByExternalId (db : OrdersDB) (source : SourceSystem) (externalId : String) :
    Option Payment :=
  db.payments.find? fun p => p.sourceSystem == some source && p.externalId == some externalId

/-- `PaymentRepository.list_for_order`, in creation order. -/
def paymentsForOrder (db : OrdersDB) (orderId : UUID) : List Payment :=
  db.payments.rows.filter fun p => p.orderId == orderId

theorem getOrder_eq_some {db : OrdersDB} {id : UUID} {o : Order} :
    db.getOrder id = some o ↔ o ∈ db.orders.rows ∧ o.id = id := by
  constructor
  · intro h
    exact ⟨Table.mem_of_find?_eq_some h, by simpa using List.find?_some h⟩
  · rintro ⟨ho, rfl⟩
    exact db.orders.find?_eq_some_of_mem (k := .id o.id) ho (by simp)
      (by simp +contextual [Order.keys])

theorem getPaymentByExternalId_eq_some {db : OrdersDB} {source : SourceSystem}
    {externalId : String} {p : Payment} :
    db.getPaymentByExternalId source externalId = some p ↔
      p ∈ db.payments.rows ∧ p.sourceSystem = some source ∧ p.externalId = some externalId := by
  constructor
  · intro h
    refine ⟨Table.mem_of_find?_eq_some h, ?_⟩
    simpa using List.find?_some h
  · rintro ⟨hp, hs, he⟩
    refine db.payments.find?_eq_some_of_mem (k := .external (source, externalId)) hp
      (by simp [hs, he]) fun p' hp' => ?_
    simp only [Bool.and_eq_true, beq_iff_eq] at hp'
    simp [Payment.keys, mem_externalKey, hp']

/-- Payment ids are unique. -/
theorem payment_eq_of_id_eq {db : OrdersDB} {p p' : Payment} (hp : p ∈ db.payments.rows)
    (hp' : p' ∈ db.payments.rows) (hid : p'.id = p.id) : p' = p :=
  db.payments.eq_of_shared_key (k := .id p.id) hp' hp (by simp [Payment.keys, hid])
    (by simp [Payment.keys])

/-- Order ids are unique. -/
theorem order_eq_of_id_eq {db : OrdersDB} {o o' : Order} (ho : o ∈ db.orders.rows)
    (ho' : o' ∈ db.orders.rows) (hid : o'.id = o.id) : o' = o :=
  db.orders.eq_of_shared_key (k := .id o.id) ho' ho (by simp [Order.keys, hid])
    (by simp [Order.keys])

/-- Every payment's order exists. -/
theorem getOrder_of_payment {db : OrdersDB} {p : Payment} (hp : p ∈ db.payments.rows) :
    ∃ o, db.getOrder p.orderId = some o := by
  obtain ⟨o, ho, hid⟩ := db.payment_order p hp
  exact ⟨o, getOrder_eq_some.mpr ⟨ho, hid⟩⟩

/-! ## Section 4: Writes -/

/-- `OrderRepository.update` of columns that occupy no key. -/
def updateOrder (db : OrdersDB) (orderId : UUID) (f : Table.KeyPreserving Order.keys) :
    OrdersDB :=
  { db with
    orders := db.orders.modify (fun o => o.id == orderId) f
    payment_order := by
      intro p hp
      obtain ⟨o, ho, hid⟩ := db.payment_order p hp
      by_cases h : o.id = orderId
      · refine ⟨f o, Table.mem_modify.mpr ⟨o, ho, .inl ⟨by simp [h], rfl⟩⟩, ?_⟩
        rw [Order.id_eq_of_keys_eq (f.keeps o), hid]
      · exact ⟨o, Table.mem_modify.mpr ⟨o, ho, .inr ⟨by simp [h], rfl⟩⟩, hid⟩ }

/-- `OrderRepository.update` of columns some of which are keys; `none` is an integrity
error. -/
def updateOrder? (db : OrdersDB) (orderId : UUID) (f : Order → Order)
    (hf : ∀ o, (f o).id = o.id) : Option OrdersDB :=
  match hupd : db.orders.update? (fun o => o.id == orderId) f with
  | none => none
  | some orders =>
    some { db with
      orders := orders
      payment_order := by
        intro p hp
        obtain ⟨o, ho, hid⟩ := db.payment_order p hp
        refine ⟨if o.id == orderId then f o else o, ?_, ?_⟩
        · rw [Table.rows_of_update? hupd]
          exact List.mem_map_of_mem ho
        · split
          · rw [hf, hid]
          · exact hid }

/-- `OrderRepository.create`; `none` is an integrity error. -/
def insertOrder? (db : OrdersDB) (o : Order) : Option OrdersDB :=
  match hins : db.orders.insert? o with
  | none => none
  | some orders =>
    some { db with
      orders := orders
      payment_order := by
        intro p hp
        obtain ⟨o', ho', hid⟩ := db.payment_order p hp
        refine ⟨o', ?_, hid⟩
        rw [Table.rows_of_insert? hins]
        exact List.mem_append_left _ ho' }

theorem updateOrder?_eq_some {db db' : OrdersDB} {orderId : UUID} {f : Order → Order}
    {hf : ∀ o, (f o).id = o.id} (h : db.updateOrder? orderId f hf = some db') :
    db'.payments = db.payments ∧
      db'.orders.rows = db.orders.rows.map fun o => if o.id == orderId then f o else o := by
  unfold updateOrder? at h
  split at h
  · cases h
  · rename_i orders hupd
    cases h
    exact ⟨rfl, Table.rows_of_update? hupd⟩

theorem insertOrder?_eq_some {db db' : OrdersDB} {o : Order}
    (h : db.insertOrder? o = some db') :
    db'.payments = db.payments ∧ db'.orders.rows = db.orders.rows ++ [o] := by
  unfold insertOrder? at h
  split at h
  · cases h
  · rename_i orders hins
    cases h
    exact ⟨rfl, Table.rows_of_insert? hins⟩

/-- `PaymentRepository.update` of columns that occupy no key; the order is kept, or is an
existing one. -/
def updatePayment (db : OrdersDB) (paymentId : UUID) (f : Table.KeyPreserving Payment.keys)
    (hf : ∀ p, (f p).orderId = p.orderId ∨ ∃ o ∈ db.orders.rows, o.id = (f p).orderId) :
    OrdersDB :=
  { db with
    payments := db.payments.modify (fun p => p.id == paymentId) f
    payment_order := by
      intro p hp
      -- the written payment keeps its order or names an existing one
      obtain ⟨p', hp', ⟨_, rfl⟩ | ⟨_, rfl⟩⟩ := Table.mem_modify.mp hp
      · rcases hf p' with h | h
        · rw [h]
          exact db.payment_order p' hp'
        · exact h
      · exact db.payment_order _ hp' }

/-- `OrderEventRepository.create`. -/
def addOrderEvent (db : OrdersDB) (e : OrderEvent) : OrdersDB :=
  { db with orderEvents := db.orderEvents ++ [e] }

/-- An id that is not in use: what `uuid4()` supplies for a new row. -/
def unusedId (ids : List UUID) : UUID := ids.foldr max 0 + 1

def newPaymentId (db : OrdersDB) : UUID := unusedId (db.payments.rows.map (·.id))

def newOrderId (db : OrdersDB) : UUID := unusedId (db.orders.rows.map (·.id))

/-- A new id is above every id in use. -/
theorem lt_unusedId {ids : List UUID} {id : UUID} (h : id ∈ ids) : id < unusedId ids := by
  have hle : ∀ {ids : List ℕ} {id : ℕ}, id ∈ ids → id ≤ ids.foldr max 0 := by
    intro ids id hid
    induction ids with
    | nil => exact absurd hid List.not_mem_nil
    | cons x ids ih =>
      rcases List.mem_cons.mp hid with rfl | hmem
      · exact Nat.le_max_left _ _
      · exact (ih hmem).trans (Nat.le_max_right _ _)
  exact Nat.lt_succ_of_le (hle h)

theorem lt_newPaymentId {db : OrdersDB} {p : Payment} (hp : p ∈ db.payments.rows) :
    p.id < db.newPaymentId :=
  lt_unusedId (List.mem_map_of_mem hp)

/-- The columns a caller of `upsert_by_external_id` passes for a payment; an optional one
that is not passed is left as it is. -/
structure PaymentFields where
  orderId : UUID
  paymentType : PaymentType
  status : PaymentStatus
  amount : ℚ
  currency : String
  provider : String
  paymentMetadata : Option PaymentMetadata := none
  externalTransactionId : Option String := none

/-- Write the passed columns into a row. -/
def PaymentFields.write (fields : PaymentFields) (p : Payment) : Payment :=
  { p with
    orderId := fields.orderId
    paymentType := fields.paymentType
    status := fields.status
    amount := fields.amount
    currency := fields.currency
    provider := some fields.provider
    paymentMetadata := fields.paymentMetadata.or p.paymentMetadata
    externalTransactionId := fields.externalTransactionId.or p.externalTransactionId }

/-- The row `create(source_system=..., external_id=..., **fields)` adds. -/
def PaymentFields.newRow (fields : PaymentFields) (db : OrdersDB) (source : SourceSystem)
    (externalId : String) : Payment :=
  fields.write {
    id := db.newPaymentId
    sourceSystem := some source
    externalId := some externalId
    orderId := fields.orderId
    paymentType := fields.paymentType
    amount := fields.amount }

theorem PaymentFields.newRow_keys (fields : PaymentFields) (db : OrdersDB)
    (source : SourceSystem) (externalId : String) :
    (fields.newRow db source externalId).keys =
      [.id db.newPaymentId, .external (source, externalId)] := rfl

theorem PaymentFields.newRow_keys_nodup (fields : PaymentFields) (db : OrdersDB)
    (source : SourceSystem) (externalId : String) :
    (fields.newRow db source externalId).keys.Nodup := by
  simp [PaymentFields.newRow_keys]

/-- The keys of a new row are free when its external id is. -/
theorem PaymentFields.newRow_keys_free (fields : PaymentFields) {db : OrdersDB}
    {source : SourceSystem} {externalId : String}
    (hfree : db.getPaymentByExternalId source externalId = none) :
    ∀ k ∈ (fields.newRow db source externalId).keys, ∀ p ∈ db.payments.rows, k ∉ p.keys := by
  intro k hk p hp hkp
  rw [PaymentFields.newRow_keys] at hk
  -- the id is new; the external key is free by the lookup
  rcases List.mem_cons.mp hk with rfl | hk
  · have hid : db.newPaymentId = p.id := by
      simpa [Payment.keys] using hkp
    exact absurd hid.symm (lt_newPaymentId hp).ne
  · rw [List.mem_singleton] at hk
    subst hk
    have hkey : p.sourceSystem = some source ∧ p.externalId = some externalId := by
      simpa [Payment.keys, mem_externalKey] using hkp
    rw [getPaymentByExternalId_eq_some.mpr ⟨hp, hkey⟩] at hfree
    cases hfree

/-- `PaymentRepository.create` of a row whose external id is not taken. -/
def createPayment (db : OrdersDB) (source : SourceSystem) (externalId : String)
    (fields : PaymentFields) (horder : ∃ o ∈ db.orders.rows, o.id = fields.orderId)
    (hfree : db.getPaymentByExternalId source externalId = none) : OrdersDB :=
  { db with
    payments := db.payments.insertFresh (fields.newRow db source externalId)
      (fields.newRow_keys_nodup db source externalId) (fields.newRow_keys_free hfree)
    payment_order := by
      intro p hp
      rw [Table.rows_insertFresh, List.mem_append, List.mem_singleton] at hp
      rcases hp with hp | rfl
      · exact db.payment_order p hp
      · exact horder }

/-- `PaymentRepository.upsert_by_external_id`: the row written, and whether it is new. -/
def upsertPayment (db : OrdersDB) (source : SourceSystem) (externalId : String)
    (fields : PaymentFields) (horder : ∃ o ∈ db.orders.rows, o.id = fields.orderId) :
    Payment × Bool × OrdersDB :=
  match hfind : db.getPaymentByExternalId source externalId with
  | some existing =>
    (fields.write existing, false,
      db.updatePayment existing.id ⟨fields.write, fun _ => rfl⟩ fun _ => .inr horder)
  | none =>
    (fields.newRow db source externalId, true,
      db.createPayment source externalId fields horder hfind)

/-- An upsert touches payments only: it writes the row with the external id, or appends a
new one. -/
theorem upsertPayment_spec (db : OrdersDB) (source : SourceSystem) (externalId : String)
    (fields : PaymentFields) (horder : ∃ o ∈ db.orders.rows, o.id = fields.orderId) :
    (db.upsertPayment source externalId fields horder).2.2.orders = db.orders ∧
    (db.upsertPayment source externalId fields horder).2.2.paymentTransactions =
      db.paymentTransactions ∧
    ((∃ existing, db.getPaymentByExternalId source externalId = some existing ∧
        (db.upsertPayment source externalId fields horder).1 = fields.write existing ∧
        (db.upsertPayment source externalId fields horder).2.2.payments.rows =
          db.payments.rows.map fun p => if p.id == existing.id then fields.write p else p) ∨
      db.getPaymentByExternalId source externalId = none ∧
        (db.upsertPayment source externalId fields horder).1 =
          fields.newRow db source externalId ∧
        (db.upsertPayment source externalId fields horder).2.2.payments.rows =
          db.payments.rows ++ [fields.newRow db source externalId]) := by
  unfold upsertPayment
  split
  · rename_i existing hfind
    exact ⟨rfl, rfl, .inl ⟨existing, hfind, rfl, rfl⟩⟩
  · rename_i hfind
    exact ⟨rfl, rfl, .inr ⟨hfind, rfl, rfl⟩⟩

/-- A payment after an upsert was there before, or is a row with the passed columns. -/
theorem mem_upsertPayment {db : OrdersDB} {source : SourceSystem} {externalId : String}
    {fields : PaymentFields} {horder : ∃ o ∈ db.orders.rows, o.id = fields.orderId}
    {p : Payment}
    (hp : p ∈ (db.upsertPayment source externalId fields horder).2.2.payments.rows) :
    p ∈ db.payments.rows ∨ p.orderId = fields.orderId ∧ p.status = fields.status := by
  obtain ⟨_, _, ⟨existing, _, _, hrows⟩ | ⟨_, _, hrows⟩⟩ :=
    upsertPayment_spec db source externalId fields horder
  · rw [hrows, List.mem_map] at hp
    obtain ⟨p', hp', rfl⟩ := hp
    split
    · exact .inr ⟨rfl, rfl⟩
    · exact .inl hp'
  · rw [hrows, List.mem_append, List.mem_singleton] at hp
    rcases hp with hp | rfl
    · exact .inl hp
    · exact .inr ⟨rfl, rfl⟩

end OrdersDB

end AyushOms.Orders
