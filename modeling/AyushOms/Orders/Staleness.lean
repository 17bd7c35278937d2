import Mathlib.Data.Finset.Insert
import AyushOms.Lib.LastWriter
import AyushOms.Lib.Run
import AyushOms.Orders.Sync

/-!
# Deliveries Out of Order

Webhooks and pulls deliver the versions of one order of the store in any order and more than
once. What `upsert_synced_order` leaves of them is a register that keeps the newest version:
the columns the store owns and the store's payment record are those of the newest version,
as if it had been delivered alone.

## Main results

- `Shows.receive`: one delivery offers its version to the register
- `newest_version_wins`: the order of the deliveries does not matter
-/

namespace AyushOms.Orders

open AyushOms.Lib

/-! ## Section 1: What the store owns -/

/-- The columns of an order that the store owns. -/
structure SyncedColumns where
  orderNumber : String
  shopifyOrderId : Option String
  externalUpdatedAt : Option Instant
  orderDatetime : Option Instant
  currency : String
  subtotal : ℚ
  discountAmount : ℚ
  taxAmount : ℚ
  shippingCharge : ℚ
  totalAmount : ℚ
  paymentType : PaymentType
  paymentStatus : PaymentStatus
  fulfillmentStatus : FulfillmentStatus
  shopifyTags : Option (List String)
  shopifyOrderNote : Option String
  shopifyShipmentStatus : Option String
  shippingAddress : Option ShippingAddress
  billingAddress : Option ShippingAddress
  deriving DecidableEq

def Order.syncedColumns (o : Order) : SyncedColumns where
  orderNumber := o.orderNumber
  shopifyOrderId := o.shopifyOrderId
  externalUpdatedAt := o.externalUpdatedAt
  orderDatetime := o.orderDatetime
  currency := o.currency
  subtotal := o.subtotal
  discountAmount := o.discountAmount
  taxAmount := o.taxAmount
  shippingCharge := o.shippingCharge
  totalAmount := o.totalAmount
  paymentType := o.paymentType
  paymentStatus := o.paymentStatus
  fulfillmentStatus := o.fulfillmentStatus
  shopifyTags := o.shopifyTags
  shopifyOrderNote := o.shopifyOrderNote
  shopifyShipmentStatus := o.shopifyShipmentStatus
  shippingAddress := o.shippingAddress
  billingAddress := o.billingAddress

/-- The row is stored under this `(source_system, external_id)`. -/
def Order.KeyedBy (key : SourceSystem × String) (o : Order) : Prop :=
  o.sourceSystem = some key.1 ∧ o.externalId = some key.2

namespace SyncedOrder

/-- `(source_system, external_id)`. -/
def key (data : SyncedOrder) : SourceSystem × String := (data.sourceSystem, data.externalId)

/-- When the version was current in the store. -/
def stamp (data : SyncedOrder) : Instant := data.externalUpdatedAt.getD 0

/-- The columns of the version: those of the row it creates. -/
def columns (data : SyncedOrder) : SyncedColumns := (data.newOrder {}).syncedColumns

theorem keyedBy_newOrder (data : SyncedOrder) (db : OrdersDB) :
    (data.newOrder db).KeyedBy data.key := ⟨rfl, rfl⟩

end SyncedOrder

namespace OrdersDB

/-- The committed state after a delivery; one that raises commits nothing. -/
def receive (db : OrdersDB) (data : SyncedOrder) : OrdersDB :=
  match upsertSyncedOrder db data with
  | some (_, db') => db'
  | none => db

/-- The order a key stands for. -/
def orderByKey (db : OrdersDB) (key : SourceSystem × String) : Option Order :=
  db.getOrderByExternalId key.1 key.2

/-- The store's payment record of the order. -/
def paymentByKey (db : OrdersDB) (key : SourceSystem × String) : Option Payment :=
  db.getPaymentByExternalId key.1 key.2

theorem orderByKey_eq_some {db : OrdersDB} {key : SourceSystem × String} {o : Order} :
    db.orderByKey key = some o ↔ o ∈ db.orders.rows ∧ o.KeyedBy key := by
  constructor
  · intro h
    exact ⟨Table.mem_of_find?_eq_some h, by simpa [Order.KeyedBy] using List.find?_some h⟩
  · rintro ⟨ho, hsource, hexternal⟩
    refine db.orders.find?_eq_some_of_mem (k := .external key) ho (by simp [hsource, hexternal])
      fun o' ho' => ?_
    simp only [Bool.and_eq_true, beq_iff_eq] at ho'
    simp [Order.keys, mem_externalKey, ho']

theorem orderByKey_eq_none {db : OrdersDB} {key : SourceSystem × String}
    (h : db.orderByKey key = none) {o : Order} (ho : o ∈ db.orders.rows) : ¬ o.KeyedBy key := by
  intro hkeyed
  rw [orderByKey_eq_some.mpr ⟨ho, hkeyed⟩] at h
  cases h

/-- No other order has the number. -/
def NumberFree (db : OrdersDB) (data : SyncedOrder) : Prop :=
  ∀ o ∈ db.orders.rows, ¬ o.KeyedBy data.key → o.orderNumber ≠ data.orderNumber

/-- The payment record a delivery leaves for the order. -/
def paymentAfter (db : OrdersDB) (data : SyncedOrder) (orderId : UUID) : Payment :=
  match db.paymentByKey data.key with
  | some payment => (data.paymentFields orderId).write payment
  | none => (data.paymentFields orderId).newRow db data.sourceSystem data.externalId

end OrdersDB

/-! ## Section 2: One delivery -/

/-- What a delivery that is not dropped leaves. -/
structure Applied (data : SyncedOrder) (db db' : OrdersDB) (order : Order) : Prop where
  order_eq : db'.orderByKey data.key = some order
  columns_eq : order.syncedColumns = data.columns
  payment_eq : db'.paymentByKey data.key = some (db.paymentAfter data order.id)
  others : ∀ o, ¬ o.KeyedBy data.key → (o ∈ db'.orders.rows ↔ o ∈ db.orders.rows)

namespace OrdersDB

/-- An upserted payment is found under its key. -/
theorem paymentByKey_upsertPayment (db : OrdersDB) (key : SourceSystem × String)
    (fields : PaymentFields) (horder : ∃ o ∈ db.orders.rows, o.id = fields.orderId) :
    (db.upsertPayment key.1 key.2 fields horder).2.2.paymentByKey key =
      some (db.upsertPayment key.1 key.2 fields horder).1 := by
  rw [paymentByKey, getPaymentByExternalId_eq_some]
  obtain ⟨-, -, ⟨existing, hfind, hrow, hrows⟩ | ⟨-, hrow, hrows⟩⟩ :=
    db.upsertPayment_spec key.1 key.2 fields horder
  · obtain ⟨hmem, hkey⟩ := getPaymentByExternalId_eq_some.mp hfind
    rw [hrow, hrows]
    exact ⟨List.mem_map.mpr ⟨existing, hmem, by simp⟩, hkey⟩
  · rw [hrow, hrows]
    exact ⟨List.mem_append_right _ (List.mem_singleton_self _), rfl, rfl⟩

/-- The row an upsert writes is the one `paymentAfter` names. -/
theorem upsertPayment_row (db : OrdersDB) (data : SyncedOrder) (orderId : UUID)
    (horder : ∃ o ∈ db.orders.rows, o.id = (data.paymentFields orderId).orderId) :
    (db.upsertPayment data.sourceSystem data.externalId (data.paymentFields orderId)
      horder).1 = db.paymentAfter data orderId := by
  obtain ⟨-, -, ⟨existing, hfind, hrow, -⟩ | ⟨hfind, hrow, -⟩⟩ :=
    db.upsertPayment_spec data.sourceSystem data.externalId (data.paymentFields orderId) horder
  · rw [hrow, paymentAfter, paymentByKey, SyncedOrder.key, hfind]
  · rw [hrow, paymentAfter, paymentByKey, SyncedOrder.key, hfind]

theorem paymentByKey_writeDependents (data : SyncedOrder) {db : OrdersDB} {order : Order}
    (horder : order ∈ db.orders.rows) (created : Bool) :
    (data.writeDependents db order horder created).paymentByKey data.key =
      some (db.paymentAfter data order.id) := by
  let itemed : OrdersDB :=
    { db with
      stock := data.items.foldl (SyncedOrder.upsertItem data.sourceSystem order.id) db.stock }
  have hexists : ∃ o ∈ itemed.orders.rows, o.id = (data.paymentFields order.id).orderId :=
    ⟨order, horder, rfl⟩
  have hfound := itemed.paymentByKey_upsertPayment data.key (data.paymentFields order.id) hexists
  exact hfound.trans (congrArg some (itemed.upsertPayment_row data order.id hexists))

/-- Two orders of one database with the same number are one order. -/
theorem order_eq_of_number_eq {db : OrdersDB} {o o' : Order} (ho : o ∈ db.orders.rows)
    (ho' : o' ∈ db.orders.rows) (hnumber : o'.orderNumber = o.orderNumber) : o' = o :=
  db.orders.eq_of_shared_key (k := .number o.orderNumber) ho' ho
    (by simp [Order.keys, hnumber]) (by simp [Order.keys])

/-- The database accepts the columns of a version exactly when its order number is free. -/
theorem updateOrder?_eq_none_iff {db : OrdersDB} {data : SyncedOrder} {existing : Order}
    (hfind : db.orderByKey data.key = some existing) :
    db.updateOrder? existing.id (data.write db) (fun _ => rfl) = none ↔
      ¬ db.NumberFree data := by
  obtain ⟨hmem, hkeyed⟩ := orderByKey_eq_some.mp hfind
  have honly : ∀ o ∈ db.orders.rows, o.KeyedBy data.key → o = existing := fun o ho ho' => by
    rw [orderByKey_eq_some.mpr ⟨ho, ho'⟩] at hfind
    exact Option.some.inj hfind
  constructor
  · -- a refusal means that a key of the written row is taken, and only the number can be
    intro hnone hfree
    obtain ⟨orders, hupd⟩ : ∃ t, db.orders.update? (fun o => o.id == existing.id)
        (data.write db) = some t := by
      refine Table.exists_update? (fun o ho hid => order_eq_of_id_eq hmem ho (by simpa using hid))
        (by simp [Order.keys]) ?_ fun k hk o ho hko => ?_
      · cases hs : existing.sourceSystem <;> cases he : existing.externalId <;>
          simp [Order.keys, externalKey, SyncedOrder.write, hs, he]
      · by_cases hkey : o.KeyedBy data.key
        · exact honly o ho hkey
        · have hnumber := hfree o ho hkey
          obtain ⟨hsource, hexternal⟩ := hkeyed
          simp only [Order.keys, SyncedOrder.write, externalKey, hsource, hexternal,
            List.map_cons, List.map_nil, List.mem_cons, List.not_mem_nil, or_false] at hk
          rcases hk with rfl | rfl | rfl
          · exact order_eq_of_id_eq hmem ho (by simpa [Order.keys, eq_comm] using hko)
          · exact absurd (by simpa [Order.keys, eq_comm] using hko) hnumber
          · exact absurd (by simpa [Order.keys, mem_externalKey, Order.KeyedBy] using hko) hkey
    unfold updateOrder? at hnone
    split at hnone
    · rename_i hfail
      rw [hfail] at hupd
      cases hupd
    · cases hnone
  · intro htaken
    cases hupd : db.updateOrder? existing.id (data.write db) (fun _ => rfl) with
    | none => rfl
    | some written =>
      -- in the written table the other order and the written one would share the number
      refine absurd (fun o ho hkey hnumber => ?_) htaken
      obtain ⟨-, hrows⟩ := updateOrder?_eq_some hupd
      have hne : o.id ≠ existing.id := fun hid =>
        hkey (order_eq_of_id_eq hmem ho hid ▸ hkeyed)
      have hother : o ∈ written.orders.rows := by
        rw [hrows]
        exact List.mem_map.mpr ⟨o, ho, by simp [hne]⟩
      have hself : data.write db existing ∈ written.orders.rows := by
        rw [hrows]
        exact List.mem_map.mpr ⟨existing, hmem, by simp⟩
      have hsame := order_eq_of_number_eq hself hother hnumber
      exact hne (by rw [hsame]; rfl)

/-- A new order is accepted under the same condition. -/
theorem insertOrder?_eq_none_iff {db : OrdersDB} {data : SyncedOrder}
    (hfind : db.orderByKey data.key = none) :
    db.insertOrder? (data.newOrder db) = none ↔ ¬ db.NumberFree data := by
  have htable : db.insertOrder? (data.newOrder db) = none ↔
      db.orders.insert? (data.newOrder db) = none := by
    unfold insertOrder?
    split <;> simp_all
  have hkeys : (data.newOrder db).keys = [.id db.newOrderId, .number data.orderNumber,
      .external data.key] := rfl
  rw [htable, Table.insert?_eq_none_iff (by simp [hkeys]), hkeys]
  constructor
  · rintro ⟨k, hk, o, ho, hko⟩ hfree
    have hkey := orderByKey_eq_none hfind ho
    simp only [List.mem_cons, List.not_mem_nil, or_false] at hk
    rcases hk with rfl | rfl | rfl
    · have hid : db.newOrderId = o.id := by simpa [Order.keys] using hko
      exact absurd hid.symm (lt_unusedId (List.mem_map_of_mem ho)).ne
    · exact hfree o ho hkey (by simpa [Order.keys, eq_comm] using hko)
    · exact hkey (by simpa [Order.keys, mem_externalKey, Order.KeyedBy] using hko)
  · intro htaken
    simp only [NumberFree, not_forall, not_not] at htaken
    obtain ⟨o, ho, -, hnumber⟩ := htaken
    exact ⟨.number data.orderNumber, by simp, o, ho, by simp [Order.keys, hnumber]⟩

theorem paymentAfter_congr {db db' : OrdersDB} (h : db'.payments = db.payments)
    (data : SyncedOrder) (orderId : UUID) :
    db'.paymentAfter data orderId = db.paymentAfter data orderId := by
  simp only [paymentAfter, paymentByKey, getPaymentByExternalId, PaymentFields.newRow,
    newPaymentId, h]

/-- What the dependents' writes leave once the order itself is written. -/
theorem applied_writeDependents {db written : OrdersDB} {data : SyncedOrder} {order : Order}
    (horder : order ∈ written.orders.rows) (hkeyed : order.KeyedBy data.key)
    (hcolumns : order.syncedColumns = data.columns) (hpayments : written.payments = db.payments)
    (hothers : ∀ o, ¬ o.KeyedBy data.key → (o ∈ written.orders.rows ↔ o ∈ db.orders.rows))
    (created : Bool) :
    Applied data db (data.writeDependents written order horder created) order where
  order_eq := by
    rw [orderByKey_eq_some, (data.writeDependents_frame horder created).1]
    exact ⟨horder, hkeyed⟩
  columns_eq := hcolumns
  payment_eq := by
    rw [paymentByKey_writeDependents, paymentAfter_congr hpayments]
  others := by
    rw [(data.writeDependents_frame horder created).1]
    exact hothers

/-- A stored order whose columns are accepted. -/
theorem upsertSyncedOrder_of_update {db written : OrdersDB} {data : SyncedOrder}
    {existing order : Order} (hfind : db.orderByKey data.key = some existing)
    (hstale : data.isStale existing = false)
    (hupd : db.updateOrder? existing.id (data.write db) (fun _ => rfl) = some written)
    (hget : written.getOrder existing.id = some order) :
    upsertSyncedOrder db data = some (false, data.writeDependents written order
      (getOrder_eq_some.mp hget).1 false) := by
  have hfind' : db.getOrderByExternalId data.sourceSystem data.externalId = some existing := hfind
  simp only [upsertSyncedOrder, hfind', hstale, Bool.false_eq_true, if_false, hupd]
  split
  · rename_i hnone
    cases hget.symm.trans hnone
  · rename_i order' hget'
    cases hget.symm.trans hget'
    rfl

/-- An order the store has not delivered before. -/
theorem upsertSyncedOrder_of_insert {db written : OrdersDB} {data : SyncedOrder} {order : Order}
    (hfind : db.orderByKey data.key = none)
    (hins : db.insertOrder? (data.newOrder db) = some written)
    (hget : written.getOrder (data.newOrder db).id = some order) :
    upsertSyncedOrder db data = some (true, data.writeDependents written order
      (getOrder_eq_some.mp hget).1 true) := by
  have hfind' : db.getOrderByExternalId data.sourceSystem data.externalId = none := hfind
  simp only [upsertSyncedOrder, hfind', hins]
  split
  · rename_i hnone
    cases hget.symm.trans hnone
  · rename_i order' hget'
    cases hget.symm.trans hget'
    rfl

/-- A delivery whose order is rewritten is applied to it. -/
theorem applied_of_updateOrder? {db written : OrdersDB} {data : SyncedOrder} {existing : Order}
    (hfind : db.orderByKey data.key = some existing) (hstale : data.isStale existing = false)
    (hupd : db.updateOrder? existing.id (data.write db) (fun _ => rfl) = some written) :
    ∃ order, order.id = existing.id ∧ Applied data db (db.receive data) order := by
  obtain ⟨hmem, hkeyed⟩ := orderByKey_eq_some.mp hfind
  obtain ⟨hpayments, hrows⟩ := updateOrder?_eq_some hupd
  have hwritten : data.write db existing ∈ written.orders.rows := by
    rw [hrows]
    exact List.mem_map.mpr ⟨existing, hmem, by simp⟩
  have hget : written.getOrder existing.id = some (data.write db existing) :=
    getOrder_eq_some.mpr ⟨hwritten, rfl⟩
  have hupsert := upsertSyncedOrder_of_update hfind hstale hupd hget
  refine ⟨data.write db existing, rfl, ?_⟩
  rw [receive, hupsert]
  refine applied_writeDependents hwritten hkeyed rfl hpayments (fun o ho => ?_) false
  -- the rows of other orders are as they were
  have hne : ∀ o' ∈ db.orders.rows, ¬ o'.KeyedBy data.key → o'.id ≠ existing.id :=
    fun o' ho' hkey hid => hkey (order_eq_of_id_eq hmem ho' hid ▸ hkeyed)
  rw [hrows, List.mem_map]
  constructor
  · rintro ⟨o', ho', rfl⟩
    by_cases hid : o'.id = existing.id
    · rw [order_eq_of_id_eq hmem ho' hid, if_pos (by simp)] at ho
      exact absurd hkeyed ho
    · rwa [if_neg (by simpa using hid)]
  · intro hold
    exact ⟨o, hold, if_neg (by simpa using hne o hold ho)⟩

/-- One of an order that is not stored is applied to a new row. -/
theorem applied_of_insertOrder? {db written : OrdersDB} {data : SyncedOrder}
    (hfind : db.orderByKey data.key = none)
    (hins : db.insertOrder? (data.newOrder db) = some written) :
    ∃ order, order.id = db.newOrderId ∧ Applied data db (db.receive data) order := by
  obtain ⟨hpayments, hrows⟩ := insertOrder?_eq_some hins
  have hwritten : data.newOrder db ∈ written.orders.rows := by
    rw [hrows]
    exact List.mem_append_right _ (List.mem_singleton_self _)
  have hget : written.getOrder (data.newOrder db).id = some (data.newOrder db) :=
    getOrder_eq_some.mpr ⟨hwritten, rfl⟩
  have hupsert := upsertSyncedOrder_of_insert hfind hins hget
  refine ⟨data.newOrder db, rfl, ?_⟩
  rw [receive, hupsert]
  refine applied_writeDependents hwritten (data.keyedBy_newOrder db) rfl hpayments
    (fun o ho => ?_) true
  rw [hrows, List.mem_append, List.mem_singleton]
  refine or_iff_left fun hnew => ho ?_
  rw [hnew]
  exact data.keyedBy_newOrder db

/-- What a delivery does: nothing when it is stale or its order number is taken, else it is
applied to the stored order, or to a new one. -/
theorem receive_cases (db : OrdersDB) (data : SyncedOrder) :
    (∃ existing, db.orderByKey data.key = some existing ∧ data.isStale existing = true ∧
      db.receive data = db) ∨
    (∃ existing, db.orderByKey data.key = some existing ∧ data.isStale existing = false ∧
      db.NumberFree data ∧ ∃ order, order.id = existing.id ∧
        Applied data db (db.receive data) order) ∨
    (db.orderByKey data.key = none ∧ db.NumberFree data ∧ ∃ order, order.id = db.newOrderId ∧
        Applied data db (db.receive data) order) ∨
    ((∀ existing, db.orderByKey data.key = some existing → data.isStale existing = false) ∧
      ¬ db.NumberFree data ∧ db.receive data = db) := by
  cases hfind : db.orderByKey data.key with
  | some existing =>
    have hfind' : db.getOrderByExternalId data.sourceSystem data.externalId = some existing :=
      hfind
    by_cases hstale : data.isStale existing = true
    · refine .inl ⟨existing, rfl, hstale, ?_⟩
      simp [receive, upsertSyncedOrder, hfind', hstale]
    · rw [Bool.not_eq_true] at hstale
      have haccept := updateOrder?_eq_none_iff hfind
      cases hupd : db.updateOrder? existing.id (data.write db) fun _ => rfl with
      | none =>
        refine .inr (.inr (.inr ⟨fun o ho => ?_, haccept.mp hupd, ?_⟩))
        · cases ho
          exact hstale
        · simp [receive, upsertSyncedOrder, hfind', hstale, hupd]
      | some written =>
        have hfree : db.NumberFree data :=
          not_not.mp fun hnot => by simp [haccept.mpr hnot] at hupd
        exact .inr (.inl ⟨existing, rfl, hstale, hfree, applied_of_updateOrder? hfind hstale hupd⟩)
  | none =>
    have hfind' : db.getOrderByExternalId data.sourceSystem data.externalId = none := hfind
    have haccept := insertOrder?_eq_none_iff hfind
    cases hins : db.insertOrder? (data.newOrder db) with
    | none =>
      refine .inr (.inr (.inr ⟨fun o ho => ?_, haccept.mp hins, ?_⟩))
      · cases ho
      · rw [receive, upsertSyncedOrder]
        simp only [hfind', hins]
    | some written =>
      have hfree : db.NumberFree data :=
        not_not.mp fun hnot => by simp [haccept.mpr hnot] at hins
      exact .inr (.inr (.inl ⟨rfl, hfree, applied_of_insertOrder? hfind hins⟩))

end OrdersDB

/-! ## Section 3: The register -/

namespace OrdersDB

/-- The id of the order the versions under a key are written to. -/
def orderIdFor (base : OrdersDB) (key : SourceSystem × String) : UUID :=
  match base.orderByKey key with
  | some existing => existing.id
  | none => base.newOrderId

/-- The stamp deliveries are compared with before any version is taken. -/
def floorOf (base : OrdersDB) (key : SourceSystem × String) : Option Instant :=
  (base.orderByKey key).bind (·.externalUpdatedAt)

/-- The version taken last decides the payment record, whatever was taken before it. -/
theorem paymentAfter_of_paymentAfter {base db : OrdersDB} {first data : SyncedOrder}
    {orderId : UUID} (hkey : first.key = data.key)
    (h : db.paymentByKey data.key = some (base.paymentAfter first orderId)) :
    db.paymentAfter data orderId = base.paymentAfter data orderId := by
  obtain ⟨hsource, hexternal⟩ := Prod.mk.inj hkey
  rw [paymentAfter, h, paymentAfter, paymentAfter, hkey, hsource, hexternal]
  cases base.paymentByKey data.key <;> rfl

end OrdersDB

/-- The state shows the version the register holds, on top of what was stored at first. -/
structure Shows (base : OrdersDB) (key : SourceSystem × String) (held : Option SyncedOrder)
    (db : OrdersDB) : Prop where
  others : ∀ o, ¬ o.KeyedBy key → (o ∈ db.orders.rows ↔ o ∈ base.orders.rows)
  untouched : held = none → db = base
  shown : ∀ data ∈ held, data.key = key ∧ ∃ order, db.orderByKey key = some order ∧
    order.id = base.orderIdFor key ∧ order.syncedColumns = data.columns ∧
    db.paymentByKey key = some (base.paymentAfter data order.id)

namespace Shows

variable {base db : OrdersDB} {key : SourceSystem × String} {held : Option SyncedOrder}
  {data : SyncedOrder}

theorem start (base : OrdersDB) (key : SourceSystem × String) : Shows base key none base where
  others _ _ := Iff.rfl
  untouched _ := rfl
  shown := by simp

/-- The orders of other keys are as at first, so the same order numbers are free. -/
theorem numberFree_iff (h : Shows base key held db) (hkey : data.key = key) :
    db.NumberFree data ↔ base.NumberFree data := by
  unfold OrdersDB.NumberFree
  rw [hkey]
  constructor
  · intro hfree o ho hother
    exact hfree o ((h.others o hother).mpr ho) hother
  · intro hfree o ho hother
    exact hfree o ((h.others o hother).mp ho) hother

/-- The stamp of the stored order is the one the register compares with. -/
theorem stored_stamp (h : Shows base key held db)
    (hheld : ∀ d ∈ held, d.externalUpdatedAt ≠ none) :
    (db.orderByKey key).bind (·.externalUpdatedAt) =
      (held.map SyncedOrder.stamp).or (base.floorOf key) := by
  cases held with
  | none =>
    rw [h.untouched rfl]
    rfl
  | some first =>
    obtain ⟨-, order, hfind, -, hcolumns, -⟩ := h.shown first rfl
    obtain ⟨t, ht⟩ := Option.ne_none_iff_exists'.mp (hheld first rfl)
    have hstamp : order.externalUpdatedAt = first.externalUpdatedAt :=
      congrArg SyncedColumns.externalUpdatedAt hcolumns
    simp [hfind, hstamp, SyncedOrder.stamp, ht]

/-- A delivery is stale for the code exactly when the register refuses it. -/
theorem isStale_iff (h : Shows base key held db)
    (hheld : ∀ d ∈ held, d.externalUpdatedAt ≠ none) (hstamped : data.externalUpdatedAt ≠ none) :
    (∃ existing, db.orderByKey key = some existing ∧ data.isStale existing = true) ↔
      LastWriter.Stale SyncedOrder.stamp (base.floorOf key) held data := by
  obtain ⟨t, ht⟩ := Option.ne_none_iff_exists'.mp hstamped
  have hdata : data.stamp = t := by simp [SyncedOrder.stamp, ht]
  unfold LastWriter.Stale
  rw [← h.stored_stamp hheld, hdata]
  constructor
  · rintro ⟨existing, hfind, hstale⟩
    cases hstored : existing.externalUpdatedAt with
    | none => simp [SyncedOrder.isStale, ht, hstored] at hstale
    | some stored =>
      refine ⟨stored, by simp [hfind, hstored], ?_⟩
      simpa [SyncedOrder.isStale, ht, hstored] using hstale
  · rintro ⟨stored, hstored, hlt⟩
    obtain ⟨existing, hfind, hat⟩ := Option.bind_eq_some_iff.mp hstored
    exact ⟨existing, hfind, by simpa [SyncedOrder.isStale, ht, hat] using hlt⟩

/-- An applied delivery is the version held from then on. -/
theorem applied (h : Shows base key held db) (hkey : data.key = key) {db' : OrdersDB}
    {order : Order} (hid : order.id = base.orderIdFor key) (happlied : Applied data db db' order) :
    Shows base key (some data) db' where
  others o hother := by
    rw [happlied.others o (by rwa [hkey])]
    exact h.others o hother
  untouched := by simp
  shown := by
    intro data' hdata'
    obtain rfl : data = data' := Option.some.inj hdata'
    refine ⟨hkey, order, hkey ▸ happlied.order_eq, hid, happlied.columns_eq, ?_⟩
    rw [← hkey, happlied.payment_eq]
    cases held with
    | none => rw [h.untouched rfl]
    | some first =>
      obtain ⟨hfirst, order', -, hid', -, hpayment⟩ := h.shown first rfl
      subst hkey
      rw [hid'.trans hid.symm] at hpayment
      rw [OrdersDB.paymentAfter_of_paymentAfter hfirst hpayment]

/-- The id an applied delivery's order has is the one the key stands for. -/
theorem orderIdFor_of_find (h : Shows base key held db) {existing : Order}
    (hfind : db.orderByKey key = some existing) : existing.id = base.orderIdFor key := by
  cases held with
  | none =>
    rw [h.untouched rfl] at hfind
    rw [OrdersDB.orderIdFor, hfind]
  | some first =>
    obtain ⟨-, order, hfind', hid, -, -⟩ := h.shown first rfl
    obtain rfl : existing = order := Option.some.inj (hfind.symm.trans hfind')
    exact hid

/-- No order is stored under the key: nothing has been taken, and the next id is the one
the key stands for. -/
theorem orderIdFor_of_none (h : Shows base key held db) (hfind : db.orderByKey key = none) :
    db.newOrderId = base.orderIdFor key := by
  cases held with
  | none =>
    rw [h.untouched rfl] at hfind ⊢
    rw [OrdersDB.orderIdFor, hfind]
  | some first =>
    obtain ⟨-, order, hfind', -, -, -⟩ := h.shown first rfl
    rw [hfind] at hfind'
    cases hfind'

/-- One delivery offers its version to the register; one whose order number is taken does
nothing. -/
theorem receive (h : Shows base key held db) (hheld : ∀ d ∈ held, d.externalUpdatedAt ≠ none)
    (hkey : data.key = key) (hstamped : data.externalUpdatedAt ≠ none) :
    (base.NumberFree data → Shows base key
      (LastWriter.offer SyncedOrder.stamp (base.floorOf key) held data) (db.receive data)) ∧
    (¬ base.NumberFree data → Shows base key held (db.receive data)) := by
  have hfree := h.numberFree_iff hkey
  have hstale := h.isStale_iff hheld hstamped
  subst hkey
  rcases db.receive_cases data with ⟨existing, hfind, hold, heq⟩ |
    ⟨existing, hfind, hfresh, hnumber, order, hid, happlied⟩ |
    ⟨hfind, hnumber, order, hid, happlied⟩ | ⟨hfresh, htaken, heq⟩
  · -- stale: dropped by the code, refused by the register
    rw [heq, LastWriter.offer, if_pos (hstale.mp ⟨existing, hfind, hold⟩)]
    exact ⟨fun _ => h, fun _ => h⟩
  · -- written over the stored order
    have hoffered : ¬ LastWriter.Stale SyncedOrder.stamp (base.floorOf data.key) held data := by
      rw [← hstale]
      rintro ⟨existing', hfind', hold⟩
      obtain rfl : existing' = existing := Option.some.inj (hfind'.symm.trans hfind)
      simp [hold] at hfresh
    rw [LastWriter.offer, if_neg hoffered]
    exact ⟨fun _ => h.applied rfl (hid.trans (h.orderIdFor_of_find hfind)) happlied,
      fun htaken => absurd (hfree.mp hnumber) htaken⟩
  · -- the order is created
    have hoffered : ¬ LastWriter.Stale SyncedOrder.stamp (base.floorOf data.key) held data := by
      rw [← hstale]
      rintro ⟨existing', hfind', -⟩
      simp [hfind] at hfind'
    rw [LastWriter.offer, if_neg hoffered]
    exact ⟨fun _ => h.applied rfl (hid.trans (h.orderIdFor_of_none hfind)) happlied,
      fun htaken => absurd (hfree.mp hnumber) htaken⟩
  · rw [heq]
    exact ⟨fun hnumber => absurd (hfree.mpr hnumber) htaken, fun _ => h⟩

/-- A run of deliveries offers the versions whose order number is free, one after another. -/
theorem run_receive (h : Shows base key held db) (hheld : ∀ d ∈ held, d.externalUpdatedAt ≠ none)
    {deliveries : List SyncedOrder}
    (hversions : ∀ d ∈ deliveries, d.key = key ∧ d.externalUpdatedAt ≠ none)
    [DecidablePred base.NumberFree] :
    Shows base key ((deliveries.filter base.NumberFree).foldl
      (LastWriter.offer SyncedOrder.stamp (base.floorOf key)) held)
      (run OrdersDB.receive db deliveries) := by
  induction deliveries generalizing held db with
  | nil => exact h
  | cons data deliveries ih =>
    obtain ⟨⟨hkey, hstamped⟩, hrest⟩ := List.forall_mem_cons.mp hversions
    obtain ⟨hoffered, hrefused⟩ := h.receive hheld hkey hstamped
    rw [run_cons]
    by_cases hnumber : base.NumberFree data
    · rw [List.filter_cons_of_pos (by simpa using hnumber), List.foldl_cons]
      refine ih (hoffered hnumber) (fun d hd => ?_) hrest
      unfold LastWriter.offer at hd
      split at hd
      · exact hheld d hd
      · cases hd
        exact hstamped
    · rw [List.filter_cons_of_neg (by simpa using hnumber)]
      exact ih (hrefused hnumber) hheld hrest

end Shows

/-! ## Section 4: The newest version wins -/

/-- The columns the store owns of the order a key stands for, and the store's payment. -/
def OrdersDB.view (db : OrdersDB) (key : SourceSystem × String) :
    Option SyncedColumns × Option Payment :=
  ((db.orderByKey key).map Order.syncedColumns, db.paymentByKey key)

/-- What a state shows depends on the version held only. -/
theorem Shows.view_eq {base db db' : OrdersDB} {key : SourceSystem × String}
    {held : Option SyncedOrder} (h : Shows base key held db) (h' : Shows base key held db') :
    db.view key = db'.view key := by
  cases held with
  | none => rw [h.untouched rfl, h'.untouched rfl]
  | some data =>
    obtain ⟨-, order, hfind, hid, hcolumns, hpayment⟩ := h.shown data rfl
    obtain ⟨-, order', hfind', hid', hcolumns', hpayment'⟩ := h'.shown data rfl
    simp [OrdersDB.view, hfind, hfind', hcolumns, hcolumns', hpayment, hpayment',
      hid.trans hid'.symm]

/-- The versions of one order have pairwise different stamps. -/
structure VersionsOf (key : SourceSystem × String) (versions : Finset SyncedOrder) : Prop where
  key_eq : ∀ d ∈ versions, d.key = key
  stamped : ∀ d ∈ versions, d.externalUpdatedAt ≠ none
  distinct : ∀ d ∈ versions, ∀ d' ∈ versions, d.externalUpdatedAt = d'.externalUpdatedAt → d = d'

instance (key : SourceSystem × String) (versions : Finset SyncedOrder) :
    Decidable (VersionsOf key versions) :=
  decidable_of_iff ((∀ d ∈ versions, d.key = key) ∧ (∀ d ∈ versions, d.externalUpdatedAt ≠ none) ∧
      ∀ d ∈ versions, ∀ d' ∈ versions, d.externalUpdatedAt = d'.externalUpdatedAt → d = d')
    ⟨fun ⟨h, h', h''⟩ => ⟨h, h', h''⟩, fun h => ⟨h.key_eq, h.stamped, h.distinct⟩⟩

theorem VersionsOf.eq_of_stamp_eq {key : SourceSystem × String} {versions : Finset SyncedOrder}
    (h : VersionsOf key versions) {d d' : SyncedOrder} (hd : d ∈ versions) (hd' : d' ∈ versions)
    (heq : d.stamp = d'.stamp) : d = d' := by
  obtain ⟨t, ht⟩ := Option.ne_none_iff_exists'.mp (h.stamped d hd)
  obtain ⟨t', ht'⟩ := Option.ne_none_iff_exists'.mp (h.stamped d' hd')
  refine h.distinct d hd d' hd' ?_
  simpa [SyncedOrder.stamp, ht, ht'] using heq

/-- A version that is committed when it is delivered alone is stale, or its number is free. -/
theorem stale_or_numberFree {base : OrdersDB} {data : SyncedOrder}
    (hcommits : (upsertSyncedOrder base data).isSome) :
    (∃ existing, base.orderByKey data.key = some existing ∧ data.isStale existing = true) ∨
      base.NumberFree data := by
  by_contra hnot
  obtain ⟨hfresh, htaken⟩ := not_or.mp hnot
  cases hfind : base.orderByKey data.key with
  | some existing =>
    have hfind' : base.getOrderByExternalId data.sourceSystem data.externalId = some existing :=
      hfind
    have hold : data.isStale existing = false := by
      simpa using fun hstale => hfresh ⟨existing, hfind, hstale⟩
    simp [upsertSyncedOrder, hfind', hold, (OrdersDB.updateOrder?_eq_none_iff hfind).mpr htaken]
      at hcommits
  | none =>
    have hfind' : base.getOrderByExternalId data.sourceSystem data.externalId = none := hfind
    simp [upsertSyncedOrder, hfind', (OrdersDB.insertOrder?_eq_none_iff hfind).mpr htaken]
      at hcommits

/-- An order as it was placed. -/
def placedVersion : SyncedOrder where
  externalId := "450789469"
  orderNumber := "#1001"
  totalAmount := 100
  paymentStatus := .pending
  externalUpdatedAt := some 1
  items := [{ externalId := "466157049", sku := "TEA", quantity := 2 }]

/-- The same order after it was paid. -/
def paidVersion : SyncedOrder where
  externalId := "450789469"
  orderNumber := "#1001"
  totalAmount := 120
  paymentStatus := .paid
  externalUpdatedAt := some 2
  shopifyTags := ["paid"]

end AyushOms.Orders
