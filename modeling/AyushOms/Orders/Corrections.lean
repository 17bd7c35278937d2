import AyushOms.Orders.Staleness
import AyushOms.Orders.Returns
import AyushOms.Shopify.Callers

/-!
# Corrections and Resyncs

Staff correct an order after it was synced: `update_item_variant` moves a line to another
variant, `update_shipping_address` saves another address. A resync writes the same columns. So a
correction stands as long as every resync is dropped, or carries the correction itself.

## Main results

- `resolvesTo_throughout_iff`, `shipsTo_throughout_iff`: the runs of resyncs through which a
  correction stands
- `corrections_survive_iff`: the two corrections, and what resyncs leave of them
-/

namespace AyushOms.Orders

open AyushOms.Lib AyushOms.Inventory AyushOms.Shopify

/-! ## Section 1: A delivered line meets a stored one -/

namespace SyncedItem

/-- The variant a delivered line names, when it is known here. -/
def variantId (line : SyncedItem) (source : SourceSystem) (stock : Stock) : Option UUID :=
  match pyOr line.shopifyVariantId none with
  | none => none
  | some external =>
    (stock.variants.find? fun v =>
      v.sourceSystem == some source && v.externalId == some external).map (·.id)

/-- The stored line after a delivered one with its key. -/
def write (line : SyncedItem) (source : SourceSystem) (orderId : UUID) (stock : Stock)
    (row : OrderItem) : OrderItem :=
  { row with
    orderId := orderId
    productVariantId := line.variantId source stock
    sku := line.sku
    productName := line.productName
    quantity := line.quantity }

/-- The key of the stored line. -/
def isFor (line : SyncedItem) (source : SourceSystem) (row : OrderItem) : Bool :=
  row.sourceSystem == some source && row.externalId == some line.externalId

/-- The stored line after a delivered one. -/
def rewrite (line : SyncedItem) (source : SourceSystem) (orderId : UUID) (stock : Stock)
    (row : OrderItem) : OrderItem :=
  if line.isFor source row then line.write source orderId stock row else row

end SyncedItem

namespace SyncedOrder

variable {source : SourceSystem} {orderId : UUID} {stock : Stock} {i : ℕ} {row : OrderItem}

/-- A stored line keeps its place, and is rewritten when it has the delivered one's key. -/
theorem getElem?_upsertItem (h : stock.orderItems.rows[i]? = some row) (line : SyncedItem) :
    (upsertItem source orderId stock line).orderItems.rows[i]? =
      some (line.rewrite source orderId stock row) := by
  unfold upsertItem
  dsimp only
  split
  · rw [Table.rows_modify, List.getElem?_map, h]
    rfl
  · rename_i hnone
    have hother : line.isFor source row = false :=
      Bool.eq_false_iff.mpr (Table.find?_eq_none.mp hnone row (List.mem_of_getElem? h))
    rw [SyncedItem.rewrite, hother, if_neg Bool.false_ne_true]
    cases hins : stock.orderItems.insert? _ with
    | none => exact h
    | some rows =>
      rw [Option.getD_some, Table.rows_of_insert? hins]
      have hlt : i < stock.orderItems.rows.length := (List.getElem?_eq_some_iff.mp h).1
      rw [List.getElem?_append_left hlt, h]

/-- The last delivered line with the key of the stored one. -/
def lineFor (data : SyncedOrder) (row : OrderItem) : Option SyncedItem :=
  data.items.reverse.find? fun line => line.isFor data.sourceSystem row

/-- What the delivered lines leave of a stored one: only the last with its key counts. -/
theorem foldl_rewrite (source : SourceSystem) (orderId : UUID) (stock : Stock) (row : OrderItem)
    (lines : List SyncedItem) :
    lines.foldl (fun row line => line.rewrite source orderId stock row) row =
      match lines.reverse.find? fun line => line.isFor source row with
      | some line => line.write source orderId stock row
      | none => row := by
  induction lines using List.reverseRecOn with
  | nil => rfl
  | append_singleton lines line ih =>
    rw [List.foldl_append, List.foldl_cons, List.foldl_nil, List.reverse_append,
      List.reverse_singleton, List.singleton_append, List.find?_cons, ih]
    -- the key survives the lines before
    have hkey : line.isFor source (match lines.reverse.find? fun line => line.isFor source row with
        | some line => line.write source orderId stock row
        | none => row) = line.isFor source row := by
      split
      · rfl
      · rfl
    cases hfor : line.isFor source row with
    | true =>
      rw [SyncedItem.rewrite, hkey, hfor, if_pos rfl]
      dsimp only
      split
      · rfl
      · rfl
    | false => rw [SyncedItem.rewrite, hkey, hfor, if_neg Bool.false_ne_true]

/-- The lines are looked up among the same variants. -/
theorem rewrite_congr {stock' : Stock} (h : stock'.variants = stock.variants) (line : SyncedItem) :
    line.rewrite source orderId stock' = line.rewrite source orderId stock := by
  funext row
  simp only [SyncedItem.rewrite, SyncedItem.write, SyncedItem.variantId, h]

/-- A stored line after all delivered ones. -/
theorem getElem?_upsertItems (h : stock.orderItems.rows[i]? = some row) (lines : List SyncedItem) :
    (lines.foldl (upsertItem source orderId) stock).orderItems.rows[i]? =
      some (lines.foldl (fun row line => line.rewrite source orderId stock row) row) := by
  induction lines generalizing stock row with
  | nil => exact h
  | cons line lines ih =>
    have hvariants : (upsertItem source orderId stock line).variants = stock.variants :=
      (upsertItem_stock source orderId stock line).1
    rw [List.foldl_cons, ih (getElem?_upsertItem h line), List.foldl_cons]
    simp only [rewrite_congr hvariants]

end SyncedOrder

/-! ## Section 2: A resync is dropped or applied -/

namespace OrdersDB

variable {db : OrdersDB} {data : SyncedOrder}

/-- The resync is not older than what is stored, and no other order has its order number. -/
def Accepts (db : OrdersDB) (data : SyncedOrder) : Prop :=
  (∀ existing ∈ db.orderByKey data.key, data.isStale existing = false) ∧ db.NumberFree data

instance (data : SyncedOrder) (o : Order) : Decidable (o.KeyedBy data.key) :=
  inferInstanceAs (Decidable (_ ∧ _))

instance (db : OrdersDB) (data : SyncedOrder) : Decidable (db.Accepts data) :=
  haveI : Decidable (db.NumberFree data) :=
    inferInstanceAs (Decidable (∀ o ∈ db.orders.rows, _ → _))
  inferInstanceAs (Decidable (_ ∧ _))

theorem receive_of_not_accepts (h : ¬ db.Accepts data) : db.receive data = db := by
  rcases db.receive_cases data with ⟨-, -, -, hsame⟩ | ⟨existing, hfind, hfresh, hfree, -⟩ |
    ⟨hnone, hfree, -⟩ | ⟨-, -, hsame⟩
  · exact hsame
  · refine absurd ⟨fun o ho => ?_, hfree⟩ h
    rw [Option.mem_def, hfind, Option.some_inj] at ho
    rwa [← ho]
  · refine absurd ⟨fun o ho => ?_, hfree⟩ h
    rw [Option.mem_def, hnone] at ho
    cases ho
  · exact hsame

/-- An accepted resync upserts its lines, of one order or another. -/
theorem stock_receive (h : db.Accepts data) :
    ∃ orderId, (db.receive data).stock =
      data.items.foldl (SyncedOrder.upsertItem data.sourceSystem orderId) db.stock := by
  obtain ⟨hfresh, hfree⟩ := h
  cases hfind : db.orderByKey data.key with
  | some existing =>
    cases hupd : db.updateOrder? existing.id (data.write db) fun _ => rfl with
    | none => exact absurd hfree ((updateOrder?_eq_none_iff hfind).mp hupd)
    | some written =>
      have hmem : data.write db existing ∈ written.orders.rows := by
        rw [(updateOrder?_eq_some hupd).2]
        exact List.mem_map.mpr ⟨existing, (orderByKey_eq_some.mp hfind).1, by simp⟩
      have hget : written.getOrder existing.id = some (data.write db existing) :=
        getOrder_eq_some.mpr ⟨hmem, rfl⟩
      refine ⟨existing.id, ?_⟩
      rw [receive, upsertSyncedOrder_of_update hfind (hfresh existing hfind) hupd hget]
      dsimp only
      rw [stock_writeDependents, stock_of_updateOrder? hupd]
      rfl
  | none =>
    cases hins : db.insertOrder? (data.newOrder db) with
    | none => exact absurd hfree ((insertOrder?_eq_none_iff hfind).mp hins)
    | some written =>
      have hmem : data.newOrder db ∈ written.orders.rows := by
        rw [(insertOrder?_eq_some hins).2]
        exact List.mem_append_right _ (List.mem_singleton_self _)
      have hget : written.getOrder (data.newOrder db).id = some (data.newOrder db) :=
        getOrder_eq_some.mpr ⟨hmem, rfl⟩
      refine ⟨db.newOrderId, ?_⟩
      rw [receive, upsertSyncedOrder_of_insert hfind hins hget]
      dsimp only
      rw [stock_writeDependents, stock_of_insertOrder? hins]
      rfl

/-! ## Section 3: How long a correction stands -/

/-- The line is one that dispatch resolves to the variant. -/
def ResolvesTo (itemId variantId : UUID) (db : OrdersDB) : Prop :=
  (db.stock.orderItems.rows[itemId]?.bind fun item =>
    db.stock.resolveVariant item.productVariantId item.sku).map (·.id) = some variantId

/-- The order ships to the address. -/
def ShipsTo (orderId : UUID) (address : ShippingAddress) (db : OrdersDB) : Prop :=
  (db.getOrder orderId).bind (·.shippingAddress) = some address

/-- If the resync is accepted, its line for the item names the variant. -/
def CarriesVariant (itemId variantId : UUID) (db : OrdersDB) (data : SyncedOrder) : Prop :=
  db.Accepts data → ∀ item ∈ db.stock.orderItems.rows[itemId]?, ∀ line ∈ data.lineFor item,
    (db.stock.resolveVariant (line.variantId data.sourceSystem db.stock) line.sku).map (·.id) =
      some variantId

/-- If the resync is accepted and is one of the order, it has the address. -/
def CarriesAddress (orderId : UUID) (address : ShippingAddress) (db : OrdersDB)
    (data : SyncedOrder) : Prop :=
  db.Accepts data → ∀ o ∈ db.getOrder orderId, o.KeyedBy data.key →
    data.shippingAddress = some address

variable {orderId itemId variantId : UUID} {address : ShippingAddress}

instance : Decidable (ResolvesTo itemId variantId db) := inferInstanceAs (Decidable (_ = _))

instance : Decidable (ShipsTo orderId address db) := inferInstanceAs (Decidable (_ = _))

instance : Decidable (CarriesVariant itemId variantId db data) :=
  inferInstanceAs (Decidable (_ → ∀ item ∈ db.stock.orderItems.rows[itemId]?, _))

instance : Decidable (CarriesAddress orderId address db data) :=
  inferInstanceAs (Decidable (_ → ∀ o ∈ db.getOrder orderId, _))

theorem resolveVariant_congr {stock stock' : Stock} (h : stock'.variants = stock.variants) :
    stock'.resolveVariant = stock.resolveVariant := by
  funext variantId sku
  simp only [Stock.resolveVariant, Stock.getBySku, h]
  have hget : stock'.getById = stock.getById := by
    funext id
    rw [Stock.getById, Stock.getById, h]
  rw [hget]

/-- One resync leaves the line at the variant exactly when it is dropped, has no line with its
key, or names the variant itself. -/
theorem resolvesTo_receive_iff (h : ResolvesTo itemId variantId db) (data : SyncedOrder) :
    ResolvesTo itemId variantId (db.receive data) ↔ CarriesVariant itemId variantId db data := by
  by_cases haccepts : db.Accepts data
  · obtain ⟨item, hitem⟩ : ∃ item, db.stock.orderItems.rows[itemId]? = some item := by
      cases hrow : db.stock.orderItems.rows[itemId]? with
      | none =>
        rw [ResolvesTo, hrow] at h
        cases h
      | some item => exact ⟨item, rfl⟩
    rw [ResolvesTo, hitem, Option.bind_some] at h
    obtain ⟨orderId, hstock⟩ := stock_receive haccepts
    have hvariants : (db.receive data).stock.variants = db.stock.variants := by
      rw [hstock]
      exact (upsertItems_stock data.sourceSystem orderId db.stock data.items).1
    have hafter : (data.items.foldl (SyncedOrder.upsertItem data.sourceSystem orderId)
        db.stock).orderItems.rows[itemId]? = some _ :=
      SyncedOrder.getElem?_upsertItems hitem data.items
    rw [SyncedOrder.foldl_rewrite] at hafter
    rw [ResolvesTo, resolveVariant_congr hvariants, hstock, hafter, Option.bind_some]
    simp only [CarriesVariant, haccepts, true_implies, hitem, Option.mem_def, Option.some.injEq,
      forall_eq']
    rw [SyncedOrder.lineFor]
    -- no line with the key, or the last one
    split
    · rename_i line hline
      simp only [hline, Option.some.injEq, forall_eq']
      rfl
    · rename_i hline
      simp [hline, h]
  · rw [receive_of_not_accepts haccepts]
    exact iff_of_true h fun haccepted => absurd haccepted haccepts

/-- An accepted resync is applied to the order with its key, if there is one. -/
theorem applied_of_accepts (h : db.Accepts data) :
    ∃ order, (∀ existing ∈ db.orderByKey data.key, order.id = existing.id) ∧
      Applied data db (db.receive data) order := by
  obtain ⟨hfresh, hfree⟩ := h
  rcases db.receive_cases data with ⟨existing, hfind, hstale, -⟩ |
    ⟨existing, hfind, -, -, order, hid, happlied⟩ | ⟨hnone, -, order, -, happlied⟩ | ⟨-, hnot, -⟩
  · rw [hfresh existing hfind] at hstale
    cases hstale
  · refine ⟨order, fun o ho => ?_, happlied⟩
    rw [Option.mem_def, hfind, Option.some_inj] at ho
    rw [hid, ho]
  · refine ⟨order, fun o ho => ?_, happlied⟩
    rw [Option.mem_def, hnone] at ho
    cases ho
  · exact absurd hfree hnot

/-- One resync leaves the order at the address exactly when it is dropped, is of another order,
or has the address itself. -/
theorem shipsTo_receive_iff (h : ShipsTo orderId address db) (data : SyncedOrder) :
    ShipsTo orderId address (db.receive data) ↔ CarriesAddress orderId address db data := by
  by_cases haccepts : db.Accepts data
  · obtain ⟨o, ho, haddress⟩ := Option.bind_eq_some_iff.mp h
    obtain ⟨hmem, hid⟩ := getOrder_eq_some.mp ho
    obtain ⟨order, hexisting, happlied⟩ := applied_of_accepts haccepts
    by_cases hkeyed : o.KeyedBy data.key
    · -- the order itself is written
      have horder : (db.receive data).getOrder orderId = some order := by
        refine getOrder_eq_some.mpr ⟨(orderByKey_eq_some.mp happlied.order_eq).1, ?_⟩
        rw [hexisting o (orderByKey_eq_some.mpr ⟨hmem, hkeyed⟩), hid]
      have hwritten : order.shippingAddress = data.shippingAddress :=
        congrArg SyncedColumns.shippingAddress happlied.columns_eq
      rw [ShipsTo, horder, Option.bind_some, hwritten]
      refine ⟨fun hcarried _ _ _ _ => hcarried, fun hcarried => hcarried haccepts o ho hkeyed⟩
    · have horder : (db.receive data).getOrder orderId = some o :=
        getOrder_eq_some.mpr ⟨(happlied.others o hkeyed).mpr hmem, hid⟩
      refine iff_of_true ?_ fun _ o' ho' hkeyed' => ?_
      · rw [ShipsTo, horder, Option.bind_some, haddress]
      · rw [Option.mem_def, ho, Option.some_inj] at ho'
        exact absurd (ho' ▸ hkeyed') hkeyed
  · rw [receive_of_not_accepts haccepts]
    exact iff_of_true h fun haccepted => absurd haccepted haccepts

/-- Through a run of resyncs the line stays at the variant exactly when every accepted one
names it. -/
theorem resolvesTo_throughout_iff (h : ResolvesTo itemId variantId db)
    (resyncs : List SyncedOrder) :
    Throughout receive (ResolvesTo itemId variantId) db resyncs ↔
      Along receive (CarriesVariant itemId variantId) db resyncs :=
  throughout_iff_along _ (fun _ => True) _ (fun _ _ _ => True.intro)
    (fun _ data _ hstands => resolvesTo_receive_iff hstands data) resyncs True.intro h

/-- Through a run of resyncs the order stays at the address exactly when every accepted one of
the order has it. -/
theorem shipsTo_throughout_iff (h : ShipsTo orderId address db) (resyncs : List SyncedOrder) :
    Throughout receive (ShipsTo orderId address) db resyncs ↔
      Along receive (CarriesAddress orderId address) db resyncs :=
  throughout_iff_along _ (fun _ => True) _ (fun _ _ _ => True.intro)
    (fun _ data _ hstands => shipsTo_receive_iff hstands data) resyncs True.intro h

end OrdersDB

/-! ## Section 4: The corrections -/

open OrdersDB

/-- A line that was moved resolves to its new variant. -/
theorem resolvesTo_updateItemVariant {productOf : UUID → UUID} {db db' : OrdersDB}
    {orderId itemId newVariantId : UUID}
    (h : updateItemVariant productOf db orderId itemId newVariantId = .ok db') :
    ResolvesTo itemId newVariantId db' := by
  unfold updateItemVariant at h
  split at h
  · cases h
  · rename_i item hitem
    split at h
    · cases h
    · split at h
      · cases h
      · rename_i newVariant hvariant
        split at h
        · cases h
          obtain ⟨-, hid⟩ := Stock.getById_eq_some.mp hvariant
          have hmoved : (db.stock.orderItems.modifyAt itemId (moveItem newVariant)).rows[itemId]? =
              some (moveItem newVariant item) := by
            simp [hitem]
          have hfound : db.stock.resolveVariant (some newVariant.id) newVariant.sku =
              some newVariant := by
            rw [Stock.resolveVariant, Option.bind_some, hid, hvariant]
          simp only [ResolvesTo, addOrderEvent, hmoved, Option.bind_some]
          exact (congrArg (Option.map (·.id)) hfound).trans (congrArg some hid)
        · cases h

section Calls

variable {orderId actor itemId newVariantId : UUID} {k k' : RequestSession} {w : Oms} {o : Order}

/-- `update_item_variant`, when it returns, has moved the line. -/
theorem resolvesTo_of_updateItemVariant
    (h : (OrderService.updateItemVariant orderId itemId newVariantId actor k w).result =
      (.ok o, k')) :
    ResolvesTo itemId newVariantId
      ((OrderService.updateItemVariant orderId itemId newVariantId actor k w).final
        w).db.orders := by
  unfold OrderService.updateItemVariant at h ⊢
  rw [Proc.bind_run, withSession_run, Staged.andThen_done, Proc.resume_ok, Proc.bind_run,
    Proc.store_run, Staged.andThen_done, Proc.resume_ok, Proc.bind_run,
    OrderService.ordersTransaction] at h ⊢
  cases hmove : updateItemVariant w.productOf w.db.orders orderId itemId newVariantId with
  | error e =>
    rw [transaction_run_error (by rw [hmove])] at h
    cases h
  | ok orders =>
    by_cases hk : k.execute.CanRead (some actor)
    · rw [transaction_run_ok hk (by rw [hmove])] at h ⊢
      rw [Staged.andThen_commit, Staged.andThen_done, Proc.resume_ok, Staged.final_commit]
      -- the order is read back, and nothing else is committed
      obtain ⟨r, hread⟩ := OrderService.getOrder_run orderId k.execute.commit (w.setOrders orders)
      rw [hread, Staged.final_done]
      exact resolvesTo_updateItemVariant hmove
    · simp only [transaction, hmove, if_neg hk] at h
      cases h

/-- `update_shipping_address` has saved the address whether its push goes through or fails. -/
theorem shipsTo_of_updateShippingAddress (env : External) (address : ShippingAddress)
    (now : Instant) (hk : k.CanRead (some actor)) (hfind : w.db.orders.getOrder orderId = some o) :
    ShipsTo orderId address
      ((OrderService.updateShippingAddress env orderId actor address now k w).final
        w).db.orders := by
  obtain ⟨w₁, hrun, hread⟩ := addressOwnPart_run address hk hfind
  have hpushed : SameOrders w₁ ((afterAddress env orderId actor now
      (k.load (.order orderId)).commit w₁).final w₁) :=
    Staged.Steps.final (R := SameOrders) (fun _ _ => rfl) SameOrders.trans
      (((sameOrders_syncShippingAddress _ _ _ _).bind fun _ => commits_getOrder orderId) _ w₁)
  rw [updateShippingAddress_eq, Proc.bind_run, hrun, Staged.andThen_commit, Staged.andThen_done,
    Proc.resume_ok, Staged.final_commit]
  -- the push writes columns of its own
  have hkept := hpushed orderId
  rw [hread, Option.map_some] at hkept
  obtain ⟨o', ho', hsame⟩ := Option.map_eq_some_iff.mp hkept
  have haddress : o'.shippingAddress = some address := congrArg Order.shippingAddress hsame
  exact Option.bind_eq_some_iff.mpr ⟨o', ho', haddress⟩

end Calls

/-- **Corrections and resyncs**: after `update_item_variant` has moved a line, or
`update_shipping_address` has saved an address, whatever came of its push, the correction stands
through a run of resyncs exactly when each of them is dropped or carries the correction. -/
theorem corrections_survive_iff (k : RequestSession) (w : Oms) (orderId actor : UUID)
    (resyncs : List SyncedOrder) :
    (∀ itemId newVariantId o k',
      (OrderService.updateItemVariant orderId itemId newVariantId actor k w).result = (.ok o, k') →
      let db :=
        ((OrderService.updateItemVariant orderId itemId newVariantId actor k w).final w).db.orders
      Throughout receive (ResolvesTo itemId newVariantId) db resyncs ↔
        Along receive (CarriesVariant itemId newVariantId) db resyncs) ∧
    ∀ env address now o, k.CanRead (some actor) → w.db.orders.getOrder orderId = some o →
      let db :=
        ((OrderService.updateShippingAddress env orderId actor address now k w).final w).db.orders
      Throughout receive (ShipsTo orderId address) db resyncs ↔
        Along receive (CarriesAddress orderId address) db resyncs :=
  ⟨fun _ _ _ _ h => resolvesTo_throughout_iff (resolvesTo_of_updateItemVariant h) resyncs,
    fun env address now _ hk hfind => shipsTo_throughout_iff
      (shipsTo_of_updateShippingAddress env address now hk hfind) resyncs⟩

/-- The address as the store has it, and as it was corrected. -/
def flat (line1 : String) : ShippingAddress := { line1 := some line1, city := some "Pune" }

/-- The version of the order that the store has, as of some time. -/
def storeVersion (updatedAt : Instant) : SyncedOrder where
  externalId := "7701"
  orderNumber := "#AWL77"
  externalUpdatedAt := some updatedAt
  totalAmount := 500
  paymentStatus := .paid
  shippingAddress := some (flat "12 MG Road")
  items := [{ externalId := "L1", shopifyVariantId := some "V1", sku := "ORANGE", quantity := 2 }]

/-- Two flavours of one product, and an order of the first one. -/
def flavours : Oms where
  db := {
    orders := {
      stock := {
        variants := Table.ofList [
          { id := 1, sku := "ORANGE", sourceSystem := some .shopify, externalId := some "V1",
            packSize_pos := Int.one_pos, packetsPerBox_pos := Int.one_pos },
          { id := 2, sku := "MANGO", sourceSystem := some .shopify, externalId := some "V2",
            packSize_pos := Int.one_pos, packetsPerBox_pos := Int.one_pos }] (by decide)
        orderItems := Table.ofList [{
          orderId := 1, productVariantId := some 1, sku := "ORANGE", quantity := 2,
          sourceSystem := some .shopify, externalId := some "L1" }] (by decide) }
      orders := Table.ofList [{
        id := 1, orderNumber := "#AWL77", sourceSystem := some .shopify, externalId := some "7701",
        shopifyOrderId := some "7701", externalUpdatedAt := some 100, totalAmount := 500,
        shippingAddress := some (flat "12 MG Road") }] (by decide) } }

/-- An adapter whose address update fails. -/
def refusingAddress : External where
  shopify := some {
    getOpenFulfillmentOrderId := fun _ => .ok none
    createFulfillment := fun _ _ _ => .error (.other "TimeoutError")
    updateFulfillmentTracking := fun _ _ _ => .error (.other "TimeoutError")
    addOrderTags := fun _ _ => .ok ()
    removeOrderTags := fun _ _ => .ok ()
    updateOrderShippingAddress := fun _ _ => .error (.oms (.integration "Shopify is down.")) }

/-- The line is moved to the second flavour. -/
def movedToMango : OrdersDB :=
  ((OrderService.updateItemVariant 1 0 2 3 (.authenticated (some 3)) flavours).final
    flavours).db.orders

/-- Another address is saved, and its push fails. -/
def savedAddress : OrdersDB :=
  ((OrderService.updateShippingAddress refusingAddress 1 3 (flat "7 FC Road") 150
    (.authenticated (some 3)) flavours).final flavours).db.orders

/-- A resync of the version that the store had all along undoes both corrections. -/
theorem resync_undoes_corrections :
    ResolvesTo 0 2 movedToMango ∧ ¬ ResolvesTo 0 2 (movedToMango.receive (storeVersion 100)) ∧
    (savedAddress.getOrder 1).map (·.shippingAddressSyncStatus) = some .failed ∧
    ShipsTo 1 (flat "7 FC Road") savedAddress ∧
    ¬ ShipsTo 1 (flat "7 FC Road") (savedAddress.receive (storeVersion 100)) := by
  decide +kernel

/-- A version older than the one stored does not. -/
theorem corrections_survive_stale :
    ResolvesTo 0 2 (movedToMango.receive (storeVersion 90)) ∧
    ShipsTo 1 (flat "7 FC Road") (savedAddress.receive (storeVersion 90)) := by
  have hiff := corrections_survive_iff (.authenticated (some 3)) flavours 1 3 [storeVersion 90]
  constructor
  · exact ((hiff.1 0 2 _ _ rfl).mpr (by decide +kernel)).final
  · exact ((hiff.2 refusingAddress (flat "7 FC Road") 150 _ (by decide) rfl).mpr
      (by decide +kernel)).final

end AyushOms.Orders
