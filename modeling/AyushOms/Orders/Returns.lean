import AyushOms.Inventory.Restock
import AyushOms.Lib.Run
import AyushOms.Orders.Sync

/-!
# Returned Orders

Between the dispatch of an order and its return, staff can move a line to another variant
(`OrderService.update_item_variant`), the store can rewrite the lines
(`upsert_synced_order`), and the settings a quantity is converted with can change. The
restock reads the boxes back from the ledger, so the settings do not matter; but it finds
the variants through the lines, so the lines do.

## Main results

- `upsertSyncedOrder_stock`, `updateItemVariant_stock`: neither write moves stock
- `restocks_net_to_zero_iff`: the runs in which every restock of an order undoes its
  dispatch
- `nets_to_zero_of_ships_kept`: a dispatch, then anything that leaves the order shipping
  the same variants, then a restock
-/

namespace AyushOms.Orders

open AyushOms.Lib AyushOms.Inventory

/-! ## Section 1: Lines moved to another variant -/

section ItemVariant

-- `product_variants.product_id`, which nothing modelled here writes
variable (productOf : UUID → UUID)

/-- The new variant is one of the product of the line's present variant, when that one is
known. -/
def sameProduct (stock : Stock) (item : OrderItem) (newVariant : ProductVariant) : Bool :=
  (item.productVariantId.bind stock.getById).all fun currentVariant =>
    productOf currentVariant.id == productOf newVariant.id

/-- The two columns a correction writes. -/
def moveItem (newVariant : ProductVariant) : Table.KeyPreserving OrderItem.keys :=
  ⟨fun item =>
    { item with productVariantId := some newVariant.id, sku := newVariant.sku }, fun _ => rfl⟩

/-- `OrderService.update_item_variant`. Lines are never deleted, so a line's position in the
table serves as its id. -/
def updateItemVariant (db : OrdersDB) (orderId itemId newVariantId : UUID) :
    Except OMSError OrdersDB :=
  match db.stock.orderItems.rows[itemId]? with
  | none => .error (.notFound "Order item not found.")
  | some item =>
    if item.orderId ≠ orderId then .error (.notFound "Order item not found.")
    else
      match db.stock.getById newVariantId with
      | none => .error (.notFound "Product variant not found.")
      | some newVariant =>
        if sameProduct productOf db.stock item newVariant then
          let orderItems := db.stock.orderItems.modifyAt itemId (moveItem newVariant)
          let moved : OrdersDB := { db with stock := { db.stock with orderItems := orderItems } }
          -- nothing asks whether the order has shipped
          .ok (moved.addOrderEvent {
            orderId := orderId
            eventType := "item_variant_updated"
            status := none
            source := "user" })
        else .error (.conflict "The new variant must belong to the same product.")

/-- The calls that touch stock or order lines. -/
inductive OrderOp where
  | stock (op : Stock.StockOp)
  | updateItemVariant (orderId itemId newVariantId : UUID)
  | upsertSyncedOrder (data : SyncedOrder)

/-- The committed state after a call; one that raises commits nothing. -/
def OrdersDB.step (db : OrdersDB) : OrderOp → OrdersDB
  | .stock op => { db with stock := db.stock.step op }
  | .updateItemVariant orderId itemId newVariantId =>
    match Orders.updateItemVariant productOf db orderId itemId newVariantId with
    | .ok db' => db'
    | .error _ => db
  | .upsertSyncedOrder data =>
    match Orders.upsertSyncedOrder db data with
    | some (_, db') => db'
    | none => db

/-! ## Section 2: The other services move no stock -/

variable {productOf}

/-- Variants and ledger are as before; lines may differ. -/
def SameTables (s s' : Stock) : Prop :=
  s'.variants = s.variants ∧ s'.movements = s.movements

theorem updateItemVariant_stock {db db' : OrdersDB} {orderId itemId newVariantId : UUID}
    (h : updateItemVariant productOf db orderId itemId newVariantId = .ok db') :
    SameTables db.stock db'.stock := by
  unfold updateItemVariant at h
  split at h
  · cases h
  · split at h
    · cases h
    · split at h
      · cases h
      · split at h
        · cases h
          exact ⟨rfl, rfl⟩
        · cases h

theorem upsertItem_stock (source : SourceSystem) (orderId : UUID) (stock : Stock)
    (item : SyncedItem) :
    SameTables stock (SyncedOrder.upsertItem source orderId stock item) := by
  unfold SyncedOrder.upsertItem
  dsimp only
  split <;> exact ⟨rfl, rfl⟩

theorem upsertItems_stock (source : SourceSystem) (orderId : UUID) (stock : Stock)
    (items : List SyncedItem) :
    SameTables stock (items.foldl (SyncedOrder.upsertItem source orderId) stock) :=
  run_rel (SyncedOrder.upsertItem source orderId) (R := SameTables) (fun _ => ⟨rfl, rfl⟩)
    (fun h h' => ⟨h'.1.trans h.1, h'.2.trans h.2⟩) (upsertItem_stock source orderId) stock items

theorem upsertPayment_stock (db : OrdersDB) (source : SourceSystem) (externalId : String)
    (fields : OrdersDB.PaymentFields) (horder : ∃ o ∈ db.orders.rows, o.id = fields.orderId) :
    (db.upsertPayment source externalId fields horder).2.2.stock = db.stock := by
  unfold OrdersDB.upsertPayment
  split
  · rfl
  · rfl

/-- Of the dependents only the lines are in the stock. -/
theorem stock_writeDependents (data : SyncedOrder) {db : OrdersDB} {order : Order}
    (horder : order ∈ db.orders.rows) (created : Bool) :
    (data.writeDependents db order horder created).stock =
      data.items.foldl (SyncedOrder.upsertItem data.sourceSystem order.id) db.stock := by
  unfold SyncedOrder.writeDependents
  dsimp only [OrdersDB.addOrderEvent]
  rw [upsertPayment_stock]

theorem writeDependents_stock (data : SyncedOrder) {db : OrdersDB} {order : Order}
    (horder : order ∈ db.orders.rows) (created : Bool) :
    SameTables db.stock (data.writeDependents db order horder created).stock := by
  rw [stock_writeDependents]
  exact upsertItems_stock data.sourceSystem order.id db.stock data.items

theorem stock_of_updateOrder? {db db' : OrdersDB} {orderId : UUID} {f : Order → Order}
    {hf : ∀ o, (f o).id = o.id} (h : db.updateOrder? orderId f hf = some db') :
    db'.stock = db.stock := by
  unfold OrdersDB.updateOrder? at h
  split at h
  · cases h
  · cases h
    rfl

theorem stock_of_insertOrder? {db db' : OrdersDB} {o : Order}
    (h : db.insertOrder? o = some db') : db'.stock = db.stock := by
  unfold OrdersDB.insertOrder? at h
  split at h
  · cases h
  · cases h
    rfl

/-- A resync rewrites lines and moves no stock. -/
theorem upsertSyncedOrder_stock {db db' : OrdersDB} {data : SyncedOrder} {created : Bool}
    (h : upsertSyncedOrder db data = some (created, db')) : SameTables db.stock db'.stock := by
  -- stale, written, or created; the dependents follow the order's own row
  unfold upsertSyncedOrder at h
  split at h
  · split at h
    · cases h
      exact ⟨rfl, rfl⟩
    · split at h
      · cases h
      · rename_i written hupd
        split at h
        · cases h
        · rename_i order hget
          cases h
          rw [← stock_of_updateOrder? hupd]
          exact writeDependents_stock data _ false
  · split at h
    · cases h
    · rename_i written hins
      split at h
      · cases h
      · rename_i order hget
        cases h
        rw [← stock_of_insertOrder? hins]
        exact writeDependents_stock data _ true

/-- A call is one of the inventory service's, or moves no stock. -/
theorem step_stock (productOf : UUID → UUID) (db : OrdersDB) (op : OrderOp) :
    (∃ stockOp, op = .stock stockOp) ∨ SameTables db.stock (db.step productOf op).stock := by
  cases op with
  | stock stockOp => exact .inl ⟨stockOp, rfl⟩
  | updateItemVariant orderId itemId newVariantId =>
    simp only [OrdersDB.step]
    cases h : updateItemVariant productOf db orderId itemId newVariantId with
    | error e => exact .inr ⟨rfl, rfl⟩
    | ok db' => exact .inr (updateItemVariant_stock h)
  | upsertSyncedOrder data =>
    simp only [OrdersDB.step]
    cases h : upsertSyncedOrder db data with
    | none => exact .inr ⟨rfl, rfl⟩
    | some written => exact .inr (upsertSyncedOrder_stock h)

theorem SameTables.getForOrder {s s' : Stock} (h : SameTables s s') (o v : UUID)
    (t : InventoryMovementType) : s'.getForOrder o v t = s.getForOrder o v t := by
  unfold Stock.getForOrder
  rw [h.2]

/-! ## Section 3: What one call keeps -/

theorem signed_step {db : OrdersDB} {o : UUID} (hs : db.stock.Signed o) (op : OrderOp) :
    (db.step productOf op).stock.Signed o := by
  obtain ⟨stockOp, rfl⟩ | hsame := step_stock productOf db op
  · exact Stock.signed_step hs stockOp
  · exact hs.of_rows_eq (congrArg Table.rows hsame.2)

theorem evolves_step (productOf : UUID → UUID) (db : OrdersDB) (op : OrderOp) :
    Stock.Evolves db.stock (db.step productOf op).stock := by
  obtain ⟨stockOp, rfl⟩ | hsame := step_stock productOf db op
  · exact Stock.evolves_step db.stock stockOp
  · exact Stock.evolves_of_sameStock (Stock.SameStock.of_tables_eq hsame.1 hsame.2)

/-- The call may record a row of this movement type for the order. -/
def OrderOp.Records (orderId : UUID) (type : InventoryMovementType) : OrderOp → Prop
  | .stock op => op.Records orderId type
  | _ => False

theorem getForOrder_step {db : OrdersDB} {op : OrderOp} {o : UUID}
    {t : InventoryMovementType} (h : ¬ op.Records o t) (v : UUID) :
    (db.step productOf op).stock.getForOrder o v t = db.stock.getForOrder o v t := by
  obtain ⟨stockOp, rfl⟩ | hsame := step_stock productOf db op
  · exact Stock.getForOrder_step h v
  · exact hsame.getForOrder o v t

/-- A call that may record a restock row of the order is a restock of it. -/
theorem eq_restock_of_records {op : OrderOp} {o : UUID} (h : op.Records o .rtoRestock) :
    ∃ rtoId, op = .stock (.applyRtoRestock o rtoId) := by
  cases op with
  | stock op =>
    cases op with
    | applyDispatch orderId shipmentId => exact absurd h.2 nofun
    | applyRtoRestock orderId rtoId => exact ⟨rtoId, by rw [h.1]⟩
    | _ => exact absurd h id
  | _ => exact absurd h id

theorem eq_dispatch_of_records {op : OrderOp} {o : UUID} (h : op.Records o .dispatch) :
    ∃ shipmentId, op = .stock (.applyDispatch o shipmentId) := by
  cases op with
  | stock op =>
    cases op with
    | applyDispatch orderId shipmentId => exact ⟨shipmentId, by rw [h.1]⟩
    | applyRtoRestock orderId rtoId => exact absurd h.2 nofun
    | _ => exact absurd h id
  | _ => exact absurd h id

/-- A restock of the order finds its lines naming what is still out. -/
def RestocksWhatIsOut (orderId : UUID) (db : OrdersDB) (op : OrderOp) : Prop :=
  ∀ rtoId, op = .stock (.applyRtoRestock orderId rtoId) → db.stock.ShipsWhatIsOut orderId

/-- While every restock of the order finds its lines naming what is still out, its restock
rows match its dispatch rows. -/
theorem restocksMatch_step {db : OrdersDB} {op : OrderOp} {o : UUID}
    (hs : db.stock.Signed o) (hmatch : db.stock.RestocksMatch o)
    (hout : RestocksWhatIsOut o db op) : (db.step productOf op).stock.RestocksMatch o := by
  intro v r hr
  have hkeep : ∀ d, db.stock.getForOrder o v .dispatch = some d →
      (db.step productOf op).stock.getForOrder o v .dispatch = some d :=
    fun d hd => (evolves_step productOf db op).getForOrder_eq_some hd
  by_cases hrecords : op.Records o .rtoRestock
  · obtain ⟨rtoId, rfl⟩ := eq_restock_of_records hrecords
    obtain ⟨hkept, hgiven, hnone⟩ := Stock.getForOrder_applyRtoRestock hs rtoId v
    have hr : (db.stock.applyRtoRestock o rtoId).getForOrder o v .rtoRestock = some r := hr
    cases hold : db.stock.getForOrder o v .rtoRestock with
    | some r' =>
      rw [hkept r' hold] at hr
      cases hr
      obtain ⟨d, hd, hback⟩ := hmatch v r hold
      exact ⟨d, hkeep d hd, hback⟩
    | none =>
      -- the row is new: its variant is shipped now, so it was dispatched
      by_cases hships : db.stock.Ships o v
      · obtain ⟨r', hr', _, hback⟩ := hgiven hold hships
        rw [hr'] at hr
        cases hr
        have hdispatched := (hout rtoId rfl v (Stock.existsForOrder_eq_false.mpr hold)).mpr hships
        obtain ⟨d, hd⟩ := Stock.existsForOrder_eq_true.mp hdispatched
        exact ⟨d, hkeep d hd, hback d hd⟩
      · rw [hnone hold hships] at hr
        cases hr
  · rw [getForOrder_step hrecords] at hr
    obtain ⟨d, hd, hback⟩ := hmatch v r hr
    exact ⟨d, hkeep d hd, hback⟩

/-- The call leaves the order shipping the variants it shipped. -/
def ShipsKept (productOf : UUID → UUID) (orderId : UUID) (db : OrdersDB) (op : OrderOp) :
    Prop :=
  ∀ v, (db.step productOf op).stock.Ships orderId v ↔ db.stock.Ships orderId v

/-- While the order keeps shipping the same variants, what is out is what its lines name. -/
theorem shipsWhatIsOut_step {db : OrdersDB} {op : OrderOp} {o : UUID}
    (hout : db.stock.ShipsWhatIsOut o) (hkept : ShipsKept productOf o db op) :
    (db.step productOf op).stock.ShipsWhatIsOut o := by
  intro v hnone
  rw [hkept v]
  have hnone₀ : db.stock.existsForOrder o v .rtoRestock = false := by
    cases hex : db.stock.existsForOrder o v .rtoRestock with
    | false => rfl
    | true =>
      rw [(evolves_step productOf db op).existsForOrder hex] at hnone
      cases hnone
  by_cases hrecords : op.Records o .dispatch
  · -- a replayed dispatch covers what the order ships, which was out already
    obtain ⟨shipmentId, rfl⟩ := eq_dispatch_of_records hrecords
    have hexists := Stock.existsForOrder_applyItems (Stock.dispatchMovement shipmentId)
      db.stock o v
    refine hexists.trans ⟨?_, .inr⟩
    rintro (h | h)
    · exact (hout v hnone₀).mp h
    · exact h
  · unfold Stock.existsForOrder
    rw [getForOrder_step hrecords]
    exact hout v hnone₀

/-! ## Section 4: Runs -/

/-- No stock was moved for the order yet. -/
def Unmoved (db : OrdersDB) (orderId : UUID) : Prop :=
  ∀ m ∈ db.stock.movements.rows, m.orderId ≠ some orderId

theorem Unmoved.getForOrder {db : OrdersDB} {o : UUID} (h : Unmoved db o) (v : UUID)
    (t : InventoryMovementType) : db.stock.getForOrder o v t = none :=
  Stock.getForOrder_eq_none.mpr fun m hm hkey =>
    h m hm (InventoryMovement.mem_keys.mp hkey).1

theorem Unmoved.signed {db : OrdersDB} {o : UUID} (h : Unmoved db o) : db.stock.Signed o :=
  fun m hm ho => absurd ho (h m hm)

theorem Unmoved.restocksMatch {db : OrdersDB} {o : UUID} (h : Unmoved db o) :
    db.stock.RestocksMatch o := by
  intro v r hr
  rw [h.getForOrder] at hr
  cases hr

theorem signed_run {db : OrdersDB} {o : UUID} (hs : db.stock.Signed o) (ops : List OrderOp) :
    (run (OrdersDB.step productOf) db ops).stock.Signed o :=
  @run_invariant _ _ (OrdersDB.step productOf) (fun db => db.stock.Signed o)
    (fun _ op h => signed_step h op) db hs ops

/-- What is out after a dispatch is what the order ships. -/
theorem shipsWhatIsOut_applyDispatch {db : OrdersDB} {o : UUID} (h : Unmoved db o)
    (shipmentId : UUID) :
    (db.step productOf (.stock (.applyDispatch o shipmentId))).stock.ShipsWhatIsOut o := by
  intro v _
  have hexists := Stock.existsForOrder_applyItems (Stock.dispatchMovement shipmentId)
    db.stock o v
  have hnone : db.stock.existsForOrder o v .dispatch = false :=
    Stock.existsForOrder_eq_false.mpr (h.getForOrder v .dispatch)
  refine hexists.trans (Iff.trans ?_ (Stock.ships_applyItems _ db.stock o o v).symm)
  constructor
  · rintro (hold | hships)
    · exact absurd hold (by
        rw [show (Stock.dispatchMovement shipmentId).movementType = .dispatch from rfl, hnone]
        decide)
    · exact hships
  · exact .inr

/-- What a restock at the end of a run leaves, read off the state it is called in. -/
theorem netsToZero_restock_iff (productOf : UUID → UUID) {db₀ : OrdersDB} {orderId : UUID}
    (hunmoved : Unmoved db₀ orderId) (pre : List OrderOp) (rtoId : UUID) :
    (run (OrdersDB.step productOf) db₀
      (pre ++ [.stock (.applyRtoRestock orderId rtoId)])).stock.NetsToZero orderId ↔
    (run (OrdersDB.step productOf) db₀ pre).stock.RestocksMatch orderId ∧
      (run (OrdersDB.step productOf) db₀ pre).stock.ShipsWhatIsOut orderId := by
  rw [run_append]
  exact Stock.netsToZero_applyRtoRestock_iff (signed_run hunmoved.signed pre) rtoId

/-- While every restock of the order gives back what is out, each of them leaves it at
zero. -/
theorem netsToZero_restock_of_along (productOf : UUID → UUID) {db₀ : OrdersDB}
    {orderId : UUID} (hunmoved : Unmoved db₀ orderId) {pre : List OrderOp} {rtoId : UUID}
    (halong : Along (OrdersDB.step productOf) (RestocksWhatIsOut orderId) db₀
      (pre ++ [.stock (.applyRtoRestock orderId rtoId)])) :
    (run (OrdersDB.step productOf) db₀
      (pre ++ [.stock (.applyRtoRestock orderId rtoId)])).stock.NetsToZero orderId := by
  obtain ⟨hbefore, hlast, -⟩ := along_append.mp halong
  -- the restock rows keep matching up to this restock
  have hinv : Throughout (OrdersDB.step productOf)
      (fun db => db.stock.Signed orderId ∧ db.stock.RestocksMatch orderId) db₀ pre :=
    throughout_of_along
      (fun _ op hinv hout => ⟨signed_step hinv.1 op, restocksMatch_step hinv.1 hinv.2 hout⟩)
      ⟨hunmoved.signed, hunmoved.restocksMatch⟩ hbefore
  exact (netsToZero_restock_iff productOf hunmoved pre rtoId).mpr
    ⟨hinv.final.2, hlast rtoId rfl⟩

/-- Along any run of calls: every restock of an order leaves the order's own movements at
zero on every variant exactly when each of them finds the order's lines naming the variants
it was dispatched from and not yet restocked to. -/
theorem restocks_net_to_zero_iff (productOf : UUID → UUID) {db₀ : OrdersDB} {orderId : UUID}
    (hunmoved : Unmoved db₀ orderId) (ops : List OrderOp) :
    (∀ pre rtoId post, ops = pre ++ .stock (.applyRtoRestock orderId rtoId) :: post →
      (run (OrdersDB.step productOf) db₀
        (pre ++ [.stock (.applyRtoRestock orderId rtoId)])).stock.NetsToZero orderId) ↔
    Along (OrdersDB.step productOf) (RestocksWhatIsOut orderId) db₀ ops := by
  constructor
  · intro hzero
    refine along_iff_forall_split.mpr fun pre op post heq rtoId hop => ?_
    subst hop
    have hrestocked := hzero pre rtoId post heq
    exact ((netsToZero_restock_iff productOf hunmoved pre rtoId).mp hrestocked).2
  · rintro halong pre rtoId post rfl
    rw [List.append_cons] at halong
    exact netsToZero_restock_of_along productOf hunmoved (along_append.mp halong).1

/-- A variant with ten boxes. -/
def flavour (id : UUID) (sku : String) : ProductVariant where
  id := id
  sku := sku
  availableQuantity := 10
  packSize_pos := Int.one_pos
  packetsPerBox_pos := Int.one_pos

/-- Two variants of one product, and an order for one unit of the first. -/
def twoFlavours : OrdersDB where
  stock := {
    variants := Table.ofList [flavour 1 "ORANGE", flavour 2 "MANGO"] (by decide)
    orderItems := Table.ofList
      [{ orderId := 7, productVariantId := some 1, sku := "ORANGE", quantity := 1 }]
      (by decide) }
  orders := Table.ofList [{ id := 7, orderNumber := "1007" }] (by decide)

theorem twoFlavours_unmoved (orderId : UUID) : Unmoved twoFlavours orderId :=
  fun _ hm => absurd hm List.not_mem_nil

/-- The order is dispatched, its line moved to the other flavour, and the parcel comes back:
the flavour that left is never given back, and the other gains a box. -/
theorem moved_line_restocks_other_variant :
    let db := run (OrdersDB.step fun _ => 5) twoFlavours
      [.stock (.applyDispatch 7 70), .updateItemVariant 7 0 2, .stock (.applyRtoRestock 7 700)]
    db.stock.orderNet 7 1 = -1 ∧ db.stock.orderNet 7 2 = 1 ∧ ¬ db.stock.NetsToZero 7 := by
  intro db
  have hfirst : db.stock.orderNet 7 1 = -1 := by decide +kernel
  have hsecond : db.stock.orderNet 7 2 = 1 := by decide +kernel
  refine ⟨hfirst, hsecond, fun hzero => ?_⟩
  have hcontra := hzero 1
  omega

/-- The order is dispatched and comes straight back. -/
theorem restocks_net_to_zero_iff_twoFlavours :
    (run (OrdersDB.step fun _ => 5) twoFlavours
      [.stock (.applyDispatch 7 70), .stock (.applyRtoRestock 7 700)]).stock.NetsToZero 7 :=
  (restocks_net_to_zero_iff (fun _ => 5) (twoFlavours_unmoved 7)
    [.stock (.applyDispatch 7 70), .stock (.applyRtoRestock 7 700)]).mpr
    ⟨nofun, fun _ _ => shipsWhatIsOut_applyDispatch (twoFlavours_unmoved 7) 70, True.intro⟩
    [.stock (.applyDispatch 7 70)] 700 [] rfl

/-! ## Section 5: A dispatch and its return -/

/-- An order is dispatched for the first time; whatever is called then, edits of its own
lines included, while it keeps shipping the same variants; its return leaves its own
movements at zero on every variant. -/
theorem nets_to_zero_of_ships_kept (productOf : UUID → UUID) {db₀ : OrdersDB}
    {orderId : UUID} (hunmoved : Unmoved db₀ orderId) (shipmentId rtoId : UUID)
    {ops : List OrderOp}
    (hkept : Along (OrdersDB.step productOf) (ShipsKept productOf orderId)
      (db₀.step productOf (.stock (.applyDispatch orderId shipmentId))) ops) :
    (run (OrdersDB.step productOf) db₀
      (.stock (.applyDispatch orderId shipmentId) :: ops ++
        [.stock (.applyRtoRestock orderId rtoId)])).stock.NetsToZero orderId := by
  -- each call keeps that what is out is what the lines name, the restocks among them included
  have hout : Throughout (OrdersDB.step productOf)
      (fun db => db.stock.ShipsWhatIsOut orderId)
      (db₀.step productOf (.stock (.applyDispatch orderId shipmentId))) ops :=
    @throughout_of_along _ _ _ _ (fun db => db.stock.ShipsWhatIsOut orderId)
      (fun _ _ hout hkept => shipsWhatIsOut_step hout hkept) _ _
      (shipsWhatIsOut_applyDispatch hunmoved shipmentId) hkept
  refine netsToZero_restock_of_along productOf hunmoved ?_
  rw [List.cons_append, along_cons]
  refine ⟨nofun, along_append.mpr ⟨?_, ?_⟩⟩
  · refine along_iff_forall_split.mpr fun pre op post heq _ _ => hout pre ?_
    exact ⟨op :: post, heq.symm⟩
  · exact along_cons.mpr ⟨fun _ _ => hout.final, True.intro⟩

end ItemVariant

end AyushOms.Orders
