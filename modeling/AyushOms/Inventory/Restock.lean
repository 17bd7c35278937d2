import AyushOms.Inventory.Ledger

/-!
# What a Restock Gives Back

A dispatch takes an order's boxes out and an RTO restock puts them back in; the two are
rows of the same ledger. The restock resolves the order's lines anew, so it gives back to
the variants the lines name now, which need not be those the dispatch took from.

## Main results

- `Stock.orderNet_eq`: what an order moved is its dispatch row plus its restock row
- `Stock.rows_applyItems`: what a loop over the lines adds to the ledger
- `Stock.netsToZero_applyRtoRestock_iff`: when a restock leaves an order at zero
-/

namespace AyushOms.Inventory.Stock

open AyushOms.Lib AyushOms.Orders

/-! ## Section 1: An order's own movements -/

/-- What an order's own rows add up to on a variant. -/
def orderNet (s : Stock) (orderId variantId : UUID) : Int :=
  ((s.movements.rows.filter fun m =>
    m.orderId == some orderId && m.productVariantId == variantId).map
      InventoryMovement.quantityDelta).sum

/-- The order has moved nothing on balance, on any variant. -/
def NetsToZero (s : Stock) (orderId : UUID) : Prop :=
  ∀ variantId, s.orderNet orderId variantId = 0

/-- What the order's row of one movement type adds, when there is one. -/
def movedBy (s : Stock) (orderId variantId : UUID) (type : InventoryMovementType) : Int :=
  (s.getForOrder orderId variantId type).elim 0 InventoryMovement.quantityDelta

/-- Only dispatches and restocks name the order; the first take boxes out, the second put
boxes in. -/
def Signed (s : Stock) (orderId : UUID) : Prop :=
  ∀ m ∈ s.movements.rows, m.orderId = some orderId →
    (m.movementType = .dispatch ∧ m.quantityDelta < 0) ∨
    (m.movementType = .rtoRestock ∧ 0 < m.quantityDelta)

theorem getForOrder_eq_some {s : Stock} {o v : UUID} {t : InventoryMovementType}
    {m : InventoryMovement} :
    s.getForOrder o v t = some m ↔ m ∈ s.movements.rows ∧ (v, o, t) ∈ m.keys := by
  constructor
  · intro h
    exact ⟨Table.mem_of_find?_eq_some h, matchesOrder_iff.mp (List.find?_some h)⟩
  · rintro ⟨hm, hkey⟩
    exact s.movements.find?_eq_some_of_mem hm (matchesOrder_iff.mpr hkey)
      fun _ => matchesOrder_iff.mp

theorem getForOrder_eq_none {s : Stock} {o v : UUID} {t : InventoryMovementType} :
    s.getForOrder o v t = none ↔ ∀ m ∈ s.movements.rows, (v, o, t) ∉ m.keys := by
  simp only [getForOrder, Table.find?_eq_none, matchesOrder_iff]

theorem existsForOrder_eq_false {s : Stock} {o v : UUID} {t : InventoryMovementType} :
    s.existsForOrder o v t = false ↔ s.getForOrder o v t = none := by
  simp [existsForOrder]

theorem existsForOrder_eq_true {s : Stock} {o v : UUID} {t : InventoryMovementType} :
    s.existsForOrder o v t = true ↔ ∃ m, s.getForOrder o v t = some m := by
  simp [existsForOrder, Option.isSome_iff_exists]

/-- The rows of one key add up to the row the lookup finds. -/
theorem sum_matchesOrder (s : Stock) (o v : UUID) (t : InventoryMovementType) :
    ((s.movements.rows.filter (matchesOrder o v t)).map
      InventoryMovement.quantityDelta).sum = s.movedBy o v t := by
  rw [s.movements.filter_eq_toList_find? (k := (v, o, t)) fun _ => matchesOrder_iff.mp]
  unfold movedBy getForOrder
  cases s.movements.find? (matchesOrder o v t) <;> simp

/-- The sum over a list splits along two predicates that exclude each other. -/
private theorem sum_filter_or {l : List InventoryMovement} {p q r : InventoryMovement → Bool}
    (f : InventoryMovement → Int)
    (hp : ∀ m ∈ l, p m = (q m || r m)) (hexcl : ∀ m ∈ l, q m = true → r m = false) :
    ((l.filter p).map f).sum = ((l.filter q).map f).sum + ((l.filter r).map f).sum := by
  induction l with
  | nil => rfl
  | cons m l ih =>
    have ih := ih (fun m hm => hp m (List.mem_cons_of_mem _ hm))
      (fun m hm => hexcl m (List.mem_cons_of_mem _ hm))
    have hpm := hp m List.mem_cons_self
    have hqm := hexcl m List.mem_cons_self
    cases hq : q m with
    | true => simp [hq, hpm, hqm hq, ih]; omega
    | false => cases hr : r m <;> simp [hq, hr, hpm, ih]; omega

/-- What an order moved on a variant is its dispatch row plus its restock row. -/
theorem orderNet_eq {s : Stock} {o : UUID} (hs : s.Signed o) (v : UUID) :
    s.orderNet o v = s.movedBy o v .dispatch + s.movedBy o v .rtoRestock := by
  rw [← sum_matchesOrder, ← sum_matchesOrder]
  refine sum_filter_or _ (fun m hm => ?_) (fun m _ hq => ?_)
  · -- a row of the order is of one of the two types
    by_cases ho : m.orderId = some o
    · rcases hs m hm ho with ⟨ht, _⟩ | ⟨ht, _⟩ <;> simp [matchesOrder, ho, ht]
    · have hne : (m.orderId == some o) = false := by simpa using ho
      simp [matchesOrder, hne]
  · simp only [matchesOrder, Bool.and_eq_true, beq_iff_eq] at hq
    simp [matchesOrder, hq.2]

theorem dispatch_neg {s : Stock} {o v : UUID} {d : InventoryMovement} (hs : s.Signed o)
    (h : s.getForOrder o v .dispatch = some d) : d.quantityDelta < 0 := by
  obtain ⟨hd, hkey⟩ := getForOrder_eq_some.mp h
  obtain ⟨ho, _, ht⟩ := InventoryMovement.mem_keys.mp hkey
  rcases hs d hd ho with ⟨_, hneg⟩ | ⟨ht', _⟩
  · exact hneg
  · rw [ht] at ht'
    cases ht'

theorem restock_pos {s : Stock} {o v : UUID} {r : InventoryMovement} (hs : s.Signed o)
    (h : s.getForOrder o v .rtoRestock = some r) : 0 < r.quantityDelta := by
  obtain ⟨hr, hkey⟩ := getForOrder_eq_some.mp h
  obtain ⟨ho, _, ht⟩ := InventoryMovement.mem_keys.mp hkey
  rcases hs r hr ho with ⟨ht', _⟩ | ⟨_, hpos⟩
  · rw [ht] at ht'
    cases ht'
  · exact hpos

/-! ## Section 2: What a loop adds -/

/-- An order line of a positive quantity takes at least one box. -/
theorem boxesFor_pos {item : OrderItem} {v : ProductVariant} (hq : 0 < item.quantity) :
    0 < boxesFor item v := by
  have hunits : 0 < item.quantity * v.packSize := Int.mul_pos hq v.packSize_pos
  have hneg : (-(item.quantity * v.packSize)).fdiv v.packetsPerBox < 0 := by
    rw [Int.fdiv_eq_ediv_of_nonneg _ (Int.le_of_lt v.packetsPerBox_pos)]
    exact Int.ediv_neg_of_neg_of_pos (by omega) v.packetsPerBox_pos
  unfold boxesFor ceilDiv
  omega

/-- The order has a line with a positive quantity that resolves to the variant. -/
def Ships (s : Stock) (orderId variantId : UUID) : Prop :=
  ∃ item ∈ s.listForOrder orderId, 0 < item.quantity ∧
    ∃ v, s.resolveVariant item.productVariantId item.sku = some v ∧ v.id = variantId

/-- The row was planned by one of the lines, in a state the loop went through: it evolved
from the first one and has the same rows of other movement types. -/
def PlannedBy (kind : AutoMovement) (orderId : UUID) (s : Stock) (items : List OrderItem)
    (m : InventoryMovement) : Prop :=
  ∃ item ∈ items, ∃ s₁, Evolves s s₁ ∧
    (∀ v t, t ≠ kind.movementType → s₁.getForOrder orderId v t = s.getForOrder orderId v t) ∧
    planItem kind orderId s₁ item = some m

theorem planItem_orderId {kind : AutoMovement} {orderId : UUID} {s : Stock}
    {item : OrderItem} {m : InventoryMovement} (h : planItem kind orderId s item = some m) :
    m.orderId = some orderId ∧ m.movementType = kind.movementType := by
  obtain ⟨_, _, _, _, rfl⟩ := planItem_eq_some_iff.mp h
  exact ⟨rfl, rfl⟩

/-- One turn of the loop appends the row it plans, when it plans one. -/
theorem rows_itemStep (kind : AutoMovement) (orderId : UUID) (s : Stock) (item : OrderItem) :
    (itemStep kind orderId s item).movements.rows =
      s.movements.rows ++ (planItem kind orderId s item).toList := by
  unfold itemStep
  cases h : planItem kind orderId s item with
  | none => simp [recordPlanned]
  | some m =>
    obtain ⟨t, ht⟩ := accepted_of_planItem h
    simp [recordPlanned, recordMovement_of_accepted ht, Table.rows_of_insert? ht]

/-- Rows appended to a ledger leave the lookups of other movement types alone. -/
theorem getForOrder_append {s s' : Stock} {o v : UUID} {t : InventoryMovementType}
    {new : List InventoryMovement} (hrows : s'.movements.rows = s.movements.rows ++ new)
    (hnew : ∀ m ∈ new, (v, o, t) ∉ m.keys) : s'.getForOrder o v t = s.getForOrder o v t := by
  unfold getForOrder Table.find?
  have hnone : new.find? (matchesOrder o v t) = none :=
    List.find?_eq_none.mpr fun m hm hmatch => hnew m hm (matchesOrder_iff.mp hmatch)
  rw [hrows, List.find?_append, hnone, Option.or_none]

/-- The rows a loop over an order's lines adds, each planned by one of the lines. -/
theorem rows_applyItems (kind : AutoMovement) (orderId : UUID) (items : List OrderItem) :
    ∀ s : Stock, ∃ new, (applyItems kind orderId s items).movements.rows =
      s.movements.rows ++ new ∧ ∀ m ∈ new, PlannedBy kind orderId s items m := by
  induction items with
  | nil => exact fun s => ⟨[], by simp [applyItems], by simp⟩
  | cons item items ih =>
    intro s
    let s₁ := itemStep kind orderId s item
    have hrows₁ : s₁.movements.rows =
        s.movements.rows ++ (planItem kind orderId s item).toList :=
      rows_itemStep kind orderId s item
    have hlookup : ∀ v t, t ≠ kind.movementType →
        s₁.getForOrder orderId v t = s.getForOrder orderId v t := by
      intro v t ht
      refine getForOrder_append hrows₁ fun m hm hkey => ?_
      have hplan := Option.mem_toList.mp hm
      exact ht ((InventoryMovement.mem_keys.mp hkey).2.2.symm.trans (planItem_orderId hplan).2)
    obtain ⟨new, hrows, hnew⟩ := ih s₁
    refine ⟨(planItem kind orderId s item).toList ++ new, ?_, fun m hm => ?_⟩
    · rw [← List.append_assoc, ← hrows₁, ← hrows]
      rfl
    · rcases List.mem_append.mp hm with hm | hm
      · exact ⟨item, List.mem_cons_self, s, Evolves.refl s, fun _ _ _ => rfl,
          Option.mem_toList.mp hm⟩
      · -- a later line plans in a state that evolved from the one after this turn
        obtain ⟨item', hitem', s₂, hev, hsame, hplan⟩ := hnew m hm
        exact ⟨item', List.mem_cons_of_mem _ hitem', s₂,
          (evolves_recordPlanned s _).trans hev,
          fun v t ht => (hsame v t ht).trans (hlookup v t ht), hplan⟩

/-- A planned row is for a variant the order ships, and is the first of its type there. -/
theorem PlannedBy.ships {kind : AutoMovement} {o : UUID} {s : Stock} {m : InventoryMovement}
    (h : PlannedBy kind o s (s.listForOrder o) m) :
    m.orderId = some o ∧ m.movementType = kind.movementType ∧
      s.Ships o m.productVariantId ∧
      s.existsForOrder o m.productVariantId kind.movementType = false := by
  obtain ⟨item, hitem, s₁, hev, _, hplan⟩ := h
  obtain ⟨ho, ht⟩ := planItem_orderId hplan
  obtain ⟨hq, v₁, hres₁, hex₁, rfl⟩ := planItem_eq_some_iff.mp hplan
  refine ⟨ho, ht, ⟨item, hitem, hq, ?_⟩, ?_⟩
  · -- the line resolved to the same variant before the loop
    have hmap := hev.resolveVariant_id item.productVariantId item.sku
    rw [hres₁, Option.map_some, eq_comm, Option.map_eq_some_iff] at hmap
    exact hmap
  · cases hex : s.existsForOrder o v₁.id kind.movementType with
    | false => rfl
    | true =>
      rw [hev.existsForOrder hex] at hex₁
      cases hex₁

/-- After a loop every variant the order ships has a row of its type. -/
theorem exists_of_ships (kind : AutoMovement) {o v : UUID} {s : Stock} (h : s.Ships o v) :
    (applyItems kind o s (s.listForOrder o)).existsForOrder o v kind.movementType = true := by
  obtain ⟨item, hitem, hq, w, hres, rfl⟩ := h
  -- the line plans nothing after the loop, and its variant still resolves
  have hdone : planItem kind o (applyItems kind o s (s.listForOrder o)) item = none :=
    planItem_applyItems hitem
  have hmap := (evolves_applyItems kind o s (s.listForOrder o)).resolveVariant_id
    item.productVariantId item.sku
  rw [hres, Option.map_some, Option.map_eq_some_iff] at hmap
  obtain ⟨w', hres', hid⟩ := hmap
  rw [← hid]
  exact planItem_eq_none_iff.mp hdone hq w' hres'

/-- A loop gives its movement type's row to the variants that had one and to those the
order ships. -/
theorem existsForOrder_applyItems (kind : AutoMovement) (s : Stock) (o v : UUID) :
    (applyItems kind o s (s.listForOrder o)).existsForOrder o v kind.movementType = true ↔
      s.existsForOrder o v kind.movementType = true ∨ s.Ships o v := by
  constructor
  · intro h
    obtain ⟨m, hm, hkey⟩ := existsForOrder_iff.mp h
    obtain ⟨new, hrows, hnew⟩ := rows_applyItems kind o (s.listForOrder o) s
    rw [hrows, List.mem_append] at hm
    rcases hm with hm | hm
    · exact .inl (existsForOrder_iff.mpr ⟨m, hm, hkey⟩)
    · obtain ⟨_, hv, _⟩ := InventoryMovement.mem_keys.mp hkey
      exact .inr (hv ▸ (hnew m hm).ships.2.2.1)
  · rintro (h | h)
    · exact (evolves_applyItems kind o s _).existsForOrder h
    · exact exists_of_ships kind h

/-- A loop leaves the rows of other movement types and of other orders alone. -/
theorem getForOrder_applyItems (kind : AutoMovement) (s : Stock) {o o' v : UUID}
    {t : InventoryMovementType} (h : o' ≠ o ∨ t ≠ kind.movementType) :
    (applyItems kind o s (s.listForOrder o)).getForOrder o' v t = s.getForOrder o' v t := by
  obtain ⟨new, hrows, hnew⟩ := rows_applyItems kind o (s.listForOrder o) s
  refine getForOrder_append hrows fun m hm hkey => ?_
  obtain ⟨ho, ht, _⟩ := (hnew m hm).ships
  obtain ⟨ho', _, ht'⟩ := InventoryMovement.mem_keys.mp hkey
  -- a new row is of this order and this type
  rcases h with h | h
  · rw [ho, Option.some.injEq] at ho'
    exact h ho'.symm
  · exact h (ht'.symm.trans ht)

/-- A row that is there stays the one the lookup finds. -/
theorem Evolves.getForOrder_eq_some {s s' : Stock} (h : Evolves s s') {o v : UUID}
    {t : InventoryMovementType} {m : InventoryMovement} (hm : s.getForOrder o v t = some m) :
    s'.getForOrder o v t = some m := by
  obtain ⟨hmem, hkey⟩ := Stock.getForOrder_eq_some.mp hm
  exact Stock.getForOrder_eq_some.mpr ⟨h.ledger_prefix.subset hmem, hkey⟩

/-! ## Section 3: Signs -/

/-- A row a restock plans gives back what the dispatch row took, or some boxes when there
is no dispatch row. -/
theorem PlannedBy.restock {rtoId o : UUID} {s : Stock} {m : InventoryMovement}
    (hs : s.Signed o) (h : PlannedBy (rtoRestockMovement rtoId) o s (s.listForOrder o) m) :
    0 < m.quantityDelta ∧ ∀ d, s.getForOrder o m.productVariantId .dispatch = some d →
      m.quantityDelta = -d.quantityDelta := by
  obtain ⟨item, _, s₁, _, hsame, hplan⟩ := h
  obtain ⟨hq, v, _, _, rfl⟩ := planItem_eq_some_iff.mp hplan
  -- the loop adds restock rows only, so a line reads the dispatch row that was there before
  have hd₁ := hsame v.id .dispatch nofun
  simp only [rtoRestockMovement, hd₁]
  cases hd : s.getForOrder o v.id .dispatch with
  | none => exact ⟨boxesFor_pos hq, fun d hd => by cases hd⟩
  | some d =>
    have hneg := dispatch_neg hs hd
    have habs : (d.quantityDelta.natAbs : Int) = -d.quantityDelta := by omega
    refine ⟨by simpa only [habs] using Int.neg_pos_of_neg hneg, fun d' hd' => ?_⟩
    cases hd'
    exact habs

theorem PlannedBy.dispatch {shipmentId o : UUID} {s : Stock} {items : List OrderItem}
    {m : InventoryMovement} (h : PlannedBy (dispatchMovement shipmentId) o s items m) :
    m.quantityDelta < 0 := by
  obtain ⟨item, _, s₁, _, _, hplan⟩ := h
  obtain ⟨hq, v, _, _, rfl⟩ := planItem_eq_some_iff.mp hplan
  have hpos : 0 < boxesFor item v := boxesFor_pos hq
  simp only [dispatchMovement]
  omega

/-- Signs depend on the ledger only. -/
theorem Signed.append {s s' : Stock} {o : UUID} {new : List InventoryMovement}
    (hs : s.Signed o) (hrows : s'.movements.rows = s.movements.rows ++ new)
    (hnew : ∀ m ∈ new, m.orderId = some o →
      (m.movementType = .dispatch ∧ m.quantityDelta < 0) ∨
      (m.movementType = .rtoRestock ∧ 0 < m.quantityDelta)) : s'.Signed o := by
  intro m hm ho
  rw [hrows, List.mem_append] at hm
  rcases hm with hm | hm
  · exact hs m hm ho
  · exact hnew m hm ho

theorem Signed.of_rows_eq {s s' : Stock} {o : UUID} (hs : s.Signed o)
    (hrows : s'.movements.rows = s.movements.rows) : s'.Signed o := by
  unfold Signed
  rw [hrows]
  exact hs

theorem signed_applyDispatch {s : Stock} {o : UUID} (hs : s.Signed o)
    (orderId shipmentId : UUID) : (s.applyDispatch orderId shipmentId).Signed o := by
  obtain ⟨new, hrows, hnew⟩ := rows_applyItems (dispatchMovement shipmentId) orderId
    (s.listForOrder orderId) s
  exact hs.append hrows fun m hm _ =>
    .inl ⟨(hnew m hm).ships.2.1, (hnew m hm).dispatch⟩

theorem signed_applyRtoRestock {s : Stock} {o : UUID} (hs : s.Signed o)
    (orderId rtoId : UUID) : (s.applyRtoRestock orderId rtoId).Signed o := by
  obtain ⟨new, hrows, hnew⟩ := rows_applyItems (rtoRestockMovement rtoId) orderId
    (s.listForOrder orderId) s
  refine hs.append hrows fun m hm ho => ?_
  -- a row of this order was planned by a restock of this order
  obtain ⟨ho', ht, _⟩ := (hnew m hm).ships
  rw [ho', Option.some.injEq] at ho
  subst ho
  exact .inr ⟨ht, ((hnew m hm).restock hs).1⟩

/-! ## Section 4: Operations -/

/-- The call may record a row of this movement type for the order. -/
def StockOp.Records (orderId : UUID) (type : InventoryMovementType) : StockOp → Prop
  | .applyDispatch orderId' _ => orderId' = orderId ∧ type = .dispatch
  | .applyRtoRestock orderId' _ => orderId' = orderId ∧ type = .rtoRestock
  | _ => False

/-- What the calls other than the two loops add to the ledger: rows that name no order. -/
theorem rows_step (s : Stock) (op : StockOp) :
    (∃ orderId shipmentId, op = .applyDispatch orderId shipmentId) ∨
    (∃ orderId rtoId, op = .applyRtoRestock orderId rtoId) ∨
    ∃ new, (s.step op).movements.rows = s.movements.rows ++ new ∧
      ∀ m ∈ new, m.orderId = none := by
  have hsetting : ∀ {s' : Stock}, SameStock s s' → ∃ new,
      s'.movements.rows = s.movements.rows ++ new ∧ ∀ m ∈ new, m.orderId = none := by
    rintro s' ⟨_, _, _, hm⟩
    exact ⟨[], by simp [hm], by simp⟩
  cases op with
  | applyDispatch orderId shipmentId => exact .inl ⟨orderId, shipmentId, rfl⟩
  | applyRtoRestock orderId rtoId => exact .inr (.inl ⟨orderId, rtoId, rfl⟩)
  | addStock variantId quantityToAdd reason actor =>
    refine .inr (.inr ?_)
    simp only [step, addStock]
    cases h : s.planAddStock variantId quantityToAdd reason actor with
    | error e => exact hsetting (SameStock.of_tables_eq rfl rfl)
    | ok m =>
      -- an addition names no order, so no unique key can refuse it
      have ho : m.orderId = none := by
        obtain ⟨v, _, _, _, rfl⟩ := planAddStock_eq_ok h
        rfl
      obtain ⟨t, ht⟩ := s.movements.insert?_of_keys_nil (r := m)
        (by simp [InventoryMovement.keys, ho])
      refine ⟨[m], ?_, by simpa using ho⟩
      simp only [bind, Except.bind, pure, Except.pure, recordMovement_of_accepted ht,
        Table.rows_of_insert? ht]
  | updatePackSize variantId packSize =>
    refine .inr (.inr ?_)
    simp only [step]
    cases h : s.updatePackSize variantId packSize with
    | error e => exact hsetting (SameStock.of_tables_eq rfl rfl)
    | ok s' => exact hsetting (sameStock_updateSetting (fun _ _ => ⟨rfl, rfl, rfl⟩) h)
  | updatePacketsPerBox variantId packetsPerBox =>
    refine .inr (.inr ?_)
    simp only [step]
    cases h : s.updatePacketsPerBox variantId packetsPerBox with
    | error e => exact hsetting (SameStock.of_tables_eq rfl rfl)
    | ok s' => exact hsetting (sameStock_updateSetting (fun _ _ => ⟨rfl, rfl, rfl⟩) h)
  | rewriteItems items => exact .inr (.inr (hsetting (SameStock.of_tables_eq rfl rfl)))

/-- A call leaves the rows it does not record alone. -/
theorem getForOrder_step {s : Stock} {op : StockOp} {o : UUID} {t : InventoryMovementType}
    (h : ¬ op.Records o t) (v : UUID) :
    (s.step op).getForOrder o v t = s.getForOrder o v t := by
  obtain ⟨orderId, shipmentId, rfl⟩ | ⟨orderId, rtoId, rfl⟩ | ⟨new, hrows, hnew⟩ :=
    rows_step s op
  · refine getForOrder_applyItems (dispatchMovement shipmentId) s ?_
    by_contra hboth
    push Not at hboth
    exact h ⟨hboth.1.symm, hboth.2⟩
  · refine getForOrder_applyItems (rtoRestockMovement rtoId) s ?_
    by_contra hboth
    push Not at hboth
    exact h ⟨hboth.1.symm, hboth.2⟩
  · refine getForOrder_append hrows fun m hm hkey => ?_
    have ho := (InventoryMovement.mem_keys.mp hkey).1
    rw [hnew m hm] at ho
    cases ho

theorem signed_step {s : Stock} {o : UUID} (hs : s.Signed o) (op : StockOp) :
    (s.step op).Signed o := by
  obtain ⟨orderId, shipmentId, rfl⟩ | ⟨orderId, rtoId, rfl⟩ | ⟨new, hrows, hnew⟩ :=
    rows_step s op
  · exact signed_applyDispatch hs orderId shipmentId
  · exact signed_applyRtoRestock hs orderId rtoId
  · refine hs.append hrows fun m hm ho => ?_
    rw [hnew m hm] at ho
    cases ho

/-- The lines are kept by a loop, and so is what they resolve to. -/
theorem ships_applyItems (kind : AutoMovement) (s : Stock) (o o' v : UUID) :
    (applyItems kind o s (s.listForOrder o)).Ships o' v ↔ s.Ships o' v := by
  have hev := evolves_applyItems kind o s (s.listForOrder o)
  unfold Ships listForOrder
  rw [orderItems_applyItems]
  refine exists_congr fun item => and_congr_right fun _ => and_congr_right fun _ => ?_
  have hmap := hev.resolveVariant_id item.productVariantId item.sku
  simp only [← Option.map_eq_some_iff (f := fun v : ProductVariant => v.id)]
  exact Iff.of_eq (congrArg (· = some v) hmap)

/-! ## Section 5: One restock -/

/-- The restock rows that are there give back what the dispatch rows took. -/
def RestocksMatch (s : Stock) (orderId : UUID) : Prop :=
  ∀ v r, s.getForOrder orderId v .rtoRestock = some r →
    ∃ d, s.getForOrder orderId v .dispatch = some d ∧ r.quantityDelta = -d.quantityDelta

/-- The variants that were dispatched and not restocked are those the lines name now. -/
def ShipsWhatIsOut (s : Stock) (orderId : UUID) : Prop :=
  ∀ v, s.existsForOrder orderId v .rtoRestock = false →
    (s.existsForOrder orderId v .dispatch = true ↔ s.Ships orderId v)

/-- The restock row of a variant after a restock: the one it had, or a new one that gives
back what the dispatch row took, or some boxes when there is none. -/
theorem getForOrder_applyRtoRestock {s : Stock} {o : UUID} (hs : s.Signed o)
    (rtoId v : UUID) :
    (∀ r, s.getForOrder o v .rtoRestock = some r →
      (s.applyRtoRestock o rtoId).getForOrder o v .rtoRestock = some r) ∧
    (s.getForOrder o v .rtoRestock = none → s.Ships o v →
      ∃ r, (s.applyRtoRestock o rtoId).getForOrder o v .rtoRestock = some r ∧
        0 < r.quantityDelta ∧ ∀ d, s.getForOrder o v .dispatch = some d →
          r.quantityDelta = -d.quantityDelta) ∧
    (s.getForOrder o v .rtoRestock = none → ¬ s.Ships o v →
      (s.applyRtoRestock o rtoId).getForOrder o v .rtoRestock = none) := by
  have hexists := existsForOrder_applyItems (rtoRestockMovement rtoId) s o v
  refine ⟨fun r hr => (evolves_applyItems _ o s _).getForOrder_eq_some hr,
    fun hnone hships => ?_, fun hnone hships => ?_⟩
  · obtain ⟨r, hr⟩ := existsForOrder_eq_true.mp (hexists.mpr (.inr hships))
    refine ⟨r, hr, ?_⟩
    -- the row was not there before, so the loop planned it
    obtain ⟨hmem, hkey⟩ := getForOrder_eq_some.mp hr
    obtain ⟨new, hrows, hnew⟩ := rows_applyItems (rtoRestockMovement rtoId) o
      (s.listForOrder o) s
    rw [hrows, List.mem_append] at hmem
    obtain ⟨_, hv, _⟩ := InventoryMovement.mem_keys.mp hkey
    rcases hmem with hmem | hmem
    · exact absurd hkey (getForOrder_eq_none.mp hnone r hmem)
    · rw [← hv]
      exact (hnew r hmem).restock hs
  · rw [← existsForOrder_eq_false] at hnone ⊢
    rw [Bool.eq_false_iff]
    intro h
    rcases hexists.mp h with hold | hnow
    · rw [show (rtoRestockMovement rtoId).movementType = .rtoRestock from rfl, hnone] at hold
      cases hold
    · exact hships hnow

/-- A restock leaves a variant at zero exactly when its restock row matches its dispatch
row, or it has none yet and the order ships it now if and only if it was dispatched. -/
theorem orderNet_applyRtoRestock_eq_zero_iff {s : Stock} {o : UUID} (hs : s.Signed o)
    (rtoId v : UUID) :
    (s.applyRtoRestock o rtoId).orderNet o v = 0 ↔
      (∀ r, s.getForOrder o v .rtoRestock = some r →
        ∃ d, s.getForOrder o v .dispatch = some d ∧ r.quantityDelta = -d.quantityDelta) ∧
      (s.existsForOrder o v .rtoRestock = false →
        (s.existsForOrder o v .dispatch = true ↔ s.Ships o v)) := by
  have hdispatch : (s.applyRtoRestock o rtoId).getForOrder o v .dispatch =
      s.getForOrder o v .dispatch :=
    getForOrder_applyItems (rtoRestockMovement rtoId) s (.inr nofun)
  obtain ⟨hkept, hgiven, hnone⟩ := getForOrder_applyRtoRestock hs rtoId v
  rw [orderNet_eq (signed_applyRtoRestock hs o rtoId), movedBy, movedBy, hdispatch,
    existsForOrder_eq_false, existsForOrder_eq_true]
  cases hr : s.getForOrder o v .rtoRestock with
  | some r =>
    -- the restock changes nothing on this variant
    have hpos := restock_pos hs hr
    rw [hkept r hr]
    cases hd : s.getForOrder o v .dispatch with
    | none => simp; omega
    | some d => simp; omega
  | none =>
    -- the restock adds a row where the lines name the variant now
    by_cases hships : s.Ships o v
    · obtain ⟨r, hr', hpos, hback⟩ := hgiven hr hships
      rw [hr']
      cases hd : s.getForOrder o v .dispatch with
      | none => simp [hships]; omega
      | some d =>
        have hback := hback d hd
        simp [hships, hback]
    · rw [hnone hr hships]
      cases hd : s.getForOrder o v .dispatch with
      | none => simp [hships]
      | some d =>
        have hneg := dispatch_neg hs hd
        simp [hships]
        omega

/-- A restock leaves the order at zero exactly when the restock rows it had match and what
is still out is what its lines name. -/
theorem netsToZero_applyRtoRestock_iff {s : Stock} {o : UUID} (hs : s.Signed o)
    (rtoId : UUID) :
    (s.applyRtoRestock o rtoId).NetsToZero o ↔ s.RestocksMatch o ∧ s.ShipsWhatIsOut o := by
  unfold NetsToZero RestocksMatch ShipsWhatIsOut
  rw [← forall_and]
  exact forall_congr' fun v => orderNet_applyRtoRestock_eq_zero_iff hs rtoId v

end AyushOms.Inventory.Stock
