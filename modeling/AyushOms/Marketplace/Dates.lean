import AyushOms.Lib.Run
import AyushOms.Marketplace.Atomicity

/-!
# Balances for Every Date

A row of a marketplace ledger stores the balance as of its own date, computed when it is
written. Entering a date behind later ones leaves the balances those recorded, as the
service's tests document: nothing is recomputed. This module says exactly when the recorded
balances of both ledgers are the sums of the rows for every key and every date.

## Main results

- `balancesAgree_step_iff`: the calls after which balances and sums still agree
- `balances_agree_iff`: they agree throughout a run exactly when every call lands in order, and
  then opening, added and deducted give the current stock of every date
-/

namespace AyushOms.Marketplace

open AyushOms.Lib AyushOms.Inventory

/-! ## Section 1: Runs of the service -/

/-- A call of `record_movement`. -/
structure SkuCall where
  variantId : UUID
  platform : String
  movementType : PlatformStockMovementType
  quantity : Int
  reason : Option String := none
  stockDate : Option Date := none
  actor : Option UUID := none
  today : Date
  movementId : UUID

def SkuCall.program (call : SkuCall) : Call PlatformStockMovement :=
  recordMovement call.variantId call.platform call.movementType call.quantity call.reason
    call.stockDate call.actor call.today call.movementId

/-- A call on either ledger, some of whose statements may raise, or a change to the catalogue
by another part of the backend. -/
inductive StockEvent where
  | sku (call : SkuCall) (faults : ℕ → Option Failure)
  | product (call : ProductCall) (faults : ℕ → Option Failure)
  | editCatalogue (catalogue : Catalogue)

/-- What a call leaves committed. -/
def committed {α : Type} (x : Call α) (faults : ℕ → Option Failure) (db : MarketplaceDB) :
    MarketplaceDB :=
  (Txn.run Row.insert x (.fresh db faults)).2.committed

/-- The database after an event. -/
def stockStep [PyText] (db : MarketplaceDB) : StockEvent → MarketplaceDB
  | .sku call faults => committed call.program faults db
  | .product call faults => committed call.program faults db
  | .editCatalogue catalogue => { db with catalogue := catalogue }

/-- `record_movement` commits its row and its audit entry at its end. -/
theorem SkuCall.settled (call : SkuCall) : Txn.Ensures Txn.Settled call.program ⟨[], []⟩ := by
  refine (Txn.reads_raiseIf _ _).ensures_bind (fun _ _ => ?_) fun _ => rfl
  refine (Txn.reads_raiseIf _ _).ensures_bind (fun _ _ => ?_) fun _ => rfl
  refine (Txn.reads_select _).ensures_bind (fun _ _ => ?_) fun _ => rfl
  refine (Txn.reads_orRaise _ _).ensures_bind (fun _ _ => ?_) fun _ => rfl
  refine (Txn.reads_select _).ensures_bind (fun _ _ => ?_) fun _ => rfl
  refine (Txn.reads_raiseIf _ _).ensures_bind (fun _ _ => ?_) fun _ => rfl
  -- two writes, then the commit
  exact ⟨⟨⟨rfl, fun _ => rfl⟩, fun _ => rfl⟩, fun _ => rfl⟩

theorem committed_sku (call : SkuCall) (faults : ℕ → Option Failure) (db : MarketplaceDB) :
    committed call.program faults db = db ∨
      ∃ m, Returns call.program db m (committed call.program faults db) :=
  Txn.committed_cases call.settled db faults

theorem committed_product [PyText] (call : ProductCall) (faults : ℕ → Option Failure)
    (db : MarketplaceDB) :
    committed call.program faults db = db ∨
      ∃ m, Returns call.program db m (committed call.program faults db) :=
  Txn.committed_cases call.atomic.settled db faults

/-! ## Section 2: Balances and sums -/

/-- The rows of the product ledger agree, for every key and date. -/
def MarketplaceDB.ProductAgrees (db : MarketplaceDB) : Prop :=
  Agrees ProductMarketplaceMovement.key ProductMarketplaceMovement.stockDate
    ProductMarketplaceMovement.quantityDelta ProductMarketplaceMovement.quantityAfter
    db.productMovements.rows

/-- The rows of the per-SKU ledger agree, for every key and date. -/
def MarketplaceDB.PlatformAgrees (db : MarketplaceDB) : Prop :=
  Agrees PlatformStockMovement.key PlatformStockMovement.stockDate
    PlatformStockMovement.quantityDelta PlatformStockMovement.quantityAfter
    db.platformMovements.rows

/-- For every key of both ledgers and every date, the row picked as the balance as of the date
has recorded the sum of the rows up to it. -/
def MarketplaceDB.BalancesAgree (db : MarketplaceDB) : Prop :=
  db.PlatformAgrees ∧ db.ProductAgrees

/-- The rows an event appends to either ledger add up to nothing, or none of them is dated
before an existing row of its key. -/
def LandsInOrderOn [PyText] (db : MarketplaceDB) (e : StockEvent) : Prop :=
  LandsInOrder PlatformStockMovement.key PlatformStockMovement.stockDate
      PlatformStockMovement.quantityDelta db.platformMovements.rows
      ((stockStep db e).platformMovements.rows.drop db.platformMovements.rows.length) ∧
    LandsInOrder ProductMarketplaceMovement.key ProductMarketplaceMovement.stockDate
      ProductMarketplaceMovement.quantityDelta db.productMovements.rows
      ((stockStep db e).productMovements.rows.drop db.productMovements.rows.length)

/-- What a call on the product ledger appends to it: rows of one key and one date that run from
the balance as of that date. -/
theorem product_run_of_returns [PyText] {call : ProductCall} {m : ProductMarketplaceMovement}
    {db db' : MarketplaceDB} (h : Returns call.program db m db') :
    db'.platformMovements = db.platformMovements ∧ ∃ (key : MarketplaceKey) (date : Date)
      (new : List ProductMarketplaceMovement),
      db'.productMovements.rows = db.productMovements.rows ++ new ∧
      (∀ r ∈ new, r.key = key ∧ r.stockDate = date) ∧
      RunningBalance ProductMarketplaceMovement.quantityDelta
        ProductMarketplaceMovement.quantityAfter (db.productBalance key date) new := by
  cases call with
  | record productId platform movementType quantityPackets reason stockDate actor
      catalogVariantId today movementId =>
    obtain ⟨a, happends, _, _, _, _, _, hafter⟩ := returns_recordProductMovement h
    refine ⟨happends.platformMovements, m.key, m.stockDate, [m], happends.movements, ?_, hafter,
      True.intro⟩
    simp
  | undo movementId reason actor today reversalId =>
    obtain ⟨original, effect, _, happends, hreversal, hdate, hafter⟩ := returns_undoMovement h
    refine ⟨happends.platformMovements, m.key, today, [m], happends.movements, ?_, hafter,
      True.intro⟩
    simp [hdate]
  | edit movementId quantityPackets reason actor today reversalId replacementId =>
    obtain ⟨original, reversal, effect, db₁, a, _, happends, hreversal, hdate, hafter, happends',
      _, hkey', hdate', _, hafter', _⟩ := returns_editMovement h
    have hkey := hreversal.key
    refine ⟨(happends.trans happends').platformMovements, m.key, today, [reversal] ++ [m],
      (happends.trans happends').movements, ?_, hafter, hafter', True.intro⟩
    simp [hdate, hdate', hkey, hkey']

/-! ## Section 3: One event -/

/-- An event keeps balances and sums in agreement exactly when its rows land in order. -/
theorem balancesAgree_step_iff [PyText] {db : MarketplaceDB} (h : db.BalancesAgree)
    (e : StockEvent) : (stockStep db e).BalancesAgree ↔ LandsInOrderOn db e := by
  -- a call that raised appended nothing, and nothing lands in order
  have hunchanged : stockStep db e = db →
      ((stockStep db e).BalancesAgree ↔ LandsInOrderOn db e) := by
    intro heq
    rw [LandsInOrderOn, heq, List.drop_length, List.drop_length]
    exact ⟨fun _ => ⟨landsInOrder_nil .., landsInOrder_nil ..⟩, fun _ => h⟩
  cases e with
  | editCatalogue catalogue =>
    rw [LandsInOrderOn]
    simp only [stockStep, List.drop_length]
    exact ⟨fun _ => ⟨landsInOrder_nil .., landsInOrder_nil ..⟩, fun _ => h⟩
  | sku call faults =>
    rcases committed_sku call faults db with heq | ⟨m, hreturns⟩
    · exact hunchanged heq
    · obtain ⟨_, _, hafter, hrows, hproduct, _⟩ := returns_recordMovement hreturns
      change (stockStep db (.sku call faults)).platformMovements.rows = _ at hrows
      change (stockStep db (.sku call faults)).productMovements = _ at hproduct
      rw [LandsInOrderOn, MarketplaceDB.BalancesAgree, MarketplaceDB.PlatformAgrees,
        MarketplaceDB.ProductAgrees, hrows, hproduct, List.drop_left, List.drop_length]
      refine and_congr ?_ ⟨fun _ => landsInOrder_nil .., fun _ => h.2⟩
      exact agrees_append_iff h.1 (by simp) ⟨hafter, True.intro⟩
  | product call faults =>
    rcases committed_product call faults db with heq | ⟨m, hreturns⟩
    · exact hunchanged heq
    · -- an edit appends two rows, both of the key and the date of the correction
      obtain ⟨hplatform, key, date, new, hrows, hnew, hrun⟩ := product_run_of_returns hreturns
      change (stockStep db (.product call faults)).platformMovements = _ at hplatform
      change (stockStep db (.product call faults)).productMovements.rows = _ at hrows
      rw [LandsInOrderOn, MarketplaceDB.BalancesAgree, MarketplaceDB.PlatformAgrees,
        MarketplaceDB.ProductAgrees, hrows, hplatform, List.drop_left, List.drop_length]
      refine and_congr ⟨fun _ => landsInOrder_nil .., fun _ => h.1⟩ ?_
      exact agrees_append_iff h.2 hnew hrun

/-! ## Section 4: The summary of a day -/

/-- What a day added less what it deducted is what its rows add up to. -/
theorem addedAndDeducted_sub (deltas : List Int) :
    (MarketplaceDB.addedAndDeducted deltas).1 - (MarketplaceDB.addedAndDeducted deltas).2 =
      deltas.sum := by
  have hloop : ∀ (deltas : List Int) (totals : Int × Int),
      (deltas.foldl (fun totals delta =>
          if 0 ≤ delta then (totals.1 + delta, totals.2) else (totals.1, totals.2 + -delta))
        totals).1 -
      (deltas.foldl (fun totals delta =>
          if 0 ≤ delta then (totals.1 + delta, totals.2) else (totals.1, totals.2 + -delta))
        totals).2 = totals.1 - totals.2 + deltas.sum := by
    intro deltas
    induction deltas with
    | nil => simp
    | cons delta deltas ih =>
      intro totals
      rw [List.foldl_cons, ih, List.sum_cons]
      split <;> omega
  have htotal := hloop deltas (0, 0)
  unfold MarketplaceDB.addedAndDeducted
  omega

/-- The summary of a day: opening stock, plus added, less deducted, is the current stock. -/
def MarketplaceDB.DaysAddUp (db : MarketplaceDB) : Prop :=
  (∀ key date, db.platformBalance key (date - 1) + (db.platformSumForDate key date).1 -
      (db.platformSumForDate key date).2 = db.platformBalance key date) ∧
    (∀ key date, db.productBalance key (date - 1) + (db.productSumForDate key date).1 -
      (db.productSumForDate key date).2 = db.productBalance key date)

theorem MarketplaceDB.BalancesAgree.daysAddUp {db : MarketplaceDB} (h : db.BalancesAgree) :
    db.DaysAddUp := by
  refine ⟨fun key date => ?_, fun key date => ?_⟩
  · have hday := h.1.opening_add_sum key date
    rw [add_sub_assoc, platformSumForDate, addedAndDeducted_sub]
    exact hday
  · have hday := h.2.opening_add_sum key date
    rw [add_sub_assoc, productSumForDate, addedAndDeducted_sub]
    exact hday

/-! ## Section 5: Runs -/

/-- From ledgers that agree, balances and sums agree in every state of a run, for every key and
date, exactly when every event of the run lands in order; and then the summary of every day
adds up in every state. -/
theorem balances_agree_iff [PyText] {db : MarketplaceDB} (h : db.BalancesAgree)
    (events : List StockEvent) :
    (Throughout stockStep MarketplaceDB.BalancesAgree db events ↔
      Along stockStep LandsInOrderOn db events) ∧
    (Along stockStep LandsInOrderOn db events →
      Throughout stockStep MarketplaceDB.DaysAddUp db events) := by
  have hiff : Throughout stockStep MarketplaceDB.BalancesAgree db events ↔
      Along stockStep LandsInOrderOn db events :=
    throughout_iff_along LandsInOrderOn (fun _ => True) MarketplaceDB.BalancesAgree
      (fun _ _ _ => True.intro) (fun _ e _ hdb => balancesAgree_step_iff hdb e) events True.intro h
  exact ⟨hiff, fun hrun pre hpre => (hiff.mpr hrun pre hpre).daysAddUp⟩

/-! ## Section 6: A day entered late -/

/-- One SKU, nothing recorded yet. -/
def oneSku : MarketplaceDB where
  catalogue := {
    products := [1]
    variants := [{
      id := 10, sku := "PLAT-BACKFILL-1", productId := 1
      packSize_pos := Int.one_pos, packetsPerBox_pos := Int.one_pos }] }

/-- Stock added on Amazon for the SKU. -/
def stockAdded (quantity : Int) (date : Date) (movementId : UUID) : StockEvent :=
  .sku { variantId := 10, platform := "amazon", movementType := .stockAdded,
         quantity := quantity, stockDate := some date, today := date, movementId := movementId }
    fun _ => none

/-- The second day is entered first; the first day, entered after it, does not move the balance
of the second. -/
theorem late_entry_leaves_later_balance :
    (run stockStep oneSku [stockAdded 530 739871 1, stockAdded 500 739870 2]).platformBalance
        ⟨10, "amazon"⟩ 739871 = 530 ∧
      ¬ ∀ key date,
        (run stockStep oneSku [stockAdded 530 739871 1,
          stockAdded 500 739870 2]).platformBalance key date =
          sumAsOf PlatformStockMovement.key PlatformStockMovement.stockDate
            PlatformStockMovement.quantityDelta key date
            (run stockStep oneSku [stockAdded 530 739871 1,
              stockAdded 500 739870 2]).platformMovements.rows := by
  refine ⟨by decide +kernel, fun h => ?_⟩
  have hday := h ⟨10, "amazon"⟩ 739871
  revert hday
  decide +kernel

/-- Entered in the order of their dates, both days agree. -/
theorem balances_agree_iff_chronological :
    Throughout stockStep MarketplaceDB.BalancesAgree oneSku
        [stockAdded 500 739870 2, stockAdded 530 739871 1] ∧
      Throughout stockStep MarketplaceDB.DaysAddUp oneSku
        [stockAdded 500 739870 2, stockAdded 530 739871 1] := by
  have hstart : oneSku.BalancesAgree := ⟨agrees_nil, agrees_nil⟩
  have horder : Along stockStep LandsInOrderOn oneSku
      [stockAdded 500 739870 2, stockAdded 530 739871 1] := by
    refine ⟨⟨.inr ?_, .inl ?_⟩, ⟨.inr ?_, .inl ?_⟩, True.intro⟩ <;> decide +kernel
  obtain ⟨hiff, hdays⟩ := balances_agree_iff hstart
    [stockAdded 500 739870 2, stockAdded 530 739871 1]
  exact ⟨hiff.mpr horder, hdays horder⟩

end AyushOms.Marketplace
