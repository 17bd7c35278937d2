import AyushOms.Marketplace.Dates

/-!
# Deductions the Ledger Covers

`record_movement` refuses a deduction that would take the balance below zero. The balance it
looks at is the one recorded by the latest row as of the date of the new one: the rows dated
later, from which a back-dated deduction takes as well, are not looked at, and a recorded balance
does not know of the rows entered behind it. This module says exactly which calls keep the sums
of the ledger from going below zero.

## Main results

- `committed_sku_cases`: a call records its row exactly when it passes the checks
- `nonNegative_step_iff`: the calls that leave no sum below zero
- `stock_nonNegative_iff`: the runs that never do
- `covered_of_latest`: entered in the order of their dates, deductions are covered
-/

namespace AyushOms.Marketplace

open AyushOms.Lib AyushOms.Inventory

/-! ## Section 1: What a call records -/

namespace SkuCall

variable {call : SkuCall} {db db' : MarketplaceDB}

def key (call : SkuCall) : SkuKey := ⟨call.variantId, call.platform⟩

/-- `resolved_date`. -/
def date (call : SkuCall) : Date := call.stockDate.getD call.today

def delta (call : SkuCall) : Int :=
  if call.movementType = .stockAdded then call.quantity else -call.quantity

/-- The row of a call, on top of the balance as of its date. -/
def row (call : SkuCall) (db : MarketplaceDB) : PlatformStockMovement where
  id := call.movementId
  productVariantId := call.variantId
  platform := call.platform
  movementType := call.movementType
  quantityDelta := call.delta
  quantityAfter := db.platformBalance call.key call.date + call.delta
  stockDate := call.date
  reason := cleanReason call.reason
  actorUserId := call.actor

/-- The call passes the checks of `record_movement`, and the id of its row is new. -/
structure Accepted (call : SkuCall) (db : MarketplaceDB) : Prop where
  quantity : 0 < call.quantity
  platform : call.platform ∈ InventoryPlatform.ALL
  variant : (db.getVariant call.variantId).isSome
  balance : call.movementType ≠ .stockAdded →
    call.quantity ≤ db.platformBalance call.key call.date
  id : ∀ m ∈ db.platformMovements.rows, m.id ≠ call.movementId

/-- The check of the balance, in the words of the code. -/
theorem balance_check :
    ¬ (call.movementType ≠ .stockAdded ∧
      db.platformBalance call.key call.date +
        (if call.movementType = .stockAdded then call.quantity else -call.quantity) < 0) ↔
    (call.movementType ≠ .stockAdded →
      call.quantity ≤ db.platformBalance call.key call.date) := by
  by_cases hadded : call.movementType = .stockAdded
  · simp [hadded]
  · rw [if_neg hadded]
    simp only [hadded, ne_eq, not_false_eq_true, true_and, true_imp_iff]
    omega

/-- A call that returned was accepted. -/
theorem accepted_of_returns {m : PlatformStockMovement} (h : Returns call.program db m db') :
    call.Accepted db ∧ m = call.row db := by
  obtain ⟨hpos, hquantity⟩ := Txn.yields_raiseIf_bind h
  obtain ⟨hknown, hplatform⟩ := Txn.yields_raiseIf_bind hquantity
  have hvariant := Txn.yields_select_bind hplatform
  obtain ⟨v, hv, hfound⟩ := Txn.yields_orRaise_bind hvariant
  have hlatest := Txn.yields_select_bind hfound
  obtain ⟨hbalance, hwrite⟩ := Txn.yields_raiseIf_bind hlatest
  obtain ⟨_, db₁, hinsert, hinserted⟩ := Txn.yields_bind hwrite
  obtain ⟨_, db₂, -, haudited⟩ := Txn.yields_bind hinserted
  obtain ⟨_, db₃, -, hlast⟩ := Txn.yields_bind haudited
  obtain ⟨rfl, -⟩ := Txn.yields_pure hlast
  have hrow := Txn.yields_flush hinsert
  simp only [Row.insert] at hrow
  split at hrow
  · rename_i table htable
    have hsome : (db.getVariant call.variantId).isSome := Option.isSome_iff_exists.mpr ⟨v, hv⟩
    refine ⟨⟨not_le.mp hpos, not_not.mp hknown, hsome, balance_check.mp hbalance, ?_⟩, rfl⟩
    intro m hm hid
    exact (Table.insert?_eq_some_iff.mp htable).2.1 _ (List.mem_singleton_self _) m hm
      (List.mem_singleton.mpr hid.symm)
  · cases hrow

/-- An accepted call returns when no statement raises. -/
theorem returns_of_accepted (h : call.Accepted db) :
    (Txn.run Row.insert call.program (.fresh db fun _ => none)).1 = .ok (call.row db) := by
  obtain ⟨v, hv⟩ := Option.isSome_iff_exists.mp h.variant
  obtain ⟨table, htable⟩ := db.platformMovements.exists_insert? (r := call.row db)
    (List.nodup_singleton _) (by
      intro k hk m hm hkm
      rw [List.mem_singleton.mp hk] at hkm
      exact h.id m hm (List.mem_singleton.mp hkm).symm)
  rw [SkuCall.program, recordMovement, Txn.Session.fresh,
    (Txn.completes_raiseIf (not_le.mpr h.quantity)).resume,
    (Txn.completes_raiseIf (not_not.mpr h.platform)).resume,
    Txn.completes_select.resume, (Txn.completes_orRaise hv).resume,
    Txn.completes_select.resume]
  have hbalance := balance_check.mpr h.balance
  refine (congrArg Prod.fst ((Txn.completes_raiseIf hbalance).resume db)).trans ?_
  have hinsert : Row.insert (.platformMovement (call.row db)) db =
      .ok { db with platformMovements := table } := by
    simp only [Row.insert, htable]
  exact congrArg Prod.fst ((Txn.completes_flush hinsert).resume db)

/-- A call none of whose statements raises records its row when it is accepted, and otherwise
nothing. -/
theorem committed_cases (call : SkuCall) (db : MarketplaceDB) :
    (call.Accepted db ∧
      (committed call.program (fun _ => none) db).platformMovements.rows =
        db.platformMovements.rows ++ [call.row db]) ∨
    (¬ call.Accepted db ∧ committed call.program (fun _ => none) db = db) := by
  by_cases h : call.Accepted db
  · have hreturns := Txn.yields_of_ok call.settled (returns_of_accepted h)
    exact .inl ⟨h, (returns_recordMovement hreturns).2.2.2.1⟩
  · refine .inr ⟨h, ?_⟩
    rcases committed_sku call (fun _ => none) db with hsame | ⟨m, hreturns⟩
    · exact hsame
    · exact absurd (accepted_of_returns hreturns).1 h

end SkuCall

/-! ## Section 2: Calls that leave no sum below zero -/

/-- No sum of a SKU's rows on a platform, up to whatever date, is below zero. -/
def MarketplaceDB.StockNonNegative (db : MarketplaceDB) : Prop :=
  NonNegative PlatformStockMovement.key PlatformStockMovement.stockDate
    PlatformStockMovement.quantityDelta db.platformMovements.rows

/-- What the rows of a key up to a date add up to. -/
def MarketplaceDB.platformSum (db : MarketplaceDB) (key : SkuKey) (asOf : Date) : Int :=
  sumAsOf PlatformStockMovement.key PlatformStockMovement.stockDate
    PlatformStockMovement.quantityDelta key asOf db.platformMovements.rows

/-- A deduction that the service accepts takes no more than the rows add up to, as of its own
date and as of every later one. -/
def Covered (db : MarketplaceDB) (call : SkuCall) : Prop :=
  call.movementType ≠ .stockAdded → call.Accepted db →
    ∀ date, call.date ≤ date → call.quantity ≤ db.platformSum call.key date

/-- `record_movement`, none of whose statements raises. One that does leaves the ledger as it
was. -/
def skuStep (db : MarketplaceDB) (call : SkuCall) : MarketplaceDB :=
  committed call.program (fun _ => none) db

/-- A call leaves no sum below zero exactly when it is covered. -/
theorem nonNegative_step_iff {db : MarketplaceDB} (h : db.StockNonNegative) (call : SkuCall) :
    (skuStep db call).StockNonNegative ↔ Covered db call := by
  rcases call.committed_cases db with ⟨haccepted, hrows⟩ | ⟨hrefused, hsame⟩
  · rw [skuStep, MarketplaceDB.StockNonNegative, hrows, nonNegative_concat_iff h]
    change (∀ date, call.date ≤ date → 0 ≤ db.platformSum call.key date + call.delta) ↔ _
    by_cases hadded : call.movementType = .stockAdded
    · -- an addition leaves every sum larger
      refine iff_of_true (fun date _ => ?_) fun hne => absurd hadded hne
      have hsum : 0 ≤ db.platformSum call.key date := h call.key date
      have hquantity := haccepted.quantity
      rw [SkuCall.delta, if_pos hadded]
      omega
    · have hdelta : call.delta = -call.quantity := if_neg hadded
      rw [hdelta]
      constructor
      · intro hsums _ _ date hdate
        have hsum := hsums date hdate
        omega
      · intro hcovered date hdate
        have hsum := hcovered hadded haccepted date hdate
        omega
  · rw [skuStep, hsame]
    exact iff_of_true h fun _ haccepted => absurd haccepted hrefused

/-- Where the recorded balances are the sums and nothing of the key is dated later, the check of
the balance is enough. -/
theorem covered_of_latest {db : MarketplaceDB} {call : SkuCall} (hagrees : db.PlatformAgrees)
    (hlatest : ∀ m ∈ db.platformMovements.rows, m.key = call.key → m.stockDate ≤ call.date) :
    Covered db call := by
  intro hdeducts haccepted date hdate
  have hbalance : db.platformBalance call.key call.date = db.platformSum call.key call.date :=
    hagrees call.key call.date
  have hlater : db.platformSum call.key date = db.platformSum call.key call.date :=
    sumAsOf_eq_of_le hdate hlatest
  rw [hlater, ← hbalance]
  exact haccepted.balance hdeducts

/-! ## Section 3: Runs -/

/-- **No stock below zero.** From a ledger whose sums are all at zero or above, they are in every
state of a run, for every SKU, platform and date, exactly when every deduction is covered. -/
theorem stock_nonNegative_iff {db : MarketplaceDB} (h : db.StockNonNegative)
    (calls : List SkuCall) :
    Throughout skuStep MarketplaceDB.StockNonNegative db calls ↔ Along skuStep Covered db calls :=
  throughout_iff_along Covered (fun _ => True) MarketplaceDB.StockNonNegative
    (fun _ _ _ => True.intro) (fun _ call _ hdb => nonNegative_step_iff hdb call) calls True.intro h

/-! ## Section 4: A sale entered late -/

/-- A movement of the SKU on Amazon. -/
def amazonMovement (movementType : PlatformStockMovementType) (quantity : Int) (date : Date)
    (movementId : UUID) : SkuCall where
  variantId := 10
  platform := "amazon"
  movementType := movementType
  quantity := quantity
  stockDate := some date
  today := 739872
  movementId := movementId

/-- 500 boxes come in on the first day and go out on the third; a sale of 300 on the second day
is entered after that. -/
def lateSale : List SkuCall :=
  [amazonMovement .stockAdded 500 739870 1, amazonMovement .stockDeducted 500 739872 2,
    amazonMovement .stockDeducted 300 739871 3]

/-- The late sale is accepted, and from the third day on 300 boxes are missing. -/
theorem late_sale_overdraws :
    (run skuStep oneSku lateSale).platformSum ⟨10, "amazon"⟩ 739872 = -300 ∧
      ¬ Throughout skuStep MarketplaceDB.StockNonNegative oneSku lateSale := by
  have hsum : (run skuStep oneSku lateSale).platformSum ⟨10, "amazon"⟩ 739872 = -300 := by
    decide +kernel
  refine ⟨hsum, fun h => ?_⟩
  have hnonneg : 0 ≤ (run skuStep oneSku lateSale).platformSum ⟨10, "amazon"⟩ 739872 :=
    h.final ⟨10, "amazon"⟩ 739872
  rw [hsum] at hnonneg
  exact absurd hnonneg (by decide)

/-- Entered on the day, the sale is covered. -/
theorem sale_in_order_covered :
    Throughout skuStep MarketplaceDB.StockNonNegative oneSku
      [amazonMovement .stockAdded 500 739870 1, amazonMovement .stockDeducted 300 739871 3] := by
  have hstart : oneSku.StockNonNegative := nonNegative_nil
  refine (stock_nonNegative_iff hstart _).mpr ⟨fun h => absurd rfl h, ?_, True.intro⟩
  intro _ _ date hdate
  have hrows : (skuStep oneSku (amazonMovement .stockAdded 500 739870 1)).platformMovements.rows =
      [] ++ [(amazonMovement .stockAdded 500 739870 1).row oneSku] := by
    decide +kernel
  have hseen : (739870 : Int) ≤ date := le_trans (by decide) hdate
  rw [MarketplaceDB.platformSum, hrows, sumAsOf_concat, if_pos ⟨rfl, hseen⟩]
  exact (by decide : (300 : Int) ≤ 0 + 500)

end AyushOms.Marketplace
