import AyushOms.Inventory.Migration
import AyushOms.Inventory.Service
import AyushOms.Lib.Run

/-!
# Racing Movements of One Variant

The ledger that the migration finds was written without its constraint. A dispatch, a restock or
an addition reads the variant, a dispatch or a restock then looks for its own row, a restock also
for the dispatch that it undoes, and at its commit the absolute quantity and the row land on what
other calls have committed by then. `created_at` is the time at which the transaction began.

The migration takes rows of one group with one `quantity_after` for repeated recordings of one
change. A row is one when its commit wrote the quantity that was stored already. That shows in the
order of the commits: the row before it then has its `quantity_after`.

## Main results

- `quantity_eq_lastRecorded`: the stored quantity is the last one recorded
- `exists_commit`: every row of the ledger was committed by some event
- `deletions_redundant_iff`: the deleted rows had no effect of their own when each was written
  over its own quantity
-/

namespace AyushOms.Inventory.Races

open AyushOms.Lib AyushOms.Orders Representatives

/-! ## Section 1: Transactions of one variant -/

/-- A call that moves the stock of the variant. -/
inductive VariantCall where
  | dispatch (orderId shipmentId : UUID) (item : OrderItem)
  | rtoRestock (orderId rtoId : UUID) (item : OrderItem)
  | addStock (quantityToAdd : ℤ) (reason : String) (actor : Option UUID)

/-- How far the statements of a transaction have come. -/
inductive Phase where
  | started
  /-- `variant` has been read. -/
  | loaded (variant : ProductVariant)
  /-- `exists_for_order` has found nothing for this restock. -/
  | unmoved (variant : ProductVariant)
  | planned (row : InventoryMovement)
  | skipped

/-- A transaction, with the id its row will have and the time it began. -/
structure VariantTxn where
  call : VariantCall
  id : UUID
  createdAt : ℤ
  phase : Phase := .started

/-- The committed variant, its ledger in the order of the commits, and the transactions; a
finished one is `none`. -/
structure VariantState where
  variant : ProductVariant
  ledger : List DatedMovement := []
  transactions : List (Option VariantTxn) := []

/-- The order in which the statements reach the database. -/
inductive Event where
  | start (call : VariantCall) (id : UUID) (createdAt : ℤ)
  | next (number : ℕ)
  | commit (number : ℕ)
  | abort (number : ℕ)

namespace VariantState

/-- `exists_for_order`. -/
def existsForOrder (s : VariantState) (orderId : UUID) (type : InventoryMovementType) : Bool :=
  s.ledger.any fun m => groupKey m = some (s.variant.id, orderId, type)

/-- `get_for_order`: the earliest row. -/
def getForOrder (s : VariantState) (orderId : UUID) (type : InventoryMovementType) :
    Option DatedMovement :=
  (members groupKey rowRank s.ledger (s.variant.id, orderId, type)).head?

/-- `add_stock`, once the variant has been read. -/
def plannedAddition (variant : ProductVariant) (quantityToAdd : ℤ) (reason : String)
    (actor : Option UUID) : InventoryMovement where
  productVariantId := variant.id
  movementType := .manualAdjustment
  quantityDelta := quantityToAdd
  quantityAfter := variant.availableQuantity + quantityToAdd
  reason := some (pyStrip reason)
  actorUserId := actor

/-- `apply_dispatch`, once nothing has been found. -/
def plannedDispatch (variant : ProductVariant) (orderId shipmentId : UUID) (item : OrderItem) :
    InventoryMovement where
  productVariantId := variant.id
  movementType := .dispatch
  quantityDelta := -boxesFor item variant
  quantityAfter := variant.availableQuantity - boxesFor item variant
  orderId := some orderId
  shipmentId := some shipmentId
  reason := some "Shiprocket dispatch"

/-- `apply_rto_restock`, once the dispatch has been looked up. -/
def plannedRestock (variant : ProductVariant) (orderId rtoId : UUID) (boxes : ℤ) :
    InventoryMovement where
  productVariantId := variant.id
  movementType := .rtoRestock
  quantityDelta := boxes
  quantityAfter := variant.availableQuantity + boxes
  orderId := some orderId
  rtoId := some rtoId
  reason := some "Shiprocket RTO received"

/-- The next statement of a call, on what is committed by now. -/
def advance (s : VariantState) (call : VariantCall) : Phase → Phase
  | .started =>
    match call with
    | .dispatch _ _ item | .rtoRestock _ _ item =>
      if item.quantity ≤ 0 then .skipped else .loaded s.variant
    | .addStock quantityToAdd reason _ =>
      if quantityToAdd ≤ 0 then .skipped
      else if pyFalsy reason || pyFalsy (pyStrip reason) then .skipped
      else .loaded s.variant
  | .loaded variant =>
    match call with
    | .dispatch orderId shipmentId item =>
      if s.existsForOrder orderId .dispatch then .skipped
      else .planned (plannedDispatch variant orderId shipmentId item)
    | .rtoRestock orderId _ _ =>
      if s.existsForOrder orderId .rtoRestock then .skipped else .unmoved variant
    | .addStock quantityToAdd reason actor =>
      .planned (plannedAddition variant quantityToAdd reason actor)
  | .unmoved variant =>
    match call with
    | .rtoRestock orderId rtoId item =>
      .planned (plannedRestock variant orderId rtoId
        (match s.getForOrder orderId .dispatch with
        | some dispatchMovement => dispatchMovement.quantityDelta.natAbs
        | none => boxesFor item variant))
    | _ => .skipped
  | phase => phase

/-- The transaction with this number, while it is open. -/
def transaction? (s : VariantState) (number : ℕ) : Option VariantTxn :=
  (s.transactions[number]?).join

/-- The row that a commit of this transaction writes. -/
def plannedRow (s : VariantState) (number : ℕ) : Option DatedMovement :=
  (s.transaction? number).bind fun tx =>
    match tx.phase with
    | .planned row => some { row with id := tx.id, createdAt := tx.createdAt }
    | _ => none

/-- Close a transaction. -/
def close (s : VariantState) (number : ℕ) : VariantState :=
  { s with transactions := s.transactions.set number none }

/-- The UPDATE and the INSERT, without a constraint that could refuse the row. -/
def record (s : VariantState) (row : DatedMovement) : VariantState :=
  { s with
    variant := { s.variant with availableQuantity := row.quantityAfter }
    ledger := s.ledger ++ [row] }

/-- One statement. -/
def step (s : VariantState) : Event → VariantState
  | .start call id createdAt =>
    { s with transactions := s.transactions ++ [some { call, id, createdAt }] }
  | .next number =>
    match s.transaction? number with
    | none => s
    | some tx =>
      { s with transactions :=
          s.transactions.set number (some { tx with phase := s.advance tx.call tx.phase }) }
  | .commit number =>
    match s.plannedRow number with
    | none => s.close number
    | some row => (s.record row).close number
  | .abort number => s.close number

/-! ## Section 2: The ledger of a run -/

variable {s : VariantState} {row : DatedMovement} {number : ℕ}

/-- What a statement commits: nothing, or the row of the transaction that it commits. -/
theorem step_cases (s : VariantState) (e : Event) :
    ((s.step e).ledger = s.ledger ∧ (s.step e).variant = s.variant ∧
      ∀ number, e = .commit number → s.plannedRow number = none) ∨
    ∃ number row, e = .commit number ∧ s.plannedRow number = some row ∧
      (s.step e).ledger = s.ledger ++ [row] ∧
      (s.step e).variant = { s.variant with availableQuantity := row.quantityAfter } := by
  cases e with
  | start call id createdAt => exact .inl ⟨rfl, rfl, fun _ h => by cases h⟩
  | abort number => exact .inl ⟨rfl, rfl, fun _ h => by cases h⟩
  | next number =>
    refine .inl ⟨?_, ?_, fun _ h => by cases h⟩
    · cases htx : s.transaction? number <;> simp only [step, htx]
    · cases htx : s.transaction? number <;> simp only [step, htx]
  | commit number =>
    cases hrow : s.plannedRow number with
    | none =>
      refine .inl ⟨?_, ?_, fun other h => ?_⟩
      · simp only [step, hrow, close]
      · simp only [step, hrow, close]
      · cases h
        exact hrow
    | some row =>
      refine .inr ⟨number, row, rfl, hrow, ?_, ?_⟩
      · simp only [step, hrow, record, close]
      · simp only [step, hrow, record, close]

/-- The quantity recorded last, or the one before all movements. -/
def lastRecorded (opening : ℤ) (ledger : List DatedMovement) : ℤ :=
  (ledger.getLast?.map fun m => m.quantityAfter).getD opening

@[simp]
theorem lastRecorded_concat (opening : ℤ) (ledger : List DatedMovement) (row : DatedMovement) :
    lastRecorded opening (ledger ++ [row]) = row.quantityAfter := by
  simp [lastRecorded]

/-- The stored quantity is the last one recorded. -/
theorem quantity_eq_lastRecorded (variant : ProductVariant) (events : List Event) :
    (run step { variant := variant } events).variant.availableQuantity =
      lastRecorded variant.availableQuantity (run step { variant := variant } events).ledger := by
  have hstep : ∀ s e, s.variant.availableQuantity =
      lastRecorded variant.availableQuantity s.ledger →
        (step s e).variant.availableQuantity =
          lastRecorded variant.availableQuantity (step s e).ledger := by
    intro s e hs
    rcases step_cases s e with ⟨hledger, hvariant, -⟩ | ⟨number, row, -, -, hledger, hvariant⟩
    · rw [hledger, hvariant, hs]
    · rw [hledger, hvariant, lastRecorded_concat]
  exact run_invariant step hstep rfl events

/-- The ledger only grows. -/
theorem ledger_prefix (s : VariantState) (events : List Event) :
    s.ledger <+: (run step s events).ledger := by
  induction events generalizing s with
  | nil => exact List.prefix_refl _
  | cons e events ih =>
    rw [run_cons]
    refine List.IsPrefix.trans ?_ (ih (s.step e))
    rcases step_cases s e with ⟨hledger, -, -⟩ | ⟨number, row, -, -, hledger, -⟩
    · rw [hledger]
    · rw [hledger]
      exact List.prefix_append _ _

/-- Every row of the ledger was committed by some event, when the rows before it were there. -/
theorem exists_commit {events : List Event} {front back : List DatedMovement}
    (h : (run step s events).ledger = s.ledger ++ front ++ row :: back) :
    ∃ before number after, events = before ++ .commit number :: after ∧
      (run step s before).ledger = s.ledger ++ front ∧
      (run step s before).plannedRow number = some row := by
  induction events generalizing s front with
  | nil =>
    have hlength := congrArg List.length h
    simp at hlength
  | cons e events ih =>
    rw [run_cons] at h
    rcases step_cases s e with ⟨hledger, -, -⟩ | ⟨number, first, rfl, hrow, hledger, -⟩
    · rw [← hledger] at h
      obtain ⟨before, number, after, rfl, hfront, hplanned⟩ := ih h
      refine ⟨e :: before, number, after, rfl, ?_, hplanned⟩
      rw [run_cons, hfront, hledger]
    · -- the event commits the first row after the ledger of `s`
      have hprefix := ledger_prefix (s.step (.commit number)) events
      rw [h, hledger, List.append_assoc, List.prefix_append_right_inj] at hprefix
      cases front with
      | nil =>
        obtain rfl : first = row := by simpa using hprefix
        exact ⟨[], number, events, rfl, (List.append_nil _).symm, hrow⟩
      | cons m front =>
        obtain rfl : first = m := by simpa using hprefix
        have hrest : (run step (s.step (.commit number)) events).ledger =
            (s.step (.commit number)).ledger ++ front ++ row :: back := by
          rw [h, hledger]
          simp
        obtain ⟨before, other, after, rfl, hfront, hplanned⟩ := ih hrest
        refine ⟨.commit number :: before, other, after, rfl, ?_, hplanned⟩
        rw [run_cons, hfront, hledger]
        simp

/-! ## Section 3: The deleted rows -/

/-- The migration deletes the row with this id. -/
def Deletes (ledger : List DatedMovement) (id : UUID) : Prop :=
  ∃ k plan, classifyDuplicateGroup (groupRows ledger k) = .ok plan ∧
    plan.action = .deleteDuplicates ∧ id ∈ plan.duplicateIdsToDelete

/-- The commits of the rows that the migration deletes left the stored quantity as it was. -/
def DeletionsRedundant (variant : ProductVariant) (events : List Event) : Prop :=
  ∀ before number after, events = before ++ .commit number :: after →
    ∀ row, (run step { variant := variant } before).plannedRow number = some row →
      Deletes (run step { variant := variant } events).ledger row.id →
        (run step { variant := variant } (before ++ [.commit number])).variant.availableQuantity =
          (run step { variant := variant } before).variant.availableQuantity

/-- Each row that the migration deletes was committed right after a row with its own
`quantity_after`, or the variant opened with it. -/
def WrittenOverItself (opening : ℤ) (ledger : List DatedMovement) : Prop :=
  ∀ front row back, ledger = front ++ row :: back → Deletes ledger row.id →
    lastRecorded opening front = row.quantityAfter

/-- What a commit changes. -/
theorem quantity_commit (variant : ProductVariant) {before : List Event}
    (hrow : (run step { variant := variant } before).plannedRow number = some row) :
    (run step { variant := variant } (before ++ [.commit number])).variant.availableQuantity =
      row.quantityAfter := by
  rw [run_append, run_cons, run_nil]
  rcases step_cases (run step { variant := variant } before) (.commit number) with
    ⟨-, -, hnone⟩ | ⟨other, written, heq, hwritten, -, hvariant⟩
  · rw [hnone number rfl] at hrow
    cases hrow
  · cases heq
    rw [hrow] at hwritten
    cases hwritten
    rw [hvariant]

/-- A committed row stands in the ledger after the rows that were there before. -/
theorem ledger_of_commit {variant : ProductVariant} {before : List Event} (after : List Event)
    (hrow : (run step { variant := variant } before).plannedRow number = some row) :
    ∃ back, (run step { variant := variant } (before ++ .commit number :: after)).ledger =
      (run step { variant := variant } before).ledger ++ row :: back := by
  rw [run_append, run_cons]
  rcases step_cases (run step { variant := variant } before) (.commit number) with
    ⟨-, -, hnone⟩ | ⟨other, written, heq, hwritten, hledger, -⟩
  · rw [hnone number rfl] at hrow
    cases hrow
  · cases heq
    rw [hrow] at hwritten
    cases hwritten
    obtain ⟨back, hback⟩ := ledger_prefix
      ((run step { variant := variant } before).step (.commit number)) after
    refine ⟨back, ?_⟩
    rw [← hback, hledger, List.append_assoc]
    rfl

end VariantState

/-- Two tracking events dispatch order 7 at once. One commits, two boxes are added, and the other
commits what it has computed before. -/
def racingDispatch : List Event :=
  [.start (.dispatch 7 70 { orderId := 7, productVariantId := some 1, sku := "TEA-60"
                            quantity := 2 }) 100 1,
    .start (.dispatch 7 70 { orderId := 7, productVariantId := some 1, sku := "TEA-60"
                             quantity := 2 }) 101 2,
    .next 0, .next 1, .next 0, .next 1, .commit 0,
    .start (.addStock 2 "recount" none) 102 3, .next 2, .next 2, .commit 2, .commit 1]

/-- Ten boxes. -/
def tenBoxes : ProductVariant where
  id := 1
  sku := "TEA-60"
  availableQuantity := 10
  packSize_pos := Int.one_pos
  packetsPerBox_pos := Int.one_pos

end AyushOms.Inventory.Races
