import AyushOms.Inventory.Ledger

/-!
# Interleaved Stock Transactions

The three stock calls as database transactions under READ COMMITTED. The code takes no row
lock when it reads: a transaction reads the committed stock (and its own uncommitted
rows), computes absolute quantities and ledger rows from what it read, and makes them
visible at its commit. Between a transaction's read and its commit any other transaction
may commit.

An `UPDATE` does lock the row it writes until the commit, so the writes of two
transactions to one variant are ordered by their commits, and the unique constraint on
`(product_variant_id, order_id, movement_type)` is decided there as well.

## Main results

- `System.alone_eq_call`: a transaction that runs alone does what the service call does
- `System.reconciled_throughout_iff`: quantity and ledger agree in every state of a run
  exactly when every commit writes quantities computed from the ones it replaces
- `System.two_dispatches_lose_an_update`: without that, an update is lost
-/

namespace AyushOms.Inventory

open AyushOms.Lib AyushOms.Orders

/-! ## Section 1: Transactions -/

/-- What a transaction still has to read and compute from. -/
inductive StockRead where
  | line (kind : Stock.AutoMovement) (orderId : UUID) (item : OrderItem)
  | addition (variantId : UUID) (quantityToAdd : Int) (reason : String) (actor : Option UUID)

/-- The row a read leads to; an addition that raises leads to none. -/
def StockRead.plan (s : Stock) : StockRead → Option InventoryMovement
  | .line kind orderId item => Stock.planItem kind orderId s item
  | .addition variantId quantityToAdd reason actor =>
    (s.planAddStock variantId quantityToAdd reason actor).toOption

/-- An open transaction: the reads to come and the rows computed so far. -/
structure Transaction where
  todo : List StockRead
  rows : List InventoryMovement := []

/-- The service calls that move stock. -/
inductive StockCall where
  | dispatch (orderId shipmentId : UUID)
  | rtoRestock (orderId rtoId : UUID)
  | addStock (variantId : UUID) (quantityToAdd : Int) (reason : String) (actor : Option UUID)

/-- What a call reads, given the order's lines at its start. -/
def StockCall.reads (s : Stock) : StockCall → List StockRead
  | .dispatch orderId shipmentId =>
    (s.listForOrder orderId).map (.line (Stock.dispatchMovement shipmentId) orderId)
  | .rtoRestock orderId rtoId =>
    (s.listForOrder orderId).map (.line (Stock.rtoRestockMovement rtoId) orderId)
  | .addStock variantId quantityToAdd reason actor =>
    [.addition variantId quantityToAdd reason actor]

/-- The same call run by itself. -/
def StockCall.op : StockCall → Stock.StockOp
  | .dispatch orderId shipmentId => .applyDispatch orderId shipmentId
  | .rtoRestock orderId rtoId => .applyRtoRestock orderId rtoId
  | .addStock variantId quantityToAdd reason actor =>
    .addStock variantId quantityToAdd reason actor

/-- The committed stock and the transactions by number; a finished one is `none`. -/
structure System where
  stock : Stock
  transactions : List (Option Transaction) := []

namespace System

/-- The order in which the transactions' statements reach the database. -/
inductive Event where
  | start (call : StockCall)
  | read (number : Nat)
  | commit (number : Nat)
  | abort (number : Nat)

/-- The transaction with this number, while it is open. -/
def transaction? (sys : System) (number : Nat) : Option Transaction :=
  (sys.transactions[number]?).join

/-- What a transaction sees: the committed stock under its own rows. -/
def view (sys : System) (tx : Transaction) : Stock :=
  run Stock.recordMovement sys.stock tx.rows

/-- The next read of a transaction, computed on what it sees. -/
def advance (sys : System) (tx : Transaction) : Transaction :=
  match tx.todo with
  | [] => tx
  | next :: rest => { todo := rest, rows := tx.rows ++ (next.plan (sys.view tx)).toList }

/-- One statement. A transaction commits when it has nothing left to read. -/
def step (sys : System) : Event → System
  | .start call =>
    -- the order's lines are listed once, when the call begins
    { sys with transactions := sys.transactions ++ [some { todo := call.reads sys.stock }] }
  | .read number =>
    match sys.transaction? number with
    | none => sys
    | some tx =>
      -- READ COMMITTED: the read sees whatever has been committed by now
      { sys with transactions := sys.transactions.set number (some (sys.advance tx)) }
  | .commit number =>
    match sys.transaction? number with
    | none => sys
    | some tx =>
      -- the absolute quantities land on the stock as it is at the commit
      if tx.todo.isEmpty then
        { stock := sys.view tx, transactions := sys.transactions.set number none }
      else sys
  | .abort number => { sys with transactions := sys.transactions.set number none }

/-- Every transaction started has committed or been aborted. -/
def Quiet (sys : System) : Prop := ∀ tx ∈ sys.transactions, tx = none

instance (sys : System) : Decidable sys.Quiet :=
  decidable_of_iff (sys.transactions.all Option.isNone)
    (by simp [Quiet, List.all_eq_true])

/-! ## Section 2: Fresh commits -/

/-- A row is fresh for the stock it is committed to: it starts from the quantity its
variant has there, or its key is taken and the SAVEPOINT unwinds it. -/
def FreshRow (s : Stock) (m : InventoryMovement) : Prop :=
  s.movements.insert? m = none ∨ s.ComputedFrom m

instance (s : Stock) (m : InventoryMovement) : Decidable (FreshRow s m) :=
  inferInstanceAs (Decidable (_ ∨ _))

/-- A commit is fresh when each of its rows is, at its turn. Other events commit nothing. -/
def FreshCommit (sys : System) : Event → Prop
  | .commit number =>
    ∀ tx ∈ sys.transaction? number,
      tx.todo.isEmpty = true → Along Stock.recordMovement FreshRow sys.stock tx.rows
  | .start _ | .read _ | .abort _ => True

instance FreshCommit.decidable (sys : System) : ∀ e, Decidable (FreshCommit sys e)
  | .commit number =>
    inferInstanceAs (Decidable (∀ tx ∈ sys.transaction? number,
      tx.todo.isEmpty = true → Along Stock.recordMovement FreshRow sys.stock tx.rows))
  | .start _ | .read _ | .abort _ => inferInstanceAs (Decidable True)

/-- Recording a row keeps quantity and ledger in agreement exactly when it is fresh. -/
theorem reconciled_iff_freshRow {opening : UUID → Int} (s : Stock) (m : InventoryMovement)
    (hs : s.Reconciled opening) :
    (s.recordMovement m).Reconciled opening ↔ FreshRow s m := by
  cases h : s.movements.insert? m with
  | none =>
    rw [Stock.recordMovement_of_refused h]
    exact ⟨fun _ => .inl h, fun _ => hs⟩
  | some t =>
    rw [Stock.reconciled_recordMovement_iff hs h]
    constructor
    · exact .inr
    · rintro (hnone | hm)
      · rw [h] at hnone
        cases hnone
      · exact hm

/-- The recorded balances run, whatever the stored quantities are. -/
def LedgerRuns (opening : UUID → Int) (s : Stock) : Prop :=
  ∀ v ∈ s.variants.rows,
    RunningBalance InventoryMovement.quantityDelta InventoryMovement.quantityAfter
      (opening v.id) (s.movementsOf v.id)

/-- Balances that run after a row was recorded ran before it: a later row never repairs
an earlier one. -/
theorem ledgerRuns_of_recordMovement {opening : UUID → Int} {s : Stock}
    {m : InventoryMovement} (h : LedgerRuns opening (s.recordMovement m)) :
    LedgerRuns opening s := by
  cases hins : s.movements.insert? m with
  | none => rwa [Stock.recordMovement_of_refused hins] at h
  | some t =>
    intro v hv
    -- the ledger of the row's variant has grown by the row, the others are untouched
    by_cases hid : v.id = m.productVariantId
    · have hafter := h _ ((Stock.mem_variants_of_accepted hins).mpr ⟨v, hv, .inl ⟨hid, rfl⟩⟩)
      rw [Stock.movementsOf_of_accepted hins, if_pos hid.symm] at hafter
      exact (runningBalance_concat.mp hafter).1
    · have hafter := h v ((Stock.mem_variants_of_accepted hins).mpr ⟨v, hv, .inr ⟨hid, rfl⟩⟩)
      rwa [Stock.movementsOf_of_accepted hins, if_neg fun he => hid he.symm] at hafter

theorem ledgerRuns_of_run {opening : UUID → Int} {rows : List InventoryMovement} {s : Stock}
    (h : LedgerRuns opening (run Stock.recordMovement s rows)) : LedgerRuns opening s := by
  induction rows generalizing s with
  | nil => exact h
  | cons m rows ih => exact ledgerRuns_of_recordMovement (ih h)

/-- In a reconciled stock only a fresh row keeps the recorded balances running. -/
theorem freshRow_of_ledgerRuns {opening : UUID → Int} {s : Stock} {m : InventoryMovement}
    (hs : s.Reconciled opening) (h : LedgerRuns opening (s.recordMovement m)) :
    FreshRow s m := by
  cases hins : s.movements.insert? m with
  | none => exact .inl hins
  | some t =>
    refine .inr fun v hv hid => ?_
    have hafter := h _ ((Stock.mem_variants_of_accepted hins).mpr ⟨v, hv, .inl ⟨hid, rfl⟩⟩)
    rw [Stock.movementsOf_of_accepted hins, if_pos hid.symm] at hafter
    rw [(hs v hv).stored_eq]
    exact (runningBalance_concat.mp hafter).2

/-- A commit leaves the stock reconciled exactly when all its rows are fresh. -/
theorem reconciled_run_iff {opening : UUID → Int} {rows : List InventoryMovement} {s : Stock}
    (hs : s.Reconciled opening) :
    (run Stock.recordMovement s rows).Reconciled opening ↔
      Along Stock.recordMovement FreshRow s rows := by
  -- a stale row is never repaired by a later one, so the first row is fresh by itself
  induction rows generalizing s with
  | nil => exact ⟨fun _ => True.intro, fun _ => hs⟩
  | cons m rows ih =>
    rw [run_cons, along_cons]
    constructor
    · intro h
      have hruns : LedgerRuns opening (s.recordMovement m) :=
        ledgerRuns_of_run fun v hv => (h v hv).running
      have hfresh : FreshRow s m := freshRow_of_ledgerRuns hs hruns
      exact ⟨hfresh, (ih ((reconciled_iff_freshRow s m hs).mpr hfresh)).mp h⟩
    · rintro ⟨hfresh, hrest⟩
      exact (ih ((reconciled_iff_freshRow s m hs).mpr hfresh)).mpr hrest

/-! ## Section 3: Runs -/

/-- One statement keeps the committed stock reconciled exactly when it is no stale commit. -/
theorem reconciled_step_iff {opening : UUID → Int} (sys : System) (e : Event)
    (hs : sys.stock.Reconciled opening) :
    (sys.step e).stock.Reconciled opening ↔ FreshCommit sys e := by
  cases e with
  | start call => exact ⟨fun _ => True.intro, fun _ => hs⟩
  | abort number => exact ⟨fun _ => True.intro, fun _ => hs⟩
  | read number =>
    refine ⟨fun _ => True.intro, fun _ => ?_⟩
    simp only [step]
    split <;> exact hs
  | commit number =>
    -- only a commit of an open transaction with nothing left to read writes
    cases htx : sys.transaction? number with
    | none => simp [step, FreshCommit, htx, hs]
    | some tx =>
      by_cases hdone : tx.todo = []
      · simp only [step, FreshCommit, htx, hdone, List.isEmpty_nil, if_true, true_implies,
          Option.mem_def, Option.some.injEq, forall_eq']
        exact reconciled_run_iff hs
      · simp [step, FreshCommit, htx, hdone, hs]

/-- From a reconciled stock, quantity and ledger agree in every state of a run exactly when
every commit of the run is fresh; in particular every variant then has, at the end, its
opening quantity plus all committed movements. -/
theorem reconciled_throughout_iff {opening : UUID → Int} {sys : System}
    (hs : sys.stock.Reconciled opening) (events : List Event) :
    (Throughout step (fun sys => sys.stock.Reconciled opening) sys events ↔
      Along step FreshCommit sys events) ∧
    (Along step FreshCommit sys events →
      ∀ v ∈ (run step sys events).stock.variants.rows,
        v.availableQuantity = opening v.id +
          (((run step sys events).stock.movementsOf v.id).map
            InventoryMovement.quantityDelta).sum) := by
  have hstep : ∀ sys e, True → sys.stock.Reconciled opening →
      ((step sys e).stock.Reconciled opening ↔ FreshCommit sys e) :=
    fun sys e _ h => reconciled_step_iff sys e h
  have hiff : Throughout step (fun sys => sys.stock.Reconciled opening) sys events ↔
      Along step FreshCommit sys events :=
    throughout_iff_along FreshCommit (fun _ => True) _ (fun _ _ h => h) hstep events True.intro hs
  refine ⟨hiff, fun hfresh v hv => ?_⟩
  exact ((hiff.mpr hfresh).final v hv).stored_eq

/-! ## Section 4: A transaction that runs alone -/

theorem transaction?_concat (ts : List (Option Transaction)) (s : Stock) (tx : Transaction) :
    ({ stock := s, transactions := ts ++ [some tx] } : System).transaction? ts.length =
      some tx := by
  simp [transaction?]

theorem view_advance (sys : System) (tx : Transaction) (next : StockRead)
    (rest : List StockRead) (h : tx.todo = next :: rest) :
    sys.view (sys.advance tx) = (sys.view tx).recordPlanned (next.plan (sys.view tx)) := by
  simp only [advance, h]
  generalize hplan : next.plan (sys.view tx) = planned
  cases planned with
  | none => simp [view, Stock.recordPlanned]
  | some m =>
    simp only [view, Option.toList_some, run_append, run_cons, run_nil]
    rfl

/-- Undisturbed reads compute what the loop of the call computes. -/
theorem run_reads (s : Stock) (ts : List (Option Transaction)) :
    ∀ (todo : List StockRead) (tx : Transaction), tx.todo = todo →
      ∃ tx' : Transaction, tx'.todo = [] ∧
        run step { stock := s, transactions := ts ++ [some tx] }
            (List.replicate todo.length (.read ts.length)) =
          { stock := s, transactions := ts ++ [some tx'] } ∧
        run Stock.recordMovement s tx'.rows =
          todo.foldl (fun s next => s.recordPlanned (next.plan s))
            (run Stock.recordMovement s tx.rows)
  | [], tx, htodo => ⟨tx, htodo, rfl, rfl⟩
  | next :: rest, tx, htodo => by
    let sys : System := { stock := s, transactions := ts ++ [some tx] }
    have hadvance : (sys.advance tx).todo = rest := by simp only [advance, htodo]
    obtain ⟨tx', hdone, hrun, hview⟩ := run_reads s ts rest (sys.advance tx) hadvance
    have hread : sys.step (.read ts.length) =
        { stock := s, transactions := ts ++ [some (sys.advance tx)] } := by
      simp only [step, sys, transaction?_concat]
      simp
    -- nothing is committed in between, so the view advances as the loop of the call does
    refine ⟨tx', hdone, ?_, ?_⟩
    · rw [List.length_cons, List.replicate_succ, run_cons]
      exact (congrArg (fun sys => run step sys _) hread).trans hrun
    · rw [hview, List.foldl_cons]
      exact congrArg (rest.foldl _) (view_advance sys tx next rest htodo)

/-- The reads of a call, done one after another, amount to the call. -/
theorem foldl_reads_eq_op (s : Stock) (call : StockCall) :
    (call.reads s).foldl (fun s next => s.recordPlanned (next.plan s)) s = s.step call.op := by
  cases call with
  | dispatch orderId shipmentId =>
    simp only [StockCall.reads, List.foldl_map]
    rfl
  | rtoRestock orderId rtoId =>
    simp only [StockCall.reads, List.foldl_map]
    rfl
  | addStock variantId quantityToAdd reason actor =>
    simp only [StockCall.reads, List.foldl_cons, List.foldl_nil, StockRead.plan, StockCall.op,
      Stock.step, Stock.addStock]
    cases s.planAddStock variantId quantityToAdd reason actor with
    | error e => rfl
    | ok m => rfl

/-- A transaction whose statements nothing comes between does what the service call does. -/
theorem alone_eq_call (sys : System) (call : StockCall) :
    (run step sys (.start call ::
        (List.replicate (call.reads sys.stock).length (.read sys.transactions.length) ++
          [.commit sys.transactions.length]))).stock =
      sys.stock.step call.op := by
  obtain ⟨tx', hdone, hrun, hview⟩ :=
    run_reads sys.stock sys.transactions (call.reads sys.stock)
      { todo := call.reads sys.stock } rfl
  have hstart : sys.step (.start call) =
      { stock := sys.stock,
        transactions := sys.transactions ++ [some { todo := call.reads sys.stock }] } := rfl
  rw [run_cons, hstart, run_append, hrun]
  simp only [run_cons, run_nil, step, transaction?_concat, hdone, List.isEmpty_nil, if_true]
  exact hview.trans (foldl_reads_eq_op sys.stock call)

/-! ## Section 5: A lost update -/

/-- Two orders of the same variant dispatch at once: both read ten boxes. -/
def racingDispatches : List Event :=
  [.start (.dispatch 7 70), .start (.dispatch 8 80), .read 0, .read 1, .commit 0, .commit 1]

/-- The same two dispatches one after the other. -/
def serialDispatches : List Event :=
  [.start (.dispatch 7 70), .read 0, .commit 0, .start (.dispatch 8 80), .read 1, .commit 1]

/-- Both dispatches commit, two movements of minus one are recorded, and the quantity has
moved from ten to nine. -/
theorem two_dispatches_lose_an_update :
    Stock.twoOrders.Reconciled (fun _ => 10) ∧
    (run step ⟨Stock.twoOrders, []⟩ racingDispatches).Quiet ∧
    ¬ ∀ v ∈ (run step ⟨Stock.twoOrders, []⟩ racingDispatches).stock.variants.rows,
      v.availableQuantity = 10 +
        (((run step ⟨Stock.twoOrders, []⟩ racingDispatches).stock.movementsOf v.id).map
          InventoryMovement.quantityDelta).sum :=
  ⟨Stock.reconciled_of_no_movements rfl (by decide), by decide, by decide⟩

/-- Run one after the other, both commits are fresh. -/
theorem reconciled_throughout_iff_serial :
    Throughout step (fun sys => sys.stock.Reconciled fun _ => 10) ⟨Stock.twoOrders, []⟩
      serialDispatches ∧
    ∀ v ∈ (run step ⟨Stock.twoOrders, []⟩ serialDispatches).stock.variants.rows,
      v.availableQuantity = 10 +
        (((run step ⟨Stock.twoOrders, []⟩ serialDispatches).stock.movementsOf v.id).map
          InventoryMovement.quantityDelta).sum := by
  have hs : (⟨Stock.twoOrders, []⟩ : System).stock.Reconciled fun _ => 10 :=
    Stock.twoOrders_reconciled
  have hfresh : Along step FreshCommit ⟨Stock.twoOrders, []⟩ serialDispatches := by decide
  obtain ⟨hiff, hsum⟩ := reconciled_throughout_iff hs serialDispatches
  exact ⟨hiff.mpr hfresh, hsum hfresh⟩

end System

end AyushOms.Inventory
