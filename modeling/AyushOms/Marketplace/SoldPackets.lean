import AyushOms.Lib.Versions
import AyushOms.Marketplace.Corrections

/-!
# Packets Sold

`sum_sold_packets` adds up the sale rows of a scope that no row reverses. An edit reverses a
sale and appends a row that replaces it, so one sale can be several rows, one edit chain. A row
that has been replaced is reversed; only the last row of a chain can be left to count, and it
counts until an undo reverses it.

## Main results

- `EditChains.step`: every event leaves chains in which a replaced row is never replaced again
- `sold_packets_of_chains`: the sum is that of the last rows of the chains not undone
-/

namespace AyushOms.Marketplace

open AyushOms.Lib AyushOms.Inventory

/-! ## Section 1: The sum and the chains -/

namespace MarketplaceDB

/-- `already_reversed`: some row reverses the movement. -/
def AlreadyReversed (db : MarketplaceDB) (m : ProductMarketplaceMovement) : Prop :=
  ∃ r ∈ db.productMovements.rows, r.reversesMovementId = some m.id

instance (db : MarketplaceDB) (m : ProductMarketplaceMovement) :
    Decidable (db.AlreadyReversed m) :=
  inferInstanceAs (Decidable (∃ r ∈ db.productMovements.rows, _))

/-- `ProductMarketplaceMovementRepository.sum_sold_packets`. -/
def sumSoldPackets (db : MarketplaceDB) (productId : UUID) (dateFrom dateToExclusive : Date)
    (catalogVariantId : Option UUID) : Int :=
  ((db.productMovements.rows.filter fun m =>
    m.productId = productId ∧ m.catalogVariantId = catalogVariantId ∧ m.movementType = .sale ∧
      dateFrom ≤ m.stockDate ∧ m.stockDate < dateToExclusive ∧ ¬ db.AlreadyReversed m).map
    ProductMarketplaceMovement.quantityPackets).sum

/-- The row counts as sold, in its scope and on its date. -/
def CountsAsSold (db : MarketplaceDB) (m : ProductMarketplaceMovement) : Prop :=
  m ∈ db.productMovements.rows ∧ m.movementType = .sale ∧ ¬ db.AlreadyReversed m

/-- The last row of the edit chain that begins with a movement. -/
def lastOfChain (db : MarketplaceDB) (m : ProductMarketplaceMovement) :
    ProductMarketplaceMovement :=
  lastVersion ProductMarketplaceMovement.id ProductMarketplaceMovement.replacesMovementId
    db.productMovements.rows m

/-- The sales of a scope, each by the first row of its edit chain. -/
def firstSales (db : MarketplaceDB) (productId : UUID) (catalogVariantId : Option UUID) :
    List ProductMarketplaceMovement :=
  db.productMovements.rows.filter fun m =>
    m.replacesMovementId = none ∧ m.movementType = .sale ∧ m.productId = productId ∧
      m.catalogVariantId = catalogVariantId

/-- The chain that begins with the movement has been undone: its last row is reversed, though
nothing replaces it. -/
def Undone (db : MarketplaceDB) (m : ProductMarketplaceMovement) : Prop :=
  db.AlreadyReversed (db.lastOfChain m)

instance (db : MarketplaceDB) (m : ProductMarketplaceMovement) : Decidable (db.Undone m) :=
  inferInstanceAs (Decidable (db.AlreadyReversed _))

end MarketplaceDB

/-- The product ledger is a history of versions, and a row that replaces another is of its type
and on its balance. -/
structure EditChains (db : MarketplaceDB) : Prop where
  versioned : Versioned ProductMarketplaceMovement.id
    ProductMarketplaceMovement.replacesMovementId db.productMovements.rows
  keeps : ∀ b ∈ db.productMovements.rows, ∀ t ∈ db.productMovements.rows,
    b.replacesMovementId = some t.id → b.movementType = t.movementType ∧ b.key = t.key

/-! ## Section 2: One more event -/

section Append

variable {db db' : MarketplaceDB} {m t : ProductMarketplaceMovement}
  {as : List CatalogVariantStockAdjustment}

theorem editChains_of_no_movements (hrows : db.productMovements.rows = []) : EditChains db where
  versioned := by
    rw [hrows]
    exact .nil
  keeps := by simp [hrows]

/-- The chains depend on the product ledger only. -/
theorem EditChains.congr (h : EditChains db) (hmovements : db'.productMovements =
    db.productMovements) : EditChains db' where
  versioned := by
    rw [hmovements]
    exact h.versioned
  keeps := by
    rw [hmovements]
    exact h.keeps

/-- What the rows replace, with one more row that is nobody's target. -/
theorem EditChains.keeps_append (h : EditChains db) (happends : Appends db db' [m] as)
    (hnew : ∀ t ∈ db.productMovements.rows, m.replacesMovementId = some t.id →
      m.movementType = t.movementType ∧ m.key = t.key)
    (hself : m.replacesMovementId ≠ some m.id) :
    ∀ b ∈ db'.productMovements.rows, ∀ t ∈ db'.productMovements.rows,
      b.replacesMovementId = some t.id → b.movementType = t.movementType ∧ b.key = t.key := by
  intro b hb t ht hreplaces
  rw [happends.movements] at hb ht
  rcases List.mem_append.mp hb with hold | hb
  · rcases List.mem_append.mp ht with ht | ht
    · exact h.keeps b hold t ht hreplaces
    · -- an older row cannot name the new one
      obtain rfl := List.mem_singleton.mp ht
      exact absurd hreplaces (h.versioned.unreplaced_of_fresh happends.id_fresh b hold)
  · obtain rfl := List.mem_singleton.mp hb
    rcases List.mem_append.mp ht with ht | ht
    · exact hnew t ht hreplaces
    · obtain rfl := List.mem_singleton.mp ht
      exact absurd hreplaces hself

/-- A row that replaces nothing is appended: a recorded movement or a reversal. -/
theorem EditChains.original (h : EditChains db) (happends : Appends db db' [m] as)
    (hfirst : m.replacesMovementId = none) : EditChains db' where
  versioned := by
    rw [happends.movements]
    exact .original h.versioned hfirst happends.id_fresh
  keeps := h.keeps_append happends (by simp [hfirst]) (by simp [hfirst])

/-- A row that replaces one of its type and balance, which nothing has replaced, is appended. -/
theorem EditChains.replacement (h : EditChains db) (happends : Appends db db' [m] as)
    (ht : t ∈ db.productMovements.rows) (hreplaces : m.replacesMovementId = some t.id)
    (hlatest : ∀ b ∈ db.productMovements.rows, b.replacesMovementId ≠ some t.id)
    (hkind : m.movementType = t.movementType) (hkey : m.key = t.key) : EditChains db' where
  versioned := by
    rw [happends.movements]
    exact .replacement h.versioned ht hreplaces hlatest happends.id_fresh
  keeps := by
    refine h.keeps_append happends (fun t' ht' hreplaces' => ?_) fun heq => ?_
    · obtain rfl := h.versioned.id_injective ht ht'
        (Option.some.inj (hreplaces.symm.trans hreplaces'))
      exact ⟨hkind, hkey⟩
    · exact happends.id_fresh t ht (Option.some.inj (hreplaces.symm.trans heq))

end Append

/-- A call that returns keeps the chains: only an edit replaces, and it replaces a row that it
has just reversed. -/
theorem EditChains.returned [PyText] {db db' : MarketplaceDB} (h : EditChains db)
    (hdb : Consistent db) {call : ProductCall} {m : ProductMarketplaceMovement}
    (hreturns : Returns call.program db m db') : EditChains db' := by
  cases call with
  | record productId platform movementType quantityPackets reason stockDate actor
      catalogVariantId today movementId =>
    obtain ⟨a, happends, _, _, _, _, hreplaces, _⟩ := returns_recordProductMovement hreturns
    exact h.original happends hreplaces
  | undo movementId reason actor today reversalId =>
    obtain ⟨original, effect, _, happends, hreversal, _⟩ := returns_undoMovement hreturns
    exact h.original happends hreversal.replaces
  | edit movementId quantityPackets reason actor today reversalId replacementId =>
    obtain ⟨original, reversal, effect, db₁, a, hcorrectable, happends, hreversal, _, _, happends',
      _, hkey, _, hreplaces, _, hkind⟩ := returns_editMovement hreturns
    have hmem : original ∈ db₁.productMovements.rows := by
      rw [happends.movements]
      exact List.mem_append_left _ hcorrectable.mem
    refine (h.original happends hreversal.replaces).replacement happends' hmem hreplaces
      (fun b hb hreplaced => ?_) hkind hkey
    -- a replaced row has been reversed, and nothing had reversed the original
    rw [happends.movements] at hb
    rcases List.mem_append.mp hb with hb | hb
    · obtain ⟨r, hr, hreverses⟩ := hdb.replaced b hb original.id hreplaced
      exact hcorrectable.standing r hr hreverses
    · rw [List.mem_singleton.mp hb, hreversal.replaces] at hreplaced
      cases hreplaced

theorem EditChains.step [PyText] {db : MarketplaceDB} (h : EditChains db) (hdb : Consistent db)
    (e : StockEvent) : EditChains (stockStep db e) := by
  cases e with
  | editCatalogue catalogue => exact h.congr rfl
  | sku call faults => exact h.congr (committed_sku_product call faults db).1
  | product call faults =>
    show EditChains (committed call.program faults db)
    rcases committed_product call faults db with heq | ⟨m, hreturns⟩
    · rw [heq]
      exact h
    · exact h.returned hdb hreturns

/-- Both invariants of the product ledger hold after every run. -/
theorem editChains_run [PyText] {db : MarketplaceDB} (hrows : db.productMovements.rows = [])
    (hunlinked : ∀ a ∈ db.adjustments.rows, a.productMarketplaceMovementId = none)
    (events : List StockEvent) :
    Consistent (run stockStep db events) ∧ EditChains (run stockStep db events) := by
  have hstep : ∀ db e, Consistent db ∧ EditChains db →
      Consistent (stockStep db e) ∧ EditChains (stockStep db e) :=
    fun _ e h => ⟨h.1.step e, h.2.step h.1 e⟩
  exact run_invariant stockStep hstep
    ⟨consistent_of_no_movements hrows hunlinked, editChains_of_no_movements hrows⟩ events

/-! ## Section 3: Rows stay -/

/-- No event takes a row of the product ledger away. -/
theorem rows_prefix_step [PyText] (db : MarketplaceDB) (e : StockEvent) :
    db.productMovements.rows <+: (stockStep db e).productMovements.rows := by
  cases e with
  | editCatalogue catalogue => exact List.prefix_refl _
  | sku call faults =>
    show _ <+: (committed call.program faults db).productMovements.rows
    rw [(committed_sku_product call faults db).1]
  | product call faults =>
    show _ <+: (committed call.program faults db).productMovements.rows
    rcases committed_product call faults db with heq | ⟨m, hreturns⟩
    · rw [heq]
    · cases call with
      | record productId platform movementType quantityPackets reason stockDate actor
          catalogVariantId today movementId =>
        obtain ⟨a, happends, _⟩ := returns_recordProductMovement hreturns
        exact ⟨[m], happends.movements.symm⟩
      | undo movementId reason actor today reversalId =>
        obtain ⟨original, effect, _, happends, _⟩ := returns_undoMovement hreturns
        exact ⟨[m], happends.movements.symm⟩
      | edit movementId quantityPackets reason actor today reversalId replacementId =>
        obtain ⟨original, reversal, effect, db₁, a, _, happends, _, _, _, happends', _⟩ :=
          returns_editMovement hreturns
        exact ⟨_, (happends.trans happends').movements.symm⟩

theorem rows_prefix_run [PyText] (db : MarketplaceDB) (events : List StockEvent) :
    db.productMovements.rows <+: (run stockStep db events).productMovements.rows :=
  run_rel stockStep
    (R := fun db db' : MarketplaceDB => db.productMovements.rows <+: db'.productMovements.rows)
    (fun _ => List.prefix_refl _) (fun h h' => h.trans h') rows_prefix_step db events

/-! ## Section 4: What the sum counts -/

namespace EditChains

variable {db : MarketplaceDB}

/-- A row that has been replaced does not count: the edit that replaced it reversed it. -/
theorem not_countsAsSold_of_replaced (hdb : Consistent db) {m t : ProductMarketplaceMovement}
    (hm : m ∈ db.productMovements.rows) (hreplaces : m.replacesMovementId = some t.id) :
    ¬ db.CountsAsSold t := by
  intro hcounts
  obtain ⟨r, hr, hreverses⟩ := hdb.replaced m hm t.id hreplaces
  exact hcounts.2.2 ⟨r, hr, hreverses⟩

/-- The last row of a chain is of the type and on the balance of the first. -/
theorem lastOfChain_keeps (h : EditChains db) {m : ProductMarketplaceMovement}
    (hm : m ∈ db.productMovements.rows) :
    (db.lastOfChain m).movementType = m.movementType ∧ (db.lastOfChain m).key = m.key :=
  ⟨lastVersion_keeps ProductMarketplaceMovement.movementType
      (fun b hb t ht hreplaces => (h.keeps b hb t ht hreplaces).1) hm,
    lastVersion_keeps ProductMarketplaceMovement.key
      (fun b hb t ht hreplaces => (h.keeps b hb t ht hreplaces).2) hm⟩

/-- The rows left to count are the last rows of the chains that have not been undone. -/
theorem sumSoldPackets_eq (h : EditChains db) (hdb : Consistent db) (productId : UUID)
    (catalogVariantId : Option UUID) {dateFrom dateTo : Date}
    (hrange : ∀ m ∈ db.productMovements.rows, dateFrom ≤ m.stockDate ∧ m.stockDate < dateTo) :
    db.sumSoldPackets productId dateFrom dateTo catalogVariantId =
      (((db.firstSales productId catalogVariantId).filter fun m => ¬ db.Undone m).map
        fun m => (db.lastOfChain m).quantityPackets).sum := by
  have hsum := h.versioned.sum_lastVersion
    (fun m => m.movementType = .sale ∧ m.productId = productId ∧
      m.catalogVariantId = catalogVariantId ∧ ¬ db.AlreadyReversed m)
    ProductMarketplaceMovement.quantityPackets
  have hleft : (db.firstSales productId catalogVariantId).filter (fun m => ¬ db.Undone m) =
      db.productMovements.rows.filter fun m => m.replacesMovementId = none ∧
        (db.lastOfChain m).movementType = .sale ∧ (db.lastOfChain m).productId = productId ∧
        (db.lastOfChain m).catalogVariantId = catalogVariantId ∧
        ¬ db.AlreadyReversed (db.lastOfChain m) := by
    rw [MarketplaceDB.firstSales, List.filter_filter]
    refine List.filter_congr fun m hm => ?_
    obtain ⟨hkind, hkey⟩ := h.lastOfChain_keeps hm
    simp only [ProductMarketplaceMovement.key, MarketplaceKey.mk.injEq] at hkey
    rw [hkind, hkey.1, hkey.2.1, ← Bool.decide_and, decide_eq_decide]
    show ¬ db.Undone m ∧ _ ∧ _ ↔ _
    rw [MarketplaceDB.Undone]
    tauto
  have hright : db.productMovements.rows.filter (fun m => m.productId = productId ∧
        m.catalogVariantId = catalogVariantId ∧ m.movementType = .sale ∧
        dateFrom ≤ m.stockDate ∧ m.stockDate < dateTo ∧ ¬ db.AlreadyReversed m) =
      db.productMovements.rows.filter fun m => (m.movementType = .sale ∧
        m.productId = productId ∧ m.catalogVariantId = catalogVariantId ∧
        ¬ db.AlreadyReversed m) ∧ Unreplaced ProductMarketplaceMovement.id
          ProductMarketplaceMovement.replacesMovementId db.productMovements.rows m := by
    refine List.filter_congr fun m hm => decide_eq_decide.mpr ?_
    -- what has been replaced has been reversed
    have hunreplaced : ¬ db.AlreadyReversed m → Unreplaced ProductMarketplaceMovement.id
        ProductMarketplaceMovement.replacesMovementId db.productMovements.rows m :=
      fun hnot b hb hreplaces => hnot (hdb.replaced b hb m.id hreplaces)
    have hdates := hrange m hm
    tauto
  rw [MarketplaceDB.sumSoldPackets, hright, hleft]
  exact hsum.symm

end EditChains

/-- From a product ledger without movements, after any run of recordings, undos and edits, with
calls on the other ledger and changes to the catalogue between them: over a range that covers
all dates, the packets sold in a scope are those of the last row of every edit chain of a sale
that has not been undone; a row that has been replaced does not count, and a row that does not
count never counts again. -/
theorem sold_packets_of_chains [PyText] {db : MarketplaceDB}
    (hrows : db.productMovements.rows = [])
    (hunlinked : ∀ a ∈ db.adjustments.rows, a.productMarketplaceMovementId = none)
    (events : List StockEvent) :
    (∀ (productId : UUID) (catalogVariantId : Option UUID) (dateFrom dateTo : Date),
      (∀ m ∈ (run stockStep db events).productMovements.rows,
        dateFrom ≤ m.stockDate ∧ m.stockDate < dateTo) →
      (run stockStep db events).sumSoldPackets productId dateFrom dateTo catalogVariantId =
        ((((run stockStep db events).firstSales productId catalogVariantId).filter
          fun m => ¬ (run stockStep db events).Undone m).map
            fun m => ((run stockStep db events).lastOfChain m).quantityPackets).sum) ∧
    (∀ m ∈ (run stockStep db events).productMovements.rows,
      ∀ t, m.replacesMovementId = some t.id → ¬ (run stockStep db events).CountsAsSold t) ∧
    ∀ m ∈ (run stockStep db events).productMovements.rows,
      ¬ (run stockStep db events).CountsAsSold m →
      ∀ more, ¬ (run stockStep (run stockStep db events) more).CountsAsSold m := by
  obtain ⟨hdb, hchains⟩ := editChains_run hrows hunlinked events
  refine ⟨fun productId catalogVariantId dateFrom dateTo hrange =>
      hchains.sumSoldPackets_eq hdb productId catalogVariantId hrange,
    fun m hm t hreplaces => EditChains.not_countsAsSold_of_replaced hdb hm hreplaces,
    fun m hm hnot more hcounts => hnot ⟨hm, hcounts.2.1, fun hreversed => ?_⟩⟩
  -- the row that reverses it stays
  obtain ⟨r, hr, hreverses⟩ := hreversed
  exact hcounts.2.2 ⟨r, (rows_prefix_run _ more).subset hr, hreverses⟩

/-- Twenty packets sold and corrected to fifteen: fifteen packets are sold, whatever the
correction is followed by the sale of twenty does not count again. -/
theorem sold_packets_of_chains_editedSale :
    (run stockStep oneSku [saleOfTwenty, editedToFifteen]).sumSoldPackets 1 739000 740000 none =
      15 ∧
    (run stockStep oneSku [saleOfTwenty, editedToFifteen]).sumSoldPackets 1 739000 740000 none =
      ((((run stockStep oneSku [saleOfTwenty, editedToFifteen]).firstSales 1 none).filter
        fun m => ¬ (run stockStep oneSku [saleOfTwenty, editedToFifteen]).Undone m).map
          fun m => ((run stockStep oneSku
            [saleOfTwenty, editedToFifteen]).lastOfChain m).quantityPackets).sum :=
  ⟨by decide +kernel, (sold_packets_of_chains rfl (by simp [oneSku])
    [saleOfTwenty, editedToFifteen]).1 1 none 739000 740000 (by decide +kernel)⟩

end AyushOms.Marketplace
