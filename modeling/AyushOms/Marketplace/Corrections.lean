import AyushOms.Lib.Corrections
import AyushOms.Marketplace.Dates

/-!
# Undo and Edit

An undo appends a reversal, an edit a reversal and a replacement; no row is ever changed. The
product ledger is therefore a linear history: a reversal points at a sale or an RTO that
nothing else reverses. Over such a history every total is the total of the movements left
standing, on the marketplace ledger and on the OMS adjustments that are linked to it.

## Main results

- `Consistent.step`: every event keeps the history linear and the adjustments aligned with it
- `corrections_sum_to_standing`: what holds of both ledgers after any run, and what an undo
  takes back
-/

namespace AyushOms.Marketplace

open AyushOms.Lib AyushOms.Inventory

/-! ## Section 1: Histories of movements -/

/-- A sale or an RTO that no reversal points at. -/
def MarketplaceDB.Stands (db : MarketplaceDB) (m : ProductMarketplaceMovement) : Prop :=
  (m.movementType = .sale ∨ m.movementType = .rto) ∧
    ∀ r ∈ db.productMovements.rows, r.movementType = .reversal →
      r.reversesMovementId ≠ some m.id

instance (db : MarketplaceDB) (m : ProductMarketplaceMovement) : Decidable (db.Stands m) :=
  inferInstanceAs (Decidable (_ ∧ _))

/-- The product ledger is linear, and the adjustments linked to it are those of its movements,
in the same order: each sale or RTO has one by its own amount, and a reversal negates both the
movement it points at and that movement's adjustment. -/
structure Consistent (db : MarketplaceDB) : Prop where
  linear : Linear ProductMarketplaceMovement.id ProductMarketplaceMovement.reversesMovementId
    db.productMovements.rows
  movementType : ∀ m ∈ db.productMovements.rows,
    (m.reversesMovementId = none ∧ (m.movementType = .sale ∨ m.movementType = .rto)) ∨
      (m.reversesMovementId ≠ none ∧ m.movementType = .reversal ∧ m.replacesMovementId = none)
  negates : ∀ r ∈ db.productMovements.rows, ∀ t ∈ db.productMovements.rows,
    r.reversesMovementId = some t.id → r.key = t.key ∧ r.quantityDelta = -t.quantityDelta
  replaced : ∀ m ∈ db.productMovements.rows, ∀ i, m.replacesMovementId = some i →
    ∃ r ∈ db.productMovements.rows, r.reversesMovementId = some i
  aligned : db.adjustments.rows.filter (fun a => a.productMarketplaceMovementId ≠ none) =
    db.productMovements.rows.filterMap fun m => db.getForMovement m.id
  adjusted : ∀ m ∈ db.productMovements.rows, m.reversesMovementId = none →
    ∃ a, db.getForMovement m.id = some a ∧ a.quantityDelta = m.quantityDelta ∧
      ∀ id, a.scope = .product id → id = m.productId
  negated : ∀ r ∈ db.productMovements.rows, ∀ t ∈ db.productMovements.rows,
    r.reversesMovementId = some t.id → ∃ a e, db.getForMovement r.id = some a ∧
      db.getForMovement t.id = some e ∧ a.quantityDelta = -e.quantityDelta ∧ a.scope = e.scope

/-- Ledgers without movements are consistent, whatever unlinked adjustments there are. -/
theorem consistent_of_no_movements {db : MarketplaceDB} (hrows : db.productMovements.rows = [])
    (hunlinked : ∀ a ∈ db.adjustments.rows, a.productMarketplaceMovementId = none) :
    Consistent db where
  linear := by
    rw [hrows]
    exact .nil
  movementType := by simp [hrows]
  negates := by simp [hrows]
  replaced := by simp [hrows]
  aligned := by
    rw [hrows]
    simpa using hunlinked
  adjusted := by simp [hrows]
  negated := by simp [hrows]

/-! ## Section 2: One more row -/

section Append

variable {db db' : MarketplaceDB} {m : ProductMarketplaceMovement}
  {a : CatalogVariantStockAdjustment}

/-- The id of an appended row is new. -/
theorem Appends.id_fresh {as : List CatalogVariantStockAdjustment} (h : Appends db db' [m] as) :
    ∀ b ∈ db.productMovements.rows, b.id ≠ m.id := by
  intro b hb hid
  have hunique := db'.productMovements.unique
  rw [h.movements, List.flatMap_append, List.nodup_append'] at hunique
  refine hunique.2.2
    (List.mem_flatMap.mpr ⟨b, hb, ProductMarketplaceMovement.mem_keys_id.mpr hid⟩) ?_
  simp [ProductMarketplaceMovement.mem_keys_id]

/-- An appended adjustment is the one of the movement it is linked to. -/
theorem Appends.getForMovement_self {ms : List ProductMarketplaceMovement}
    (h : Appends db db' ms [a]) {i : UUID} (hlinked : a.productMarketplaceMovementId = some i) :
    db'.getForMovement i = some a :=
  MarketplaceDB.getForMovement_eq_some.mpr ⟨by simp [h.adjustments], hlinked⟩

/-- It is nobody else's. -/
theorem Appends.getForMovement_of_ne {ms : List ProductMarketplaceMovement}
    (h : Appends db db' ms [a]) {i j : UUID} (hlinked : a.productMarketplaceMovementId = some i)
    (hne : j ≠ i) : db'.getForMovement j = db.getForMovement j := by
  unfold MarketplaceDB.getForMovement Table.find?
  rw [h.adjustments, List.find?_append]
  have hnot : [a].find? (fun a => a.productMarketplaceMovementId == some j) = none := by
    simp [hlinked, hne.symm]
  rw [hnot, Option.or_none]

/-- A movement and its adjustment are appended in step. -/
theorem Appends.aligned (h : Appends db db' [m] [a])
    (hlinked : a.productMarketplaceMovementId = some m.id)
    (haligned : db.adjustments.rows.filter (fun a => a.productMarketplaceMovementId ≠ none) =
      db.productMovements.rows.filterMap fun m => db.getForMovement m.id) :
    db'.adjustments.rows.filter (fun a => a.productMarketplaceMovementId ≠ none) =
      db'.productMovements.rows.filterMap fun m => db'.getForMovement m.id := by
  have hold : db.productMovements.rows.filterMap (fun b => db'.getForMovement b.id) =
      db.productMovements.rows.filterMap fun b => db.getForMovement b.id :=
    List.filterMap_congr fun b hb => h.getForMovement_of_ne hlinked (h.id_fresh b hb)
  rw [h.adjustments, h.movements, List.filter_append, List.filterMap_append, hold, haligned]
  simp [hlinked, h.getForMovement_self hlinked]

/-- A movement reverses nothing exactly when it is a sale or an RTO. -/
theorem Consistent.plain_iff (hdb : Consistent db) {b : ProductMarketplaceMovement}
    (hb : b ∈ db.productMovements.rows) :
    b.reversesMovementId = none ↔ b.movementType = .sale ∨ b.movementType = .rto := by
  rcases hdb.movementType b hb with ⟨hnone, hkind⟩ | ⟨hne, hkind, _⟩
  · exact ⟨fun _ => hkind, fun _ => hnone⟩
  · simp [hne, hkind]

/-- The adjustments of reversals and their targets are still found where those of the rows
that were there are. -/
theorem Consistent.negated_of_kept (hdb : Consistent db)
    (hold : ∀ b ∈ db.productMovements.rows, db'.getForMovement b.id = db.getForMovement b.id) :
    ∀ r ∈ db.productMovements.rows, ∀ t ∈ db.productMovements.rows,
      r.reversesMovementId = some t.id → ∃ a e, db'.getForMovement r.id = some a ∧
        db'.getForMovement t.id = some e ∧ a.quantityDelta = -e.quantityDelta ∧
        a.scope = e.scope := by
  intro r hr t ht hreverses
  rw [hold r hr, hold t ht]
  exact hdb.negated r hr t ht hreverses

/-- A sale or an RTO is appended; it replaces nothing, or a movement that is reversed. -/
theorem Consistent.record (hdb : Consistent db) (h : Appends db db' [m] [a])
    (hrecorded : Recorded m a) (hreplaces : ∀ i, m.replacesMovementId = some i →
      ∃ r ∈ db.productMovements.rows, r.reversesMovementId = some i) : Consistent db' := by
  have hfresh := h.id_fresh
  have hold : ∀ b ∈ db.productMovements.rows, db'.getForMovement b.id = db.getForMovement b.id :=
    fun b hb => h.getForMovement_of_ne hrecorded.linked (hfresh b hb)
  have hrows : ∀ b, b ∈ db'.productMovements.rows ↔ b ∈ db.productMovements.rows ∨ b = m := by
    simp [h.movements]
  -- nothing reverses a row that was not there
  have hnot : ∀ r ∈ db'.productMovements.rows, r.reversesMovementId ≠ some m.id := by
    intro r hr hreverses
    rcases (hrows r).mp hr with hr | rfl
    · exact hdb.linear.not_reversed_of_fresh hfresh ⟨r, hr, hreverses⟩
    · rw [hrecorded.reverses] at hreverses
      cases hreverses
  have htarget : ∀ {P : ProductMarketplaceMovement → ProductMarketplaceMovement → Prop},
      (∀ r ∈ db.productMovements.rows, ∀ t ∈ db.productMovements.rows,
        r.reversesMovementId = some t.id → P r t) →
      ∀ r ∈ db'.productMovements.rows, ∀ t ∈ db'.productMovements.rows,
        r.reversesMovementId = some t.id → P r t := by
    intro P hP r hr t ht hreverses
    rcases (hrows t).mp ht with ht | rfl
    · rcases (hrows r).mp hr with hr | rfl
      · exact hP r hr t ht hreverses
      · rw [hrecorded.reverses] at hreverses
        cases hreverses
    · exact absurd hreverses (hnot r hr)
  -- every field holds of the old rows as before, and is checked for the new one
  refine ⟨?_, ?_, htarget hdb.negates, ?_, h.aligned hrecorded.linked hdb.aligned, ?_, ?_⟩
  · rw [h.movements]
    exact .plain hdb.linear hrecorded.reverses hfresh
  · intro b hb
    rcases (hrows b).mp hb with hb | rfl
    · exact hdb.movementType b hb
    · exact .inl ⟨hrecorded.reverses, hrecorded.movementType⟩
  · intro b hb i hi
    have hreversed : ∃ r ∈ db.productMovements.rows, r.reversesMovementId = some i := by
      rcases (hrows b).mp hb with hb | rfl
      · exact hdb.replaced b hb i hi
      · exact hreplaces i hi
    obtain ⟨r, hr, hreverses⟩ := hreversed
    exact ⟨r, (hrows r).mpr (.inl hr), hreverses⟩
  · intro b hb hplain
    rcases (hrows b).mp hb with hb | rfl
    · rw [hold b hb]
      exact hdb.adjusted b hb hplain
    · exact ⟨a, h.getForMovement_self hrecorded.linked, hrecorded.quantityDelta, hrecorded.scope⟩
  · exact htarget (hdb.negated_of_kept hold)

/-- A movement that can be corrected reverses nothing and has its adjustment, and a reversal of
it brings the negative one, in the same scope. -/
theorem Consistent.reversal_effect {t r : ProductMarketplaceMovement} {i : UUID}
    {effect : Option CatalogVariantStockAdjustment} (hdb : Consistent db)
    (hcorrectable : Correctable db i t) (hreversal : ReversalOf db t r effect) :
    t.reversesMovementId = none ∧ ∃ e a, db.getForMovement t.id = some e ∧
      e.quantityDelta = t.quantityDelta ∧ effect = some a ∧
      a.productMarketplaceMovementId = some r.id ∧ a.quantityDelta = -e.quantityDelta ∧
      a.scope = e.scope := by
  have hplain : t.reversesMovementId = none :=
    (hdb.plain_iff hcorrectable.mem).mpr hcorrectable.movementType
  obtain ⟨e, he, hamount, hscope⟩ := hdb.adjusted t hcorrectable.mem hplain
  obtain ⟨a, rfl⟩ : ∃ a, effect = some a := by
    have hsome := hreversal.effect_isSome
    rw [he] at hsome
    exact Option.isSome_iff_exists.mp hsome
  obtain ⟨hdelta, hsame⟩ := hreversal.negates a rfl e he
  refine ⟨hplain, e, a, he, hamount, rfl, hreversal.linked a rfl, hdelta, ?_⟩
  rcases hsame with hsame | ⟨id, hproduct, hforced⟩
  · exact hsame
  · rw [hforced, hproduct, hscope id hproduct]

/-- A reversal of a movement that stands is appended. -/
theorem Consistent.reversal {t r : ProductMarketplaceMovement} {i : UUID}
    {effect : Option CatalogVariantStockAdjustment} (hdb : Consistent db)
    (hcorrectable : Correctable db i t) (h : Appends db db' [r] effect.toList)
    (hreversal : ReversalOf db t r effect) : Consistent db' := by
  have ht := hcorrectable.mem
  obtain ⟨hplain, e, a, he, _, rfl, hlinked, hdelta, hscopes⟩ :=
    hdb.reversal_effect hcorrectable hreversal
  have hfresh := h.id_fresh
  have hold : ∀ b ∈ db.productMovements.rows, db'.getForMovement b.id = db.getForMovement b.id :=
    fun b hb => h.getForMovement_of_ne hlinked (hfresh b hb)
  have hrows : ∀ b, b ∈ db'.productMovements.rows ↔ b ∈ db.productMovements.rows ∨ b = r := by
    simp [h.movements]
  -- what reverses what: as before, or the new row its target
  have htarget : ∀ {P : ProductMarketplaceMovement → ProductMarketplaceMovement → Prop},
      (∀ r ∈ db.productMovements.rows, ∀ t ∈ db.productMovements.rows,
        r.reversesMovementId = some t.id → P r t) → P r t →
      ∀ r ∈ db'.productMovements.rows, ∀ t ∈ db'.productMovements.rows,
        r.reversesMovementId = some t.id → P r t := by
    intro P hP hnew b hb t' ht' hreverses
    rcases (hrows b).mp hb with hb | rfl <;> rcases (hrows t').mp ht' with ht' | rfl
    · exact hP b hb t' ht' hreverses
    · exact absurd ⟨b, hb, hreverses⟩ (hdb.linear.not_reversed_of_fresh hfresh)
    · rw [hreversal.reverses] at hreverses
      rw [← hdb.linear.id_injective ht ht' (Option.some.inj hreverses)]
      exact hnew
    · rw [hreversal.reverses] at hreverses
      exact absurd (Option.some.inj hreverses) (hfresh t ht)
  refine ⟨?_, ?_, htarget hdb.negates ⟨hreversal.key, hreversal.quantityDelta⟩, ?_,
    h.aligned hlinked hdb.aligned, ?_, ?_⟩
  · rw [h.movements]
    exact .reversal hdb.linear ht hplain hreversal.reverses hcorrectable.standing hfresh
  · intro b hb
    rcases (hrows b).mp hb with hb | rfl
    · exact hdb.movementType b hb
    · exact .inr ⟨by simp [hreversal.reverses], hreversal.movementType, hreversal.replaces⟩
  · intro b hb j hj
    rcases (hrows b).mp hb with hb | rfl
    · obtain ⟨r', hr', hreverses⟩ := hdb.replaced b hb j hj
      exact ⟨r', (hrows r').mpr (.inl hr'), hreverses⟩
    · rw [hreversal.replaces] at hj
      cases hj
  · intro b hb hnone
    rcases (hrows b).mp hb with hb | rfl
    · rw [hold b hb]
      exact hdb.adjusted b hb hnone
    · rw [hreversal.reverses] at hnone
      cases hnone
  · exact htarget (hdb.negated_of_kept hold)
      ⟨a, e, h.getForMovement_self hlinked, by rw [hold t ht, he], hdelta, hscopes⟩

end Append

/-! ## Section 3: Runs -/

/-- A call that returned keeps the ledgers consistent. -/
theorem Consistent.returned [PyText] {db db' : MarketplaceDB} (hdb : Consistent db)
    {call : ProductCall} {m : ProductMarketplaceMovement}
    (h : Returns call.program db m db') : Consistent db' := by
  cases call with
  | record productId platform movementType quantityPackets reason stockDate actor
      catalogVariantId today movementId =>
    obtain ⟨a, happends, hrecorded, _, _, _, hreplaces, _⟩ := returns_recordProductMovement h
    refine hdb.record happends hrecorded fun i hi => ?_
    rw [hreplaces] at hi
    cases hi
  | undo movementId reason actor today reversalId =>
    obtain ⟨original, effect, hcorrectable, happends, hreversal, _⟩ := returns_undoMovement h
    exact hdb.reversal hcorrectable happends hreversal
  | edit movementId quantityPackets reason actor today reversalId replacementId =>
    obtain ⟨original, reversal, effect, db₁, a, hcorrectable, happends, hreversal, _, _, happends',
      hrecorded, _, _, hreplaces, _⟩ := returns_editMovement h
    refine (hdb.reversal hcorrectable happends hreversal).record happends' hrecorded
      fun i hi => ?_
    -- the replaced movement has just been reversed
    obtain rfl : original.id = i := Option.some.inj (hreplaces.symm.trans hi)
    exact ⟨reversal, by simp [happends.movements], hreversal.reverses⟩

/-- Calls on the per-SKU ledger leave the product ledger alone. -/
theorem committed_sku_product (call : SkuCall) (faults : ℕ → Option Failure)
    (db : MarketplaceDB) :
    (committed call.program faults db).productMovements = db.productMovements ∧
      (committed call.program faults db).adjustments = db.adjustments := by
  rcases committed_sku call faults db with heq | ⟨m, hreturns⟩
  · rw [heq]
    exact ⟨rfl, rfl⟩
  · obtain ⟨_, _, _, _, hmovements, hadjustments⟩ := returns_recordMovement hreturns
    exact ⟨hmovements, hadjustments⟩

/-- Consistency depends on the two ledgers only. -/
theorem Consistent.congr {db db' : MarketplaceDB} (hdb : Consistent db)
    (hmovements : db'.productMovements = db.productMovements)
    (hadjustments : db'.adjustments = db.adjustments) : Consistent db' := by
  have hfor : ∀ i, db'.getForMovement i = db.getForMovement i := by
    intro i
    unfold MarketplaceDB.getForMovement
    rw [hadjustments]
  constructor
  · rw [hmovements]
    exact hdb.linear
  · rw [hmovements]
    exact hdb.movementType
  · rw [hmovements]
    exact hdb.negates
  · rw [hmovements]
    exact hdb.replaced
  · rw [hmovements, hadjustments]
    simp only [hfor]
    exact hdb.aligned
  · rw [hmovements]
    simp only [hfor]
    exact hdb.adjusted
  · rw [hmovements]
    simp only [hfor]
    exact hdb.negated

theorem Consistent.step [PyText] {db : MarketplaceDB} (hdb : Consistent db) (e : StockEvent) :
    Consistent (stockStep db e) := by
  cases e with
  | editCatalogue catalogue => exact hdb.congr rfl rfl
  | sku call faults =>
    obtain ⟨hmovements, hadjustments⟩ := committed_sku_product call faults db
    exact hdb.congr hmovements hadjustments
  | product call faults =>
    rcases committed_product call faults db with heq | ⟨m, hreturns⟩
    · change Consistent (committed call.program faults db)
      rw [heq]
      exact hdb
    · exact hdb.returned hreturns

/-! ## Section 4: Totals -/

namespace MarketplaceDB

/-- The sum of all rows of a key. -/
def total (db : MarketplaceDB) (key : MarketplaceKey) : Int :=
  ((db.productMovements.rows.filter fun m => m.key = key).map
    ProductMarketplaceMovement.quantityDelta).sum

/-- The sum of the adjustments of a scope that are linked to a movement. -/
def linkedTotal (db : MarketplaceDB) (scope : AdjustmentScope) : Int :=
  (((db.adjustments.rows.filter fun a => a.productMarketplaceMovementId ≠ none).filter
    fun a => a.scope = scope).map CatalogVariantStockAdjustment.quantityDelta).sum

/-- The OMS scope a movement's adjustment counts toward. -/
def effectScope (db : MarketplaceDB) (m : ProductMarketplaceMovement) :
    Option AdjustmentScope :=
  (db.getForMovement m.id).map CatalogVariantStockAdjustment.scope

/-- The amount of a movement's adjustment. -/
def effectDelta (db : MarketplaceDB) (m : ProductMarketplaceMovement) : Int :=
  ((db.getForMovement m.id).map CatalogVariantStockAdjustment.quantityDelta).getD 0

end MarketplaceDB

/-- What corrections leave of the two ledgers. -/
structure CorrectionsHold (db : MarketplaceDB) : Prop where
  total : ∀ key, db.total key =
    ((db.productMovements.rows.filter fun m => m.key = key ∧ db.Stands m).map
      ProductMarketplaceMovement.quantityDelta).sum
  replaced_reversed : ∀ m ∈ db.productMovements.rows, ∀ i, m.replacesMovementId = some i →
    ∃ r ∈ db.productMovements.rows, r.movementType = .reversal ∧ r.reversesMovementId = some i
  reversed_once : ∀ i, (db.productMovements.rows.filter fun r =>
    r.reversesMovementId = some i).length ≤ 1
  reversal_final : ∀ m ∈ db.productMovements.rows, m.movementType = .reversal →
    ∀ r ∈ db.productMovements.rows,
      r.reversesMovementId ≠ some m.id ∧ r.replacesMovementId ≠ some m.id
  linkedTotal : ∀ scope, db.linkedTotal scope =
    ((db.productMovements.rows.filter fun m =>
      db.effectScope m = some scope ∧ db.Stands m).map
        ProductMarketplaceMovement.quantityDelta).sum

namespace Consistent

variable {db : MarketplaceDB}

theorem reverses_of_reversal (h : Consistent db) {m : ProductMarketplaceMovement}
    (hm : m ∈ db.productMovements.rows) (hkind : m.movementType = .reversal) :
    m.reversesMovementId ≠ none := by
  rw [Ne, h.plain_iff hm, hkind]
  decide

theorem reversal_of_reverses (h : Consistent db) {m : ProductMarketplaceMovement} {i : UUID}
    (hm : m ∈ db.productMovements.rows) (hi : m.reversesMovementId = some i) :
    m.movementType = .reversal := by
  rcases h.movementType m hm with ⟨hnone, _⟩ | ⟨_, hkind, _⟩
  · rw [hnone] at hi
    cases hi
  · exact hkind

/-- The entries left standing are the sales and RTOs that no reversal points at. -/
theorem standing_iff (h : Consistent db) {m : ProductMarketplaceMovement}
    (hm : m ∈ db.productMovements.rows) :
    Standing ProductMarketplaceMovement.id ProductMarketplaceMovement.reversesMovementId
      db.productMovements.rows m ↔ db.Stands m := by
  constructor
  · rintro ⟨hplain, hnot⟩
    exact ⟨(h.plain_iff hm).mp hplain, fun r hr _ hreverses => hnot ⟨r, hr, hreverses⟩⟩
  · rintro ⟨hkind, hnot⟩
    refine ⟨(h.plain_iff hm).mpr hkind, fun ⟨r, hr, hreverses⟩ => ?_⟩
    exact hnot r hr (h.reversal_of_reverses hr hreverses) hreverses

/-- Entries of a kind left standing, written either way. -/
theorem filter_standing (h : Consistent db) (p : ProductMarketplaceMovement → Prop)
    [DecidablePred p] :
    (db.productMovements.rows.filter fun m => p m ∧
      Standing ProductMarketplaceMovement.id ProductMarketplaceMovement.reversesMovementId
        db.productMovements.rows m) =
      db.productMovements.rows.filter fun m => p m ∧ db.Stands m :=
  List.filter_congr fun m hm => by
    rw [decide_eq_decide]
    exact and_congr_right fun _ => h.standing_iff hm

theorem total (h : Consistent db) (key : MarketplaceKey) : db.total key =
    ((db.productMovements.rows.filter fun m => m.key = key ∧ db.Stands m).map
      ProductMarketplaceMovement.quantityDelta).sum := by
  rw [MarketplaceDB.total, ← h.filter_standing]
  refine h.linear.sum_filter_eq_sum_standing _ (fun r hr t ht hreverses => ?_)
    fun r hr t ht hreverses => (h.negates r hr t ht hreverses).2
  rw [(h.negates r hr t ht hreverses).1]

/-- The linked adjustments of a scope, listed by their movements. -/
theorem linkedTotal_eq (h : Consistent db) (scope : AdjustmentScope) : db.linkedTotal scope =
    ((db.productMovements.rows.filter fun m => db.effectScope m = some scope).map
      db.effectDelta).sum := by
  rw [MarketplaceDB.linkedTotal, h.aligned]
  induction db.productMovements.rows with
  | nil => rfl
  | cons m rows ih =>
    rw [List.filterMap_cons, List.filter_cons]
    cases hfound : db.getForMovement m.id with
    | none =>
      simp only [MarketplaceDB.effectScope, hfound] at ih ⊢
      simpa using ih
    | some a =>
      by_cases hscope : a.scope = scope
      · simp only [MarketplaceDB.effectScope, hfound] at ih ⊢
        simpa [hscope, hfound, MarketplaceDB.effectDelta] using ih
      · simp only [MarketplaceDB.effectScope, hfound] at ih ⊢
        simpa [hscope] using ih

theorem linkedTotal (h : Consistent db) (scope : AdjustmentScope) : db.linkedTotal scope =
    ((db.productMovements.rows.filter fun m =>
      db.effectScope m = some scope ∧ db.Stands m).map
        ProductMarketplaceMovement.quantityDelta).sum := by
  have hsum := h.linear.sum_filter_eq_sum_standing (w := db.effectDelta)
    (fun m => db.effectScope m = some scope)
    (fun r hr t ht hreverses => by
      obtain ⟨a, e, ha, he, _, hscope⟩ := h.negated r hr t ht hreverses
      simp [MarketplaceDB.effectScope, ha, he, hscope])
    (fun r hr t ht hreverses => by
      obtain ⟨a, e, ha, he, hdelta, _⟩ := h.negated r hr t ht hreverses
      simp [MarketplaceDB.effectDelta, ha, he, hdelta])
  rw [h.linkedTotal_eq, hsum, h.filter_standing]
  -- what stands is adjusted by its own amount
  refine congrArg List.sum (List.map_congr_left fun m hm => ?_)
  obtain ⟨hmem, hboth⟩ := List.mem_filter.mp hm
  have hstands := (of_decide_eq_true hboth).2
  obtain ⟨a, ha, hdelta, _⟩ := h.adjusted m hmem ((h.standing_iff hmem).mpr hstands).1
  simp [MarketplaceDB.effectDelta, ha, hdelta]

theorem correctionsHold (h : Consistent db) : CorrectionsHold db where
  total := h.total
  replaced_reversed m hm i hi := by
    obtain ⟨r, hr, hreverses⟩ := h.replaced m hm i hi
    exact ⟨r, hr, h.reversal_of_reverses hr hreverses, hreverses⟩
  reversed_once := h.linear.reversal_unique
  reversal_final m hm hkind r hr := by
    have hnot := h.linear.not_reversed_of_reverses hm (h.reverses_of_reversal hm hkind)
    refine ⟨fun hreverses => hnot ⟨r, hr, hreverses⟩, fun hreplaces => ?_⟩
    obtain ⟨r', hr', hreverses⟩ := h.replaced r hr m.id hreplaces
    exact hnot ⟨r', hr', hreverses⟩
  linkedTotal := h.linkedTotal

end Consistent

/-! ## Section 5: What an undo takes back -/

/-- The undo of a movement takes its amount off its balance, and the amount of its adjustment
off the OMS total it was counted toward, and touches no other. -/
structure TakenBack (db db' : MarketplaceDB) (movementId : UUID) (today : Date)
    (t : ProductMarketplaceMovement) (a : CatalogVariantStockAdjustment) : Prop where
  mem : t ∈ db.productMovements.rows
  id : t.id = movementId
  adjustment_mem : a ∈ db.adjustments.rows
  linked : a.productMarketplaceMovementId = some movementId
  amount : a.quantityDelta = t.quantityDelta
  total : ∀ key, db'.total key = db.total key - if t.key = key then t.quantityDelta else 0
  balance : db'.productBalance t.key today = db.productBalance t.key today - t.quantityDelta
  omsTotal : ∀ scope, db'.sumForScope scope =
    db.sumForScope scope - if a.scope = scope then a.quantityDelta else 0

theorem takenBack_of_undo [PyText] {db db' : MarketplaceDB} (hdb : Consistent db)
    {movementId : UUID} {reason : String} {actor : Option UUID} {today : Date}
    {reversalId : UUID} {m : ProductMarketplaceMovement}
    (h : Returns (undoMovement movementId reason actor today reversalId) db m db') :
    ∃ t a, TakenBack db db' movementId today t a := by
  obtain ⟨t, effect, hcorrectable, happends, hreversal, hdate, hafter⟩ := returns_undoMovement h
  obtain ⟨_, e, a, he, hamount, rfl, _, hdelta, hscopes⟩ :=
    hdb.reversal_effect hcorrectable hreversal
  obtain ⟨hemem, helinked⟩ := MarketplaceDB.getForMovement_eq_some.mp he
  refine ⟨t, e, hcorrectable.mem, hcorrectable.id, hemem, by rw [helinked, hcorrectable.id],
    hamount, fun key => ?_, ?_, fun scope => ?_⟩
  · rw [MarketplaceDB.total, MarketplaceDB.total, happends.movements, List.filter_append,
      List.map_append, List.sum_append]
    by_cases hkey : t.key = key
    · simp [hreversal.key, hkey, hreversal.quantityDelta, sub_eq_add_neg]
    · simp [hreversal.key, hkey]
  · -- dated today, the reversal is the latest row as of today
    have hnew : ∀ r ∈ [m], r.key = t.key ∧ r.stockDate = today := by
      simp [hreversal.key, hdate]
    rw [hreversal.key] at hafter
    rw [MarketplaceDB.productBalance, happends.movements, balanceAsOf_append_of_le
      (fun r hr => (mem_visible.mp hr).2.2) le_rfl hnew ⟨hafter, True.intro⟩]
    simp [closing, hreversal.quantityDelta, MarketplaceDB.productBalance, sub_eq_add_neg]
  · rw [MarketplaceDB.sumForScope, MarketplaceDB.sumForScope, happends.adjustments,
      List.filter_append, List.map_append, List.sum_append]
    by_cases hkey : e.scope = scope
    · simp [hscopes, hkey, hdelta, sub_eq_add_neg]
    · simp [hscopes, hkey]

/-- Twenty packets sold, with the catalogue of one SKU. -/
def saleOfTwenty : StockEvent :=
  .product (.record 1 "amazon" .sale 20 none none none none 739870 7) fun _ => none

/-- The sale corrected to fifteen packets. -/
def editedToFifteen : StockEvent :=
  .product (.edit 7 15 "counted again" none 739871 8 9) fun _ => none

end AyushOms.Marketplace
