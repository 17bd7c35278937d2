import AyushOms.Core.Timezone
import AyushOms.Inventory.Movements
import AyushOms.Lib.OffsetPages
import AyushOms.Marketplace.Model

/-!
# The Merged Movement History

`get_movement_history` lists the movements of one variant on the manual platforms and on Shopify,
the latest first, page by page. The manual ones carry the date they are attributed to. For the
Shopify ones the two dates become instants: the start of the first day, and the end of the last
one, which is the start of the day after. `search_query` takes both ends in, so a movement of that
very instant appears, a day too early.

## Main results

- `everyPage_eq`: the pages together are one sorted list
- `shows_range_iff`: the Shopify rows are those of the range when no movement of the variant was
  created as the day after starts
-/

namespace AyushOms

def InventoryMovementType.value : InventoryMovementType → String
  | dispatch => "dispatch"
  | rtoRestock => "rto_restock"
  | manualAdjustment => "manual_adjustment"
  | initialStock => "initial_stock"

namespace Marketplace

open AyushOms.Lib AyushOms.Inventory

def PlatformStockMovementType.value : PlatformStockMovementType → String
  | stockAdded => "stock_added"
  | stockDeducted => "stock_deducted"

/-! ## Section 1: Rows -/

/-- A manual movement with its creation time and the name of its actor. `record_movement` knows
the platforms that there are; Shopify is none of them. -/
structure DatedPlatformMovement extends PlatformStockMovement where
  createdAt : ℤ
  actorName : Option String := none
  platform_known : platform ∈ InventoryPlatform.ALL
  deriving DecidableEq, Repr

/-- `UnifiedStockMovementResponse`. The stock date is the ordinal of a date. -/
structure UnifiedRow where
  id : UUID
  platform : String
  platformLabel : String
  movementType : String
  quantityDelta : ℤ
  quantityAfter : ℤ
  stockDate : Date
  reason : Option String
  actorLabel : String
  createdAt : ℤ
  deriving DecidableEq, Repr

/-- What the history reads. -/
structure HistoryDB where
  variants : List UUID := []
  platformMovements : List DatedPlatformMovement := []
  movements : List DatedMovement := []

/-- `_to_unified_platform_row`. -/
def toUnifiedPlatformRow (m : DatedPlatformMovement) : UnifiedRow where
  id := m.id
  platform := m.platform
  platformLabel := InventoryPlatform.label m.platform
  movementType := m.movementType.value
  quantityDelta := m.quantityDelta
  quantityAfter := m.quantityAfter
  stockDate := m.stockDate
  reason := m.reason
  actorLabel := m.actorName.getD "System"
  createdAt := m.createdAt

/-- A Shopify movement as a row of some stock date. -/
def shopifyHistoryRow (m : DatedMovement) (stockDate : Date) : UnifiedRow where
  id := m.id
  platform := "shopify"
  platformLabel := "Shopify"
  movementType := m.movementType.value
  quantityDelta := m.quantityDelta
  quantityAfter := m.quantityAfter
  stockDate := stockDate
  reason := m.reason
  actorLabel :=
    match m.actorName with
    | some name => name
    | none =>
      if m.movementType = .dispatch ∨ m.movementType = .rtoRestock then "Shiprocket"
      else "System"
  createdAt := m.createdAt

/-- `_to_unified_shopify_row`. -/
def toUnifiedShopifyRow (m : DatedMovement) : Except PyException UnifiedRow := do
  let ist ← toIst m.createdAt
  return shopifyHistoryRow m (utcDate ist).ordinal

/-! ## Section 2: The history -/

/-- `PlatformStockMovementRepository.list_for_date_range`. -/
def listForDateRange (movements : List DatedPlatformMovement) (variantId : UUID)
    (platform : Option String) (dateFrom dateTo : Option Date) : List DatedPlatformMovement :=
  (movements.filter fun m => m.productVariantId = variantId ∧
    (∀ p ∈ platform, pyFalsy p ∨ m.platform = p) ∧
    dateFrom.all (fun d => d ≤ m.stockDate) ∧ dateTo.all fun d => m.stockDate ≤ d).insertionSort
      fun a b => b.createdAt ≤ a.createdAt

/-- The Shopify rows, unless one manual platform is asked for. -/
def shopifyRows (db : HistoryDB) (variantId : UUID) (platform : Option String)
    (dateFrom dateTo : Option Date) : Except PyException (List UnifiedRow) :=
  if platform = none ∨ platform = some "shopify" then do
    let createdFrom ← dateFrom.mapM fun d => do
      return (← istDayBoundsForDate (Lib.Date.ofOrdinal d)).1
    let createdTo ← dateTo.mapM fun d => do
      return (← istDayBoundsForDate (Lib.Date.ofOrdinal d)).2
    (searchQuery db.movements variantId createdFrom createdTo).mapM toUnifiedShopifyRow
  else return []

/-- The rows before they are cut into pages. -/
def historyRows (db : HistoryDB) (variantId : UUID) (platform : Option String)
    (dateFrom dateTo : Option Date) : Except PyException (List UnifiedRow) := do
  if variantId ∉ db.variants then throw (.oms (.notFound "Product variant not found."))
  let platformMovements :=
    listForDateRange db.platformMovements variantId platform dateFrom dateTo
  let shopify ← shopifyRows db variantId platform dateFrom dateTo
  return (platformMovements.map toUnifiedPlatformRow ++ shopify).insertionSort
    fun a b => b.createdAt ≤ a.createdAt

/-- `get_movement_history`: a page, counted from one, and the number of rows. -/
def getMovementHistory (db : HistoryDB) (variantId : UUID) (platform : Option String)
    (dateFrom dateTo : Option Date) (page pageSize : ℕ) :
    Except PyException (List UnifiedRow × ℕ) := do
  let rows ← historyRows db variantId platform dateFrom dateTo
  return (OffsetPages.slice pageSize rows (page - 1), rows.length)

/-- All pages, one after another. -/
def everyPage (db : HistoryDB) (variantId : UUID) (platform : Option String)
    (dateFrom dateTo : Option Date) (pageSize : ℕ) : Except PyException (List UnifiedRow) := do
  let (_, total) ← getMovementHistory db variantId platform dateFrom dateTo 1 pageSize
  let pages ← (List.range (OffsetPages.pageCount total pageSize)).mapM fun n =>
    getMovementHistory db variantId platform dateFrom dateTo (n + 1) pageSize
  return (pages.map Prod.fst).flatten

/-- The pages together are one sorted list. -/
theorem everyPage_eq (db : HistoryDB) (variantId : UUID) (platform : Option String)
    (dateFrom dateTo : Option Date) {pageSize : ℕ} (hsize : 0 < pageSize) :
    everyPage db variantId platform dateFrom dateTo pageSize =
      historyRows db variantId platform dateFrom dateTo := by
  unfold everyPage getMovementHistory
  cases hrows : historyRows db variantId platform dateFrom dateTo with
  | error e => rfl
  | ok rows =>
    have hpages : (List.range (OffsetPages.pageCount rows.length pageSize)).mapM (fun n =>
        (Except.ok (OffsetPages.slice pageSize rows n, rows.length) :
          Except PyException (List UnifiedRow × ℕ))) =
        .ok ((List.range (OffsetPages.pageCount rows.length pageSize)).map fun n =>
          (OffsetPages.slice pageSize rows n, rows.length)) :=
      List.mapM_pure
    show (do
      let pages ← (List.range (OffsetPages.pageCount rows.length pageSize)).mapM fun n =>
        (Except.ok (OffsetPages.slice pageSize rows n, rows.length) :
          Except PyException (List UnifiedRow × ℕ))
      return (pages.map Prod.fst).flatten) = Except.ok rows
    rw [hpages]
    show Except.ok _ = Except.ok rows
    rw [List.map_map, ← List.flatMap_def]
    exact congrArg Except.ok (OffsetPages.pages_eq hsize rows)

/-! ## Section 3: The Shopify rows -/

/-- A Shopify movement's row: its stock date is its date in India. -/
def shopifyRowOf (m : DatedMovement) : UnifiedRow :=
  shopifyHistoryRow m (istDate m.createdAt).ordinal

/-- The Shopify rows of a history. -/
def ofShopify (rows : List UnifiedRow) : List UnifiedRow :=
  rows.filter fun row => row.platform = "shopify"

variable {db : HistoryDB} {variantId : UUID} {platform : Option String}

theorem toUnifiedShopifyRow_eq_ok {m : DatedMovement} {row : UnifiedRow} :
    toUnifiedShopifyRow m = .ok row ↔
      toIst m.createdAt = .ok (m.createdAt + istOffset) ∧ shopifyRowOf m = row := by
  unfold toUnifiedShopifyRow shopifyRowOf
  rw [bind_eq_ok]
  constructor
  · intro h
    obtain ⟨ist, hist, hrow⟩ := h
    obtain ⟨-, -, rfl⟩ := toIst_eq_ok.mp hist
    rw [← utcDate_add_istOffset]
    exact ⟨hist, Except.ok.inj hrow⟩
  · intro h
    obtain ⟨hist, rfl⟩ := h
    refine ⟨_, hist, ?_⟩
    rw [← utcDate_add_istOffset]
    rfl

/-- The instants two dates become. -/
theorem shopifyRows_eq_ok (hplatform : platform = none ∨ platform = some "shopify")
    {dateFrom dateTo : Date} (hfrom : 1 ≤ dateFrom ∧ dateFrom ≤ 3652059)
    (hto : 1 ≤ dateTo ∧ dateTo ≤ 3652059) {shopify : List UnifiedRow} :
    shopifyRows db variantId platform (some dateFrom) (some dateTo) = .ok shopify ↔
      (1 < dateFrom ∧ 1 < dateTo) ∧
      (searchQuery db.movements variantId (some (istDays.start dateFrom))
        (some (istDays.start (dateTo + 1)))).mapM toUnifiedShopifyRow = .ok shopify := by
  unfold shopifyRows
  rw [if_pos hplatform]
  show (do
    let createdFrom ← (do
      let first ← (do
        return (← istDayBoundsForDate (Lib.Date.ofOrdinal dateFrom)).1)
      pure (some first))
    let createdTo ← (do
      let last ← (do
        return (← istDayBoundsForDate (Lib.Date.ofOrdinal dateTo)).2)
      pure (some last))
    (searchQuery db.movements variantId createdFrom createdTo).mapM toUnifiedShopifyRow) =
      Except.ok shopify ↔ _
  rw [istDayBoundsForDate_ofOrdinal hfrom.1 hfrom.2, istDayBoundsForDate_ofOrdinal hto.1 hto.2]
  by_cases hfirst : 1 < dateFrom
  · by_cases hlast : 1 < dateTo
    · rw [if_pos hfirst, if_pos hlast]
      exact (and_iff_right ⟨hfirst, hlast⟩).symm
    · rw [if_pos hfirst, if_neg hlast]
      exact iff_of_false (fun h => by cases h) fun h => hlast h.1.2
  · rw [if_neg hfirst]
    exact iff_of_false (fun h => by cases h) fun h => hfirst h.1.1

/-- The Shopify rows of a history are those of the query. -/
theorem ofShopify_historyRows {dateFrom dateTo : Option Date} {rows : List UnifiedRow}
    (h : historyRows db variantId platform dateFrom dateTo = .ok rows) :
    variantId ∈ db.variants ∧ ∃ shopify, shopifyRows db variantId platform dateFrom dateTo =
      .ok shopify ∧ (ofShopify rows).Perm (ofShopify shopify) := by
  unfold historyRows at h
  by_cases hvariant : variantId ∈ db.variants
  · rw [if_neg (not_not.mpr hvariant)] at h
    obtain ⟨shopify, hshopify, hrows⟩ := bind_eq_ok.mp h
    refine ⟨hvariant, shopify, hshopify, ?_⟩
    rw [← Except.ok.inj hrows]
    -- no manual platform is Shopify
    have hmanual : ofShopify ((listForDateRange db.platformMovements variantId platform dateFrom
        dateTo).map toUnifiedPlatformRow) = [] := by
      unfold ofShopify
      rw [List.filter_eq_nil_iff]
      intro row hrow
      obtain ⟨m, -, rfl⟩ := List.mem_map.mp hrow
      intro heq
      have hname : m.platform = "shopify" := of_decide_eq_true heq
      have hknown := m.platform_known
      rw [hname] at hknown
      exact absurd hknown (by decide)
    refine ((List.perm_insertionSort _ _).filter _).trans ?_
    rw [List.filter_append]
    show (ofShopify _ ++ ofShopify shopify).Perm _
    rw [hmanual]
    exact List.Perm.refl _
  · rw [if_pos hvariant] at h
    cases h

/-- The Shopify rows of the range, when the history answers: those of the query, whose times run
to the start of the day after. -/
theorem ofShopify_everyPage (hplatform : platform = none ∨ platform = some "shopify")
    {dateFrom dateTo : Date} (hfrom : 1 ≤ dateFrom ∧ dateFrom ≤ 3652059)
    (hto : 1 ≤ dateTo ∧ dateTo ≤ 3652059) {pageSize : ℕ} (hsize : 0 < pageSize)
    {rows : List UnifiedRow}
    (h : everyPage db variantId platform (some dateFrom) (some dateTo) pageSize = .ok rows) :
    (variantId ∈ db.variants ∧ 1 < dateFrom) ∧
      (ofShopify rows).Perm ((searchQuery db.movements variantId (some (istDays.start dateFrom))
        (some (istDays.start (dateTo + 1)))).map shopifyRowOf) := by
  rw [everyPage_eq db variantId platform _ _ hsize] at h
  obtain ⟨hvariant, shopify, hshopify, hperm⟩ := ofShopify_historyRows h
  obtain ⟨⟨hfirst, -⟩, hread⟩ := (shopifyRows_eq_ok hplatform hfrom hto).mp hshopify
  refine ⟨⟨hvariant, hfirst⟩, hperm.trans ?_⟩
  have hmap := eq_map_of_mapM_eq_ok hread fun m row hrow =>
    (toUnifiedShopifyRow_eq_ok.mp hrow).2.symm
  have hself : ofShopify shopify = shopify := by
    unfold ofShopify
    rw [hmap, List.filter_eq_self]
    intro row hrow
    obtain ⟨m, -, rfl⟩ := List.mem_map.mp hrow
    rfl
  rw [hself, hmap]

/-- The history of a range answers when its rows have dates in India. -/
theorem everyPage_returns (hplatform : platform = none ∨ platform = some "shopify")
    {dateFrom dateTo : Date} (hfrom : 1 ≤ dateFrom ∧ dateFrom ≤ 3652059)
    (hto : 1 ≤ dateTo ∧ dateTo ≤ 3652059) {pageSize : ℕ} (hsize : 0 < pageSize)
    (hvariant : variantId ∈ db.variants) (hfirst : 1 < dateFrom) (hlast : 1 < dateTo)
    (hdates : ∀ m ∈ searchQuery db.movements variantId (some (istDays.start dateFrom))
      (some (istDays.start (dateTo + 1))), toIst m.createdAt = .ok (m.createdAt + istOffset)) :
    ∃ rows, everyPage db variantId platform (some dateFrom) (some dateTo) pageSize =
      .ok rows := by
  rw [everyPage_eq db variantId platform _ _ hsize]
  obtain ⟨shopify, hshopify⟩ := exists_mapM_eq_ok fun m hmem =>
    ⟨shopifyRowOf m, toUnifiedShopifyRow_eq_ok.mpr ⟨hdates m hmem, rfl⟩⟩
  have hrows := (shopifyRows_eq_ok hplatform hfrom hto).mpr ⟨⟨hfirst, hlast⟩, hshopify⟩
  unfold historyRows
  rw [if_neg (not_not.mpr hvariant)]
  exact ⟨_, bind_eq_ok.mpr ⟨_, hrows, rfl⟩⟩

/-! ## Section 4: What a range shows -/

/-- The Shopify movements of a variant whose date in India lies in a range. -/
def movementsOn (movements : List DatedMovement) (variantId : UUID) (dateFrom dateTo : Date) :
    List DatedMovement :=
  movements.filter fun m => m.productVariantId = variantId ∧
    dateFrom ≤ (istDate m.createdAt).ordinal ∧ (istDate m.createdAt).ordinal ≤ dateTo

/-- The Shopify rows of a range are the movements of its dates, each once; with the rows of a
range that starts the day after, they are the rows of the two ranges together. -/
structure ShowsRange (db : HistoryDB) (variantId : UUID) (platform : Option String)
    (dateFrom dateTo : Date) (pageSize : ℕ) : Prop where
  exact : ∃ rows, everyPage db variantId platform (some dateFrom) (some dateTo) pageSize =
    .ok rows ∧ (ofShopify rows).Perm
      ((movementsOn db.movements variantId dateFrom dateTo).map shopifyRowOf)
  consecutive : ∀ later first second both, dateTo < later → later ≤ 3652059 →
    everyPage db variantId platform (some dateFrom) (some dateTo) pageSize = .ok first →
    everyPage db variantId platform (some (dateTo + 1)) (some later) pageSize = .ok second →
    everyPage db variantId platform (some dateFrom) (some later) pageSize = .ok both →
    (ofShopify first ++ ofShopify second).Perm (ofShopify both)

/-- No movement of the variant was created at this instant. -/
def NoneAt (movements : List DatedMovement) (variantId : UUID) (t : ℤ) : Prop :=
  ∀ m ∈ movements, m.productVariantId = variantId → m.createdAt ≠ t

theorem mem_movementsOn {movements : List DatedMovement} {dateFrom dateTo : Date}
    {m : DatedMovement} :
    m ∈ movementsOn movements variantId dateFrom dateTo ↔ m ∈ movements ∧
      m.productVariantId = variantId ∧ dateFrom ≤ istDays.index m.createdAt ∧
        istDays.index m.createdAt ≤ dateTo := by
  simp [movementsOn]

/-- Without a movement at the end, the query finds the movements of the dates. -/
theorem searchQuery_eq_movementsOn {movements : List DatedMovement} (dateFrom : Date)
    {dateTo : Date} (hnone : NoneAt movements variantId (istDays.start (dateTo + 1))) :
    searchQuery movements variantId (some (istDays.start dateFrom))
      (some (istDays.start (dateTo + 1))) = movementsOn movements variantId dateFrom dateTo := by
  unfold searchQuery movementsOn
  refine List.filter_congr fun m hmem => ?_
  rw [decide_eq_decide]
  refine and_congr_right fun hvariant => ?_
  have hne := hnone m hmem hvariant
  have hfirst := istDays.start_le_iff (n := m.createdAt) (k := dateFrom)
  have hlast := istDays.lt_start_iff (n := m.createdAt) (k := dateTo + 1)
  simp only [Option.mem_some_iff, forall_eq', ordinal_istDate]
  rw [← hfirst]
  refine and_congr_right fun _ => ?_
  constructor
  · intro hle
    exact Int.lt_add_one_iff.mp (hlast.mp (lt_of_le_of_ne hle hne))
  · intro hle
    exact le_of_lt (hlast.mpr (Int.lt_add_one_iff.mpr hle))

/-- A time of a date in the range has a reading in India. -/
theorem toIst_of_mem_movementsOn {movements : List DatedMovement} {dateFrom dateTo : ℤ}
    (hfrom : 1 < dateFrom) (hto : dateTo ≤ 3652059) {m : DatedMovement}
    (hmem : m ∈ movementsOn movements variantId dateFrom dateTo) :
    toIst m.createdAt = .ok (m.createdAt + istOffset) := by
  obtain ⟨-, -, hge, hle⟩ := mem_movementsOn.mp hmem
  have hge : 1 < istDays.index m.createdAt := lt_of_lt_of_le hfrom hge
  have hle : istDays.index m.createdAt ≤ 3652059 := le_trans hle hto
  rw [istDays_index] at hge hle
  refine toIst_eq_ok.mpr ⟨?_, ?_, rfl⟩
  · unfold Representable minInstant maxInstant
    omega
  · unfold Representable minInstant maxInstant istOffset
    omega

/-- Two ranges, one after the other, and the range of both. -/
theorem searchQuery_append_perm {movements : List DatedMovement} {s t u : ℤ} (hst : s ≤ t)
    (htu : t ≤ u) (hnone : NoneAt movements variantId t) :
    (searchQuery movements variantId (some s) (some t) ++
      searchQuery movements variantId (some t) (some u)).Perm
        (searchQuery movements variantId (some s) (some u)) := by
  have hfirst : searchQuery movements variantId (some s) (some t) =
      (searchQuery movements variantId (some s) (some u)).filter fun m => m.createdAt < t := by
    unfold searchQuery
    rw [List.filter_filter]
    refine List.filter_congr fun m hmem => ?_
    have hne := hnone m hmem
    by_cases hvariant : m.productVariantId = variantId
    · have hne := hne hvariant
      simp only [hvariant, Option.mem_some_iff, forall_eq', true_and, ← Bool.decide_and,
        decide_eq_decide]
      omega
    · simp [hvariant]
  have hsecond : searchQuery movements variantId (some t) (some u) =
      (searchQuery movements variantId (some s) (some u)).filter
        fun m => !decide (m.createdAt < t) := by
    unfold searchQuery
    rw [List.filter_filter]
    refine List.filter_congr fun m _ => ?_
    by_cases hvariant : m.productVariantId = variantId
    · simp only [hvariant, Option.mem_some_iff, forall_eq', true_and, ← Bool.decide_and,
        ← decide_not, decide_eq_decide]
      omega
    · simp [hvariant]
  rw [hfirst, hsecond]
  exact List.filter_append_perm _ _

/-- The Shopify rows of a range are the movements of its dates exactly when no movement of the
variant was created as the day after the range starts in India. -/
theorem shows_range_iff (db : HistoryDB) (variantId : UUID) (platform : Option String)
    (hplatform : platform = none ∨ platform = some "shopify") (dateFrom dateTo : Date)
    (hfrom : 1 ≤ dateFrom) (hle : dateFrom ≤ dateTo) (hto : dateTo ≤ 3652059) (pageSize : ℕ)
    (hsize : 0 < pageSize) :
    ShowsRange db variantId platform dateFrom dateTo pageSize ↔
      variantId ∈ db.variants ∧ 1 < dateFrom ∧
        NoneAt db.movements variantId (istDays.start (dateTo + 1)) := by
  have hfirstDate : 1 ≤ dateFrom ∧ dateFrom ≤ 3652059 := ⟨hfrom, le_trans hle hto⟩
  have hlastDate : 1 ≤ dateTo ∧ dateTo ≤ 3652059 := ⟨le_trans hfrom hle, hto⟩
  constructor
  · intro h
    obtain ⟨rows, hrows, hexact⟩ := h.exact
    obtain ⟨⟨hvariant, hfirst⟩, hperm⟩ :=
      ofShopify_everyPage hplatform hfirstDate hlastDate hsize hrows
    refine ⟨hvariant, hfirst, ?_⟩
    -- a movement of that instant is found, so it is one of the range, though its date is later
    intro m hmem hm hat
    have hfound : m ∈ searchQuery db.movements variantId (some (istDays.start dateFrom))
        (some (istDays.start (dateTo + 1))) := by
      refine List.mem_filter.mpr ⟨hmem, decide_eq_true ⟨hm, ?_, ?_⟩⟩
      · intro t ht
        cases ht
        rw [hat]
        exact istDays.start_le_start (Int.le_add_one hle)
      · intro t ht
        cases ht
        exact le_of_eq hat
    have hrow := hexact.mem_iff.mp (hperm.mem_iff.mpr (List.mem_map_of_mem hfound))
    obtain ⟨other, hother, heq⟩ := List.mem_map.mp hrow
    obtain ⟨-, -, -, hdate⟩ := mem_movementsOn.mp hother
    have hsame : other.createdAt = m.createdAt := congrArg UnifiedRow.createdAt heq
    rw [hsame, hat, istDays.index_start] at hdate
    exact absurd hdate (not_le.mpr (Int.lt_add_one_iff.mpr (le_refl dateTo)))
  · intro h
    obtain ⟨hvariant, hfirst, hnone⟩ := h
    have hquery := searchQuery_eq_movementsOn dateFrom hnone
    refine ⟨?_, ?_⟩
    · have hdates : ∀ m ∈ searchQuery db.movements variantId (some (istDays.start dateFrom))
          (some (istDays.start (dateTo + 1))),
          toIst m.createdAt = .ok (m.createdAt + istOffset) := by
        rw [hquery]
        exact fun m hmem => toIst_of_mem_movementsOn hfirst hto hmem
      obtain ⟨rows, hrows⟩ := everyPage_returns hplatform hfirstDate hlastDate hsize hvariant
        hfirst (lt_of_lt_of_le hfirst hle) hdates
      obtain ⟨-, hperm⟩ := ofShopify_everyPage hplatform hfirstDate hlastDate hsize hrows
      rw [hquery] at hperm
      exact ⟨rows, hrows, hperm⟩
    · intro later first second both hlt hlater hone htwo hboth
      have hsecondDate : 1 ≤ dateTo + 1 ∧ dateTo + 1 ≤ 3652059 :=
        ⟨Int.le_add_one hlastDate.1, le_trans hlt hlater⟩
      have hlaterDate : 1 ≤ later ∧ later ≤ 3652059 :=
        ⟨le_trans hlastDate.1 (le_of_lt hlt), hlater⟩
      obtain ⟨-, hpermOne⟩ := ofShopify_everyPage hplatform hfirstDate hlastDate hsize hone
      obtain ⟨-, hpermTwo⟩ := ofShopify_everyPage hplatform hsecondDate hlaterDate hsize htwo
      obtain ⟨-, hpermBoth⟩ := ofShopify_everyPage hplatform hfirstDate hlaterDate hsize hboth
      have hst : istDays.start dateFrom ≤ istDays.start (dateTo + 1) :=
        istDays.start_le_start (Int.le_add_one hle)
      have htu : istDays.start (dateTo + 1) ≤ istDays.start (later + 1) :=
        istDays.start_le_start (Int.le_add_one hlt)
      refine (hpermOne.append hpermTwo).trans (.trans ?_ hpermBoth.symm)
      rw [← List.map_append]
      exact (searchQuery_append_perm hst htu hnone).map shopifyRowOf

/-- A recount as the fifth of January 1970 starts in India, or some microseconds earlier. -/
def midnightRecount (earlier : ℤ) : DatedMovement where
  id := 100
  productVariantId := 1
  movementType := .manualAdjustment
  quantityDelta := 5
  quantityAfter := 14
  reason := some "recount"
  createdAt := 325800000000 - earlier

/-- A microsecond before midnight the recount belongs to the fourth. -/
theorem shows_range_before_midnight :
    ShowsRange { variants := [1], movements := [midnightRecount 1] } 1 none 719166 719166 20 :=
  (shows_range_iff _ 1 none (.inl rfl) 719166 719166 (by decide) (by decide) (by decide) 20
    (by decide)).mpr ⟨by decide, by decide, by unfold NoneAt; decide⟩

/-- At midnight the recount is of the fifth, and the history of the fourth shows it. -/
theorem midnight_recount_shown :
    ¬ ShowsRange { variants := [1], movements := [midnightRecount 0] } 1 none 719166 719166
      20 := by
  intro h
  obtain ⟨rows, hrows, hexact⟩ := h.exact
  have hshown : everyPage { variants := [1], movements := [midnightRecount 0] } 1 none
      (some 719166) (some 719166) 20 = .ok [shopifyRowOf (midnightRecount 0)] := by decide
  have hnone : movementsOn [midnightRecount 0] 1 719166 719166 = [] := by decide
  rw [hshown] at hrows
  rw [← Except.ok.inj hrows] at hexact
  have hlength := hexact.length_eq
  rw [hnone] at hlength
  exact absurd hlength (by decide)

end Marketplace

end AyushOms
