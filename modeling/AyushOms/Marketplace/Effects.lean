import AyushOms.Marketplace.Service

/-!
# What the Calls Write

Every call of the platform inventory service that returns has appended rows to the two
ledgers and changed nothing else. For each program of the service this module says which
rows, in the database the call has read.

## Main results

- `returns_recordMovement`: one row, from the balance as of its date
- `returns_recordProductMovement`: one row and its adjustment
- `returns_undoMovement`, `returns_editMovement`: a reversal of a movement that stands, and
  its replacement
-/

namespace AyushOms.Marketplace

open AyushOms.Lib AyushOms.Inventory

/-- Run on a session that sees `db`, the call can return `a`, its session then seeing `db'`. -/
abbrev Returns {α : Type} (x : Call α) (db : MarketplaceDB) (a : α) (db' : MarketplaceDB) :
    Prop :=
  Txn.Yields Row.insert x db a db'

/-! ## Section 1: Appended rows -/

/-- `db'` is `db` with rows appended to its product ledger and to its adjustments. -/
structure Appends (db db' : MarketplaceDB) (movements : List ProductMarketplaceMovement)
    (adjustments : List CatalogVariantStockAdjustment) : Prop where
  catalogue : db'.catalogue = db.catalogue
  platformMovements : db'.platformMovements = db.platformMovements
  movements : db'.productMovements.rows = db.productMovements.rows ++ movements
  adjustments : db'.adjustments.rows = db.adjustments.rows ++ adjustments

theorem Appends.refl (db : MarketplaceDB) : Appends db db [] [] :=
  ⟨rfl, rfl, (List.append_nil _).symm, (List.append_nil _).symm⟩

theorem Appends.trans {db db₁ db₂ : MarketplaceDB} {ms ms' : List ProductMarketplaceMovement}
    {as as' : List CatalogVariantStockAdjustment} (h : Appends db db₁ ms as)
    (h' : Appends db₁ db₂ ms' as') : Appends db db₂ (ms ++ ms') (as ++ as') where
  catalogue := h'.catalogue.trans h.catalogue
  platformMovements := h'.platformMovements.trans h.platformMovements
  movements := by rw [h'.movements, h.movements, List.append_assoc]
  adjustments := by rw [h'.adjustments, h.adjustments, List.append_assoc]

theorem appends_of_insert_productMovement {db db' : MarketplaceDB}
    {m : ProductMarketplaceMovement} (h : (Row.productMovement m).insert db = .ok db') :
    Appends db db' [m] [] := by
  simp only [Row.insert] at h
  split at h
  · rename_i hinsert
    cases h
    exact ⟨rfl, rfl, Table.rows_of_insert? hinsert, (List.append_nil _).symm⟩
  · cases h

theorem appends_of_insert_adjustment {db db' : MarketplaceDB}
    {a : CatalogVariantStockAdjustment} (h : (Row.adjustment a).insert db = .ok db') :
    Appends db db' [] [a] := by
  simp only [Row.insert] at h
  split at h
  · rename_i hinsert
    cases h
    exact ⟨rfl, rfl, (List.append_nil _).symm, Table.rows_of_insert? hinsert⟩
  · cases h

/-- An audit entry appends nothing here. -/
theorem returns_auditLog {action : String} {u : PUnit} {db db' : MarketplaceDB}
    (h : Returns (Txn.flush (.auditLog action)) db u db') : db' = db :=
  (Except.ok.inj (Txn.yields_flush h)).symm

/-! ## Section 2: Reads -/

/-- The recorded balance of a product key as of a date. -/
def MarketplaceDB.productBalance (db : MarketplaceDB) (key : MarketplaceKey) (asOf : Date) :
    Int :=
  balanceAsOf ProductMarketplaceMovement.key ProductMarketplaceMovement.stockDate
    ProductMarketplaceMovement.quantityAfter key asOf db.productMovements.rows

/-- The recorded balance of a SKU key as of a date. -/
def MarketplaceDB.platformBalance (db : MarketplaceDB) (key : SkuKey) (asOf : Date) : Int :=
  balanceAsOf PlatformStockMovement.key PlatformStockMovement.stockDate
    PlatformStockMovement.quantityAfter key asOf db.platformMovements.rows

theorem returns_latestBalance {key : MarketplaceKey} {asOf : Date} {b : Int}
    {db db' : MarketplaceDB} (h : Returns (latestBalance key asOf) db b db') :
    b = db.productBalance key asOf ∧ db' = db := by
  obtain ⟨latest, db₁, hselect, hpure⟩ := Txn.yields_bind h
  obtain ⟨rfl, rfl⟩ := Txn.yields_select hselect
  exact Txn.yields_pure hpure

theorem reads_listVariantsForProduct (productId : UUID) :
    Txn.Reads (fun _ => True) (listVariantsForProduct productId) :=
  (Txn.reads_select _).bind fun _ _ => (Txn.reads_orRaise _ _).bind fun _ _ =>
    (Txn.reads_select _).mono fun _ _ => True.intro

theorem reads_getCatalogVariantTotal (catalogVariantId : UUID) :
    Txn.Reads (fun _ => True) (getCatalogVariantTotal catalogVariantId) :=
  (Txn.reads_select _).bind fun _ _ => (Txn.reads_select _).bind fun _ _ => True.intro

theorem reads_getProductTotal (productId : UUID) :
    Txn.Reads (fun _ => True) (getProductTotal productId) :=
  (Txn.reads_select _).bind fun _ _ => (Txn.reads_select _).bind fun _ _ =>
    (Txn.reads_select _).bind fun _ _ => True.intro

theorem reads_previousTotal (scope : AdjustmentScope) :
    Txn.Reads (fun _ => True) (previousTotal scope) := by
  cases scope with
  | catalogVariant cv => exact reads_getCatalogVariantTotal cv
  | product product => exact reads_getProductTotal product

/-- The scope of an adjustment is the product's own, or a catalogue variant: the given one
when there is one. -/
def ScopeFor (productId : UUID) (catalogVariantId : Option UUID) (productLevel : Bool)
    (scope : AdjustmentScope) : Prop :=
  if productLevel then scope = .product productId
  else
    match catalogVariantId with
    | some cv => scope = .catalogVariant cv
    | none => ∀ id, scope = .product id → id = productId

theorem reads_resolveAdjustmentScope [PyText] (productId : UUID)
    (catalogVariantId : Option UUID) (productLevel : Bool) :
    Txn.Reads (ScopeFor productId catalogVariantId productLevel)
      (resolveAdjustmentScope productId catalogVariantId productLevel) := by
  unfold resolveAdjustmentScope ScopeFor
  cases productLevel with
  | true => exact rfl
  | false =>
    cases catalogVariantId with
    | some cv => exact rfl
    | none =>
      -- exactly one real catalogue variant, or else the product
      refine Txn.Reads.bind (Q := fun _ => True) ?_ fun groups _ => ?_
      · exact (reads_listVariantsForProduct productId).bind fun _ _ =>
          (Txn.reads_select _).bind fun _ _ => True.intro
      · simp only [Bool.false_eq_true, if_false]
        split
        · intro id hid
          cases hid
        · intro id hid
          cases hid
          rfl

/-- The scope of a movement lies in the product: no variant, or the one named. -/
theorem reads_resolveMarketplaceScope (productId : UUID) (catalogVariantId : Option UUID) :
    Txn.Reads (fun scope => scope.catalogVariantId = catalogVariantId)
      (resolveMarketplaceScope productId catalogVariantId) := by
  refine (reads_listVariantsForProduct productId).bind fun variants _ =>
    (Txn.reads_select _).bind fun cvs _ => ?_
  split
  · refine (Txn.reads_orRaise _ _).bind fun cv hcv =>
      (Txn.reads_raiseIf _ _).bind fun _ _ => ?_
    exact hcv.symm
  · refine (Txn.reads_raiseIf _ _).bind fun _ hnone => ?_
    exact (not_not.mp hnone).symm

/-- What `_load_correctable` returns: a sale or an RTO that nothing has reversed. -/
structure Correctable (db : MarketplaceDB) (movementId : UUID)
    (original : ProductMarketplaceMovement) : Prop where
  mem : original ∈ db.productMovements.rows
  id : original.id = movementId
  movementType : original.movementType = .sale ∨ original.movementType = .rto
  standing : ∀ m ∈ db.productMovements.rows, m.reversesMovementId ≠ some original.id

theorem returns_loadCorrectable {movementId : UUID} {original : ProductMarketplaceMovement}
    {db db' : MarketplaceDB} (h : Returns (loadCorrectable movementId) db original db') :
    Correctable db movementId original ∧ db' = db := by
  have hfound := Txn.yields_select_bind h
  obtain ⟨m, hget, hmovement⟩ := Txn.yields_orRaise_bind hfound
  obtain ⟨_, hplatform⟩ := Txn.yields_raiseIf_bind hmovement
  obtain ⟨htype, hcheck⟩ := Txn.yields_raiseIf_bind hplatform
  have hreversed := Txn.yields_select_bind hcheck
  obtain ⟨hnone, hlast⟩ := Txn.yields_raiseIf_bind hreversed
  obtain ⟨rfl, rfl⟩ := Txn.yields_pure hlast
  obtain ⟨hmem, hid⟩ := MarketplaceDB.getMovement_eq_some.mp hget
  refine ⟨⟨hmem, hid, ?_, fun r hr hreverses => ?_⟩, rfl⟩
  · by_contra hneither
    push Not at hneither
    exact htype hneither
  · have hlisted := MarketplaceDB.mem_reversedIds.mpr
      ⟨List.mem_singleton_self original.id, r, hr, hreverses⟩
    rw [not_not.mp hnone] at hlisted
    cases hlisted

/-! ## Section 3: Single writes -/

theorem returns_appendMovement {row m : ProductMarketplaceMovement} {previous : Int}
    {db db' : MarketplaceDB} (h : Returns (appendMovement row previous) db m db') :
    m = { row with quantityAfter := previous + row.quantityDelta } ∧ Appends db db' [m] [] := by
  obtain ⟨_, db₁, hinsert, h₁⟩ := Txn.yields_bind h
  obtain ⟨_, db₂, haudit, h₂⟩ := Txn.yields_bind h₁
  obtain rfl := returns_auditLog haudit
  obtain ⟨rfl, rfl⟩ := Txn.yields_pure h₂
  exact ⟨rfl, appends_of_insert_productMovement (Txn.yields_flush hinsert)⟩

theorem returns_applyMarketplaceStockEffect [PyText] {productId : UUID} {quantityDelta : Int}
    {reason : String} {actor : Option UUID} {movementId : UUID}
    {catalogVariantId : Option UUID} {productLevel : Bool} {a : CatalogVariantStockAdjustment}
    {db db' : MarketplaceDB}
    (h : Returns (applyMarketplaceStockEffect productId quantityDelta reason actor movementId
      catalogVariantId productLevel) db a db') :
    a.productMarketplaceMovementId = some movementId ∧ a.quantityDelta = quantityDelta ∧
      ScopeFor productId catalogVariantId productLevel a.scope ∧ Appends db db' [] [a] := by
  obtain ⟨scope, hscope, hresolved⟩ := (reads_resolveAdjustmentScope _ _ _).yields_bind h
  obtain ⟨total, _, hwrite⟩ := (reads_previousTotal scope).yields_bind hresolved
  obtain ⟨_, db₁, hinsert, hrest⟩ := Txn.yields_bind hwrite
  obtain ⟨_, db₂, haudit, hlast⟩ := Txn.yields_bind hrest
  obtain rfl := returns_auditLog haudit
  obtain ⟨rfl, rfl⟩ := Txn.yields_pure hlast
  exact ⟨rfl, rfl, hscope, appends_of_insert_adjustment (Txn.yields_flush hinsert)⟩

/-! ## Section 4: The per-SKU ledger -/

theorem returns_recordMovement {variantId : UUID} {platform : String}
    {movementType : PlatformStockMovementType} {quantity : Int} {reason : Option String}
    {stockDate : Option Date} {actor : Option UUID} {today : Date} {movementId : UUID}
    {m : PlatformStockMovement} {db db' : MarketplaceDB}
    (h : Returns (recordMovement variantId platform movementType quantity reason stockDate actor
      today movementId) db m db') :
    m.key = ⟨variantId, platform⟩ ∧ m.stockDate = stockDate.getD today ∧
      m.quantityAfter = db.platformBalance m.key m.stockDate + m.quantityDelta ∧
      db'.platformMovements.rows = db.platformMovements.rows ++ [m] ∧
      db'.productMovements = db.productMovements ∧ db'.adjustments = db.adjustments := by
  -- the checks of the call, the reads between them, and then its writes
  obtain ⟨_, hquantity⟩ := Txn.yields_raiseIf_bind h
  obtain ⟨_, hplatform⟩ := Txn.yields_raiseIf_bind hquantity
  have hvariant := Txn.yields_select_bind hplatform
  obtain ⟨_, _, hfound⟩ := Txn.yields_orRaise_bind hvariant
  have hlatest := Txn.yields_select_bind hfound
  obtain ⟨_, hwrite⟩ := Txn.yields_raiseIf_bind hlatest
  obtain ⟨_, db₁, hinsert, hinserted⟩ := Txn.yields_bind hwrite
  obtain ⟨_, db₂, haudit, haudited⟩ := Txn.yields_bind hinserted
  obtain rfl := returns_auditLog haudit
  obtain ⟨_, db₃, hcommit, hlast⟩ := Txn.yields_bind haudited
  obtain rfl := Txn.yields_commitSession hcommit
  obtain ⟨rfl, rfl⟩ := Txn.yields_pure hlast
  have hrow := Txn.yields_flush hinsert
  simp only [Row.insert] at hrow
  split at hrow
  · rename_i table htable
    cases hrow
    exact ⟨rfl, rfl, rfl, Table.rows_of_insert? htable, rfl, rfl⟩
  · cases hrow

/-! ## Section 5: The product ledger and its corrections -/

/-- A sale or an RTO, with the adjustment it brings. -/
structure Recorded (m : ProductMarketplaceMovement) (a : CatalogVariantStockAdjustment) :
    Prop where
  movementType : m.movementType = .sale ∨ m.movementType = .rto
  reverses : m.reversesMovementId = none
  linked : a.productMarketplaceMovementId = some m.id
  quantityDelta : a.quantityDelta = m.quantityDelta
  scope : ∀ id, a.scope = .product id → id = m.productId

/-- A reversal, with the adjustment it brings when its target had one. -/
structure ReversalOf (db : MarketplaceDB) (t m : ProductMarketplaceMovement)
    (effect : Option CatalogVariantStockAdjustment) : Prop where
  movementType : m.movementType = .reversal
  reverses : m.reversesMovementId = some t.id
  replaces : m.replacesMovementId = none
  key : m.key = t.key
  quantityDelta : m.quantityDelta = -t.quantityDelta
  linked : ∀ a ∈ effect, a.productMarketplaceMovementId = some m.id
  effect_isSome : effect.isSome = (db.getForMovement t.id).isSome
  negates : ∀ a ∈ effect, ∀ e ∈ db.getForMovement t.id, a.quantityDelta = -e.quantityDelta ∧
    (a.scope = e.scope ∨ ∃ id, e.scope = .product id ∧ a.scope = .product t.productId)

theorem returns_recordProductMovement [PyText] {productId : UUID} {platform : String}
    {movementType : ProductMarketplaceMovementType} {quantityPackets : Int}
    {reason : Option String} {stockDate : Option Date} {actor : Option UUID}
    {catalogVariantId : Option UUID} {today : Date} {movementId : UUID}
    {m : ProductMarketplaceMovement} {db db' : MarketplaceDB}
    (h : Returns (recordProductMovement productId platform movementType quantityPackets reason
      stockDate actor catalogVariantId today movementId) db m db') :
    ∃ a, Appends db db' [m] [a] ∧ Recorded m a ∧ m.id = movementId ∧
      m.key = ⟨productId, catalogVariantId, platform⟩ ∧ m.stockDate = stockDate.getD today ∧
      m.replacesMovementId = none ∧
      m.quantityAfter = db.productBalance m.key m.stockDate + m.quantityDelta := by
  obtain ⟨hsort, htype⟩ := Txn.yields_raiseIf_bind h
  obtain ⟨_, hquantity⟩ := Txn.yields_raiseIf_bind htype
  obtain ⟨_, hplatform⟩ := Txn.yields_raiseIf_bind hquantity
  obtain ⟨scope, hscope, hresolved⟩ := (reads_resolveMarketplaceScope _ _).yields_bind hplatform
  obtain ⟨factor, _, hfactor⟩ := Txn.yields_ofExcept_bind hresolved
  obtain ⟨previous, db₁, hbalance, hwrite⟩ := Txn.yields_bind hfactor
  obtain ⟨rfl, rfl⟩ := returns_latestBalance hbalance
  obtain ⟨row, db₂, happend, hrest⟩ := Txn.yields_bind (Txn.yields_atomically hwrite)
  obtain ⟨hrow, happends⟩ := returns_appendMovement happend
  obtain ⟨a, db₃, heffect, hlast⟩ := Txn.yields_bind hrest
  obtain ⟨hlinked, hdelta, hfor, happends'⟩ := returns_applyMarketplaceStockEffect heffect
  obtain ⟨rfl, rfl⟩ := Txn.yields_pure hlast
  subst hrow hscope
  refine ⟨a, happends.trans happends', ⟨?_, rfl, hlinked, hdelta, ?_⟩, rfl, rfl, rfl, rfl, rfl⟩
  · by_contra hneither
    push Not at hneither
    exact hsort hneither
  · intro id hid
    simp only [ScopeFor, Bool.false_eq_true, if_false] at hfor
    split at hfor
    · rw [hfor] at hid
      cases hid
    · exact hfor id hid

/-- Rows of the product ledger do not move the adjustments. -/
theorem Appends.getForMovement {db db' : MarketplaceDB} {ms : List ProductMarketplaceMovement}
    (h : Appends db db' ms []) (i : UUID) : db'.getForMovement i = db.getForMovement i := by
  unfold MarketplaceDB.getForMovement Table.find?
  rw [h.adjustments, List.append_nil]

theorem returns_appendReversal [PyText] {original m : ProductMarketplaceMovement}
    {reason : String} {actor : Option UUID} {stockDate : Date} {previous : Int}
    {reversalId : UUID} {db db' : MarketplaceDB}
    (h : Returns (appendReversal original reason actor stockDate previous reversalId) db m db') :
    ∃ effect, Appends db db' [m] effect.toList ∧ ReversalOf db original m effect ∧
      m.stockDate = stockDate ∧ m.quantityAfter = previous + m.quantityDelta := by
  obtain ⟨row, db₁, happend, hrest⟩ := Txn.yields_bind h
  obtain ⟨hrow, happends⟩ := returns_appendMovement happend
  have hfound := Txn.yields_select_bind hrest
  rw [happends.getForMovement] at hfound
  cases heffect : db.getForMovement original.id with
  | none =>
    -- a movement from before the two ledgers were linked
    rw [heffect] at hfound
    obtain ⟨rfl, rfl⟩ := Txn.yields_pure hfound
    subst hrow
    exact ⟨none, happends, ⟨rfl, rfl, rfl, rfl, rfl, nofun, by rw [heffect], nofun⟩, rfl, rfl⟩
  | some e =>
    rw [heffect] at hfound
    obtain ⟨a, db₂, hwrite, hlast⟩ := Txn.yields_bind hfound
    obtain ⟨hlinked, hdelta, hfor, happends'⟩ := returns_applyMarketplaceStockEffect hwrite
    obtain ⟨rfl, rfl⟩ := Txn.yields_pure hlast
    subst hrow
    have hsome : (some a).isSome = (db.getForMovement original.id).isSome := by
      rw [heffect]
      rfl
    refine ⟨some a, happends.trans happends', ⟨rfl, rfl, rfl, rfl, rfl, ?_, hsome, ?_⟩, rfl,
      rfl⟩
    · rintro a' ⟨⟩
      exact hlinked
    · rintro a' ⟨⟩ e' he'
      obtain rfl : e = e' := Option.some.inj (heffect.symm.trans he')
      refine ⟨hdelta, ?_⟩
      cases hscope : e.scope with
      | catalogVariant cv =>
        simp only [ScopeFor, hscope, AdjustmentScope.catalogVariantId] at hfor
        exact .inl hfor
      | product id =>
        simp only [ScopeFor, hscope, AdjustmentScope.catalogVariantId] at hfor
        exact .inr ⟨id, rfl, hfor⟩

theorem returns_undoMovement [PyText] {movementId : UUID} {reason : String}
    {actor : Option UUID} {today : Date} {reversalId : UUID} {m : ProductMarketplaceMovement}
    {db db' : MarketplaceDB}
    (h : Returns (undoMovement movementId reason actor today reversalId) db m db') :
    ∃ original effect, Correctable db movementId original ∧ Appends db db' [m] effect.toList ∧
      ReversalOf db original m effect ∧ m.stockDate = today ∧
      m.quantityAfter = db.productBalance m.key today + m.quantityDelta := by
  obtain ⟨_, hreason⟩ := Txn.yields_raiseIf_bind h
  obtain ⟨original, db₁, hload, hwrite⟩ := Txn.yields_bind hreason
  obtain ⟨hcorrectable, rfl⟩ := returns_loadCorrectable hload
  obtain ⟨previous, db₂, hbalance, hreverse⟩ := Txn.yields_bind (Txn.yields_atomically hwrite)
  obtain ⟨rfl, rfl⟩ := returns_latestBalance hbalance
  obtain ⟨effect, happends, hreversal, hdate, hafter⟩ := returns_appendReversal hreverse
  exact ⟨original, effect, hcorrectable, happends, hreversal, hdate, by rw [hafter, hreversal.key]⟩

theorem returns_editMovement [PyText] {movementId : UUID} {quantityPackets : Int}
    {reason : String} {actor : Option UUID} {today : Date} {reversalId replacementId : UUID}
    {m : ProductMarketplaceMovement} {db db' : MarketplaceDB}
    (h : Returns (editMovement movementId quantityPackets reason actor today reversalId
      replacementId) db m db') :
    ∃ original reversal effect db₁ a, Correctable db movementId original ∧
      Appends db db₁ [reversal] effect.toList ∧ ReversalOf db original reversal effect ∧
      reversal.stockDate = today ∧
      reversal.quantityAfter = db.productBalance m.key today + reversal.quantityDelta ∧
      Appends db₁ db' [m] [a] ∧ Recorded m a ∧ m.key = original.key ∧ m.stockDate = today ∧
      m.replacesMovementId = some original.id ∧
      m.quantityAfter = reversal.quantityAfter + m.quantityDelta ∧
      m.movementType = original.movementType := by
  obtain ⟨_, hreason⟩ := Txn.yields_raiseIf_bind h
  obtain ⟨_, hquantity⟩ := Txn.yields_raiseIf_bind hreason
  obtain ⟨original, db₁, hload, hloaded⟩ := Txn.yields_bind hquantity
  obtain ⟨hcorrectable, rfl⟩ := returns_loadCorrectable hload
  obtain ⟨_, hsame⟩ := Txn.yields_raiseIf_bind hloaded
  obtain ⟨variants, _, hvariants⟩ := (reads_listVariantsForProduct _).yields_bind hsame
  obtain ⟨factor, _, hwrite⟩ := Txn.yields_ofExcept_bind hvariants
  -- the reversal first, and the replacement on top of the balance it leaves
  obtain ⟨previous, db₂, hbalance, hreverse⟩ := Txn.yields_bind (Txn.yields_atomically hwrite)
  obtain ⟨rfl, rfl⟩ := returns_latestBalance hbalance
  obtain ⟨reversal, db₃, hreversed, hreplace⟩ := Txn.yields_bind hreverse
  obtain ⟨effect, happends, hreversal, hdate, hafter⟩ := returns_appendReversal hreversed
  obtain ⟨row, db₄, happend, hrest⟩ := Txn.yields_bind hreplace
  obtain ⟨hrow, happends'⟩ := returns_appendMovement happend
  obtain ⟨a, db₅, heffect, hlast⟩ := Txn.yields_bind hrest
  obtain ⟨hlinked, hdelta, hfor, happends''⟩ := returns_applyMarketplaceStockEffect heffect
  obtain ⟨rfl, rfl⟩ := Txn.yields_pure hlast
  subst hrow
  refine ⟨original, reversal, effect, db₃, a, hcorrectable, happends, hreversal, hdate, hafter,
    happends'.trans happends'', ⟨hcorrectable.movementType, rfl, hlinked, hdelta, ?_⟩, rfl, rfl,
    rfl, ?_, rfl⟩
  · intro id hid
    simp only [ScopeFor, Bool.false_eq_true, if_false] at hfor
    split at hfor
    · rw [hfor] at hid
      cases hid
    · exact hfor id hid
  · rw [hafter]

end AyushOms.Marketplace
