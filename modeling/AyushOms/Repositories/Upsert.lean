import AyushOms.Core.Enums
import AyushOms.Lib.Interleaving
import AyushOms.Lib.Table
import AyushOms.Orders.Items

/-!
# Create or Update by External Id

`app.repositories.base.BaseRepository.upsert_by_external_id`, for every table, and
the products and variants that `ProductService.upsert_synced_product` writes with it in one
transaction. Another session may insert the row between the SELECT and the INSERT; the INSERT
is then refused, and the session is rolled back before the row is updated.

## Main results

- `upsert_loses_nothing_iff`: when the rollback has nothing to undo
-/

namespace AyushOms.Repositories

open AyushOms.Lib AyushOms.Orders

/-! ## Section 1: The base repository -/

/-- `BaseRepository[ModelT]`: what its statements are for rows `ρ` and columns `φ` of a
database `σ` with writes `ω`. -/
structure BaseRepository (σ ω ρ φ : Type) where
  /-- The query of `get_by_source_external_id`. -/
  find : σ → SourceSystem → String → Option ρ
  /-- `self.model(**fields)`, with the id that is generated for it. -/
  model : UUID → SourceSystem → String → φ → ρ
  /-- The INSERT of a row. -/
  insert : ρ → ω
  /-- `setattr` for every column. -/
  assign : ρ → φ → ρ
  /-- The UPDATE of these columns of a row. -/
  updateOf : ρ → φ → ω

namespace BaseRepository

variable {σ ω ρ φ : Type} (repo : BaseRepository σ ω ρ φ)

/-- `get_by_source_external_id`. -/
def getBySourceExternalId (source : SourceSystem) (externalId : String) :
    Txn σ ω PyException (Option ρ) :=
  Txn.select fun db => repo.find db source externalId

/-- `create`. -/
def create (row : ρ) : Txn σ ω PyException ρ := do
  Txn.flush (repo.insert row)
  return row

/-- `update`. -/
def update (row : ρ) (fields : φ) : Txn σ ω PyException ρ := do
  Txn.flush (repo.updateOf row fields)
  return repo.assign row fields

/-- The `except IntegrityError` block. -/
def recoverUpsert (source : SourceSystem) (externalId : String) (fields : φ) :
    PyException → Txn σ ω PyException (ρ × Bool)
  | .integrityError => do
    Txn.rollbackSession
    match ← repo.getBySourceExternalId source externalId with
    | none => Txn.fail .integrityError
    | some existing => do
      let row ← repo.update existing fields
      return (row, false)
  | e => Txn.fail e

/-- `upsert_by_external_id`. -/
def upsertByExternalId (newId : UUID) (source : SourceSystem) (externalId : String)
    (fields : φ) : Txn σ ω PyException (ρ × Bool) := do
  match ← repo.getBySourceExternalId source externalId with
  | some existing => do
    let row ← repo.update existing fields
    return (row, false)
  | none =>
    Txn.tryCatch
      (do
        let row ← repo.create (repo.model newId source externalId fields)
        return (row, true))
      (repo.recoverUpsert source externalId fields)

end BaseRepository

/-! ## Section 2: Products -/

/-- `Product`. -/
structure Product where
  id : UUID
  title : String
  shopifyProductId : Option String := none
  sourceSystem : Option SourceSystem := none
  externalId : Option String := none
  deriving DecidableEq, Repr

/-- `ProductVariant`, the columns a sync writes. -/
structure SyncedVariant where
  id : UUID
  productId : UUID
  title : String
  sku : Option String := none
  sourceSystem : Option SourceSystem := none
  externalId : Option String := none
  deriving DecidableEq, Repr

/-- The unique columns of `products` and `product_variants`; the text is the Shopify id of a
product, the SKU of a variant. -/
inductive CatalogKey where
  | id (id : UUID)
  | text (value : String)
  | external (key : SourceSystem × String)
  deriving DecidableEq

def Product.keys (p : Product) : List CatalogKey :=
  .id p.id :: (p.shopifyProductId.toList.map .text ++
    (externalKey p.sourceSystem p.externalId).map .external)

def SyncedVariant.keys (v : SyncedVariant) : List CatalogKey :=
  .id v.id :: (v.sku.toList.map .text ++ (externalKey v.sourceSystem v.externalId).map .external)

structure CatalogDB where
  products : Table Product CatalogKey Product.keys := Table.empty
  variants : Table SyncedVariant CatalogKey SyncedVariant.keys := Table.empty

/-- The columns of a product that the normalizer produces. -/
structure ProductFields where
  title : String
  shopifyProductId : Option String := none
  deriving DecidableEq, Repr

/-- The columns of a variant that the normalizer produces, and its product. -/
structure VariantFields where
  productId : UUID
  title : String
  sku : Option String := none
  deriving DecidableEq, Repr

def ProductFields.assign (fields : ProductFields) (p : Product) : Product :=
  { p with title := fields.title, shopifyProductId := fields.shopifyProductId }

def VariantFields.assign (fields : VariantFields) (v : SyncedVariant) : SyncedVariant :=
  { v with productId := fields.productId, title := fields.title, sku := fields.sku }

/-- A write of the catalogue. -/
inductive CatalogWrite where
  | insertProduct (p : Product)
  | updateProduct (id : UUID) (fields : ProductFields)
  | insertVariant (v : SyncedVariant)
  | updateVariant (id : UUID) (fields : VariantFields)
  deriving DecidableEq, Repr

/-- A unique column may refuse a write. -/
def CatalogWrite.apply : CatalogWrite → CatalogDB → Except PyException CatalogDB
  | .insertProduct p, db =>
    match db.products.insert? p with
    | none => .error .integrityError
    | some products => .ok { db with products := products }
  | .updateProduct id fields, db =>
    match db.products.update? (fun p => p.id == id) fields.assign with
    | none => .error .integrityError
    | some products => .ok { db with products := products }
  | .insertVariant v, db =>
    match db.variants.insert? v with
    | none => .error .integrityError
    | some variants => .ok { db with variants := variants }
  | .updateVariant id fields, db =>
    match db.variants.update? (fun v => v.id == id) fields.assign with
    | none => .error .integrityError
    | some variants => .ok { db with variants := variants }

/-- `ProductRepository`. -/
def products : BaseRepository CatalogDB CatalogWrite Product ProductFields where
  find db source externalId := db.products.find? fun p =>
    p.sourceSystem == some source && p.externalId == some externalId
  model id source externalId fields := fields.assign {
    id := id
    title := ""
    sourceSystem := some source
    externalId := some externalId }
  insert := .insertProduct
  assign p fields := fields.assign p
  updateOf p := .updateProduct p.id

/-- `ProductVariantRepository`. -/
def variants : BaseRepository CatalogDB CatalogWrite SyncedVariant VariantFields where
  find db source externalId := db.variants.find? fun v =>
    v.sourceSystem == some source && v.externalId == some externalId
  model id source externalId fields := fields.assign {
    id := id
    productId := 0
    title := ""
    sourceSystem := some source
    externalId := some externalId }
  insert := .insertVariant
  assign v fields := fields.assign v
  updateOf v := .updateVariant v.id

/-! ## Section 3: A concurrent insert -/

/-- What is committed when the SELECT, the INSERT, the rollback, the second SELECT, the UPDATE
and the caller's commit are sent. -/
structure Race (σ : Type) where
  atSelect : σ
  atInsert : σ
  atRollback : σ
  atRetry : σ
  atUpdate : σ
  atCommit : σ

def Race.states {σ : Type} (race : Race σ) : List σ :=
  [race.atSelect, race.atInsert, race.atRollback, race.atRetry, race.atUpdate, race.atCommit]

section Collision

variable {σ ω ρ φ : Type} (repo : BaseRepository σ ω ρ φ) (apply : ω → σ → Except PyException σ)
  (pending : List ω) (newId : UUID) (source : SourceSystem) (externalId : String) (fields : φ)
  (race : Race σ) (existing : ρ)

/-- The row is not there under the caller's pending writes at first; the INSERT collides with
the row another session has inserted by then. -/
structure Collides : Prop where
  selected : ∃ db, Txn.replay apply pending race.atSelect = .ok db ∧
    repo.find db source externalId = none
  refused : ∃ db, Txn.replay apply pending race.atInsert = .ok db ∧
    apply (repo.insert (repo.model newId source externalId fields)) db = .error .integrityError
  inserted : repo.find race.atRetry source externalId = some existing

/-- The caller, with its earlier writes pending: it calls `upsert_by_external_id` and then
commits. -/
def upserting : Txn.Caller PUnit σ ω PyException (ρ × Bool) where
  call := PUnit.unit
  program := Txn.thenCommit (repo.upsertByExternalId newId source externalId fields)
  pending := pending

/-- The updated row is returned, and everything that was pending is committed with its
update. -/
def LosesNothing : Prop :=
  ((upserting repo pending newId source externalId fields).advanceAmid apply
      race.states).1.program = .ret (repo.assign existing fields, false) ∧
    ((upserting repo pending newId source externalId fields).advanceAmid apply
      race.states).2 = [pending ++ [repo.updateOf existing fields]]

/-- The database accepts the update when it is sent, and when it is committed. -/
def UpdateAccepted : Prop :=
  (∃ db, apply (repo.updateOf existing fields) race.atUpdate = .ok db) ∧
    ∃ db, apply (repo.updateOf existing fields) race.atCommit = .ok db

end Collision

/-! ## Section 4: What is left of the pending writes -/

section Recovery

variable {σ ω ρ φ : Type} {repo : BaseRepository σ ω ρ φ} {apply : ω → σ → Except PyException σ}
  {pending : List ω} {newId : UUID} {source : SourceSystem} {externalId : String} {fields : φ}
  {race : Race σ} {existing : ρ}

/-- The caller once the second SELECT has found the row: nothing is pending any more. -/
def retrying (repo : BaseRepository σ ω ρ φ) (existing : ρ) (fields : φ) :
    Txn.Caller PUnit σ ω PyException (ρ × Bool) where
  call := PUnit.unit
  program := Txn.thenCommit do
    let row ← repo.update existing fields
    return (row, false)

/-- The collision leads there, whatever was pending. -/
theorem advanceAmid_of_collides
    (h : Collides repo apply pending newId source externalId fields race existing) :
    (upserting repo pending newId source externalId fields).advanceAmid apply race.states =
      (retrying repo existing fields).advanceAmid apply [race.atUpdate, race.atCommit] := by
  obtain ⟨⟨db, hselect, hnone⟩, ⟨db', hpending, hrefused⟩, hinserted⟩ := h
  have hinsert : Txn.replay apply
      (pending ++ [repo.insert (repo.model newId source externalId fields)]) race.atInsert =
        .error .integrityError := by
    rw [Txn.replay_append_of_ok hpending, Txn.replay_singleton, hrefused]
  refine (Txn.Caller.advanceAmid_read hselect).trans ?_
  dsimp only [Txn.bind]
  rw [hnone]
  refine (Txn.Caller.advanceAmid_write_error hinsert).trans ?_
  refine Txn.Caller.advanceAmid_rollback.trans ?_
  refine (Txn.Caller.advanceAmid_read (Txn.replay_nil apply race.atRetry)).trans ?_
  dsimp only [Txn.bind]
  rw [hinserted]
  rfl

/-- From there the update is returned and committed alone, when the database accepts it. -/
theorem advanceAmid_retrying (apply : ω → σ → Except PyException σ)
    (repo : BaseRepository σ ω ρ φ) (race : Race σ) (existing : ρ) (fields : φ) :
    ∃ c batches, (retrying repo existing fields).advanceAmid apply
        [race.atUpdate, race.atCommit] = (c, batches) ∧
      ((UpdateAccepted repo apply fields race existing ∧
        c.program = .ret (repo.assign existing fields, false) ∧
          batches = [[repo.updateOf existing fields]]) ∨
        (¬ UpdateAccepted repo apply fields race existing ∧ batches = [])) := by
  have hreplay : ∀ db, Txn.replay apply ([] ++ [repo.updateOf existing fields]) db =
      apply (repo.updateOf existing fields) db := fun db => Txn.replay_singleton _ db
  cases hupdate : apply (repo.updateOf existing fields) race.atUpdate with
  | error e =>
    refine ⟨_, _, (Txn.Caller.advanceAmid_write_error ((hreplay _).trans hupdate)).trans
      (Txn.Caller.advanceAmid_fail e _), .inr ⟨fun h => ?_, rfl⟩⟩
    obtain ⟨⟨db, hdb⟩, -⟩ := h
    rw [hupdate] at hdb
    cases hdb
  | ok db =>
    let updated : Txn.Caller PUnit σ ω PyException (ρ × Bool) :=
      ⟨PUnit.unit, .commit (.ret (repo.assign existing fields, false)) .fail,
        [repo.updateOf existing fields]⟩
    have hupdated : (retrying repo existing fields).advanceAmid apply
        [race.atUpdate, race.atCommit] = updated.advanceAmid apply [race.atCommit] :=
      Txn.Caller.advanceAmid_write_ok ((hreplay _).trans hupdate)
    cases hcommit : apply (repo.updateOf existing fields) race.atCommit with
    | error e =>
      refine ⟨_, _, hupdated.trans
        (Txn.Caller.advanceAmid_commit_error ((hreplay _).trans hcommit)),
        .inr ⟨fun h => ?_, rfl⟩⟩
      obtain ⟨-, db', hdb'⟩ := h
      rw [hcommit] at hdb'
      cases hdb'
    | ok db' =>
      exact ⟨_, _, hupdated.trans
        (Txn.Caller.advanceAmid_commit_ok ((hreplay _).trans hcommit)),
        .inl ⟨⟨⟨db, hupdate⟩, db', hcommit⟩, rfl, rfl⟩⟩

end Recovery

/-- **A concurrent insert**: the updated row is returned, and everything the caller had
written before is committed with it, exactly when the caller had written nothing. -/
theorem upsert_loses_nothing_iff {σ ω ρ φ : Type} {repo : BaseRepository σ ω ρ φ}
    {apply : ω → σ → Except PyException σ} {pending : List ω} {newId : UUID}
    {source : SourceSystem} {externalId : String} {fields : φ} {race : Race σ} {existing : ρ}
    (h : Collides repo apply pending newId source externalId fields race existing) :
    LosesNothing repo apply pending newId source externalId fields race existing ↔
      pending = [] ∧ UpdateAccepted repo apply fields race existing := by
  obtain ⟨c, batches, hrun, hcases⟩ :=
    advanceAmid_retrying apply repo race existing fields
  unfold LosesNothing
  rw [advanceAmid_of_collides h, hrun]
  rcases hcases with ⟨haccepted, hprogram, rfl⟩ | ⟨hrefused, rfl⟩
  · rw [hprogram]
    constructor
    · rintro ⟨-, hlost⟩
      exact ⟨by simpa using hlost, haccepted⟩
    · rintro ⟨rfl, -⟩
      exact ⟨rfl, rfl⟩
  · refine iff_of_false (fun h => ?_) fun h => hrefused h.2
    cases h.2

/-- A product with its first variant. -/
def oneVariant : CatalogDB where
  products := Table.ofList [{
    id := 1, title := "Masala", sourceSystem := some .shopify, externalId := some "P1" }]
    (by decide)
  variants := Table.ofList [{
    id := 2, productId := 1, title := "60 pouches", sku := some "M60"
    sourceSystem := some .shopify, externalId := some "V1" }] (by decide)

/-- A webhook has added the second variant. -/
def twoVariants : CatalogDB where
  products := oneVariant.products
  variants := Table.ofList [{
      id := 2, productId := 1, title := "60 pouches", sku := some "M60"
      sourceSystem := some .shopify, externalId := some "V1" }, {
      id := 3, productId := 1, title := "120", sku := some "M120"
      sourceSystem := some .shopify, externalId := some "V2" }] (by decide)

/-- The webhook commits between the SELECT and the INSERT. -/
def webhookRace : Race CatalogDB :=
  ⟨oneVariant, twoVariants, twoVariants, twoVariants, twoVariants, twoVariants⟩

def secondVariant : VariantFields where
  productId := 1
  title := "120 pouches"
  sku := some "M120"

def webhookVariant : SyncedVariant where
  id := 3
  productId := 1
  title := "120"
  sku := some "M120"
  sourceSystem := some .shopify
  externalId := some "V2"

/-- With nothing pending the row is updated. -/
theorem upsert_loses_nothing_first :
    LosesNothing variants CatalogWrite.apply [] 9 .shopify "V2" secondVariant webhookRace
      webhookVariant := by
  refine (upsert_loses_nothing_iff ⟨⟨_, rfl, by decide⟩, ⟨_, rfl, ?_⟩, by decide⟩).mpr
    ⟨rfl, ⟨_, rfl⟩, _, rfl⟩
  rfl

/-- The new title of the product is pending, and is lost. -/
theorem upsert_loses_product_title :
    Collides variants CatalogWrite.apply [.updateProduct 1 ⟨"Herbal Masala", none⟩] 9 .shopify
      "V2" secondVariant webhookRace webhookVariant ∧
    ¬ LosesNothing variants CatalogWrite.apply [.updateProduct 1 ⟨"Herbal Masala", none⟩] 9
      .shopify "V2" secondVariant webhookRace webhookVariant := by
  refine ⟨⟨⟨_, rfl, by decide⟩, ⟨_, rfl, rfl⟩, by decide⟩, fun h => ?_⟩
  exact absurd h.2 (by decide)

end AyushOms.Repositories
