import AyushOms.Core.Values
import AyushOms.Lib.Evaluation
import AyushOms.Repositories.Upsert

/-!
# Synchronized Products

`app.services.product_service.ProductService.upsert_synced_product`: a product of a sync payload
and its variants are created or updated by their external ids, in one transaction. A SKU is unique
over all variants. A variant whose SKU another one has gets a fallback made of the SKU and its
external id (`_safe_sku`), chosen against the rows as they are when its turn comes.

## Main results

- `evaluates_upsertByExternalId`: what one row's create-or-update comes to
- `stored_eq`: what is stored after a call
-/

namespace AyushOms.Products

open AyushOms.Lib AyushOms.Orders
open AyushOms.Repositories (BaseRepository)

/-! ## Section 1: Tables -/

/-- The columns of a row on which nothing here depends, by name. -/
abbrev Columns := String → Json

/-- `setattr` for every field. -/
def Columns.assign (columns : Columns) (fields : Dict) : Columns := fun name =>
  (fields.lookup name).getD (columns name)

/-- `Product`. -/
structure Product where
  id : UUID
  shopifyProductId : Option String
  sourceSystem : Option SourceSystem
  externalId : Option String
  columns : Columns

/-- `ProductVariant`. -/
structure ProductVariant where
  id : UUID
  productId : UUID
  shopifyVariantId : Option String
  sku : Option String
  sourceSystem : Option SourceSystem
  externalId : Option String
  columns : Columns

/-- The unique columns of the two tables. -/
inductive CatalogKey where
  | id (id : UUID)
  | shopifyId (value : String)
  | sku (value : String)
  | external (key : SourceSystem × String)
  deriving DecidableEq

def Product.keys (p : Product) : List CatalogKey :=
  .id p.id :: (p.shopifyProductId.toList.map .shopifyId ++
    (externalKey p.sourceSystem p.externalId).map .external)

def ProductVariant.keys (v : ProductVariant) : List CatalogKey :=
  .id v.id :: (v.shopifyVariantId.toList.map .shopifyId ++ (v.sku.toList.map .sku ++
    (externalKey v.sourceSystem v.externalId).map .external))

structure CatalogDB where
  products : Table Product CatalogKey Product.keys := Table.empty
  variants : Table ProductVariant CatalogKey ProductVariant.keys := Table.empty

/-- What the tables say of the columns on which nothing here depends: their defaults, and what
their types and constraints refuse. -/
class CatalogColumns where
  productDefaults : Columns
  variantDefaults : Columns
  refusesProduct : Option String → Columns → Option PyException
  refusesVariant : Option String → Columns → Option PyException

/-- What a call assigns to a product. -/
structure ProductFields where
  shopifyProductId : Option String
  columns : Dict

/-- What it assigns to a variant. -/
structure VariantFields where
  productId : UUID
  shopifyVariantId : Option String
  sku : Option String
  columns : Dict

def ProductFields.assign (fields : ProductFields) (p : Product) : Product :=
  { p with shopifyProductId := fields.shopifyProductId, columns := p.columns.assign fields.columns }

def VariantFields.assign (fields : VariantFields) (v : ProductVariant) : ProductVariant :=
  { v with
    productId := fields.productId
    shopifyVariantId := fields.shopifyVariantId
    sku := fields.sku
    columns := v.columns.assign fields.columns }

/-- A write of the catalogue. -/
inductive CatalogWrite where
  | insertProduct (p : Product)
  | updateProduct (p : Product) (fields : ProductFields)
  | insertVariant (v : ProductVariant)
  | updateVariant (v : ProductVariant) (fields : VariantFields)

/-- The table with a new row, if the row and its keys are accepted. -/
def accepted {ρ : Type} {keys : ρ → List CatalogKey} (refusal : Option PyException)
    (table : Option (Table ρ CatalogKey keys)) : Except PyException (Table ρ CatalogKey keys) :=
  match refusal, table with
  | some e, _ => .error e
  | none, none => .error .integrityError
  | none, some table => .ok table

theorem accepted_bind_eq_ok {ρ : Type} {keys : ρ → List CatalogKey} {refusal : Option PyException}
    {table : Option (Table ρ CatalogKey keys)} {f : Table ρ CatalogKey keys → CatalogDB}
    {db : CatalogDB} :
    (accepted refusal table >>= fun t => pure (f t)) = Except.ok db ↔
      refusal = none ∧ ∃ t, table = some t ∧ f t = db := by
  cases refusal with
  | some e =>
    refine iff_of_false (fun h => ?_) fun h => ?_
    · cases h
    · cases h.1
  | none =>
    cases table with
    | none =>
      refine iff_of_false (fun h => ?_) fun h => ?_
      · cases h
      · obtain ⟨-, t, ht, -⟩ := h
        cases ht
    | some t =>
      constructor
      · intro h
        exact ⟨rfl, t, rfl, Except.ok.inj h⟩
      · intro h
        obtain ⟨-, t', ht, rfl⟩ := h
        cases ht
        rfl

section Catalog

variable [CatalogColumns]

/-- What the table refuses about a row, its unique columns apart: a SKU is not NULL, and has at
most 120 characters. -/
def ProductVariant.refusal (v : ProductVariant) : Option PyException :=
  match v.sku with
  | none => some .integrityError
  | some sku =>
    if 120 < sku.length then some (.other "DataError")
    else CatalogColumns.refusesVariant v.shopifyVariantId v.columns

def Product.refusal (p : Product) : Option PyException :=
  CatalogColumns.refusesProduct p.shopifyProductId p.columns

def CatalogWrite.apply : CatalogWrite → CatalogDB → Except PyException CatalogDB
  | .insertProduct p, db => do
    let table ← accepted p.refusal (db.products.insert? p)
    return { db with products := table }
  | .updateProduct p fields, db => do
    let table ← accepted (fields.assign p).refusal
      (db.products.update? (fun row => row.id == p.id) fields.assign)
    return { db with products := table }
  | .insertVariant v, db => do
    let table ← accepted v.refusal (db.variants.insert? v)
    return { db with variants := table }
  | .updateVariant v fields, db => do
    let table ← accepted (fields.assign v).refusal
      (db.variants.update? (fun row => row.id == v.id) fields.assign)
    return { db with variants := table }

/-! ## Section 2: Repositories -/

/-- The row is the one of an external record. -/
def ProductVariant.isOf (source : SourceSystem) (externalId : String) (v : ProductVariant) : Bool :=
  v.sourceSystem == some source && v.externalId == some externalId

def Product.isOf (source : SourceSystem) (externalId : String) (p : Product) : Bool :=
  p.sourceSystem == some source && p.externalId == some externalId

/-- `ProductRepository`. -/
def products : BaseRepository CatalogDB CatalogWrite Product ProductFields where
  find db source externalId := db.products.find? (Product.isOf source externalId)
  model id source externalId fields := fields.assign {
    id := id
    shopifyProductId := none
    sourceSystem := some source
    externalId := some externalId
    columns := CatalogColumns.productDefaults }
  insert := .insertProduct
  assign p fields := fields.assign p
  updateOf := .updateProduct

/-- `ProductVariantRepository`. -/
def variants : BaseRepository CatalogDB CatalogWrite ProductVariant VariantFields where
  find db source externalId := db.variants.find? (ProductVariant.isOf source externalId)
  model id source externalId fields := fields.assign {
    id := id
    productId := fields.productId
    shopifyVariantId := none
    sku := none
    sourceSystem := some source
    externalId := some externalId
    columns := CatalogColumns.variantDefaults }
  insert := .insertVariant
  assign v fields := fields.assign v
  updateOf := .updateVariant

/-- `get_by_sku`. -/
def getBySku (sku : String) : Txn CatalogDB CatalogWrite PyException (Option ProductVariant) :=
  Txn.select fun db => db.variants.find? fun v => v.sku == some sku

/-! ## Section 3: The service -/

/-- A variant of a payload. -/
structure VariantPayload where
  externalId : String
  sku : Option String
  shopifyVariantId : Option String
  columns : Dict

/-- A payload of a product with its variants. -/
structure ProductPayload where
  sourceSystem : SourceSystem
  externalId : String
  shopifyProductId : Option String
  columns : Dict
  variants : List VariantPayload

/-- `f"{sku}-shopify-{external_id}"`. -/
def fallbackSku (sku externalId : String) : String := sku ++ "-shopify-" ++ externalId

/-- `_safe_sku`. -/
def safeSku (sku : Option String) (source : SourceSystem) (externalId : String) :
    Txn CatalogDB CatalogWrite PyException (Option String) :=
  match sku with
  | none => return none
  | some sku => do
    match ← getBySku sku with
    | none => return some sku
    | some existing =>
      if existing.isOf source externalId then return some sku
      else return some (fallbackSku sku externalId)

/-- What is assigned to the row of a variant of the payload. -/
def VariantPayload.fields (v : VariantPayload) (productId : UUID) (sku : Option String) :
    VariantFields where
  productId := productId
  shopifyVariantId := v.shopifyVariantId
  sku := sku
  columns := v.columns

/-- The loop over the variants; a new row gets the next of the ids. -/
def upsertVariants (newIds : ℕ → UUID) (source : SourceSystem) (productId : UUID) :
    ℕ → List VariantPayload → Txn CatalogDB CatalogWrite PyException PUnit
  | _, [] => return ⟨⟩
  | n, v :: rest => do
    let sku ← safeSku v.sku source v.externalId
    let _ ← variants.upsertByExternalId (newIds n) source v.externalId (v.fields productId sku)
    upsertVariants newIds source productId (n + 1) rest

/-- `upsert_synced_product`; new rows get the ids given. -/
def upsertSyncedProduct (newIds : ℕ → UUID) (data : ProductPayload) :
    Txn CatalogDB CatalogWrite PyException (Product × Bool) :=
  Txn.thenCommit do
    let (product, created) ← products.upsertByExternalId (newIds 0) data.sourceSystem
      data.externalId ⟨data.shopifyProductId, data.columns⟩
    upsertVariants newIds data.sourceSystem product.id 1 data.variants
    return (product, created)

/-- The database after a call on it. What `uuid4` draws in a call on a database is given. -/
def stored (newIds : CatalogDB → ℕ → UUID) (data : ProductPayload) (db : CatalogDB) : CatalogDB :=
  ((upsertSyncedProduct (newIds db) data).run CatalogWrite.apply
    (.fresh db fun _ => none)).2.committed

/-- The call on a database returns. -/
def Returns (newIds : CatalogDB → ℕ → UUID) (data : ProductPayload) (db : CatalogDB) : Prop :=
  ∃ result, ((upsertSyncedProduct (newIds db) data).run CatalogWrite.apply
    (.fresh db fun _ => none)).1 = .ok result

end Catalog

/-! ## Section 4: What a call computes -/

section Repository

variable {σ ω ρ φ : Type} (repo : BaseRepository σ ω ρ φ) (apply : ω → σ → Except PyException σ)
  (newId : UUID) (source : SourceSystem) (externalId : String) (fields : φ)

/-- The row that `upsert_by_external_id` returns, and what the session sees then. -/
def upserted (seen : σ) : Except PyException ((ρ × Bool) × σ) :=
  match repo.find seen source externalId with
  | some existing =>
    (apply (repo.updateOf existing fields) seen).map ((repo.assign existing fields, false), ·)
  | none =>
    let row := repo.model newId source externalId fields
    (apply (repo.insert row) seen).map ((row, true), ·)

/-- Alone, `upsert_by_external_id` computes that: after a refused INSERT the rollback finds no row
that it had not found before. -/
theorem evaluates_upsertByExternalId {stored seen : σ}
    (h : repo.find seen source externalId = none → repo.find stored source externalId = none) :
    Txn.Evaluates apply (repo.upsertByExternalId newId source externalId fields) stored seen
      (upserted repo apply newId source externalId fields seen) := by
  have hwrites (w : ω) (a : ρ × Bool) : Txn.Evaluates apply
      (do Txn.flush w; return a : Txn σ ω PyException (ρ × Bool)) stored seen
      ((apply w seen).map (a, ·)) := by
    have hbind := Txn.evaluates_bind (Txn.evaluates_flush apply w stored seen)
      (f := fun _ => pure a) (g := fun r => .ok (a, r.2)) fun u left _ =>
        Txn.evaluates_pure a stored left
    cases happly : apply w seen with
    | error e =>
      rw [happly] at hbind
      exact hbind
    | ok left =>
      rw [happly] at hbind
      exact hbind
  have hselect := Txn.evaluates_select apply
    (fun db => repo.find db source externalId) stored seen
  cases hfind : repo.find seen source externalId with
  | some existing =>
    rw [upserted, hfind]
    rw [hfind] at hselect
    refine Txn.evaluates_bind (g := fun r => (apply (repo.updateOf existing fields) r.2).map
      ((repo.assign existing fields, false), ·)) hselect fun found left hfound => ?_
    cases hfound
    exact hwrites _ _
  | none =>
    rw [upserted, hfind]
    rw [hfind] at hselect
    let row := repo.model newId source externalId fields
    refine Txn.evaluates_bind (g := fun r => (apply (repo.insert row) r.2).map ((row, true), ·))
      hselect fun found left hfound => ?_
    cases hfound
    refine Txn.evaluates_tryCatch (hwrites _ _) fun e left _ => ?_
    -- the handler finds nothing either, and raises again
    cases e with
    | integrityError =>
      show Txn.Evaluates apply (Txn.rollbackSession >>= fun _ =>
        repo.getBySourceExternalId source externalId >>= fun found => _) stored left _
      refine Txn.evaluates_bind (g := fun _ => Except.error PyException.integrityError)
        (Txn.evaluates_rollback stored left) fun u left' hu => ?_
      cases hu
      have hagain := Txn.evaluates_select apply
        (fun db => repo.find db source externalId) stored stored
      rw [h hfind] at hagain
      refine Txn.evaluates_bind (g := fun _ => Except.error PyException.integrityError) hagain
        fun found left' hfound => ?_
      cases hfound
      exact Txn.evaluates_fail _ _ _
    | oms e => exact Txn.evaluates_fail _ _ _
    | keyError key => exact Txn.evaluates_fail _ _ _
    | missingGreenlet => exact Txn.evaluates_fail _ _ _
    | other message => exact Txn.evaluates_fail _ _ _

theorem upserted_of_some {repo : BaseRepository σ ω ρ φ} {apply : ω → σ → Except PyException σ}
    {newId : UUID} {source : SourceSystem} {externalId : String} {fields : φ} {seen : σ}
    {existing : ρ} (h : repo.find seen source externalId = some existing) :
    (upserted repo apply newId source externalId fields seen).map (·.2) =
      apply (repo.updateOf existing fields) seen := by
  rw [upserted, h]
  cases hupdate : apply (repo.updateOf existing fields) seen with
  | error e => simp only [hupdate, Except.map]
  | ok left => simp only [hupdate, Except.map]

theorem upserted_of_none {repo : BaseRepository σ ω ρ φ} {apply : ω → σ → Except PyException σ}
    {newId : UUID} {source : SourceSystem} {externalId : String} {fields : φ} {seen : σ}
    (h : repo.find seen source externalId = none) :
    (upserted repo apply newId source externalId fields seen).map (·.2) =
      apply (repo.insert (repo.model newId source externalId fields)) seen := by
  rw [upserted, h]
  cases hinsert : apply (repo.insert (repo.model newId source externalId fields)) seen with
  | error e => simp only [hinsert, Except.map]
  | ok left => simp only [hinsert, Except.map]

/-- The row has been sent to the database in one write. -/
theorem exists_write_of_upserted {repo : BaseRepository σ ω ρ φ}
    {apply : ω → σ → Except PyException σ} {newId : UUID} {source : SourceSystem}
    {externalId : String} {fields : φ} {seen left : σ} {a : ρ × Bool}
    (h : upserted repo apply newId source externalId fields seen = .ok (a, left)) :
    ∃ w, apply w seen = .ok left := by
  have hleft : (upserted repo apply newId source externalId fields seen).map (·.2) = .ok left := by
    rw [h]
    rfl
  cases hfind : repo.find seen source externalId with
  | some existing => exact ⟨_, (upserted_of_some hfind).symm.trans hleft⟩
  | none => exact ⟨_, (upserted_of_none hfind).symm.trans hleft⟩

end Repository

section Computed

/-- Each row that was there is there still, under the same external id. -/
def KeepsVariants (db db' : CatalogDB) : Prop :=
  ∀ row ∈ db.variants.rows, ∃ row' ∈ db'.variants.rows,
    row'.sourceSystem = row.sourceSystem ∧ row'.externalId = row.externalId

theorem KeepsVariants.trans {db db' db'' : CatalogDB} (h : KeepsVariants db db')
    (h' : KeepsVariants db' db'') : KeepsVariants db db'' := by
  intro row hrow
  obtain ⟨row', hrow', hsource, hexternal⟩ := h row hrow
  obtain ⟨row'', hrow'', hsource', hexternal'⟩ := h' row' hrow'
  exact ⟨row'', hrow'', hsource'.trans hsource, hexternal'.trans hexternal⟩

variable [CatalogColumns]

/-- The SKU that `_safe_sku` gives a variant. -/
def skuFor (source : SourceSystem) (v : VariantPayload) (db : CatalogDB) : Option String :=
  v.sku.map fun sku =>
    match db.variants.find? fun row => row.sku == some sku with
    | none => sku
    | some existing =>
      if existing.isOf source v.externalId then sku else fallbackSku sku v.externalId

theorem evaluates_safeSku (source : SourceSystem) (v : VariantPayload) (stored seen : CatalogDB) :
    Txn.Evaluates CatalogWrite.apply (safeSku v.sku source v.externalId) stored seen
      (.ok (skuFor source v seen, seen)) := by
  cases hsku : v.sku with
  | none =>
    rw [skuFor, hsku]
    exact Txn.evaluates_pure _ _ _
  | some sku =>
    rw [skuFor, hsku, Option.map_some]
    have hselect := Txn.evaluates_select CatalogWrite.apply
      (fun db : CatalogDB => db.variants.find? fun row => row.sku == some sku) stored seen
    cases hfind : seen.variants.find? fun row => row.sku == some sku with
    | none =>
      rw [hfind] at hselect
      simp only
      refine Txn.evaluates_bind (g := fun r => Except.ok (some sku, r.2)) hselect
        fun found left hfound => ?_
      cases hfound
      exact Txn.evaluates_pure _ _ _
    | some existing =>
      rw [hfind] at hselect
      simp only
      refine Txn.evaluates_bind (g := fun r => Except.ok (some (if existing.isOf source v.externalId
        then sku else fallbackSku sku v.externalId), r.2)) hselect fun found left hfound => ?_
      cases hfound
      dsimp only
      split
      · exact Txn.evaluates_pure _ _ _
      · exact Txn.evaluates_pure _ _ _

/-- The database once a variant of the payload has been written. -/
def variantWritten (newId : UUID) (source : SourceSystem) (productId : UUID) (v : VariantPayload)
    (db : CatalogDB) : Except PyException CatalogDB :=
  (upserted variants CatalogWrite.apply newId source v.externalId
    (v.fields productId (skuFor source v db)) db).map (·.2)

/-- And once all have been. -/
def variantsWritten (newIds : ℕ → UUID) (source : SourceSystem) (productId : UUID) :
    ℕ → List VariantPayload → CatalogDB → Except PyException CatalogDB
  | _, [], db => .ok db
  | n, v :: rest, db => do
    let db' ← variantWritten (newIds n) source productId v db
    variantsWritten newIds source productId (n + 1) rest db'

/-- The database that a call leaves when it returns. -/
def written (newIds : ℕ → UUID) (data : ProductPayload) (db : CatalogDB) :
    Except PyException CatalogDB := do
  let ((product, _), db') ← upserted products CatalogWrite.apply (newIds 0) data.sourceSystem
    data.externalId ⟨data.shopifyProductId, data.columns⟩ db
  variantsWritten newIds data.sourceSystem product.id 1 data.variants db'

theorem KeepsVariants.find_eq_none {db db' : CatalogDB} (h : KeepsVariants db db')
    {source : SourceSystem} {externalId : String}
    (hnone : variants.find db' source externalId = none) :
    variants.find db source externalId = none := by
  refine Table.find?_eq_none.mpr fun row hrow hof => ?_
  obtain ⟨row', hrow', hsource, hexternal⟩ := h row hrow
  refine Table.find?_eq_none.mp hnone row' hrow' ?_
  rw [ProductVariant.isOf, hsource, hexternal]
  exact hof

theorem keepsVariants_apply {w : CatalogWrite} {db db' : CatalogDB} (h : w.apply db = .ok db') :
    KeepsVariants db db' := by
  intro row hrow
  cases w with
  | insertProduct p =>
    obtain ⟨-, table, -, rfl⟩ := accepted_bind_eq_ok.mp h
    exact ⟨row, hrow, rfl, rfl⟩
  | updateProduct p fields =>
    obtain ⟨-, table, -, rfl⟩ := accepted_bind_eq_ok.mp h
    exact ⟨row, hrow, rfl, rfl⟩
  | insertVariant v =>
    obtain ⟨-, table, htable, rfl⟩ := accepted_bind_eq_ok.mp h
    refine ⟨row, ?_, rfl, rfl⟩
    show row ∈ table.rows
    rw [Table.rows_of_insert? htable]
    exact List.mem_append_left _ hrow
  | updateVariant v fields =>
    obtain ⟨-, table, htable, rfl⟩ := accepted_bind_eq_ok.mp h
    refine ⟨if row.id == v.id then fields.assign row else row, ?_, ?_⟩
    · show _ ∈ table.rows
      rw [Table.rows_of_update? htable]
      exact List.mem_map_of_mem (f := fun row : ProductVariant =>
        if row.id == v.id then fields.assign row else row) hrow
    · split
      · exact ⟨rfl, rfl⟩
      · exact ⟨rfl, rfl⟩

theorem evaluates_upsertVariants (newIds : ℕ → UUID) (source : SourceSystem) (productId : UUID)
    (vs : List VariantPayload) (n : ℕ) {stored seen : CatalogDB} (h : KeepsVariants stored seen) :
    Txn.Evaluates CatalogWrite.apply (upsertVariants newIds source productId n vs) stored seen
      ((variantsWritten newIds source productId n vs seen).map (⟨⟩, ·)) := by
  induction vs generalizing n seen with
  | nil => exact Txn.evaluates_pure _ _ _
  | cons v vs ih =>
    have hsku := evaluates_safeSku source v stored seen
    have hrow := evaluates_upsertByExternalId variants CatalogWrite.apply (newIds n) source
      v.externalId (v.fields productId (skuFor source v seen)) h.find_eq_none
    have hrest := Txn.evaluates_bind
      (f := fun _ => upsertVariants newIds source productId (n + 1) vs)
      (g := fun r => (variantsWritten newIds source productId (n + 1) vs r.2).map (PUnit.unit, ·))
      hrow fun a left hleft => by
        obtain ⟨w, hw⟩ := exists_write_of_upserted hleft
        exact ih (n + 1) (h.trans (keepsVariants_apply hw))
    have hall := Txn.evaluates_bind (f := fun sku => do
        let _ ← variants.upsertByExternalId (newIds n) source v.externalId (v.fields productId sku)
        upsertVariants newIds source productId (n + 1) vs)
      (g := fun _ => (variantsWritten newIds source productId n (v :: vs) seen).map (PUnit.unit, ·))
      hsku fun sku left hleft => by
        cases hleft
        rw [variantsWritten, variantWritten]
        cases hupserted : upserted variants CatalogWrite.apply (newIds n) source v.externalId
            (v.fields productId (skuFor source v seen)) seen with
        | error e =>
          rw [hupserted] at hrest
          exact hrest
        | ok done =>
          rw [hupserted] at hrest
          exact hrest
    exact hall

theorem evaluates_upsertSyncedProduct (newIds : ℕ → UUID) (data : ProductPayload)
    (db : CatalogDB) : ∃ call r, upsertSyncedProduct newIds data = Txn.thenCommit call ∧
      Txn.Evaluates CatalogWrite.apply call db db r ∧
      r.map (·.2) = written newIds data db := by
  have hproduct := evaluates_upsertByExternalId products CatalogWrite.apply (newIds 0)
    data.sourceSystem data.externalId ⟨data.shopifyProductId, data.columns⟩
    (fun h : products.find db data.sourceSystem data.externalId = none => h)
  refine ⟨_, _, rfl, Txn.evaluates_bind (g := fun done =>
    (variantsWritten newIds data.sourceSystem done.1.1.id 1 data.variants done.2).map (done.1, ·))
    hproduct fun row left hleft => ?_, ?_⟩
  · obtain ⟨w, hw⟩ := exists_write_of_upserted hleft
    have hvariants := evaluates_upsertVariants newIds data.sourceSystem row.1.id data.variants 1
      (keepsVariants_apply hw)
    have hall := Txn.evaluates_bind (f := fun _ => pure row)
      (g := fun r => Except.ok (row, r.2)) hvariants fun u seen hu => Txn.evaluates_pure row _ _
    cases hwritten : variantsWritten newIds data.sourceSystem row.1.id 1 data.variants left with
    | error e =>
      rw [hwritten] at hall
      exact hall
    | ok db' =>
      rw [hwritten] at hall
      exact hall
  · rw [written]
    cases upserted products CatalogWrite.apply (newIds 0) data.sourceSystem data.externalId
        ⟨data.shopifyProductId, data.columns⟩ db with
    | error e => rfl
    | ok done =>
      show ((variantsWritten newIds data.sourceSystem done.1.1.id 1 data.variants done.2).map
        (done.1, ·)).map (·.2) = variantsWritten newIds data.sourceSystem done.1.1.id 1 _ done.2
      cases variantsWritten newIds data.sourceSystem done.1.1.id 1 data.variants done.2 with
      | error e => rfl
      | ok db' => rfl

/-- The database after a call: as it was, unless the call has returned. -/
theorem stored_eq (newIds : CatalogDB → ℕ → UUID) (data : ProductPayload) (db : CatalogDB) :
    stored newIds data db = (written (newIds db) data db).toOption.getD db := by
  obtain ⟨call, r, hcall, hevaluates, hwritten⟩ := evaluates_upsertSyncedProduct (newIds db) data db
  rw [stored, hcall, hevaluates.committed, ← hwritten]
  cases r with
  | error e => rfl
  | ok done => rfl

theorem returns_iff (newIds : CatalogDB → ℕ → UUID) (data : ProductPayload) (db : CatalogDB) :
    Returns newIds data db ↔ ∃ db', written (newIds db) data db = .ok db' := by
  obtain ⟨call, r, hcall, hevaluates, hwritten⟩ := evaluates_upsertSyncedProduct (newIds db) data db
  rw [Returns, hcall, hevaluates.returned, ← hwritten]
  cases r with
  | error e =>
    refine iff_of_false (fun h => ?_) fun h => ?_
    · obtain ⟨result, h⟩ := h
      cases h
    · obtain ⟨db', h⟩ := h
      cases h
  | ok done => exact iff_of_true ⟨_, rfl⟩ ⟨_, rfl⟩

end Computed

end AyushOms.Products
