import AyushOms.Lib.Names
import AyushOms.Products.Upsert

/-!
# A Product Synchronized Twice

The variants of a payload ask for their SKUs one after another (`AyushOms.Lib.Names`). When one of
them asks for a SKU that a variant further down the payload has, it gets its fallback; the other
one may then move on to another SKU, and the next call with the same payload grants what this one
refused.

## Main results

- `held_variantsWritten`: the SKUs after a call are granted one after another
- `upsert_twice`: when a second call changes nothing
-/

namespace AyushOms.Products

open AyushOms.Lib AyushOms.Orders

/-! ## Section 1: Who holds a SKU -/

/-- The external record of a row, or the row itself when it has none. -/
abbrev Owner := (SourceSystem × String) ⊕ UUID

def ProductVariant.owner (v : ProductVariant) : Owner :=
  match v.sourceSystem, v.externalId with
  | some source, some externalId => .inl (source, externalId)
  | _, _ => .inr v.id

theorem isOf_iff {source : SourceSystem} {externalId : String} {v : ProductVariant} :
    v.isOf source externalId = true ↔ v.owner = .inl (source, externalId) := by
  rw [ProductVariant.isOf, Bool.and_eq_true, beq_iff_eq, beq_iff_eq, ProductVariant.owner]
  cases v.sourceSystem with
  | none => simp
  | some source' =>
    cases v.externalId with
    | none => simp
    | some externalId' => simp

@[simp] theorem owner_assign (fields : VariantFields) (v : ProductVariant) :
    (fields.assign v).owner = v.owner := rfl

/-- A key that only the rows of an owner have. -/
def Owner.key : Owner → CatalogKey
  | .inl key => .external key
  | .inr id => .id id

theorem key_mem_keys (v : ProductVariant) : v.owner.key ∈ v.keys := by
  rw [ProductVariant.owner, ProductVariant.keys]
  cases v.sourceSystem with
  | none => simp [Owner.key]
  | some source =>
    cases v.externalId with
    | none => simp [Owner.key]
    | some externalId => simp [Owner.key, externalKey]

theorem sku_mem_keys {v : ProductVariant} {sku : String} :
    .sku sku ∈ v.keys ↔ v.sku = some sku := by
  simp [ProductVariant.keys]

theorem nodup_keys (v : ProductVariant) : v.keys.Nodup := by
  have hexternal : (externalKey v.sourceSystem v.externalId).Nodup := by
    unfold externalKey
    split
    · exact List.nodup_singleton _
    · exact List.nodup_nil
  have hexternal' : ((externalKey v.sourceSystem v.externalId).map CatalogKey.external).Nodup :=
    hexternal.map fun key key' h => CatalogKey.external.inj h
  rw [ProductVariant.keys]
  cases v.shopifyVariantId with
  | none =>
    cases v.sku with
    | none => simp [hexternal']
    | some sku => simp [hexternal']
  | some shopifyId =>
    cases v.sku with
    | none => simp [hexternal']
    | some sku => simp [hexternal']

/-- A row under another SKU. -/
def ProductVariant.withSku (v : ProductVariant) (sku : Option String) : ProductVariant :=
  { v with sku := sku }

@[simp] theorem owner_withSku (v : ProductVariant) (sku : Option String) :
    (v.withSku sku).owner = v.owner := rfl

theorem mem_keys_withSku {v : ProductVariant} {sku : String} {k : CatalogKey}
    (h : k ∈ (v.withSku (some sku)).keys) : k = .sku sku ∨ k ∈ v.keys := by
  simp only [ProductVariant.keys, ProductVariant.withSku, List.mem_cons, List.mem_append,
    Option.toList_some, List.map_cons, List.map_nil, List.not_mem_nil, or_false] at h ⊢
  tauto

theorem id_mem_keys (v : ProductVariant) : .id v.id ∈ v.keys :=
  List.mem_cons_self

section Holders

variable {db : CatalogDB} {row row' : ProductVariant}

theorem eq_of_owner (h : row ∈ db.variants.rows) (h' : row' ∈ db.variants.rows)
    (howner : row.owner = row'.owner) : row = row' :=
  db.variants.eq_of_shared_key h h' (key_mem_keys row) (howner ▸ key_mem_keys row')

theorem eq_of_id (h : row ∈ db.variants.rows) (h' : row' ∈ db.variants.rows)
    (hid : row.id = row'.id) : row = row' :=
  db.variants.eq_of_shared_key h h' (id_mem_keys row) (hid ▸ id_mem_keys row')

theorem eq_of_sku {sku : String} (h : row ∈ db.variants.rows) (h' : row' ∈ db.variants.rows)
    (hsku : row.sku = some sku) (hsku' : row'.sku = some sku) : row = row' :=
  db.variants.eq_of_shared_key h h' (sku_mem_keys.mpr hsku) (sku_mem_keys.mpr hsku')

/-- The SKU that an owner's row has. -/
def held (db : CatalogDB) (owner : Owner) : Option String :=
  (db.variants.find? fun row => decide (row.owner = owner)).bind (·.sku)

theorem held_owner (h : row ∈ db.variants.rows) : held db row.owner = row.sku := by
  rw [held, db.variants.find?_eq_some_of_mem (k := row.owner.key) h (by simp) fun row' h' => ?_]
  · rfl
  · rw [← of_decide_eq_true h']
    exact key_mem_keys row'

theorem held_eq_some {owner : Owner} {sku : String} :
    held db owner = some sku ↔
      ∃ row ∈ db.variants.rows, row.owner = owner ∧ row.sku = some sku := by
  constructor
  · intro h
    obtain ⟨row, hfind, hsku⟩ := Option.bind_eq_some_iff.mp h
    exact ⟨row, Table.mem_of_find?_eq_some hfind, of_decide_eq_true (List.find?_some hfind :), hsku⟩
  · intro h
    obtain ⟨row, hrow, rfl, hsku⟩ := h
    rw [held_owner hrow, hsku]

/-- A SKU has one holder. -/
theorem heldOnce (db : CatalogDB) : Names.HeldOnce (held db) := by
  intro owner owner' sku h h'
  obtain ⟨row, hrow, rfl, hsku⟩ := held_eq_some.mp h
  obtain ⟨row', hrow', rfl, hsku'⟩ := held_eq_some.mp h'
  rw [eq_of_sku hrow hrow' hsku hsku']

end Holders

/-- The rows are known by who holds which SKU and by what they hold otherwise. -/
theorem variants_eq_of_held {db db' : CatalogDB} (herased : db'.variants.rows.map (·.withSku none) =
    db.variants.rows.map (·.withSku none)) (hheld : held db' = held db) :
    db'.variants = db.variants := by
  have hrows (db : CatalogDB) : db.variants.rows =
      (db.variants.rows.map (·.withSku none)).map fun row => row.withSku (held db row.owner) := by
    rw [List.map_map]
    refine (List.map_id _).symm.trans (List.map_congr_left fun row hrow => ?_)
    show row = (row.withSku none).withSku (held db (row.withSku none).owner)
    rw [owner_withSku, held_owner hrow]
    rfl
  refine Table.ext ?_
  rw [hrows db', hrows db, herased, hheld]

/-- The fallback of an owner. -/
def fallbackOf : Owner → String → String
  | .inl (_, externalId), sku => fallbackSku sku externalId
  | .inr _, sku => fallbackSku sku ""

theorem length_fallbackSku (sku externalId : String) :
    sku.length < (fallbackSku sku externalId).length := by
  rw [fallbackSku, String.length_append, String.length_append]
  show sku.length < sku.length + 9 + externalId.length
  omega

theorem fallbackOf_ne (owner : Owner) (sku : String) : fallbackOf owner sku ≠ sku := by
  have hne (externalId : String) : fallbackSku sku externalId ≠ sku := by
    intro h
    have hlength := length_fallbackSku sku externalId
    rw [h] at hlength
    exact lt_irrefl _ hlength
  cases owner with
  | inl key => exact hne _
  | inr id => exact hne _

/-! ## Section 2: One variant -/

section Written

variable {newId productId : UUID} {source : SourceSystem} {v : VariantPayload}
  {db db' : CatalogDB}

theorem assign_columns (columns : Columns) (fields : Dict) :
    (columns.assign fields).assign fields = columns.assign fields := by
  funext name
  cases h : fields.lookup name with
  | none => simp [Columns.assign, h]
  | some value => simp [Columns.assign, h]

theorem assign_assign (fields : VariantFields) (row : ProductVariant) :
    fields.assign (fields.assign row) = fields.assign row := by
  rw [VariantFields.assign, VariantFields.assign]
  simp only [assign_columns]

/-- The SKU of a variant is granted as a name is. -/
theorem skuFor_eq {sku : String} (hsku : v.sku = some sku) (db : CatalogDB) :
    skuFor source v db =
      some (Names.awarded fallbackOf (held db) (.inl (source, v.externalId), sku)) := by
  rw [skuFor, hsku, Option.map_some]
  refine congrArg some ?_
  rcases Names.awarded_cases fallbackOf (held db) (.inl (source, v.externalId), sku) with
    ⟨hawarded, hfree⟩ | ⟨hawarded, owner, hne, hheld⟩
  · rw [hawarded]
    split
    · rfl
    · rename_i existing hfind
      have hexisting : existing.sku = some sku := by simpa using List.find?_some hfind
      have howner := hfree existing.owner
        (held_eq_some.mpr ⟨existing, Table.mem_of_find?_eq_some hfind, rfl, hexisting⟩)
      rw [if_pos (isOf_iff.mpr howner)]
  · -- another row has the SKU, and no row of the variant has it then
    obtain ⟨row, hrow, rfl, hrowsku⟩ := held_eq_some.mp hheld
    have hfind := db.variants.find?_eq_some_of_mem (p := fun row => row.sku == some sku)
      (k := .sku sku) hrow (by simp [hrowsku]) fun row' h' => sku_mem_keys.mpr (by simpa using h')
    rw [hawarded, hfind]
    have hnot : ¬ row.isOf source v.externalId = true := fun hof => hne (isOf_iff.mp hof)
    exact if_neg hnot

variable [CatalogColumns]

/-- What a write of a variant leaves. -/
structure IsWritten (db db' : CatalogDB) (source : SourceSystem) (productId : UUID)
    (v : VariantPayload) : Prop where
  row : ∃ row ∈ db'.variants.rows, row.owner = .inl (source, v.externalId) ∧
    (v.fields productId row.sku).assign row = row ∧ row.refusal = none ∧
    row.sku = skuFor source v db
  others : ∀ row : ProductVariant, row.owner ≠ .inl (source, v.externalId) →
    (row ∈ db'.variants.rows ↔ row ∈ db.variants.rows)
  products : db'.products = db.products

theorem isWritten_of_ok (h : variantWritten newId source productId v db = .ok db') :
    IsWritten db db' source productId v := by
  let fields := v.fields productId (skuFor source v db)
  -- the row that a write of these fields leaves
  have hassigned (row : ProductVariant) : (v.fields productId (fields.assign row).sku).assign
      (fields.assign row) = fields.assign row := assign_assign fields row
  cases hfind : variants.find db source v.externalId with
  | some existing =>
    have hmem := Table.mem_of_find?_eq_some hfind
    have howner : existing.owner = .inl (source, v.externalId) :=
      isOf_iff.mp (List.find?_some hfind)
    obtain ⟨hrefusal, table, htable, rfl⟩ : (fields.assign existing).refusal = none ∧
        ∃ table, db.variants.update? (fun row => row.id == existing.id) fields.assign = some table ∧
          { db with variants := table } = db' :=
      accepted_bind_eq_ok.mp ((upserted_of_some hfind).symm.trans h)
    have hrows := Table.rows_of_update? htable
    refine ⟨⟨fields.assign existing, ?_, howner, hassigned existing, hrefusal, rfl⟩, ?_, rfl⟩
    · show _ ∈ table.rows
      rw [hrows]
      exact List.mem_map.mpr ⟨existing, hmem, by simp⟩
    · intro row hne
      show row ∈ table.rows ↔ _
      rw [hrows, List.mem_map]
      constructor
      · intro hrow
        obtain ⟨row', hrow', rfl⟩ := hrow
        by_cases hid : row'.id = existing.id
        · rw [if_pos (by simpa using hid), eq_of_id hrow' hmem hid] at hne
          exact absurd howner hne
        · rwa [if_neg (by simpa using hid)]
      · intro hrow
        refine ⟨row, hrow, if_neg fun hid => hne ?_⟩
        rw [eq_of_id hrow hmem (by simpa using hid), howner]
  | none =>
    let row := variants.model newId source v.externalId fields
    obtain ⟨hrefusal, table, htable, rfl⟩ : row.refusal = none ∧
        ∃ table, db.variants.insert? row = some table ∧ { db with variants := table } = db' :=
      accepted_bind_eq_ok.mp ((upserted_of_none hfind).symm.trans h)
    have hrows := Table.rows_of_insert? htable
    refine ⟨⟨row, ?_, rfl, hassigned _, hrefusal, rfl⟩, ?_, rfl⟩
    · show _ ∈ table.rows
      rw [hrows]
      exact List.mem_append_right _ List.mem_cons_self
    · intro row' hne
      show row' ∈ table.rows ↔ _
      rw [hrows, List.mem_append, List.mem_singleton]
      refine or_iff_left fun heq => hne ?_
      rw [heq]
      rfl

/-- The request for a SKU that a variant of the payload makes. -/
def VariantPayload.request (source : SourceSystem) (v : VariantPayload) : Owner × String :=
  (.inl (source, v.externalId), v.sku.getD "")

/-- A write grants what the variant asks for. -/
theorem IsWritten.held (h : IsWritten db db' source productId v) {sku : String}
    (hsku : v.sku = some sku) :
    held db' = Names.grant fallbackOf (held db) (v.request source) := by
  obtain ⟨row, hrow, howner, -, -, hgranted⟩ := h.row
  rw [skuFor_eq hsku] at hgranted
  have hrequest : v.request source = (.inl (source, v.externalId), sku) := by
    rw [VariantPayload.request, hsku]
    rfl
  rw [hrequest]
  funext owner
  by_cases hown : owner = .inl (source, v.externalId)
  · rw [hown, ← howner, held_owner hrow, hgranted, howner]
    exact (Names.grant_self _ _).symm
  · rw [Names.grant_of_ne _ hown]
    -- the rows of the others are the same
    refine Option.ext fun name => ?_
    rw [held_eq_some, held_eq_some]
    refine exists_congr fun row' => ?_
    constructor
    · intro hrow'
      obtain ⟨hmem, rfl, hname⟩ := hrow'
      exact ⟨(h.others row' hown).mp hmem, rfl, hname⟩
    · intro hrow'
      obtain ⟨hmem, rfl, hname⟩ := hrow'
      exact ⟨(h.others row' hown).mpr hmem, rfl, hname⟩

/-- Where a variant of the payload stands after a call: its row holds what the payload assigns,
with its SKU or its fallback. -/
structure Holds (db : CatalogDB) (source : SourceSystem) (productId : UUID) (v : VariantPayload)
    (row : ProductVariant) : Prop where
  mem : row ∈ db.variants.rows
  owner : row.owner = .inl (source, v.externalId)
  assigned : (v.fields productId row.sku).assign row = row
  accepted : row.refusal = none
  sku : ∃ sku, v.sku = some sku ∧
    (row.sku = some sku ∨ row.sku = some (fallbackSku sku v.externalId))

theorem IsWritten.exists_holds (h : IsWritten db db' source productId v) :
    ∃ row, Holds db' source productId v row := by
  obtain ⟨row, hrow, howner, hassigned, haccepted, hgranted⟩ := h.row
  refine ⟨row, hrow, howner, hassigned, haccepted, ?_⟩
  cases hsku : v.sku with
  | none =>
    -- a row without a SKU is refused
    rw [skuFor, hsku, Option.map_none] at hgranted
    rw [ProductVariant.refusal, hgranted] at haccepted
    cases haccepted
  | some sku =>
    refine ⟨sku, rfl, ?_⟩
    rw [hgranted, skuFor_eq hsku]
    rcases Names.awarded_cases fallbackOf (Products.held db) (.inl (source, v.externalId), sku) with
      ⟨hawarded, -⟩ | ⟨hawarded, -⟩
    · exact .inl (congrArg some hawarded)
    · exact .inr (congrArg some hawarded)

/-- A later write of another variant leaves it there. -/
theorem Holds.others {row : ProductVariant} {v' : VariantPayload}
    (h : Holds db source productId v row) (hwritten : IsWritten db db' source productId v')
    (hne : v.externalId ≠ v'.externalId) : Holds db' source productId v row where
  mem := by
    refine (hwritten.others row ?_).mpr h.mem
    rw [h.owner]
    simpa using hne
  owner := h.owner
  assigned := h.assigned
  accepted := h.accepted
  sku := h.sku

/-- What is granted when the payload is written again: the SKU, if nobody else has it, or what the
row has already. -/
theorem Holds.granted {row : ProductVariant} (h : Holds db source productId v row) :
    ∃ granted, skuFor source v db = some granted ∧ (row.withSku (some granted)).refusal = none ∧
      ∀ row' ∈ db.variants.rows, row'.sku = some granted → row' = row := by
  obtain ⟨sku, hsku, hrowsku⟩ := h.sku
  obtain ⟨current, hcurrent, hlength, hrefuses⟩ : ∃ current, row.sku = some current ∧
      current.length ≤ 120 ∧
      CatalogColumns.refusesVariant row.shopifyVariantId row.columns = none := by
    have haccepted := h.accepted
    rw [ProductVariant.refusal] at haccepted
    split at haccepted
    · cases haccepted
    · rename_i current hcurrent
      split at haccepted
      · cases haccepted
      · exact ⟨current, hcurrent, by omega, haccepted⟩
  have hrefusal (granted : String) (hle : granted.length ≤ 120) :
      (row.withSku (some granted)).refusal = none := by
    show (if 120 < granted.length then _ else _) = none
    rw [if_neg (by omega)]
    exact hrefuses
  refine ⟨_, skuFor_eq hsku db, ?_⟩
  rcases Names.awarded_cases fallbackOf (Products.held db) (.inl (source, v.externalId), sku) with
    ⟨hawarded, hfree⟩ | ⟨hawarded, owner, hne, hheld⟩
  · rw [hawarded]
    refine ⟨hrefusal sku ?_, fun row' hrow' hsku' => ?_⟩
    · rcases hrowsku with hown | hown
      · rw [hcurrent] at hown
        cases hown
        exact hlength
      · rw [hcurrent] at hown
        cases hown
        have := length_fallbackSku sku v.externalId
        omega
    · have howner := hfree row'.owner (held_eq_some.mpr ⟨row', hrow', rfl, hsku'⟩)
      exact eq_of_owner hrow' h.mem (howner.trans h.owner.symm)
  · -- with the SKU at another row, this one has the fallback
    have hown : row.sku = some (fallbackSku sku v.externalId) := by
      refine hrowsku.resolve_left fun hown => hne ?_
      exact heldOnce db _ _ _ hheld (held_eq_some.mpr ⟨row, h.mem, h.owner, hown⟩)
    rw [hawarded]
    refine ⟨hrefusal _ ?_, fun row' hrow' hsku' => eq_of_sku hrow' h.mem hsku' hown⟩
    rw [hcurrent] at hown
    cases hown
    exact hlength

/-- Written again, the row may get another SKU, and nothing else changes. -/
theorem Holds.written_again {row : ProductVariant} (h : Holds db source productId v row)
    (newId : UUID) : ∃ db', variantWritten newId source productId v db = .ok db' ∧
      db'.variants.rows.map (·.withSku none) = db.variants.rows.map (·.withSku none) := by
  obtain ⟨granted, hgranted, hrefusal, honly⟩ := h.granted
  have hfind : variants.find db source v.externalId = some row :=
    db.variants.find?_eq_some_of_mem (k := .external (source, v.externalId)) h.mem
      (isOf_iff.mpr h.owner) fun row' hof => by
        have hkey := key_mem_keys row'
        rw [isOf_iff.mp hof] at hkey
        exact hkey
  have hassign : (v.fields productId (some granted)).assign row = row.withSku (some granted) := by
    calc (v.fields productId (some granted)).assign row
        = ((v.fields productId row.sku).assign row).withSku (some granted) := rfl
      _ = row.withSku (some granted) := by rw [h.assigned]
  have hrow : ∀ row' ∈ db.variants.rows, (row'.id == row.id) = true → row' = row :=
    fun row' hrow' hid => eq_of_id hrow' h.mem (by simpa using hid)
  obtain ⟨table, htable⟩ := db.variants.exists_update?
    (f := (v.fields productId (some granted)).assign) hrow
    (List.ne_nil_of_mem (id_mem_keys row)) (by rw [hassign]; exact nodup_keys _)
    fun k hk row' hrow' hk' => by
      rw [hassign] at hk
      rcases mem_keys_withSku hk with rfl | hk
      · exact honly row' hrow' (sku_mem_keys.mp hk')
      · exact db.variants.eq_of_shared_key hrow' h.mem hk' hk
  refine ⟨{ db with variants := table }, ?_, ?_⟩
  · rw [variantWritten, upserted_of_some hfind, hgranted]
    refine accepted_bind_eq_ok.mpr ⟨?_, table, htable, rfl⟩
    rw [hassign]
    exact hrefusal
  · show table.rows.map _ = _
    rw [Table.rows_of_update? htable, List.map_map]
    refine List.map_congr_left fun row' hrow' => ?_
    by_cases hid : (row'.id == row.id) = true
    · rw [Function.comp, if_pos hid, hrow row' hrow' hid, hassign]
      rfl
    · rw [Function.comp, if_neg hid]

end Written

/-! ## Section 3: All variants -/

section Runs

variable [CatalogColumns] {newIds : ℕ → UUID} {productId : UUID} {source : SourceSystem}
  {db db' : CatalogDB}

theorem variantsWritten_cons {n : ℕ} {v : VariantPayload} {vs : List VariantPayload}
    (h : variantsWritten newIds source productId n (v :: vs) db = .ok db') :
    ∃ db₁, IsWritten db db₁ source productId v ∧
      variantsWritten newIds source productId (n + 1) vs db₁ = .ok db' := by
  rw [variantsWritten] at h
  cases hwritten : variantWritten (newIds n) source productId v db with
  | error e =>
    rw [hwritten] at h
    cases h
  | ok db₁ =>
    rw [hwritten] at h
    exact ⟨db₁, isWritten_of_ok hwritten, h⟩

theorem Holds.others_run {v : VariantPayload} {row : ProductVariant} {vs : List VariantPayload}
    {n : ℕ} (h : Holds db source productId v row)
    (hwritten : variantsWritten newIds source productId n vs db = .ok db')
    (hne : v.externalId ∉ vs.map (·.externalId)) : Holds db' source productId v row := by
  induction vs generalizing n db with
  | nil =>
    cases hwritten
    exact h
  | cons v' vs ih =>
    rw [List.map_cons, List.mem_cons, not_or] at hne
    obtain ⟨db₁, hfirst, hrest⟩ := variantsWritten_cons hwritten
    exact ih (h.others hfirst hne.1) hrest hne.2

/-- What the loop over the variants leaves when it returns. -/
theorem held_variantsWritten {vs : List VariantPayload} {n : ℕ}
    (hwritten : variantsWritten newIds source productId n vs db = .ok db')
    (hnodup : (vs.map (·.externalId)).Nodup) :
    held db' = run (Names.grant fallbackOf) (held db) (vs.map (·.request source)) ∧
      db'.products = db.products ∧ ∀ v ∈ vs, ∃ row, Holds db' source productId v row := by
  induction vs generalizing n db with
  | nil =>
    cases hwritten
    exact ⟨rfl, rfl, by simp⟩
  | cons v vs ih =>
    rw [List.map_cons, List.nodup_cons] at hnodup
    obtain ⟨db₁, hfirst, hrest⟩ := variantsWritten_cons hwritten
    obtain ⟨hheld, hproducts, hholds⟩ := ih hrest hnodup.2
    obtain ⟨row, hrow⟩ := hfirst.exists_holds
    obtain ⟨sku, hsku, -⟩ := hrow.sku
    refine ⟨?_, hproducts.trans hfirst.products, fun v' hv' => ?_⟩
    · rw [hheld, hfirst.held hsku]
      rfl
    · rcases List.mem_cons.mp hv' with rfl | hv'
      · exact ⟨row, hrow.others_run hrest hnodup.1⟩
      · exact hholds v' hv'

/-- Gone through again, the loop returns, and changes no more than SKUs. -/
theorem variantsWritten_again (newIds : ℕ → UUID) {vs : List VariantPayload} (n : ℕ)
    (h : ∀ v ∈ vs, ∃ row, Holds db source productId v row)
    (hnodup : (vs.map (·.externalId)).Nodup) :
    ∃ db', variantsWritten newIds source productId n vs db = .ok db' ∧
      db'.variants.rows.map (·.withSku none) = db.variants.rows.map (·.withSku none) := by
  induction vs generalizing n db with
  | nil => exact ⟨db, rfl, rfl⟩
  | cons v vs ih =>
    rw [List.map_cons, List.nodup_cons] at hnodup
    obtain ⟨row, hrow⟩ := h v List.mem_cons_self
    obtain ⟨db₁, hfirst, herased⟩ := hrow.written_again (newIds n)
    have hothers : ∀ v' ∈ vs, ∃ row, Holds db₁ source productId v' row := by
      intro v' hv'
      obtain ⟨row', hrow'⟩ := h v' (List.mem_cons_of_mem _ hv')
      refine ⟨row', hrow'.others (isWritten_of_ok hfirst) fun heq => hnodup.1 ?_⟩
      rw [← heq]
      exact List.mem_map_of_mem hv'
    obtain ⟨db', hrest, herased'⟩ := ih (n + 1) hothers hnodup.2
    refine ⟨db', ?_, herased'.trans herased⟩
    rw [variantsWritten, hfirst]
    exact hrest

end Runs

/-! ## Section 4: The product -/

theorem product_assign_assign (fields : ProductFields) (p : Product) :
    fields.assign (fields.assign p) = fields.assign p := by
  rw [ProductFields.assign, ProductFields.assign]
  simp only [assign_columns]

section ProductRow

variable [CatalogColumns] {newId : UUID} {source : SourceSystem} {externalId : String}
  {fields : ProductFields} {p : Product} {db db' : CatalogDB}

/-- The row of a product once the payload has been written. -/
structure HoldsProduct (db : CatalogDB) (source : SourceSystem) (externalId : String)
    (fields : ProductFields) (p : Product) : Prop where
  mem : p ∈ db.products.rows
  isOf : p.isOf source externalId = true
  assigned : fields.assign p = p
  accepted : p.refusal = none

theorem holdsProduct_of_ok {created : Bool}
    (h : upserted products CatalogWrite.apply newId source externalId fields db =
      .ok ((p, created), db')) :
    HoldsProduct db' source externalId fields p ∧ db'.variants = db.variants := by
  rw [upserted] at h
  split at h
  · rename_i existing hfind
    cases happly : CatalogWrite.apply (products.updateOf existing fields) db with
    | error e =>
      rw [happly] at h
      cases h
    | ok left =>
      rw [happly] at h
      cases h
      obtain ⟨hrefusal, table, htable, rfl⟩ := accepted_bind_eq_ok.mp happly
      have hof : existing.isOf source externalId = true := List.find?_some hfind
      refine ⟨⟨?_, hof, product_assign_assign _ _, hrefusal⟩, rfl⟩
      show _ ∈ table.rows
      rw [Table.rows_of_update? htable]
      exact List.mem_map.mpr ⟨existing, Table.mem_of_find?_eq_some hfind, by simp [products]⟩
  · dsimp only at h
    cases happly : CatalogWrite.apply
        (products.insert (products.model newId source externalId fields)) db with
    | error e =>
      rw [happly] at h
      cases h
    | ok left =>
      rw [happly] at h
      cases h
      obtain ⟨hrefusal, table, htable, rfl⟩ := accepted_bind_eq_ok.mp happly
      refine ⟨⟨?_, by simp [products, Product.isOf, ProductFields.assign],
        product_assign_assign _ _, hrefusal⟩, rfl⟩
      show _ ∈ table.rows
      rw [Table.rows_of_insert? htable]
      exact List.mem_append_right _ List.mem_cons_self

/-- Written again, the product does not change. -/
theorem HoldsProduct.upserted_again (h : HoldsProduct db source externalId fields p)
    (newId : UUID) : upserted products CatalogWrite.apply newId source externalId fields db =
      .ok ((p, false), db) := by
  have hexternal {p : Product} (hof : p.isOf source externalId = true) :
      .external (source, externalId) ∈ p.keys := by
    rw [Product.isOf, Bool.and_eq_true, beq_iff_eq, beq_iff_eq] at hof
    simp [Product.keys, externalKey, hof.1, hof.2]
  have hfind : products.find db source externalId = some p :=
    db.products.find?_eq_some_of_mem h.mem h.isOf fun p' hof => hexternal hof
  have hsame : db.products.update? (fun row => row.id == p.id) fields.assign = some db.products :=
    db.products.update?_eq_self fun row hrow hid => by
      have hrowp : row = p := db.products.eq_of_shared_key (k := .id p.id) hrow h.mem
        (by simp [Product.keys, (beq_iff_eq.mp hid)]) (by simp [Product.keys])
      rw [hrowp, h.assigned]
  have happly : CatalogWrite.apply (products.updateOf p fields) db = .ok db := by
    refine accepted_bind_eq_ok.mpr ⟨?_, db.products, hsame, rfl⟩
    rw [h.assigned]
    exact h.accepted
  rw [upserted, hfind]
  show (CatalogWrite.apply (products.updateOf p fields) db).map _ = _
  rw [happly]
  show Except.ok ((fields.assign p, false), db) = _
  rw [h.assigned]

end ProductRow

/-! ## Section 5: Two calls -/

/-- The SKUs that a payload asks for. -/
def ProductPayload.requests (data : ProductPayload) : List (Owner × String) :=
  data.variants.map (·.request data.sourceSystem)

section Twice

variable [CatalogColumns] {newIds : ℕ → UUID} {data : ProductPayload} {db db' : CatalogDB}

theorem written_eq_ok (h : written newIds data db = .ok db') : ∃ p db₁,
    HoldsProduct db₁ data.sourceSystem data.externalId ⟨data.shopifyProductId, data.columns⟩ p ∧
      db₁.variants = db.variants ∧
      variantsWritten newIds data.sourceSystem p.id 1 data.variants db₁ = .ok db' := by
  rw [written] at h
  cases hproduct : upserted products CatalogWrite.apply (newIds 0) data.sourceSystem
      data.externalId ⟨data.shopifyProductId, data.columns⟩ db with
  | error e =>
    rw [hproduct] at h
    cases h
  | ok done =>
    obtain ⟨⟨p, created⟩, db₁⟩ := done
    rw [hproduct] at h
    obtain ⟨hholds, hvariants⟩ := holdsProduct_of_ok hproduct
    exact ⟨p, db₁, hholds, hvariants, h⟩

/-- The SKUs after a call, and after a second one, which returns as well. -/
theorem written_twice (hnodup : (data.variants.map (·.externalId)).Nodup)
    (h : written newIds data db = .ok db') (newIds' : ℕ → UUID) :
    held db' = run (Names.grant fallbackOf) (held db) data.requests ∧
      ∃ db'', written newIds' data db' = .ok db'' ∧
        held db'' = run (Names.grant fallbackOf) (held db') data.requests ∧
        (held db'' = held db' → db'' = db') := by
  obtain ⟨p, db₁, hproduct, hvariants, hwritten⟩ := written_eq_ok h
  obtain ⟨hheld, hproducts, hholds⟩ := held_variantsWritten hwritten hnodup
  have hproduct' : HoldsProduct db' data.sourceSystem data.externalId
      ⟨data.shopifyProductId, data.columns⟩ p :=
    ⟨hproducts ▸ hproduct.mem, hproduct.isOf, hproduct.assigned, hproduct.accepted⟩
  obtain ⟨db'', hagain, herased⟩ := variantsWritten_again newIds' 1 hholds hnodup
  obtain ⟨hheld', hproducts', -⟩ := held_variantsWritten hagain hnodup
  have hstart : held db₁ = held db := by
    funext owner
    rw [held, held, hvariants]
  refine ⟨hheld.trans (by rw [hstart]; rfl), db'', ?_, hheld', fun hsame => ?_⟩
  · rw [written, hproduct'.upserted_again (newIds' 0)]
    exact hagain
  · have hsame' := variants_eq_of_held herased hsame
    cases db' with
    | mk products variants =>
      cases db'' with
      | mk products' variants' =>
        cases hproducts'
        cases hsame'
        rfl

end Twice

/-- No variant is listed twice, and a SKU that is asked for is not at a variant that is listed after
the last one that asks for it. -/
structure ProductPayload.Settled (data : ProductPayload) (db : CatalogDB) : Prop where
  distinct : (data.variants.map (·.externalId)).Nodup
  passed : ∀ pre v post sku, data.variants = pre ++ v :: post → v.sku = some sku →
    (∀ w ∈ post, w.sku ≠ some sku) → ∀ w ∈ post, ∀ row ∈ db.variants.rows,
      row.isOf data.sourceSystem w.externalId = true → row.sku ≠ some sku

/-- No SKU that is asked for is the fallback of another that is. -/
def ProductPayload.PlainSkus (data : ProductPayload) : Prop :=
  ∀ v ∈ data.variants, ∀ w ∈ data.variants, ∀ sku sku', v.sku = some sku → w.sku = some sku' →
    fallbackSku sku v.externalId ≠ sku'

section Requests

variable {data : ProductPayload} {db : CatalogDB}

theorem nodup_requests (h : (data.variants.map (·.externalId)).Nodup) :
    (data.requests.map (·.1)).Nodup := by
  have hmap : data.requests.map (·.1) =
      (data.variants.map (·.externalId)).map fun e => Sum.inl (data.sourceSystem, e) := by
    rw [ProductPayload.requests, List.map_map, List.map_map]
    rfl
  rw [hmap]
  exact h.map fun e e' heq => by simpa using heq

theorem held_ne_some {externalId sku : String} :
    held db (.inl (data.sourceSystem, externalId)) ≠ some sku ↔
      ∀ row ∈ db.variants.rows, row.isOf data.sourceSystem externalId = true →
        row.sku ≠ some sku := by
  rw [Ne, held_eq_some]
  push Not
  exact forall_congr' fun row => forall_congr' fun _ => imp_congr_left isOf_iff.symm

/-- The two ways of saying that the requests are settled. -/
theorem settled_iff (hdistinct : (data.variants.map (·.externalId)).Nodup)
    (hskus : ∀ v ∈ data.variants, ∃ sku, v.sku = some sku) :
    data.Settled db ↔ Names.Settled (held db) data.requests := by
  have hname {v : VariantPayload} (hv : v ∈ data.variants) {sku : String} :
      (v.request data.sourceSystem).2 = sku ↔ v.sku = some sku := by
    obtain ⟨sku', hsku'⟩ := hskus v hv
    simp [VariantPayload.request, hsku']
  constructor
  · intro h pre c post hsplit hlast d hd
    obtain ⟨pre', rest, hvariants, rfl, hrest⟩ := List.map_eq_append_iff.mp hsplit
    obtain ⟨v, post', rfl, rfl, rfl⟩ := List.map_eq_cons_iff.mp hrest
    have hv : v ∈ data.variants := by simp [hvariants]
    have hmem : ∀ w ∈ post', w ∈ data.variants := fun w hw => by simp [hvariants, hw]
    obtain ⟨w, hw, rfl⟩ := List.mem_map.mp hd
    refine held_ne_some.mpr (h.passed pre' v post' _ hvariants ((hname hv).mp rfl) ?_ w hw)
    intro w' hw' hsku
    exact hlast _ (List.mem_map_of_mem hw') ((hname (hmem w' hw')).mpr hsku)
  · intro h
    refine ⟨hdistinct, fun pre v post sku hvariants hsku hlast w hw => ?_⟩
    have hv : v ∈ data.variants := by simp [hvariants]
    have hmem : ∀ w ∈ post, w ∈ data.variants := fun w hw => by simp [hvariants, hw]
    refine held_ne_some.mp ?_
    rw [← (hname hv).mpr hsku]
    refine h (pre.map (·.request data.sourceSystem)) _ (post.map (·.request data.sourceSystem)) ?_
      (fun d hd => ?_) (w.request data.sourceSystem) (List.mem_map_of_mem hw)
    · rw [ProductPayload.requests, hvariants, List.map_append, List.map_cons]
    · obtain ⟨w', hw', rfl⟩ := List.mem_map.mp hd
      rw [(hname hv).mpr hsku]
      exact fun hsame => hlast w' hw' ((hname (hmem w' hw')).mp hsame)

end Requests

section Calls

variable [CatalogColumns]

/-- A second call with the payload leaves what the first one has left, and in that no two variants
have the same SKU. -/
def UpsertsOnce (newIds : CatalogDB → ℕ → UUID) (data : ProductPayload) (db : CatalogDB) : Prop :=
  stored newIds data (stored newIds data db) = stored newIds data db ∧
    ∀ row ∈ (stored newIds data db).variants.rows, ∀ row' ∈ (stored newIds data db).variants.rows,
      ∀ sku, row.sku = some sku → row'.sku = some sku → row = row'

/-- When a call returns, a second one changes nothing exactly when every SKU that is asked for has a
holder after the first. -/
theorem stored_twice_iff {newIds : CatalogDB → ℕ → UUID} {data : ProductPayload} {db : CatalogDB}
    (hdistinct : (data.variants.map (·.externalId)).Nodup) (hreturns : Returns newIds data db) :
    stored newIds data (stored newIds data db) = stored newIds data db ↔
      Names.AllHeld (run (Names.grant fallbackOf) (held db) data.requests) data.requests := by
  obtain ⟨db', hwritten⟩ := (returns_iff newIds data db).mp hreturns
  have hfirst : stored newIds data db = db' := by
    rw [stored_eq, hwritten]
    rfl
  obtain ⟨hheld, db'', hagain, hheld', hsame⟩ := written_twice hdistinct hwritten (newIds db')
  have hsecond : stored newIds data db' = db'' := by
    rw [stored_eq, hagain]
    rfl
  have honce := heldOnce db'
  rw [hheld] at honce hheld' hsame
  rw [hfirst, hsecond,
    ← Names.run_grant_again_iff fallbackOf_ne (nodup_requests hdistinct) honce, ← hheld']
  constructor
  · intro heq
    rw [heq, hheld]
  · exact hsame

theorem skus_of_returns {newIds : CatalogDB → ℕ → UUID} {data : ProductPayload} {db : CatalogDB}
    (hdistinct : (data.variants.map (·.externalId)).Nodup) (hreturns : Returns newIds data db) :
    ∀ v ∈ data.variants, ∃ sku, v.sku = some sku := by
  intro v hv
  obtain ⟨db', hwritten⟩ := (returns_iff newIds data db).mp hreturns
  obtain ⟨p, db₁, -, -, hvariants⟩ := written_eq_ok hwritten
  obtain ⟨-, -, hholds⟩ := held_variantsWritten hvariants hdistinct
  obtain ⟨row, hrow⟩ := hholds v hv
  obtain ⟨sku, hsku, -⟩ := hrow.sku
  exact ⟨sku, hsku⟩

end Calls

/-- Columns without defaults, and without constraints. -/
instance : CatalogColumns where
  productDefaults _ := .null
  variantDefaults _ := .null
  refusesProduct _ _ := none
  refusesVariant _ _ := none

/-- A variant as it is stored. -/
def storedVariant (id : UUID) (externalId sku : String) : ProductVariant where
  id := id
  productId := 1
  shopifyVariantId := some externalId
  sku := some sku
  sourceSystem := some .shopify
  externalId := some externalId
  columns _ := .null

/-- A product with the variants `V1` and `V2`. -/
def twoVariants : CatalogDB where
  products := Table.ofList [{
    id := 1
    shopifyProductId := some "P1"
    sourceSystem := some .shopify
    externalId := some "P1"
    columns := fun _ => .null }] (by decide)
  variants := Table.ofList [storedVariant 2 "V1" "A", storedVariant 3 "V2" "B"] (by decide)

/-- A payload of the product, with SKUs for its variants. -/
def twoVariantsPayload (sku₁ sku₂ : String) : ProductPayload where
  sourceSystem := .shopify
  externalId := "P1"
  shopifyProductId := some "P1"
  columns := []
  variants := [⟨"V1", some sku₁, some "V1", []⟩, ⟨"V2", some sku₂, some "V2", []⟩]

end AyushOms.Products
