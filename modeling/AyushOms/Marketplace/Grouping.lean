import AyushOms.Marketplace.Effects
import Mathlib.Data.Prod.Lex
import Mathlib.Data.String.Basic

/-!
# The OMS-Visible Variants of a Product

`get_oms_variants_for_product` buckets the variants of a product by the catalogue variant they are
linked to, pops the bucket of each listed catalogue variant, and gives every variant left over a
group of its own. Each bucket is popped once and what is not popped is left over, so nothing is
lost or counted twice, whatever the links are. `get_product_total` adds up the same rows without
the groups.

## Main results

- `catalogGroups_eq`: the group of a catalogue variant is the variants linked to it
- `omsVariantGroups_variants_perm`: every variant is in one group
- `oms_variants_partition`: the groups and the product's total
-/

namespace AyushOms.Marketplace

open AyushOms.Lib AyushOms.Inventory

/-! ## Section 1: The groups of the catalogue variants -/

/-- The group of a catalogue variant, with its members. -/
def groupOf (cv : CatalogVariant) (members : List CatalogueVariant) : OmsVariantGroup where
  catalogVariantId := some cv.id
  name := cv.name
  displayOrder := cv.displayOrder
  isActive := cv.isActive
  variants := members

theorem catalogGroups_cons (cv : CatalogVariant) (rest : List CatalogVariant) (members : Members) :
    catalogGroups (cv :: rest) members =
      (groupOf cv (members.bucket (some cv.id)) ::
        (catalogGroups rest (members.without (some cv.id))).1,
        (catalogGroups rest (members.without (some cv.id))).2) := rfl

/-- Popping loses no member and doubles none. -/
theorem catalogGroups_variants_perm (catalog : List CatalogVariant) (members : Members) :
    ((catalogGroups catalog members).1.flatMap (·.variants) ++
      (catalogGroups catalog members).2.values).Perm members.values := by
  induction catalog generalizing members with
  | nil => exact List.Perm.refl _
  | cons cv rest ih =>
    rw [catalogGroups_cons, List.flatMap_cons, List.append_assoc]
    exact ((ih _).append_left _).trans (members.bucket_append_values_without (some cv.id))

/-- As ids are unique, the members of a group are the bucket of its id. -/
theorem catalogGroups_eq {catalog : List CatalogVariant} (hids : (catalog.map (·.id)).Nodup)
    (members : Members) :
    (catalogGroups catalog members).1 =
      catalog.map fun cv => groupOf cv (members.bucket (some cv.id)) := by
  induction catalog generalizing members with
  | nil => rfl
  | cons cv rest ih =>
    obtain ⟨hnew, hrest⟩ := List.nodup_cons.mp hids
    rw [catalogGroups_cons, ih hrest, List.map_cons]
    refine congrArg (groupOf cv (members.bucket (some cv.id)) :: ·)
      (List.map_congr_left fun cv' hcv' => ?_)
    -- the bucket popped first is another one's
    have hne : some cv'.id ≠ some cv.id := by
      intro hid
      exact hnew (List.mem_map.mpr ⟨cv', hcv', Option.some.inj hid⟩)
    rw [Buckets.bucket_without_of_ne hne]

/-- What is left over are the variants that no listed catalogue variant claims. -/
theorem catalogGroups_left {members : Members}
    (h : Buckets.Keyed (·.catalogVariantId) members) (catalog : List CatalogVariant) :
    (catalogGroups catalog members).2.values =
      members.values.filter fun v => ∀ cv ∈ catalog, v.catalogVariantId ≠ some cv.id := by
  induction catalog generalizing members with
  | nil => simp [catalogGroups]
  | cons cv rest ih =>
    rw [catalogGroups_cons, ih (h.without _), h.values_without, List.filter_filter]
    exact List.filter_congr fun v _ => by simp [Bool.and_comm]

/-! ## Section 2: All the groups -/

theorem omsVariantGroup_le_iff [PyText] {a b : OmsVariantGroup} :
    a.le b ↔ toLex (a.displayOrder, PyText.lower a.name) ≤
      toLex (b.displayOrder, PyText.lower b.name) := by
  rw [Prod.Lex.toLex_le_toLex, OmsVariantGroup.le, not_lt]

instance [PyText] : Std.Total OmsVariantGroup.le where
  total a b := by
    rw [omsVariantGroup_le_iff, omsVariantGroup_le_iff]
    exact le_total _ _

instance [PyText] : IsTrans OmsVariantGroup OmsVariantGroup.le where
  trans a b c := by
    rw [omsVariantGroup_le_iff, omsVariantGroup_le_iff, omsVariantGroup_le_iff]
    exact le_trans

/-- The implicit groups hold the variants left over, one each. -/
theorem implicitGroups_variants (leftover : List CatalogueVariant) :
    (leftover.zipIdx.map implicitGroup).flatMap (·.variants) = leftover := by
  rw [List.flatMap_map]
  calc leftover.zipIdx.flatMap (fun entry => [entry.1])
      = leftover.zipIdx.map Prod.fst := List.flatMap_pure_eq_map ..
    _ = leftover := List.zipIdx_map_fst ..

/-- The groups that a product's variants and its catalogue variants come to. -/
structure OmsVariants [PyText] (variants : List CatalogueVariant) (catalog : List CatalogVariant)
    (groups : List OmsVariantGroup) : Prop where
  /-- Every variant is in one group. -/
  variants_perm : (groups.flatMap (·.variants)).Perm variants
  /-- Every catalogue variant has one group, under its own name and order. -/
  catalog_perm : ((groups.filter (·.catalogVariantId.isSome)).map
    fun g => { g with variants := [] }).Perm (catalog.map fun cv => groupOf cv [])
  /-- The group of a catalogue variant holds the variants linked to it. -/
  linked : ∀ g ∈ groups, ∀ id ∈ g.catalogVariantId,
    g.variants = variants.filter fun v => v.catalogVariantId = some id
  /-- Another group holds a single variant that no listed catalogue variant claims. -/
  unlinked : ∀ g ∈ groups, g.catalogVariantId = none → ∃ v ∈ variants, g.variants = [v] ∧
    g.name = v.displayName ∧ ∀ cv ∈ catalog, v.catalogVariantId ≠ some cv.id
  /-- They come by display order and lowercased name. -/
  sorted : groups.Pairwise OmsVariantGroup.le

/-- The catalogue variant of a group is a listed one. -/
theorem OmsVariants.listed [PyText] {variants : List CatalogueVariant}
    {catalog : List CatalogVariant} {groups : List OmsVariantGroup}
    (h : OmsVariants variants catalog groups) {g : OmsVariantGroup} (hg : g ∈ groups) {id : UUID}
    (hid : g.catalogVariantId = some id) : ∃ cv ∈ catalog, cv.id = id := by
  have hheader : { g with variants := [] } ∈ (groups.filter (·.catalogVariantId.isSome)).map
      fun g => { g with variants := [] } :=
    List.mem_map_of_mem (List.mem_filter.mpr ⟨hg, by rw [hid]; rfl⟩)
  obtain ⟨cv, hcv, hsame⟩ := List.mem_map.mp (h.catalog_perm.mem_iff.mp hheader)
  have hids : some cv.id = g.catalogVariantId := congrArg (·.catalogVariantId) hsame
  exact ⟨cv, hcv, Option.some.inj (hids.trans hid)⟩

/-- The groups, but for their order: those of the catalogue variants, and those of the variants
left over. -/
theorem omsVariantGroups_perm [PyText] (variants : List CatalogueVariant)
    {catalog : List CatalogVariant} (hids : (catalog.map (·.id)).Nodup) :
    ∃ leftover : List CatalogueVariant, leftover.Perm
        (variants.filter fun v => ∀ cv ∈ catalog, v.catalogVariantId ≠ some cv.id) ∧
      (omsVariantGroups variants catalog).Perm
        ((catalog.map fun cv =>
            groupOf cv (variants.filter fun v => v.catalogVariantId = some cv.id)) ++
          leftover.zipIdx.map implicitGroup) := by
  have hkeyed := Buckets.keyed_bucketBy (·.catalogVariantId) variants
  have hvalues := Buckets.values_bucketBy_perm (·.catalogVariantId) variants
  have hgroups := catalogGroups_eq hids (Buckets.bucketBy (·.catalogVariantId) variants)
  simp only [Buckets.bucket_bucketBy] at hgroups
  refine ⟨(catalogGroups catalog
    (Buckets.bucketBy (·.catalogVariantId) variants)).2.values.insertionSort
      CatalogueVariant.nameLe, ?_, ?_⟩
  · refine (List.perm_insertionSort _ _).trans ?_
    rw [catalogGroups_left hkeyed]
    exact hvalues.filter _
  · rw [← hgroups]
    exact List.perm_insertionSort _ _

/-- Every variant is in one group. -/
theorem omsVariantGroups_variants_perm [PyText] (variants : List CatalogueVariant)
    (catalog : List CatalogVariant) :
    ((omsVariantGroups variants catalog).flatMap (·.variants)).Perm variants := by
  have hvalues := Buckets.values_bucketBy_perm (·.catalogVariantId) variants
  have hpopped := catalogGroups_variants_perm catalog
    (Buckets.bucketBy (·.catalogVariantId) variants)
  refine ((List.perm_insertionSort OmsVariantGroup.le _).flatMap_right _).trans ?_
  rw [List.flatMap_append, implicitGroups_variants]
  exact (((List.perm_insertionSort _ _).append_left _).trans hpopped).trans hvalues

theorem omsVariants_omsVariantGroups [PyText] (variants : List CatalogueVariant)
    {catalog : List CatalogVariant} (hids : (catalog.map (·.id)).Nodup) :
    OmsVariants variants catalog (omsVariantGroups variants catalog) := by
  obtain ⟨leftover, hleftover, hperm⟩ := omsVariantGroups_perm variants hids
  have hmem : ∀ g ∈ omsVariantGroups variants catalog,
      (∃ cv ∈ catalog, g = groupOf cv (variants.filter fun v => v.catalogVariantId = some cv.id)) ∨
        ∃ v ∈ leftover, ∃ offset, g = implicitGroup (v, offset) := by
    intro g hg
    rcases List.mem_append.mp (hperm.mem_iff.mp hg) with hg | hg
    · obtain ⟨cv, hcv, rfl⟩ := List.mem_map.mp hg
      exact .inl ⟨cv, hcv, rfl⟩
    · obtain ⟨⟨v, offset⟩, hentry, rfl⟩ := List.mem_map.mp hg
      have hv := List.mem_of_getElem? (List.mk_mem_zipIdx_iff_getElem?.mp hentry)
      exact .inr ⟨v, hv, offset, rfl⟩
  constructor
  · exact omsVariantGroups_variants_perm variants catalog
  · -- the implicit groups have no catalogue variant
    have hcatalog : ∀ groups : List CatalogVariant, ((groups.map fun cv =>
        groupOf cv (variants.filter fun v => v.catalogVariantId = some cv.id)).filter
          (·.catalogVariantId.isSome)).map (fun g => { g with variants := [] }) =
        groups.map fun cv => groupOf cv [] := by
      intro groups
      induction groups with
      | nil => rfl
      | cons cv rest ih => exact congrArg (groupOf cv [] :: ·) ih
    have himplicit :
        (leftover.zipIdx.map implicitGroup).filter (·.catalogVariantId.isSome) = [] := by
      refine List.filter_eq_nil_iff.mpr fun g hg => ?_
      obtain ⟨entry, -, rfl⟩ := List.mem_map.mp hg
      simp [implicitGroup]
    refine ((hperm.filter _).map _).trans ?_
    rw [List.filter_append, himplicit, List.append_nil, hcatalog]
  · intro g hg id hid
    rcases hmem g hg with ⟨cv, -, rfl⟩ | ⟨v, -, offset, rfl⟩
    · cases hid
      rfl
    · cases hid
  · intro g hg hnone
    rcases hmem g hg with ⟨cv, -, rfl⟩ | ⟨v, hv, offset, rfl⟩
    · cases hnone
    · obtain ⟨hvariant, hunlisted⟩ := List.mem_filter.mp (hleftover.mem_iff.mp hv)
      exact ⟨v, hvariant, rfl, rfl, of_decide_eq_true hunlisted⟩
  · exact List.pairwise_insertionSort _ _

/-! ## Section 3: Totals -/

theorem totalAvailable_perm {variants variants' : List CatalogueVariant}
    (h : variants.Perm variants') : totalAvailable variants = totalAvailable variants' :=
  (h.map _).sum_eq

/-- What the members of all the groups add up to. -/
theorem sum_members (f : CatalogueVariant → Int) (groups : List OmsVariantGroup) :
    (groups.map fun g => (g.variants.map f).sum).sum =
      ((groups.flatMap (·.variants)).map f).sum := by
  induction groups with
  | nil => rfl
  | cons g rest ih =>
    rw [List.map_cons, List.sum_cons, ih, List.flatMap_cons, List.map_append, List.sum_append]

/-- What is only counted for catalogue variants is counted once for each. -/
theorem sum_groups [PyText] (variants : List CatalogueVariant) {catalog : List CatalogVariant}
    (hids : (catalog.map (·.id)).Nodup) {f : OmsVariantGroup → Int}
    (hf : ∀ g, g.catalogVariantId = none → f g = 0) :
    ((omsVariantGroups variants catalog).map f).sum =
      (catalog.map fun cv =>
        f (groupOf cv (variants.filter fun v => v.catalogVariantId = some cv.id))).sum := by
  obtain ⟨leftover, -, hperm⟩ := omsVariantGroups_perm variants hids
  have himplicit : ((leftover.zipIdx.map implicitGroup).map f).sum = 0 := by
    refine List.sum_eq_zero fun n hn => ?_
    obtain ⟨g, hg, rfl⟩ := List.mem_map.mp hn
    obtain ⟨entry, -, rfl⟩ := List.mem_map.mp hg
    exact hf _ rfl
  rw [(hperm.map f).sum_eq, List.map_append, List.sum_append, himplicit, add_zero, List.map_map]
  rfl

namespace MarketplaceDB

/-- The adjustments of the catalogue variant of a group. -/
def groupAdjustments (db : MarketplaceDB) (g : OmsVariantGroup) : Int :=
  match g.catalogVariantId with
  | some id => db.sumForScope (.catalogVariant id)
  | none => 0

theorem groupAdjustments_of_none (db : MarketplaceDB) {g : OmsVariantGroup}
    (h : g.catalogVariantId = none) : db.groupAdjustments g = 0 := by
  rw [groupAdjustments, h]

end MarketplaceDB

/-- A database whose catalogue variants have the ids of their primary key. -/
structure KeyedDB extends MarketplaceDB where
  catalogVariant_ids : (catalogue.catalogVariants.map (·.id)).Nodup

namespace KeyedDB

variable (db : KeyedDB) (productId : UUID)

theorem listed_ids_nodup : ((db.catalogVariantsForProduct productId).map (·.id)).Nodup := by
  have hperm := List.perm_insertionSort MarketplaceDB.catalogVariantLe
    (db.catalogue.catalogVariants.filter fun cv => cv.productId == productId)
  refine ((hperm.map _).nodup_iff).mpr (db.catalogVariant_ids.sublist ?_)
  exact List.filter_sublist.map _

/-- The groups of a product. -/
def groupsOf [PyText] : List OmsVariantGroup :=
  omsVariantGroups (db.variantsForProduct productId) (db.catalogVariantsForProduct productId)

theorem omsVariants_groupsOf [PyText] :
    OmsVariants (db.variantsForProduct productId) (db.catalogVariantsForProduct productId)
      (db.groupsOf productId) :=
  omsVariants_omsVariantGroups _ (db.listed_ids_nodup productId)

/-- What the adjustments of the groups add up to: those of the product's catalogue variants. -/
theorem sum_groupAdjustments [PyText] :
    ((db.groupsOf productId).map db.groupAdjustments).sum = db.sumByProduct productId := by
  rw [groupsOf, sum_groups _ (db.listed_ids_nodup productId) fun _ => db.groupAdjustments_of_none]
  exact ((List.perm_insertionSort MarketplaceDB.catalogVariantLe _).map _).sum_eq

variable {db productId}

theorem completes_getOmsVariantsForProduct [PyText]
    (hproduct : (db.getProduct productId).isSome) :
    Txn.Completes Row.insert (getOmsVariantsForProduct productId) db.toMarketplaceDB
      (db.groupsOf productId) db.toMarketplaceDB := by
  obtain ⟨product, hfind⟩ := Option.isSome_iff_exists.mp hproduct
  have hvariants : Txn.Completes Row.insert (listVariantsForProduct productId) db.toMarketplaceDB
      (db.variantsForProduct productId) db.toMarketplaceDB :=
    Txn.completes_bind Txn.completes_select
      (Txn.completes_bind (Txn.completes_orRaise hfind) Txn.completes_select)
  exact Txn.completes_bind hvariants (Txn.completes_bind Txn.completes_select Txn.completes_pure)

theorem completes_getProductTotal :
    Txn.Completes Row.insert (getProductTotal productId) db.toMarketplaceDB
      (totalAvailable (db.variantsForProduct productId) + db.sumByProduct productId +
        db.sumForScope (.product productId)) db.toMarketplaceDB :=
  Txn.completes_bind Txn.completes_select (Txn.completes_bind Txn.completes_select
    (Txn.completes_bind Txn.completes_select Txn.completes_pure))

end KeyedDB

/-- **The OMS-visible variants of a product**, whatever its variants are linked to. The groups
have every variant in exactly one of them and every catalogue variant exactly once, by display
order and lowercased name; their members' stock is the variants'; and the product's total is what
the members and the adjustments of each group add up to, with the product's own adjustments. -/
theorem oms_variants_partition [PyText] (db : KeyedDB) (productId : UUID)
    (hproduct : (db.getProduct productId).isSome) :
    ∃ groups total,
      Txn.Completes Row.insert (getOmsVariantsForProduct productId) db.toMarketplaceDB groups
        db.toMarketplaceDB ∧
      Txn.Completes Row.insert (getProductTotal productId) db.toMarketplaceDB total
        db.toMarketplaceDB ∧
      OmsVariants (db.variantsForProduct productId) (db.catalogVariantsForProduct productId)
        groups ∧
      (groups.map fun g => totalAvailable g.variants).sum =
        totalAvailable (db.variantsForProduct productId) ∧
      total = (groups.map fun g => totalAvailable g.variants + db.groupAdjustments g).sum +
        db.sumForScope (.product productId) := by
  have hgroups := db.omsVariants_groupsOf productId
  have hsum : ((db.groupsOf productId).map fun g => totalAvailable g.variants).sum =
      totalAvailable (db.variantsForProduct productId) := by
    rw [← totalAvailable_perm hgroups.variants_perm]
    exact sum_members (·.availableQuantity) _
  refine ⟨db.groupsOf productId, _, KeyedDB.completes_getOmsVariantsForProduct hproduct,
    KeyedDB.completes_getProductTotal, hgroups, hsum, ?_⟩
  rw [List.sum_map_add, hsum, db.sum_groupAdjustments productId]

/-! ## Section 4: A product with every kind of link -/

/-- A variant of the product with its stock and its link. -/
def linkedVariant (id : UUID) (sku : String) (stock : Int) (link : Option UUID) :
    CatalogueVariant where
  id := id
  sku := sku
  productId := 1
  availableQuantity := stock
  catalogVariantId := link
  packSize_pos := Int.one_pos
  packetsPerBox_pos := Int.one_pos

/-- Two catalogue variants of the product, and one of another product. -/
def flavours : List CatalogVariant := [
  { id := 20, productId := 1, name := "Ghutka Flavour", displayOrder := 1 },
  { id := 21, productId := 1, name := "Gold Packet" },
  { id := 22, productId := 2, name := "Other" }]

theorem flavours_ids : (flavours.map (·.id)).Nodup := by decide

/-- A linked variant, an unlinked one, and one linked to a catalogue variant that is not listed
for the product. -/
def mixedLinks : KeyedDB where
  catalogue := {
    products := [1, 2]
    catalogVariants := flavours
    variants := [linkedVariant 10 "AWL-60" 7 (some 20), linkedVariant 11 "AWL-120" 5 none,
      linkedVariant 12 "AWL-180" 3 (some 22)] }
  catalogVariant_ids := flavours_ids

example : (mixedLinks.groupsOf 1).map (fun g => (g.catalogVariantId, g.variants.map (·.id))) =
    [(some 21, []), (some 20, [10]), (none, [11]), (none, [12])] := by
  decide +kernel

/-- The four groups of the product hold its fifteen boxes. -/
theorem oms_variants_mixedLinks :
    ∃ groups, OmsVariants (mixedLinks.variantsForProduct 1) (mixedLinks.catalogVariantsForProduct 1)
        groups ∧
      (groups.map fun g => totalAvailable g.variants).sum = 15 := by
  obtain ⟨groups, _, -, -, hgroups, hsum, -⟩ := oms_variants_partition mixedLinks 1 rfl
  exact ⟨groups, hgroups, hsum.trans rfl⟩

end AyushOms.Marketplace
