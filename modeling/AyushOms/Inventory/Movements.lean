import AyushOms.Inventory.Model
import AyushOms.Lib.Counters
import AyushOms.Lib.OffsetPages

/-!
# The Ledger by Time

The queries of `InventoryMovementRepository` that read a movement's id or its creation time:
`search_query`, with the conditions its callers here pass, the totals of a window, and the latest
movement before a time.

## Main results

- `lookup_getLatestAsOfBulk`: where times ascend, the latest movement before a time is the last
  one written
- `movementTotals_net`: what is added less what is deducted is the sum of a window's movements
- `before_append`: a window cuts the ledger as its two ends do
-/

namespace AyushOms.Inventory

open AyushOms.Lib

/-- An `InventoryMovement` with its id, its creation time and the name of its actor. -/
structure DatedMovement extends InventoryMovement where
  id : UUID
  createdAt : ℤ
  actorName : Option String := none
  deriving DecidableEq, Repr

/-! ## Section 1: Queries -/

/-- `search_query(product_variant_id=..., date_from=..., date_to=...)`. -/
def searchQuery (movements : List DatedMovement) (productVariantId : UUID)
    (dateFrom dateTo : Option ℤ) : List DatedMovement :=
  movements.filter fun m => m.productVariantId = productVariantId ∧
    (∀ t ∈ dateFrom, t ≤ m.createdAt) ∧ ∀ t ∈ dateTo, m.createdAt ≤ t

/-- The rows of a window whose movements are added, or taken away. -/
def inWindow (movements : List DatedMovement) (productVariantIds : List UUID)
    (createdFrom createdTo : ℤ) (sign : ℤ → Bool) : List DatedMovement :=
  movements.filter fun m => m.productVariantId ∈ productVariantIds ∧ sign m.quantityDelta ∧
    createdFrom ≤ m.createdAt ∧ m.createdAt < createdTo

/-- `select(product_variant_id, sum(quantity_delta)) ... group_by(product_variant_id)`. -/
def sumByVariant (rows : List DatedMovement) : Counters UUID ℤ :=
  Counters.countBy 0 (fun m => m.productVariantId) (fun total m => total + m.quantityDelta) rows

/-- `movement_totals_by_sign_bulk`. -/
def movementTotalsBySignBulk (movements : List DatedMovement) (productVariantIds : List UUID)
    (createdFrom createdTo : ℤ) : List (UUID × ℤ × ℤ) :=
  let added := sumByVariant
    (inWindow movements productVariantIds createdFrom createdTo fun delta => 0 < delta)
  let deducted := sumByVariant
    (inWindow movements productVariantIds createdFrom createdTo fun delta => delta < 0)
  (added.map Prod.fst ∪ deducted.map Prod.fst).map fun variantId =>
    (variantId, Counters.get 0 variantId added, -Counters.get 0 variantId deducted)

/-- `ORDER BY product_variant_id, created_at DESC`. -/
def newestFirst (rows : List DatedMovement) : List DatedMovement :=
  rows.insertionSort fun a b => a.productVariantId < b.productVariantId ∨
    (a.productVariantId = b.productVariantId ∧ b.createdAt ≤ a.createdAt)

/-- The loop that keeps the first row of each variant. -/
def firstByVariant (rows : List DatedMovement) : List (UUID × DatedMovement) :=
  rows.foldl (fun latest m =>
    if m.productVariantId ∈ latest.map Prod.fst then latest
    else latest ++ [(m.productVariantId, m)]) []

/-- The rows of some variants before a time. -/
def rowsBefore (movements : List DatedMovement) (productVariantIds : List UUID)
    (createdTo : ℤ) : List DatedMovement :=
  movements.filter fun m => m.productVariantId ∈ productVariantIds ∧ m.createdAt < createdTo

/-- `get_latest_as_of_bulk`. -/
def getLatestAsOfBulk (movements : List DatedMovement) (productVariantIds : List UUID)
    (createdTo : ℤ) : List (UUID × DatedMovement) :=
  firstByVariant (newestFirst (rowsBefore movements productVariantIds createdTo))

/-- `last_movement_at_bulk`. -/
def lastMovementAtBulk (movements : List DatedMovement) (productVariantIds : List UUID)
    (createdTo : ℤ) : List (UUID × ℤ) :=
  (getLatestAsOfBulk movements productVariantIds createdTo).map fun item =>
    (item.1, item.2.createdAt)

/-! ## Section 2: The first row of each variant -/

theorem lookup_firstByVariant (rows : List DatedMovement) (variantId : UUID) :
    (firstByVariant rows).lookup variantId =
      rows.find? fun m => m.productVariantId = variantId := by
  have hloop : ∀ (rows : List DatedMovement) (latest : List (UUID × DatedMovement)),
      (rows.foldl (fun latest m =>
        if m.productVariantId ∈ latest.map Prod.fst then latest
        else latest ++ [(m.productVariantId, m)]) latest).lookup variantId =
        (latest.lookup variantId).or
          (rows.find? fun m => m.productVariantId = variantId) := by
    intro rows
    induction rows with
    | nil => simp
    | cons m rows ih =>
      intro latest
      rw [List.foldl_cons, ih, List.find?_cons]
      by_cases hm : m.productVariantId = variantId
      · subst hm
        by_cases hmem : m.productVariantId ∈ latest.map Prod.fst
        · -- the variant has its row already
          rw [if_pos hmem]
          cases hlookup : latest.lookup m.productVariantId with
          | none =>
            rw [List.lookup_eq_none_iff] at hlookup
            obtain ⟨item, hitem, hkey⟩ := List.mem_map.mp hmem
            exact absurd (hlookup item hitem) (by simp [hkey])
          | some first => simp
        · rw [if_neg hmem, List.lookup_append]
          simp
      · have hother : (if m.productVariantId ∈ latest.map Prod.fst then latest
            else latest ++ [(m.productVariantId, m)]).lookup variantId =
              latest.lookup variantId := by
          split
          · rfl
          · have hne : (variantId == m.productVariantId) = false := by
              simpa using Ne.symm hm
            rw [List.lookup_append]
            simp [List.lookup_cons, hne]
        rw [hother]
        simp [hm]
  exact hloop rows []

/-! ## Section 3: What the queries find -/

/-- The order of `newestFirst`. -/
def Newer (a b : DatedMovement) : Prop :=
  a.productVariantId < b.productVariantId ∨
    (a.productVariantId = b.productVariantId ∧ b.createdAt ≤ a.createdAt)

instance : DecidableRel Newer := fun _ _ =>
  inferInstanceAs (Decidable (_ < _ ∨ (_ = _ ∧ _ ≤ _)))

instance : Std.Total Newer where
  total a b := by
    unfold Newer
    rcases lt_trichotomy a.productVariantId b.productVariantId with h | h | h
    · exact .inl (.inl h)
    · rcases le_total a.createdAt b.createdAt with hle | hle
      · exact .inr (.inr ⟨h.symm, hle⟩)
      · exact .inl (.inr ⟨h, hle⟩)
    · exact .inr (.inl h)

instance : IsTrans DatedMovement Newer where
  trans a b c hab hbc := by
    unfold Newer at *
    rcases hab with hab | ⟨hab, hle⟩
    · rcases hbc with hbc | ⟨hbc, -⟩
      · exact .inl (lt_trans hab hbc)
      · exact .inl (hbc ▸ hab)
    · rcases hbc with hbc | ⟨hbc, hle'⟩
      · exact .inl (hab ▸ hbc)
      · exact .inr ⟨hab.trans hbc, le_trans hle' hle⟩

theorem pairwise_newestFirst (rows : List DatedMovement) :
    (newestFirst rows).Pairwise Newer :=
  List.pairwise_insertionSort Newer rows

variable {movements : List DatedMovement} {productVariantIds : List UUID} {variantId : UUID}

/-- A variant's ledger. -/
def ledgerOf (movements : List DatedMovement) (variantId : UUID) : List DatedMovement :=
  movements.filter fun m => m.productVariantId = variantId

/-- Where the times of a variant's movements ascend, the latest before a time is the last one
written. -/
theorem lookup_getLatestAsOfBulk (hmem : variantId ∈ productVariantIds)
    (hasc : (ledgerOf movements variantId).Pairwise fun a b => a.createdAt < b.createdAt)
    (createdTo : ℤ) :
    (getLatestAsOfBulk movements productVariantIds createdTo).lookup variantId =
      ((ledgerOf movements variantId).filter fun m => m.createdAt < createdTo).getLast? := by
  have hrows : (rowsBefore movements productVariantIds createdTo).filter
      (fun m => m.productVariantId = variantId) =
      (ledgerOf movements variantId).filter fun m => m.createdAt < createdTo := by
    unfold rowsBefore ledgerOf
    rw [List.filter_filter, List.filter_filter]
    refine List.filter_congr fun m _ => ?_
    by_cases hv : m.productVariantId = variantId
    · simp [hv, hmem]
    · simp [hv]
  have hperm : ((newestFirst (rowsBefore movements productVariantIds createdTo)).filter
      fun m => m.productVariantId = variantId).Perm
        ((ledgerOf movements variantId).filter fun m => m.createdAt < createdTo).reverse := by
    rw [← hrows]
    exact ((List.perm_insertionSort Newer _).filter _).trans (List.reverse_perm _).symm
  have hsame : (newestFirst (rowsBefore movements productVariantIds createdTo)).filter
      (fun m => m.productVariantId = variantId) =
        ((ledgerOf movements variantId).filter fun m => m.createdAt < createdTo).reverse := by
    have hqueried : ((newestFirst (rowsBefore movements productVariantIds createdTo)).filter
        fun m => m.productVariantId = variantId).Pairwise
          fun a b => b.createdAt ≤ a.createdAt := by
      refine ((pairwise_newestFirst _).filter _).imp_of_mem ?_
      intro a b ha hb hnewer
      have ha : a.productVariantId = variantId := by simpa using List.of_mem_filter ha
      have hb : b.productVariantId = variantId := by simpa using List.of_mem_filter hb
      rcases hnewer with hlt | ⟨-, hle⟩
      · exact absurd (ha.trans hb.symm) (ne_of_lt hlt)
      · exact hle
    refine List.Perm.eq_of_pairwise ?_ hqueried ?_ hperm
    · -- two movements of one time are the same one
      intro a b ha hb hab hba
      have ha := List.mem_of_mem_filter (List.mem_reverse.mp (hperm.mem_iff.mp ha))
      have hb := List.mem_of_mem_filter (List.mem_reverse.mp hb)
      have htimes : ((ledgerOf movements variantId).map (·.createdAt)).Nodup :=
        List.pairwise_map.mpr (hasc.imp fun h => ne_of_lt h)
      exact List.inj_on_of_nodup_map htimes ha hb (le_antisymm hba hab)
    · rw [List.pairwise_reverse]
      exact (hasc.filter _).imp fun h => le_of_lt h
  unfold getLatestAsOfBulk
  rw [lookup_firstByVariant, ← List.head?_filter, hsame, List.head?_reverse]

/-! ## Section 4: What a window adds -/

theorem lookup_map_self (variantIds : List UUID) (f : UUID → ℤ × ℤ) (variantId : UUID) :
    (variantIds.map fun v => (v, f v)).lookup variantId =
      if variantId ∈ variantIds then some (f variantId) else none := by
  induction variantIds with
  | nil => rfl
  | cons v variantIds ih =>
    rw [List.map_cons, List.lookup_cons, ih]
    by_cases hv : variantId = v
    · subst hv
      simp
    · have hne : (variantId == v) = false := by simpa using hv
      simp [hne, hv]

/-- The sum of a variant is over its rows. -/
theorem get_sumByVariant (rows : List DatedMovement) (variantId : UUID) :
    Counters.get 0 variantId (sumByVariant rows) =
      ((ledgerOf rows variantId).map (·.quantityDelta)).sum := by
  unfold sumByVariant
  rw [(Counters.counts_countBy 0 _ _ rows).get_eq]
  have hloop : ∀ (rows : List DatedMovement) (total : ℤ),
      rows.foldl (fun total m => total + m.quantityDelta) total =
        total + (rows.map (·.quantityDelta)).sum := by
    intro rows
    induction rows with
    | nil => simp
    | cons m rows ih =>
      intro total
      rw [List.foldl_cons, ih, List.map_cons, List.sum_cons, Int.add_assoc]
  show ((rows.filter fun m => m.productVariantId = variantId).foldl _ 0) = _
  rw [hloop, Int.zero_add]
  rfl

/-- The sum of what is added, less what is deducted. -/
theorem added_sub_deducted (rows : List DatedMovement) :
    ((rows.filter fun m => 0 < m.quantityDelta).map (·.quantityDelta)).sum -
      -((rows.filter fun m => m.quantityDelta < 0).map (·.quantityDelta)).sum =
        (rows.map (·.quantityDelta)).sum := by
  induction rows with
  | nil => rfl
  | cons m rows ih =>
    rcases lt_trichotomy m.quantityDelta 0 with hneg | hzero | hpos
    · simp [hneg, not_lt.mpr (le_of_lt hneg)]
      omega
    · simp [hzero]
      omega
    · simp [hpos, not_lt.mpr (le_of_lt hpos)]
      omega

/-- What is counted for a variant is the sum of the movements of its ledger. -/
theorem get_sum_inWindow (movements : List DatedMovement) (hmem : variantId ∈ productVariantIds)
    (createdFrom createdTo : ℤ) (sign : ℤ → Bool) :
    Counters.get 0 variantId
      (sumByVariant (inWindow movements productVariantIds createdFrom createdTo sign)) =
        ((((ledgerOf movements variantId).filter fun m =>
          createdFrom ≤ m.createdAt ∧ m.createdAt < createdTo).filter fun m =>
            sign m.quantityDelta).map (·.quantityDelta)).sum := by
  rw [get_sumByVariant]
  unfold ledgerOf inWindow
  rw [List.filter_filter, List.filter_filter, List.filter_filter]
  congr 2
  refine List.filter_congr fun m _ => ?_
  by_cases hv : m.productVariantId = variantId
  · simp [hv, hmem]
  · simp [hv]

/-- What is added less what is deducted is the sum of all movements of the window. -/
theorem movementTotals_net (movements : List DatedMovement)
    (hmem : variantId ∈ productVariantIds) (createdFrom createdTo : ℤ) :
    let totals := ((movementTotalsBySignBulk movements productVariantIds createdFrom
      createdTo).lookup variantId).getD (0, 0)
    totals.1 - totals.2 = (((ledgerOf movements variantId).filter fun m =>
      createdFrom ≤ m.createdAt ∧ m.createdAt < createdTo).map (·.quantityDelta)).sum := by
  have hsum := get_sum_inWindow movements hmem createdFrom createdTo
  dsimp only
  unfold movementTotalsBySignBulk
  rw [lookup_map_self]
  by_cases hkey : variantId ∈ (sumByVariant (inWindow movements productVariantIds createdFrom
      createdTo fun delta => 0 < delta)).map Prod.fst ∪ (sumByVariant (inWindow movements
        productVariantIds createdFrom createdTo fun delta => delta < 0)).map Prod.fst
  · rw [if_pos hkey, Option.getD_some, hsum, hsum]
    exact added_sub_deducted _
  · -- a variant without movements in the window
    have hnot := hkey
    rw [List.mem_union_iff, not_or] at hkey
    have hadded := hsum fun delta => 0 < delta
    have hdeducted := hsum fun delta => delta < 0
    rw [Counters.get_of_not_mem hkey.1] at hadded
    rw [Counters.get_of_not_mem hkey.2] at hdeducted
    have hall := added_sub_deducted ((ledgerOf movements variantId).filter fun m =>
      createdFrom ≤ m.createdAt ∧ m.createdAt < createdTo)
    rw [if_neg hnot, Option.getD_none, ← hall, ← hadded, ← hdeducted]
    rfl

/-! ## Section 5: The ledger cut at a time -/

/-- The movements of a ledger before a time. -/
def before (es : List DatedMovement) (t : ℤ) : List DatedMovement :=
  es.filter fun m => m.createdAt < t

variable {es : List DatedMovement}

/-- Where the times ascend, the movements before a time come first. -/
theorem exists_before_append (hasc : es.Pairwise fun a b => a.createdAt < b.createdAt) (t : ℤ) :
    ∃ rest, before es t ++ rest = es :=
  ⟨_, OffsetPages.filter_append_filter (hasc.imp fun h => le_of_lt h) t⟩

/-- The movements before a time and those of a window after it make up the movements before the
window's end. -/
theorem before_append (hasc : es.Pairwise fun a b => a.createdAt < b.createdAt) {s t : ℤ}
    (hle : s ≤ t) :
    before es s ++ es.filter (fun m => s ≤ m.createdAt ∧ m.createdAt < t) = before es t := by
  have hascends : OffsetPages.Ascends (fun m : DatedMovement => m.createdAt) (before es t) :=
    (hasc.filter _).imp fun h => le_of_lt h
  have hsplit := OffsetPages.filter_append_filter hascends s
  have hfirst : (before es t).filter (fun m => m.createdAt < s) = before es s := by
    unfold before
    rw [List.filter_filter]
    refine List.filter_congr fun m _ => ?_
    by_cases hm : m.createdAt < s
    · simp [hm, lt_of_lt_of_le hm hle]
    · simp [hm]
  have hwindow : (before es t).filter (fun m => s ≤ m.createdAt) =
      es.filter fun m => s ≤ m.createdAt ∧ m.createdAt < t := by
    unfold before
    rw [List.filter_filter]
    refine List.filter_congr fun m _ => ?_
    simp
  rw [← hfirst, ← hwindow]
  exact hsplit

end AyushOms.Inventory
