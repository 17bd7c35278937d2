import AyushOms.Inventory.Movements
import AyushOms.Lib.Representatives
import Mathlib.Data.List.Dedup
import Mathlib.Data.Prod.Lex

/-!
# The Migration to Unique Movements

`alembic/versions/c9f4a2e6b813_inventory_movement_race_constraint.py`. Racing transactions may
have recorded a dispatch or a restock of one order and variant twice. Before the constraint that
forbids it is created, the upgrade removes the later rows of each group that has one
`quantity_after`, and raises if any group has several. The whole run is one transaction.

The query for the groups does not say in which order they come, so any order is possible. What is
printed is left out, with the reasons that only are printed.

## Main results

- `foldlM_dedupeGroup`: what the loop over the groups removes, and what it leaves to a human
- `upgrade_eq_ok`: when the upgrade succeeds, and the table it then leaves
- `upgrade_dedupes`: nothing changes, or every group keeps its earliest row and only that
-/

namespace AyushOms.Inventory

open AyushOms.Lib Representatives

/-! ## Section 1: The tables -/

/-- `(product_variant_id, order_id, movement_type)`. -/
abbrev GroupKey := UUID × UUID × InventoryMovementType

/-- The group of a row that has an order. -/
def groupKey (m : DatedMovement) : Option GroupKey :=
  m.orderId.map fun orderId => (m.productVariantId, orderId, m.movementType)

/-- `ORDER BY created_at ASC, id ASC`. -/
def rowRank (m : DatedMovement) : ℤ ×ₗ UUID := toLex (m.createdAt, m.id)

/-- The tables the migration reads and the constraint it creates. -/
@[ext]
structure MigrationDB where
  movements : List DatedMovement
  availableQuantity : List (UUID × ℤ)
  constraint : Bool := false
  ids_nodup : (movements.map fun m => m.id).Nodup
  variant_known : ∀ m ∈ movements, m.productVariantId ∈ availableQuantity.map Prod.fst

/-- `DELETE FROM inventory_movements WHERE id = ANY(:ids)`. -/
def MigrationDB.delete (db : MigrationDB) (ids : List UUID) : MigrationDB where
  movements := db.movements.filter fun m => m.id ∉ ids
  availableQuantity := db.availableQuantity
  constraint := db.constraint
  ids_nodup := db.ids_nodup.sublist (List.filter_sublist.map _)
  variant_known m hm := db.variant_known m (List.mem_of_mem_filter hm)

/-! ## Section 2: The upgrade -/

/-- `MovementRow`. -/
structure MovementRow where
  id : UUID
  quantityDelta : ℤ
  quantityAfter : ℤ
  deriving DecidableEq, Repr

/-- `GroupPlan.action`. -/
inductive GroupAction
  | deleteDuplicates
  | actionRequired
  deriving DecidableEq, Repr

/-- `GroupPlan`. -/
structure GroupPlan where
  canonicalId : UUID
  action : GroupAction
  duplicateIdsToDelete : List UUID
  deriving DecidableEq, Repr

/-- `_classify_duplicate_group`. -/
def classifyDuplicateGroup (rows : List MovementRow) : Except PyException GroupPlan :=
  match rows with
  | canonical :: first :: rest =>
    let distinctQuantityAfter := (rows.map fun row => row.quantityAfter).dedup
    if distinctQuantityAfter.length = 1 then
      return ⟨canonical.id, .deleteDuplicates, (first :: rest).map fun row => row.id⟩
    else return ⟨canonical.id, .actionRequired, []⟩
  | _ => throw (.other "_classify_duplicate_group requires at least 2 rows")

/-- `_DUPLICATE_GROUPS_SQL`, in some order. -/
def duplicateGroups (movements : List DatedMovement) : List GroupKey :=
  (movements.filterMap groupKey).dedup.filter fun k =>
    1 < movements.countP fun m => groupKey m = some k

/-- The order in which the database returns the groups. -/
structure GroupOrder where
  groups : List DatedMovement → List GroupKey
  perm : ∀ movements, (groups movements).Perm (duplicateGroups movements)

/-- `_GROUP_ROWS_SQL`. -/
def groupRows (movements : List DatedMovement) (k : GroupKey) : List MovementRow :=
  (members groupKey rowRank movements k).map fun m => ⟨m.id, m.quantityDelta, m.quantityAfter⟩

/-- One group of the loop. -/
def dedupeGroup (found : MigrationDB × List GroupKey) (k : GroupKey) :
    Except PyException (MigrationDB × List GroupKey) := do
  let plan ← classifyDuplicateGroup (groupRows found.1.movements k)
  match plan.action with
  | .deleteDuplicates => return (found.1.delete plan.duplicateIdsToDelete, found.2)
  | .actionRequired =>
    -- the quantity is only printed
    match found.1.availableQuantity.lookup k.1 with
    | none => throw (.other "NoResultFound")
    | some _ => return (found.1, found.2 ++ [k])

/-- `UnresolvedDuplicateInventoryMovementsError`. -/
def unresolvedDuplicates (n : ℕ) : PyException :=
  .other (toString n ++ " duplicate inventory_movements group(s) require manual review before " ++
    "the unique constraint can be created; see migration output above for full detail. " ++
    "No production data was modified.")

/-- `_dedupe_inventory_movements`. -/
def dedupeInventoryMovements (order : GroupOrder) (db : MigrationDB) :
    Except PyException MigrationDB := do
  let groups := order.groups db.movements
  if groups = [] then return db
  else
    let (deduped, actionRequired) ← groups.foldlM dedupeGroup (db, [])
    if actionRequired ≠ [] then throw (unresolvedDuplicates actionRequired.length)
    else return deduped

/-- The rows of no group are two. -/
def SatisfiesConstraint (movements : List DatedMovement) : Prop :=
  (movements.flatMap fun m => m.toInventoryMovement.keys).Nodup

instance (movements : List DatedMovement) : Decidable (SatisfiesConstraint movements) :=
  inferInstanceAs (Decidable (List.Nodup _))

/-- `create_unique_constraint`. -/
def createUniqueConstraint (db : MigrationDB) : Except PyException MigrationDB :=
  if db.constraint then throw (.other "DuplicateTable")
  else if SatisfiesConstraint db.movements then return { db with constraint := true }
  else throw .integrityError

/-- `upgrade`. -/
def upgrade (order : GroupOrder) (db : MigrationDB) : Except PyException MigrationDB := do
  let deduped ← dedupeInventoryMovements order db
  createUniqueConstraint deduped

/-- A run of the migration, in its transaction: what it raises, and what it leaves. -/
def runUpgrade (order : GroupOrder) (db : MigrationDB) : Option PyException × MigrationDB :=
  match upgrade order db with
  | .ok upgraded => (none, upgraded)
  | .error e => (some e, db)

/-! ## Section 3: The groups -/

variable {db : MigrationDB} {k : GroupKey}

/-- Each group has one `quantity_after`. -/
def Resolvable (movements : List DatedMovement) (k : GroupKey) : Prop :=
  ((members groupKey rowRank movements k).map fun m => m.quantityAfter).dedup.length = 1

instance (movements : List DatedMovement) (k : GroupKey) : Decidable (Resolvable movements k) :=
  inferInstanceAs (Decidable (_ = _))

/-- The tables after some groups have been thinned. -/
def MigrationDB.thin (db : MigrationDB) (ks : List GroupKey) : MigrationDB where
  movements := Representatives.thin groupKey rowRank ks db.movements
  availableQuantity := db.availableQuantity
  constraint := db.constraint
  ids_nodup := db.ids_nodup.sublist (thin_sublist.map _)
  variant_known m hm := db.variant_known m (thin_sublist.subset hm)

@[simp]
theorem MigrationDB.thin_constraint (ks : List GroupKey) :
    (db.thin ks).constraint = db.constraint := rfl

theorem MigrationDB.nodup (db : MigrationDB) : db.movements.Nodup := db.ids_nodup.of_map _

theorem MigrationDB.eq_of_id (db : MigrationDB) {m m' : DatedMovement} (hm : m ∈ db.movements)
    (hm' : m' ∈ db.movements) (hid : m.id = m'.id) : m = m' :=
  List.inj_on_of_nodup_map db.ids_nodup hm hm' hid

theorem length_members (movements : List DatedMovement) (k : GroupKey) :
    (members groupKey rowRank movements k).length =
      movements.countP fun m => groupKey m = some k := by
  rw [(members_perm groupKey rowRank movements k).length_eq, List.countP_eq_length_filter]

theorem mem_duplicateGroups {movements : List DatedMovement} :
    k ∈ duplicateGroups movements ↔ 1 < (members groupKey rowRank movements k).length := by
  unfold duplicateGroups
  rw [List.mem_filter, decide_eq_true_eq, length_members, and_iff_right_iff_imp]
  intro hcount
  obtain ⟨m, hm, hk⟩ := List.countP_pos_iff.mp (lt_trans Nat.zero_lt_one hcount)
  rw [List.mem_dedup, List.mem_filterMap]
  exact ⟨m, hm, of_decide_eq_true hk⟩

theorem nodup_duplicateGroups (movements : List DatedMovement) :
    (duplicateGroups movements).Nodup := (List.nodup_dedup _).filter _

/-- Deleting the later rows of a group thins it. -/
theorem delete_eq_thin {first : DatedMovement} {rest : List DatedMovement}
    (hmembers : members groupKey rowRank db.movements k = first :: rest) :
    db.delete (rest.map fun m => m.id) = db.thin [k] := by
  have hnodup := nodup_members groupKey rowRank k db.nodup
  rw [hmembers] at hnodup
  have hsame : (db.delete (rest.map fun m => m.id)).movements = (db.thin [k]).movements := by
    refine List.filter_congr fun m hm => ?_
    rw [decide_eq_decide]
    constructor
    · intro hid k' hk' hmem
      obtain rfl : k' = k := List.mem_singleton.mp hmem
      have hlisted : m ∈ first :: rest := hmembers ▸ mem_members.mpr ⟨hm, hk'⟩
      rcases List.mem_cons.mp hlisted with rfl | hrest
      · rw [hmembers]
        rfl
      · exact absurd (List.mem_map_of_mem hrest) hid
    · intro hfirst hid
      -- the row with this id is the row itself, and only the first of its group stays
      obtain ⟨later, hlater, hid⟩ := List.mem_map.mp hid
      have hfound := mem_members.mp (hmembers ▸ List.mem_cons_of_mem first hlater :
        later ∈ members groupKey rowRank db.movements k)
      obtain rfl := db.eq_of_id hfound.1 hm hid
      have hhead := hfirst k hfound.2 (List.mem_singleton_self k)
      rw [hmembers] at hhead
      obtain rfl : first = later := Option.some.inj hhead
      exact (List.nodup_cons.mp hnodup).1 hlater
  exact MigrationDB.ext hsame rfl rfl

/-- The plan for a group of two rows or more. -/
theorem classifyDuplicateGroup_groupRows {movements : List DatedMovement}
    {canonical first : DatedMovement} {rest : List DatedMovement}
    (hmembers : members groupKey rowRank movements k = canonical :: first :: rest) :
    classifyDuplicateGroup (groupRows movements k) = .ok
      (if Resolvable movements k then
        ⟨canonical.id, .deleteDuplicates, (first :: rest).map fun m => m.id⟩
      else ⟨canonical.id, .actionRequired, []⟩) := by
  have hrows : groupRows movements k = ⟨canonical.id, canonical.quantityDelta,
      canonical.quantityAfter⟩ :: ⟨first.id, first.quantityDelta, first.quantityAfter⟩ ::
        rest.map fun m => ⟨m.id, m.quantityDelta, m.quantityAfter⟩ := by
    rw [groupRows, hmembers]
    rfl
  have hdistinct : Resolvable movements k ↔ ((canonical.quantityAfter :: first.quantityAfter ::
      rest.map fun m => m.quantityAfter).dedup.length = 1) := by
    rw [Resolvable, hmembers]
    rfl
  rw [hrows, classifyDuplicateGroup]
  simp only [List.map_cons, List.map_map, Function.comp_def, ← hdistinct]
  split <;> rfl

/-- One turn of the loop. -/
theorem dedupeGroup_eq (required : List GroupKey)
    (hk : 1 < (members groupKey rowRank db.movements k).length) :
    dedupeGroup (db, required) k = .ok
      (if Resolvable db.movements k then (db.thin [k], required) else (db, required ++ [k])) := by
  obtain ⟨canonical, first, rest, hmembers⟩ : ∃ canonical first rest,
      members groupKey rowRank db.movements k = canonical :: first :: rest := by
    match hlist : members groupKey rowRank db.movements k, hk with
    | canonical :: first :: rest, _ => exact ⟨canonical, first, rest, rfl⟩
  have hplan := classifyDuplicateGroup_groupRows hmembers
  unfold dedupeGroup
  rw [hplan]
  by_cases hresolvable : Resolvable db.movements k
  · rw [if_pos hresolvable, if_pos hresolvable]
    show Except.ok (db.delete _, required) = _
    rw [delete_eq_thin hmembers]
  · rw [if_neg hresolvable, if_neg hresolvable]
    -- the variant is there, so its quantity can be printed
    have hmem := mem_members.mp (hmembers ▸ List.mem_cons_self :
      canonical ∈ members groupKey rowRank db.movements k)
    obtain ⟨orderId, -, hkey⟩ := Option.map_eq_some_iff.mp hmem.2
    have hknown := db.variant_known canonical hmem.1
    rw [show canonical.productVariantId = k.1 by rw [← hkey]] at hknown
    show (match db.availableQuantity.lookup k.1 with
      | none => Except.error (PyException.other "NoResultFound")
      | some _ => Except.ok (db, required ++ [k])) = _
    cases hlookup : db.availableQuantity.lookup k.1 with
    | none =>
      rw [List.lookup_eq_none_iff] at hlookup
      obtain ⟨entry, hentry, hid⟩ := List.mem_map.mp hknown
      exact absurd (hlookup entry hentry) (by simp [hid])
    | some quantity => rfl

theorem members_thin {db : MigrationDB} {ks : List GroupKey} (hk : k ∉ ks) :
    members groupKey rowRank (db.thin ks).movements k =
      members groupKey rowRank db.movements k := members_thin_of_not_mem hk

theorem MigrationDB.thin_cons {ks : List GroupKey} (hk : k ∉ ks) :
    db.thin (k :: ks) = (db.thin [k]).thin ks :=
  MigrationDB.ext (Representatives.thin_cons hk) rfl rfl

/-- The loop thins the groups that can be resolved, and lists the others. -/
theorem foldlM_dedupeGroup (ks : List GroupKey) : ∀ (db : MigrationDB) (required : List GroupKey),
    ks.Nodup → (∀ k ∈ ks, 1 < (members groupKey rowRank db.movements k).length) →
    ks.foldlM dedupeGroup (db, required) = .ok
      (db.thin (ks.filter fun k => Resolvable db.movements k),
        required ++ ks.filter fun k => ¬ Resolvable db.movements k) := by
  induction ks with
  | nil =>
    intro db required _ _
    have hthin : db.thin [] = db := MigrationDB.ext (thin_eq_self (by simp)) rfl rfl
    show Except.ok (db, required) = Except.ok (db.thin [], required ++ [])
    rw [hthin, List.append_nil]
  | cons k ks ih =>
    intro db required hnodup hlength
    obtain ⟨hk, hnodup⟩ := List.nodup_cons.mp hnodup
    rw [List.foldlM_cons, dedupeGroup_eq required (hlength k List.mem_cons_self)]
    by_cases hresolvable : Resolvable db.movements k
    · rw [if_pos hresolvable]
      -- the other groups are as they were
      have hother : ∀ k' ∈ ks, members groupKey rowRank (db.thin [k]).movements k' =
          members groupKey rowRank db.movements k' := by
        intro k' hk'
        refine members_thin fun hmem => ?_
        exact hk (List.mem_singleton.mp hmem ▸ hk')
      have hloop := ih (db.thin [k]) required hnodup fun k' hk' => by
        rw [hother k' hk']
        exact hlength k' (List.mem_cons_of_mem k hk')
      have hsame : ∀ k' ∈ ks, (Resolvable (db.thin [k]).movements k' ↔
          Resolvable db.movements k') := by
        intro k' hk'
        unfold Resolvable
        rw [hother k' hk']
      have hpos : ks.filter (fun k' => decide (Resolvable (db.thin [k]).movements k')) =
          ks.filter fun k' => decide (Resolvable db.movements k') :=
        List.filter_congr fun k' hk' => decide_eq_decide.mpr (hsame k' hk')
      have hneg : ks.filter (fun k' => decide ¬ Resolvable (db.thin [k]).movements k') =
          ks.filter fun k' => decide ¬ Resolvable db.movements k' :=
        List.filter_congr fun k' hk' => decide_eq_decide.mpr (not_congr (hsame k' hk'))
      refine hloop.trans ?_
      rw [hpos, hneg, List.filter_cons_of_pos (by simpa using hresolvable),
        List.filter_cons_of_neg (by simpa using hresolvable),
        MigrationDB.thin_cons fun hmem => hk (List.mem_of_mem_filter hmem)]
    · rw [if_neg hresolvable]
      refine (ih db (required ++ [k]) hnodup fun k' hk' =>
        hlength k' (List.mem_cons_of_mem k hk')).trans ?_
      rw [List.filter_cons_of_neg (by simpa using hresolvable),
        List.filter_cons_of_pos (by simpa using hresolvable), List.append_assoc]
      rfl

/-! ## Section 4: The constraint -/

theorem count_keys (movements : List DatedMovement) (k : GroupKey) :
    (movements.flatMap fun m => m.toInventoryMovement.keys).count k =
      movements.countP fun m => groupKey m = some k := by
  induction movements with
  | nil => rfl
  | cons m movements ih =>
    have hkeys : m.toInventoryMovement.keys = (groupKey m).toList := by
      unfold InventoryMovement.keys groupKey
      cases m.orderId <;> rfl
    rw [List.flatMap_cons, List.count_append, ih, List.countP_cons, hkeys, Nat.add_comm]
    cases groupKey m with
    | none => simp
    | some k' => simp [List.count_singleton]

/-- The constraint holds when there are no duplicate groups. -/
theorem satisfiesConstraint_iff {movements : List DatedMovement} :
    SatisfiesConstraint movements ↔ duplicateGroups movements = [] := by
  unfold SatisfiesConstraint
  rw [List.nodup_iff_count_le_one, List.eq_nil_iff_forall_not_mem]
  simp only [mem_duplicateGroups, length_members, count_keys, not_lt]

/-- After the groups have been thinned there are none. -/
theorem duplicateGroups_thin (db : MigrationDB) :
    duplicateGroups (db.thin (duplicateGroups db.movements)).movements = [] := by
  rw [List.eq_nil_iff_forall_not_mem]
  intro k hk
  rw [mem_duplicateGroups, length_members, List.countP_eq_length_filter] at hk
  by_cases hmem : k ∈ duplicateGroups db.movements
  · have hleft : (db.thin (duplicateGroups db.movements)).movements.filter
        (fun m => groupKey m = some k) = _ := filter_thin_of_mem db.nodup hmem
    rw [hleft] at hk
    cases hhead : (members groupKey rowRank db.movements k).head? <;> simp [hhead] at hk
  · have hleft : (db.thin (duplicateGroups db.movements)).movements.filter
        (fun m => groupKey m = some k) = _ := filter_thin_of_not_mem hmem
    rw [hleft, ← List.countP_eq_length_filter, ← length_members] at hk
    exact hmem (mem_duplicateGroups.mpr hk)

/-! ## Section 5: The upgrade -/

variable {order : GroupOrder}

/-- Without duplicate groups the loop has nothing to do. -/
theorem dedupe_eq_self (h : duplicateGroups db.movements = []) :
    dedupeInventoryMovements order db = .ok db := by
  have hgroups : order.groups db.movements = [] :=
    List.perm_nil.mp (h ▸ order.perm db.movements)
  unfold dedupeInventoryMovements
  rw [if_pos hgroups]
  rfl

/-- All duplicate groups can be resolved, and are. -/
theorem dedupe_eq_ok (h : ∀ k ∈ duplicateGroups db.movements, Resolvable db.movements k) :
    dedupeInventoryMovements order db = .ok (db.thin (duplicateGroups db.movements)) := by
  have hperm := order.perm db.movements
  have hmem : ∀ k, k ∈ order.groups db.movements ↔ k ∈ duplicateGroups db.movements :=
    fun k => hperm.mem_iff
  have hthin : db.thin (order.groups db.movements) = db.thin (duplicateGroups db.movements) :=
    MigrationDB.ext (thin_congr hmem) rfl rfl
  by_cases hgroups : order.groups db.movements = []
  · have hnone : duplicateGroups db.movements = [] := List.nil_perm.mp (hgroups ▸ hperm)
    rw [dedupe_eq_self hnone, hnone]
    exact congrArg Except.ok (MigrationDB.ext (thin_eq_self (by simp)).symm rfl rfl)
  · have hloop := foldlM_dedupeGroup (order.groups db.movements) db []
      (hperm.nodup_iff.mpr (nodup_duplicateGroups _))
      fun k hk => mem_duplicateGroups.mp ((hmem k).mp hk)
    have hall : (order.groups db.movements).filter (fun k => decide (Resolvable db.movements k)) =
        order.groups db.movements :=
      List.filter_eq_self.mpr fun k hk => decide_eq_true (h k ((hmem k).mp hk))
    have hnone : (order.groups db.movements).filter
        (fun k => decide ¬ Resolvable db.movements k) = [] :=
      List.filter_eq_nil_iff.mpr fun k hk => by simpa using h k ((hmem k).mp hk)
    rw [hall, hnone] at hloop
    unfold dedupeInventoryMovements
    rw [if_neg hgroups, hloop, ← hthin]
    rfl

/-- A group that cannot be resolved stops the upgrade. -/
theorem dedupe_error (order : GroupOrder) {k : GroupKey} (hk : k ∈ duplicateGroups db.movements)
    (hnot : ¬ Resolvable db.movements k) :
    ∃ e, dedupeInventoryMovements order db = .error e := by
  have hperm := order.perm db.movements
  have hmem := hperm.mem_iff.mpr hk
  have hloop := foldlM_dedupeGroup (order.groups db.movements) db []
    (hperm.nodup_iff.mpr (nodup_duplicateGroups _))
    fun k' hk' => mem_duplicateGroups.mp (hperm.mem_iff.mp hk')
  have hrequired : (order.groups db.movements).filter
      (fun k => decide ¬ Resolvable db.movements k) ≠ [] :=
    List.ne_nil_of_mem (List.mem_filter.mpr ⟨hmem, decide_eq_true hnot⟩)
  unfold dedupeInventoryMovements
  rw [if_neg (List.ne_nil_of_mem hmem), hloop]
  show ∃ e, (if _ ≠ [] then Except.error _ else Except.ok _) = Except.error e
  rw [if_pos (by simpa using hrequired)]
  exact ⟨_, rfl⟩

/-- The upgrade succeeds where the constraint is new and every group has one `quantity_after`,
and then it thins the groups. -/
theorem upgrade_eq_ok {upgraded : MigrationDB} :
    upgrade order db = .ok upgraded ↔
      (db.constraint = false ∧ ∀ k ∈ duplicateGroups db.movements, Resolvable db.movements k) ∧
        upgraded = { db.thin (duplicateGroups db.movements) with constraint := true } := by
  unfold upgrade
  by_cases hall : ∀ k ∈ duplicateGroups db.movements, Resolvable db.movements k
  · rw [dedupe_eq_ok hall]
    show createUniqueConstraint (db.thin (duplicateGroups db.movements)) = .ok upgraded ↔ _
    have hunique := satisfiesConstraint_iff.mpr (duplicateGroups_thin db)
    unfold createUniqueConstraint
    rw [MigrationDB.thin_constraint, if_pos hunique]
    cases db.constraint with
    | true => exact iff_of_false (fun h => by cases h) fun h => Bool.noConfusion h.1.1
    | false =>
      constructor
      · intro h
        exact ⟨⟨rfl, hall⟩, (Except.ok.inj h).symm⟩
      · intro h
        rw [h.2]
        rfl
  · refine iff_of_false ?_ fun h => hall h.1.2
    obtain ⟨k, hk, hnot⟩ := not_forall₂.mp hall
    obtain ⟨e, he⟩ := dedupe_error order hk hnot
    rw [he]
    intro h
    cases h

/-! ## Section 6: The whole migration -/

/-- The table keeps of each group its earliest row, and everything outside the groups; nothing is
added or changed. -/
structure Deduped (db upgraded : MigrationDB) : Prop where
  sublist : upgraded.movements.Sublist db.movements
  one_left : ∀ k, (∃ m ∈ db.movements, groupKey m = some k) →
    ∃ first, upgraded.movements.filter (fun m => groupKey m = some k) = [first] ∧
      first ∈ db.movements ∧
        ∀ m ∈ db.movements, groupKey m = some k → rowRank first ≤ rowRank m
  without_order : upgraded.movements.filter (fun m => m.orderId = none) =
    db.movements.filter fun m => m.orderId = none
  unique_group : ∀ m k, db.movements.filter (fun m => groupKey m = some k) = [m] →
    m ∈ upgraded.movements
  quantities : upgraded.availableQuantity = db.availableQuantity
  satisfies : SatisfiesConstraint upgraded.movements ∧ upgraded.constraint = true

/-- Running the upgrade again finds nothing to do, and fails at the constraint that exists. -/
def DoesNothingAgain (upgraded : MigrationDB) : Prop :=
  ∀ order : GroupOrder, dedupeInventoryMovements order upgraded = .ok upgraded ∧
    (runUpgrade order upgraded).2 = upgraded

theorem deduped_thin (db : MigrationDB) :
    Deduped db { db.thin (duplicateGroups db.movements) with constraint := true } := by
  have hone : ∀ k, (∃ m ∈ db.movements, groupKey m = some k) →
      ∃ first, (db.thin (duplicateGroups db.movements)).movements.filter
          (fun m => groupKey m = some k) = [first] ∧ first ∈ db.movements ∧
        ∀ m ∈ db.movements, groupKey m = some k → rowRank first ≤ rowRank m := by
    intro k hk
    obtain ⟨m, hm, hk⟩ := hk
    obtain ⟨first, hfirst⟩ := exists_head rowRank hm hk
    have hmem := mem_members.mp (List.mem_of_head? hfirst)
    refine ⟨first, ?_, hmem.1, fun m hm hk => rank_head_le hfirst hm hk⟩
    by_cases hdup : k ∈ duplicateGroups db.movements
    · exact (filter_thin_of_mem db.nodup hdup).trans (by rw [hfirst]; rfl)
    · -- the only row of its group is its first
      refine (filter_thin_of_not_mem hdup).trans ?_
      have hperm := members_perm groupKey rowRank db.movements k
      have hlength : (members groupKey rowRank db.movements k).length ≤ 1 :=
        not_lt.mp fun h => hdup (mem_duplicateGroups.mpr h)
      obtain ⟨rest, hrest⟩ := List.head?_eq_some_iff.mp hfirst
      rw [hrest] at hperm hlength
      have hnil : rest = [] := by
        rw [List.length_cons] at hlength
        exact List.length_eq_zero_iff.mp (by omega)
      rw [hnil] at hperm
      exact (List.singleton_perm.mp hperm).symm
  refine ⟨thin_sublist, hone, ?_, ?_, rfl, ?_, rfl⟩
  · show (Representatives.thin _ _ _ _).filter _ = _
    unfold Representatives.thin
    rw [List.filter_filter]
    refine List.filter_congr fun m _ => ?_
    by_cases hm : m.orderId = none
    · simp [hm, groupKey]
    · simp [hm]
  · intro m k honly
    have hm : m ∈ db.movements.filter fun m => groupKey m = some k := by
      rw [honly]
      exact List.mem_singleton_self m
    obtain ⟨hmem, hkey⟩ := List.mem_filter.mp hm
    obtain ⟨first, hleft, hfirst, -⟩ := hone k ⟨m, hmem, of_decide_eq_true hkey⟩
    have hin : first ∈ (db.thin (duplicateGroups db.movements)).movements.filter
        fun m => groupKey m = some k := hleft ▸ List.mem_singleton_self first
    obtain ⟨hstays, hkey⟩ := List.mem_filter.mp hin
    have hsame : first ∈ db.movements.filter fun m => groupKey m = some k :=
      List.mem_filter.mpr ⟨hfirst, hkey⟩
    rw [honly, List.mem_singleton] at hsame
    exact hsame ▸ hstays
  · exact satisfiesConstraint_iff.mpr (duplicateGroups_thin db)

/-- The upgrade raises and changes nothing, or it keeps the earliest row of every group and
leaves the rest as it was; then running it again does nothing. -/
theorem upgrade_dedupes (order : GroupOrder) (db : MigrationDB) :
    ((runUpgrade order db).1 ≠ none ∧ (runUpgrade order db).2 = db) ∨
    ((runUpgrade order db).1 = none ∧ Deduped db (runUpgrade order db).2 ∧
      DoesNothingAgain (runUpgrade order db).2) := by
  unfold runUpgrade
  cases hupgrade : upgrade order db with
  | error e => exact .inl ⟨(by simp), rfl⟩
  | ok upgraded =>
    obtain ⟨-, rfl⟩ := upgrade_eq_ok.mp hupgrade
    refine .inr ⟨rfl, deduped_thin db, fun again => ⟨?_, ?_⟩⟩
    · exact dedupe_eq_self (duplicateGroups_thin db)
    · -- the constraint exists, so the second run raises and is rolled back
      unfold runUpgrade
      cases hagain : upgrade again { db.thin (duplicateGroups db.movements) with
          constraint := true } with
      | error e => rfl
      | ok twice => exact Bool.noConfusion (upgrade_eq_ok.mp hagain).1.1

end AyushOms.Inventory
