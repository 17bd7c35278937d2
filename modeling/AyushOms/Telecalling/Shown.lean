import AyushOms.Telecalling.Attempts

/-!
# The Calls Shown for an Order

What `resolve_current_for_order` returns without the void rows: the calls the order is shown
with, which an edit, a deletion and the counter of the assignment go by. A logged call is one
more of them, a correction takes the place of the row it corrects, a deletion takes it away.
The latest of them is determined by time and number.

## Main results

- `CallLog.visible_logged`, `CallLog.visible_corrected`: the calls shown after one more row
- `CallLog.latestAttempt_eq`: `latestAttempt` finds the one latest call shown
-/

namespace AyushOms.Telecalling

open AyushOms.Lib

/-! ## Section 1: After one more row -/

/-- The counter of the active assignment. -/
def attemptCountOf (db : CallDB) (orderId : UUID) : Option ℤ :=
  (getActiveForOrder db.assignments orderId).map (·.attemptCount)

/-- How many calls `resolve_current_for_order` returns. -/
def currentCalls (db : CallDB) (orderId : UUID) : ℕ :=
  (resolveCurrentForOrder db.callAttempts orderId false).length

section Shown

variable {attempts attempts' : AttemptTable} {orderId : UUID} {n : ℕ} {row target : CallAttempt}

/-- The rows shown for an order are the tips that are not void. -/
theorem mem_visible {c : CallAttempt} :
    c ∈ resolveCurrentForOrder attempts orderId false ↔
      IsTip attempts orderId c ∧ c.isVoid = false := by
  rw [resolveCurrentForOrder_visible, List.mem_filter, mem_resolveCurrentForOrder_iff_isTip]
  simp

theorem nodup_visible : (resolveCurrentForOrder attempts orderId false).Nodup := by
  rw [resolveCurrentForOrder_visible]
  exact nodup_resolveCurrentForOrder.filter _

/-- What the log of an order shows depends on its own rows only. -/
theorem resolveCurrentForOrder_congr
    (h : attemptsOf attempts' orderId = attemptsOf attempts orderId) (includeVoid : Bool) :
    resolveCurrentForOrder attempts' orderId includeVoid =
      resolveCurrentForOrder attempts orderId includeVoid := by
  have hlist : listForOrder attempts' orderId = listForOrder attempts orderId :=
    congrArg (List.insertionSort NewestFirst) h
  rw [resolveCurrentForOrder, resolveCurrentForOrder, hlist]

/-- A call leaves the rows of the other orders as they are. -/
theorem ServiceCall.Leaves.attemptsOf_other {db db' : CallDB} {call : ServiceCall}
    {a a' : OrderAssignment} (h : Leaves db db' call a a') (ho : orderId ≠ call.orderId) :
    attemptsOf db'.callAttempts orderId = attemptsOf db.callAttempts orderId := by
  cases h with
  | logCall c a hinsert => exact attemptsOf_insert_other hinsert (Ne.symm ho)
  | editCallAttempt c a target _ hinsert => exact attemptsOf_insert_other hinsert (Ne.symm ho)
  | deleteCallAttempt c a target _ hinsert => exact attemptsOf_insert_other hinsert (Ne.symm ho)
  | reassignOrder c current telecaller hlog => rw [hlog]

/-- An appended row of the order is a tip, beside the tips it does not correct. -/
theorem CallLog.isTip_insert (h : CallLog attempts orderId n)
    (hinsert : attempts.insert? row = some attempts') (ho : row.orderId = orderId)
    (hself : row.correctsAttemptId ≠ some row.id) {x : CallAttempt} :
    IsTip attempts' orderId x ↔
      (IsTip attempts orderId x ∧ row.correctsAttemptId ≠ some x.id) ∨ x = row := by
  have hlog : attemptsOf attempts' orderId = attemptsOf attempts orderId ++ [row] :=
    attemptsOf_insert_own hinsert ho
  rw [IsTip, hlog]
  exact h.history.tip_concat (id_ne_of_insert? hinsert) hself

/-- A logged call is shown beside the others. -/
theorem CallLog.visible_logged (h : CallLog attempts orderId n)
    (hinsert : attempts.insert? row = some attempts') (ho : row.orderId = orderId)
    (hfirst : row.correctsAttemptId = none) (hvoid : row.isVoid = false) :
    (resolveCurrentForOrder attempts' orderId false).Perm
      (row :: resolveCurrentForOrder attempts orderId false) := by
  have hfresh : row ∉ resolveCurrentForOrder attempts orderId false := fun hmem =>
    id_ne_of_insert? hinsert row (mem_visible.mp hmem).1.mem rfl
  refine (List.perm_ext_iff_of_nodup nodup_visible
    (List.nodup_cons.mpr ⟨hfresh, nodup_visible⟩)).mpr fun x => ?_
  rw [mem_visible, h.isTip_insert hinsert ho (by simp [hfirst]), List.mem_cons, mem_visible]
  constructor
  · rintro ⟨⟨htip, -⟩ | rfl, hx⟩
    · exact .inr ⟨htip, hx⟩
    · exact .inl rfl
  · rintro (rfl | ⟨htip, hx⟩)
    · exact ⟨.inr rfl, hvoid⟩
    · exact ⟨.inl ⟨htip, by simp [hfirst]⟩, hx⟩

/-- A correction is shown in place of the row it corrects, unless it is a deletion. -/
theorem CallLog.visible_corrected (h : CallLog attempts orderId n)
    (hinsert : attempts.insert? row = some attempts') (ho : row.orderId = orderId)
    (htip : IsTip attempts orderId target) (hcorrects : row.correctsAttemptId = some target.id) :
    (resolveCurrentForOrder attempts' orderId false).Perm
      ((if row.isVoid then [] else [row]) ++
        (resolveCurrentForOrder attempts orderId false).erase target) := by
  have hfresh : row ∉ (resolveCurrentForOrder attempts orderId false).erase target :=
    fun hmem => id_ne_of_insert? hinsert row
      (mem_visible.mp (List.mem_of_mem_erase hmem)).1.mem rfl
  have hself : row.correctsAttemptId ≠ some row.id := by
    rw [hcorrects]
    exact fun heq => id_ne_of_insert? hinsert target htip.mem (Option.some.inj heq)
  -- of the tips, the row corrects its target and no other
  have hcorrected : ∀ x, IsTip attempts orderId x →
      (row.correctsAttemptId ≠ some x.id ↔ x ≠ target) := fun x hx => by
    rw [hcorrects, not_iff_not, Option.some_inj]
    exact ⟨fun heq => (h.history.id_injective htip.mem hx.mem heq).symm, fun heq => heq ▸ rfl⟩
  have hnodup : ((if row.isVoid then [] else [row]) ++
      (resolveCurrentForOrder attempts orderId false).erase target).Nodup := by
    split
    · exact nodup_visible.erase _
    · exact List.nodup_cons.mpr ⟨hfresh, nodup_visible.erase _⟩
  refine (List.perm_ext_iff_of_nodup nodup_visible hnodup).mpr fun x => ?_
  have hrow : x ∈ (if row.isVoid then [] else [row]) ↔ row.isVoid = false ∧ x = row := by
    cases row.isVoid <;> simp
  rw [mem_visible, h.isTip_insert hinsert ho hself, List.mem_append, hrow,
    nodup_visible.mem_erase_iff, mem_visible]
  constructor
  · rintro ⟨⟨hx, hne⟩ | rfl, hshown⟩
    · exact .inr ⟨(hcorrected x hx).mp hne, hx, hshown⟩
    · exact .inl ⟨hshown, rfl⟩
  · rintro (⟨hvoid, rfl⟩ | ⟨hne, hx, hshown⟩)
    · exact ⟨.inr rfl, hvoid⟩
    · exact ⟨.inl ⟨hx, (hcorrected x hx).mpr hne⟩, hshown⟩

/-- One call more is shown. -/
theorem CallLog.length_visible_logged (h : CallLog attempts orderId n)
    (hinsert : attempts.insert? row = some attempts') (ho : row.orderId = orderId)
    (hfirst : row.correctsAttemptId = none) (hvoid : row.isVoid = false) :
    (resolveCurrentForOrder attempts' orderId false).length =
      (resolveCurrentForOrder attempts orderId false).length + 1 := by
  rw [(h.visible_logged hinsert ho hfirst hvoid).length_eq, List.length_cons]

/-- As many calls are shown after a correction. -/
theorem CallLog.length_visible_corrected (h : CallLog attempts orderId n)
    (hinsert : attempts.insert? row = some attempts') (ho : row.orderId = orderId)
    (htip : IsTip attempts orderId target) (htarget : target.isVoid = false)
    (hcorrects : row.correctsAttemptId = some target.id) (hvoid : row.isVoid = false) :
    (resolveCurrentForOrder attempts' orderId false).length =
      (resolveCurrentForOrder attempts orderId false).length := by
  have hmem : target ∈ resolveCurrentForOrder attempts orderId false :=
    mem_visible.mpr ⟨htip, htarget⟩
  rw [(h.visible_corrected hinsert ho htip hcorrects).length_eq, hvoid,
    if_neg Bool.false_ne_true, List.singleton_append, List.length_cons,
    List.length_erase_add_one hmem]

/-- One call less is shown after a deletion. -/
theorem CallLog.length_visible_deleted (h : CallLog attempts orderId n)
    (hinsert : attempts.insert? row = some attempts') (ho : row.orderId = orderId)
    (htip : IsTip attempts orderId target) (htarget : target.isVoid = false)
    (hcorrects : row.correctsAttemptId = some target.id) (hvoid : row.isVoid = true) :
    (resolveCurrentForOrder attempts' orderId false).length + 1 =
      (resolveCurrentForOrder attempts orderId false).length := by
  have hmem : target ∈ resolveCurrentForOrder attempts orderId false :=
    mem_visible.mpr ⟨htip, htarget⟩
  rw [(h.visible_corrected hinsert ho htip hcorrects).length_eq, if_pos hvoid, List.nil_append,
    List.length_erase_add_one hmem]

/-! ## Section 2: The latest call -/

/-- The time and the number of a call, in this order. -/
def attemptKey (c : CallAttempt) : Instant ×ₗ ℕ := toLex (c.attemptedAt, c.attemptNumber)

/-- No other call is later; of calls at one time the greatest number is the latest. -/
def IsLatest (calls : List CallAttempt) (c : CallAttempt) : Prop :=
  c ∈ calls ∧ ∀ c' ∈ calls, attemptKey c' ≤ attemptKey c

theorem latestAttempt_eq_none {calls : List CallAttempt} :
    latestAttempt calls = none ↔ calls = [] := by
  cases calls with
  | nil => simp [latestAttempt]
  | cons first rest =>
    rw [latestAttempt]
    split
    · simp
    · split <;> simp

theorem isLatest_of_latestAttempt {calls : List CallAttempt} {c : CallAttempt}
    (h : latestAttempt calls = some c) : IsLatest calls c := by
  induction calls generalizing c with
  | nil => cases h
  | cons first rest ih =>
    rw [latestAttempt] at h
    cases hrest : latestAttempt rest with
    | none =>
      rw [hrest] at h
      obtain rfl := Option.some.inj h
      simp [IsLatest, latestAttempt_eq_none.mp hrest]
    | some best =>
      obtain ⟨hmem, hbest⟩ := ih hrest
      rw [hrest] at h
      dsimp only at h
      split at h
      · rename_i hlt
        obtain rfl := Option.some.inj h
        refine ⟨List.mem_cons_of_mem _ hmem, fun c' hc' => ?_⟩
        rcases List.mem_cons.mp hc' with rfl | hc'
        · exact le_of_lt hlt
        · exact hbest c' hc'
      · rename_i hle
        obtain rfl := Option.some.inj h
        refine ⟨List.mem_cons_self, fun c' hc' => ?_⟩
        rcases List.mem_cons.mp hc' with rfl | hc'
        · exact le_refl _
        · exact (hbest c' hc').trans (not_lt.mp hle)

/-- Of the calls shown there is one of a number. -/
theorem CallLog.visible_unique (h : CallLog attempts orderId n) {c c' : CallAttempt}
    (hc : c ∈ resolveCurrentForOrder attempts orderId false)
    (hc' : c' ∈ resolveCurrentForOrder attempts orderId false)
    (hnumber : c.attemptNumber = c'.attemptNumber) : c = c' :=
  h.history.tip_unique (mem_visible.mp hc).1 (mem_visible.mp hc').1 hnumber

/-- So there is one latest. -/
theorem CallLog.latestAttempt_eq (h : CallLog attempts orderId n) {c : CallAttempt}
    (hc : IsLatest (resolveCurrentForOrder attempts orderId false) c) :
    latestAttempt (resolveCurrentForOrder attempts orderId false) = some c := by
  cases hlatest : latestAttempt (resolveCurrentForOrder attempts orderId false) with
  | none =>
    have hmem := hc.1
    rw [latestAttempt_eq_none.mp hlatest] at hmem
    exact absurd hmem List.not_mem_nil
  | some c' =>
    obtain ⟨hmem, hle⟩ := isLatest_of_latestAttempt hlatest
    have hkey : attemptKey c' = attemptKey c := le_antisymm (hc.2 c' hmem) (hle c hc.1)
    have hnumber : c'.attemptNumber = c.attemptNumber :=
      (Prod.mk.inj (toLex.injective hkey)).2
    rw [h.visible_unique hmem hc.1 hnumber]

/-- The calls shown come in one order. -/
theorem CallLog.visible_eq_of_perm (h : CallLog attempts orderId n) {orderId' : UUID}
    (hperm : (resolveCurrentForOrder attempts' orderId' false).Perm
      (resolveCurrentForOrder attempts orderId false)) :
    resolveCurrentForOrder attempts' orderId' false =
      resolveCurrentForOrder attempts orderId false := by
  have hsorted : ∀ (attempts : AttemptTable) (orderId : UUID),
      (resolveCurrentForOrder attempts orderId false).Pairwise NewestFirst := by
    intro attempts orderId
    rw [resolveCurrentForOrder_visible]
    exact pairwise_resolveCurrentForOrder.filter _
  refine List.Perm.eq_of_pairwise (fun a b ha hb hab hba => ?_) (hsorted _ _) (hsorted _ _) hperm
  exact h.visible_unique (hperm.mem_iff.mp ha) hb (Nat.le_antisymm hba hab)

end Shown

end AyushOms.Telecalling
