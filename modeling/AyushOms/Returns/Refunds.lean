import AyushOms.Lib.Run
import AyushOms.Lib.Shares
import AyushOms.Returns.Service
import Mathlib.Algebra.Order.BigOperators.Group.List

/-!
# What the Refunds of an Order Add Up To

A return is refunded once, when it is completed, whatever statuses follow; the amount is its
own share of its line, or the whole order, and no other return is looked at. So the refunds of
an order are, as a list, the shares of its completed returns in some order, and their sums are
decided by which returns were completed and for how many units.

## Main results

- `accounted_run`: the refunds are the shares of the completed returns
- `refundedForItem_le_iff`: when the refunds of a line stay within its total
- `refunds_of_order`: the refunds after any calls on an order
-/

namespace AyushOms.Returns

open AyushOms.Lib AyushOms.Orders

namespace ReturnsDB

variable {textOf : Instant → Option String} {db db' : ReturnsDB} {orderId returnId : UUID}
  {now : Instant} {r r' : Return}

/-! ## Section 1: What a call leaves -/

theorem createReturn_eq_ok {request : ReturnCreateRequest}
    (h : db.createReturn request now = .ok (r, db')) :
    request.quantity ≤ maxInteger ∧ r = db.newReturn request now ∧
      ∃ horder hitem, db' = db.insertReturn request now horder hitem := by
  unfold createReturn at h
  split at h
  · cases h
  · split at h
    · cases h
    · rename_i hquantity
      split at h
      · cases h
      · split at h
        · cases h
          exact ⟨not_lt.mp hquantity, rfl, _, _, rfl⟩
        · cases h

/-- The refund of a return is created unless there is one. -/
theorem createRefundForReturn_eq_ok {hr : r ∈ db.returns.rows}
    (h : db.createRefundForReturn hr now = .ok db') :
    (db.refundsOfReturn r.id = [] ∧ db' = db.insertRefund hr now) ∨
      (∃ f, db.refundsOfReturn r.id = [f]) ∧ db' = db := by
  unfold createRefundForReturn at h
  split at h
  · rename_i hnone
    split at h
    · cases h
    · cases h
      exact .inl ⟨hnone, rfl⟩
  · rename_i f hone
    cases h
    exact .inr ⟨⟨f, hone⟩, rfl⟩
  · cases h

theorem updateReturn_eq_ok {request : ReturnUpdateRequest}
    (h : db.updateReturn textOf returnId request now = .ok (r', db')) :
    ∃ r clean, ∃ hfind : db.getReturn returnId = some r,
      cleanColumns textOf now request r = some clean ∧ r' = clean.write r ∧
      (request.status ≠ some .completed ∧ db' = db.writeReturn returnId clean ∨
        request.status = some .completed ∧
          (db.writeReturn returnId clean).createRefundForReturn (mem_writeReturn hfind clean) now =
            .ok db') := by
  unfold updateReturn at h
  split at h
  · cases h
  · rename_i r hfind
    split at h
    · cases h
    · rename_i clean hclean
      refine ⟨r, clean, hfind, hclean, ?_⟩
      split at h
      · rename_i hstatus
        cases hcreate : (db.writeReturn returnId clean).createRefundForReturn
            (mem_writeReturn hfind clean) now with
        | error e =>
          rw [hcreate] at h
          cases h
        | ok db₁ =>
          rw [hcreate] at h
          cases h
          exact ⟨rfl, .inr ⟨hstatus, rfl⟩⟩
      · rename_i hstatus
        cases h
        exact ⟨rfl, .inl ⟨hstatus, rfl⟩⟩

/-- The status that an update leaves, and whether the return has ever been completed then. -/
theorem write_cleanColumns {request : ReturnUpdateRequest} {clean : ReturnColumns}
    (h : cleanColumns textOf now request r = some clean) :
    (clean.write r).status = request.status.getD r.status ∧
      ((clean.write r).completedAt.isSome ↔ r.completedAt.isSome ∨
        request.status = some .completed ∧ r.status ≠ .completed) := by
  unfold cleanColumns at h
  cases hstatus : request.status with
  | none =>
    rw [hstatus] at h
    cases h
    simp [ReturnColumns.write]
  | some status =>
    rw [hstatus] at h
    dsimp only at h
    split at h
    · rename_i hne
      cases status <;>
        simp only [ReturnColumns.stamp, timestampFieldFor, Option.some.injEq,
          Option.map_eq_some_iff] at h
      case approved | received => subst h; simp [ReturnColumns.write]
      case completed => subst h; simp [ReturnColumns.write, hne.symm]
      all_goals
        obtain ⟨text, -, rfl⟩ := h
        simp [ReturnColumns.write]
    · rename_i heq
      cases h
      obtain rfl := not_not.mp heq
      simp [ReturnColumns.write]

/-! ## Section 2: Refunds are the shares of completed returns -/

/-- What the refunds of an order say: which return each is for, and its amount. -/
def refundEntries (db : ReturnsDB) (orderId : UUID) : List (Option UUID × ℚ) :=
  (db.refundsForOrder orderId).map fun f => (f.returnId, f.amount)

/-- A return of the order that was ever completed. -/
def completedFor (orderId : UUID) (r : Return) : Bool :=
  r.orderId == orderId && r.completedAt.isSome

/-- The returns of an order that were ever completed. -/
def completedReturns (db : ReturnsDB) (orderId : UUID) : List Return :=
  db.returns.rows.filter (completedFor orderId)

/-- The entry of a return's share. -/
def share (db : ReturnsDB) (r : Return) : Option UUID × ℚ := (some r.id, db.computeRefundAmount r)

/-- A refund belongs to the order of its return, a return at `COMPLETED` has its time, and the
quantities are what the schema and the column accept. -/
structure Consistent (db : ReturnsDB) (orderId : UUID) : Prop where
  ownOrder : ∀ f ∈ db.refunds.rows, ∀ r ∈ db.returns.rows, f.returnId = some r.id →
    r.orderId = orderId → f.orderId = orderId
  stamped : ∀ r ∈ db.returns.rows, r.orderId = orderId → r.status = .completed →
    r.completedAt.isSome
  quantity : ∀ r ∈ db.returns.rows, r.orderId = orderId →
    0 < r.quantity ∧ r.quantity ≤ maxInteger

/-- Beside that, the refunds of the order are the shares of its completed returns. -/
structure Accounted (db : ReturnsDB) (orderId : UUID) : Prop extends
    db.Consistent orderId where
  settled : (db.refundEntries orderId).Perm ((db.completedReturns orderId).map db.share)

/-- The order has no returns and no refunds yet. -/
structure NoReturns (db : ReturnsDB) (orderId : UUID) : Prop where
  returns : ∀ r ∈ db.returns.rows, r.orderId ≠ orderId
  refunds : ∀ f ∈ db.refunds.rows, f.orderId ≠ orderId

theorem NoReturns.accounted (h : db.NoReturns orderId) : db.Accounted orderId where
  ownOrder _ _ r hr _ horder := absurd horder (h.returns r hr)
  stamped r hr horder _ := absurd horder (h.returns r hr)
  quantity r hr horder := absurd horder (h.returns r hr)
  settled := by
    have hrefunds : db.refundsForOrder orderId = [] := by
      simpa [refundsForOrder] using h.refunds
    have hreturns : db.completedReturns orderId = [] := by
      refine List.filter_eq_nil_iff.mpr fun r hr => ?_
      simp [completedFor, h.returns r hr]
    simp [refundEntries, hrefunds, hreturns]

/-- The completed return with a given id. -/
theorem completedReturns_filter_id (hr : r ∈ db.returns.rows) (horder : r.orderId = orderId) :
    (db.completedReturns orderId).filter (fun r' => r'.id == r.id) =
      if r.completedAt.isSome then [r] else [] := by
  have hone : db.returns.rows.filter (fun r' => r'.id == r.id) = [r] := by
    rw [db.returns.filter_eq_toList_find? (k := r.id) (by simp +contextual)]
    have hfind : db.getReturn r.id = some r := getReturn_eq_some.mpr ⟨hr, rfl⟩
    rw [getReturn] at hfind
    rw [hfind, Option.toList_some]
  calc (db.completedReturns orderId).filter (fun r' => r'.id == r.id)
      = (db.returns.rows.filter fun r' => r'.id == r.id).filter (completedFor orderId) := by
        rw [completedReturns, List.filter_filter, List.filter_filter]
        simp only [Bool.and_comm]
    _ = if r.completedAt.isSome then [r] else [] := by
        rw [hone]
        simp [List.filter_cons, completedFor, horder]

/-- A completed return has one refund, its share; another return has none. -/
theorem Accounted.refundsOfReturn (h : db.Accounted orderId) (hr : r ∈ db.returns.rows)
    (horder : r.orderId = orderId) :
    (db.refundsOfReturn r.id).map (fun f => (f.returnId, f.amount)) =
      if r.completedAt.isSome then [db.share r] else [] := by
  have hentries : (db.refundsOfReturn r.id).map (fun f => (f.returnId, f.amount)) =
      (db.refundEntries orderId).filter fun entry => entry.1 == some r.id := by
    -- every refund of the return is one of the order
    rw [refundEntries, List.filter_map, refundsForOrder, List.filter_filter]
    refine congrArg (List.map _) (List.filter_congr fun f hf => ?_)
    by_cases hid : f.returnId = some r.id
    · simp [hid, h.ownOrder f hf r hr hid horder]
    · simp [hid]
  have hshares : ((db.completedReturns orderId).map db.share).filter
      (fun entry => entry.1 == some r.id) = if r.completedAt.isSome then [db.share r] else [] := by
    rw [List.filter_map]
    have hsame : ((fun entry => entry.1 == some r.id) ∘ db.share) = fun r' => r'.id == r.id := by
      funext r'
      simp [share]
    rw [hsame, completedReturns_filter_id hr horder]
    split
    · rfl
    · rfl
  have hperm := h.settled.filter fun entry => entry.1 == some r.id
  rw [← hentries, hshares] at hperm
  -- a permutation of at most one entry
  split at hperm
  · rename_i hcompleted
    rw [if_pos hcompleted]
    exact List.perm_singleton.mp hperm
  · rename_i hcompleted
    rw [if_neg hcompleted]
    exact List.perm_nil.mp hperm

/-! ## Section 3: Calls keep the account -/

theorem Accounted.insertReturn (h : db.Accounted orderId) {request : ReturnCreateRequest}
    (hquantity : request.quantity ≤ maxInteger) {horder hitem} :
    (db.insertReturn request now horder hitem).Accounted orderId := by
  have hnew : ∀ r ∈ (db.insertReturn request now horder hitem).returns.rows,
      r ∈ db.returns.rows ∨ r = db.newReturn request now := by
    intro r hr
    exact (List.mem_append.mp hr).imp_right List.mem_singleton.mp
  constructor
  · constructor
    · intro f hf r hr hid hown
      rcases hnew r hr with hr | rfl
      · exact h.ownOrder f hf r hr hid hown
      · -- no refund names a return that is not there yet
        obtain ⟨r', hr', hid'⟩ := db.refund_return f hf _ hid
        exact absurd hid' (lt_newReturnId hr').ne
    · intro r hr hown hstatus
      rcases hnew r hr with hr | rfl
      · exact h.stamped r hr hown hstatus
      · cases hstatus
    · intro r hr hown
      rcases hnew r hr with hr | rfl
      · exact h.quantity r hr hown
      · exact ⟨request.quantity_pos, hquantity⟩
  · have hcompleted : (db.insertReturn request now horder hitem).completedReturns orderId =
        db.completedReturns orderId := by
      simp [completedReturns, completedFor, ReturnsDB.insertReturn, newReturn]
    rw [hcompleted]
    exact h.settled

theorem Consistent.writeReturn (h : db.Consistent orderId)
    (hfind : db.getReturn returnId = some r) {request : ReturnUpdateRequest}
    {clean : ReturnColumns} (hclean : cleanColumns textOf now request r = some clean) :
    (db.writeReturn returnId clean).Consistent orderId := by
  obtain ⟨hr, rfl⟩ := getReturn_eq_some.mp hfind
  constructor
  · intro f hf r₁ hr₁ hid horder
    obtain ⟨r₀, hr₀, ⟨-, rfl⟩ | ⟨-, rfl⟩⟩ := Table.mem_modify.mp hr₁
    · exact h.ownOrder f hf r₀ hr₀ hid horder
    · exact h.ownOrder f hf r₁ hr₀ hid horder
  · intro r₁ hr₁ horder hstatus
    obtain ⟨r₀, hr₀, ⟨hp, rfl⟩ | ⟨-, rfl⟩⟩ := Table.mem_modify.mp hr₁
    · obtain rfl : r₀ = r := return_eq_of_id_eq hr hr₀ (by simpa using hp)
      obtain ⟨hwritten, hcompleted⟩ := write_cleanColumns hclean
      rw [hcompleted]
      by_cases hbefore : r₀.status = .completed
      · exact .inl (h.stamped r₀ hr₀ horder hbefore)
      · -- the status is new, so it is the one requested
        rw [hwritten] at hstatus
        cases hrequest : request.status with
        | none =>
          rw [hrequest] at hstatus
          exact absurd hstatus hbefore
        | some status =>
          rw [hrequest, Option.getD_some] at hstatus
          exact .inr ⟨by rw [hstatus], hbefore⟩
    · exact h.stamped r₁ hr₀ horder hstatus
  · intro r₁ hr₁ horder
    obtain ⟨r₀, hr₀, ⟨-, rfl⟩ | ⟨-, rfl⟩⟩ := Table.mem_modify.mp hr₁
    · exact h.quantity r₀ hr₀ horder
    · exact h.quantity r₁ hr₀ horder

theorem Consistent.insertRefund (h : db.Consistent orderId) {hr : r ∈ db.returns.rows} :
    (db.insertRefund hr now).Consistent orderId where
  ownOrder f hf r' hr' hid horder := by
    rcases List.mem_append.mp hf with hf | hf
    · exact h.ownOrder f hf r' hr' hid horder
    · obtain rfl := List.mem_singleton.mp hf
      obtain rfl : r = r' := return_eq_of_id_eq hr' hr (Option.some.inj hid)
      exact horder
  stamped := h.stamped
  quantity := h.quantity

/-- An update does not move a return to another order. -/
theorem completedFor_write (orderId : UUID) (clean : ReturnColumns) (r : Return) :
    completedFor orderId (clean.write r) =
      (r.orderId == orderId && (clean.write r).completedAt.isSome) := rfl

/-- The shares after a write, up to their order: those before it, and the one of the written
return when the write completes it. -/
theorem shares_writeReturn (hfind : db.getReturn returnId = some r) (clean : ReturnColumns)
    (hkept : completedFor orderId r → completedFor orderId (clean.write r)) :
    (((db.writeReturn returnId clean).completedReturns orderId).map
      (db.writeReturn returnId clean).share).Perm
      ((db.completedReturns orderId).map db.share ++
        if completedFor orderId (clean.write r) && !completedFor orderId r then [db.share r]
        else []) := by
  obtain ⟨hr, rfl⟩ := getReturn_eq_some.mp hfind
  obtain ⟨pre, post, hrows, hwritten⟩ := db.returns.exists_split_modify
    (p := fun r' => r'.id == r.id) (k := r.id) hr (by simp) (by simp +contextual) clean.write
  have hafter : (db.writeReturn r.id clean).completedReturns orderId =
      pre.filter (completedFor orderId) ++
        ([clean.write r].filter (completedFor orderId) ++ post.filter (completedFor orderId)) := by
    rw [completedReturns, ReturnsDB.writeReturn, hwritten, List.append_cons, List.filter_append,
      List.filter_append, List.append_assoc]
  have hbefore : db.completedReturns orderId =
      pre.filter (completedFor orderId) ++
        ([r].filter (completedFor orderId) ++ post.filter (completedFor orderId)) := by
    rw [completedReturns, hrows, List.append_cons, List.filter_append, List.filter_append,
      List.append_assoc]
  -- an update keeps what a return's share rests on
  have hshare : (db.writeReturn r.id clean).share = db.share := rfl
  have hsame : db.share (clean.write r) = db.share r := rfl
  rw [hafter, hbefore, hshare]
  cases hr' : completedFor orderId r with
  | true => simp [hr', hkept hr', hsame]
  | false =>
    cases hw : completedFor orderId (clean.write r) with
    | true =>
      simp only [List.filter_cons_of_pos hw, hr', hsame, List.filter_cons_of_neg, List.filter_nil,
        List.map_append, List.map_cons, List.map_nil, List.nil_append, List.append_assoc,
        Bool.false_eq_true, not_false_eq_true, Bool.not_false, Bool.and_self, if_true]
      exact List.perm_append_comm.append_left _
    | false => simp [hw, hr']

/-- A write of a return that is completed before when it is completed after keeps the
account. -/
theorem Accounted.writeReturn (h : db.Accounted orderId) (hfind : db.getReturn returnId = some r)
    {request : ReturnUpdateRequest} {clean : ReturnColumns}
    (hclean : cleanColumns textOf now request r = some clean)
    (hkept : r.orderId = orderId → request.status = some .completed → r.completedAt.isSome) :
    (db.writeReturn returnId clean).Accounted orderId where
  toConsistent := h.toConsistent.writeReturn hfind hclean
  settled := by
    have hsame : completedFor orderId (clean.write r) = completedFor orderId r := by
      rw [completedFor_write, completedFor]
      by_cases horder : r.orderId = orderId
      · have hflag : (clean.write r).completedAt.isSome = r.completedAt.isSome := by
          rw [Bool.eq_iff_iff, (write_cleanColumns hclean).2]
          exact ⟨fun hor => hor.elim id fun hnew => hkept horder hnew.1, .inl⟩
        rw [hflag]
      · have hother : (r.orderId == orderId) = false := beq_eq_false_iff_ne.mpr horder
        rw [hother, Bool.false_and, Bool.false_and]
    have hcompleted : completedFor orderId r → completedFor orderId (clean.write r) := by
      rw [hsame]
      exact id
    have hperm := shares_writeReturn hfind clean hcompleted
    simp only [hsame, Bool.and_not_self, Bool.false_eq_true, if_false, List.append_nil] at hperm
    exact h.settled.trans hperm.symm

/-- The refunds of an order after one more. -/
theorem refundEntries_insertRefund {hr : r ∈ db.returns.rows} :
    (db.insertRefund hr now).refundEntries orderId =
      db.refundEntries orderId ++ if r.orderId == orderId then [db.share r] else [] := by
  unfold refundEntries refundsForOrder
  rw [ReturnsDB.insertRefund, Table.rows_insertFresh, List.filter_append, List.map_append]
  congr 1
  by_cases horder : r.orderId = orderId
  · simp [newRefund, share, horder]
  · simp [newRefund, horder]

/-- A write that completes a return, and the refund of its share. -/
theorem Accounted.refundReturn (h : db.Accounted orderId)
    (hfind : db.getReturn returnId = some r) {request : ReturnUpdateRequest}
    {clean : ReturnColumns} (hclean : cleanColumns textOf now request r = some clean)
    (hstatus : request.status = some .completed)
    (hopen : r.orderId = orderId → ¬ r.completedAt.isSome) :
    ((db.writeReturn returnId clean).insertRefund (mem_writeReturn hfind clean) now).Accounted
      orderId where
  toConsistent := (h.toConsistent.writeReturn hfind hclean).insertRefund
  settled := by
    obtain ⟨hr, -⟩ := getReturn_eq_some.mp hfind
    have hbefore : completedFor orderId r = false := by
      by_cases horder : r.orderId = orderId
      · simp [completedFor, hopen horder]
      · simp [completedFor, horder]
    have hafter : completedFor orderId (clean.write r) = (r.orderId == orderId) := by
      rw [completedFor_write]
      by_cases horder : r.orderId = orderId
      · -- a return without its time is not at `COMPLETED`
        have hnew : r.status ≠ .completed := fun hdone => hopen horder (h.stamped r hr horder hdone)
        have hcompleted : (clean.write r).completedAt.isSome :=
          (write_cleanColumns hclean).2.mpr (.inr ⟨hstatus, hnew⟩)
        rw [hcompleted, Bool.and_true]
      · simp [horder]
    have hcompleted : completedFor orderId r → completedFor orderId (clean.write r) := by
      simp [hbefore]
    have hperm := shares_writeReturn hfind clean hcompleted
    rw [hafter, hbefore, Bool.not_false, Bool.and_true] at hperm
    rw [refundEntries_insertRefund]
    exact (h.settled.append_right _).trans hperm.symm

/-- What a call leaves is accounted for. -/
theorem accounted_step (h : db.Accounted orderId) (call : ReturnCall) :
    (returnStep textOf db call).Accounted orderId := by
  cases call with
  | create request now =>
    cases hcreate : db.createReturn request now with
    | error e => simpa only [returnStep, hcreate] using h
    | ok result =>
      obtain ⟨r, db'⟩ := result
      obtain ⟨hquantity, -, _, _, rfl⟩ := createReturn_eq_ok hcreate
      simpa only [returnStep, hcreate] using h.insertReturn hquantity
  | update returnId request now =>
    cases hupdate : db.updateReturn textOf returnId request now with
    | error e => simpa only [returnStep, hupdate] using h
    | ok result =>
      obtain ⟨r', db'⟩ := result
      simp only [returnStep, hupdate]
      obtain ⟨r, clean, hfind, hclean, -, ⟨hstatus, rfl⟩ | ⟨hstatus, hrefund⟩⟩ :=
        updateReturn_eq_ok hupdate
      · exact h.writeReturn hfind hclean fun _ hcompleted => absurd hcompleted hstatus
      · obtain ⟨hr, -⟩ := getReturn_eq_some.mp hfind
        -- the write leaves the refunds alone
        rcases createRefundForReturn_eq_ok hrefund with ⟨hnone, rfl⟩ | ⟨⟨f, hone⟩, rfl⟩
        · refine h.refundReturn hfind hclean hstatus fun horder hcompleted => ?_
          have hrefunds := h.refundsOfReturn hr horder
          rw [if_pos hcompleted, show db.refundsOfReturn r.id = [] from hnone] at hrefunds
          cases hrefunds
        · refine h.writeReturn hfind hclean fun horder _ => ?_
          have hrefunds := h.refundsOfReturn hr horder
          rw [show db.refundsOfReturn r.id = [f] from hone] at hrefunds
          by_contra hcompleted
          rw [if_neg hcompleted] at hrefunds
          cases hrefunds

/-- After any calls the refunds of an order are the shares of its completed returns. -/
theorem accounted_run (h : db.NoReturns orderId) (calls : List ReturnCall) :
    (run (returnStep textOf) db calls).Accounted orderId := by
  have hstep : ∀ db call, Accounted db orderId → (returnStep textOf db call).Accounted orderId :=
    fun _ call hdb => accounted_step hdb call
  exact run_invariant (returnStep textOf) hstep h.accounted calls

/-! ## Section 4: What the shares add up to -/

/-- The sum of the refunds of an order. -/
def refunded (db : ReturnsDB) (orderId : UUID) : ℚ :=
  ((db.refundsForOrder orderId).map (·.amount)).sum

/-- The line of the order that a refund is for. -/
def lineOf (db : ReturnsDB) (returnId : Option UUID) : Option UUID :=
  (returnId.bind db.getReturn).bind (·.orderItemId)

/-- The sum of the refunds of an order that are for one line. -/
def refundedForItem (db : ReturnsDB) (orderId itemId : UUID) : ℚ :=
  (((db.refundsForOrder orderId).filter fun f => db.lineOf f.returnId == some itemId).map
    (·.amount)).sum

/-- The completed returns of an order that name a line, or none. -/
def completedReturnsOf (db : ReturnsDB) (orderId : UUID) (itemId : Option UUID) : List Return :=
  (db.completedReturns orderId).filter fun r => r.orderItemId == itemId

/-- The units of a line that the completed returns of an order name. -/
def completedQuantity (db : ReturnsDB) (orderId itemId : UUID) : ℤ :=
  ((db.completedReturnsOf orderId (some itemId)).map (·.quantity)).sum

theorem mem_completedReturns :
    r ∈ db.completedReturns orderId ↔
      r ∈ db.returns.rows ∧ r.orderId = orderId ∧ r.completedAt.isSome := by
  simp [completedReturns, completedFor]

theorem lineOf_some (hr : r ∈ db.returns.rows) : db.lineOf (some r.id) = r.orderItemId := by
  have hfind : db.getReturn r.id = some r := getReturn_eq_some.mpr ⟨hr, rfl⟩
  simp [lineOf, hfind]

theorem Accounted.refunded_eq (h : db.Accounted orderId) :
    db.refunded orderId = ((db.completedReturns orderId).map db.computeRefundAmount).sum := by
  have hamounts := h.settled.map Prod.snd
  simp only [refundEntries, List.map_map] at hamounts
  exact hamounts.sum_eq

theorem Accounted.refundedForItem_eq (h : db.Accounted orderId) (itemId : UUID) :
    db.refundedForItem orderId itemId =
      ((db.completedReturnsOf orderId (some itemId)).map db.computeRefundAmount).sum := by
  have hentries := h.settled.filter fun entry => db.lineOf entry.1 == some itemId
  rw [refundEntries, List.filter_map, List.filter_map] at hentries
  -- a return's entry is for the line that the return names
  have hline : (db.completedReturns orderId).filter
      ((fun entry => db.lineOf entry.1 == some itemId) ∘ db.share) =
        db.completedReturnsOf orderId (some itemId) := by
    refine List.filter_congr fun r hr => ?_
    rw [Function.comp_apply, share, lineOf_some (mem_completedReturns.mp hr).1]
  rw [hline] at hentries
  have hamounts := hentries.map Prod.snd
  simp only [List.map_map] at hamounts
  exact hamounts.sum_eq

/-- A line whose units cost a whole number of cents each. -/
structure WholeCents (item : PricedItem) : Prop where
  quantity_pos : 0 < item.quantity
  total_pos : 0 < item.totalAmount
  unit : ∃ cents : ℤ, item.totalAmount = item.quantity * (cents * 10 ^ (-2 : ℤ))

/-- Such a unit price has at most twelve digits. -/
theorem WholeCents.exists_cents {item : PricedItem} (h : WholeCents item) :
    ∃ cents : ℤ, item.totalAmount / item.quantity = cents * 10 ^ (-2 : ℤ) ∧
      0 < cents ∧ cents < 10 ^ 12 := by
  obtain ⟨cents, htotal⟩ := h.unit
  have hone : (1 : ℚ) ≤ item.quantity := by exact_mod_cast h.quantity_pos
  have hpos : (0 : ℚ) < item.quantity := by linarith
  have hunit : item.totalAmount / item.quantity = cents * 10 ^ (-2 : ℤ) := by
    rw [htotal, mul_div_cancel_left₀ _ hpos.ne']
  have hunit_pos : (0 : ℚ) < cents * 10 ^ (-2 : ℤ) := hunit ▸ div_pos h.total_pos hpos
  have hunit_lt : (cents : ℚ) * 10 ^ (-2 : ℤ) < 10 ^ 10 :=
    calc (cents : ℚ) * 10 ^ (-2 : ℤ)
        ≤ item.quantity * (cents * 10 ^ (-2 : ℤ)) := le_mul_of_one_le_left hunit_pos.le hone
      _ = item.totalAmount := htotal.symm
      _ < 10 ^ 10 := (abs_lt.mp item.totalAmount_lt).2
  rw [zpow_neg, zpow_ofNat] at hunit_pos hunit_lt
  have hcents_pos : (0 : ℚ) < cents := by linarith
  have hcents_lt : (cents : ℚ) < 10 ^ 12 := by linarith
  exact ⟨cents, hunit, by exact_mod_cast hcents_pos, by exact_mod_cast hcents_lt⟩

/-- The share of such a line is exact. -/
theorem itemShare_of_wholeCents {item : PricedItem} (h : WholeCents item) {returned : ℤ}
    (hpos : 0 < returned) (hle : returned ≤ maxInteger) :
    itemShare item returned = item.totalAmount / item.quantity * returned := by
  obtain ⟨cents, hunit, hcents_pos, hcents_lt⟩ := h.exists_cents
  have hproduct : (cents : ℚ) * 10 ^ (-2 : ℤ) * returned =
      (cents * returned : ℤ) * 10 ^ (-2 : ℤ) := by
    push_cast
    ring
  -- neither the division nor the product runs out of digits
  have hdivision : decimal (item.totalAmount / item.quantity) = cents * 10 ^ (-2 : ℤ) := by
    rw [hunit]
    refine Decimal.roundDigits_of_lt rfl ?_
    rw [abs_of_pos hcents_pos]
    exact hcents_lt.trans (by norm_num)
  have hscaled : decimal (cents * 10 ^ (-2 : ℤ) * returned) =
      (cents * returned : ℤ) * 10 ^ (-2 : ℤ) := by
    rw [hproduct]
    refine Decimal.roundDigits_of_lt rfl ?_
    rw [abs_of_pos (mul_pos hcents_pos hpos)]
    calc cents * returned
        < 10 ^ 12 * 2 ^ 31 := by
          refine mul_lt_mul' hcents_lt.le ?_ hpos.le (by norm_num)
          exact lt_of_le_of_lt hle (by norm_num [maxInteger])
      _ < 10 ^ 28 := by norm_num
  rw [itemShare, hdivision, hscaled, hunit, hproduct, Decimal.roundTo_of_multiple rfl]

/-- The refunds of a line of whole cents stay within its total exactly when the completed
returns name at most the units there are. -/
theorem Accounted.refundedForItem_le_iff (h : db.Accounted orderId) {item : PricedItem}
    (hitem : item ∈ db.orderItems.rows) (hcents : WholeCents item) :
    db.refundedForItem orderId item.id ≤ item.totalAmount ↔
      db.completedQuantity orderId item.id ≤ item.quantity := by
  have hquantity : (0 : ℚ) < item.quantity := by exact_mod_cast hcents.quantity_pos
  have hfind : db.getItem item.id = some item := getItem_eq_some.mpr ⟨hitem, rfl⟩
  have hshares : ∀ r ∈ db.completedReturnsOf orderId (some item.id),
      db.computeRefundAmount r = item.totalAmount / item.quantity * r.quantity := by
    intro r hr
    obtain ⟨hcompleted, hline⟩ := List.mem_filter.mp hr
    obtain ⟨hrow, horder, -⟩ := mem_completedReturns.mp hcompleted
    obtain ⟨hpos, hle⟩ := h.quantity r hrow horder
    rw [computeRefundAmount, beq_iff_eq.mp hline, Option.bind_some, hfind]
    dsimp only
    rw [if_pos hcents.quantity_pos.ne', itemShare_of_wholeCents hcents hpos hle]
  have htotal : item.totalAmount / item.quantity * item.quantity = item.totalAmount :=
    div_mul_cancel₀ _ hquantity.ne'
  have hiff := sum_le_iff_of_proportional (div_pos hcents.total_pos hquantity) hshares item.quantity
  rwa [htotal, ← h.refundedForItem_eq] at hiff

/-- The refunds of an order: all of it for each completed return without a line, and what is
refunded for the lines. -/
theorem Accounted.refunded_eq_add (h : db.Accounted orderId) {order : Order}
    (horder : db.shop.getOrder orderId = some order) :
    db.refunded orderId =
      ((db.completedReturnsOf orderId none).length : ℚ) * order.totalAmount +
        (db.orderItems.rows.map fun item => db.refundedForItem orderId item.id).sum := by
  have hids : (db.orderItems.rows.map (·.id)).Nodup := by
    have hunique := db.orderItems.unique
    rwa [← List.map_eq_flatMap] at hunique
  have hnamed : ∀ r ∈ db.completedReturns orderId, ∀ id ∈ r.orderItemId,
      id ∈ db.orderItems.rows.map (·.id) := by
    intro r hr id hid
    obtain ⟨item, hitem, rfl⟩ := db.return_item r (mem_completedReturns.mp hr).1 id hid
    exact List.mem_map_of_mem hitem
  have hwhole : ∀ amount ∈ (db.completedReturnsOf orderId none).map db.computeRefundAmount,
      amount = order.totalAmount := by
    intro amount hamount
    obtain ⟨r, hr, rfl⟩ := List.mem_map.mp hamount
    obtain ⟨hcompleted, hline⟩ := List.mem_filter.mp hr
    obtain ⟨-, hown, -⟩ := mem_completedReturns.mp hcompleted
    rw [computeRefundAmount, beq_iff_eq.mp hline, Option.bind_none]
    simp [orderShare, hown, horder]
  rw [h.refunded_eq, sum_eq_sum_fibers hids (·.orderItemId) _ hnamed]
  congr 1
  · exact (List.sum_eq_card_nsmul _ _ hwhole).trans (by simp)
  · rw [List.map_map]
    refine congrArg List.sum (List.map_congr_left fun item _ => ?_)
    exact (h.refundedForItem_eq item.id).symm

/-- The lines of the order. -/
def linesOf (db : ReturnsDB) (orderId : UUID) : List PricedItem :=
  db.orderItems.rows.filter fun item => item.orderId = orderId

/-- The refunds of an order of whole-cent lines that cost no more than the order stay within its
total while the completed returns name units of the lines, and no more than there are. -/
theorem Accounted.refunded_le (h : db.Accounted orderId) {order : Order}
    (horder : db.shop.getOrder orderId = some order)
    (hcents : ∀ item ∈ db.linesOf orderId, WholeCents item)
    (htotal : ((db.linesOf orderId).map (·.totalAmount)).sum ≤ order.totalAmount)
    (hnamed : ∀ r ∈ db.completedReturns orderId, ∃ item ∈ db.linesOf orderId,
      r.orderItemId = some item.id)
    (hunits : ∀ item ∈ db.linesOf orderId,
      db.completedQuantity orderId item.id ≤ item.quantity) :
    db.refunded orderId ≤ order.totalAmount := by
  have hlines : ∀ item ∈ db.linesOf orderId,
      db.refundedForItem orderId item.id ≤ item.totalAmount := fun item hitem =>
    (h.refundedForItem_le_iff (List.mem_filter.mp hitem).1 (hcents item hitem)).mpr
      (hunits item hitem)
  have hwhole : db.completedReturnsOf orderId none = [] := by
    refine List.filter_eq_nil_iff.mpr fun r hr => ?_
    obtain ⟨item, -, hline⟩ := hnamed r hr
    simp [hline]
  -- no completed return names another order's line
  have hother : ∀ amount ∈ (db.orderItems.rows.filter fun item => ¬ item.orderId = orderId).map
      fun item => db.refundedForItem orderId item.id, amount = 0 := by
    intro amount hamount
    obtain ⟨item, hitem, rfl⟩ := List.mem_map.mp hamount
    obtain ⟨hrow, hother⟩ := List.mem_filter.mp hitem
    have hnone : db.completedReturnsOf orderId (some item.id) = [] := by
      refine List.filter_eq_nil_iff.mpr fun r hr hline => ?_
      obtain ⟨item', hitem', hnames⟩ := hnamed r hr
      obtain ⟨hrow', hown⟩ := List.mem_filter.mp hitem'
      have hid : item.id = item'.id := by
        rw [beq_iff_eq.mp hline] at hnames
        exact Option.some.inj hnames
      obtain rfl : item = item' := db.orderItems.eq_of_shared_key (k := item.id) hrow hrow'
        (by simp) (by simp [hid])
      exact absurd (of_decide_eq_true hown) (of_decide_eq_true hother)
    rw [h.refundedForItem_eq, hnone, List.map_nil, List.sum_nil]
  calc db.refunded orderId
      = (db.orderItems.rows.map fun item => db.refundedForItem orderId item.id).sum := by
        rw [h.refunded_eq_add horder, hwhole, List.length_nil, Nat.cast_zero, zero_mul, zero_add]
    _ = ((db.linesOf orderId).map fun item => db.refundedForItem orderId item.id).sum := by
        rw [← List.sum_map_filter_add_sum_map_filter_not (fun item => item.orderId = orderId),
          List.sum_eq_zero hother, add_zero, linesOf]
    _ ≤ ((db.linesOf orderId).map (·.totalAmount)).sum := List.sum_le_sum hlines
    _ ≤ order.totalAmount := htotal

/-! ## Section 5: Any calls on an order -/

/-- Two databases with the same orders and the same lines. -/
def SamePrices (db db' : ReturnsDB) : Prop :=
  db'.shop = db.shop ∧ db'.orderItems = db.orderItems

theorem SamePrices.computeRefundAmount (h : SamePrices db db') :
    db'.computeRefundAmount = db.computeRefundAmount := by
  have hitem : db'.getItem = db.getItem := by
    funext id
    rw [getItem, h.2, getItem]
  have hshare : db'.orderShare = db.orderShare := by
    funext orderId
    rw [orderShare, h.1, orderShare]
  funext r
  rw [ReturnsDB.computeRefundAmount, hitem, hshare, ReturnsDB.computeRefundAmount]

theorem samePrices_step (db : ReturnsDB) (call : ReturnCall) :
    SamePrices db (returnStep textOf db call) := by
  cases call with
  | create request now =>
    cases hcreate : db.createReturn request now with
    | error e => simp only [returnStep, hcreate, SamePrices, and_self]
    | ok result =>
      obtain ⟨-, -, _, _, hdb⟩ := createReturn_eq_ok hcreate
      simp only [returnStep, hcreate, hdb]
      exact ⟨rfl, rfl⟩
  | update returnId request now =>
    cases hupdate : db.updateReturn textOf returnId request now with
    | error e => simp only [returnStep, hupdate, SamePrices, and_self]
    | ok result =>
      simp only [returnStep, hupdate]
      obtain ⟨r, clean, hfind, -, -, ⟨-, hdb⟩ | ⟨-, hrefund⟩⟩ := updateReturn_eq_ok hupdate
      · rw [hdb]
        exact ⟨rfl, rfl⟩
      · rcases createRefundForReturn_eq_ok hrefund with ⟨-, hdb⟩ | ⟨-, hdb⟩
        · rw [hdb]
          exact ⟨rfl, rfl⟩
        · rw [hdb]
          exact ⟨rfl, rfl⟩

/-- What a refund is computed from does not change. -/
theorem samePrices_run (db : ReturnsDB) (calls : List ReturnCall) :
    SamePrices db (run (returnStep textOf) db calls) :=
  run_rel (returnStep textOf) (fun _ => ⟨rfl, rfl⟩)
    (fun h h' => ⟨h'.1.trans h.1, h'.2.trans h.2⟩) samePrices_step db calls

end ReturnsDB

open ReturnsDB

/-- **The refunds of an order**, after any calls on an order that had no returns. A return that
was ever completed has one refund, another has none; the amount is what is computed for this
return alone. Hence the refunds of a line of whole-cent units are within the line's total
exactly when its completed returns name at most the line's units; the refunds of the order are
its total for each completed return without a line, and the refunds of the lines; and they are
within its total when the completed returns name units of its lines, no more than there are, and
the lines cost no more than the order. -/
theorem refunds_of_order (textOf : Instant → Option String) {db : ReturnsDB} {order : Order}
    (horder : order ∈ db.shop.orders.rows) (hnew : db.NoReturns order.id)
    (calls : List ReturnCall) :
    let db' := run (returnStep textOf) db calls
    (∀ r ∈ db'.returnsForOrder order.id, (db'.refundsOfReturn r.id).map (·.amount) =
      if r.completedAt.isSome then [db.computeRefundAmount r] else []) ∧
    (∀ item ∈ db.orderItems.rows, WholeCents item →
      (db'.refundedForItem order.id item.id ≤ item.totalAmount ↔
        db'.completedQuantity order.id item.id ≤ item.quantity)) ∧
    db'.refunded order.id =
      ((db'.completedReturnsOf order.id none).length : ℚ) * order.totalAmount +
        (db.orderItems.rows.map fun item => db'.refundedForItem order.id item.id).sum ∧
    ((∀ item ∈ db.linesOf order.id, WholeCents item) →
      ((db.linesOf order.id).map (·.totalAmount)).sum ≤ order.totalAmount →
      (∀ r ∈ db'.completedReturns order.id, ∃ item ∈ db.linesOf order.id,
        r.orderItemId = some item.id) →
      (∀ item ∈ db.linesOf order.id, db'.completedQuantity order.id item.id ≤ item.quantity) →
      db'.refunded order.id ≤ order.totalAmount) := by
  intro db'
  have haccounted : db'.Accounted order.id := accounted_run hnew calls
  have hprices : SamePrices db db' := samePrices_run db calls
  have hfind : db'.shop.getOrder order.id = some order := by
    rw [hprices.1]
    exact OrdersDB.getOrder_eq_some.mpr ⟨horder, rfl⟩
  have hlines : db'.linesOf order.id = db.linesOf order.id := by rw [linesOf, hprices.2, linesOf]
  refine ⟨fun r hr => ?_, fun item hitem hcents => ?_, ?_, fun hcents htotal hnamed hunits => ?_⟩
  · obtain ⟨hrow, hown⟩ := List.mem_filter.mp hr
    have hentries := congrArg (List.map Prod.snd)
      (haccounted.refundsOfReturn hrow (beq_iff_eq.mp hown))
    rw [List.map_map] at hentries
    rw [← hprices.computeRefundAmount]
    refine hentries.trans ?_
    split
    · rfl
    · rfl
  · exact haccounted.refundedForItem_le_iff (hprices.2 ▸ hitem) hcents
  · rw [haccounted.refunded_eq_add hfind, hprices.2]
  · rw [← hlines] at hcents htotal hnamed hunits
    exact haccounted.refunded_le hfind hcents htotal hnamed hunits

/-! ## Section 6: One unit returned twice -/

/-- A line of some units at 250 each. -/
def pricedLine (units : ℤ) (h : |(250 * units : ℚ)| < numericLimit) : PricedItem where
  id := 11
  orderId := 1
  quantity := units
  totalAmount := 250 * units
  totalAmount_lt := h

/-- An order that costs what its one line costs. -/
def lineOrder (line : PricedItem) : Order where
  id := 1
  orderNumber := "#AWL1"
  totalAmount := line.totalAmount

/-- A shop with that order. -/
def pricedOrder (line : PricedItem) : ReturnsDB where
  shop := {
    orders := Table.ofList [lineOrder line] (by simp [lineOrder, Order.keys, externalKey])
    payment_order := by simp }
  orderItems := Table.ofList [line] (by simp)

/-- Two returns of one unit of the line, both completed. -/
def twoReturns : List ReturnCall :=
  [.create { orderId := 1, orderItemId := some 11, quantity_pos := Int.one_pos } 100,
    .create { orderId := 1, orderItemId := some 11, quantity_pos := Int.one_pos } 200,
    .update 1 { status := some .completed } 300,
    .update 2 { status := some .completed } 400]

/-- What the two returns leave of an order of so many units. -/
def afterTwoReturns (units : ℤ) (h : |(250 * units : ℚ)| < numericLimit) : ReturnsDB :=
  run (returnStep fun _ => none) (pricedOrder (pricedLine units h)) twoReturns

theorem oneUnit_lt : |(250 * (1 : ℤ) : ℚ)| < numericLimit := by norm_num [numericLimit]

theorem twoUnits_lt : |(250 * (2 : ℤ) : ℚ)| < numericLimit := by norm_num [numericLimit]

/-- Of a line of one unit both returns are refunded: twice what the line and the order cost. -/
theorem one_unit_refunded_twice :
    ((afterTwoReturns 1 oneUnit_lt).shop.getOrder 1).map (·.totalAmount) = some 250 ∧
    ((afterTwoReturns 1 oneUnit_lt).getItem 11).map (·.totalAmount) = some 250 ∧
    (afterTwoReturns 1 oneUnit_lt).refunded 1 = 500 ∧
    (afterTwoReturns 1 oneUnit_lt).refundedForItem 1 11 = 500 := by
  decide +kernel

/-- Of a line of two units both returns are refunded, and no more than was paid. -/
theorem refunds_of_order_twoUnits :
    (afterTwoReturns 2 twoUnits_lt).completedQuantity 1 11 = 2 ∧
    (afterTwoReturns 2 twoUnits_lt).refunded 1 ≤ 250 * (2 : ℤ) := by
  have horder : lineOrder (pricedLine 2 twoUnits_lt) ∈
      (pricedOrder (pricedLine 2 twoUnits_lt)).shop.orders.rows := List.mem_singleton_self _
  have hnew : (pricedOrder (pricedLine 2 twoUnits_lt)).NoReturns 1 :=
    ⟨fun _ hr => absurd hr List.not_mem_nil, fun _ hf => absurd hf List.not_mem_nil⟩
  have hlines : (pricedOrder (pricedLine 2 twoUnits_lt)).linesOf 1 =
      [pricedLine 2 twoUnits_lt] := by
    decide +kernel
  have hquantity : (afterTwoReturns 2 twoUnits_lt).completedQuantity 1 11 = 2 := by
    decide +kernel
  have hcents : WholeCents (pricedLine 2 twoUnits_lt) :=
    ⟨by decide, by decide +kernel, 25000, by norm_num [pricedLine]⟩
  have hnamed : ∀ r ∈ (afterTwoReturns 2 twoUnits_lt).completedReturns 1,
      r.orderItemId = some 11 := by
    decide +kernel
  refine ⟨hquantity, ?_⟩
  have hbound := (refunds_of_order (fun _ => none) horder hnew twoReturns).2.2.2
  rw [show (lineOrder (pricedLine 2 twoUnits_lt)).id = 1 from rfl, hlines] at hbound
  refine hbound (List.forall_mem_singleton.mpr hcents) ?_ (fun r hr => ?_) ?_
  · simp [lineOrder]
  · exact ⟨_, List.mem_singleton_self _, hnamed r hr⟩
  · exact List.forall_mem_singleton.mpr hquantity.le

end AyushOms.Returns
