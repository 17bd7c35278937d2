import AyushOms.Lib.Revisions
import AyushOms.Telecalling.Effects

/-!
# The Call Log of an Order

Logged calls, corrections, deletions and reassignments, run one after another, each failing
wherever it may. A logged call opens the next number; a correction names the current row of a
number and shares it. So the numbers of an order are `1` to `n`, the rows of a number form
one chain of corrections, and its end is what `resolve_current_for_order` returns for it.

## Main results

- `ServiceCall.leaves_of_returns`: what one call can do to the call log and the assignment
- `call_log_chained`: numbers, chains and current rows after every sequence of calls
-/

namespace AyushOms.Telecalling

open AyushOms.Lib

/-! ## Section 1: Calls one after another -/

/-- A call of the service that can add to the call log, or change who may add to it. -/
inductive ServiceCall where
  | logCall (c : LogCall)
  | editCallAttempt (c : EditCall)
  | deleteCallAttempt (c : DeleteCall)
  | reassignOrder (c : Reassign)
  deriving DecidableEq

namespace ServiceCall

def orderId : ServiceCall → UUID
  | logCall c => c.orderId
  | editCallAttempt c => c.orderId
  | deleteCallAttempt c => c.orderId
  | reassignOrder c => c.orderId

/-- The statements of the call before its commit. -/
def body : ServiceCall → CallTxn PUnit
  | logCall c => do
    let _ ← Telecalling.logCall c
    return ⟨⟩
  | editCallAttempt c => do
    let _ ← Telecalling.editCallAttempt c
    return ⟨⟩
  | deleteCallAttempt c => do
    let _ ← Telecalling.deleteCallAttempt c
    return ⟨⟩
  | reassignOrder c => do
    let _ ← Telecalling.reassignOrder c
    return ⟨⟩

/-- The call run alone, with the statements of it that raise. -/
def exec (db : CallDB) (e : ServiceCall × (ℕ → Option PyException)) : CallDB :=
  ((Txn.thenCommit e.1.body).run CallWrite.apply (.fresh db e.2)).2.committed

/-- The call, with the statements of it that raise, returns. -/
def Returns (db : CallDB) (e : ServiceCall × (ℕ → Option PyException)) : Prop :=
  ((Txn.thenCommit e.1.body).run CallWrite.apply (.fresh db e.2)).1 = .ok ⟨⟩

instance (db : CallDB) (e : ServiceCall × (ℕ → Option PyException)) : Decidable (Returns db e) :=
  inferInstanceAs (Decidable (_ = _))

end ServiceCall

/-! ## Section 2: What one call does to the call log -/

/-- What a call that returns leaves: the row it adds, and the active assignment before and
after. -/
inductive ServiceCall.Leaves (db db' : CallDB) :
    ServiceCall → OrderAssignment → OrderAssignment → Prop where
  | logCall (c : LogCall) (a : OrderAssignment)
      (hinsert : db.callAttempts.insert? (c.row (nextAttemptNumber db.callAttempts c.orderId)) =
        some db'.callAttempts) : Leaves db db' (.logCall c) a (c.write a)
  | editCallAttempt (c : EditCall) (a : OrderAssignment) (target : CallAttempt)
      (htarget : getCorrectableForOrder db.callAttempts c.attemptId c.orderId = some target)
      (hinsert : db.callAttempts.insert? (c.row target) = some db'.callAttempts) :
      Leaves db db' (.editCallAttempt c) a
        (recomputed (resolveCurrentForOrder db'.callAttempts c.orderId false) target a)
  | deleteCallAttempt (c : DeleteCall) (a : OrderAssignment) (target : CallAttempt)
      (htarget : getCorrectableForOrder db.callAttempts c.attemptId c.orderId = some target)
      (hinsert : db.callAttempts.insert? (c.row target) = some db'.callAttempts) :
      Leaves db db' (.deleteCallAttempt c) a
        (recomputed (resolveCurrentForOrder db'.callAttempts c.orderId false) target a)
  | reassignOrder (c : Reassign) (current : OrderAssignment) (telecaller : User)
      (hlog : db'.callAttempts = db.callAttempts) :
      Leaves db db' (.reassignOrder c) current (c.row current telecaller)

theorem ServiceCall.leaves_of_yields {db db' : CallDB} {call : ServiceCall} {r : PUnit}
    (h : Txn.Yields CallWrite.apply call.body db r db') :
    ∃ a a', Rewrites call.orderId a a' db db' ∧ Leaves db db' call a a' := by
  cases call with
  | logCall c =>
    obtain ⟨_, -, hcall⟩ := Txn.yields_bind_pure h
    obtain ⟨rfl, hinsert, a, hrewrites⟩ := yields_logCall hcall
    exact ⟨a, _, hrewrites, .logCall c a hinsert⟩
  | editCallAttempt c =>
    obtain ⟨_, -, hcall⟩ := Txn.yields_bind_pure h
    obtain ⟨target, htarget, rfl, hinsert, a, hrewrites⟩ := yields_correctAttempt hcall
    exact ⟨a, _, hrewrites, .editCallAttempt c a target htarget hinsert⟩
  | deleteCallAttempt c =>
    obtain ⟨_, -, hcall⟩ := Txn.yields_bind_pure h
    obtain ⟨target, htarget, rfl, hinsert, a, hrewrites⟩ := yields_correctAttempt hcall
    exact ⟨a, _, hrewrites, .deleteCallAttempt c a target htarget hinsert⟩
  | reassignOrder c =>
    obtain ⟨_, -, hcall⟩ := Txn.yields_bind_pure h
    obtain ⟨hlog, current, telecaller, hrewrites⟩ := yields_reassignOrder hcall
    exact ⟨current, _, hrewrites, .reassignOrder c current telecaller hlog⟩

/-- A row a call adds to the call log: the next number, or the correction of a current row
that is not void. -/
inductive Appends (attempts attempts' : AttemptTable) : Prop where
  | logged (row : CallAttempt)
      (hnumber : row.attemptNumber = nextAttemptNumber attempts row.orderId)
      (hfirst : row.correctsAttemptId = none) (hinsert : attempts.insert? row = some attempts')
  | corrected (row target : CallAttempt)
      (htarget : target ∈ resolveCurrentForOrder attempts row.orderId true)
      (hvoid : target.isVoid = false) (hnumber : row.attemptNumber = target.attemptNumber)
      (hcorrects : row.correctsAttemptId = some target.id)
      (hinsert : attempts.insert? row = some attempts')

theorem mem_of_getCorrectableForOrder {attempts : AttemptTable} {attemptId orderId : UUID}
    {target : CallAttempt}
    (h : getCorrectableForOrder attempts attemptId orderId = some target) :
    target ∈ resolveCurrentForOrder attempts orderId true ∧ target.isVoid = false := by
  unfold getCorrectableForOrder at h
  split at h
  · cases h
  · split at h
    · cases h
    · split at h
      · cases h
      · split at h
        · cases h
        · rename_i current hcurrent hvoid
          obtain rfl := Option.some.inj h
          exact ⟨List.mem_of_find?_eq_some hcurrent, by simpa using hvoid⟩

/-- A call adds one row to the call log, or none. -/
theorem ServiceCall.Leaves.appends {db db' : CallDB} {call : ServiceCall}
    {a a' : OrderAssignment} (h : Leaves db db' call a a') :
    Appends db.callAttempts db'.callAttempts ∨ db'.callAttempts = db.callAttempts := by
  cases h with
  | logCall c a hinsert => exact .inl (.logged _ rfl rfl hinsert)
  | editCallAttempt c a target htarget hinsert =>
    obtain ⟨hmem, hvoid⟩ := mem_of_getCorrectableForOrder htarget
    exact .inl (.corrected (c.row target) target hmem hvoid rfl rfl hinsert)
  | deleteCallAttempt c a target htarget hinsert =>
    obtain ⟨hmem, hvoid⟩ := mem_of_getCorrectableForOrder htarget
    exact .inl (.corrected (c.row target) target hmem hvoid rfl rfl hinsert)
  | reassignOrder c current telecaller hlog => exact .inr hlog

section Writes

theorem reads_requireOwn (actor : User) (orderId : UUID) :
    Txn.Reads (fun _ => True) (requireOwn actor orderId) :=
  (Txn.reads_select _).bind fun _ _ => (Txn.reads_ofExcept _).mono fun _ _ => True.intro

theorem reads_requireCorrectable (attemptId orderId : UUID) :
    Txn.Reads (fun _ => True) (requireCorrectable attemptId orderId) :=
  (Txn.reads_select _).bind fun _ _ => (Txn.reads_orRaise _ _).bind fun _ _ =>
    (Txn.reads_select _).bind fun _ _ => (Txn.reads_orRaise _ _).mono fun _ _ => True.intro

theorem getUser_id {db : CallDB} {telecallerId : UUID} {u : User}
    (h : db.getUser telecallerId = some u) : u.id = telecallerId := by
  have hid := List.find?_some h
  simpa using hid

theorem reads_assertTelecallerInTeamScope (telecallerId : UUID) (actor : User) :
    Txn.Reads (fun u => u.id = telecallerId) (assertTelecallerInTeamScope telecallerId actor) := by
  refine (Txn.reads_select _).bind fun found hfound => ?_
  obtain ⟨db, rfl⟩ := hfound
  refine (Txn.reads_orRaise _ _).bind fun u hu => ?_
  refine (Txn.reads_raiseIf _ _).bind fun _ _ => ?_
  exact getUser_id (Option.filter_eq_some_iff.mp hu).1

theorem writes_correctAttempt (actor : User) (orderId attemptId : UUID)
    (correction : CallAttempt → CallAttempt) :
    Txn.Writes (fun _ _ => True) (correctAttempt actor orderId attemptId correction) :=
  (reads_requireOwn _ _).writes_bind fun _ _ =>
    (reads_requireCorrectable _ _).writes_bind fun _ _ =>
      (Txn.writes_flush _).bind fun _ _ _ => (Txn.reads_select _).writes_bind fun _ _ =>
        (Txn.writes_flush _).bind fun _ _ _ => Txn.writes_ret True.intro

theorem writes_logCall (c : LogCall) : Txn.Writes (fun _ _ => True) (logCall c) :=
  (reads_requireOwn _ _).writes_bind fun _ _ => (Txn.reads_select _).writes_bind fun _ _ =>
    (Txn.writes_flush _).bind fun _ _ _ => (Txn.writes_flush _).bind fun _ _ _ =>
      Txn.writes_ret True.intro

theorem writes_reassignOrder (c : Reassign) : Txn.Writes (fun _ _ => True) (reassignOrder c) :=
  (Txn.reads_select _).writes_bind fun _ _ => (Txn.reads_orRaise _ _).writes_bind fun _ _ =>
    (reads_assertTelecallerInTeamScope _ _).writes_bind fun _ _ =>
      (Txn.reads_raiseIf _ _).writes_bind fun _ _ => (Txn.writes_flush _).bind fun _ _ _ =>
        (Txn.writes_flush _).bind fun _ _ _ => Txn.writes_ret True.intro

/-- A call commits nothing before its last statement. -/
theorem writes_body (call : ServiceCall) : Txn.Writes (fun _ _ => True) call.body := by
  cases call with
  | logCall c => exact (writes_logCall c).bind fun _ _ _ => Txn.writes_ret True.intro
  | editCallAttempt c =>
    exact (writes_correctAttempt _ _ _ _).bind fun _ _ _ => Txn.writes_ret True.intro
  | deleteCallAttempt c =>
    exact (writes_correctAttempt _ _ _ _).bind fun _ _ _ => Txn.writes_ret True.intro
  | reassignOrder c => exact (writes_reassignOrder c).bind fun _ _ _ => Txn.writes_ret True.intro

end Writes

section Returns

variable {db : CallDB} {e : ServiceCall × (ℕ → Option PyException)}

theorem ServiceCall.leaves_of_returns (h : Returns db e) :
    ∃ a a', Rewrites e.1.orderId a a' db (exec db e) ∧ Leaves db (exec db e) e.1 a a' :=
  leaves_of_yields (Txn.yields_thenCommit (Txn.yields_of_ok (writes_body e.1).settled h))

/-- A call that raises leaves everything as it was. -/
theorem ServiceCall.exec_of_not_returns (h : ¬ Returns db e) : exec db e = db := by
  cases hr : ((Txn.thenCommit e.1.body).run CallWrite.apply (.fresh db e.2)).1 with
  | ok a => exact absurd hr h
  | error x => exact Txn.committed_of_error (writes_body e.1).settled hr

end Returns

/-! ## Section 3: The log of an order -/

/-- A call attempt is a revision of the one it corrects, in the slot of its number; a void
row closes its chain. -/
def attemptRevisions : Revisions CallAttempt UUID ℕ where
  id := CallAttempt.id
  slot := CallAttempt.attemptNumber
  supersedes := CallAttempt.correctsAttemptId
  closed c := c.isVoid = true

/-- The rows of an order, oldest first. -/
def attemptsOf (attempts : AttemptTable) (orderId : UUID) : List CallAttempt :=
  attempts.rows.filter fun c => c.orderId == orderId

/-- The end of a correction chain: a row of the order that no row of the order corrects. -/
def IsTip (attempts : AttemptTable) (orderId : UUID) (c : CallAttempt) : Prop :=
  attemptRevisions.Tip (attemptsOf attempts orderId) c

/-- The rows of a number, oldest first. -/
def attemptChain (attempts : AttemptTable) (orderId : UUID) (number : ℕ) : List CallAttempt :=
  attemptRevisions.entries (attemptsOf attempts orderId) number

/-- The calls logged for an order: the rows that correct none. -/
def loggedCalls (attempts : AttemptTable) (orderId : UUID) : ℕ :=
  (attemptsOf attempts orderId).countP fun c => c.correctsAttemptId.isNone

/-- The log is a history of revisions, with `n` calls and the numbers `1` to `n`. -/
structure CallLog (attempts : AttemptTable) (orderId : UUID) (n : ℕ) : Prop where
  history : attemptRevisions.History (attemptsOf attempts orderId)
  numbers : ∀ m, (∃ c ∈ attemptsOf attempts orderId, c.attemptNumber = m) ↔ 1 ≤ m ∧ m ≤ n
  logged : loggedCalls attempts orderId = n

section Log

variable {attempts attempts' : AttemptTable} {orderId : UUID} {n : ℕ}

theorem mem_attemptsOf {c : CallAttempt} :
    c ∈ attemptsOf attempts orderId ↔ c ∈ attempts.rows ∧ c.orderId = orderId := by
  simp [attemptsOf]

/-- The rows `resolve_current_for_order` returns are the tips. -/
theorem mem_resolveCurrentForOrder_iff_isTip {c : CallAttempt} :
    c ∈ resolveCurrentForOrder attempts orderId true ↔ IsTip attempts orderId c := by
  rw [mem_resolveCurrentForOrder]
  constructor
  · rintro ⟨hmem, hcurrent, -⟩
    exact ⟨mem_attemptsOf.mpr hmem, fun c' hc' =>
      hcurrent c' (mem_attemptsOf.mp hc').1 (mem_attemptsOf.mp hc').2⟩
  · rintro ⟨hmem, hcurrent⟩
    exact ⟨mem_attemptsOf.mp hmem, fun c' hc' ho =>
      hcurrent c' (mem_attemptsOf.mpr ⟨hc', ho⟩), nofun⟩

/-- Without the void rows, the rows are the others in the same order. -/
theorem resolveCurrentForOrder_visible : resolveCurrentForOrder attempts orderId false =
    (resolveCurrentForOrder attempts orderId true).filter fun c => !c.isVoid := by
  simp [resolveCurrentForOrder]

theorem nextAttemptNumber_le_iff {b : ℕ} :
    nextAttemptNumber attempts orderId ≤ b + 1 ↔
      ∀ c ∈ attemptsOf attempts orderId, c.attemptNumber ≤ b := by
  have hmax : ∀ l : List ℕ, l.foldr max 0 ≤ b ↔ ∀ a ∈ l, a ≤ b := by
    intro l
    induction l with
    | nil => simp
    | cons a l ih => simp [ih]
  rw [nextAttemptNumber, Nat.add_le_add_iff_right, hmax, List.forall_mem_map]
  rfl

/-- The next number is the first one without a row. -/
theorem CallLog.nextAttemptNumber_eq (h : CallLog attempts orderId n) :
    nextAttemptNumber attempts orderId = n + 1 := by
  have hle : nextAttemptNumber attempts orderId ≤ n + 1 :=
    nextAttemptNumber_le_iff.mpr fun c hc => ((h.numbers _).mp ⟨c, hc, rfl⟩).2
  have hpos : 1 ≤ nextAttemptNumber attempts orderId := Nat.le_add_left 1 _
  refine le_antisymm hle ?_
  rcases Nat.eq_zero_or_pos n with rfl | hn
  · exact hpos
  · obtain ⟨c, hc, hnumber⟩ := (h.numbers n).mpr ⟨hn, le_refl n⟩
    have hall := nextAttemptNumber_le_iff.mp
      (Nat.le_of_eq (Nat.sub_add_cancel hpos).symm) c hc
    omega

/-- An appended row joins the log of its order. -/
theorem attemptsOf_of_insert? {row : CallAttempt} (h : attempts.insert? row = some attempts') :
    attemptsOf attempts' orderId =
      if row.orderId = orderId then attemptsOf attempts orderId ++ [row]
      else attemptsOf attempts orderId := by
  by_cases ho : row.orderId = orderId
  · simp [attemptsOf, Table.rows_of_insert? h, ho]
  · simp [attemptsOf, Table.rows_of_insert? h, ho]

theorem attemptsOf_insert_own {row : CallAttempt} (h : attempts.insert? row = some attempts')
    (ho : row.orderId = orderId) :
    attemptsOf attempts' orderId = attemptsOf attempts orderId ++ [row] := by
  rw [attemptsOf_of_insert? h, if_pos ho]

theorem attemptsOf_insert_other {row : CallAttempt} (h : attempts.insert? row = some attempts')
    (ho : row.orderId ≠ orderId) : attemptsOf attempts' orderId = attemptsOf attempts orderId := by
  rw [attemptsOf_of_insert? h, if_neg ho]

/-- Its id is new. -/
theorem id_ne_of_insert? {row : CallAttempt} (h : attempts.insert? row = some attempts') :
    ∀ c ∈ attemptsOf attempts orderId, c.id ≠ row.id := by
  intro c hc heq
  exact (Table.insert?_eq_some_iff.mp h).2.1 row.id (List.mem_singleton_self _) c
    (mem_attemptsOf.mp hc).1 (heq ▸ List.mem_singleton_self _)

theorem mem_numbers_concat {log : List CallAttempt} {row : CallAttempt} {m : ℕ} :
    (∃ c ∈ log ++ [row], c.attemptNumber = m) ↔
      (∃ c ∈ log, c.attemptNumber = m) ∨ row.attemptNumber = m := by
  simp [or_and_right, exists_or]

theorem loggedCalls_of_insert? {row : CallAttempt} (h : attempts.insert? row = some attempts') :
    loggedCalls attempts' orderId =
      if row.orderId = orderId ∧ row.correctsAttemptId = none then loggedCalls attempts orderId + 1
      else loggedCalls attempts orderId := by
  rw [loggedCalls, attemptsOf_of_insert? h]
  by_cases ho : row.orderId = orderId
  · cases hc : row.correctsAttemptId <;> simp [loggedCalls, ho, hc]
  · simp [loggedCalls, ho]

/-- The log of an order is made of its own rows. -/
theorem CallLog.congr (h : CallLog attempts orderId n)
    (hrows : attemptsOf attempts' orderId = attemptsOf attempts orderId) :
    CallLog attempts' orderId n := by
  refine ⟨hrows ▸ h.history, fun m => hrows ▸ h.numbers m, ?_⟩
  rw [loggedCalls, hrows]
  exact h.logged

/-- The next number opens a chain. -/
theorem CallLog.insert_logged (h : CallLog attempts orderId n) {row : CallAttempt}
    (hinsert : attempts.insert? row = some attempts') (ho : row.orderId = orderId)
    (hnumber : row.attemptNumber = nextAttemptNumber attempts orderId)
    (hfirst : row.correctsAttemptId = none) : CallLog attempts' orderId (n + 1) := by
  have hlog : attemptsOf attempts' orderId = attemptsOf attempts orderId ++ [row] :=
    attemptsOf_insert_own hinsert ho
  rw [h.nextAttemptNumber_eq] at hnumber
  refine ⟨hlog ▸ .original h.history (id_ne_of_insert? hinsert) ?_ hfirst, fun m => ?_, ?_⟩
  · intro c hc heq
    have hle := ((h.numbers _).mp ⟨c, hc, rfl⟩).2
    have heq : c.attemptNumber = row.attemptNumber := heq
    omega
  · rw [hlog, mem_numbers_concat, h.numbers, hnumber]
    omega
  · rw [loggedCalls_of_insert? hinsert, if_pos ⟨ho, hfirst⟩, h.logged]

/-- A correction continues the chain of the tip it corrects. -/
theorem CallLog.insert_corrected (h : CallLog attempts orderId n) {row target : CallAttempt}
    (hinsert : attempts.insert? row = some attempts') (ho : row.orderId = orderId)
    (htip : IsTip attempts orderId target) (hvoid : target.isVoid = false)
    (hnumber : row.attemptNumber = target.attemptNumber)
    (hcorrects : row.correctsAttemptId = some target.id) : CallLog attempts' orderId n := by
  have hlog : attemptsOf attempts' orderId = attemptsOf attempts orderId ++ [row] :=
    attemptsOf_insert_own hinsert ho
  refine ⟨hlog ▸ .revision h.history (id_ne_of_insert? hinsert) htip ?_ hnumber hcorrects,
    fun m => ?_, ?_⟩
  · exact fun hclosed => Bool.false_ne_true (hvoid.symm.trans hclosed)
  · rw [hlog, mem_numbers_concat, ← h.numbers, hnumber, or_iff_left_iff_imp]
    exact fun hm => ⟨target, htip.mem, hm⟩
  · rw [loggedCalls_of_insert? hinsert, if_neg (by simp [hcorrects]), h.logged]

/-- A row a call adds keeps the log a history. -/
theorem CallLog.appends (h : CallLog attempts orderId n) (happends : Appends attempts attempts') :
    ∃ n', CallLog attempts' orderId n' := by
  cases happends with
  | logged row hnumber hfirst hinsert =>
    by_cases ho : row.orderId = orderId
    · exact ⟨n + 1, h.insert_logged hinsert ho (ho ▸ hnumber) hfirst⟩
    · exact ⟨n, h.congr (attemptsOf_insert_other hinsert ho)⟩
  | corrected row target htarget hvoid hnumber hcorrects hinsert =>
    by_cases ho : row.orderId = orderId
    · rw [ho, mem_resolveCurrentForOrder_iff_isTip] at htarget
      exact ⟨n, h.insert_corrected hinsert ho htarget hvoid hnumber hcorrects⟩
    · exact ⟨n, h.congr (attemptsOf_insert_other hinsert ho)⟩

/-! ## Section 4: What the log of an order returns -/

/-- The log of an order with `n` calls: numbers, chains, their ends, and what
`resolve_current_for_order` makes of them. -/
structure ChainedLog (attempts : AttemptTable) (orderId : UUID) (n : ℕ) : Prop where
  logged : loggedCalls attempts orderId = n
  numbers : ∀ m, (∃ c ∈ attemptsOf attempts orderId, c.attemptNumber = m) ↔ 1 ≤ m ∧ m ≤ n
  chain : ∀ m, (attemptChain attempts orderId m).IsChain fun c c' =>
    c'.correctsAttemptId = some c.id
  chain_end : ∀ c, IsTip attempts orderId c →
    (attemptChain attempts orderId c.attemptNumber).getLast? = some c
  tip : ∀ m, 1 ≤ m → m ≤ n → ∃! c, IsTip attempts orderId c ∧ c.attemptNumber = m
  current : (resolveCurrentForOrder attempts orderId true).map (·.attemptNumber) =
    ((List.range n).map (· + 1)).reverse
  current_tip : ∀ c, c ∈ resolveCurrentForOrder attempts orderId true ↔
    IsTip attempts orderId c
  visible : resolveCurrentForOrder attempts orderId false =
    (resolveCurrentForOrder attempts orderId true).filter fun c => !c.isVoid
  void_final : ∀ c ∈ attemptsOf attempts orderId, c.isVoid = true →
    ∀ c' ∈ attemptsOf attempts orderId, c'.correctsAttemptId ≠ some c.id

theorem nodup_rows (attempts : AttemptTable) : attempts.rows.Nodup := by
  have hids : (attempts.rows.map CallAttempt.id).Nodup := by
    rw [List.map_eq_flatMap]
    exact attempts.unique
  exact List.Nodup.of_map _ hids

theorem nodup_resolveCurrentForOrder :
    (resolveCurrentForOrder attempts orderId true).Nodup := by
  rw [resolveCurrentForOrder, if_pos rfl, (List.perm_insertionSort _ _).nodup_iff]
  refine List.Nodup.filter _ ?_
  rw [listForOrder, (List.perm_insertionSort _ _).nodup_iff]
  exact (nodup_rows attempts).filter _

/-- The rows of `resolve_current_for_order` come by descending number. -/
theorem pairwise_resolveCurrentForOrder :
    (resolveCurrentForOrder attempts orderId true).Pairwise NewestFirst := by
  rw [resolveCurrentForOrder, if_pos rfl]
  exact List.pairwise_insertionSort NewestFirst _

/-- They are one for each number. -/
theorem CallLog.map_resolveCurrentForOrder (h : CallLog attempts orderId n) :
    (resolveCurrentForOrder attempts orderId true).map (·.attemptNumber) =
      ((List.range n).map (· + 1)).reverse := by
  have hnodup : ((resolveCurrentForOrder attempts orderId true).map (·.attemptNumber)).Nodup :=
    nodup_resolveCurrentForOrder.map_on fun c hc c' hc' heq =>
      h.history.tip_unique (mem_resolveCurrentForOrder_iff_isTip.mp hc)
        (mem_resolveCurrentForOrder_iff_isTip.mp hc') heq
  have hrange : ((List.range n).map (· + 1)).reverse.Pairwise (· ≥ ·) := by
    rw [List.pairwise_reverse, List.pairwise_map]
    exact List.pairwise_lt_range.imp fun hlt => Nat.succ_le_succ (Nat.le_of_lt hlt)
  have hmem : ∀ m, m ∈ (resolveCurrentForOrder attempts orderId true).map (·.attemptNumber) ↔
      m ∈ ((List.range n).map (· + 1)).reverse := by
    intro m
    have hnumber : m ∈ ((List.range n).map (· + 1)).reverse ↔ 1 ≤ m ∧ m ≤ n := by
      simp only [List.mem_reverse, List.mem_map, List.mem_range]
      exact ⟨fun ⟨k, hk, hm⟩ => by omega, fun hm => ⟨m - 1, by omega, by omega⟩⟩
    rw [hnumber, ← h.numbers, List.mem_map]
    constructor
    · rintro ⟨c, hc, rfl⟩
      exact ⟨c, (mem_resolveCurrentForOrder_iff_isTip.mp hc).mem, rfl⟩
    · rintro ⟨c, hc, rfl⟩
      obtain ⟨tip, ⟨htip, hslot⟩, -⟩ := h.history.existsUnique_tip hc
      exact ⟨tip, mem_resolveCurrentForOrder_iff_isTip.mpr htip, hslot⟩
  refine List.Perm.eq_of_pairwise' (r := (· ≥ ·))
    (List.pairwise_map.mpr pairwise_resolveCurrentForOrder) hrange ?_
  refine (List.perm_ext_iff_of_nodup hnodup ?_).mpr hmem
  exact List.nodup_reverse.mpr (List.nodup_range.map fun a b hab => Nat.succ.inj hab)

/-- An end of a chain is what its own id finds to correct, unless it is void. -/
theorem CallLog.getCorrectableForOrder_tip (h : CallLog attempts orderId n) {c : CallAttempt}
    (htip : IsTip attempts orderId c) (hvoid : c.isVoid = false) :
    getCorrectableForOrder attempts c.id orderId = some c := by
  obtain ⟨hmem, horder⟩ := mem_attemptsOf.mp htip.mem
  have hnamed : attempts.find? (fun c' => c'.id == c.id) = some c :=
    attempts.find?_eq_some_of_mem (k := c.id) hmem (by simp) fun c' hc' => by
      rw [CallAttempt.keys, List.mem_singleton]
      exact (beq_iff_eq.mp hc').symm
  have hcurrent : (resolveCurrentForOrder attempts orderId true).find?
      (fun c' => c'.attemptNumber == c.attemptNumber) = some c := by
    cases hfind : (resolveCurrentForOrder attempts orderId true).find?
        (fun c' => c'.attemptNumber == c.attemptNumber) with
    | none =>
      have hnot := List.find?_eq_none.mp hfind c (mem_resolveCurrentForOrder_iff_isTip.mpr htip)
      simp at hnot
    | some c' =>
      have htip' := mem_resolveCurrentForOrder_iff_isTip.mp (List.mem_of_find?_eq_some hfind)
      have hnumber : c'.attemptNumber = c.attemptNumber := by simpa using List.find?_some hfind
      rw [h.history.tip_unique htip' htip hnumber]
  simp [getCorrectableForOrder, hnamed, horder, hcurrent, hvoid]

theorem CallLog.chained (h : CallLog attempts orderId n) : ChainedLog attempts orderId n where
  logged := h.logged
  numbers := h.numbers
  chain := h.history.isChain_entries
  chain_end _ htip := h.history.getLast?_entries htip
  tip m hpos hle := by
    obtain ⟨c, hc, rfl⟩ := (h.numbers m).mpr ⟨hpos, hle⟩
    exact h.history.existsUnique_tip hc
  current := h.map_resolveCurrentForOrder
  current_tip _ := mem_resolveCurrentForOrder_iff_isTip
  visible := resolveCurrentForOrder_visible
  void_final _ hc hvoid _ hc' := h.history.not_supersedes_of_closed hc hvoid hc'

end Log

/-! ## Section 5: Every sequence of calls -/

/-- What one call does to the call log of an order. -/
theorem CallLog.exec {db : CallDB} {orderId : UUID} {n : ℕ}
    (h : CallLog db.callAttempts orderId n) (e : ServiceCall × (ℕ → Option PyException)) :
    ∃ n', CallLog (ServiceCall.exec db e).callAttempts orderId n' := by
  by_cases hreturns : ServiceCall.Returns db e
  · obtain ⟨a, a', -, hleaves⟩ := ServiceCall.leaves_of_returns hreturns
    rcases hleaves.appends with happends | hsame
    · exact h.appends happends
    · exact ⟨n, by rwa [hsame]⟩
  · exact ⟨n, by rwa [ServiceCall.exec_of_not_returns hreturns]⟩

/-- What every sequence of calls does to the call log of an order that had none. -/
theorem CallLog.run_exec {db : CallDB} {orderId : UUID}
    (hnew : ∀ c ∈ db.callAttempts.rows, c.orderId ≠ orderId)
    (calls : List (ServiceCall × (ℕ → Option PyException))) :
    ∃ n, CallLog (run ServiceCall.exec db calls).callAttempts orderId n := by
  have hempty : CallLog db.callAttempts orderId 0 := by
    have hnil : attemptsOf db.callAttempts orderId = [] :=
      List.filter_eq_nil_iff.mpr fun c hc => by simpa using hnew c hc
    refine ⟨hnil ▸ .nil, fun m => ?_, by rw [loggedCalls, hnil, List.countP_nil]⟩
    rw [hnil]
    simp
    omega
  have hstep : ∀ db e, (∃ n, CallLog db.callAttempts orderId n) →
      ∃ n, CallLog (ServiceCall.exec db e).callAttempts orderId n :=
    fun _ e ⟨_, h⟩ => h.exec e
  exact run_invariant ServiceCall.exec hstep ⟨0, hempty⟩ calls

/-- After every sequence of calls, whichever of their statements raise, the log of an order
that had none has the numbers `1` to `n`, one chain of corrections for each, and its ends are
the current rows. -/
theorem call_log_chained (db : CallDB) (orderId : UUID)
    (hnew : ∀ c ∈ db.callAttempts.rows, c.orderId ≠ orderId)
    (calls : List (ServiceCall × (ℕ → Option PyException))) :
    ∃ n, ChainedLog (run ServiceCall.exec db calls).callAttempts orderId n := by
  obtain ⟨n, hlog⟩ := CallLog.run_exec hnew calls
  exact ⟨n, hlog.chained⟩

/-- Two telecallers of one team, and its leader. -/
def asha : User := { id := 1, name := "Asha", roleNames := ["TELECALLER"], teamLeaderId := some 9 }

def ravi : User := { id := 2, name := "Ravi", roleNames := ["TELECALLER"], teamLeaderId := some 9 }

def leader : User := { id := 9, name := "Meera" }

/-- An order assigned to the first telecaller. -/
def assignedOrder : CallDB where
  users := [asha, ravi, leader]
  assignments := Table.ofList
    [{ id := 100, orderId := 7, assignedTo := 1, assignedAt := 0, teamLeaderId := some 9 }]
    (by decide)

/-- Two calls, a correction of the first, a deletion of the second, a reassignment, a call of
the new telecaller, and an attempt to correct the deleted call, which fails. -/
def correctedCalls : List (ServiceCall × (ℕ → Option PyException)) :=
  [(.logCall { orderId := 7, outcome := .busy, actor := asha, newId := 201, now := 10 },
      fun _ => none),
    (.logCall { orderId := 7, outcome := .interested, actor := asha, newId := 202, now := 20 },
      fun _ => none),
    (.editCallAttempt
      { orderId := 7, attemptId := 201, outcome := .notAnswering, actor := asha, newId := 203 },
      fun _ => none),
    (.deleteCallAttempt { orderId := 7, attemptId := 202, actor := asha, newId := 204 },
      fun _ => none),
    (.reassignOrder
      { orderId := 7, newTelecallerId := 2, reason := "leave", actor := leader, newId := 101,
        now := 30 }, fun _ => none),
    (.logCall { orderId := 7, outcome := .confirmed, actor := ravi, newId := 205, now := 40 },
      fun _ => none),
    (.editCallAttempt
      { orderId := 7, attemptId := 202, outcome := .busy, actor := ravi, newId := 206 },
      fun _ => none)]

example : (run ServiceCall.exec assignedOrder correctedCalls).callAttempts.rows.map
    (fun c => (c.id, c.attemptNumber, c.correctsAttemptId)) =
    [(201, 1, none), (202, 2, none), (203, 1, some 201), (204, 2, some 202), (205, 3, none)] := by
  decide +kernel

/-- The run above. -/
theorem call_log_chained_corrected : ∃ n,
    ChainedLog (run ServiceCall.exec assignedOrder correctedCalls).callAttempts 7 n :=
  call_log_chained assignedOrder 7 (fun _ hc => absurd hc List.not_mem_nil) correctedCalls

end AyushOms.Telecalling
