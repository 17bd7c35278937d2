import AyushOms.Lib.Recount
import AyushOms.Telecalling.Shown

/-!
# The Counter of an Assignment

`attempt_count` counts the calls of an assignment one by one as they are logged, and an edit
or a deletion sets it to the number of calls the order is shown with. A reassignment begins a
new assignment at zero, and the order keeps its calls: if there are any, the two disagree, and
the first edit or deletion afterwards moves the counter by the calls made before.

## Main results

- `tallied_calls`: each call acts on the counter and the calls shown as on a tally
- `attempt_count_kept_iff`: the runs in which every call counts as it should
-/

namespace AyushOms.Telecalling

open AyushOms.Lib

/-! ## Section 1: What a call should do to the counter -/

namespace ServiceCall

/-- What the call does to the calls shown and the counter of them. -/
def act : ServiceCall → TallyAct
  | logCall _ => .add
  | editCallAttempt _ => .exchange
  | deleteCallAttempt _ => .remove
  | reassignOrder _ => .restart

end ServiceCall

/-- The status of the assignment is the outcome of the latest call, or that there is none. -/
structure StatusOf (calls : List CallAttempt) (a : OrderAssignment) : Prop where
  latest : ∀ c, IsLatest calls c → a.currentStatus = c.outcome
  none : calls = [] → a.currentStatus = .notCalled

/-- What a call should leave of the assignment of its order: `log_call` counts one more, an
edit none, a deletion one less, and after these the status is that of the latest call. -/
def Counts (calls : List CallAttempt) (a a' : OrderAssignment) : ServiceCall → Prop
  | .logCall _ => a'.attemptCount = a.attemptCount + 1
  | .editCallAttempt _ => a'.attemptCount = a.attemptCount ∧ StatusOf calls a'
  | .deleteCallAttempt _ => a'.attemptCount = a.attemptCount - 1 ∧ StatusOf calls a'
  | .reassignOrder _ => True

/-- A call on the order that returns finds an active assignment and leaves one that counts as
it should. -/
def CountKept (orderId : UUID) (db : CallDB) (e : ServiceCall × (ℕ → Option PyException)) :
    Prop :=
  ServiceCall.Returns db e → e.1.orderId = orderId →
    ∃ a a', getActiveForOrder db.assignments orderId = some a ∧
      getActiveForOrder (ServiceCall.exec db e).assignments orderId = some a' ∧
      Counts (resolveCurrentForOrder (ServiceCall.exec db e).callAttempts orderId false) a a' e.1

/-- A reassignment of the order while it is shown with calls. -/
def ReassignsOver (orderId : UUID) (db : CallDB)
    (e : ServiceCall × (ℕ → Option PyException)) : Prop :=
  ServiceCall.Returns db e ∧ e.1.orderId = orderId ∧ (∃ c, e.1 = .reassignOrder c) ∧
    resolveCurrentForOrder db.callAttempts orderId false ≠ []

/-- An edit or a deletion of a call of the order. -/
def CorrectsCall (orderId : UUID) (db : CallDB)
    (e : ServiceCall × (ℕ → Option PyException)) : Prop :=
  ServiceCall.Returns db e ∧ e.1.orderId = orderId ∧
    ((∃ c, e.1 = .editCallAttempt c) ∨ ∃ c, e.1 = .deleteCallAttempt c)

/-! ## Section 2: The counter and the calls shown are a tally -/

/-- The counter of the active assignment, beside the number of calls shown. -/
def callTally (orderId : UUID) (db : CallDB) : Tally where
  counter := (attemptCountOf db orderId).getD 0
  size := currentCalls db orderId

/-- What a call does to the tally of one order. -/
def actOn (orderId : UUID) (db : CallDB) (e : ServiceCall × (ℕ → Option PyException)) :
    Option TallyAct :=
  if ServiceCall.Returns db e ∧ e.1.orderId = orderId then some e.1.act else none

theorem actOn_eq_some {orderId : UUID} {db : CallDB}
    {e : ServiceCall × (ℕ → Option PyException)} {a : TallyAct} :
    actOn orderId db e = some a ↔
      ServiceCall.Returns db e ∧ e.1.orderId = orderId ∧ e.1.act = a := by
  unfold actOn
  split
  · rename_i h
    simp [h]
  · rename_i h
    simp only [reduceCtorEq, false_iff]
    exact fun hact => h ⟨hact.1, hact.2.1⟩

section Calls

variable {db db' : CallDB} {e : ServiceCall × (ℕ → Option PyException)} {call : ServiceCall}
  {orderId : UUID} {a a' : OrderAssignment} {n : ℕ}

namespace ServiceCall.Leaves

/-- A call acts on the counter and the number of calls shown as on a tally. -/
theorem tally (h : Leaves db db' call a a') (hlog : CallLog db.callAttempts call.orderId n) :
    (⟨a'.attemptCount, currentCalls db' call.orderId⟩ : Tally) =
        call.act.apply ⟨a.attemptCount, currentCalls db call.orderId⟩ ∧
      (call.act = .remove → 0 < currentCalls db call.orderId) := by
  cases h with
  | logCall c a hinsert =>
    have hsize : currentCalls db' c.orderId = currentCalls db c.orderId + 1 :=
      hlog.length_visible_logged hinsert rfl rfl rfl
    exact ⟨congrArg (Tally.mk _) hsize, nofun⟩
  | editCallAttempt c a target htarget hinsert =>
    obtain ⟨hmem, hvoid⟩ := mem_of_getCorrectableForOrder htarget
    have hsize : currentCalls db' c.orderId = currentCalls db c.orderId :=
      hlog.length_visible_corrected hinsert rfl (mem_resolveCurrentForOrder_iff_isTip.mp hmem)
        hvoid rfl rfl
    refine ⟨?_, nofun⟩
    show (⟨(currentCalls db' c.orderId : ℤ), currentCalls db' c.orderId⟩ : Tally) = _
    rw [hsize]
    rfl
  | deleteCallAttempt c a target htarget hinsert =>
    obtain ⟨hmem, hvoid⟩ := mem_of_getCorrectableForOrder htarget
    have hsize : currentCalls db' c.orderId + 1 = currentCalls db c.orderId :=
      hlog.length_visible_deleted hinsert rfl (mem_resolveCurrentForOrder_iff_isTip.mp hmem)
        hvoid rfl rfl
    refine ⟨?_, fun _ => hsize ▸ Nat.succ_pos _⟩
    show (⟨(currentCalls db' c.orderId : ℤ), currentCalls db' c.orderId⟩ : Tally) = _
    rw [Nat.eq_sub_of_add_eq hsize]
    rfl
  | reassignOrder c current telecaller hsame =>
    have hsize : currentCalls db' c.orderId = currentCalls db c.orderId := by
      rw [currentCalls, currentCalls, hsame]
    exact ⟨congrArg (Tally.mk _) hsize, nofun⟩

end ServiceCall.Leaves

/-- The status that is written is the one of the latest call. -/
theorem statusOf_recomputed {calls : List CallAttempt} {edited : CallAttempt}
    (hlog : CallLog db.callAttempts orderId n)
    (hcalls : calls = resolveCurrentForOrder db.callAttempts orderId false) :
    StatusOf calls (recomputed calls edited a) := by
  constructor
  · intro c hc
    subst hcalls
    rw [recomputed, hlog.latestAttempt_eq hc]
    rfl
  · intro hnil
    rw [recomputed, latestAttempt_eq_none.mpr hnil]
    rfl

/-- The calls act on the counter of an order and the number of calls shown as on a tally. -/
theorem tallied_calls (orderId : UUID) :
    Tallied ServiceCall.exec (callTally orderId) (actOn orderId)
      fun db => ∃ n, CallLog db.callAttempts orderId n := by
  have hacts : ∀ db e a, (∃ n, CallLog db.callAttempts orderId n) → actOn orderId db e = some a →
      callTally orderId (ServiceCall.exec db e) = a.apply (callTally orderId db) ∧
        (a = .remove → 0 < (callTally orderId db).size) := by
    rintro db e a ⟨n, hlog⟩ hact
    obtain ⟨hreturns, rfl, rfl⟩ := actOn_eq_some.mp hact
    obtain ⟨b, b', hrewrites, hleaves⟩ := ServiceCall.leaves_of_returns hreturns
    obtain ⟨htally, hpos⟩ := hleaves.tally hlog
    refine ⟨?_, hpos⟩
    rw [callTally, callTally, attemptCountOf, attemptCountOf, hrewrites.before, hrewrites.after]
    exact htally
  refine ⟨fun db e ⟨n, hlog⟩ => hlog.exec e, fun db e a hinv hact => (hacts db e a hinv hact).1,
    fun db e _ hact => ?_, fun db e hinv hact => (hacts db e _ hinv hact).2 rfl⟩
  by_cases hreturns : ServiceCall.Returns db e
  · have ho : orderId ≠ e.1.orderId := fun ho => by
      simp [actOn, hreturns, ho] at hact
    obtain ⟨b, b', hrewrites, hleaves⟩ := ServiceCall.leaves_of_returns hreturns
    rw [callTally, callTally, attemptCountOf, attemptCountOf, currentCalls, currentCalls,
      hrewrites.others orderId ho, resolveCurrentForOrder_congr (hleaves.attemptsOf_other ho)]
  · rw [ServiceCall.exec_of_not_returns hreturns]

/-! ## Section 3: The runs in which every call counts as it should -/

/-- The counter is right when it moves as the calls shown do: the status always is. -/
theorem ServiceCall.Leaves.counts_iff (h : Leaves db db' call a a')
    (hlog : CallLog db'.callAttempts call.orderId n) (size size' : ℕ) :
    Counts (resolveCurrentForOrder db'.callAttempts call.orderId false) a a' call ↔
      call.act.Follows ⟨a.attemptCount, size⟩ ⟨a'.attemptCount, size'⟩ := by
  cases h with
  | logCall c a hinsert => exact Iff.rfl
  | editCallAttempt c a target htarget hinsert =>
    exact and_iff_left (statusOf_recomputed hlog rfl)
  | deleteCallAttempt c a target htarget hinsert =>
    exact and_iff_left (statusOf_recomputed hlog rfl)
  | reassignOrder c current telecaller hlog => exact Iff.rfl

theorem countKept_iff (hlog : CallLog db.callAttempts orderId n) :
    CountKept orderId db e ↔
      Counted ServiceCall.exec (callTally orderId) (actOn orderId) db e := by
  obtain ⟨n', hlog'⟩ := hlog.exec e
  have hcount : ServiceCall.Returns db e → e.1.orderId = orderId →
      ∃ b b', getActiveForOrder db.assignments orderId = some b ∧
        getActiveForOrder (ServiceCall.exec db e).assignments orderId = some b' ∧
        (Counts (resolveCurrentForOrder (ServiceCall.exec db e).callAttempts orderId false) b b'
            e.1 ↔
          e.1.act.Follows (callTally orderId db) (callTally orderId (ServiceCall.exec db e))) := by
    rintro hreturns rfl
    obtain ⟨b, b', hrewrites, hleaves⟩ := ServiceCall.leaves_of_returns hreturns
    refine ⟨b, b', hrewrites.before, hrewrites.after, ?_⟩
    rw [callTally, callTally, attemptCountOf, attemptCountOf, hrewrites.before, hrewrites.after]
    exact hleaves.counts_iff hlog' _ _
  constructor
  · intro hkept act hact
    obtain ⟨hreturns, ho, rfl⟩ := actOn_eq_some.mp hact
    obtain ⟨b, b', hb, hb', hiff⟩ := hcount hreturns ho
    obtain ⟨d, d', hd, hd', hcounts⟩ := hkept hreturns ho
    obtain rfl := Option.some.inj (hb.symm.trans hd)
    obtain rfl := Option.some.inj (hb'.symm.trans hd')
    exact hiff.mp hcounts
  · intro hcounted hreturns ho
    obtain ⟨b, b', hb, hb', hiff⟩ := hcount hreturns ho
    exact ⟨b, b', hb, hb', hiff.mpr (hcounted _ (actOn_eq_some.mpr ⟨hreturns, ho, rfl⟩))⟩

theorem reassignsOver_iff :
    ReassignsOver orderId db e ↔ RestartsOver (callTally orderId) (actOn orderId) db e := by
  have hkind : (∃ c, e.1 = .reassignOrder c) ↔ e.1.act = .restart := by
    cases e.1 <;> simp [ServiceCall.act]
  have hsize : resolveCurrentForOrder db.callAttempts orderId false ≠ [] ↔
      0 < (callTally orderId db).size := List.length_pos_iff.symm
  rw [ReassignsOver, RestartsOver, actOn_eq_some, hkind, hsize]
  simp only [and_assoc]

theorem correctsCall_iff : CorrectsCall orderId db e ↔ RecountsAt (actOn orderId) db e := by
  have hkind : ((∃ c, e.1 = .editCallAttempt c) ∨ ∃ c, e.1 = .deleteCallAttempt c) ↔
      e.1.act.Recounts := by
    cases e.1 <;> simp [ServiceCall.act, TallyAct.Recounts]
  rw [CorrectsCall, RecountsAt, hkind]
  constructor
  · rintro ⟨hreturns, ho, hrecounts⟩
    exact ⟨_, actOn_eq_some.mpr ⟨hreturns, ho, rfl⟩, hrecounts⟩
  · rintro ⟨act, hact, hrecounts⟩
    obtain ⟨hreturns, ho, rfl⟩ := actOn_eq_some.mp hact
    exact ⟨hreturns, ho, hrecounts⟩

end Calls

/-- From an order just assigned, every call counts as it should, and every edit and deletion
leaves the status of the latest call, exactly when no edit or deletion comes after a
reassignment that was made while the order was shown with calls. -/
theorem attempt_count_kept_iff (db : CallDB) (orderId : UUID)
    (hnew : ∀ c ∈ db.callAttempts.rows, c.orderId ≠ orderId)
    (hassigned : ∀ a, getActiveForOrder db.assignments orderId = some a → a.attemptCount = 0)
    (calls : List (ServiceCall × (ℕ → Option PyException))) :
    Along ServiceCall.exec (CountKept orderId) db calls ↔
      ∀ pre r mid e post, calls = pre ++ r :: (mid ++ e :: post) →
        ReassignsOver orderId (run ServiceCall.exec db pre) r →
        ¬ CorrectsCall orderId (run ServiceCall.exec db (pre ++ r :: mid)) e := by
  have hlog : ∀ calls, ∃ n, CallLog (run ServiceCall.exec db calls).callAttempts orderId n :=
    CallLog.run_exec hnew
  have hstart : (callTally orderId db).InStep := by
    have hnone : currentCalls db orderId = 0 := by
      refine List.length_eq_zero_iff.mpr (List.eq_nil_iff_forall_not_mem.mpr fun c hc => ?_)
      obtain ⟨hc, ho⟩ := mem_attemptsOf.mp (mem_visible.mp hc).1.mem
      exact hnew c hc ho
    rw [Tally.InStep, callTally, hnone, attemptCountOf]
    cases hactive : getActiveForOrder db.assignments orderId with
    | none => rfl
    | some a => exact hassigned a hactive
  have hsame : Along ServiceCall.exec (CountKept orderId) db calls ↔
      Along ServiceCall.exec (Counted ServiceCall.exec (callTally orderId) (actOn orderId)) db
        calls := by
    rw [along_iff_forall_split, along_iff_forall_split]
    refine forall_congr' fun pre => forall_congr' fun e => forall_congr' fun post =>
      imp_congr_right fun _ => ?_
    obtain ⟨n, hn⟩ := hlog pre
    exact countKept_iff hn
  have hempty : ∃ n, CallLog db.callAttempts orderId n := hlog []
  rw [hsame, (tallied_calls orderId).along_counted_iff hempty hstart]
  simp only [reassignsOver_iff, correctsCall_iff]

/-- The run of calls and corrections, in which the last correction after the reassignment
fails. -/
theorem attempt_count_kept_corrected :
    Along ServiceCall.exec (CountKept 7) assignedOrder correctedCalls ↔
      ∀ pre r mid e post, correctedCalls = pre ++ r :: (mid ++ e :: post) →
        ReassignsOver 7 (run ServiceCall.exec assignedOrder pre) r →
        ¬ CorrectsCall 7 (run ServiceCall.exec assignedOrder (pre ++ r :: mid)) e :=
  attempt_count_kept_iff assignedOrder 7 (fun _ h => absurd h List.not_mem_nil)
    (fun a ha => by
      have hrow := (getActiveForOrder_eq_some.mp ha).1
      obtain rfl := List.mem_singleton.mp hrow
      rfl) correctedCalls

/-- A call, a reassignment, a call of the new telecaller, and a correction of it. -/
def callsAcrossReassignment : List (ServiceCall × (ℕ → Option PyException)) :=
  [(.logCall { orderId := 7, outcome := .busy, actor := asha, newId := 201, now := 10 },
      fun _ => none),
    (.reassignOrder
      { orderId := 7, newTelecallerId := 2, reason := "leave", actor := leader, newId := 101,
        now := 20 }, fun _ => none),
    (.logCall { orderId := 7, outcome := .interested, actor := ravi, newId := 202, now := 30 },
      fun _ => none)]

/-- The correction of the last of them. -/
def lastCorrected : ServiceCall × (ℕ → Option PyException) :=
  (.editCallAttempt
    { orderId := 7, attemptId := 202, outcome := .confirmed, actor := ravi, newId := 203 },
    fun _ => none)

/-- The edit moves the counter from one to two. -/
theorem edit_counts_across_reassignment :
    ¬ Along ServiceCall.exec (CountKept 7) assignedOrder
      (callsAcrossReassignment ++ [lastCorrected]) := by
  intro hall
  have hkept := (along_append.mp hall).2.1
  obtain ⟨a, a', ha, ha', hcount, -⟩ := hkept (by decide +kernel) rfl
  have hbefore : attemptCountOf (run ServiceCall.exec assignedOrder callsAcrossReassignment) 7 =
      some 1 := by decide +kernel
  have hafter : attemptCountOf (ServiceCall.exec
      (run ServiceCall.exec assignedOrder callsAcrossReassignment) lastCorrected) 7 =
      some 2 := by decide +kernel
  rw [attemptCountOf, ha] at hbefore
  rw [attemptCountOf, ha'] at hafter
  rw [Option.map_some, Option.some_inj] at hbefore hafter
  omega

end AyushOms.Telecalling
