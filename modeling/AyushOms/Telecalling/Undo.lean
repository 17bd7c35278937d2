import AyushOms.Telecalling.Shown

/-!
# Deleting the Call Just Logged

`log_call` updates the assignment by what the call says, and keeps the follow-up date when it
says none; a deletion sets the same columns from the calls that are left. After a deletion of
the call just logged, number, status and last attempt are what they were. The follow-up date
is the one of the latest call left: a date that `schedule_follow_up` has set, or that an
earlier call has set and the latest has not, is gone.

## Main results

- `Tracked.run`: the columns of the assignment are those of its calls, in every run
- `deletion_returns`: a call just logged can be deleted
- `log_then_delete_undone_iff`: when its deletion undoes it
-/

namespace AyushOms.Telecalling

open AyushOms.Lib

/-! ## Section 1: Calls under one assignment -/

/-- A call of the service that can change the columns of an assignment other than by a
correction. -/
inductive FollowUpCall where
  | logCall (c : LogCall)
  | scheduleFollowUp (orderId : UUID) (nextFollowUpAt : Instant) (actor : User)
  deriving DecidableEq

namespace FollowUpCall

/-- The statements of the call before its commit. -/
def body : FollowUpCall → CallTxn PUnit
  | logCall c => (ServiceCall.logCall c).body
  | scheduleFollowUp orderId nextFollowUpAt actor => do
    let _ ← Telecalling.scheduleFollowUp orderId nextFollowUpAt actor
    return ⟨⟩

/-- The call run alone, with the statements of it that raise. -/
def exec (db : CallDB) (e : FollowUpCall × (ℕ → Option PyException)) : CallDB :=
  ((Txn.thenCommit e.1.body).run CallWrite.apply (.fresh db e.2)).2.committed

/-- The time of a call logged for the order. -/
def loggedAt (orderId : UUID) : FollowUpCall → Option Instant
  | logCall c => if c.orderId = orderId then some c.now else none
  | scheduleFollowUp .. => none

theorem writes_scheduleFollowUp (orderId : UUID) (nextFollowUpAt : Instant) (actor : User) :
    Txn.Writes (fun _ _ => True) (Telecalling.scheduleFollowUp orderId nextFollowUpAt actor) :=
  (reads_requireOwn _ _).writes_bind fun _ _ =>
    (Txn.writes_flush _).bind fun _ _ _ => Txn.writes_ret True.intro

theorem writes_body (call : FollowUpCall) : Txn.Writes (fun _ _ => True) call.body := by
  cases call with
  | logCall c => exact Telecalling.writes_body (.logCall c)
  | scheduleFollowUp orderId nextFollowUpAt actor =>
    exact (writes_scheduleFollowUp _ _ _).bind fun _ _ _ => Txn.writes_ret True.intro

end FollowUpCall

/-- The times of the calls logged for the order. -/
def logTimes (orderId : UUID) (calls : List (FollowUpCall × (ℕ → Option PyException))) :
    List Instant :=
  calls.filterMap fun e => e.1.loggedAt orderId

/-- The deletion of the call just logged. -/
def LogCall.deletion (c : LogCall) (actor : User) (newId : UUID) : DeleteCall where
  orderId := c.orderId
  attemptId := c.newId
  actor := actor
  newId := newId

/-- The columns a call writes are what they were. -/
structure Restored (a a' : OrderAssignment) : Prop where
  attemptCount : a'.attemptCount = a.attemptCount
  currentStatus : a'.currentStatus = a.currentStatus
  lastAttemptAt : a'.lastAttemptAt = a.lastAttemptAt
  nextFollowUpAt : a'.nextFollowUpAt = a.nextFollowUpAt

instance (a a' : OrderAssignment) : Decidable (Restored a a') :=
  decidable_of_iff (a'.attemptCount = a.attemptCount ∧ a'.currentStatus = a.currentStatus ∧
      a'.lastAttemptAt = a.lastAttemptAt ∧ a'.nextFollowUpAt = a.nextFollowUpAt)
    ⟨fun h => ⟨h.1, h.2.1, h.2.2.1, h.2.2.2⟩, fun h => ⟨h.1, h.2, h.3, h.4⟩⟩

/-- The follow-up date of the order is the one of the latest call: none without a call, or
when that call has set none. -/
def FollowsLatest (orderId : UUID) (db : CallDB) : Prop :=
  ∀ a ∈ getActiveForOrder db.assignments orderId, a.nextFollowUpAt =
    (latestAttempt (resolveCurrentForOrder db.callAttempts orderId false)).bind (·.nextFollowUpAt)

instance (orderId : UUID) (db : CallDB) : Decidable (FollowsLatest orderId db) :=
  inferInstanceAs (Decidable (∀ a ∈ getActiveForOrder db.assignments orderId, a.nextFollowUpAt =
    (latestAttempt (resolveCurrentForOrder db.callAttempts orderId false)).bind
      (·.nextFollowUpAt)))

/-! ## Section 2: The columns and the calls -/

/-- The columns that a deletion recomputes in any case hold what it would set. -/
structure Derived (calls : List CallAttempt) (a : OrderAssignment) : Prop where
  attemptCount : a.attemptCount = calls.length
  currentStatus : a.currentStatus = ((latestAttempt calls).map (·.outcome)).getD .notCalled
  lastAttemptAt : a.lastAttemptAt = (latestAttempt calls).map (·.attemptedAt)

/-- The columns of the active assignment are those of the calls of its order, which are all
earlier than some times to come. -/
structure Tracked (orderId : UUID) (times : List Instant) (db : CallDB) : Prop where
  log : ∃ n, CallLog db.callAttempts orderId n
  derived : ∀ a, getActiveForOrder db.assignments orderId = some a →
    Derived (resolveCurrentForOrder db.callAttempts orderId false) a
  earlier : ∀ c ∈ attemptsOf db.callAttempts orderId, ∀ t ∈ times, c.attemptedAt < t

section Tracked

variable {db db' : CallDB} {orderId : UUID} {times : List Instant} {n : ℕ}

theorem Tracked.weaken {now : List Instant} (h : Tracked orderId (now ++ times) db) :
    Tracked orderId times db :=
  ⟨h.log, h.derived, fun c hc t ht => h.earlier c hc t (List.mem_append_right now ht)⟩

/-- A call that is later than all others is the latest. -/
theorem latestAttempt_logged (hlog : CallLog db.callAttempts orderId n) {row : CallAttempt}
    (hinsert : db.callAttempts.insert? row = some db'.callAttempts) (ho : row.orderId = orderId)
    (hnumber : row.attemptNumber = nextAttemptNumber db.callAttempts orderId)
    (hfirst : row.correctsAttemptId = none) (hvoid : row.isVoid = false)
    (hearlier : ∀ c ∈ attemptsOf db.callAttempts orderId, c.attemptedAt < row.attemptedAt) :
    latestAttempt (resolveCurrentForOrder db'.callAttempts orderId false) = some row := by
  have hshown := hlog.visible_logged hinsert ho hfirst hvoid
  refine (hlog.insert_logged hinsert ho hnumber hfirst).latestAttempt_eq
    ⟨hshown.mem_iff.mpr List.mem_cons_self, fun c hc => ?_⟩
  rcases List.mem_cons.mp (hshown.mem_iff.mp hc) with rfl | hold
  · exact le_refl _
  · have hlt := hearlier c (mem_visible.mp hold).1.mem
    exact le_of_lt (Prod.Lex.toLex_lt_toLex.mpr (.inl hlt))

/-- A logged call leaves the columns those of the calls. -/
theorem Tracked.logged {c : LogCall} {a a' : OrderAssignment} {times : List Instant}
    (h : Tracked c.orderId (c.now :: times) db) (hrewrites : Rewrites c.orderId a a' db db')
    (hleaves : ServiceCall.Leaves db db' (.logCall c) a a')
    (htimes : ∀ t ∈ times, c.now < t) : Tracked c.orderId times db' := by
  obtain ⟨n, hlog⟩ := h.log
  cases hleaves with
  | logCall c a hinsert =>
    have hearlier : ∀ c' ∈ attemptsOf db.callAttempts c.orderId, c'.attemptedAt < c.now :=
      fun c' hc' => h.earlier c' hc' c.now List.mem_cons_self
    have hlatest := latestAttempt_logged hlog hinsert rfl rfl rfl rfl hearlier
    refine ⟨⟨n + 1, hlog.insert_logged hinsert rfl rfl rfl⟩, fun b hb => ?_, fun c' hc' t ht => ?_⟩
    · obtain rfl := Option.some.inj (hrewrites.after.symm.trans hb)
      have hcount := (h.derived a hrewrites.before).attemptCount
      have hlength := hlog.length_visible_logged hinsert rfl rfl rfl
      refine ⟨?_, ?_, ?_⟩
      · rw [hlength, LogCall.write, hcount]
        push_cast
        rfl
      · rw [hlatest]
        rfl
      · rw [hlatest]
        rfl
    · have hrows : attemptsOf db'.callAttempts c.orderId =
          attemptsOf db.callAttempts c.orderId ++ _ := attemptsOf_insert_own hinsert rfl
      rw [hrows] at hc'
      rcases List.mem_append.mp hc' with hold | hnew
      · exact (hearlier c' hold).trans (htimes t ht)
      · obtain rfl := List.mem_singleton.mp hnew
        exact htimes t ht

/-- What happens to other orders leaves an order tracked. -/
theorem Tracked.congr (h : Tracked orderId times db)
    (hactive : getActiveForOrder db'.assignments orderId =
      getActiveForOrder db.assignments orderId)
    (hrows : attemptsOf db'.callAttempts orderId = attemptsOf db.callAttempts orderId) :
    Tracked orderId times db' := by
  obtain ⟨n, hlog⟩ := h.log
  refine ⟨⟨n, hlog.congr hrows⟩, fun a ha => ?_, fun c hc => h.earlier c (hrows ▸ hc)⟩
  rw [resolveCurrentForOrder_congr hrows]
  exact h.derived a (hactive ▸ ha)

/-- A call that returns keeps the columns those of the calls, when it comes after the calls
before. -/
theorem Tracked.of_yields {call : FollowUpCall} {r : PUnit}
    (h : Tracked orderId ((call.loggedAt orderId).toList ++ times) db)
    (htimes : ∀ t ∈ call.loggedAt orderId, ∀ t' ∈ times, t < t')
    (hyields : Txn.Yields CallWrite.apply call.body db r db') : Tracked orderId times db' := by
  cases call with
  | logCall c =>
    have hbody : Txn.Yields CallWrite.apply (ServiceCall.logCall c).body db r db' := hyields
    obtain ⟨a, a', hrewrites, hleaves⟩ := ServiceCall.leaves_of_yields hbody
    by_cases ho : c.orderId = orderId
    · subst ho
      have hnow : (FollowUpCall.logCall c).loggedAt c.orderId = some c.now := if_pos rfl
      rw [hnow] at h htimes
      exact h.logged hrewrites hleaves (htimes c.now rfl)
    · exact h.weaken.congr (hrewrites.others orderId (Ne.symm ho))
        (hleaves.attemptsOf_other (Ne.symm ho))
  | scheduleFollowUp o nextFollowUpAt actor =>
    obtain ⟨_, -, hcall⟩ := Txn.yields_bind_pure hyields
    obtain ⟨hrows, a, hrewrites⟩ := yields_scheduleFollowUp hcall
    by_cases ho : o = orderId
    · -- the date is none of the columns that are tracked
      subst ho
      refine ⟨hrows ▸ h.log, fun b hb => ?_, hrows ▸ h.weaken.earlier⟩
      obtain rfl := Option.some.inj (hrewrites.after.symm.trans hb)
      obtain ⟨hcount, hstatus, hlast⟩ := h.derived a hrewrites.before
      rw [hrows]
      exact ⟨hcount, hstatus, hlast⟩
    · exact h.weaken.congr (hrewrites.others orderId (Ne.symm ho)) (by rw [hrows])

/-- So does a call wherever it fails. -/
theorem Tracked.exec {e : FollowUpCall × (ℕ → Option PyException)}
    (h : Tracked orderId ((e.1.loggedAt orderId).toList ++ times) db)
    (htimes : ∀ t ∈ e.1.loggedAt orderId, ∀ t' ∈ times, t < t') :
    Tracked orderId times (FollowUpCall.exec db e) := by
  have hcases : FollowUpCall.exec db e = db ∨ ∃ a, Txn.Yields CallWrite.apply
      (Txn.thenCommit e.1.body) db a (FollowUpCall.exec db e) :=
    Txn.committed_cases (FollowUpCall.writes_body e.1).settled db e.2
  rcases hcases with hsame | ⟨_, hyields⟩
  · rw [hsame]
    exact h.weaken
  · exact h.of_yields htimes (Txn.yields_thenCommit hyields)

/-- So do the calls of a run, one after another. -/
theorem Tracked.run {calls : List (FollowUpCall × (ℕ → Option PyException))}
    (h : Tracked orderId (logTimes orderId calls ++ times) db)
    (htimes : (logTimes orderId calls ++ times).Pairwise (· < ·)) :
    Tracked orderId times (run FollowUpCall.exec db calls) := by
  induction calls generalizing db with
  | nil => exact h
  | cons e calls ih =>
    have hcons : logTimes orderId (e :: calls) =
        (e.1.loggedAt orderId).toList ++ logTimes orderId calls := by
      rw [logTimes, List.filterMap_cons]
      cases e.1.loggedAt orderId <;> rfl
    rw [hcons, List.append_assoc] at h htimes
    obtain ⟨-, hrest, hfirst⟩ := List.pairwise_append.mp htimes
    refine ih (h.exec fun t ht t' ht' => ?_) hrest
    exact hfirst t (Option.mem_toList.mpr ht) t' ht'

end Tracked

/-! ## Section 3: A call and its deletion -/

/-- The pair of calls, with the statements of each that raise. -/
def logThenDelete (db : CallDB) (c : LogCall) (actor : User) (newId : UUID)
    (faults faults' : ℕ → Option PyException) : CallDB :=
  ServiceCall.exec (ServiceCall.exec db (.logCall c, faults))
    (.deleteCallAttempt (c.deletion actor newId), faults')

section Undo

variable {db db' db'' : CallDB} {c : LogCall} {actor : User} {newId : UUID} {n : ℕ}

/-- A call just logged can be corrected. -/
theorem getCorrectableForOrder_logged {row : CallAttempt}
    (hlog : CallLog db.callAttempts row.orderId n)
    (hinsert : db.callAttempts.insert? row = some db'.callAttempts)
    (hnumber : row.attemptNumber = nextAttemptNumber db.callAttempts row.orderId)
    (hfirst : row.correctsAttemptId = none) (hvoid : row.isVoid = false) :
    getCorrectableForOrder db'.callAttempts row.id row.orderId = some row := by
  have htip : IsTip db'.callAttempts row.orderId row :=
    (hlog.isTip_insert hinsert rfl (by simp [hfirst])).mpr (.inr rfl)
  exact (hlog.insert_logged hinsert rfl hnumber hfirst).getCorrectableForOrder_tip htip hvoid

/-- The calls shown are the same as before, in the same order. -/
theorem visible_logged_deleted {row voided : CallAttempt}
    (hlog : CallLog db.callAttempts row.orderId n)
    (hinsert : db.callAttempts.insert? row = some db'.callAttempts)
    (hnumber : row.attemptNumber = nextAttemptNumber db.callAttempts row.orderId)
    (hfirst : row.correctsAttemptId = none) (hvoid : row.isVoid = false)
    (hdelete : db'.callAttempts.insert? voided = some db''.callAttempts)
    (ho : voided.orderId = row.orderId) (hcorrects : voided.correctsAttemptId = some row.id)
    (hvoided : voided.isVoid = true) :
    resolveCurrentForOrder db''.callAttempts row.orderId false =
      resolveCurrentForOrder db.callAttempts row.orderId false := by
  have hlog' := hlog.insert_logged hinsert rfl hnumber hfirst
  have htip : IsTip db'.callAttempts row.orderId row :=
    (hlog.isTip_insert hinsert rfl (by simp [hfirst])).mpr (.inr rfl)
  -- the row that was added is the one that is taken away
  have herased := (hlog.visible_logged hinsert rfl hfirst hvoid).erase row
  rw [List.erase_cons_head] at herased
  have hdeleted := hlog'.visible_corrected hdelete ho htip hcorrects
  rw [if_pos hvoided, List.nil_append] at hdeleted
  exact hlog.visible_eq_of_perm (hdeleted.trans herased)

/-- What is recomputed once a call that was later than those shown is gone. -/
theorem recomputed_deleted {calls : List CallAttempt} {row : CallAttempt} {a : OrderAssignment}
    (hderived : Derived calls a) (hearlier : ∀ c' ∈ calls, c'.attemptedAt < row.attemptedAt) :
    recomputed calls row (c.write a) =
      { a with nextFollowUpAt := (latestAttempt calls).bind (·.nextFollowUpAt) } := by
  have hlatest : (calls.all fun c' =>
      c'.attemptNumber == row.attemptNumber || decide (c'.attemptedAt ≤ row.attemptedAt)) = true :=
    List.all_eq_true.mpr fun c' hc' => by simp [le_of_lt (hearlier c' hc')]
  obtain ⟨hcount, hstatus, hlast⟩ := hderived
  rw [recomputed, hlatest, if_pos rfl, ← hcount, ← hstatus, ← hlast]
  rfl

/-- A call and its deletion leave the assignment as it was, but for the follow-up date, which
is that of the latest call there was. -/
theorem active_logThenDelete {faults faults' : ℕ → Option PyException}
    (h : Tracked c.orderId [c.now] db) (hlogged : ServiceCall.Returns db (.logCall c, faults))
    (hdeleted : ServiceCall.Returns (ServiceCall.exec db (.logCall c, faults))
      (.deleteCallAttempt (c.deletion actor newId), faults')) :
    ∃ a, getActiveForOrder db.assignments c.orderId = some a ∧
      getActiveForOrder (logThenDelete db c actor newId faults faults').assignments c.orderId =
        some { a with nextFollowUpAt := (latestAttempt (resolveCurrentForOrder db.callAttempts
          c.orderId false)).bind (·.nextFollowUpAt) } := by
  obtain ⟨n, hlog⟩ := h.log
  obtain ⟨a, a₁, hfirst, hleaves⟩ := ServiceCall.leaves_of_returns hlogged
  obtain ⟨a₁', a₂, hsecond, hleaves'⟩ := ServiceCall.leaves_of_returns hdeleted
  obtain rfl : a₁ = a₁' := Option.some.inj (hfirst.after.symm.trans hsecond.before)
  refine ⟨a, hfirst.before, hsecond.after.trans ?_⟩
  cases hleaves with
  | logCall c a hinsert =>
    cases hleaves' with
    | deleteCallAttempt d a₁ target htarget hdelete =>
      -- the deletion finds the row of the call just logged
      have hfound := getCorrectableForOrder_logged hlog hinsert rfl rfl rfl
      obtain rfl := Option.some.inj (hfound.symm.trans htarget)
      have hshown := visible_logged_deleted hlog hinsert rfl rfl rfl hdelete rfl rfl rfl
      have hearlier : ∀ c' ∈ resolveCurrentForOrder db.callAttempts c.orderId false,
          c'.attemptedAt < (c.row (nextAttemptNumber db.callAttempts c.orderId)).attemptedAt :=
        fun c' hc' => h.earlier c' (mem_visible.mp hc').1.mem c.now (List.mem_singleton_self _)
      rw [← recomputed_deleted (h.derived a hfirst.before) hearlier]
      exact congrArg (fun calls => some (recomputed calls _ _)) hshown

/-- The deletion returns when no statement of it raises, the order is its caller's own, and the
id of its row is new. -/
theorem deletion_returns {faults : ℕ → Option PyException}
    (hlog : CallLog db.callAttempts c.orderId n)
    (hlogged : ServiceCall.Returns db (.logCall c, faults))
    (hown : ∀ a, getActiveForOrder db.assignments c.orderId = some a →
      actor.isSuperuser = false → a.assignedTo = actor.id)
    (hfresh : ∀ r ∈ (ServiceCall.exec db (.logCall c, faults)).callAttempts.rows, r.id ≠ newId) :
    ServiceCall.Returns (ServiceCall.exec db (.logCall c, faults))
      (.deleteCallAttempt (c.deletion actor newId), fun _ => none) := by
  obtain ⟨a, a', hrewrites, hleaves⟩ := ServiceCall.leaves_of_returns hlogged
  cases hleaves with
  | logCall c a hinsert =>
    have htarget := getCorrectableForOrder_logged hlog hinsert rfl rfl rfl
    obtain ⟨db', hcompletes⟩ : ∃ db', Txn.Completes CallWrite.apply
        (deleteCallAttempt (c.deletion actor newId)) _ _ db' :=
      completes_correctAttempt hrewrites.after (hown a hrewrites.before) htarget hfresh
    have hbody : Txn.Completes CallWrite.apply
        (ServiceCall.deleteCallAttempt (c.deletion actor newId)).body _ ⟨⟩ db' :=
      Txn.completes_bind hcompletes Txn.completes_pure
    exact hbody.thenCommit

end Undo

/-- The columns of an assignment just made. -/
def Unstarted (a : OrderAssignment) : Prop :=
  a.attemptCount = 0 ∧ a.currentStatus = .notCalled ∧ a.lastAttemptAt = none

/-- Before its first call an order is tracked. -/
theorem Tracked.start {db : CallDB} {orderId : UUID} {times : List Instant}
    (hnew : ∀ c ∈ db.callAttempts.rows, c.orderId ≠ orderId)
    (hassigned : ∀ a, getActiveForOrder db.assignments orderId = some a → Unstarted a) :
    Tracked orderId times db := by
  have hnone : attemptsOf db.callAttempts orderId = [] :=
    List.filter_eq_nil_iff.mpr fun c hc => by simpa using hnew c hc
  have hshown : resolveCurrentForOrder db.callAttempts orderId false = [] :=
    List.eq_nil_iff_forall_not_mem.mpr fun c hc => by
      have hmem := (mem_visible.mp hc).1.mem
      rw [hnone] at hmem
      exact List.not_mem_nil hmem
  refine ⟨CallLog.run_exec hnew [], fun a ha => ?_, fun c hc => ?_⟩
  · rw [hshown]
    exact ⟨(hassigned a ha).1, (hassigned a ha).2.1, (hassigned a ha).2.2⟩
  · rw [hnone] at hc
    exact absurd hc List.not_mem_nil

/-- The columns of the active assignment are the same before and after. -/
def Undone (orderId : UUID) (db db' : CallDB) : Prop :=
  ∃ a ∈ getActiveForOrder db.assignments orderId,
    ∃ a' ∈ getActiveForOrder db'.assignments orderId, Restored a a'

instance (orderId : UUID) (db db' : CallDB) : Decidable (Undone orderId db db') :=
  inferInstanceAs (Decidable (∃ a ∈ getActiveForOrder db.assignments orderId,
    ∃ a' ∈ getActiveForOrder db'.assignments orderId, Restored a a'))

/-- After every run of logged calls, at increasing times, and follow-up dates set apart from
them, a deletion of the call just logged undoes it exactly when the follow-up date before was
that of the latest call. -/
theorem log_then_delete_undone_iff (db : CallDB) (c : LogCall) (actor : User) (newId : UUID)
    (hnew : ∀ c' ∈ db.callAttempts.rows, c'.orderId ≠ c.orderId)
    (hassigned : ∀ a, getActiveForOrder db.assignments c.orderId = some a → Unstarted a)
    (calls : List (FollowUpCall × (ℕ → Option PyException)))
    (htimes : (logTimes c.orderId calls ++ [c.now]).Pairwise (· < ·))
    (faults faults' : ℕ → Option PyException)
    (hlogged : ServiceCall.Returns (run FollowUpCall.exec db calls) (.logCall c, faults))
    (hdeleted : ServiceCall.Returns
      (ServiceCall.exec (run FollowUpCall.exec db calls) (.logCall c, faults))
      (.deleteCallAttempt (c.deletion actor newId), faults')) :
    Undone c.orderId (run FollowUpCall.exec db calls)
        (logThenDelete (run FollowUpCall.exec db calls) c actor newId faults faults') ↔
      FollowsLatest c.orderId (run FollowUpCall.exec db calls) := by
  have htracked : Tracked c.orderId [c.now] (run FollowUpCall.exec db calls) :=
    (Tracked.start hnew hassigned).run htimes
  obtain ⟨a, hbefore, hafter⟩ := active_logThenDelete htracked hlogged hdeleted
  constructor
  · rintro ⟨b, hb, b', hb', hrestored⟩ d hd
    obtain rfl := Option.some.inj (hbefore.symm.trans hb)
    obtain rfl := Option.some.inj (hbefore.symm.trans hd)
    obtain rfl := Option.some.inj (hafter.symm.trans hb')
    exact hrestored.nextFollowUpAt.symm
  · intro hfollows
    exact ⟨a, hbefore, _, hafter, rfl, rfl, rfl, (hfollows a hbefore).symm⟩

/-- A call that sets a follow-up date, and a quick one that sets none. -/
def callBackCall : LogCall where
  orderId := 7
  outcome := .callBackLater
  nextFollowUpAt := some 500
  actor := asha
  newId := 201
  now := 10

def quickCall : LogCall where
  orderId := 7
  outcome := .busy
  actor := asha
  newId := 202
  now := 20

/-- The order once the first has been logged. -/
def calledOrder : CallDB :=
  run FollowUpCall.exec assignedOrder [(.logCall callBackCall, fun _ => none)]

/-- The order once the same date has been set apart from any call. -/
def scheduledOrder : CallDB :=
  run FollowUpCall.exec assignedOrder [(.scheduleFollowUp 7 500 asha, fun _ => none)]

/-- The date of the call before is there again. -/
theorem quickCall_undone : Undone 7 calledOrder
    (logThenDelete calledOrder quickCall asha 203 (fun _ => none) fun _ => none) :=
  (log_then_delete_undone_iff assignedOrder quickCall asha 203
    (fun _ h => absurd h List.not_mem_nil)
    (fun a ha => by
      obtain rfl := List.mem_singleton.mp (getActiveForOrder_eq_some.mp ha).1
      exact ⟨rfl, rfl, rfl⟩)
    [(.logCall callBackCall, fun _ => none)] (by decide) (fun _ => none) (fun _ => none)
    (by decide +kernel) (by decide +kernel)).mpr (by decide +kernel)

/-- The date that was set apart is gone. -/
theorem scheduled_date_deleted :
    ServiceCall.Returns scheduledOrder (.logCall quickCall, fun _ => none) ∧
    ServiceCall.Returns (ServiceCall.exec scheduledOrder (.logCall quickCall, fun _ => none))
      (.deleteCallAttempt (quickCall.deletion asha 203), fun _ => none) ∧
    ¬ Undone 7 scheduledOrder
      (logThenDelete scheduledOrder quickCall asha 203 (fun _ => none) fun _ => none) := by
  decide +kernel

end AyushOms.Telecalling
