import AyushOms.Lib.Watched
import AyushOms.Telecalling.Shown

/-!
# Concurrent Calls on One Order

Requests that log a call or correct one, interleaved statement by statement. The next number,
the counter of the assignment and the row to correct are each read by a statement of its own
and used later, and no lock or constraint refuses a request whose reads are out of date by
then. Two calls logged at once get one number and count once; two corrections of one call
leave it two current rows.

## Main results

- `concurrent_calls_kept`: when every commit finds what its request has read, numbers,
  counter and chains are kept
- `calls_logged_at_once`: two calls logged at once
-/

namespace AyushOms.Telecalling

open AyushOms.Lib

/-! ## Section 1: Requests -/

/-- A request that logs a call or corrects one. -/
inductive Request where
  | logCall (c : LogCall)
  | editCallAttempt (c : EditCall)
  deriving DecidableEq

namespace Request

def orderId : Request → UUID
  | logCall c => c.orderId
  | editCallAttempt c => c.orderId

def toServiceCall : Request → ServiceCall
  | logCall c => .logCall c
  | editCallAttempt c => .editCallAttempt c

/-- The statements of the request up to its commit. -/
def program (r : Request) : CallTxn PUnit := Txn.thenCommit r.toServiceCall.body

end Request

abbrev RequestCaller := Txn.Caller Request CallDB CallWrite PyException PUnit

theorem commits_logCall {c : LogCall} {l : List (CallDB × Option PyException)}
    {batch : List CallWrite}
    (h : (⟨.logCall c, (Request.logCall c).program, []⟩ : RequestCaller).Commits
      CallWrite.apply l batch) :
    ∃ loaded numbered s₂ s₃ assignment, l.map Prod.fst = [loaded, numbered, s₂, s₃] ∧
      ownAssignment c.actor c.orderId loaded = .ok assignment ∧
      batch = [.insertAttempt (c.row (nextAttemptNumber numbered.callAttempts c.orderId)),
        .updateAssignment assignment (c.write assignment)] := by
  obtain ⟨loaded, l, view, rfl, hview, h⟩ := Txn.Caller.commits_read h
  obtain rfl := Except.ok.inj hview
  cases hown : ownAssignment c.actor c.orderId loaded with
  | error e =>
    beta_reduce at h
    rw [hown] at h
    exact absurd h Txn.Caller.not_commits_fail
  | ok assignment =>
    beta_reduce at h
    rw [hown] at h
    obtain ⟨numbered, l, view, rfl, hview, h⟩ := Txn.Caller.commits_read h
    obtain rfl := Except.ok.inj hview
    obtain ⟨s₂, l, view, rfl, -, h⟩ := Txn.Caller.commits_write h
    obtain ⟨s₃, l, view, rfl, -, h⟩ := Txn.Caller.commits_write h
    obtain ⟨rfl, rfl⟩ := Txn.Caller.commits_commit h
    exact ⟨loaded, numbered, s₂, s₃, assignment, rfl, hown, rfl⟩

theorem commits_editCallAttempt {c : EditCall} {l : List (CallDB × Option PyException)}
    {batch : List CallWrite}
    (h : (⟨.editCallAttempt c, (Request.editCallAttempt c).program, []⟩ : RequestCaller).Commits
      CallWrite.apply l batch) :
    ∃ loaded named found s₃ recounted s₅ assignment row target view,
      l.map Prod.fst = [loaded, named, found, s₃, recounted, s₅] ∧
      ownAssignment c.actor c.orderId loaded = .ok assignment ∧
      named.callAttempts.find? (fun c' => c'.id == c.attemptId) = some row ∧
      row.orderId = c.orderId ∧
      (resolveCurrentForOrder found.callAttempts c.orderId true).find?
        (fun c' => c'.attemptNumber == row.attemptNumber) = some target ∧
      target.isVoid = false ∧
      CallWrite.apply (.insertAttempt (c.row target)) recounted = .ok view ∧
      batch = [.insertAttempt (c.row target), .updateAssignment assignment
        (recomputed (resolveCurrentForOrder view.callAttempts c.orderId false) target
          assignment)] := by
  obtain ⟨loaded, l, view, rfl, hview, h⟩ := Txn.Caller.commits_read h
  obtain rfl := Except.ok.inj hview
  cases hown : ownAssignment c.actor c.orderId loaded with
  | error e =>
    beta_reduce at h
    rw [hown] at h
    exact absurd h Txn.Caller.not_commits_fail
  | ok assignment =>
    beta_reduce at h
    rw [hown] at h
    obtain ⟨named, l, view, rfl, hview, h⟩ := Txn.Caller.commits_read h
    obtain rfl := Except.ok.inj hview
    cases hrow : (named.callAttempts.find? fun c' => c'.id == c.attemptId).filter
        (fun c' => c'.orderId == c.orderId) with
    | none =>
      simp only [Txn.bind] at h
      rw [hrow] at h
      exact absurd h Txn.Caller.not_commits_fail
    | some row =>
      simp only [Txn.bind] at h
      rw [hrow] at h
      obtain ⟨found, l, view, rfl, hview, h⟩ := Txn.Caller.commits_read h
      obtain rfl := Except.ok.inj hview
      cases htarget : ((resolveCurrentForOrder found.callAttempts c.orderId true).find?
          (fun c' => c'.attemptNumber == row.attemptNumber)).filter (fun c' => !c'.isVoid) with
      | none =>
        simp only [Txn.bind] at h
        rw [htarget] at h
        exact absurd h Txn.Caller.not_commits_fail
      | some target =>
        simp only [Txn.bind] at h
        rw [htarget] at h
        obtain ⟨s₃, l, view, rfl, -, h⟩ := Txn.Caller.commits_write h
        obtain ⟨recounted, l, view, rfl, hview, h⟩ := Txn.Caller.commits_read h
        obtain ⟨s₅, l, view', rfl, -, h⟩ := Txn.Caller.commits_write h
        obtain ⟨rfl, rfl⟩ := Txn.Caller.commits_commit h
        obtain ⟨hfind, horder⟩ := Option.filter_eq_some_iff.mp hrow
        obtain ⟨hcurrent, hvoid⟩ := Option.filter_eq_some_iff.mp htarget
        rw [List.nil_append, Txn.replay_singleton] at hview
        exact ⟨loaded, named, found, s₃, recounted, s₅, assignment, row, target, view, rfl, hown,
          hfind, by simpa using horder, hcurrent, by simpa using hvoid, hview, rfl⟩

/-! ## Section 2: What is kept, and when -/

/-- The calls logged have numbers of their own, the counter has grown by the calls logged
since `start`, and every call has one current row. -/
structure Kept (start : CallDB) (orderId : UUID) (db : CallDB) : Prop where
  distinct : ∀ c ∈ attemptsOf db.callAttempts orderId, ∀ c' ∈ attemptsOf db.callAttempts orderId,
    c.correctsAttemptId = none → c'.correctsAttemptId = none →
    c.attemptNumber = c'.attemptNumber → c = c'
  counted : attemptCountOf db orderId = (attemptCountOf start orderId).map
    (· + (loggedCalls db.callAttempts orderId - loggedCalls start.callAttempts orderId : ℤ))
  tip : ∀ c ∈ attemptsOf db.callAttempts orderId,
    ∃! c', IsTip db.callAttempts orderId c' ∧ c'.attemptNumber = c.attemptNumber

/-- What a request that is about to commit has read still holds. A logged call: no call has
been logged since its first statement, which loads the assignment. A correction: its call has
not been corrected since its third statement, which finds the row to correct; the calls logged
meanwhile are all before or all after its fifth statement, which counts; and the counter is the
number of current calls. -/
def UpToDate (orderId : UUID) : Request → List CallDB → CallDB → Prop
  | .logCall _, seen, db => ∀ loaded ∈ seen[0]?,
    nextAttemptNumber loaded.callAttempts orderId = nextAttemptNumber db.callAttempts orderId
  | .editCallAttempt c, seen, db =>
    (∀ row ∈ db.callAttempts.find? fun c' => c'.id == c.attemptId, ∀ found ∈ seen[2]?,
      attemptChain found.callAttempts orderId row.attemptNumber =
        attemptChain db.callAttempts orderId row.attemptNumber) ∧
    (∀ loaded ∈ seen[0]?, ∀ recounted ∈ seen[4]?,
      nextAttemptNumber loaded.callAttempts orderId =
          nextAttemptNumber recounted.callAttempts orderId ∨
        nextAttemptNumber recounted.callAttempts orderId =
          nextAttemptNumber db.callAttempts orderId) ∧
    ∀ count ∈ attemptCountOf db orderId, count = currentCalls db orderId

instance (orderId : UUID) : ∀ (r : Request) (seen : List CallDB) (db : CallDB),
    Decidable (UpToDate orderId r seen db)
  | .logCall _, seen, db => inferInstanceAs (Decidable (∀ loaded ∈ seen[0]?,
    nextAttemptNumber loaded.callAttempts orderId = nextAttemptNumber db.callAttempts orderId))
  | .editCallAttempt c, seen, db => by
    unfold UpToDate
    infer_instance

/-! ## Section 3: The tables -/

/-- The call log has only grown. -/
def Grown (db db' : CallDB) : Prop := db.callAttempts.rows <+: db'.callAttempts.rows

instance : Std.Refl Grown := ⟨fun _ => List.prefix_rfl⟩

instance : IsTrans CallDB Grown := ⟨fun _ _ _ => List.IsPrefix.trans⟩

section Tables

variable {attempts attempts' : AttemptTable} {orderId : UUID} {n : ℕ} {db db' : CallDB}

theorem Grown.attemptChain (h : Grown db db') (orderId : UUID) (number : ℕ) :
    attemptChain db.callAttempts orderId number <+: attemptChain db'.callAttempts orderId number :=
  (List.IsPrefix.filter _ h).filter _

theorem Grown.loggedCalls_le (h : Grown db db') (orderId : UUID) :
    loggedCalls db.callAttempts orderId ≤ loggedCalls db'.callAttempts orderId :=
  (List.IsPrefix.filter _ h).sublist.countP_le

theorem Grown.find? (h : Grown db db') {p : CallAttempt → Bool} {c : CallAttempt}
    (hc : db.callAttempts.find? p = some c) : db'.callAttempts.find? p = some c := by
  obtain ⟨rest, hrest⟩ := h
  rw [Table.find?, ← hrest, List.find?_append]
  exact Option.or_eq_some_iff.mpr (.inl hc)

/-- Between two moments with the same chain there is the same chain. -/
theorem attemptChain_between {db₁ : CallDB} {number : ℕ} (h : Grown db db₁) (h' : Grown db₁ db')
    (heq : attemptChain db.callAttempts orderId number =
      attemptChain db'.callAttempts orderId number) :
    attemptChain db.callAttempts orderId number = attemptChain db₁.callAttempts orderId number :=
  (h.attemptChain orderId number).eq_of_length_le
    (heq ▸ (h'.attemptChain orderId number).length_le)

/-- The end of a chain is the end of an equal chain. -/
theorem CallLog.isTip_of_chain_eq {target : CallAttempt} {m : ℕ}
    (h : CallLog attempts orderId n) (h' : CallLog attempts' orderId m)
    (htip : IsTip attempts orderId target)
    (hchain : attemptChain attempts orderId target.attemptNumber =
      attemptChain attempts' orderId target.attemptNumber) :
    IsTip attempts' orderId target := by
  have hlast : (attemptChain attempts' orderId target.attemptNumber).getLast? = some target := by
    rw [← hchain]
    exact h.history.getLast?_entries htip
  have hmem : target ∈ attemptsOf attempts' orderId :=
    (Revisions.mem_entries.mp (List.mem_of_getLast? hlast)).1
  obtain ⟨tip, ⟨htip', hslot⟩, -⟩ := h'.history.existsUnique_tip hmem
  have hlast' := h'.history.getLast?_entries htip'
  rw [hslot] at hlast'
  obtain rfl : tip = target := Option.some.inj (hlast'.symm.trans hlast)
  exact htip'

end Tables

/-! ## Section 4: Every run of up-to-date commits -/

/-- What holds of the tables between the commits: the call log is a history, and the counter
of the active assignment and the number of current calls have grown by the calls logged. -/
structure Sound (start : CallDB) (orderId : UUID) (db : CallDB) : Prop where
  log : CallLog db.callAttempts orderId (loggedCalls db.callAttempts orderId)
  assigned : (getActiveForOrder db.assignments orderId).map (fun a => (a.id, a.attemptCount)) =
    (getActiveForOrder start.assignments orderId).map fun a => (a.id, a.attemptCount +
      (loggedCalls db.callAttempts orderId - loggedCalls start.callAttempts orderId : ℤ))
  shown : (currentCalls db orderId : ℤ) - loggedCalls db.callAttempts orderId =
    currentCalls start orderId - loggedCalls start.callAttempts orderId

namespace Sound

variable {start db db' loaded : CallDB} {orderId : UUID} {a b b' : OrderAssignment}

theorem kept (h : Sound start orderId db) : Kept start orderId db where
  distinct _ hc _ hc' hfirst hfirst' hnumber :=
    h.log.history.original_unique hc hc' hfirst hfirst' hnumber
  counted := by
    have hcount := congrArg (Option.map Prod.snd) h.assigned
    rw [Option.map_map, Option.map_map] at hcount
    rw [attemptCountOf, attemptCountOf, Option.map_map]
    exact hcount
  tip _ hc := h.log.history.existsUnique_tip hc

/-- The active assignment is the same row at any two moments. -/
theorem active (h : Sound start orderId db) (hloaded : Sound start orderId loaded)
    (ha : getActiveForOrder loaded.assignments orderId = some a) :
    ∃ b, getActiveForOrder db.assignments orderId = some b ∧ b.id = a.id ∧
      b.attemptCount - loggedCalls db.callAttempts orderId =
        a.attemptCount - loggedCalls loaded.callAttempts orderId := by
  have hold := hloaded.assigned
  rw [ha] at hold
  obtain ⟨a₀, hstart, ha₀⟩ := Option.map_eq_some_iff.mp hold.symm
  have hnow := h.assigned
  rw [hstart] at hnow
  obtain ⟨b, hb, hb₀⟩ := Option.map_eq_some_iff.mp hnow
  obtain ⟨hid, hcount⟩ := Prod.mk.inj ha₀
  obtain ⟨hid', hcount'⟩ := Prod.mk.inj hb₀
  exact ⟨b, hb, hid'.trans hid, by omega⟩

/-- A commit keeps the tables sound when it changes the counter by as much as the number of
calls logged. -/
theorem of_commit (h : Sound start orderId db)
    (hlog : CallLog db'.callAttempts orderId (loggedCalls db'.callAttempts orderId))
    (hb : getActiveForOrder db.assignments orderId = some b)
    (hb' : getActiveForOrder db'.assignments orderId = some b') (hid : b'.id = b.id)
    (hcount : b'.attemptCount - loggedCalls db'.callAttempts orderId =
      b.attemptCount - loggedCalls db.callAttempts orderId)
    (hshown : (currentCalls db' orderId : ℤ) - loggedCalls db'.callAttempts orderId =
      currentCalls db orderId - loggedCalls db.callAttempts orderId) :
    Sound start orderId db' := by
  refine ⟨hlog, ?_, hshown.trans h.shown⟩
  have hnow := h.assigned
  rw [hb] at hnow
  obtain ⟨a₀, hstart, ha₀⟩ := Option.map_eq_some_iff.mp hnow.symm
  obtain ⟨hid₀, hcount₀⟩ := Prod.mk.inj ha₀
  rw [hb', hstart, Option.map_some, Option.map_some, Option.some_inj, Prod.mk.injEq]
  exact ⟨hid.trans hid₀.symm, by omega⟩

end Sound

/-- The two writes of a request, replayed at its commit. -/
theorem replay_request {row : CallAttempt} {loaded written : OrderAssignment} {db db' : CallDB}
    (h : Txn.replay CallWrite.apply [.insertAttempt row, .updateAssignment loaded written] db =
      .ok db') :
    db.callAttempts.insert? row = some db'.callAttempts ∧
      db.assignments.update? (fun a => a.id == loaded.id) (loaded.update written) =
        some db'.assignments := by
  rw [show [CallWrite.insertAttempt row, .updateAssignment loaded written] =
    [.insertAttempt row] ++ [.updateAssignment loaded written] from rfl, Txn.replay_append,
    Txn.replay_singleton] at h
  simp only [CallWrite.apply] at h
  split at h
  · cases h
  · rename_i attempts hinsert
    rw [Except.bind, Txn.replay_singleton] at h
    simp only [CallWrite.apply] at h
    split at h
    · cases h
    · cases h
      exact ⟨hinsert, by assumption⟩

/-- An up-to-date logged call. -/
theorem Sound.logCall {start loaded numbered db db' : CallDB} {c : LogCall}
    {assignment : OrderAssignment} (hloaded : Sound start c.orderId loaded)
    (hnumbered : Sound start c.orderId numbered) (h : Sound start c.orderId db)
    (hgrown : Grown loaded numbered) (hgrown' : Grown numbered db)
    (hown : ownAssignment c.actor c.orderId loaded = .ok assignment)
    (hnext : nextAttemptNumber loaded.callAttempts c.orderId =
      nextAttemptNumber db.callAttempts c.orderId)
    (hreplay : Txn.replay CallWrite.apply
      [.insertAttempt (c.row (nextAttemptNumber numbered.callAttempts c.orderId)),
        .updateAssignment assignment (c.write assignment)] db = .ok db') :
    Sound start c.orderId db' ∧ Grown db db' := by
  obtain ⟨hinsert, hupdate⟩ := replay_request hreplay
  -- no call was logged since the first statement, so the number is still the next one
  have hle := hgrown.loggedCalls_le c.orderId
  have hle' := hgrown'.loggedCalls_le c.orderId
  rw [hloaded.log.nextAttemptNumber_eq, h.log.nextAttemptNumber_eq] at hnext
  have hnumber : nextAttemptNumber numbered.callAttempts c.orderId =
      nextAttemptNumber db.callAttempts c.orderId := by
    rw [hnumbered.log.nextAttemptNumber_eq, h.log.nextAttemptNumber_eq]
    omega
  have hlog := h.log.insert_logged hinsert rfl hnumber rfl
  have hlogged : loggedCalls db'.callAttempts c.orderId =
      loggedCalls db.callAttempts c.orderId + 1 := hlog.logged
  obtain ⟨b, hb, hid, hcount⟩ := h.active hloaded (getActiveForOrder_of_own hown)
  have hb' := getActiveForOrder_update? hupdate hb hid rfl
  have hshown : currentCalls db' c.orderId = currentCalls db c.orderId + 1 :=
    h.log.length_visible_logged hinsert rfl rfl rfl
  have hwritten : (assignment.update (c.write assignment) b).attemptCount =
      assignment.attemptCount + 1 := if_neg (by
        change ¬ assignment.attemptCount + 1 = assignment.attemptCount
        omega)
  refine ⟨h.of_commit (hlogged ▸ hlog) hb hb' rfl ?_ ?_, ?_⟩
  · rw [hwritten]
    omega
  · omega
  · exact ⟨_, (Table.rows_of_insert? hinsert).symm⟩

/-- An up-to-date correction. -/
theorem Sound.editCallAttempt {start loaded named found recounted view db db' : CallDB}
    {c : EditCall} {assignment : OrderAssignment} {row target : CallAttempt}
    (hloaded : Sound start c.orderId loaded) (hfound : Sound start c.orderId found)
    (hrecounted : Sound start c.orderId recounted) (h : Sound start c.orderId db)
    (hnamed : Grown named db) (hgrown : Grown found recounted) (hgrown' : Grown recounted db)
    (hown : ownAssignment c.actor c.orderId loaded = .ok assignment)
    (hrow : named.callAttempts.find? (fun c' => c'.id == c.attemptId) = some row)
    (hcurrent : (resolveCurrentForOrder found.callAttempts c.orderId true).find?
      (fun c' => c'.attemptNumber == row.attemptNumber) = some target)
    (hvoid : target.isVoid = false)
    (hview : CallWrite.apply (.insertAttempt (c.row target)) recounted = .ok view)
    (hchain : ∀ row ∈ db.callAttempts.find? fun c' => c'.id == c.attemptId,
      attemptChain found.callAttempts c.orderId row.attemptNumber =
        attemptChain db.callAttempts c.orderId row.attemptNumber)
    (hlogs : nextAttemptNumber loaded.callAttempts c.orderId =
        nextAttemptNumber recounted.callAttempts c.orderId ∨
      nextAttemptNumber recounted.callAttempts c.orderId =
        nextAttemptNumber db.callAttempts c.orderId)
    (hexact : ∀ count ∈ attemptCountOf db c.orderId, count = currentCalls db c.orderId)
    (hreplay : Txn.replay CallWrite.apply [.insertAttempt (c.row target),
      .updateAssignment assignment (recomputed
        (resolveCurrentForOrder view.callAttempts c.orderId false) target assignment)] db =
      .ok db') :
    Sound start c.orderId db' ∧ Grown db db' := by
  obtain ⟨hinsert, hupdate⟩ := replay_request hreplay
  obtain hrow' := hnamed.find? hrow
  have hnumber : target.attemptNumber = row.attemptNumber := by
    simpa using List.find?_some hcurrent
  have htip : IsTip found.callAttempts c.orderId target :=
    mem_resolveCurrentForOrder_iff_isTip.mp (List.mem_of_find?_eq_some hcurrent)
  -- the call has not been corrected since, so the row is its tip at every moment since
  have hchain' := hchain row hrow'
  rw [← hnumber] at hchain'
  have htipNow : IsTip db.callAttempts c.orderId target :=
    hfound.log.isTip_of_chain_eq h.log htip hchain'
  have htipThen : IsTip recounted.callAttempts c.orderId target :=
    hfound.log.isTip_of_chain_eq hrecounted.log htip
      (attemptChain_between hgrown hgrown' hchain')
  have hlog := h.log.insert_corrected hinsert rfl htipNow hvoid rfl rfl
  have hlogged : loggedCalls db'.callAttempts c.orderId = loggedCalls db.callAttempts c.orderId :=
    hlog.logged
  have hshown : currentCalls db' c.orderId = currentCalls db c.orderId :=
    h.log.length_visible_corrected hinsert rfl htipNow hvoid rfl rfl
  have hcounted : (resolveCurrentForOrder view.callAttempts c.orderId false).length =
      currentCalls recounted c.orderId := by
    have hinsertThen : recounted.callAttempts.insert? (c.row target) = some view.callAttempts := by
      simp only [CallWrite.apply] at hview
      split at hview
      · cases hview
      · cases hview
        assumption
    exact hrecounted.log.length_visible_corrected hinsertThen rfl htipThen hvoid rfl rfl
  obtain ⟨b, hb, hid, hcount⟩ := h.active hloaded (getActiveForOrder_of_own hown)
  have hb' := getActiveForOrder_update? hupdate hb hid rfl
  -- the number counted is the counter as it is now, or as it was loaded, and then not written
  have hwritten : ((assignment.update (recomputed
      (resolveCurrentForOrder view.callAttempts c.orderId false) target assignment) b)).attemptCount
      = b.attemptCount := by
    have hnow : b.attemptCount = currentCalls db c.orderId :=
      hexact b.attemptCount (by rw [attemptCountOf, hb]; rfl)
    have hshownNow := h.shown
    have hshownThen := hrecounted.shown
    rw [hloaded.log.nextAttemptNumber_eq, hrecounted.log.nextAttemptNumber_eq,
      h.log.nextAttemptNumber_eq] at hlogs
    change (if ((resolveCurrentForOrder view.callAttempts c.orderId false).length : ℤ) =
      assignment.attemptCount then b.attemptCount else _) = _
    split
    · rfl
    · rename_i hne
      change ((resolveCurrentForOrder view.callAttempts c.orderId false).length : ℤ) = _
      rw [hcounted] at hne ⊢
      omega
  refine ⟨h.of_commit (hlogged ▸ hlog) hb hb' rfl ?_ ?_, ?_⟩
  · rw [hwritten, hlogged]
  · omega
  · exact ⟨_, (Table.rows_of_insert? hinsert).symm⟩

/-- Every up-to-date commit keeps the tables sound. -/
theorem preserves_upToDate (start : CallDB) (orderId : UUID) :
    Txn.Watched.Preserves CallWrite.apply Request.program (fun r => r.orderId = orderId)
      (UpToDate orderId) (Sound start orderId) Grown := by
  intro r l batch db db' ho hcommits hvalid hreplay hseen hgrown hdb
  have hsound : ∀ s ∈ l.map Prod.fst, Sound start orderId s := List.forall_mem_map.mpr hseen
  cases r with
  | logCall c =>
    obtain rfl : c.orderId = orderId := ho
    obtain ⟨loaded, numbered, s₂, s₃, assignment, hl, hown, rfl⟩ := commits_logCall hcommits
    rw [hl] at hsound hgrown hvalid
    simp only [List.cons_append, List.nil_append, List.pairwise_cons] at hgrown
    exact Sound.logCall (hsound loaded (by simp)) (hsound numbered (by simp)) hdb
      (hgrown.1 numbered (by simp)) (hgrown.2.1 db (by simp)) hown (hvalid loaded rfl) hreplay
  | editCallAttempt c =>
    obtain rfl : c.orderId = orderId := ho
    obtain ⟨loaded, named, found, s₃, recounted, s₅, assignment, row, target, view, hl, hown, hrow,
      -, hcurrent, hvoid, hview, rfl⟩ := commits_editCallAttempt hcommits
    rw [hl] at hsound hgrown hvalid
    simp only [List.cons_append, List.nil_append, List.pairwise_cons] at hgrown
    obtain ⟨hchain, hlogs, hexact⟩ := hvalid
    exact Sound.editCallAttempt (hsound loaded (by simp)) (hsound found (by simp))
      (hsound recounted (by simp)) hdb (hgrown.2.1 db (by simp))
      (hgrown.2.2.1 recounted (by simp)) (hgrown.2.2.2.2.1 db (by simp)) hown hrow hcurrent hvoid
      hview (fun row hrow => hchain row hrow found rfl) (hlogs loaded rfl recounted rfl) hexact
      hreplay

/-- Requests on one order, interleaved in any way: as long as every commit is up to date,
numbers, counter and chains are kept in every state. -/
theorem concurrent_calls_kept (db : CallDB) (orderId : UUID)
    (hnew : ∀ c ∈ db.callAttempts.rows, c.orderId ≠ orderId)
    (history : List (ServiceCall × (ℕ → Option PyException)))
    (events : List (Txn.Event Request PyException))
    (hvalid : Along (Txn.Watched.step CallWrite.apply Request.program)
      (Txn.Watched.Validated (fun r => r.orderId = orderId) (UpToDate orderId))
      (Txn.Watched.init (run ServiceCall.exec db history)) events) :
    Throughout (Txn.Watched.step CallWrite.apply Request.program)
      (fun w => Kept (run ServiceCall.exec db history) orderId w.server.committed)
      (Txn.Watched.init (run ServiceCall.exec db history)) events := by
  obtain ⟨n, hlog⟩ := CallLog.run_exec hnew history
  have hstart : Sound (run ServiceCall.exec db history) orderId (run ServiceCall.exec db history) :=
    ⟨hlog.logged.symm ▸ hlog, by simp, rfl⟩
  intro pre hpre
  exact (Txn.Watched.tracked_throughout (preserves_upToDate _ orderId) hstart hvalid pre
    hpre).inv.kept

/-- The requests of the runs below. -/
def ashaLogs (id : UUID) : Request :=
  .logCall { orderId := 7, outcome := .busy, actor := asha, newId := id, now := 10 }

def ashaEdits (attemptId id : UUID) : Request :=
  .editCallAttempt
    { orderId := 7, attemptId := attemptId, outcome := .interested, actor := asha, newId := id }

/-- A call was logged before; it is corrected, and between the third and the fifth statement of
the correction another call is logged. -/
theorem concurrent_calls_kept_overlapping :
    Throughout (Txn.Watched.step CallWrite.apply Request.program)
      (fun w => Kept (run ServiceCall.exec assignedOrder
        [((ashaLogs 201).toServiceCall, fun _ => none)]) 7 w.server.committed)
      (Txn.Watched.init (run ServiceCall.exec assignedOrder
        [((ashaLogs 201).toServiceCall, fun _ => none)]))
      ([.start (ashaEdits 201 203), .start (ashaLogs 202)] ++
        ([0, 0, 0, 1, 1, 1, 1, 1, 0, 0, 0, 0].map fun number => .step number none)) :=
  concurrent_calls_kept assignedOrder 7 (fun _ hc => absurd hc List.not_mem_nil) _ _
    (by decide +kernel)

/-- Two calls logged at once, each having read the next number before the other commits. -/
def twoCallsAtOnce : List (Txn.Event Request PyException) :=
  [.start (ashaLogs 201), .start (ashaLogs 202)] ++
    [0, 1, 0, 1, 0, 0, 0, 1, 1, 1].map fun number => .step number none

/-- Both calls are logged, both as number 1, and the counter is 1. -/
theorem calls_logged_at_once :
    let db := (run (Txn.Server.step CallWrite.apply Request.program)
      { committed := assignedOrder } twoCallsAtOnce).committed
    (attemptsOf db.callAttempts 7).map (fun c => (c.id, c.attemptNumber, c.correctsAttemptId)) =
        [(201, 1, none), (202, 1, none)] ∧
      attemptCountOf db 7 = some 1 ∧ ¬ Kept assignedOrder 7 db := by
  refine ⟨by decide +kernel, by decide +kernel, fun h => ?_⟩
  have hcounted := h.counted
  revert hcounted
  decide +kernel

end AyushOms.Telecalling
