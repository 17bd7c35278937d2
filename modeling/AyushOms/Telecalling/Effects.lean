import AyushOms.Telecalling.Service

/-!
# What a Call of the Telecalling Service Leaves

One lemma for each transaction of the service, from what its session saw to what it saw when
the call returned: the row it adds to the call log, and what becomes of the active assignment
of the order. Whatever is proved of the service starts from these.

## Main results

- `yields_logCall`, `yields_correctAttempt`, `yields_scheduleFollowUp`, `yields_reassignOrder`
-/

namespace AyushOms.Telecalling

open AyushOms.Lib

/-! ## Section 1: The active assignment of an order -/

theorem getActiveForOrder_of_own {actor : User} {orderId : UUID} {db : CallDB}
    {assignment : OrderAssignment} (h : ownAssignment actor orderId db = .ok assignment) :
    getActiveForOrder db.assignments orderId = some assignment := by
  unfold ownAssignment at h
  split at h
  · cases h
  · split at h
    · cases h
    · cases h
      assumption

section Assignments

variable {assignments assignments' : AssignmentTable} {orderId : UUID}
  {loaded written a : OrderAssignment}

/-- The active assignment once the columns of one assignment are written. -/
theorem getActiveForOrder_update? (h : assignments.update? (fun a => a.id == loaded.id)
      (loaded.update written) = some assignments')
    (hactive : getActiveForOrder assignments orderId = some a) (hid : a.id = loaded.id)
    (hstatus : written.assignmentStatus = loaded.assignmentStatus) :
    getActiveForOrder assignments' orderId = some (loaded.update written a) := by
  obtain ⟨hmem, ho, hactive⟩ := getActiveForOrder_eq_some.mp hactive
  refine getActiveForOrder_eq_some.mpr ⟨?_, ho, ?_⟩
  · rw [Table.rows_of_update? h]
    exact List.mem_map.mpr ⟨a, hmem, by simp [hid]⟩
  · simp [OrderAssignment.update, changed, hstatus, hactive]

/-- The other orders keep theirs. -/
theorem getActiveForOrder_update?_other (h : assignments.update? (fun a => a.id == loaded.id)
      (loaded.update written) = some assignments')
    (hloaded : loaded ∈ assignments.rows) (ho : orderId ≠ loaded.orderId) :
    getActiveForOrder assignments' orderId = getActiveForOrder assignments orderId := by
  have hsame : ∀ a ∈ assignments.rows, a.id = loaded.id → a = loaded := fun a ha hid =>
    assignments.eq_of_shared_key (k := .id loaded.id) ha hloaded
      (by simp [OrderAssignment.keys, hid]) (by simp [OrderAssignment.keys])
  refine Option.ext fun a => ?_
  rw [getActiveForOrder_eq_some, getActiveForOrder_eq_some, Table.rows_of_update? h, List.mem_map]
  constructor
  · rintro ⟨⟨b, hb, rfl⟩, horder, hactive⟩
    split at horder
    · -- the row that was written is of another order
      rename_i hid
      obtain rfl := hsame b hb (by simpa using hid)
      exact absurd horder.symm ho
    · rename_i hid
      rw [if_neg hid] at hactive ⊢
      exact ⟨hb, horder, hactive⟩
  · rintro ⟨ha, rfl, hactive⟩
    refine ⟨⟨a, ha, if_neg ?_⟩, rfl, hactive⟩
    intro hid
    exact ho (congrArg OrderAssignment.orderId (hsame a ha (by simpa using hid)))

/-- An inserted assignment is none of the other orders'. -/
theorem getActiveForOrder_insert?_other (h : assignments.insert? a = some assignments')
    (ho : orderId ≠ a.orderId) :
    getActiveForOrder assignments' orderId = getActiveForOrder assignments orderId := by
  have hnot : (a.orderId == orderId && a.assignmentStatus == .active) = false := by
    simp [Ne.symm ho]
  rw [getActiveForOrder, getActiveForOrder, Table.find?, Table.find?, Table.rows_of_insert? h,
    List.find?_append, List.find?_singleton, if_neg (by simp [hnot]), Option.or_none]

theorem getActiveForOrder_insert? (h : assignments.insert? a = some assignments')
    (hactive : a.assignmentStatus = .active) :
    getActiveForOrder assignments' a.orderId = some a := by
  refine getActiveForOrder_eq_some.mpr ⟨?_, rfl, hactive⟩
  rw [Table.rows_of_insert? h]
  exact List.mem_append_right _ (List.mem_singleton_self a)

/-- What the statement has loaded is what is there: the `UPDATE` leaves what it computed. -/
theorem changed_loaded {α : Type} [DecidableEq α] (loaded written : α) :
    changed loaded written loaded = written := by
  unfold changed
  split
  · rename_i hsame
    exact hsame.symm
  · rfl

end Assignments

/-- The active assignment of one order has become another row; the other orders keep
theirs. -/
structure Rewrites (orderId : UUID) (a a' : OrderAssignment) (db db' : CallDB) : Prop where
  before : getActiveForOrder db.assignments orderId = some a
  after : getActiveForOrder db'.assignments orderId = some a'
  others : ∀ o, o ≠ orderId →
    getActiveForOrder db'.assignments o = getActiveForOrder db.assignments o

/-! ## Section 2: One statement -/

section Yields

variable {db db' : CallDB}

theorem yields_insertAttempt {row : CallAttempt} {a : PUnit}
    (h : Txn.Yields CallWrite.apply (Txn.flush (.insertAttempt row)) db a db') :
    db.callAttempts.insert? row = some db'.callAttempts ∧ db'.assignments = db.assignments := by
  have hw := Txn.yields_flush h
  simp only [CallWrite.apply] at hw
  split at hw
  · cases hw
  · cases hw
    exact ⟨by assumption, rfl⟩

theorem yields_updateAssignment {loaded written : OrderAssignment} {a : PUnit}
    (h : Txn.Yields CallWrite.apply (Txn.flush (.updateAssignment loaded written)) db a db') :
    db'.callAttempts = db.callAttempts ∧
      db.assignments.update? (fun a => a.id == loaded.id) (loaded.update written) =
        some db'.assignments := by
  have hw := Txn.yields_flush h
  simp only [CallWrite.apply] at hw
  split at hw
  · cases hw
  · cases hw
    exact ⟨rfl, by assumption⟩

theorem yields_insertAssignment {row : OrderAssignment} {a : PUnit}
    (h : Txn.Yields CallWrite.apply (Txn.flush (.insertAssignment row)) db a db') :
    db'.callAttempts = db.callAttempts ∧ db.assignments.insert? row = some db'.assignments := by
  have hw := Txn.yields_flush h
  simp only [CallWrite.apply] at hw
  split at hw
  · cases hw
  · cases hw
    exact ⟨rfl, by assumption⟩

/-- An `UPDATE` of the active assignment that leaves it active. -/
theorem rewrites_of_update? {orderId : UUID} {loaded written : OrderAssignment}
    (hloaded : getActiveForOrder db.assignments orderId = some loaded)
    (h : db.assignments.update? (fun a => a.id == loaded.id) (loaded.update written) =
      some db'.assignments)
    (hstatus : written.assignmentStatus = loaded.assignmentStatus)
    (hwritten : loaded.update written loaded = written) :
    Rewrites orderId loaded written db db' := by
  obtain ⟨hmem, horder, -⟩ := getActiveForOrder_eq_some.mp hloaded
  refine ⟨hloaded, ?_, fun o ho => ?_⟩
  · rw [getActiveForOrder_update? h hloaded rfl hstatus, hwritten]
  · exact getActiveForOrder_update?_other h hmem (horder ▸ ho)

theorem yields_requireOwn_bind {actor : User} {orderId : UUID} {α : Type}
    {f : OrderAssignment → CallTxn α} {a : α}
    (h : Txn.Yields CallWrite.apply (requireOwn actor orderId >>= f) db a db') :
    ∃ assignment, getActiveForOrder db.assignments orderId = some assignment ∧
      Txn.Yields CallWrite.apply (f assignment) db a db' := by
  obtain ⟨assignment, db₁, hown, hrest⟩ := Txn.yields_bind h
  obtain ⟨hok, rfl⟩ := Txn.yields_ofExcept (Txn.yields_select_bind hown)
  exact ⟨assignment, getActiveForOrder_of_own hok, hrest⟩

/-- When nothing comes between its two reads, the row is what `get_correctable_for_order`
finds. -/
theorem yields_requireCorrectable_bind {attemptId orderId : UUID} {α : Type}
    {f : CallAttempt → CallTxn α} {a : α}
    (h : Txn.Yields CallWrite.apply (requireCorrectable attemptId orderId >>= f) db a db') :
    ∃ target, getCorrectableForOrder db.callAttempts attemptId orderId = some target ∧
      Txn.Yields CallWrite.apply (f target) db a db' := by
  obtain ⟨current, db₁, hcorrectable, hrest⟩ := Txn.yields_bind h
  have hfirst := Txn.yields_select_bind hcorrectable
  obtain ⟨target, htarget, hsecond⟩ := Txn.yields_orRaise_bind hfirst
  have hlast := Txn.yields_select_bind hsecond
  obtain ⟨hcurrent, rfl⟩ := Txn.yields_orRaise hlast
  refine ⟨current, ?_, hrest⟩
  obtain ⟨hfound, horder⟩ := Option.filter_eq_some_iff.mp htarget
  obtain ⟨hresolved, hvoid⟩ := Option.filter_eq_some_iff.mp hcurrent
  have horder' : target.orderId = orderId := by simpa using horder
  have hvoid' : current.isVoid = false := by simpa using hvoid
  simp only [getCorrectableForOrder, hfound, horder', ne_eq, not_true_eq_false, if_false,
    hresolved, hvoid', Bool.false_eq_true]

/-! ## Section 3: One call -/

/-- `log_call` adds a row with the next number, and counts it in the active assignment. -/
theorem yields_logCall {c : LogCall} {r : CallAttempt}
    (h : Txn.Yields CallWrite.apply (logCall c) db r db') :
    r = c.row (nextAttemptNumber db.callAttempts c.orderId) ∧
      db.callAttempts.insert? r = some db'.callAttempts ∧
      ∃ a, Rewrites c.orderId a (c.write a) db db' := by
  obtain ⟨a, hactive, h⟩ := yields_requireOwn_bind h
  have h := Txn.yields_select_bind h
  obtain ⟨_, db₁, hinsert, h⟩ := Txn.yields_bind h
  obtain ⟨_, db₂, hupdate, hpure⟩ := Txn.yields_bind h
  obtain ⟨rfl, rfl⟩ := Txn.yields_pure hpure
  obtain ⟨hinsert, hkept⟩ := yields_insertAttempt hinsert
  obtain ⟨hlog, hupdate⟩ := yields_updateAssignment hupdate
  rw [hkept] at hupdate
  refine ⟨rfl, hlog ▸ hinsert, a, rewrites_of_update? hactive hupdate rfl ?_⟩
  simp [OrderAssignment.update, changed_loaded, LogCall.write]

/-- An edit or a deletion adds a correction of the row it finds, and recomputes the active
assignment from the rows there are then. -/
theorem yields_correctAttempt {actor : User} {orderId attemptId : UUID}
    {correction : CallAttempt → CallAttempt} {r : CallAttempt}
    (h : Txn.Yields CallWrite.apply (correctAttempt actor orderId attemptId correction) db r db') :
    ∃ target, getCorrectableForOrder db.callAttempts attemptId orderId = some target ∧
      r = correction target ∧ db.callAttempts.insert? r = some db'.callAttempts ∧
      ∃ a, Rewrites orderId a
        (recomputed (resolveCurrentForOrder db'.callAttempts orderId false) target a) db db' := by
  obtain ⟨a, hactive, h⟩ := yields_requireOwn_bind h
  obtain ⟨target, htarget, h⟩ := yields_requireCorrectable_bind h
  obtain ⟨_, db₁, hinsert, h⟩ := Txn.yields_bind h
  have h := Txn.yields_select_bind h
  obtain ⟨_, db₂, hupdate, hpure⟩ := Txn.yields_bind h
  obtain ⟨rfl, rfl⟩ := Txn.yields_pure hpure
  obtain ⟨hinsert, hkept⟩ := yields_insertAttempt hinsert
  obtain ⟨hlog, hupdate⟩ := yields_updateAssignment hupdate
  rw [hkept, ← hlog] at hupdate
  refine ⟨target, htarget, rfl, hlog ▸ hinsert, a, rewrites_of_update? hactive hupdate rfl ?_⟩
  simp [OrderAssignment.update, changed_loaded, recomputed]

/-- `schedule_follow_up` adds no row. -/
theorem yields_scheduleFollowUp {orderId : UUID} {nextFollowUpAt : Instant} {actor : User}
    {r : OrderAssignment}
    (h : Txn.Yields CallWrite.apply (scheduleFollowUp orderId nextFollowUpAt actor) db r db') :
    db'.callAttempts = db.callAttempts ∧
      ∃ a, Rewrites orderId a { a with nextFollowUpAt := some nextFollowUpAt } db db' := by
  obtain ⟨a, hactive, h⟩ := yields_requireOwn_bind h
  obtain ⟨_, db₁, hupdate, hpure⟩ := Txn.yields_bind h
  obtain ⟨-, rfl⟩ := Txn.yields_pure hpure
  obtain ⟨hlog, hupdate⟩ := yields_updateAssignment hupdate
  refine ⟨hlog, a, rewrites_of_update? hactive hupdate rfl ?_⟩
  simp [OrderAssignment.update, changed_loaded]

/-- `reassign_order` adds no row; a new assignment takes the place of the active one. -/
theorem yields_reassignOrder {c : Reassign} {r : OrderAssignment}
    (h : Txn.Yields CallWrite.apply (reassignOrder c) db r db') :
    db'.callAttempts = db.callAttempts ∧
      ∃ current telecaller, Rewrites c.orderId current (c.row current telecaller) db db' := by
  have h := Txn.yields_select_bind h
  obtain ⟨current, hactive, h⟩ := Txn.yields_orRaise_bind h
  obtain ⟨telecaller, db₁, hscope, h⟩ := Txn.yields_bind h
  obtain ⟨-, h⟩ := Txn.yields_raiseIf_bind h
  obtain ⟨_, db₂, hupdate, h⟩ := Txn.yields_bind h
  obtain ⟨_, db₃, hinsert, hpure⟩ := Txn.yields_bind h
  obtain ⟨-, rfl⟩ := Txn.yields_pure hpure
  have hscope := Txn.yields_select_bind hscope
  obtain ⟨user, -, hscope⟩ := Txn.yields_orRaise_bind hscope
  obtain ⟨-, hscope⟩ := Txn.yields_raiseIf_bind hscope
  obtain ⟨-, rfl⟩ := Txn.yields_pure hscope
  obtain ⟨hlog, hupdate⟩ := yields_updateAssignment hupdate
  obtain ⟨hlog', hinsert⟩ := yields_insertAssignment hinsert
  obtain ⟨hmem, horder, -⟩ := getActiveForOrder_eq_some.mp hactive
  refine ⟨hlog'.trans hlog, current, telecaller, hactive,
    getActiveForOrder_insert? hinsert rfl, fun o ho => ?_⟩
  rw [getActiveForOrder_insert?_other hinsert ho]
  exact getActiveForOrder_update?_other hupdate hmem (horder ▸ ho)

end Yields

/-! ## Section 4: A deletion that returns -/

section Completes

variable {db : CallDB} {actor : User} {orderId attemptId : UUID} {assignment : OrderAssignment}
  {target : CallAttempt}

theorem completes_requireOwn
    (hactive : getActiveForOrder db.assignments orderId = some assignment)
    (hown : actor.isSuperuser = false → assignment.assignedTo = actor.id) :
    Txn.Completes CallWrite.apply (requireOwn actor orderId) db assignment db := by
  have hok : ownAssignment actor orderId db = .ok assignment := by
    rw [ownAssignment, hactive]
    exact if_neg fun hnot => hnot.2 (hown hnot.1)
  exact Txn.completes_bind Txn.completes_select (Txn.completes_ofExcept hok)

theorem completes_requireCorrectable
    (htarget : getCorrectableForOrder db.callAttempts attemptId orderId = some target) :
    Txn.Completes CallWrite.apply (requireCorrectable attemptId orderId) db target db := by
  unfold getCorrectableForOrder at htarget
  split at htarget
  · cases htarget
  · rename_i named hnamed
    split at htarget
    · cases htarget
    · rename_i horder
      split at htarget
      · cases htarget
      · rename_i current hcurrent
        split at htarget
        · cases htarget
        · rename_i hvoid
          obtain rfl := Option.some.inj htarget
          refine Txn.completes_bind Txn.completes_select (Txn.completes_bind
            (Txn.completes_orRaise (a := named) ?_) (Txn.completes_bind Txn.completes_select
              (Txn.completes_orRaise ?_)))
          · simpa [hnamed] using horder
          · simpa [hcurrent] using hvoid

/-- An `UPDATE` that leaves the active assignment active is not refused. -/
theorem exists_apply_updateAssignment {written : OrderAssignment}
    (hactive : getActiveForOrder db.assignments orderId = some assignment)
    (hstatus : written.assignmentStatus = assignment.assignmentStatus) :
    ∃ db', CallWrite.apply (.updateAssignment assignment written) db = .ok db' := by
  obtain ⟨hmem, -, -⟩ := getActiveForOrder_eq_some.mp hactive
  have hkeys : (assignment.update written assignment).keys = assignment.keys := by
    simp [OrderAssignment.keys, OrderAssignment.update, changed_loaded, hstatus]
  have hnodup := (List.nodup_flatMap.mp db.assignments.unique).1 assignment hmem
  have hrow : ∀ a ∈ db.assignments.rows, (a.id == assignment.id) = true → a = assignment :=
    fun a ha hid => db.assignments.eq_of_shared_key (k := .id assignment.id) ha hmem
      (by simp [OrderAssignment.keys, beq_iff_eq.mp hid]) (by simp [OrderAssignment.keys])
  obtain ⟨assignments, hupdate⟩ := Table.exists_update? (f := assignment.update written) hrow
    (by simp [OrderAssignment.keys]) (hkeys ▸ hnodup) fun k hk a ha hka =>
      db.assignments.eq_of_shared_key ha hmem hka (hkeys ▸ hk)
  exact ⟨{ db with assignments }, by rw [CallWrite.apply, hupdate]⟩

/-- When no statement raises, a correction of the caller's own order returns, unless the id of
its row is taken. -/
theorem completes_correctAttempt {correction : CallAttempt → CallAttempt}
    (hactive : getActiveForOrder db.assignments orderId = some assignment)
    (hown : actor.isSuperuser = false → assignment.assignedTo = actor.id)
    (htarget : getCorrectableForOrder db.callAttempts attemptId orderId = some target)
    (hfresh : ∀ c ∈ db.callAttempts.rows, c.id ≠ (correction target).id) :
    ∃ db', Txn.Completes CallWrite.apply (correctAttempt actor orderId attemptId correction) db
      (correction target) db' := by
  have hfree : ∀ k ∈ (correction target).keys, ∀ c ∈ db.callAttempts.rows, k ∉ c.keys :=
    fun k hk c hc hk' => hfresh c hc
      ((List.mem_singleton.mp hk').symm.trans (List.mem_singleton.mp hk))
  obtain ⟨attempts, hinsert⟩ := db.callAttempts.exists_insert? (List.nodup_singleton _) hfree
  have hadded : CallWrite.apply (.insertAttempt (correction target)) db =
      .ok { db with callAttempts := attempts } := by
    rw [CallWrite.apply, hinsert]
  have hkept : getActiveForOrder { db with callAttempts := attempts }.assignments orderId =
      some assignment := hactive
  have hstatus : (recomputed (resolveCurrentForOrder attempts orderId false) target
      assignment).assignmentStatus = assignment.assignmentStatus := rfl
  obtain ⟨db', hwritten⟩ := exists_apply_updateAssignment hkept hstatus
  exact ⟨db', Txn.completes_bind (completes_requireOwn hactive hown) (Txn.completes_bind
    (completes_requireCorrectable htarget) (Txn.completes_bind (Txn.completes_flush hadded)
      (Txn.completes_bind Txn.completes_select (Txn.completes_bind (Txn.completes_flush hwritten)
        Txn.completes_pure))))⟩

end Completes

end AyushOms.Telecalling
