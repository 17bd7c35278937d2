import AyushOms.Returns.Refunds

/-!
# What Updating a Return Writes

`update_return` writes the notes the caller gives and, when the status changes, the time into the
column that `_timestamp_field_for` names. That table has an entry for three statuses and falls
back on `notes` for the other four, so that moving a return to one of these puts the time where
the notes were, if the database driver takes a time for a text at all. The refund hangs on the
requested status, not on the change, and is guarded by a lookup.

## Main results

- `stepFramed_iff`: the calls that write no more than they should
- `updates_framed_iff`: the runs that do, and their refunds
-/

namespace AyushOms.Returns

open AyushOms.Lib AyushOms.Orders

/-! ## Section 1: What a call may write -/

/-- The columns of a return that hold the time of a status. -/
inductive ReturnTimestamp where
  | requestedAt | approvedAt | receivedAt | completedAt
  deriving DecidableEq, Repr

def Return.timestamp (r : Return) : ReturnTimestamp → Option Instant
  | .requestedAt => r.requestedAt
  | .approvedAt => r.approvedAt
  | .receivedAt => r.receivedAt
  | .completedAt => r.completedAt

/-- The timestamp column of a status; three of them have none. -/
def ownTimestamp : ReturnStatus → Option ReturnTimestamp
  | .requested => some .requestedAt
  | .approved => some .approvedAt
  | .received => some .receivedAt
  | .completed => some .completedAt
  | .rejected | .inTransit | .cancelled => none

/-- An update leaves a row as it should: the notes are what they were or what the caller
supplied, a timestamp is written only as the new status's own, and beside these and the status
nothing changes. -/
structure Framed (request : ReturnUpdateRequest) (r r' : Return) : Prop where
  notes : r'.notes ≠ r.notes → request.notes.isSome ∧ r'.notes = request.notes
  timestamps : ∀ t, r'.timestamp t ≠ r.timestamp t →
    r'.status ≠ r.status ∧ ownTimestamp r'.status = some t
  rest : r' = { r with
    status := r'.status
    requestedAt := r'.requestedAt
    approvedAt := r'.approvedAt
    receivedAt := r'.receivedAt
    completedAt := r'.completedAt
    notes := r'.notes }

theorem Framed.refl (request : ReturnUpdateRequest) (r : Return) : Framed request r r where
  notes h := absurd rfl h
  timestamps _ h := absurd rfl h
  rest := rfl

/-- What a call supplies for a return; a call on something else supplies nothing. -/
def ReturnCall.requestFor (returnId : UUID) : ReturnCall → ReturnUpdateRequest
  | .create _ _ => {}
  | .update id request _ => if id = returnId then request else {}

namespace ReturnsDB

variable {textOf : Instant → Option String} {db db' : ReturnsDB} {returnId : UUID}
  {now : Instant} {r r' : Return}

/-- A call leaves the return as it should. -/
def StepFramed (textOf : Instant → Option String) (returnId : UUID) (db : ReturnsDB)
    (call : ReturnCall) : Prop :=
  ∀ r ∈ db.getReturn returnId, ∃ r' ∈ (returnStep textOf db call).getReturn returnId,
    Framed (call.requestFor returnId) r r'

/-- The statuses for which `_timestamp_field_for` falls back on the notes. -/
def fallbackStatuses : List ReturnStatus := [.requested, .rejected, .inTransit, .cancelled]

/-- A call does not put a time into the return's notes: it does not move the return to a status
of the fallback, or the driver refuses the time, or its text is what the notes are or are to
become. -/
def KeepsNotes (textOf : Instant → Option String) (returnId : UUID) (db : ReturnsDB) :
    ReturnCall → Prop
  | .create _ _ => True
  | .update id request now => id = returnId → ∀ r ∈ db.getReturn returnId,
      ∀ status ∈ request.status, status ≠ r.status → status ∈ fallbackStatuses →
        ∀ text ∈ textOf now, r.notes = some text ∨ request.notes = some text

/-! ## Section 2: One call -/

/-- The return after a write to it. -/
theorem getReturn_writeReturn (h : db.getReturn returnId = some r) (clean : ReturnColumns) :
    (db.writeReturn returnId clean).getReturn returnId = some (clean.write r) := by
  obtain ⟨-, hid⟩ := getReturn_eq_some.mp h
  exact getReturn_eq_some.mpr ⟨mem_writeReturn h clean, hid⟩

/-- A write to another return is not seen. -/
theorem getReturn_writeReturn_of_ne (h : db.getReturn returnId = some r) {id : UUID}
    (hne : id ≠ returnId) (clean : ReturnColumns) :
    (db.writeReturn id clean).getReturn returnId = some r := by
  obtain ⟨hr, rfl⟩ := getReturn_eq_some.mp h
  refine getReturn_eq_some.mpr ⟨Table.mem_modify.mpr ⟨r, hr, .inr ⟨?_, rfl⟩⟩, rfl⟩
  simpa using hne.symm

/-- A return stays stored. -/
theorem getReturn_insertReturn (h : db.getReturn returnId = some r)
    {request : ReturnCreateRequest} {horder hitem} :
    (db.insertReturn request now horder hitem).getReturn returnId = some r := by
  obtain ⟨hr, hid⟩ := getReturn_eq_some.mp h
  exact getReturn_eq_some.mpr ⟨List.mem_append_left _ hr, hid⟩

/-- An update that returns has written its columns to the return it names. -/
theorem getReturn_updateReturn {request : ReturnUpdateRequest}
    (h : db.updateReturn textOf returnId request now = .ok (r', db')) :
    ∃ r clean, db.getReturn returnId = some r ∧ cleanColumns textOf now request r = some clean ∧
      ∀ id, db'.getReturn id = (db.writeReturn returnId clean).getReturn id := by
  obtain ⟨r, clean, hfind, hclean, -, ⟨-, rfl⟩ | ⟨-, hrefund⟩⟩ := updateReturn_eq_ok h
  · exact ⟨r, clean, hfind, hclean, fun _ => rfl⟩
  · refine ⟨r, clean, hfind, hclean, fun id => ?_⟩
    rcases createRefundForReturn_eq_ok hrefund with ⟨-, rfl⟩ | ⟨-, rfl⟩
    · rfl
    · rfl

/-- Any call but an update of the return leaves it as it is. -/
theorem stepFramed_of_other {call : ReturnCall}
    (hother : ∀ request now, call ≠ .update returnId request now) :
    StepFramed textOf returnId db call := by
  intro r hr
  refine ⟨r, ?_, Framed.refl _ r⟩
  cases call with
  | create request now =>
    cases hcreate : db.createReturn request now with
    | error e =>
      simp only [returnStep, hcreate]
      exact hr
    | ok result =>
      obtain ⟨-, -, horder, hitem, hdb⟩ := createReturn_eq_ok hcreate
      simp only [returnStep, hcreate, hdb]
      exact getReturn_insertReturn hr
  | update id request now =>
    have hne : id ≠ returnId := by
      rintro rfl
      exact hother request now rfl
    cases hupdate : db.updateReturn textOf id request now with
    | error e =>
      simp only [returnStep, hupdate]
      exact hr
    | ok result =>
      obtain ⟨_, clean, -, -, hget⟩ := getReturn_updateReturn hupdate
      simp only [returnStep, hupdate, hget]
      exact getReturn_writeReturn_of_ne hr hne clean

/-! ## Section 3: The columns of an update -/

/-- The notes that an update leaves: the time where the fallback is taken, else what the caller
supplied or what was there. -/
theorem notes_write_cleanColumns {request : ReturnUpdateRequest} {clean : ReturnColumns}
    (h : cleanColumns textOf now request r = some clean) :
    (∃ status ∈ request.status, status ≠ r.status ∧ status ∈ fallbackStatuses ∧
      ∃ text ∈ textOf now, (clean.write r).notes = some text) ∨
    (∀ status ∈ request.status, status ≠ r.status → status ∉ fallbackStatuses) ∧
      (clean.write r).notes = request.notes.or r.notes := by
  unfold cleanColumns at h
  cases hstatus : request.status with
  | none =>
    rw [hstatus] at h
    cases h
    exact .inr ⟨fun _ h => absurd h (by simp), rfl⟩
  | some status =>
    rw [hstatus] at h
    dsimp only at h
    split at h
    · rename_i hne
      by_cases hfallback : status ∈ fallbackStatuses
      · have hfield : timestampFieldFor status = .notes := by
          revert hfallback
          cases status <;> decide
        rw [hfield] at h
        obtain ⟨text, htext, rfl⟩ := Option.map_eq_some_iff.mp h
        exact .inl ⟨status, rfl, hne, hfallback, text, htext, rfl⟩
      · refine .inr ⟨fun s hs _ => (Option.some.inj hs) ▸ hfallback, ?_⟩
        -- the three statuses of the table pass the caller's notes on
        cases status with
        | approved | received | completed =>
          cases h
          rfl
        | requested | rejected | inTransit | cancelled => exact absurd (by decide) hfallback
    · rename_i heq
      cases h
      refine .inr ⟨fun s hs hne => absurd (not_not.mp heq) ?_, rfl⟩
      rwa [Option.some.inj hs]

/-- A timestamp that an update writes is the own one of the new status. -/
theorem timestamp_write_cleanColumns {request : ReturnUpdateRequest} {clean : ReturnColumns}
    (h : cleanColumns textOf now request r = some clean) (t : ReturnTimestamp)
    (hwritten : (clean.write r).timestamp t ≠ r.timestamp t) :
    (clean.write r).status ≠ r.status ∧ ownTimestamp (clean.write r).status = some t := by
  unfold cleanColumns at h
  cases hstatus : request.status with
  | none =>
    rw [hstatus] at h
    cases h
    cases t <;> exact absurd rfl hwritten
  | some status =>
    rw [hstatus] at h
    dsimp only at h
    split at h
    · rename_i hne
      cases status with
      | approved =>
        cases h
        cases t with
        | approvedAt => exact ⟨hne, rfl⟩
        | requestedAt | receivedAt | completedAt => exact absurd rfl hwritten
      | received =>
        cases h
        cases t with
        | receivedAt => exact ⟨hne, rfl⟩
        | requestedAt | approvedAt | completedAt => exact absurd rfl hwritten
      | completed =>
        cases h
        cases t with
        | completedAt => exact ⟨hne, rfl⟩
        | requestedAt | approvedAt | receivedAt => exact absurd rfl hwritten
      | requested | rejected | inTransit | cancelled =>
        obtain ⟨text, -, rfl⟩ := Option.map_eq_some_iff.mp h
        cases t <;> exact absurd rfl hwritten
    · rename_i heq
      cases h
      cases t <;> exact absurd rfl hwritten

/-- The row that written columns leave is framed exactly when the notes they pass are the
caller's, or are what the notes were. -/
theorem framed_write_iff {request : ReturnUpdateRequest} {clean : ReturnColumns}
    (h : cleanColumns textOf now request r = some clean) :
    Framed request r (clean.write r) ↔
      ∀ status ∈ request.status, status ≠ r.status → status ∈ fallbackStatuses →
        ∀ text ∈ textOf now, r.notes = some text ∨ request.notes = some text := by
  constructor
  · intro hframed status hstatus hne hfallback text htext
    rcases notes_write_cleanColumns h with ⟨_, -, -, -, text', htext', hnotes⟩ | ⟨hother, -⟩
    · obtain rfl : text = text' := Option.some.inj (htext.symm.trans htext')
      by_cases hsame : (clean.write r).notes = r.notes
      · exact .inl (hsame ▸ hnotes)
      · exact .inr ((hframed.notes hsame).2 ▸ hnotes)
    · exact absurd hfallback (hother status hstatus hne)
  · intro hkeeps
    refine ⟨fun hchanged => ?_, fun t => timestamp_write_cleanColumns h t, rfl⟩
    rcases notes_write_cleanColumns h with
      ⟨status, hstatus, hne, hfallback, text, htext, hnotes⟩ | ⟨-, hnotes⟩
    · rcases hkeeps status hstatus hne hfallback text htext with hsame | hsupplied
      · exact absurd (hnotes.trans hsame.symm) hchanged
      · exact ⟨by simp [hsupplied], hnotes.trans hsupplied.symm⟩
    · cases hsupplied : request.notes with
      | none =>
        rw [hsupplied] at hnotes
        exact absurd hnotes hchanged
      | some text =>
        rw [hsupplied] at hnotes
        exact ⟨rfl, hnotes⟩

/-- An update that raises has not been asked to put a time into the notes. -/
theorem keepsNotes_of_error {request : ReturnUpdateRequest} {e : PyException}
    (h : db.updateReturn textOf returnId request now = .error e) :
    KeepsNotes textOf returnId db (.update returnId request now) := by
  intro _ r hr status hstatus hne hfallback text htext
  have hfield : timestampFieldFor status = .notes := by
    revert hfallback
    cases status <;> decide
  have hclean : cleanColumns textOf now request r =
      some { status := some status, notes := some text } := by
    rw [cleanColumns, hstatus]
    dsimp only
    rw [if_pos hne, hfield, ReturnColumns.stamp, htext]
    rfl
  have hnot : request.status ≠ some .completed := by
    rw [hstatus]
    rintro ⟨⟩
    exact absurd hfallback (by decide)
  -- the columns are accepted and there is nothing to refund
  unfold updateReturn at h
  split at h
  · rename_i hnone
    rw [hnone] at hr
    cases hr
  · rename_i r' hfind
    obtain rfl : r' = r := Option.some.inj (hfind.symm.trans hr)
    rw [hclean] at h
    dsimp only at h
    rw [if_neg hnot] at h
    cases h

/-! ## Section 4: Calls in any order -/

/-- A call leaves the return as it should exactly when it puts no time into its notes. -/
theorem stepFramed_iff {call : ReturnCall} :
    StepFramed textOf returnId db call ↔ KeepsNotes textOf returnId db call := by
  cases call with
  | create request now => exact iff_of_true (stepFramed_of_other (by simp)) True.intro
  | update id request now =>
    by_cases hid : id = returnId
    swap
    · exact iff_of_true (stepFramed_of_other fun _ _ h => hid (by cases h; rfl))
        fun h => absurd h hid
    · subst hid
      cases hupdate : db.updateReturn textOf id request now with
      | error e =>
        refine iff_of_true (fun r hr => ⟨r, ?_, Framed.refl _ r⟩) (keepsNotes_of_error hupdate)
        simp only [returnStep, hupdate]
        exact hr
      | ok result =>
        obtain ⟨r, clean, hfind, hclean, hget⟩ := getReturn_updateReturn hupdate
        have hafter : (returnStep textOf db (.update id request now)).getReturn id =
            some (clean.write r) := by
          simp only [returnStep, hupdate, hget, getReturn_writeReturn hfind]
        have hrequest : (ReturnCall.update id request now).requestFor id = request := if_pos rfl
        have hstep : StepFramed textOf id db (.update id request now) ↔
            Framed request r (clean.write r) := by
          simp only [StepFramed, hafter, hfind, hrequest, Option.mem_some_iff, forall_eq',
            exists_eq_left']
        rw [hstep, framed_write_iff hclean]
        simp only [KeepsNotes, hfind, Option.mem_some_iff, forall_eq', true_imp_iff]

/-- Beside the refunds a return had, there is at most one, and only if it had none. -/
def RefundedOnce (returnId : UUID) (db db' : ReturnsDB) : Prop :=
  db'.refundsOfReturn returnId = db.refundsOfReturn returnId ∨
    db.refundsOfReturn returnId = [] ∧ ∃ f, db'.refundsOfReturn returnId = [f]

theorem refundedOnce_insertRefund {hr : r ∈ db.returns.rows}
    (hnone : db.refundsOfReturn r.id = []) :
    RefundedOnce returnId db (db.insertRefund hr now) := by
  have hrows : (db.insertRefund hr now).refundsOfReturn returnId =
      db.refundsOfReturn returnId ++
        [db.newRefund r now].filter fun f => f.returnId == some returnId :=
    List.filter_append ..
  by_cases hid : r.id = returnId
  · subst hid
    rw [hnone] at hrows
    exact .inr ⟨hnone, db.newRefund r now, by simpa [newRefund] using hrows⟩
  · exact .inl (by simpa [newRefund, hid] using hrows)

theorem refundedOnce_step (returnId : UUID) (db : ReturnsDB) (call : ReturnCall) :
    RefundedOnce returnId db (returnStep textOf db call) := by
  cases call with
  | create request now =>
    cases hcreate : db.createReturn request now with
    | error e =>
      simp only [returnStep, hcreate]
      exact .inl rfl
    | ok result =>
      obtain ⟨-, -, _, _, hdb⟩ := createReturn_eq_ok hcreate
      simp only [returnStep, hcreate, hdb]
      exact .inl rfl
  | update id request now =>
    cases hupdate : db.updateReturn textOf id request now with
    | error e =>
      simp only [returnStep, hupdate]
      exact .inl rfl
    | ok result =>
      simp only [returnStep, hupdate]
      obtain ⟨r, clean, hfind, -, -, ⟨-, hdb⟩ | ⟨-, hrefund⟩⟩ := updateReturn_eq_ok hupdate
      · rw [hdb]
        exact .inl rfl
      · rcases createRefundForReturn_eq_ok hrefund with ⟨hnone, hdb⟩ | ⟨-, hdb⟩
        · rw [hdb]
          exact refundedOnce_insertRefund hnone
        · rw [hdb]
          exact .inl rfl

/-- Whatever calls are made, a return is refunded once. -/
theorem refundedOnce_run (returnId : UUID) (db : ReturnsDB) (calls : List ReturnCall) :
    RefundedOnce returnId db (run (returnStep textOf) db calls) := by
  refine run_rel (returnStep textOf) (fun _ => .inl rfl) ?_ (refundedOnce_step returnId) db calls
  rintro a b c (hab | ⟨hnone, f, hone⟩) hbc
  · simpa only [RefundedOnce, hab] using hbc
  · rcases hbc with hsame | ⟨hnone', -⟩
    · exact .inr ⟨hnone, f, hsame.trans hone⟩
    · rw [hnone'] at hone
      cases hone

end ReturnsDB

open ReturnsDB

/-- **What updating a return writes.** Over any calls, for every return: each call leaves the
notes alone or as the caller supplied them, writes no timestamp but the own one of a new status
and nothing else, and there is at most one refund more than before, exactly when no call puts a
time into the notes. -/
theorem updates_framed_iff (textOf : Instant → Option String) (db : ReturnsDB) (returnId : UUID)
    (calls : List ReturnCall) :
    (Along (returnStep textOf) (StepFramed textOf returnId) db calls ∧
      RefundedOnce returnId db (run (returnStep textOf) db calls)) ↔
    Along (returnStep textOf) (KeepsNotes textOf returnId) db calls := by
  constructor
  · rintro ⟨hframed, -⟩
    exact hframed.mono fun _ _ => stepFramed_iff.mp
  · intro hkeeps
    exact ⟨hkeeps.mono fun _ _ => stepFramed_iff.mpr, refundedOnce_run returnId db calls⟩

/-! ## Section 5: A rejected return -/

/-- A return with a note of the customer's, rejected. -/
def rejectedReturn : List ReturnCall :=
  [.create { orderId := 1, orderItemId := some 11, quantity_pos := Int.one_pos } 100,
    .update 1 { notes := some "Seal broken" } 200,
    .update 1 { status := some .rejected } 300]

/-- A driver that writes a time as a text. -/
def timeText (_ : Instant) : Option String := some "2026-08-01 10:00:00.000000"

/-- The note is lost: where it was stands the time of the rejection. -/
theorem rejection_overwrites_notes :
    ¬ Along (returnStep timeText) (StepFramed timeText 1) (pricedOrder (pricedLine 1 oneUnit_lt))
      rejectedReturn := by
  intro h
  obtain ⟨-, -, hstep, -⟩ := h
  have hkeeps := stepFramed_iff.mp hstep
  have hbefore : ((run (returnStep timeText) (pricedOrder (pricedLine 1 oneUnit_lt))
      (rejectedReturn.take 2)).getReturn 1).map (fun r => (r.status, r.notes)) =
        some (.requested, some "Seal broken") := by
    decide +kernel
  obtain ⟨r, hr, hcolumns⟩ := Option.map_eq_some_iff.mp hbefore
  obtain ⟨hstatus, hnotes⟩ := Prod.mk.inj hcolumns
  rcases hkeeps rfl r hr .rejected rfl (by rw [hstatus]; decide) (by decide) _ rfl with h | h
  · rw [hnotes] at h
    exact absurd h (by decide)
  · cases h

end AyushOms.Returns
