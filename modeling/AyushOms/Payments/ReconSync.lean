import AyushOms.Lib.Procedure
import AyushOms.Payments.Progress

/-!
# The Rows of a Recon Page

`sync_transactions` processes the rows of a page one after another in one session and counts what
raises as a failure. Its `except` block does not roll back, as the one of `sync_settlements` does:
after a database error the session refuses every further statement until it is rolled back, so
each later row that reaches the database fails as well.

## Main results

- `processRow_unusable`: a row in a session that has not been rolled back
- `syncPages_spec`: what a sync commits and counts
- `run_rowStep_undisturbed`: the sync when nothing raises
- `recon_rows_independent_iff`: when the rows of a page are independent
-/

namespace AyushOms.Payments

open AyushOms.Lib AyushOms.Lib.Proc AyushOms.Orders

section Rows

variable [PyText]

/-! ## Section 1: The session -/

/-- Whether the session accepts statements. After a database error it does not, until it is
rolled back. -/
structure SyncSession where
  usable : Bool := true
  deriving DecidableEq

/-- `PendingRollbackError`. -/
def pendingRollback : PyException :=
  .other "This Session's transaction has been rolled back due to a previous exception"

/-- What a row's processing raises after so many commits of its own, or after its last. A database
error leaves the session unusable unless the code that raises has rolled it back. -/
structure RowFault where
  commits : ℕ
  error : PyException
  usable : Bool := false

/-- A row of a page. Building the arguments of the event from it may raise, and so may its
processing. -/
structure PageRow where
  raw : Except PyException ReconRow
  now : Instant := 0
  fault : Option RowFault := none

/-- `normalize_recon_row`, or what it raises. -/
def PageRow.kwargs (row : PageRow) : Except PyException (Option PaymentEvent) :=
  row.raw.map fun raw => normalizeReconRow raw row.now

/-- The event of a row that reaches the database. -/
def PageRow.event? (row : PageRow) : Option PaymentEvent :=
  match row.kwargs with
  | .ok kwargs => kwargs
  | .error _ => none

abbrev SyncProc (α : Type) := Proc OrdersDB SyncSession PyException α

/-- `apply_payment_event` in the session of the sync. Its first statement is the lookup of the
payment. -/
def applyInSession (e : PaymentEvent) (fault : Option RowFault) :
    SyncProc PaymentEventResult := fun session db =>
  if session.usable = false then .done (.error pendingRollback, session)
  else
    match fault with
    | none => (applyPaymentEvent db e).mapResult fun result => (.ok result, session)
    | some f =>
      ((applyPaymentEvent db e).mapResult fun result => (.ok result, session)).failAt
        (.error f.error, { usable := f.usable }) f.commits

/-! ## Section 2: The loop -/

/-- What a row is counted as. -/
inductive RowOutcome where
  | applied | duplicate | skipped
  | failed (error : String)
  deriving DecidableEq

/-- `CashfreeSyncResult`. -/
structure CashfreeSyncResult where
  fetched : ℕ := 0
  processed : ℕ := 0
  applied : ℕ := 0
  duplicates : ℕ := 0
  skipped : ℕ := 0
  failures : ℕ := 0
  errors : List String := []
  deriving DecidableEq

/-- The counter an outcome goes to. -/
def CashfreeSyncResult.count (result : CashfreeSyncResult) : RowOutcome → CashfreeSyncResult
  | .applied => { result with applied := result.applied + 1 }
  | .duplicate => { result with duplicates := result.duplicates + 1 }
  | .skipped => { result with skipped := result.skipped + 1 }
  | .failed error =>
    { result with failures := result.failures + 1, errors := result.errors ++ [error] }

/-- The outcome of an event that was processed. -/
def PaymentEventResult.outcome (result : PaymentEventResult) : RowOutcome :=
  if result.applied then .applied
  else if result.reason = some .duplicateTransaction then .duplicate
  else .skipped

/-- The body of the `try` block, up to the counter it increments. -/
def rowBody (row : PageRow) : SyncProc RowOutcome :=
  match row.kwargs with
  | .error e => Proc.raise e
  | .ok none => pure .skipped
  | .ok (some e) => do
    let result ← applyInSession e row.fault
    pure result.outcome

/-- `try: … except Exception as exc: …`, without a rollback. -/
def processRow (row : PageRow) : SyncProc RowOutcome :=
  tryCatch (rowBody row) fun e => pure (.failed e.str)

/-- The loop over the rows of a page. -/
def syncRows : List PageRow → CashfreeSyncResult → SyncProc CashfreeSyncResult
  | [], result => pure result
  | row :: rest, result => do
    let outcome ← processRow row
    syncRows rest ({ result with processed := result.processed + 1 }.count outcome)

/-- What Cashfree answers for a cursor: a page and the next cursor. -/
abbrev ReconClient := Option String → Except PyException (List PageRow × Option String)

/-- The loop over the pages. -/
def syncPages (client : ReconClient) : ℕ → Option String → CashfreeSyncResult →
    SyncProc CashfreeSyncResult
  | 0, _, result => pure result
  | n + 1, cursor, result =>
    match client cursor with
    | .error e => Proc.raise e
    | .ok (rows, next) => do
      let result ← syncRows rows { result with fetched := result.fetched + rows.length }
      if next = none ∨ rows = [] then pure result else syncPages client n next result

/-- `_MAX_PAGES_PER_SYNC`. -/
def maxPagesPerSync : ℕ := 50

/-- `sync_transactions`, with the client of a configured gateway. -/
def syncReconPages (client : ReconClient) : SyncProc CashfreeSyncResult :=
  syncPages client maxPagesPerSync none {}

/-! ## Section 3: What one row does -/

/-- A row that does not reach the database is counted, whatever the session and the store. -/
theorem processRow_of_event?_eq_none {row : PageRow} (h : row.event? = none) :
    ∃ outcome, ∀ session db, processRow row session db = .done (.ok outcome, session) := by
  unfold PageRow.event? at h
  unfold processRow rowBody
  cases hrow : row.kwargs with
  | error e => exact ⟨.failed e.str, fun _ _ => rfl⟩
  | ok kwargs =>
    rw [hrow] at h
    obtain rfl : kwargs = none := h
    exact ⟨.skipped, fun _ _ => rfl⟩

/-- A row that reaches the database is one call in the session of the sync. -/
theorem processRow_of_event?_eq_some {row : PageRow} {e : PaymentEvent} (h : row.event? = some e) :
    processRow row = tryCatch (do pure (← applyInSession e row.fault).outcome)
      fun e => pure (.failed e.str) := by
  unfold PageRow.event? at h
  unfold processRow rowBody
  cases hrow : row.kwargs with
  | error e => rw [hrow] at h; cases h
  | ok kwargs =>
    rw [hrow] at h
    obtain rfl : kwargs = some e := h
    rfl

/-- In a session that has not been rolled back the row is a failure, with nothing stored. -/
theorem processRow_unusable {row : PageRow} {e : PaymentEvent} (h : row.event? = some e)
    {session : SyncSession} (hsession : session.usable = false) (db : OrdersDB) :
    processRow row session db = .done (.ok (.failed pendingRollback.str), session) := by
  rw [processRow_of_event?_eq_some h, tryCatch_run, bind_run]
  unfold applyInSession
  rw [if_pos hsession]
  rfl

/-- A row that nothing disturbs is applied as `apply_payment_event` says. -/
theorem processRow_undisturbed {row : PageRow} {e : PaymentEvent} (h : row.event? = some e)
    (hfault : row.fault = none) {session : SyncSession} (hsession : session.usable = true)
    (db : OrdersDB) :
    processRow row session db =
      (applyPaymentEvent db e).mapResult fun result => (.ok result.outcome, session) := by
  rw [processRow_of_event?_eq_some h, tryCatch_run, bind_run]
  unfold applyInSession
  rw [hfault, if_neg (by simp [hsession])]
  dsimp only
  generalize applyPaymentEvent db e = call
  induction call generalizing db with
  | done result => rfl
  | commit db' next ih => exact congrArg (Staged.commit db') (ih db')

/-- A row whose call is cut short keeps what the call had committed. -/
theorem processRow_disturbed {row : PageRow} {e : PaymentEvent} (h : row.event? = some e)
    {f : RowFault} (hfault : row.fault = some f) {session : SyncSession}
    (hsession : session.usable = true) (db : OrdersDB) :
    processRow row session db =
      ((applyPaymentEvent db e).mapResult fun result => (.ok result.outcome, session)).failAt
        (.ok (.failed f.error.str), { usable := f.usable }) f.commits := by
  rw [processRow_of_event?_eq_some h, tryCatch_run, bind_run]
  unfold applyInSession
  rw [hfault, if_neg (by simp [hsession])]
  dsimp only
  generalize applyPaymentEvent db e = call
  generalize f.commits = n
  -- the cut is at the same commit, whatever the call returns
  induction call generalizing db n with
  | done result => cases n <;> rfl
  | commit db' next ih =>
    cases n with
    | zero => rfl
    | succ n => exact congrArg (Staged.commit db') (ih db' n)

/-- Whatever a row does, the loop goes on. -/
theorem processRow_returns (row : PageRow) (session : SyncSession) (db : OrdersDB) :
    ∃ outcome, (processRow row session db).result.1 = .ok outcome := by
  cases h : row.event? with
  | none =>
    obtain ⟨outcome, hrow⟩ := processRow_of_event?_eq_none h
    exact ⟨outcome, by rw [hrow]; rfl⟩
  | some e =>
    cases hsession : session.usable with
    | false => exact ⟨_, by rw [processRow_unusable h hsession]; rfl⟩
    | true =>
      cases hfault : row.fault with
      | none =>
        exact ⟨_, by rw [processRow_undisturbed h hfault hsession, Staged.result_mapResult]⟩
      | some f =>
        exact ⟨_, by rw [processRow_disturbed h hfault hsession, Staged.result_failAt]⟩

/-! ## Section 4: The effects of the rows -/

/-- Where an outcome is counted. -/
inductive Counter where
  | applied | duplicates | skipped | failures
  deriving DecidableEq

def RowOutcome.counter : RowOutcome → Counter
  | .applied => .applied
  | .duplicate => .duplicates
  | .skipped => .skipped
  | .failed _ => .failures

/-- What a row does: the counter it goes to, or what it raises out of the loop, and the states of
the database it commits. -/
structure RowEffect where
  counter : Except PyException Counter
  states : List OrdersDB

def rowEffect (s : SyncSession × OrdersDB) (row : PageRow) : RowEffect where
  counter := (processRow row s.1 s.2).result.1.map RowOutcome.counter
  states := (processRow row s.1 s.2).states

/-- The session and the database after a row. -/
def rowStep (s : SyncSession × OrdersDB) (row : PageRow) : SyncSession × OrdersDB :=
  ((processRow row s.1 s.2).result.2, (processRow row s.1 s.2).final s.2)

/-- The effects of the rows, one after another. -/
def rowEffects : SyncSession × OrdersDB → List PageRow → List RowEffect
  | _, [] => []
  | s, row :: rest => rowEffect s row :: rowEffects (rowStep s row) rest

theorem rowEffects_append (s : SyncSession × OrdersDB) (rows rows' : List PageRow) :
    rowEffects s (rows ++ rows') = rowEffects s rows ++ rowEffects (run rowStep s rows) rows' := by
  induction rows generalizing s with
  | nil => rfl
  | cons row rest ih => exact congrArg (rowEffect s row :: ·) (ih (rowStep s row))

theorem length_rowEffects (s : SyncSession × OrdersDB) (rows : List PageRow) :
    (rowEffects s rows).length = rows.length := by
  induction rows generalizing s with
  | nil => rfl
  | cons row rest ih => exact congrArg (· + 1) (ih (rowStep s row))

/-- Every row that was processed is in one counter. -/
def CashfreeSyncResult.AddsUp (result : CashfreeSyncResult) : Prop :=
  result.processed = result.applied + result.duplicates + result.skipped + result.failures

omit [PyText] in
theorem CashfreeSyncResult.AddsUp.count {result : CashfreeSyncResult} (h : result.AddsUp)
    (outcome : RowOutcome) :
    ({ result with processed := result.processed + 1 }.count outcome).AddsUp := by
  unfold AddsUp at h ⊢
  cases outcome <;> simp only [CashfreeSyncResult.count, h] <;> omega

/-- A page runs through its rows, whatever they raise, and its counters go on adding up. -/
theorem syncRows_spec (rows : List PageRow) (result : CashfreeSyncResult)
    (s : SyncSession × OrdersDB) :
    ∃ result', (syncRows rows result s.1 s.2).result = (.ok result', (run rowStep s rows).1) ∧
      (syncRows rows result s.1 s.2).final s.2 = (run rowStep s rows).2 ∧
      (syncRows rows result s.1 s.2).states = (rowEffects s rows).flatMap RowEffect.states ∧
      (result.AddsUp → result'.AddsUp) := by
  induction rows generalizing result s with
  | nil => exact ⟨result, rfl, rfl, rfl, id⟩
  | cons row rest ih =>
    obtain ⟨outcome, houtcome⟩ := processRow_returns row s.1 s.2
    have hresult : (processRow row s.1 s.2).result = (.ok outcome, (rowStep s row).1) :=
      Prod.ext houtcome rfl
    obtain ⟨result', h₁, h₂, h₃, h₄⟩ :=
      ih ({ result with processed := result.processed + 1 }.count outcome) (rowStep s row)
    rw [syncRows, bind_run, Staged.result_andThen, Staged.final_andThen, Staged.states_andThen,
      hresult]
    exact ⟨result', h₁, h₂, congrArg ((processRow row s.1 s.2).states ++ ·) h₃,
      fun h => h₄ (h.count outcome)⟩

/-- The rows a sync gets to see. -/
def fetchedRows (client : ReconClient) : ℕ → Option String → List PageRow
  | 0, _ => []
  | n + 1, cursor =>
    match client cursor with
    | .error _ => []
    | .ok (rows, next) =>
      rows ++ if next = none ∨ rows = [] then [] else fetchedRows client n next

/-- The pages are one list of rows, and the counters of a sync that ends add up. -/
theorem syncPages_spec (client : ReconClient) (n : ℕ) (cursor : Option String)
    (result : CashfreeSyncResult) (s : SyncSession × OrdersDB) :
    (syncPages client n cursor result s.1 s.2).states =
        (rowEffects s (fetchedRows client n cursor)).flatMap RowEffect.states ∧
      ∀ result', (syncPages client n cursor result s.1 s.2).result.1 = .ok result' →
        result.AddsUp → result'.AddsUp := by
  induction n generalizing cursor result s with
  | zero => exact ⟨rfl, fun result' h hadds => Except.ok.inj h ▸ hadds⟩
  | succ n ih =>
    rw [syncPages, fetchedRows]
    cases hpage : client cursor with
    | error e => exact ⟨rfl, fun result' h => by cases h⟩
    | ok page =>
      obtain ⟨rows, next⟩ := page
      obtain ⟨result₁, h₁, h₂, h₃, h₄⟩ :=
        syncRows_spec rows { result with fetched := result.fetched + rows.length } s
      dsimp only
      rw [bind_run, Staged.states_andThen, Staged.result_andThen, h₁, h₂, h₃, resume_ok,
        rowEffects_append, List.flatMap_append]
      -- the loop ends, or the next page goes on from the last row
      split
      · refine ⟨rfl, fun result' h hadds => ?_⟩
        exact Except.ok.inj h ▸ h₄ hadds
      · obtain ⟨hstates, hcounts⟩ := ih next result₁ (run rowStep s rows)
        exact ⟨congrArg (_ ++ ·) hstates, fun result' h hadds => hcounts result' h (h₄ hadds)⟩

/-! ## Section 5: Events that store nothing -/

/-- `apply_payment_event` refuses the event before its first commit: there is neither a payment
nor an order for it, or its status or its money does not fit. -/
def Refused (db : OrdersDB) (e : PaymentEvent) : Prop :=
  match db.getPaymentByExternalId .cashfree e.cashfreeOrderId with
  | none => externalOrder db e.cashfreeOrderId = none
  | some payment =>
    match normalizePaymentStatus e.rawStatus with
    | none => True
    | some status => status = .paid ∧ moneyProblem payment e ≠ none

theorem states_applyToPayment_eq_nil_iff {db : OrdersDB} {payment : Payment} {e : PaymentEvent} :
    (applyToPayment db payment e).states = [] ↔
      match normalizePaymentStatus e.rawStatus with
      | none => True
      | some status => status = .paid ∧ moneyProblem payment e ≠ none := by
  unfold applyToPayment
  cases normalizePaymentStatus e.rawStatus with
  | none => exact iff_of_true rfl True.intro
  | some status =>
    dsimp only
    cases hmoney : if status = .paid then moneyProblem payment e else none with
    | some reason =>
      refine iff_of_true rfl ?_
      split at hmoney
      · rename_i hpaid
        exact ⟨hpaid, by rw [hmoney]; exact Option.some_ne_none reason⟩
      · cases hmoney
    | none =>
      have hfits : ¬ (status = .paid ∧ moneyProblem payment e ≠ none) := by
        rintro ⟨hpaid, hproblem⟩
        rw [if_pos hpaid] at hmoney
        exact hproblem hmoney
      refine iff_of_false (fun h => ?_) hfits
      -- what passes the checks is recorded
      dsimp only at h
      split at h
      · cases h
      · split at h <;> cases h

/-- An event stores nothing exactly when it is refused. -/
theorem states_applyPaymentEvent_eq_nil_iff {db : OrdersDB} {e : PaymentEvent} :
    (applyPaymentEvent db e).states = [] ↔ Refused db e := by
  unfold applyPaymentEvent Refused
  cases db.getPaymentByExternalId .cashfree e.cashfreeOrderId with
  | some payment => exact states_applyToPayment_eq_nil_iff
  | none =>
    dsimp only
    cases hcreate : createPaymentFromExternal db e.cashfreeOrderId with
    | none =>
      refine iff_of_true rfl ?_
      unfold createPaymentFromExternal at hcreate
      split at hcreate
      · assumption
      · cases hcreate
    | some created =>
      refine iff_of_false (fun h => ?_) fun hnone => ?_
      · cases h
      · unfold createPaymentFromExternal at hcreate
        split at hcreate
        · cases hcreate
        · rename_i order horder
          rw [hnone] at horder
          cases horder

/-! ## Section 6: When the rows are independent -/

/-- A row that raises has no effect on the others: they are processed as in the session it was
given and from what it had committed itself. -/
def Independent (s : SyncSession × OrdersDB) (rows : List PageRow) : Prop :=
  ∀ pre bad post, rows = pre ++ bad :: post →
    let found := run rowStep s pre
    (rowEffect found bad).counter = .ok .failures →
      rowEffects (rowStep found bad) post = rowEffects (found.1, (rowStep found bad).2) post

/-- The rows that reach the database, up to the first that has the session rolled back, fail
before their first commit. -/
def NextFail (db : OrdersDB) : List PageRow → Prop
  | [] => True
  | row :: rest =>
    match row.event? with
    | none => NextFail db rest
    | some e =>
      match row.fault with
      | none => False
      | some f => (f.commits = 0 ∨ Refused db e) ∧ (f.usable = true → NextFail db rest)

/-- After a row that leaves the session unusable no row would have done anything. -/
def Isolated (db : OrdersDB) : List PageRow → Prop
  | [] => True
  | row :: rest =>
    match row.event? with
    | none => Isolated db rest
    | some e =>
      match row.fault with
      | none => Isolated ((applyPaymentEvent db e).final db) rest
      | some f =>
        let kept := (applyPaymentEvent db e).cut db f.commits
        if f.usable = true then Isolated kept rest else NextFail kept rest

theorem rowEffect_of_event?_eq_none {row : PageRow} (h : row.event? = none) :
    ∃ counter, ∀ s, rowEffect s row = ⟨counter, []⟩ ∧ rowStep s row = s := by
  obtain ⟨outcome, hrow⟩ := processRow_of_event?_eq_none h
  refine ⟨.ok outcome.counter, fun s => ?_⟩
  unfold rowEffect rowStep
  rw [hrow]
  exact ⟨rfl, rfl⟩

/-- Rows in an unusable session have no effect but their counters, and leave it unusable. -/
theorem rowEffect_unusable {s : SyncSession × OrdersDB} (hs : s.1.usable = false)
    {row : PageRow} {e : PaymentEvent} (h : row.event? = some e) :
    rowEffect s row = ⟨.ok .failures, []⟩ ∧ rowStep s row = s := by
  unfold rowEffect rowStep
  rw [processRow_unusable h hs]
  exact ⟨rfl, rfl⟩

theorem counter_undisturbed {s : SyncSession × OrdersDB} (hs : s.1.usable = true) {row : PageRow}
    {e : PaymentEvent} (h : row.event? = some e) (hfault : row.fault = none) :
    (rowEffect s row).counter ≠ .ok .failures := by
  unfold rowEffect
  rw [processRow_undisturbed h hfault hs, Staged.result_mapResult]
  unfold PaymentEventResult.outcome
  intro hfailure
  dsimp only [Except.map] at hfailure
  split at hfailure
  · cases hfailure
  · split at hfailure <;> cases hfailure

theorem rowStep_undisturbed {s : SyncSession × OrdersDB} (hs : s.1.usable = true) {row : PageRow}
    {e : PaymentEvent} (h : row.event? = some e) (hfault : row.fault = none) :
    rowStep s row = (s.1, (applyPaymentEvent s.2 e).final s.2) := by
  unfold rowStep
  rw [processRow_undisturbed h hfault hs, Staged.result_mapResult, Staged.final_mapResult]

/-- A page nothing disturbs is a run of whole events. -/
theorem run_rowStep_undisturbed (raws : List ReconRow) (now : Instant) (db : OrdersDB) :
    run rowStep ({ usable := true }, db) (raws.map fun raw => { raw := .ok raw, now := now }) =
      ({ usable := true }, syncTransactions db raws now) := by
  induction raws generalizing db with
  | nil => rfl
  | cons raw raws ih =>
    rw [List.map_cons, run_cons]
    unfold syncTransactions syncEvents
    cases h : normalizeReconRow raw now with
    | none =>
      have hrow : ({ raw := .ok raw, now := now } : PageRow).event? = none := h
      obtain ⟨_, hstay⟩ := rowEffect_of_event?_eq_none hrow
      rw [(hstay _).2, ih, List.filterMap_cons_none (f := fun raw => normalizeReconRow raw now) h]
      rfl
    | some e =>
      have hrow : ({ raw := .ok raw, now := now } : PageRow).event? = some e := h
      rw [rowStep_undisturbed rfl hrow rfl, ih,
        List.filterMap_cons_some (f := fun raw => normalizeReconRow raw now) h]
      rfl

/-- A row that raises keeps what it had committed. -/
theorem rowEffect_disturbed {s : SyncSession × OrdersDB} (hs : s.1.usable = true) {row : PageRow}
    {e : PaymentEvent} (h : row.event? = some e) {f : RowFault} (hfault : row.fault = some f) :
    rowEffect s row = ⟨.ok .failures, (applyPaymentEvent s.2 e).states.take f.commits⟩ ∧
      rowStep s row = ({ usable := f.usable }, (applyPaymentEvent s.2 e).cut s.2 f.commits) := by
  unfold rowEffect rowStep
  rw [processRow_disturbed h hfault hs, Staged.result_failAt, Staged.states_failAt,
    Staged.states_mapResult, Staged.final_failAt, Staged.cut_mapResult]
  exact ⟨rfl, rfl⟩

/-- A failing row that stored nothing might as well have been absent. -/
theorem Independent.rowEffects_eraseIdx {s : SyncSession × OrdersDB} {pre post : List PageRow}
    {bad : PageRow} (h : Independent s (pre ++ bad :: post))
    (hfails : (rowEffect (run rowStep s pre) bad).counter = .ok .failures)
    (hnothing : (rowEffect (run rowStep s pre) bad).states = []) :
    rowEffects s (pre ++ post) = (rowEffects s (pre ++ bad :: post)).eraseIdx pre.length := by
  have hstore : (rowStep (run rowStep s pre) bad).2 = (run rowStep s pre).2 :=
    Staged.final_of_states_eq_nil hnothing _
  have hpost := h pre bad post rfl hfails
  rw [hstore] at hpost
  rw [rowEffects_append, rowEffects_append, rowEffects, hpost,
    List.eraseIdx_append_of_length_le (length_rowEffects s pre).le, length_rowEffects,
    Nat.sub_self, List.eraseIdx_cons_zero]

/-- What an unusable session makes of the rows is what they would have done, exactly when all of
them fail before they store anything. -/
theorem rowEffects_unusable_eq_iff (db : OrdersDB) (rows : List PageRow) :
    rowEffects ({ usable := false }, db) rows = rowEffects ({ usable := true }, db) rows ↔
      NextFail db rows := by
  induction rows generalizing db with
  | nil => exact iff_of_true rfl True.intro
  | cons row rest ih =>
    rw [rowEffects, rowEffects]
    cases h : row.event? with
    | none =>
      obtain ⟨counter, hrow⟩ := rowEffect_of_event?_eq_none h
      rw [(hrow _).1, (hrow _).1, (hrow _).2, (hrow _).2, List.cons_inj_right, ih, NextFail, h]
    | some e =>
      obtain ⟨hleft, hstay⟩ := rowEffect_unusable (s := ({ usable := false }, db)) rfl h
      rw [hleft, hstay, NextFail, h]
      cases hfault : row.fault with
      | none =>
        refine iff_of_false (fun heq => ?_) id
        have hcounter := counter_undisturbed (s := ({ usable := true }, db)) rfl h hfault
        rw [← (List.cons.inj heq).1] at hcounter
        exact hcounter rfl
      | some f =>
        obtain ⟨hright, hstep⟩ := rowEffect_disturbed (s := ({ usable := true }, db)) rfl h hfault
        rw [hright, hstep, List.cons.injEq, RowEffect.mk.injEq]
        simp only [true_and]
        rw [eq_comm, List.take_eq_nil_iff, states_applyPaymentEvent_eq_nil_iff]
        refine and_congr_right fun hnothing => ?_
        -- the failing row has left the database alone
        rw [Staged.cut_of_take_states_eq_nil (List.take_eq_nil_iff.mpr
          (hnothing.imp_right states_applyPaymentEvent_eq_nil_iff.mpr))]
        cases f.usable with
        | false => exact iff_of_true rfl (by simp)
        | true => simpa using ih db

theorem independent_cons {s : SyncSession × OrdersDB} {row : PageRow} {rest : List PageRow} :
    Independent s (row :: rest) ↔
      ((rowEffect s row).counter = .ok .failures →
        rowEffects (rowStep s row) rest = rowEffects (s.1, (rowStep s row).2) rest) ∧
      Independent (rowStep s row) rest := by
  constructor
  · intro h
    refine ⟨h [] row rest rfl, fun pre bad post heq => ?_⟩
    exact h (row :: pre) bad post (by rw [heq, List.cons_append])
  · rintro ⟨hrow, hrest⟩ pre bad post heq
    cases pre with
    | nil =>
      obtain ⟨rfl, rfl⟩ := List.cons.inj heq
      exact hrow
    | cons first pre =>
      obtain ⟨rfl, rfl⟩ := List.cons.inj heq
      exact hrest pre bad post rfl

/-- In a session that is unusable already no row makes a difference. -/
theorem independent_unusable {s : SyncSession × OrdersDB} (hs : s.1.usable = false)
    (rows : List PageRow) : Independent s rows := by
  induction rows with
  | nil =>
    intro pre bad post heq
    simp at heq
  | cons row rest ih =>
    have hstay : rowStep s row = s := by
      cases h : row.event? with
      | none =>
        obtain ⟨_, hrow⟩ := rowEffect_of_event?_eq_none h
        exact (hrow s).2
      | some e => exact (rowEffect_unusable hs h).2
    rw [independent_cons, hstay]
    exact ⟨fun _ => rfl, ih⟩

theorem independent_iff_isolated (db : OrdersDB) (rows : List PageRow) :
    Independent ({ usable := true }, db) rows ↔ Isolated db rows := by
  induction rows generalizing db with
  | nil =>
    refine iff_of_true (fun pre bad post heq => ?_) True.intro
    simp at heq
  | cons row rest ih =>
    rw [independent_cons, Isolated]
    cases h : row.event? with
    | none =>
      obtain ⟨counter, hrow⟩ := rowEffect_of_event?_eq_none h
      rw [(hrow _).2, ← ih]
      exact and_iff_right fun _ => rfl
    | some e =>
      dsimp only
      cases hfault : row.fault with
      | none =>
        rw [rowStep_undisturbed rfl h hfault, ← ih]
        exact and_iff_right fun _ => rfl
      | some f =>
        obtain ⟨heffect, hstep⟩ := rowEffect_disturbed (s := ({ usable := true }, db)) rfl h hfault
        rw [heffect, hstep]
        dsimp only
        cases f.usable with
        | true => rw [← ih, if_pos rfl]; exact and_iff_right fun _ => rfl
        | false =>
          rw [if_neg Bool.false_ne_true, ← rowEffects_unusable_eq_iff]
          exact (and_iff_left (independent_unusable rfl rest)).trans (forall_prop_of_true rfl)

/-- The rows a sync gets to see are processed independently, and its counters add up, exactly
when after each row that leaves the session unusable the rows that reach the database would have
failed too, before storing anything. -/
theorem recon_rows_independent_iff (client : ReconClient) (db : OrdersDB) :
    (Independent ({ usable := true }, db) (fetchedRows client maxPagesPerSync none) ∧
      ∀ result, (syncReconPages client { usable := true } db).result.1 = .ok result →
        result.AddsUp) ↔
    Isolated db (fetchedRows client maxPagesPerSync none) := by
  rw [independent_iff_isolated]
  refine and_iff_left fun result hresult => ?_
  have hspec := syncPages_spec client maxPagesPerSync none {} ({ usable := true }, db)
  exact hspec.2 result hresult rfl

end Rows

/-! ## Section 7: A database error -/

/-- The success of an attempt of the payment. -/
def successRow : PageRow where
  raw := .ok {
    eventType := some "PAYMENT", orderId := some "AWL1", cfPaymentId := some "975672265"
    status := some "SUCCESS", paymentAmount := some 500, paymentCurrency := some "INR"
    paymentTime := none }

/-- A row of another order, whose lookup the database does not answer. -/
def brokenRow : PageRow where
  raw := .ok {
    eventType := some "PAYMENT", orderId := some "AWL0", cfPaymentId := some "975672264"
    status := some "SUCCESS", paymentAmount := some 100, paymentCurrency := some "INR"
    paymentTime := none }
  fault := some { commits := 0, error := .other "connection was closed" }

/-- After the database error the success is a failure; without it, it is applied. -/
theorem database_error_fails_next :
    ¬ Independent ({ usable := true }, awaitingPayment)
      (fetchedRows (fun _ => .ok ([brokenRow, successRow], none)) maxPagesPerSync none) := by
  intro h
  have hsame := congrArg (List.map RowEffect.counter) (h [] brokenRow [successRow] rfl rfl)
  have hafter : (rowEffects (rowStep ({ usable := true }, awaitingPayment) brokenRow)
      [successRow]).map RowEffect.counter = [.ok .failures] := rfl
  have habsent : (rowEffects ({ usable := true }, awaitingPayment) [successRow]).map
      RowEffect.counter = [.ok .applied] := by decide +kernel
  cases hafter.symm.trans (hsame.trans habsent)

end AyushOms.Payments
