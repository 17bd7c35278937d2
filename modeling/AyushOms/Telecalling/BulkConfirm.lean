import AyushOms.Core.Fault
import AyushOms.Lib.Bulk
import AyushOms.Telecalling.Scope

/-!
# Failures in a Bulk Confirmation

`bulk_confirm_assigned_orders` with unexpected failures in its turns. The session is rolled back
after one, and when a transaction was in progress the acting user's row is expired: the check
of any later order that is assigned to somebody reads it and raises.

## Main results

- `forEach_confirmTurn`: the loop without failures
- `confirmReliance_sound`: what a turn needs and loses
-/

namespace AyushOms.Telecalling

open AyushOms.Lib AyushOms.Lib.Proc AyushOms.Orders AyushOms.Shopify

/-! ## Section 1: A turn of the loop -/

/-- An order of the list, the time of its turn, and the unexpected failure it meets, if any. -/
structure ConfirmEntry where
  orderId : UUID
  now : Instant
  fault : Option Unexpected := none

namespace TelecallingService

/-- `confirm_assigned_order`, cut short by the failure. The first thing it does is a `SELECT`. -/
def confirmAttempt (env : External) (actor : User) (entry : ConfirmEntry) : OmsProc Order := do
  withSession RequestSession.execute
  faulty (entry.fault.map (·.toFault)) (confirmAssignedOrder env entry.orderId actor entry.now)

/-- One turn of the loop. -/
def confirmTurn (env : External) (actor : User) (entry : ConfirmEntry) : OmsProc ConfirmResult :=
  tryCatch
    (do
      let _ ← confirmAttempt env actor entry
      return ⟨entry.orderId, true, none⟩)
    (recoverConfirm entry.orderId)

/-- Without failures the loop over the turns is the bulk confirmation. -/
theorem forEach_confirmTurn (env : External) (actor : User) (entries : List ConfirmEntry)
    (h : ∀ entry ∈ entries, entry.fault = none) :
    forEach (confirmTurn env actor) entries = bulkConfirmAssignedOrders env actor
      (entries.map fun entry => (entry.orderId, entry.now)) := by
  have hturn : ∀ entry : ConfirmEntry, entry.fault = none →
      confirmTurn env actor entry = confirmOne env actor entry.orderId entry.now := by
    rintro ⟨orderId, now, fault⟩ rfl
    rfl
  induction entries with
  | nil => rfl
  | cons entry rest ih =>
    obtain ⟨hentry, hrest⟩ := List.forall_mem_cons.mp h
    rw [forEach, ih hrest, hturn entry hentry]
    rfl

/-! ## Section 2: What is reported -/

/-- The message of an error the loop expects. -/
def expectedConfirm : PyException → Option String
  | .oms (.notFound message) | .oms (.authorization message) | .oms (.conflict message)
  | .oms (.validation message) => some message
  | _ => none

/-- What the loop reports for an order that was not confirmed. -/
def reportConfirm (orderId : UUID) (e : PyException) : ConfirmResult :=
  ⟨orderId, false, some ((expectedConfirm e).getD "Could not confirm this order.")⟩

theorem recoverConfirm_silent (orderId : UUID) (e : PyException) (k : RequestSession) (w : Oms) :
    recoverConfirm orderId e k w = .done (.ok (reportConfirm orderId e),
      if (expectedConfirm e).isSome then k else k.rollback) := by
  unfold recoverConfirm
  split
  · rfl
  · rfl
  · rfl
  · rfl
  · rename_i hnotFound hauthorization hconflict hvalidation
    have hunexpected : expectedConfirm e = none := by
      unfold expectedConfirm
      split
      · exact absurd rfl (hnotFound _)
      · exact absurd rfl (hauthorization _)
      · exact absurd rfl (hconflict _)
      · exact absurd rfl (hvalidation _)
      · rfl
    rw [reportConfirm, hunexpected]
    rfl

theorem expectedConfirm_unexpected (f : Unexpected) : expectedConfirm f.error = none := by
  unfold expectedConfirm
  split
  · exact absurd ‹_› (f.unexpected _)
  · exact absurd ‹_› (f.unexpected _)
  · exact absurd ‹_› (f.unexpected _)
  · exact absurd ‹_› (f.unexpected _)
  · rfl

/-! ## Section 3: A confirmation and its check -/

/-- The order passes the check and can be confirmed. -/
def Confirms (actor : User) (orderId : UUID) (w : Oms) : Prop :=
  (∃ a, ownAssignment actor orderId w.calls = .ok a) ∧
    ∃ orders, w.db.orders.transitionStatus orderId .confirmed = .ok orders

section Attempt

variable {env : External} {actor : User} {orderId : UUID} {now : Instant} {k k' : RequestSession}
  {w : Oms}

theorem confirmAssignedOrder_run (hk : k.CanRead (some actor.id)) {a : OrderAssignment}
    (ha : ownAssignment actor orderId w.calls = .ok a) :
    confirmAssignedOrder env orderId actor now k w =
      OrderService.confirmOrder env orderId actor.id now k.execute w := by
  unfold confirmAssignedOrder
  rw [bind_run, checkAssigned_run hk, ha]
  rfl

theorem confirmAssignedOrder_run_refused (hk : k.CanRead (some actor.id)) {e : PyException}
    (he : ownAssignment actor orderId w.calls = .error e) :
    confirmAssignedOrder env orderId actor now k w = .done (.error e, k.execute) := by
  unfold confirmAssignedOrder
  rw [bind_run, checkAssigned_run hk, he]
  rfl

/-- An order that is assigned to nobody is refused before the acting user is read. -/
theorem confirmAssignedOrder_run_unassigned
    (h : getActiveForOrder w.calls.assignments orderId = none) :
    confirmAssignedOrder env orderId actor now k w =
      .done (.error (.oms (.notFound "Order is not currently assigned.")), k.execute) := by
  unfold confirmAssignedOrder checkAssigned
  rw [bind_run, bind_run, store_run, Staged.andThen_done, resume_ok, h]
  rfl

/-- An expired user cannot be compared with the assignment. -/
theorem confirmAssignedOrder_run_expired (env : External) (now : Instant)
    (hk : ¬ k.CanRead (some actor.id))
    (h : getActiveForOrder w.calls.assignments orderId ≠ none) :
    confirmAssignedOrder env orderId actor now k w =
      .done (.error .missingGreenlet, k.execute) := by
  unfold confirmAssignedOrder checkAssigned
  obtain ⟨a, ha⟩ := Option.ne_none_iff_exists'.mp h
  rw [bind_run, bind_run, store_run, Staged.andThen_done, resume_ok, ha]
  simp only [readActor, bind_run, withSession, memory_run, Staged.andThen_done, resume_ok,
    RequestSession.canRead_execute, if_neg hk]
  rfl

/-- With the acting user readable the outcome does not depend on the session. -/
theorem confirmAssignedOrder_same (hk : k.CanRead (some actor.id))
    (hk' : k'.CanRead (some actor.id)) :
    SameOutcome (confirmAssignedOrder env orderId actor now k w)
      (confirmAssignedOrder env orderId actor now k' w) := by
  cases hown : ownAssignment actor orderId w.calls with
  | error e =>
    rw [confirmAssignedOrder_run_refused hk hown, confirmAssignedOrder_run_refused hk' hown]
    exact ⟨rfl, rfl⟩
  | ok a =>
    rw [confirmAssignedOrder_run hk hown, confirmAssignedOrder_run hk' hown]
    exact .of_mapResult (OrderService.confirmOrder_outcome hk hk')

theorem confirmAssignedOrder_keeps (env : External) (orderId : UUID) (now : Instant) (w : Oms)
    (hk : k.CanRead (some actor.id)) :
    (confirmAssignedOrder env orderId actor now k w).result.2.CanRead (some actor.id) := by
  cases hown : ownAssignment actor orderId w.calls with
  | error e =>
    rw [confirmAssignedOrder_run_refused hk hown]
    exact hk
  | ok a =>
    rw [confirmAssignedOrder_run hk hown]
    exact OrderService.keeps_confirmOrder env orderId actor.id now (some actor.id) _ w hk

/-- A refusal has a message of its own, and an exception that comes later finds no transaction in
progress. -/
theorem confirmAssignedOrder_raises (hk : k.CanRead (some actor.id)) {e : PyException}
    (h : (confirmAssignedOrder env orderId actor now k w).result = (.error e, k')) :
    (expectedConfirm e).isSome = true ∨ k'.inTransaction = false := by
  cases hown : ownAssignment actor orderId w.calls with
  | error e' =>
    rw [confirmAssignedOrder_run_refused hk hown] at h
    cases h
    unfold ownAssignment at hown
    split at hown
    · cases hown
      exact .inl rfl
    · split at hown
      · cases hown
        exact .inl rfl
      · cases hown
  | ok a =>
    rw [confirmAssignedOrder_run hk hown] at h
    rcases OrderService.confirmOrder_raises (k := k.execute) hk h with ⟨message, rfl | rfl⟩ | hidle
    · exact .inl rfl
    · exact .inl rfl
    · exact .inr hidle

/-- A confirmation that cannot be made commits nothing and says why. -/
theorem confirmAssignedOrder_of_not_confirms (env : External) (now : Instant)
    (hk : k.CanRead (some actor.id))
    (h : ¬ Confirms actor orderId w) :
    (confirmAssignedOrder env orderId actor now k w).states = [] ∧
      ∃ e, (confirmAssignedOrder env orderId actor now k w).result.1 = .error e ∧
        reportConfirm orderId e ≠ reportConfirm orderId .missingGreenlet := by
  cases hown : ownAssignment actor orderId w.calls with
  | error e =>
    rw [confirmAssignedOrder_run_refused hk hown]
    refine ⟨rfl, e, rfl, ?_⟩
    unfold ownAssignment at hown
    split at hown
    · cases hown
      simp [reportConfirm, expectedConfirm]
    · split at hown
      · cases hown
        simp [reportConfirm, expectedConfirm]
      · cases hown
  | ok a =>
    rw [confirmAssignedOrder_run hk hown]
    cases hstatus : w.db.orders.transitionStatus orderId .confirmed with
    | ok orders => exact absurd ⟨⟨a, hown⟩, orders, hstatus⟩ h
    | error e =>
      obtain ⟨k'', hrun⟩ := OrderService.confirmOrder_run_error env actor.id now k.execute hstatus
      rw [hrun]
      refine ⟨rfl, _, rfl, ?_⟩
      unfold OrdersDB.transitionStatus at hstatus
      split at hstatus
      · cases hstatus
        simp [reportConfirm, expectedConfirm]
      · split at hstatus
        · cases hstatus
        · cases hstatus
          -- the first letters are enough
          intro hsame
          have hmessage := Option.some.inj (congrArg ConfirmResult.message hsame)
          have hletters := congrArg (fun s => s.toList.take 2) hmessage
          simp [expectedConfirm, String.toList_append] at hletters

/-- One that can be made commits at once. -/
theorem states_confirmAssignedOrder_of_confirms (env : External) (now : Instant)
    (hk : k.CanRead (some actor.id))
    (h : Confirms actor orderId w) :
    ∃ w' rest, (confirmAssignedOrder env orderId actor now k w).states = w' :: rest := by
  obtain ⟨⟨a, hown⟩, orders, hstatus⟩ := h
  rw [confirmAssignedOrder_run hk hown,
    OrderService.confirmOrder_run_ok (k := k.execute) hk hstatus]
  exact ⟨_, _, rfl⟩

end Attempt

/-! ## Section 4: What a turn needs and loses -/

/-- An unexpected failure strikes before the first commit of the confirmation. -/
def StruckFirst (actor : User) (w : Oms) (entry : ConfirmEntry) : Prop :=
  ∃ f ∈ entry.fault, f.commits = 0 ∨ ¬ Confirms actor entry.orderId w

/-- An unexpected failure strikes in a transaction: in the first one, or in one begun after a
commit. -/
def StruckInTransaction (actor : User) (w : Oms) (entry : ConfirmEntry) : Prop :=
  ∃ f ∈ entry.fault, f.inTransaction = true ∨ f.commits = 0 ∨ ¬ Confirms actor entry.orderId w

/-- A turn needs the acting user for an order that is assigned to somebody, unless it fails
before it has an effect, and loses the row in a failure that is rolled back. -/
def confirmReliance (actor : User) : Reliance ConfirmEntry Oms where
  Returns _ _ := True
  Needs entry w := getActiveForOrder w.calls.assignments entry.orderId ≠ none ∧
    ¬ StruckFirst actor w entry
  Restores _ _ := False
  Loses entry w := StruckInTransaction actor w entry

section Turn

variable {env : External} {actor : User} {entry : ConfirmEntry} {k : RequestSession} {w : Oms}

theorem confirmAttempt_run : confirmAttempt env actor entry k w =
    faulty (entry.fault.map (·.toFault))
      (confirmAssignedOrder env entry.orderId actor entry.now) k.execute w := rfl

theorem confirmTurn_run : confirmTurn env actor entry k w =
    (confirmAttempt env actor entry k w).mapResult (settle (fun _ => ⟨entry.orderId, true, none⟩)
      (reportConfirm entry.orderId)
      fun e k' => if (expectedConfirm e).isSome then k' else k'.rollback) :=
  tryCatch_run_of_silent (recoverConfirm_silent entry.orderId) k w

theorem states_confirmTurn :
    (confirmTurn env actor entry k w).states = (confirmAttempt env actor entry k w).states := by
  rw [confirmTurn_run, Staged.states_mapResult]

/-- Every failure is reported. -/
theorem result_confirmTurn_of_error {e : PyException} {k' : RequestSession}
    (h : (confirmAttempt env actor entry k w).result = (.error e, k')) :
    (confirmTurn env actor entry k w).result = (.ok (reportConfirm entry.orderId e),
      if (expectedConfirm e).isSome then k' else k'.rollback) := by
  rw [confirmTurn_run, Staged.result_mapResult, h, settle]

theorem result_confirmTurn_of_ok {o : Order} {k' : RequestSession}
    (h : (confirmAttempt env actor entry k w).result = (.ok o, k')) :
    (confirmTurn env actor entry k w).result = (.ok ⟨entry.orderId, true, none⟩, k') := by
  rw [confirmTurn_run, Staged.result_mapResult, h, settle]

theorem confirmTurn_returns : ∃ r, (confirmTurn env actor entry k w).result.1 = .ok r := by
  cases h : (confirmAttempt env actor entry k w).result with
  | mk r k' =>
    cases r with
    | error e => exact ⟨_, congrArg Prod.fst (result_confirmTurn_of_error h)⟩
    | ok o => exact ⟨_, congrArg Prod.fst (result_confirmTurn_of_ok h)⟩

/-- An attempt that a failure cuts short. -/
theorem confirmAttempt_struck (env : External) (k : RequestSession) (w : Oms) {f : Unexpected}
    (hf : entry.fault = some f) :
    (confirmAttempt env actor entry k w).states =
        (confirmAssignedOrder env entry.orderId actor entry.now k.execute w).states.take f.commits ∧
      (confirmAttempt env actor entry k w).result = (.error f.error, f.session
        (confirmAssignedOrder env entry.orderId actor entry.now k.execute w).commits
        k.execute) := by
  rw [confirmAttempt_run, hf, Option.map_some, faulty_some, Staged.states_failAt,
    Staged.result_failAt]
  exact ⟨rfl, rfl⟩

theorem reportConfirm_unexpected (orderId : UUID) (f : Unexpected) :
    reportConfirm orderId f.error = reportConfirm orderId .missingGreenlet := by
  rw [reportConfirm, expectedConfirm_unexpected]
  rfl

/-- Readable sessions give a turn the same outcome. -/
theorem confirmTurn_same {k' : RequestSession} (hk : k.CanRead (some actor.id))
    (hk' : k'.CanRead (some actor.id)) : SameOutcome (confirmTurn env actor entry k w)
      (confirmTurn env actor entry k' w) :=
  .tryCatch_of_silent (recoverConfirm_silent entry.orderId) (sameOutcome_faulty _
    (confirmAssignedOrder_same (RequestSession.canRead_execute.mpr hk)
      (RequestSession.canRead_execute.mpr hk')))

/-- An order that is assigned to nobody has the same outcome in every session. -/
theorem confirmTurn_same_of_unassigned {k' : RequestSession}
    (h : getActiveForOrder w.calls.assignments entry.orderId = none) :
    SameOutcome (confirmTurn env actor entry k w) (confirmTurn env actor entry k' w) := by
  refine .tryCatch_of_silent (recoverConfirm_silent entry.orderId) (sameOutcome_faulty _ ?_)
  rw [confirmAssignedOrder_run_unassigned h, confirmAssignedOrder_run_unassigned h]
  exact ⟨rfl, rfl⟩

/-- The turn of an assigned order whose acting user is expired. -/
theorem confirmTurn_expired (env : External) (hk : ¬ k.CanRead (some actor.id))
    (h : getActiveForOrder w.calls.assignments entry.orderId ≠ none) :
    (confirmTurn env actor entry k w).states = [] ∧ (confirmTurn env actor entry k w).result.1 =
      .ok (reportConfirm entry.orderId .missingGreenlet) := by
  have hrun := confirmAssignedOrder_run_expired env entry.now
    (mt RequestSession.canRead_execute.mp hk) h
  rw [states_confirmTurn]
  cases hfault : entry.fault with
  | none =>
    have hattempt : confirmAttempt env actor entry k w =
        .done (.error .missingGreenlet, k.execute.execute) := by
      rw [confirmAttempt_run, hfault]
      exact hrun
    have hresult : (confirmAttempt env actor entry k w).result =
        (.error .missingGreenlet, k.execute.execute) := by rw [hattempt]; rfl
    rw [result_confirmTurn_of_error hresult, hattempt]
    exact ⟨rfl, rfl⟩
  | some f =>
    obtain ⟨hstates, hresult⟩ := confirmAttempt_struck env k w hfault
    rw [result_confirmTurn_of_error hresult, hstates, hrun, reportConfirm_unexpected]
    exact ⟨List.take_nil, rfl⟩

/-- With the acting user readable, a turn of an assigned order ends like that when a failure
strikes first, and only then. -/
theorem confirmTurn_struckFirst_iff (env : External) (hk : k.CanRead (some actor.id)) :
    ((confirmTurn env actor entry k w).states = [] ∧ (confirmTurn env actor entry k w).result.1 =
      .ok (reportConfirm entry.orderId .missingGreenlet)) ↔ StruckFirst actor w entry := by
  have hk' : k.execute.CanRead (some actor.id) := hk
  rw [states_confirmTurn]
  cases hfault : entry.fault with
  | none =>
    have hattempt : confirmAttempt env actor entry k w =
        confirmAssignedOrder env entry.orderId actor entry.now k.execute w := by
      rw [confirmAttempt_run, hfault]
      rfl
    refine iff_of_false ?_ (by simp [StruckFirst, hfault])
    rintro ⟨hstates, hresult⟩
    by_cases hconfirms : Confirms actor entry.orderId w
    · obtain ⟨w', rest, hcommits⟩ := states_confirmAssignedOrder_of_confirms env
        entry.now hk' hconfirms
      rw [hattempt, hcommits] at hstates
      cases hstates
    · obtain ⟨-, e, hraised, hreport⟩ := confirmAssignedOrder_of_not_confirms env
        entry.now hk' hconfirms
      rw [result_confirmTurn_of_error (Prod.ext (by rw [hattempt, hraised]) rfl)] at hresult
      exact hreport (Except.ok.inj hresult)
  | some f =>
    obtain ⟨hstates, hresult⟩ := confirmAttempt_struck env k w hfault
    rw [result_confirmTurn_of_error hresult, hstates, reportConfirm_unexpected]
    have hstruck : StruckFirst actor w entry ↔
        f.commits = 0 ∨ ¬ Confirms actor entry.orderId w := by simp [StruckFirst, hfault]
    rw [hstruck, and_iff_left rfl]
    by_cases hconfirms : Confirms actor entry.orderId w
    · obtain ⟨w', rest, hcommits⟩ := states_confirmAssignedOrder_of_confirms env
        entry.now hk' hconfirms
      simp [hcommits, hconfirms]
    · rw [(confirmAssignedOrder_of_not_confirms _ _ hk' hconfirms).1]
      simp [hconfirms]

/-- Whatever happens in a turn whose acting user is expired, the user stays so. -/
theorem confirmTurn_stays_expired (hk : ¬ k.CanRead (some actor.id)) :
    ¬ (confirmTurn env actor entry k w).result.2.CanRead (some actor.id) := by
  have hloaded : (confirmAttempt env actor entry k w).result.2.loaded = k.loaded ∧
      ∃ e, (confirmAttempt env actor entry k w).result.1 = .error e := by
    have hrun : ∃ e, confirmAssignedOrder env entry.orderId actor entry.now k.execute w =
        .done (.error e, k.execute) := by
      by_cases h : getActiveForOrder w.calls.assignments entry.orderId = none
      · exact ⟨_, confirmAssignedOrder_run_unassigned h⟩
      · exact ⟨_, confirmAssignedOrder_run_expired env entry.now
          (mt RequestSession.canRead_execute.mp hk) h⟩
    obtain ⟨e, hrun⟩ := hrun
    cases hfault : entry.fault with
    | none =>
      rw [confirmAttempt_run, hfault]
      exact ⟨congrArg (fun p => p.result.2.loaded) hrun, e,
        congrArg (fun p => p.result.1) hrun⟩
    | some f =>
      rw [(confirmAttempt_struck _ _ _ hfault).2]
      exact ⟨rfl, _, rfl⟩
  obtain ⟨hloaded, e, hraised⟩ := hloaded
  have hresult : (confirmAttempt env actor entry k w).result =
      (.error e, (confirmAttempt env actor entry k w).result.2) := Prod.ext hraised rfl
  rw [result_confirmTurn_of_error hresult]
  intro hread
  refine hk fun id hid => ?_
  rw [← hloaded]
  dsimp only at hread
  split at hread
  · exact hread id hid
  · exact RequestSession.loaded_rollback_subset _ (hread id hid)

/-- A readable user is lost in a failure that is rolled back, and only there. -/
theorem confirmTurn_loses_iff (hk : k.CanRead (some actor.id)) :
    (confirmTurn env actor entry k w).result.2.CanRead (some actor.id) ↔
      ¬ StruckInTransaction actor w entry := by
  have hk' : k.execute.CanRead (some actor.id) := hk
  cases hfault : entry.fault with
  | none =>
    refine iff_of_true ?_ (by simp [StruckInTransaction, hfault])
    have hattempt : confirmAttempt env actor entry k w =
        confirmAssignedOrder env entry.orderId actor entry.now k.execute w := by
      rw [confirmAttempt_run, hfault]
      rfl
    have hkeeps := confirmAssignedOrder_keeps env entry.orderId entry.now w hk'
    cases hresult : (confirmAttempt env actor entry k w).result with
    | mk r k' =>
      rw [← hattempt, hresult] at hkeeps
      cases r with
      | ok o =>
        rw [result_confirmTurn_of_ok hresult]
        exact hkeeps
      | error e =>
        rw [result_confirmTurn_of_error hresult]
        rw [hattempt] at hresult
        rcases confirmAssignedOrder_raises hk' hresult with hexpected | hidle
        · rw [if_pos hexpected]
          exact hkeeps
        · rw [RequestSession.rollback_of_not_inTransaction hidle, ite_self]
          exact hkeeps
  | some f =>
    have hstruck : StruckInTransaction actor w entry ↔ f.inTransaction = true ∨ f.commits = 0 ∨
        ¬ Confirms actor entry.orderId w := by simp [StruckInTransaction, hfault]
    have hfirst : min f.commits (confirmAssignedOrder env entry.orderId actor entry.now
        k.execute w).commits = 0 ↔ f.commits = 0 ∨ ¬ Confirms actor entry.orderId w := by
      rw [Nat.min_eq_zero_iff, ← Staged.length_states, List.length_eq_zero_iff]
      refine or_congr_right ?_
      by_cases hconfirms : Confirms actor entry.orderId w
      · obtain ⟨w', rest, hcommits⟩ := states_confirmAssignedOrder_of_confirms env
          entry.now hk' hconfirms
        simp [hcommits, hconfirms]
      · exact iff_of_true (confirmAssignedOrder_of_not_confirms _ _ hk' hconfirms).1 hconfirms
    rw [result_confirmTurn_of_error (confirmAttempt_struck _ _ _ hfault).2,
      if_neg (by simp [expectedConfirm_unexpected]), RequestSession.canRead_rollback,
      and_iff_right (show (f.session _ k.execute).CanRead (some actor.id) from hk'), hstruck,
      ← hfirst, ← Fault.inTransaction_session (RequestSession.inTransaction_execute (k := k))]
    simp

end Turn

/-- What the turns of a bulk confirmation need and lose. -/
theorem confirmReliance_sound (env : External) (actor : User) :
    (confirmReliance actor).Sound (confirmTurn env actor) (.authenticated (some actor.id))
      fun k => k.CanRead (some actor.id) where
  returns_iff _ _ := iff_of_true True.intro confirmTurn_returns
  same_iff entry k w _ := by
    have hfresh := RequestSession.canRead_authenticated (some actor.id)
    by_cases hk : k.CanRead (some actor.id)
    · exact iff_of_true (confirmTurn_same hk hfresh) (.inl hk)
    by_cases hactive : getActiveForOrder w.calls.assignments entry.orderId = none
    · exact iff_of_true (confirmTurn_same_of_unassigned hactive) (.inr fun h => h.1 hactive)
    obtain ⟨hstates, hresult⟩ := confirmTurn_expired env hk hactive
    have hneeds : ((confirmReliance actor).Needs entry w ↔ ¬ StruckFirst actor w entry) :=
      and_iff_right hactive
    rw [or_iff_right hk, hneeds, not_not, ← confirmTurn_struckFirst_iff env hfresh]
    constructor
    · rintro ⟨hsame, hsame'⟩
      exact ⟨hsame.symm.trans hstates, hsame'.symm.trans hresult⟩
    · rintro ⟨hsame, hsame'⟩
      exact ⟨hstates.trans hsame.symm, hresult.trans hsame'.symm⟩
  holds_iff entry k w _ _ := by
    by_cases hk : k.CanRead (some actor.id)
    · exact (confirmTurn_loses_iff hk).trans (by simp [confirmReliance, hk])
    · exact iff_of_false (confirmTurn_stays_expired hk) (by simp [confirmReliance, hk])

end TelecallingService

end AyushOms.Telecalling
