import AyushOms.Orders.Outcomes
import AyushOms.Telecalling.Attempts
import AyushOms.Telecalling.Procedures

/-!
# Telecaller Isolation

A telecaller works on the orders actively assigned to them. Every method checks that before
its first write, so a call on another order commits nothing; a bulk confirmation confirms the
own orders of its list one after another and leaves the others alone.

## Main results

- `proc_refused`: a call on an order that is not the caller's own
- `bulkConfirm_run`: a bulk confirmation is the confirmations of the own orders
- `telecaller_isolation`: both, with what a bulk confirmation leaves untouched
-/

namespace AyushOms.Telecalling

open AyushOms.Lib AyushOms.Orders AyushOms.Shopify

/-! ## Section 1: Ownership -/

/-- The active assignment of the order is the caller's own. -/
def Owns (actor : User) (w : Oms) (orderId : UUID) : Prop :=
  ∃ a ∈ getActiveForOrder w.calls.assignments orderId, a.assignedTo = actor.id

instance (actor : User) (w : Oms) (orderId : UUID) : Decidable (Owns actor w orderId) :=
  match h : getActiveForOrder w.calls.assignments orderId with
  | none => .isFalse fun ⟨_, ha, _⟩ => by simp [h] at ha
  | some a => decidable_of_iff (a.assignedTo = actor.id) (by simp [Owns, h])

/-- Who owns which order depends on the assignments only. -/
theorem owns_congr {actor : User} {w w' : Oms} (h : w'.calls = w.calls) (orderId : UUID) :
    Owns actor w' orderId ↔ Owns actor w orderId := by
  rw [Owns, Owns, h]

section Check

variable {actor : User} {orderId : UUID} {w : Oms} {k : RequestSession}

/-- Another caller's order, or one without an active assignment, is refused. -/
theorem ownAssignment_of_not_owns (hactor : actor.isSuperuser = false)
    (h : ¬ Owns actor w orderId) :
    ∃ message, ownAssignment actor orderId w.calls = .error (.oms (.notFound message)) ∨
      ownAssignment actor orderId w.calls = .error (.oms (.authorization message)) := by
  unfold ownAssignment
  cases hactive : getActiveForOrder w.calls.assignments orderId with
  | none => exact ⟨_, .inl rfl⟩
  | some a =>
    have hother : a.assignedTo ≠ actor.id := fun heq => h ⟨a, hactive, heq⟩
    exact ⟨_, .inr (if_pos ⟨hactor, hother⟩)⟩

theorem ownAssignment_of_owns (h : Owns actor w orderId) :
    ∃ a, ownAssignment actor orderId w.calls = .ok a := by
  obtain ⟨a, hactive, hown⟩ := h
  have hactive : getActiveForOrder w.calls.assignments orderId = some a := hactive
  refine ⟨a, ?_⟩
  rw [ownAssignment, hactive]
  exact if_neg fun hother => hother.2 hown

/-- Nothing is written before the check. -/
theorem run_requireOwn_error {α : Type} {e : PyException} {db : CallDB}
    (h : ownAssignment actor orderId db = .error e) (f : OrderAssignment → CallTxn α) :
    ((requireOwn actor orderId >>= f).run CallWrite.apply (.fresh db fun _ => none)).1 =
      .error e := by
  have hread : (requireOwn actor orderId >>= f) =
      .read (fun db => (Txn.ofExcept (ownAssignment actor orderId db)).bind f) .fail := rfl
  rw [hread]
  simp [Txn.run, Txn.Session.fresh, Txn.ofExcept, Txn.bind, h]

theorem callTransaction_refused {α : Type} (hactor : actor.isSuperuser = false)
    (h : ¬ Owns actor w orderId) (f : OrderAssignment → CallTxn α) :
    ∃ e k', TelecallingService.callTransaction actor (requireOwn actor orderId >>= f) k w =
      .done (.error e, k') := by
  obtain ⟨e, he⟩ : ∃ e, ownAssignment actor orderId w.calls = .error e := by
    obtain ⟨message, h | h⟩ := ownAssignment_of_not_owns hactor h
    · exact ⟨_, h⟩
    · exact ⟨_, h⟩
  refine ⟨e, k.execute, transaction_run_error ?_⟩
  have hrun := run_requireOwn_error he f
  generalize (requireOwn actor orderId >>= f).run CallWrite.apply
    (.fresh w.calls fun _ => none) = out at hrun ⊢
  obtain ⟨r, s⟩ := out
  obtain rfl : r = .error e := hrun
  rfl

/-- The methods that go on with the order service make the same check. -/
theorem checkAssigned_run (hk : k.CanRead (some actor.id)) :
    TelecallingService.checkAssigned orderId actor k w =
      .done ((ownAssignment actor orderId w.calls).map fun _ => PUnit.unit, k.execute) := by
  unfold TelecallingService.checkAssigned ownAssignment
  rw [Proc.bind_run, Proc.store_run, Staged.andThen_done, Proc.resume_ok]
  cases getActiveForOrder w.calls.assignments orderId with
  | none => rfl
  | some a =>
    simp only [TelecallingService.readActor, Proc.bind_run, withSession, Proc.memory_run,
      Staged.andThen_done, Proc.resume_ok, RequestSession.canRead_execute, if_pos hk]
    split <;> rfl

/-- Whatever follows a check that raises is not reached. -/
theorem checked_refused {α : Type} (hactor : actor.isSuperuser = false)
    (h : ¬ Owns actor w orderId) (p : OmsProc α) :
    ∃ e k', (do TelecallingService.checkAssigned orderId actor; p) k w = .done (.error e, k') := by
  by_cases hk : k.CanRead (some actor.id)
  · rw [Proc.bind_run, checkAssigned_run hk]
    obtain ⟨message, h | h⟩ := ownAssignment_of_not_owns hactor h
    · rw [h]
      exact ⟨_, _, rfl⟩
    · rw [h]
      exact ⟨_, _, rfl⟩
  · -- an expired user cannot be compared with the assignment
    unfold TelecallingService.checkAssigned
    rw [Proc.bind_run, Proc.bind_run, Proc.store_run, Staged.andThen_done, Proc.resume_ok]
    cases hactive : getActiveForOrder w.calls.assignments orderId with
    | none => exact ⟨_, _, rfl⟩
    | some a =>
      simp only [TelecallingService.readActor, Proc.bind_run, withSession, Proc.memory_run,
        Staged.andThen_done, Proc.resume_ok, RequestSession.canRead_execute, if_neg hk]
      exact ⟨_, _, rfl⟩

end Check

/-! ## Section 2: Calls on one order -/

/-- A call of a telecaller on one order, with the values its rows and stamps are given. -/
inductive TelecallerCall where
  | logCall (c : LogCall) (confirmedAt : Instant)
  | editCallAttempt (c : EditCall)
  | deleteCallAttempt (c : DeleteCall)
  | scheduleFollowUp (orderId : UUID) (nextFollowUpAt : Instant)
  | confirm (orderId : UUID) (now : Instant)
  | unconfirm (orderId : UUID)
  | updateAddress (orderId : UUID) (address : ShippingAddress) (now : Instant)
  | updateItemVariant (orderId itemId newVariantId : UUID)

namespace TelecallerCall

def orderId : TelecallerCall → UUID
  | logCall c _ => c.orderId
  | editCallAttempt c => c.orderId
  | deleteCallAttempt c => c.orderId
  | scheduleFollowUp orderId _ => orderId
  | confirm orderId _ => orderId
  | unconfirm orderId => orderId
  | updateAddress orderId _ _ => orderId
  | updateItemVariant orderId _ _ => orderId

/-- What the request runs when `actor` makes the call. -/
def proc [PyText] (env : External) (actor : User) : TelecallerCall → OmsProc PUnit
  | logCall c confirmedAt => do
    let _ ← TelecallingService.logCall env { c with actor := actor } confirmedAt
  | editCallAttempt c => do
    let _ ← TelecallingService.editCallAttempt { c with actor := actor }
  | deleteCallAttempt c => do
    let _ ← TelecallingService.deleteCallAttempt { c with actor := actor }
  | scheduleFollowUp orderId nextFollowUpAt => do
    let _ ← TelecallingService.scheduleFollowUp orderId nextFollowUpAt actor
  | confirm orderId now => do
    let _ ← TelecallingService.confirmAssignedOrder env orderId actor now
  | unconfirm orderId => do
    let _ ← TelecallingService.unconfirmAssignedOrder env orderId actor
  | updateAddress orderId address now => do
    let _ ← TelecallingService.updateAssignedOrderAddress env orderId actor address now
  | updateItemVariant orderId itemId newVariantId => do
    let _ ← TelecallingService.updateAssignedOrderItemVariant orderId itemId actor newVariantId

/-- A procedure that fails at once makes what follows it fail at once. -/
theorem bind_refused {α β : Type} {p : OmsProc α} {k : RequestSession} {w : Oms}
    (h : ∃ e k', p k w = .done (.error e, k')) (f : α → OmsProc β) :
    ∃ e k', (p >>= f) k w = .done (.error e, k') := by
  obtain ⟨e, k', hrun⟩ := h
  rw [Proc.bind_run, hrun]
  exact ⟨e, k', rfl⟩

/-- A call on an order that is not the caller's own raises and commits nothing. -/
theorem proc_refused [PyText] (env : External) {actor : User} (hactor : actor.isSuperuser = false)
    (call : TelecallerCall) (k : RequestSession) {w : Oms} (h : ¬ Owns actor w call.orderId) :
    ∃ e k', call.proc env actor k w = .done (.error e, k') := by
  cases call with
  | logCall c confirmedAt =>
    exact bind_refused (bind_refused (callTransaction_refused hactor h _) _) _
  | editCallAttempt c => exact bind_refused (callTransaction_refused hactor h _) _
  | deleteCallAttempt c => exact bind_refused (callTransaction_refused hactor h _) _
  | scheduleFollowUp orderId nextFollowUpAt =>
    exact bind_refused (callTransaction_refused hactor h _) _
  | confirm orderId now => exact bind_refused (checked_refused hactor h _) _
  | unconfirm orderId => exact bind_refused (checked_refused hactor h _) _
  | updateAddress orderId address now => exact bind_refused (checked_refused hactor h _) _
  | updateItemVariant orderId itemId newVariantId =>
    exact bind_refused (checked_refused hactor h _) _

end TelecallerCall

/-! ## Section 3: Bulk confirmation -/

/-- Orders confirmed one after another, each in a session of its own. The result says which
confirmations succeeded. -/
def confirmEach (env : External) (actor : UUID) :
    List (UUID × Instant) → Oms → Staged Oms (List Bool)
  | [], _ => .done []
  | (orderId, now) :: rest, w =>
    (OrderService.confirmOrder env orderId actor now (.authenticated (some actor)) w).andThen w
      fun w' r => (confirmEach env actor rest w').mapResult fun oks => r.1.isOk :: oks

/-- The entries whose orders are the caller's own. -/
def ownEntries (actor : User) (w : Oms) (entries : List (UUID × Instant)) :
    List (UUID × Instant) :=
  entries.filter fun entry => Owns actor w entry.1

namespace TelecallingService

section Turn

variable {env : External} {actor : User} {orderId : UUID} {now : Instant} {k : RequestSession}
  {w : Oms}

/-- The turn of an order that is not the caller's own. -/
theorem confirmOne_of_not_owns (env : External) (now : Instant) (hactor : actor.isSuperuser = false)
    (hk : k.CanRead (some actor.id)) (h : ¬ Owns actor w orderId) :
    ∃ message, confirmOne env actor orderId now k w =
      .done (.ok ⟨orderId, false, some message⟩, k.execute) := by
  unfold confirmOne confirmAssignedOrder
  rw [Proc.tryCatch_run, Proc.bind_run, Proc.bind_run, checkAssigned_run hk]
  obtain ⟨message, h | h⟩ := ownAssignment_of_not_owns hactor h
  · rw [h]
    exact ⟨message, rfl⟩
  · rw [h]
    exact ⟨message, rfl⟩

/-- The `except` blocks report the exception of a confirmation, and leave the acting user
readable. -/
theorem recoverConfirm_run (orderId : UUID) (w : Oms) {e : PyException}
    (hk : k.CanRead (some actor.id))
    (he : (∃ message, e = .oms (.notFound message) ∨ e = .oms (.conflict message)) ∨
      k.inTransaction = false) :
    ∃ message k', recoverConfirm orderId e k w =
      .done (.ok ⟨orderId, false, some message⟩, k') ∧ k'.CanRead (some actor.id) := by
  have hrollback : k.inTransaction = false → k.rollback.CanRead (some actor.id) := fun h => by
    rw [RequestSession.rollback_of_not_inTransaction h]
    exact hk
  rcases he with ⟨message, rfl | rfl⟩ | hidle
  · exact ⟨message, k, rfl, hk⟩
  · exact ⟨message, k, rfl, hk⟩
  · unfold recoverConfirm
    split
    · exact ⟨_, k, rfl, hk⟩
    · exact ⟨_, k, rfl, hk⟩
    · exact ⟨_, k, rfl, hk⟩
    · exact ⟨_, k, rfl, hk⟩
    · exact ⟨_, k.rollback, rfl, hrollback hidle⟩

/-- The turn of an order that passes the check. -/
theorem confirmOne_run (hk : k.CanRead (some actor.id)) {a : OrderAssignment}
    (ha : ownAssignment actor orderId w.calls = .ok a) :
    confirmOne env actor orderId now k w =
      (OrderService.confirmOrder env orderId actor.id now k.execute w).andThen w
        (Proc.resume (fun _ => pure ⟨orderId, true, none⟩) (recoverConfirm orderId)) := by
  unfold confirmOne confirmAssignedOrder
  rw [Proc.tryCatch_run, Proc.bind_run, Proc.bind_run, checkAssigned_run hk, ha]
  refine (Staged.andThen_assoc _ _ _ _).trans ?_
  refine congrArg (Staged.andThen w _) (funext fun w' => funext fun r => ?_)
  obtain ⟨e | o, k'⟩ := r <;> rfl

/-- The turn of an own order commits what its confirmation commits. -/
theorem confirmOne_of_owns (env : External) (now : Instant) (hk : k.CanRead (some actor.id))
    (h : Owns actor w orderId) :
    let confirmed :=
      OrderService.confirmOrder env orderId actor.id now (.authenticated (some actor.id)) w
    (confirmOne env actor orderId now k w).states = confirmed.states ∧
      (confirmOne env actor orderId now k w).final w = confirmed.final w ∧
      ∃ message k', (confirmOne env actor orderId now k w).result =
        (.ok ⟨orderId, confirmed.result.1.isOk, message⟩, k') ∧ k'.CanRead (some actor.id) := by
  intro confirmed
  obtain ⟨a, ha⟩ := ownAssignment_of_owns h
  have hk' : k.execute.CanRead (some actor.id) := hk
  have hsame : (OrderService.confirmOrder env orderId actor.id now k.execute w).mapResult Prod.fst =
      confirmed.mapResult Prod.fst :=
    OrderService.confirmOrder_outcome hk' (RequestSession.canRead_authenticated _)
  have hstates := congrArg Staged.states hsame
  have hfinal := congrArg (Staged.final w) hsame
  have hresult := congrArg Staged.result hsame
  rw [Staged.states_mapResult, Staged.states_mapResult] at hstates
  rw [Staged.final_mapResult, Staged.final_mapResult] at hfinal
  rw [Staged.result_mapResult, Staged.result_mapResult] at hresult
  rw [confirmOne_run hk ha, Staged.states_andThen, Staged.final_andThen, Staged.result_andThen,
    hstates, hfinal, ← hresult]
  have hkept := OrderService.keeps_confirmOrder env orderId actor.id now (some actor.id) _ w hk'
  have hraises : ∀ e k',
      (OrderService.confirmOrder env orderId actor.id now k.execute w).result = (.error e, k') →
        (∃ message, e = .oms (.notFound message) ∨ e = .oms (.conflict message)) ∨
          k'.inTransaction = false := fun e k' h => OrderService.confirmOrder_raises hk' h
  generalize (OrderService.confirmOrder env orderId actor.id now k.execute w).result = r
    at hkept hraises
  obtain ⟨e | o, k'⟩ := r
  · obtain ⟨message, k'', hrun, hk''⟩ :=
      recoverConfirm_run orderId (confirmed.final w) hkept (hraises e k' rfl)
    rw [Proc.resume_error, hrun]
    exact ⟨List.append_nil _, rfl, some message, k'', rfl, hk''⟩
  · exact ⟨List.append_nil _, rfl, none, k', rfl, hkept⟩

end Turn

section Bulk

variable {env : External} {actor : User}

/-- A confirmation changes nothing of the call log. -/
theorem calls_confirmOrder (env : External) (orderId actor : UUID) (now : Instant)
    (k : RequestSession) (w : Oms) :
    ((OrderService.confirmOrder env orderId actor now k w).final w).calls = w.calls := by
  have hcommits : (OrderService.confirmOrder env orderId actor now).Commits
      fun w w' => w'.calls = w.calls :=
    OrderService.commits_confirmOrder (fun _ _ _ => rfl) (fun _ => rfl) (fun _ _ => rfl)
      fun _ => rfl
  exact Staged.Steps.final (R := fun w w' : Oms => w'.calls = w.calls) (fun _ => rfl)
    (fun h h' => Eq.trans h' h) (hcommits k w)

theorem ownEntries_congr {w w' : Oms} (h : w'.calls = w.calls) (entries : List (UUID × Instant)) :
    ownEntries actor w' entries = ownEntries actor w entries := by
  simp only [ownEntries, owns_congr h]

/-- A list goes on where the turn of its first entry ended. -/
theorem bulkConfirm_cons {orderId : UUID} {now : Instant} {k k' : RequestSession} {w w' : Oms}
    {r : ConfirmResult} (rest : List (UUID × Instant))
    (hresult : (confirmOne env actor orderId now k w).result = (.ok r, k'))
    (hfinal : (confirmOne env actor orderId now k w).final w = w') :
    (bulkConfirmAssignedOrders env actor ((orderId, now) :: rest) k w).states =
        (confirmOne env actor orderId now k w).states ++
          (bulkConfirmAssignedOrders env actor rest k' w').states ∧
      ∀ results k'', (bulkConfirmAssignedOrders env actor rest k' w').result = (.ok results, k'') →
        (bulkConfirmAssignedOrders env actor ((orderId, now) :: rest) k w).result =
          (.ok (r :: results), k'') := by
  have hrun : bulkConfirmAssignedOrders env actor ((orderId, now) :: rest) k w =
      (confirmOne env actor orderId now k w).andThen w (Proc.resume (fun r => do
        let results ← bulkConfirmAssignedOrders env actor rest
        return r :: results) Proc.raise) := rfl
  rw [hrun, Staged.states_andThen, Staged.result_andThen, hresult, hfinal, Proc.resume_ok,
    Proc.bind_run]
  constructor
  · rw [Staged.states_andThen]
    obtain ⟨e | results, k''⟩ := (bulkConfirmAssignedOrders env actor rest k' w').result
    · exact congrArg _ (List.append_nil _)
    · exact congrArg _ (List.append_nil _)
  · intro results k'' h
    rw [Staged.result_andThen, h]
    rfl

/-- The list comes back entry by entry. A bulk confirmation commits what the confirmations
of the own entries commit, one after another, and reports how each ended; the other entries
are reported as failures. -/
theorem bulkConfirm_run (hactor : actor.isSuperuser = false) (entries : List (UUID × Instant))
    {k : RequestSession} {w : Oms} (hk : k.CanRead (some actor.id)) :
    let bulk := bulkConfirmAssignedOrders env actor entries k w
    let each := confirmEach env actor.id (ownEntries actor w entries) w
    bulk.states = each.states ∧ ∃ results k', bulk.result = (.ok results, k') ∧
      results.map (·.orderId) = entries.map (·.1) ∧
      (results.filter fun r => Owns actor w r.orderId).map (·.success) = each.result ∧
      ∀ r ∈ results, ¬ Owns actor w r.orderId → r.success = false := by
  induction entries generalizing k w with
  | nil => exact ⟨rfl, [], k, rfl, rfl, rfl, by simp⟩
  | cons entry rest ih =>
    obtain ⟨orderId, now⟩ := entry
    by_cases hown : Owns actor w orderId
    · -- a confirmation writes no assignment, so the rest are owned after it as before
      obtain ⟨hstates, hfinal, message, k', hresult, hk'⟩ :=
        confirmOne_of_owns env now hk hown
      obtain ⟨hbulk, hlist⟩ := bulkConfirm_cons rest hresult hfinal
      have hcalls := calls_confirmOrder env orderId actor.id now (.authenticated (some actor.id)) w
      obtain ⟨hrest, results, k'', hrun, hids, hoks, hforeign⟩ :=
        ih (w := (OrderService.confirmOrder env orderId actor.id now
          (.authenticated (some actor.id)) w).final w) hk'
      simp only [owns_congr hcalls, ownEntries_congr hcalls] at hrest hoks hforeign
      have hentries : ownEntries actor w ((orderId, now) :: rest) =
          (orderId, now) :: ownEntries actor w rest := List.filter_cons_of_pos (by simp [hown])
      refine ⟨?_, _, k'', hlist _ _ hrun, ?_, ?_, ?_⟩
      · rw [hbulk, hstates, hrest, hentries, confirmEach, Staged.states_andThen,
          Staged.states_mapResult]
      · rw [List.map_cons, List.map_cons, hids]
      · rw [List.filter_cons_of_pos (by simp [hown]), List.map_cons, hoks, hentries, confirmEach,
          Staged.result_andThen, Staged.result_mapResult]
      · intro r hr hother
        rcases List.mem_cons.mp hr with rfl | hr
        · exact absurd hown hother
        · exact hforeign r hr hother
    · -- another telecaller's entry commits nothing
      obtain ⟨message, hturn⟩ := confirmOne_of_not_owns env now hactor hk hown
      obtain ⟨hbulk, hlist⟩ := bulkConfirm_cons rest (congrArg Staged.result hturn)
        (congrArg (Staged.final w) hturn)
      obtain ⟨hrest, results, k'', hrun, hids, hoks, hforeign⟩ :=
        ih (w := w) (RequestSession.canRead_execute.mpr hk)
      have hentries : ownEntries actor w ((orderId, now) :: rest) = ownEntries actor w rest :=
        List.filter_cons_of_neg (by simp [hown])
      refine ⟨?_, _, k'', hlist _ _ hrun, ?_, ?_, ?_⟩
      · rw [hbulk, hturn, hentries, ← hrest]
        rfl
      · rw [List.map_cons, List.map_cons, hids]
      · rw [List.filter_cons_of_neg (by simp [hown]), hoks, hentries]
      · intro r hr hother
        rcases List.mem_cons.mp hr with rfl | hr
        · rfl
        · exact hforeign r hr hother

end Bulk

end TelecallingService

/-! ## Section 4: What the others keep -/

/-- The order, its items, its assignments and its call attempts are as they were. -/
structure Untouched (orderId : UUID) (w w' : Oms) : Prop where
  order_eq : w'.db.orders.getOrder orderId = w.db.orders.getOrder orderId
  stock_eq : w'.db.orders.stock = w.db.orders.stock
  calls_eq : w'.calls = w.calls

theorem Untouched.trans {orderId : UUID} {w₁ w₂ w₃ : Oms} (h : Untouched orderId w₁ w₂)
    (h' : Untouched orderId w₂ w₃) : Untouched orderId w₁ w₃ where
  order_eq := h'.order_eq.trans h.order_eq
  stock_eq := h'.stock_eq.trans h.stock_eq
  calls_eq := h'.calls_eq.trans h.calls_eq

/-- A confirmation touches its own order only. -/
theorem untouched_confirmOrder (env : External) {orderId orderId' : UUID} (actor : UUID)
    (now : Instant) (h : orderId ≠ orderId') :
    (OrderService.confirmOrder env orderId' actor now).Commits (Untouched orderId) := by
  refine OrderService.commits_confirmOrder (fun w orders hstatus => ?_) (fun w => ?_)
    (fun _ _ => ⟨rfl, rfl, rfl⟩) fun _ => ⟨rfl, rfl, rfl⟩
  · obtain ⟨o, -, -, rfl⟩ := transitionStatus_eq_ok hstatus
    exact ⟨OrdersDB.getOrder_updateOrder_of_ne _ h _, rfl, rfl⟩
  · exact ⟨OrdersDB.getOrder_updateOrder_of_ne _ h _, rfl, rfl⟩

theorem untouched_confirmEach (env : External) {orderId : UUID} (actor : UUID)
    {entries : List (UUID × Instant)} (h : ∀ entry ∈ entries, orderId ≠ entry.1) (w : Oms) :
    (confirmEach env actor entries w).Steps (Untouched orderId) w := by
  induction entries generalizing w with
  | nil => exact True.intro
  | cons entry rest ih =>
    obtain ⟨hentry, hrest⟩ := List.forall_mem_cons.mp h
    refine (untouched_confirmOrder env actor entry.2 hentry _ w).andThen fun w' r => ?_
    rw [Staged.steps_mapResult]
    exact ih hrest w'

/-- A telecaller who is no superuser cannot touch an order whose active assignment is not
their own. A call on it raises and commits nothing. A bulk confirmation reports it as a
failure and leaves it untouched; it commits exactly what confirming the own orders of the
list, one after another, commits, and reports how each of those ended. -/
theorem telecaller_isolation [PyText] (env : External) {actor : User}
    (hactor : actor.isSuperuser = false) (w : Oms) :
    (∀ (call : TelecallerCall) (k : RequestSession), ¬ Owns actor w call.orderId →
      ∃ e k', call.proc env actor k w = .done (.error e, k')) ∧
    ∀ (entries : List (UUID × Instant)) (k : RequestSession), k.CanRead (some actor.id) →
      let bulk := TelecallingService.bulkConfirmAssignedOrders env actor entries k w
      let each := confirmEach env actor.id (ownEntries actor w entries) w
      bulk.states = each.states ∧
      (∃ results k', bulk.result = (.ok results, k') ∧
        results.map (·.orderId) = entries.map (·.1) ∧
        (results.filter fun r => Owns actor w r.orderId).map (·.success) = each.result ∧
        ∀ r ∈ results, ¬ Owns actor w r.orderId → r.success = false) ∧
      ∀ orderId, ¬ Owns actor w orderId → ∀ w' ∈ bulk.states, Untouched orderId w w' := by
  refine ⟨fun call k => call.proc_refused env hactor k, fun entries k hk => ?_⟩
  obtain ⟨hstates, hresult⟩ := TelecallingService.bulkConfirm_run hactor entries hk
  refine ⟨hstates, hresult, fun orderId hother w' hw' => ?_⟩
  rw [hstates] at hw'
  have hforeign : ∀ entry ∈ ownEntries actor w entries, orderId ≠ entry.1 := by
    rintro entry hentry rfl
    exact hother (of_decide_eq_true (List.mem_filter.mp hentry).2)
  exact Staged.Steps.of_mem_states (R := Untouched orderId) Untouched.trans
    (untouched_confirmEach env actor.id hforeign w) hw'

/-- Two pending orders, one assigned to each telecaller. -/
def twoOrders : Oms where
  db := {
    orders := { orders := Table.ofList [
      { id := 7, orderNumber := "#1007" }, { id := 8, orderNumber := "#1008" }] (by decide) } }
  calls := {
    users := [asha, ravi]
    assignments := Table.ofList [
      { id := 100, orderId := 7, assignedTo := 1, assignedAt := 0 },
      { id := 101, orderId := 8, assignedTo := 2, assignedAt := 0 }] (by decide) }

example : (TelecallingService.bulkConfirmAssignedOrders {} asha [(8, 20), (7, 20)]
    (.authenticated (some 1)) twoOrders).result.1.toOption =
      some [⟨8, false, some "This order is not assigned to you."⟩, ⟨7, true, none⟩] := by
  decide +kernel

/-- Confirming both orders in bulk, the first telecaller leaves the other's order alone. -/
theorem telecaller_isolation_twoOrders :
    ¬ Owns asha twoOrders 8 ∧
    ∀ w' ∈ (TelecallingService.bulkConfirmAssignedOrders {} asha [(8, 20), (7, 20)]
      (.authenticated (some 1)) twoOrders).states, Untouched 8 twoOrders w' :=
  ⟨by decide, ((telecaller_isolation {} rfl twoOrders).2 [(8, 20), (7, 20)]
    (.authenticated (some 1)) (by decide)).2.2 8 (by decide)⟩

end AyushOms.Telecalling
