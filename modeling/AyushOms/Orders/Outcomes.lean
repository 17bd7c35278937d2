import AyushOms.Orders.Service
import AyushOms.Shopify.Outcomes

/-!
# The Paths of a Confirmation

`transition_status` and `confirm_order` step by step: what they commit before they turn to
Shopify, the session they turn to it with, and how they end.

## Main results

- `confirmOwnPart_run_ok`: the two commits of a confirmation
- `confirmOrder_outcome`: the outcome does not depend on what the session has loaded
- `confirmOrder_raises`: what a confirmation can end with in the middle of a transaction
-/

namespace AyushOms.Orders

open AyushOms.Lib AyushOms.Shopify

/-- A transition that goes through wrote the order's status and its event. -/
theorem transitionStatus_eq_ok {db db' : OrdersDB} {orderId : UUID} {newStatus : OrderStatus}
    (h : db.transitionStatus orderId newStatus = .ok db') :
    ∃ o, db.getOrder orderId = some o ∧ newStatus ∈ orderStatusTransitions o.status ∧
      db' = (db.updateOrder orderId (OrdersDB.setStatus newStatus)).addOrderEvent
        ⟨orderId, "status_changed", some newStatus.value, "system"⟩ := by
  unfold OrdersDB.transitionStatus at h
  split at h
  · cases h
  · rename_i o hfind
    split at h
    · rename_i hedge
      cases h
      exact ⟨o, hfind, hedge, rfl⟩
    · cases h

namespace OrderService

/-! ## Section 1: What the commits do -/

/-- `confirm_order` up to its own commits. -/
def confirmOwnPart (orderId actor : UUID) (now : Instant) : OmsProc PUnit := do
  let _ ← transitionStatus orderId .confirmed (some actor)
  ordersTransaction (some actor) fun db =>
    .ok (db.updateOrder orderId (OrdersDB.setAttribution actor now))

/-- The rest of `confirm_order`. -/
def afterConfirm (env : External) (orderId actor : UUID) : OmsProc Order := do
  syncConfirmationTag env.shopify orderId (some actor)
  getOrder orderId

theorem confirmOrder_eq (env : External) (orderId actor : UUID) (now : Instant) :
    confirmOrder env orderId actor now = (do
      confirmOwnPart orderId actor now
      afterConfirm env orderId actor) :=
  (Proc.bind_assoc _ _ _).symm

section Rules

variable {R : Oms → Oms → Prop}

theorem commits_ordersTransaction {actor : Option UUID}
    {write : OrdersDB → Except OMSError OrdersDB}
    (h : ∀ w orders, write w.db.orders = .ok orders → R w (w.setOrders orders)) :
    (ordersTransaction actor write).Commits R := by
  refine commits_transaction fun w a w' hwrite => ?_
  split at hwrite
  · cases hwrite
  · rename_i orders hok
    cases hwrite
    exact h w orders hok

theorem commits_transitionStatus {orderId : UUID} {newStatus : OrderStatus}
    {actor : Option UUID}
    (h : ∀ (w : Oms) (orders : OrdersDB),
      w.db.orders.transitionStatus orderId newStatus = .ok orders → R w (w.setOrders orders)) :
    (transitionStatus orderId newStatus actor).Commits R :=
  (commits_getOrder orderId).bind fun _ =>
    (commits_ordersTransaction h).bind fun _ => commits_getOrder orderId

/-- A confirmation writes the status and the stamp. -/
theorem commits_confirmOwnPart {orderId actor : UUID} {now : Instant}
    (hstatus : ∀ (w : Oms) (orders : OrdersDB),
      w.db.orders.transitionStatus orderId .confirmed = .ok orders → R w (w.setOrders orders))
    (hstamp : ∀ w : Oms, R w
      (w.setOrders (w.db.orders.updateOrder orderId (OrdersDB.setAttribution actor now)))) :
    (confirmOwnPart orderId actor now).Commits R := by
  refine (commits_transitionStatus hstatus).bind fun _ =>
    commits_ordersTransaction fun w orders hok => ?_
  cases hok
  exact hstamp w

/-- After that it sends its tags. -/
theorem commits_afterConfirm {env : External} {orderId actor : UUID}
    (hsent : ∀ w r, R w (w.withSent r)) (hrefl : ∀ w, R w w) :
    (afterConfirm env orderId actor).Commits R :=
  (commits_pushConfirmationTags hsent hrefl _ _ _ _).bind fun _ => commits_getOrder orderId

theorem commits_confirmOrder {env : External} {orderId actor : UUID} {now : Instant}
    (hstatus : ∀ (w : Oms) (orders : OrdersDB),
      w.db.orders.transitionStatus orderId .confirmed = .ok orders → R w (w.setOrders orders))
    (hstamp : ∀ w : Oms, R w
      (w.setOrders (w.db.orders.updateOrder orderId (OrdersDB.setAttribution actor now))))
    (hsent : ∀ w r, R w (w.withSent r)) (hrefl : ∀ w, R w w) :
    (confirmOrder env orderId actor now).Commits R := by
  rw [confirmOrder_eq]
  exact (commits_confirmOwnPart hstatus hstamp).bind fun _ => commits_afterConfirm hsent hrefl

theorem keeps_transitionStatus (orderId : UUID) (newStatus : OrderStatus)
    (user actor : Option UUID) :
    (transitionStatus orderId newStatus user).Keeps fun k => k.CanRead actor :=
  (keeps_getOrder _).bind fun _ => keeps_transaction.bind fun _ => keeps_getOrder _

theorem keeps_confirmOrder (env : External) (orderId user : UUID) (now : Instant)
    (actor : Option UUID) :
    (confirmOrder env orderId user now).Keeps fun k => k.CanRead actor :=
  (keeps_transitionStatus _ _ _ _).bind fun _ => keeps_transaction.bind fun _ =>
    (keeps_pushConfirmationTags _ _ _ _).bind fun _ => keeps_getOrder _

end Rules

/-! ## Section 2: The transition -/

section Runs

variable {orderId : UUID} {newStatus : OrderStatus} {actor : Option UUID} {k : RequestSession}
  {w : Oms} {orders : OrdersDB}

theorem getOrder_run_some {o : Order} (h : w.db.orders.getOrder orderId = some o) :
    getOrder orderId k w = .done (.ok o, k.load (.order orderId)) := selectRow_run_some h

theorem getOrder_run_none (h : w.db.orders.getOrder orderId = none) :
    getOrder orderId k w = .done (.error (.oms (.notFound "Order not found.")), k.execute) :=
  selectRow_run_none h

/-- Reading the order commits nothing. -/
theorem getOrder_run (orderId : UUID) (k : RequestSession) (w : Oms) :
    ∃ r, getOrder orderId k w = .done r := by
  cases h : w.db.orders.getOrder orderId with
  | none => exact ⟨_, getOrder_run_none h⟩
  | some o => exact ⟨_, getOrder_run_some h⟩

/-- The order is found again. -/
theorem getOrder_of_transitionStatus {db db' : OrdersDB}
    (h : db.transitionStatus orderId newStatus = .ok db') :
    ∃ o, db.getOrder orderId = some o ∧
      db'.getOrder orderId = some (OrdersDB.setStatus newStatus o) := by
  obtain ⟨o, hfind, -, rfl⟩ := transitionStatus_eq_ok h
  exact ⟨o, hfind, OrdersDB.getOrder_updateOrder hfind _⟩

/-- The errors of a transition. -/
theorem transitionStatus_raises {e : OMSError}
    (h : w.db.orders.transitionStatus orderId newStatus = .error e) :
    ∃ message, PyException.oms e = .oms (.notFound message) ∨
      PyException.oms e = .oms (.conflict message) := by
  unfold OrdersDB.transitionStatus at h
  split at h
  · cases h
    exact ⟨_, .inl rfl⟩
  · split at h
    · cases h
    · cases h
      exact ⟨_, .inr rfl⟩

/-- A refused transition commits nothing and raises the reason. -/
theorem transitionStatus_run_error (actor : Option UUID) (k : RequestSession) {e : OMSError}
    (h : w.db.orders.transitionStatus orderId newStatus = .error e) :
    ∃ k', transitionStatus orderId newStatus actor k w = .done (.error (.oms e), k') := by
  unfold transitionStatus
  rw [Proc.bind_run]
  cases hfind : w.db.orders.getOrder orderId with
  | none =>
    rw [OrdersDB.transitionStatus, hfind] at h
    cases h
    rw [getOrder_run_none hfind]
    exact ⟨_, rfl⟩
  | some o =>
    rw [getOrder_run_some hfind, Staged.andThen_done, Proc.resume_ok, Proc.bind_run,
      ordersTransaction, transaction_run_error (by rw [h])]
    exact ⟨_, rfl⟩

/-- A transition that goes through commits once. -/
theorem transitionStatus_run_ok (hk : k.CanRead actor)
    (h : w.db.orders.transitionStatus orderId newStatus = .ok orders) :
    ∃ o, transitionStatus orderId newStatus actor k w = .commit (w.setOrders orders)
      (.done (.ok o, (k.load (.order orderId)).commit.load (.order orderId))) := by
  obtain ⟨o, hfind, hread⟩ := getOrder_of_transitionStatus h
  unfold transitionStatus
  rw [Proc.bind_run, getOrder_run_some hfind, Staged.andThen_done, Proc.resume_ok, Proc.bind_run,
    ordersTransaction, transaction_run_ok (RequestSession.canRead_load hk _) (by rw [h]),
    Staged.andThen_commit, Staged.andThen_done, Proc.resume_ok,
    getOrder_run_some (w := w.setOrders orders) hread]
  exact ⟨_, rfl⟩

end Runs

/-! ## Section 3: The confirmation -/

section Confirm

variable {env : External} {orderId actor : UUID} {now : Instant} {k : RequestSession} {w : Oms}
  {orders : OrdersDB}

/-- The session in which `confirm_order` turns to Shopify: its commits are done, the order is
loaded and no transaction is in progress. -/
def confirmedSession (orderId : UUID) (k : RequestSession) : RequestSession :=
  ((k.load (.order orderId)).commit.load (.order orderId)).commit

/-- The store in which `confirm_order` turns to Shopify; `orders` are the orders with the new
status. -/
def confirmedStore (w : Oms) (orders : OrdersDB) (orderId actor : UUID) (now : Instant) : Oms :=
  w.setOrders (orders.updateOrder orderId (OrdersDB.setAttribution actor now))

theorem confirmOwnPart_run_error (actor : UUID) (now : Instant) (k : RequestSession) {e : OMSError}
    (h : w.db.orders.transitionStatus orderId .confirmed = .error e) :
    ∃ k', confirmOwnPart orderId actor now k w = .done (.error (.oms e), k') := by
  obtain ⟨k', hrun⟩ := transitionStatus_run_error (some actor) k h
  unfold confirmOwnPart
  rw [Proc.bind_run, hrun]
  exact ⟨k', rfl⟩

/-- It commits the status and then the stamp. -/
theorem confirmOwnPart_run_ok (hk : k.CanRead (some actor))
    (h : w.db.orders.transitionStatus orderId .confirmed = .ok orders) :
    confirmOwnPart orderId actor now k w = .commit (w.setOrders orders)
      (.commit (confirmedStore w orders orderId actor now)
        (.done (.ok PUnit.unit, confirmedSession orderId k))) := by
  obtain ⟨o, hrun⟩ := transitionStatus_run_ok hk h
  have hread : ((k.load (.order orderId)).commit.load (.order orderId)).CanRead (some actor) :=
    RequestSession.canRead_load (RequestSession.canRead_commit.mpr
      (RequestSession.canRead_load hk _)) _
  unfold confirmOwnPart
  rw [Proc.bind_run, hrun, Staged.andThen_commit, Staged.andThen_done, Proc.resume_ok,
    ordersTransaction, transaction_run_ok hread rfl]
  rfl

theorem confirmOrder_run_error (env : External) (actor : UUID) (now : Instant)
    (k : RequestSession) {e : OMSError}
    (h : w.db.orders.transitionStatus orderId .confirmed = .error e) :
    ∃ k', confirmOrder env orderId actor now k w = .done (.error (.oms e), k') := by
  obtain ⟨k', hrun⟩ := confirmOwnPart_run_error actor now k h
  rw [confirmOrder_eq, Proc.bind_run, hrun]
  exact ⟨k', rfl⟩

theorem confirmOrder_run_ok (hk : k.CanRead (some actor))
    (h : w.db.orders.transitionStatus orderId .confirmed = .ok orders) :
    confirmOrder env orderId actor now k w = .commit (w.setOrders orders)
      (.commit (confirmedStore w orders orderId actor now)
        (afterConfirm env orderId actor (confirmedSession orderId k)
          (confirmedStore w orders orderId actor now))) := by
  rw [confirmOrder_eq, Proc.bind_run, confirmOwnPart_run_ok hk h]
  rfl

theorem canRead_confirmedSession (hk : k.CanRead (some actor)) :
    (confirmedSession orderId k).CanRead (some actor) :=
  RequestSession.canRead_commit.mpr (RequestSession.canRead_load
    (RequestSession.canRead_commit.mpr (RequestSession.canRead_load hk _)) _)

/-- Whatever the session has loaded beside the acting user, `confirm_order` sends, commits and
returns the same. -/
theorem afterConfirm_outcome {k' : RequestSession} (hk : k.CanRead (some actor))
    (hk' : k'.CanRead (some actor)) :
    (afterConfirm env orderId actor k w).mapResult Prod.fst =
      (afterConfirm env orderId actor k' w).mapResult Prod.fst := by
  have hread : ∀ (w : Oms) (k k' : RequestSession), (getOrder orderId k w).mapResult Prod.fst =
      (getOrder orderId k' w).mapResult Prod.fst := fun w k k' => by
    cases hfind : w.db.orders.getOrder orderId with
    | none => rw [getOrder_run_none hfind, getOrder_run_none hfind]; rfl
    | some o => rw [getOrder_run_some hfind, getOrder_run_some hfind]; rfl
  unfold afterConfirm syncConfirmationTag
  rw [Proc.bind_run, Proc.bind_run]
  cases horder : shopifyOrder (w.db.orders.getOrder orderId) with
  | none =>
    rw [pushConfirmationTags_run_none horder, pushConfirmationTags_run_none horder]
    exact hread _ _ _
  | some o =>
    obtain ⟨o, gid⟩ := o
    cases env.shopify with
    | none =>
      rw [pushConfirmationTags_run_unregistered horder,
        pushConfirmationTags_run_unregistered horder]
      rfl
    | some adapter =>
      rw [pushConfirmationTags_run_registered hk horder,
        pushConfirmationTags_run_registered hk' horder]
      dsimp only
      rw [Staged.andThen_commit, Staged.andThen_commit, Staged.mapResult_commit,
        Staged.mapResult_commit]
      split
      · exact congrArg (Staged.commit _) (congrArg (Staged.commit _) (hread _ _ _))
      · exact congrArg (Staged.commit _) (hread _ _ _)

theorem confirmOrder_outcome {k' : RequestSession} (hk : k.CanRead (some actor))
    (hk' : k'.CanRead (some actor)) :
    (confirmOrder env orderId actor now k w).mapResult Prod.fst =
      (confirmOrder env orderId actor now k' w).mapResult Prod.fst := by
  cases h : w.db.orders.transitionStatus orderId .confirmed with
  | error e =>
    obtain ⟨_, hrun⟩ := confirmOrder_run_error env actor now k h
    obtain ⟨_, hrun'⟩ := confirmOrder_run_error env actor now k' h
    rw [hrun, hrun']
    rfl
  | ok orders =>
    rw [confirmOrder_run_ok hk h, confirmOrder_run_ok hk' h]
    simp only [Staged.mapResult_commit]
    rw [afterConfirm_outcome (canRead_confirmedSession hk) (canRead_confirmedSession hk')]

/-- The order is found again after the confirmation, with the stamp. -/
theorem getOrder_confirmedStore (actor : UUID) (now : Instant)
    (h : w.db.orders.transitionStatus orderId .confirmed = .ok orders) :
    ∃ o, (confirmedStore w orders orderId actor now).db.orders.getOrder orderId = some o ∧
      o.confirmedByTelecallerId = some actor := by
  obtain ⟨o, -, hread⟩ := getOrder_of_transitionStatus h
  exact ⟨_, OrdersDB.getOrder_updateOrder hread _, rfl⟩

/-- With the order and the telecaller loaded, nothing but a missing adapter makes
`confirm_order` fail after its commits, and then the session is as it was. -/
theorem afterConfirm_cases (env : External) (hk : k.CanRead (some actor)) {o : Order}
    (hfind : w.db.orders.getOrder orderId = some o) (horder : .order orderId ∈ k.loaded)
    (huser : o.confirmedByTelecallerId = some actor) :
    ((env.shopify = none ∧ shopifyOrder (some o) ≠ none) ∧ ∃ message,
      afterConfirm env orderId actor k w = .done (.error (.oms (.integration message)), k)) ∨
    (¬ (env.shopify = none ∧ shopifyOrder (some o) ≠ none) ∧ ∃ k',
      (afterConfirm env orderId actor k w).result = (.ok o, k')) := by
  unfold afterConfirm syncConfirmationTag
  rw [Proc.bind_run]
  cases hshopify : shopifyOrder (some o) with
  | none =>
    rw [pushConfirmationTags_run_none (by rw [hfind, hshopify]), Staged.andThen_done,
      Proc.resume_ok, getOrder_run_some hfind]
    exact .inr ⟨fun h => h.2 rfl, _, rfl⟩
  | some order =>
    obtain ⟨order, gid⟩ := order
    obtain ⟨heq, -⟩ := exists_of_shopifyOrder hshopify
    obtain rfl : o = order := Option.some.inj heq
    have hloaded : ∀ id ∈ o.confirmedByTelecallerId, Entity.user id ∈ k.loaded := fun id hid =>
      hk id (huser ▸ hid)
    cases hregistry : env.shopify with
    | none =>
      rw [pushConfirmationTags_run_unregistered (by rw [hfind, hshopify]),
        tagSession_of_loaded horder hloaded]
      exact .inl ⟨⟨rfl, Option.some_ne_none _⟩, _, rfl⟩
    | some adapter =>
      rw [pushConfirmationTags_run_registered hk (by rw [hfind, hshopify])]
      refine .inr ⟨fun h => Option.some_ne_none _ h.1, ?_⟩
      dsimp only
      rw [Staged.andThen_commit, Staged.result_commit]
      split
      · rw [Staged.andThen_commit, Staged.result_commit, Staged.andThen_done, Proc.resume_ok,
          getOrder_run_some (w := w.withSent _) hfind]
        exact ⟨_, rfl⟩
      · rw [Staged.andThen_done, Proc.resume_ok, getOrder_run_some (w := w.withSent _) hfind]
        exact ⟨_, rfl⟩

/-- A confirmation that fails raises a domain error of the transition, or leaves no
transaction in progress. -/
theorem confirmOrder_raises (hk : k.CanRead (some actor)) {e : PyException} {k' : RequestSession}
    (h : (confirmOrder env orderId actor now k w).result = (.error e, k')) :
    (∃ message, e = .oms (.notFound message) ∨ e = .oms (.conflict message)) ∨
      k'.inTransaction = false := by
  cases hstatus : w.db.orders.transitionStatus orderId .confirmed with
  | error e' =>
    obtain ⟨k'', hrun⟩ := confirmOrder_run_error env actor now k hstatus
    rw [hrun] at h
    cases h
    exact .inl (transitionStatus_raises hstatus)
  | ok orders =>
    obtain ⟨o, hfind, huser⟩ := getOrder_confirmedStore actor now hstatus
    rw [confirmOrder_run_ok hk hstatus] at h
    rcases afterConfirm_cases env (canRead_confirmedSession hk) hfind List.mem_cons_self huser
      with ⟨-, message, hrun⟩ | ⟨-, k'', hrun⟩
    · rw [Staged.result_commit, Staged.result_commit, hrun] at h
      cases h
      exact .inr rfl
    · rw [Staged.result_commit, Staged.result_commit, hrun] at h
      cases h

end Confirm

end OrderService

end AyushOms.Orders
