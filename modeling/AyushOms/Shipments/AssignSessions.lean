import AyushOms.Shipments.ProcessExisting

/-!
# AWB Assignment in Two Sessions

What `assign_awb` makes of two sessions that differ in what they have loaded: one in which orders
were processed before, and one that is fresh. Where the first has loaded more, it saves a `SELECT`
and may find itself outside a transaction where the second is in one. The two part only in a
rollback, and the rollback costs the second session the row of the order.

## Main results

- `respectsUnless_assignAttempt`: the same outcome, unless the order is lost
- `awbOwnPart_expired`: what an expired acting user changes
-/

namespace AyushOms.Shipments

open AyushOms.Lib AyushOms.Lib.Proc AyushOms.Orders AyushOms.Tracking AyushOms.Shopify

/-! ## Section 1: The session that has loaded more -/

/-- `k` has loaded what `k'` has, the order among it, and is in a transaction only where `k'` is;
both can read the acting user, or both cannot. -/
structure Wider (orderId : UUID) (actor : Option UUID) (held : Prop) (k k' : RequestSession) :
    Prop where
  order_loaded : .order orderId ∈ k'.loaded
  loaded_sub : ∀ e ∈ k'.loaded, e ∈ k.loaded
  inTransaction : k.inTransaction = true → k'.inTransaction = true
  reads : k.CanRead actor ↔ held
  reads' : k'.CanRead actor ↔ held

/-- The row of the order is not loaded. -/
def OrderLost (orderId : UUID) (k : RequestSession) : Prop := .order orderId ∉ k.loaded

section Wider

variable {orderId : UUID} {actor : Option UUID} {held : Prop} {k k' : RequestSession} {α : Type}

namespace Wider

theorem execute (h : Wider orderId actor held k k') :
    Wider orderId actor held k.execute k'.execute :=
  ⟨h.order_loaded, h.loaded_sub, fun _ => rfl, h.reads, h.reads'⟩

theorem commit (h : Wider orderId actor held k k') :
    Wider orderId actor held k.commit k'.commit :=
  ⟨h.order_loaded, h.loaded_sub, id, h.reads, h.reads'⟩

theorem load (h : Wider orderId actor held k k') {e : Entity} (he : ∀ id, e ≠ .user id) :
    Wider orderId actor held (k.load e) (k'.load e) where
  order_loaded := List.mem_cons_of_mem _ h.order_loaded
  loaded_sub := List.cons_subset_cons e h.loaded_sub
  inTransaction _ := rfl
  reads := (RequestSession.canRead_load_iff he).trans h.reads
  reads' := (RequestSession.canRead_load_iff he).trans h.reads'

/-- Only the second session selects a row that the first has loaded. -/
theorem get (h : Wider orderId actor held k k') {e : Entity} (he : ∀ id, e ≠ .user id)
    (found : Bool) : Wider orderId actor held (k.get e found) (k'.get e found) where
  order_loaded := RequestSession.mem_loaded_get h.order_loaded found
  loaded_sub e' he' := by
    unfold RequestSession.get at he'
    split at he'
    · exact RequestSession.mem_loaded_get (h.loaded_sub e' he') found
    · split at he'
      · rename_i hfound
        rcases List.mem_cons.mp he' with rfl | he'
        · rw [hfound]
          exact RequestSession.mem_loaded_get_self
        · exact RequestSession.mem_loaded_get (h.loaded_sub e' he') found
      · exact RequestSession.mem_loaded_get (h.loaded_sub e' he') found
  inTransaction := by
    rw [RequestSession.inTransaction_get, RequestSession.inTransaction_get]
    have hsub := h.loaded_sub e
    have htx := h.inTransaction
    simp only [Bool.or_eq_true, Bool.not_eq_true', decide_eq_false_iff_not]
    exact Or.imp htx fun hk hk' => hk (hsub hk')
  reads := (RequestSession.canRead_get_iff he found).trans h.reads
  reads' := (RequestSession.canRead_get_iff he found).trans h.reads'

theorem session (h : Wider orderId actor held k k') (f : Fault) (n : ℕ) :
    Wider orderId actor held (f.session n k) (f.session n k') where
  order_loaded := h.order_loaded
  loaded_sub := h.loaded_sub
  inTransaction := by
    have htx := h.inTransaction
    simp only [Fault.session, Bool.or_eq_true, Bool.and_eq_true]
    exact Or.imp_right (And.imp_right htx)
  reads := h.reads
  reads' := h.reads'

end Wider

end Wider

/-! ## Section 2: Up to the audit record -/

/-- `assign_awb` up to the transaction that writes the shipment: the AWB and the courier. -/
def awbBegin (shiprocket : AwbAdapter) (shipmentId : UUID) :
    OmsProc (Option String × Option UUID) := do
  let shipment ← loadShipment shipmentId (.oms (.notFound "Shipment not found."))
  match pyOr shipment.shiprocketShipmentId none with
  | none => throw (.oms (.conflict
      "Shipment has no Shiprocket shipment id — create it via Shiprocket first."))
  | some shiprocketShipmentId =>
    match shiprocket with
    | none => throw (.oms (.integration "No adapter registered for integration 'shiprocket'."))
    | some assign =>
      match assign shiprocketShipmentId none with
      | .error e => throw e
      | .ok answer => do
        let courier ← awbCourier answer none
        return (pyOr answer.awbCode none, courier)

/-- The transaction that writes the shipment. -/
def awbWrite (shipmentId : UUID) (actor : Option UUID) (found : Option String × Option UUID) :
    OmsProc (Shipment × Bool) := do
  let shipment ← transaction actor fun w => w.updateShipment shipmentId (writeAwb found.1 found.2)
  return (shipment, found.1.isSome)

theorem awbOwnPart_eq (shiprocket : AwbAdapter) (shipmentId : UUID) (actor : Option UUID) :
    awbOwnPart shiprocket shipmentId none actor =
      awbBegin shiprocket shipmentId >>= awbWrite shipmentId actor := by
  unfold awbOwnPart awbBegin
  rw [Proc.bind_assoc]
  refine congrArg _ (funext fun s => ?_)
  cases pyOr s.shiprocketShipmentId none with
  | none => rfl
  | some shiprocketShipmentId =>
    cases shiprocket with
    | none => rfl
    | some assign =>
      dsimp only
      cases assign shiprocketShipmentId none with
      | error e => rfl
      | ok answer =>
        dsimp only
        rw [Proc.bind_assoc]
        rfl

/-- A relation of sessions that the statements up to there keep. -/
structure Tolerant (shipmentId : UUID) (R : RequestSession → RequestSession → Prop) : Prop where
  execute : ∀ k k', R k k' → R k.execute k'.execute
  commit : ∀ k k', R k k' → R k.commit k'.commit
  load : ∀ k k' id, R k k' → R (k.load (.courier id)) (k'.load (.courier id))
  get : ∀ k k' found, R k k' →
    R (k.get (.shipment shipmentId) found) (k'.get (.shipment shipmentId) found)

section Respects

variable {R : RequestSession → RequestSession → Prop} {α : Type}

theorem respects_withSession {f : RequestSession → RequestSession}
    (hf : ∀ k k', R k k' → R (f k) (f k')) : (withSession f).Respects R :=
  .memory (fun _ _ _ => rfl) hf

theorem respects_getById {e : Entity} (find : Oms → Option α)
    (he : ∀ k k' found, R k k' → R (k.get e found) (k'.get e found)) :
    (getById e find).Respects R :=
  Respects.store.bind fun _ => (respects_withSession fun k k' => he k k' _).bind fun _ => .pure _

theorem respects_loadShipment {shipmentId : UUID} (missing : PyException)
    (hget : ∀ k k' found, R k k' →
      R (k.get (.shipment shipmentId) found) (k'.get (.shipment shipmentId) found)) :
    (loadShipment shipmentId missing).Respects R := by
  refine (respects_getById _ hget).bind fun s => ?_
  split
  · exact .throw _
  · exact .pure _

theorem transaction_run_expired {user : Option UUID}
    {write : Oms → Except PyException (α × Oms)} {a : α} {k : RequestSession} {w w' : Oms}
    (hk : ¬ k.CanRead user) (h : write w = .ok (a, w')) :
    transaction user write k w = .done (.error .missingGreenlet, k.execute) := by
  simp only [transaction, h, if_neg hk]

theorem respects_transaction {user : Option UUID}
    (hread : ∀ k k', R k k' → (k.CanRead user ↔ k'.CanRead user))
    (hexecute : ∀ k k', R k k' → R k.execute k'.execute)
    (hcommit : ∀ k k', R k k' → R k.commit k'.commit)
    (write : Oms → Except PyException (α × Oms)) : (transaction user write).Respects R := by
  intro k k' w h
  cases hwrite : write w with
  | error e =>
    rw [transaction_run_error hwrite, transaction_run_error hwrite]
    exact ⟨rfl, hexecute k k' h⟩
  | ok written =>
    by_cases hk : k.CanRead user
    · rw [transaction_run_ok hk hwrite, transaction_run_ok ((hread k k' h).mp hk) hwrite]
      exact ⟨rfl, hcommit k k' h⟩
    · rw [transaction_run_expired hk hwrite,
        transaction_run_expired (fun h' => hk ((hread k k' h).mpr h')) hwrite]
      exact ⟨rfl, hexecute k k' h⟩

theorem respects_awbBegin {shipmentId : UUID} (hR : Tolerant shipmentId R)
    (shiprocket : AwbAdapter) : (awbBegin shiprocket shipmentId).Respects R := by
  refine (respects_loadShipment _ hR.get).bind fun s => ?_
  split
  · exact .throw _
  · split
    · exact .throw _
    · split
      · exact .throw _
      · refine Respects.bind ?_ fun _ => .pure _
        unfold awbCourier
        split
        · refine Respects.bind ?_ fun _ => .pure _
          exact Respects.store.bind fun _ =>
            (respects_withSession fun k k' => hR.load k k' _).bind fun _ =>
              respects_transaction (fun _ _ _ => by simp) hR.execute hR.commit _
        · exact .pure _

end Respects

/-! ## Section 3: An acting user that is expired -/

section Expired

variable {shiprocket : AwbAdapter} {shipmentId : UUID} {actor : Option UUID}
  {R : RequestSession → RequestSession → Prop} {k k' : RequestSession} {w : Oms}

theorem awbWrite_run_error {found : Option String × Option UUID} {e : PyException}
    (h : w.updateShipment shipmentId (writeAwb found.1 found.2) = .error e) :
    awbWrite shipmentId actor found k w = .done (.error e, k.execute) := by
  rw [awbWrite, Proc.bind_run, transaction_run_error h]
  rfl

theorem awbWrite_run_expired {found : Option String × Option UUID} {written : Shipment × Oms}
    (hk : ¬ k.CanRead actor)
    (h : w.updateShipment shipmentId (writeAwb found.1 found.2) = .ok written) :
    awbWrite shipmentId actor found k w = .done (.error .missingGreenlet, k.execute) := by
  rw [awbWrite, Proc.bind_run, transaction_run_expired hk h]
  rfl

theorem awbWrite_run_ok {found : Option String × Option UUID} {s : Shipment} {w' : Oms}
    (hk : k.CanRead actor)
    (h : w.updateShipment shipmentId (writeAwb found.1 found.2) = .ok (s, w')) :
    awbWrite shipmentId actor found k w =
      .commit w' (.done (.ok (s, found.1.isSome), k.commit)) := by
  rw [awbWrite, Proc.bind_run, transaction_run_ok hk h]
  rfl

/-- With the acting user expired in the first session: what raises in the second raises in both,
and where the second gets past the audit record, the record raises in the first, in a
transaction. -/
theorem awbOwnPart_expired (shiprocket : AwbAdapter) (w : Oms) (hR : Tolerant shipmentId R)
    (hexpired : ∀ k k', R k k' → ¬ k.CanRead actor) (h : R k k') :
    (∃ e, (awbOwnPart shiprocket shipmentId none actor k' w).result.1 = .error e ∧
      SameOutcome (awbOwnPart shiprocket shipmentId none actor k w)
        (awbOwnPart shiprocket shipmentId none actor k' w) ∧
      R (awbOwnPart shiprocket shipmentId none actor k w).result.2
        (awbOwnPart shiprocket shipmentId none actor k' w).result.2) ∨
    ∃ written w', (awbOwnPart shiprocket shipmentId none actor k' w).result.1 = .ok written ∧
      (awbOwnPart shiprocket shipmentId none actor k' w).states =
        (awbOwnPart shiprocket shipmentId none actor k w).states ++ [w'] ∧
      (awbOwnPart shiprocket shipmentId none actor k w).result.1 = .error .missingGreenlet ∧
      (awbOwnPart shiprocket shipmentId none actor k w).result.2.inTransaction = true := by
  have hbegin := respects_awbBegin hR shiprocket
  have hsame := hbegin.sameOutcome h w
  have hagree := (hbegin k k' w h).2
  rw [awbOwnPart_eq]
  simp only [Proc.bind_run, Staged.states_andThen, Staged.result_andThen]
  have hiff := hsame.thenElse_iff (f := awbWrite shipmentId actor) (g := raise)
  unfold Proc.thenElse at hiff
  rw [hiff, hsame.states_eq, hsame.final_eq]
  obtain ⟨-, hresult⟩ := hsame
  revert hresult hagree
  generalize (awbBegin shiprocket shipmentId k w).result = r
  generalize (awbBegin shiprocket shipmentId k' w).result = r'
  generalize (awbBegin shiprocket shipmentId k' w).final w = w₁
  obtain ⟨a, l⟩ := r
  obtain ⟨a', l'⟩ := r'
  rintro hagree rfl
  cases a with
  | error e => exact .inl ⟨e, rfl, ⟨rfl, rfl⟩, hagree⟩
  | ok found =>
    simp only [resume_ok]
    cases hwrite : w₁.updateShipment shipmentId (writeAwb found.1 found.2) with
    | error e =>
      rw [awbWrite_run_error hwrite, awbWrite_run_error hwrite]
      exact .inl ⟨e, rfl, ⟨rfl, rfl⟩, hR.execute _ _ hagree⟩
    | ok written =>
      rw [awbWrite_run_expired (hexpired _ _ hagree) hwrite]
      by_cases hread : l'.CanRead actor
      · rw [awbWrite_run_ok hread hwrite]
        refine .inr ⟨_, written.2, rfl, ?_, rfl, rfl⟩
        simp [Staged.states]
      · rw [awbWrite_run_expired hread hwrite]
        exact .inl ⟨_, rfl, ⟨rfl, rfl⟩, hR.execute _ _ hagree⟩

end Expired

/-! ## Section 4: The push -/

section Push

variable {orderId shipmentId : UUID} {actor : Option UUID} {held : Prop}

theorem tolerant_wider : Tolerant shipmentId (Wider orderId actor held) where
  execute _ _ h := h.execute
  commit _ _ h := h.commit
  load _ _ _ h := h.load (by simp)
  get _ _ found h := h.get (by simp) found

theorem respects_transaction_wider {α : Type} {user : Option UUID} (huser : user ∈ [none, actor])
    (write : Oms → Except PyException (α × Oms)) :
    (transaction user write).Respects (Wider orderId actor held) := by
  refine respects_transaction (fun k k' h => ?_) (fun _ _ h => h.execute) (fun _ _ h => h.commit) _
  rcases List.mem_pair.mp huser with rfl | rfl
  · simp
  · exact h.reads.trans h.reads'.symm

theorem respects_awbOwnPart (shiprocket : AwbAdapter) :
    (awbOwnPart shiprocket shipmentId none actor).Respects (Wider orderId actor held) := by
  rw [awbOwnPart_eq]
  exact (respects_awbBegin tolerant_wider shiprocket).bind fun found =>
    (respects_transaction_wider (by simp) _).bind fun _ => .pure _

theorem respects_recordFailure (message : String) :
    (recordFailure shipmentId actor message).Respects (Wider orderId actor held) :=
  respects_transaction_wider (by simp) _

theorem respects_send {α : Type} (request : ShopifyRequest) (answer : Except PyException α) :
    (send request answer).Respects (Wider orderId actor held) := fun _ _ _ h => ⟨rfl, h⟩

theorem respects_fulfillmentId (fulfillment : Fulfillment) :
    (fulfillmentId fulfillment).Respects (Wider orderId actor held) := by
  unfold fulfillmentId
  split
  · exact .throw _
  · exact .pure _

theorem respects_courierName (courierId : Option UUID) :
    (courierName courierId).Respects (Wider orderId actor held) := by
  unfold courierName
  split
  · exact .pure _
  · exact (respects_getById _ fun _ _ found h => h.get (by simp) found).bind fun _ => .pure _

theorem respects_pushNothingOpen (adapter : ShopifyAdapter) (now : Instant) (s : Shipment)
    (awb : String) (order : Order) (courier : Option String) :
    (pushNothingOpen adapter now actor s awb order courier).Respects
      (Wider orderId actor held) := by
  unfold pushNothingOpen
  split
  · exact (respects_send _ _).bind fun _ => (respects_fulfillmentId _).bind fun _ =>
      Respects.bind (respects_transaction_wider (by simp) _) fun _ => .pure _
  · exact Respects.bind (respects_transaction_wider (by simp) _) fun _ => .pure _

theorem respects_pushFulfillment (adapter : ShopifyAdapter) (now : Instant) (s : Shipment)
    (awb : String) (order : Order) (gid : String) :
    (pushFulfillment adapter now actor s awb order gid).Respects (Wider orderId actor held) := by
  refine (respects_send _ _).bind fun _ => (respects_courierName _).bind fun _ => ?_
  split
  · exact respects_pushNothingOpen _ _ _ _ _ _
  · exact Respects.bind (respects_send _ _) fun _ => .pure _

theorem respects_finishPush (now : Instant) (pushed : Shipment ⊕ Fulfillment) :
    (finishPush now shipmentId actor pushed).Respects (Wider orderId actor held) := by
  cases pushed with
  | inl s => exact .pure _
  | inr fulfillment =>
    exact (respects_fulfillmentId _).bind fun _ => respects_transaction_wider (by simp) _

/-- What a procedure that loads neither orders nor users has lost stays lost. -/
theorem keepsLost_transaction {α : Type} {user : Option UUID}
    (write : Oms → Except PyException (α × Oms)) :
    (transaction user write).Keeps (OrderLost orderId) := by
  intro k w hk
  unfold transaction
  split
  · exact hk
  · split <;> exact hk

theorem keepsLost_loadShipment (missing : PyException) :
    (loadShipment shipmentId missing).Keeps (OrderLost orderId) := by
  refine Keeps.bind (Keeps.store.bind fun _ => Keeps.bind (.memory fun k hk => ?_) fun _ =>
    .pure _) fun s => ?_
  · exact fun h => hk ((RequestSession.mem_loaded_get_iff (by simp)).mp h)
  · split
    · exact .throw _
    · exact .pure _

theorem keepsLost_finishPush (now : Instant) (pushed : Shipment ⊕ Fulfillment) :
    (finishPush now shipmentId actor pushed).Keeps (OrderLost orderId) := by
  cases pushed with
  | inl s => exact .pure _
  | inr fulfillment =>
    refine Keeps.bind ?_ fun _ => keepsLost_transaction _
    unfold fulfillmentId
    split
    · exact .throw _
    · exact .pure _

/-- The second session rolls back whenever the first does, and loses the order. -/
theorem respectsUnless_rollback : (withSession RequestSession.rollback).RespectsUnless
    (OrderLost orderId) (Wider orderId actor held) := by
  refine .memory fun k k' h => ?_
  cases htx' : k'.inTransaction with
  | true =>
    refine .inr ?_
    rw [OrderLost, RequestSession.rollback_of_inTransaction htx']
    exact List.not_mem_nil
  | false =>
    have htx : k.inTransaction = false := by
      by_contra htx
      rw [h.inTransaction (by simpa using htx)] at htx'
      cases htx'
    rw [RequestSession.rollback_of_not_inTransaction htx,
      RequestSession.rollback_of_not_inTransaction htx']
    exact .inl ⟨rfl, h⟩

theorem respectsUnless_recoverFulfillment (e : PyException) :
    (recoverFulfillment shipmentId actor e).RespectsUnless (OrderLost orderId)
      (Wider orderId actor held) := by
  unfold recoverFulfillment
  split
  · exact (respects_recordFailure _).unless
  · refine respectsUnless_rollback.bind (fun _ => ?_) fun _ =>
      (keepsLost_loadShipment _).bind fun _ => keepsLost_transaction _
    exact ((respects_loadShipment _ fun _ _ found h => h.get (by simp) found).bind fun _ =>
      respects_recordFailure _).unless

theorem respectsUnless_attemptPush (now : Instant) {push : OmsProc (Shipment ⊕ Fulfillment)}
    (hpush : push.Respects (Wider orderId actor held)) :
    (attemptPush now shipmentId actor push).RespectsUnless (OrderLost orderId)
      (Wider orderId actor held) := by
  refine RespectsUnless.bind ?_ (fun _ => (respects_finishPush _ _).unless)
    fun _ => keepsLost_finishPush _ _
  refine hpush.thenElse_unless (fun _ => (Respects.pure _).unless) fun e => ?_
  exact (respectsUnless_recoverFulfillment e).bind (fun _ => (Respects.pure _).unless)
    fun _ => .pure _

theorem respectsUnless_syncFulfillment (registry : Registry) (now : Instant) :
    (syncFulfillmentForShipment registry now shipmentId actor).RespectsUnless
      (OrderLost orderId) (Wider orderId actor held) := by
  refine Respects.bind_unless (respects_loadShipment _ fun _ _ found h => h.get (by simp) found)
    fun s => Respects.bind_unless (respects_getById _ fun _ _ found h => h.get (by simp) found)
    fun order => ?_
  split
  · split
    · exact (respects_transaction_wider (by simp) _).unless
    · exact (Respects.pure _).unless
  · split
    · exact (Respects.pure _).unless
    · split
      · exact (Respects.pure _).unless
      · refine Respects.bind_unless ?_ fun adapter =>
          respectsUnless_attemptPush now (respects_pushFulfillment _ _ _ _ _ _)
        cases registry with
        | none => exact .throw _
        | some adapter => exact .pure _

/-- The attempt has the same outcome in the wider session, unless the other one loses the
order. -/
theorem respectsUnless_assignAttempt {entry : ProcessEntry} (h : entry.pushFault = none) :
    (assignAttempt actor entry shipmentId).RespectsUnless (OrderLost orderId)
      (Wider orderId actor held) := by
  refine Respects.bind_unless
    (respects_faulty _ (fun _ _ h f n => h.session f n) (respects_awbOwnPart _)) fun written => ?_
  unfold pushAttempt
  split
  · rw [h]
    exact respectsUnless_syncFulfillment _ _
  · exact (Respects.pure _).unless

end Push

end AyushOms.Shipments
