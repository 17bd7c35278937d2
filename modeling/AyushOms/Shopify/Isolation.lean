import AyushOms.Shopify.Outcomes

/-!
# Failures of the Shopify Side

When the methods of the fulfillment service return normally, and what they raise otherwise.
A failure inside a `try` block is recorded on the row, unless the rollback before the record
has expired the acting user; a missing adapter and an answer without an id are met outside.

## Main results

- `recoverFulfillment_returnsIff`, `recoverAddress_returnsIff`: the `except` blocks
- `syncFulfillment_returnsIff` and its companions: the methods
-/

namespace AyushOms.Shopify

open AyushOms.Lib AyushOms.Orders AyushOms.Tracking AyushOms.Telecalling

/-! ## Section 1: Outcomes -/

/-- A procedure that has been run. -/
abbrev Ran (α : Type) : Type := Staged Oms (Except PyException α × RequestSession)

section Outcomes

variable {α β : Type}

/-- It returned. -/
def Returned (p : Ran α) : Prop := ∃ a, p.result.1 = .ok a

/-- It raised nothing but `NotFoundError`, and that only when `bad` holds. -/
def RaisedOnly (bad : Prop) (p : Ran α) : Prop :=
  ∀ e, p.result.1 = .error e → bad ∧ ∃ message, e = .oms (.notFound message)

/-- It returned when `P` holds, and otherwise raised something other than `NotFoundError`. -/
def ReturnsIff (P : Prop) (p : Ran α) : Prop :=
  (P ∧ Returned p) ∨
    (¬ P ∧ ∃ e, p.result.1 = .error e ∧ ∀ message, e ≠ .oms (.notFound message))

namespace ReturnsIff

variable {P Q : Prop} {p : Ran α}

theorem returned_iff (h : ReturnsIff P p) : Returned p ↔ P := by
  rcases h with ⟨hP, hok⟩ | ⟨hP, e, herror, -⟩
  · exact iff_of_true hok hP
  · refine iff_of_false ?_ hP
    rintro ⟨a, hok⟩
    rw [hok] at herror
    cases herror

theorem raisedOnly_iff (h : ReturnsIff P p) (bad : Prop) : RaisedOnly bad p ↔ P := by
  rcases h with ⟨hP, a, hok⟩ | ⟨hP, e, herror, he⟩
  · refine iff_of_true (fun e herror => ?_) hP
    rw [hok] at herror
    cases herror
  · refine iff_of_false (fun h => ?_) hP
    obtain ⟨-, message, rfl⟩ := h e herror
    exact he message rfl

theorem congr (h : ReturnsIff P p) (hPQ : P ↔ Q) : ReturnsIff Q p := by
  rwa [← propext hPQ]

/-- What was committed before does not matter. -/
theorem commit (h : ReturnsIff P p) (w : Oms) : ReturnsIff P (.commit w p) := h

theorem of_returned (hP : P) (h : Returned p) : ReturnsIff P p := .inl ⟨hP, h⟩

theorem of_raised {e : PyException} (hP : ¬ P) (h : p.result.1 = .error e)
    (he : ∀ message, e ≠ .oms (.notFound message)) : ReturnsIff P p := .inr ⟨hP, e, h, he⟩

end ReturnsIff

end Outcomes

/-! ## Section 2: The `except` blocks -/

/-- An exception of a request is recorded: a failure the adapter reports, or any other when
the rollback does not expire the acting user. -/
def Recoverable (k : RequestSession) (actor : Option UUID) : PyException → Prop
  | .oms (.integration _) => True
  | _ => k.inTransaction = false ∨ actor = none

theorem recoverable_of_idle {k : RequestSession} (h : k.inTransaction = false)
    (actor : Option UUID) (e : PyException) : Recoverable k actor e := by
  unfold Recoverable
  split
  · exact True.intro
  · exact .inl h

section Recover

variable {shipmentId orderId : UUID} {actor : Option UUID} {k : RequestSession} {w : Oms}
  {s : Shipment}

/-- Whether the acting user can be read decides whether a transaction that is not refused is
committed. -/
theorem transaction_returnsIff {α : Type} {write : Oms → Except PyException (α × Oms)} {a : α}
    {w' : Oms} (h : write w = .ok (a, w')) :
    ReturnsIff (k.CanRead actor) (transaction actor write k w) := by
  by_cases hk : k.CanRead actor
  · rw [transaction_run_ok hk h]
    exact .of_returned hk ⟨a, rfl⟩
  · refine .of_raised hk ?_ nofun (e := .missingGreenlet)
    simp only [transaction, h, if_neg hk]
    rfl

/-- The columns of a failure are no key, so nothing refuses them. -/
theorem recordFailure_returnsIff (hs : w.db.getShipment shipmentId = some s) (message : String) :
    ReturnsIff (k.CanRead actor) (recordFailure shipmentId actor message k w) := by
  obtain ⟨w', hwrite, -⟩ := Oms.updateShipment_of_keys hs ⟨markFailed message, fun _ => rfl⟩
  exact transaction_returnsIff hwrite

/-- The two `except` blocks. -/
theorem recoverFulfillment_other {e : PyException}
    (he : ∀ message, e ≠ .oms (.integration message)) :
    recoverFulfillment shipmentId actor e = (do
      withSession RequestSession.rollback
      let _ ← loadShipment shipmentId (.other "AssertionError")
      recordFailure shipmentId actor ("Unexpected error syncing to Shopify: " ++ e.str)) := by
  unfold recoverFulfillment
  split
  · exact absurd rfl (he _)
  · rfl

theorem recoverable_other {e : PyException} (he : ∀ message, e ≠ .oms (.integration message)) :
    Recoverable k actor e ↔ k.inTransaction = false ∨ actor = none := by
  unfold Recoverable
  split
  · exact absurd rfl (he _)
  · rfl

/-- A failure is recorded when it is recoverable, and otherwise the record fails. -/
theorem recoverFulfillment_returnsIff (hs : w.db.getShipment shipmentId = some s)
    (hk : k.CanRead actor) (e : PyException) :
    ReturnsIff (Recoverable k actor e) (recoverFulfillment shipmentId actor e k w) := by
  by_cases he : ∃ message, e = .oms (.integration message)
  · obtain ⟨message, rfl⟩ := he
    exact (recordFailure_returnsIff hs message).congr (iff_of_true hk True.intro)
  · rw [not_exists] at he
    -- the shipment is read again; the user is not
    have hread : (k.rollback.get (.shipment shipmentId) true).CanRead actor ↔
        k.inTransaction = false ∨ actor = none :=
      (RequestSession.canRead_get_iff (by simp) true).trans
        (RequestSession.canRead_rollback.trans (and_iff_right hk))
    rw [recoverFulfillment_other he, Proc.bind_run, withSession, Proc.memory_run,
      Staged.andThen_done, Proc.resume_ok, Proc.bind_run, loadShipment_run_some hs,
      Staged.andThen_done, Proc.resume_ok]
    exact (recordFailure_returnsIff hs _).congr (hread.trans (recoverable_other he).symm)

end Recover

/-! ## Section 3: The fulfillment -/

/-- No other shipment has the fulfillment id. -/
def IdFree (w : Oms) (shipmentId : UUID) (id : Option String) : Prop :=
  ∀ s ∈ w.db.shipments.rows, s.id ≠ shipmentId → id ≠ none → s.shopifyFulfillmentId ≠ id

/-- What the adapter may answer to a push that begins in session `k` and has looked up the
courier in session `k'`. -/
def PushContained (adapter : ShopifyAdapter) (w : Oms) (s : Shipment) (awb : String)
    (order : Order) (gid : String) (actor : Option UUID) (k k' : RequestSession) : Prop :=
  match adapter.getOpenFulfillmentOrderId (orderGid gid) with
  | .error e => Recoverable k actor e
  | .ok none =>
    match pyOr order.shopifyConfirmationFulfillmentId none with
    | none => True
    | some confirmationId =>
      match adapter.updateFulfillmentTracking confirmationId awb (courierNameOf w s.courierId) with
      | .error e => Recoverable k' actor e
      | .ok fulfillment =>
        match fulfillment.id with
        | none => Recoverable k' actor (.keyError "id")
        -- the refused write is recorded like a failure, but from within its transaction
        | some id => IdFree w s.id id ∨ actor = none
  | .ok (some fulfillmentOrderId) =>
    match adapter.createFulfillment fulfillmentOrderId awb (courierNameOf w s.courierId) with
    | .error e => Recoverable k' actor e
    | .ok fulfillment => ∃ id, fulfillment.id = some id ∧ IdFree w s.id id

/-- The condition of `sync_fulfillment_for_shipment`. -/
def FulfillmentContained (registry : Registry) (shipmentId : UUID) (actor : Option UUID)
    (k : RequestSession) (w : Oms) : Prop :=
  ∀ s awb order gid, Pushes w shipmentId s awb order gid →
    ∃ adapter, registry = some adapter ∧
      PushContained adapter w s awb order gid actor (guardedSession k s)
        (courierSession w s.courierId (guardedSession k s))

section Store

variable {w : Oms} {shipmentId : UUID} {s : Shipment} {id : Option String} {now : Instant}

theorem mem_keys_shopifyFulfillment {s : Shipment} {id : String} :
    .shopifyFulfillment id ∈ s.keys ↔ s.shopifyFulfillmentId = some id := by
  simp [mem_shipmentKeys]

/-- The unique column takes an id that is free. -/
theorem updateShipment_of_idFree (hs : w.db.getShipment shipmentId = some s) (now : Instant)
    (hfree : IdFree w shipmentId id) :
    ∃ s' w', w.updateShipment shipmentId (markSynced id now) = .ok (s', w') := by
  obtain ⟨hmem, rfl⟩ := TrackingDB.getShipment_eq_some.mp hs
  obtain ⟨shipments, hupd⟩ : ∃ t,
      w.db.shipments.update? (fun s' => s'.id == s.id) (markSynced id now) = some t := by
    refine Table.exists_update?
      (fun s' hs' hid => TrackingDB.shipment_eq_of_id_eq hmem hs' (by simpa using hid))
      (by simp [Shipment.keys]) (shipmentKeys_nodup _) fun key hkey s' hs' hkey' => ?_
    have hold : key ∈ s.keys → s' = s := w.db.shipments.eq_of_shared_key hs' hmem hkey'
    -- the only key the row may not have had before is the fulfillment id
    rcases mem_shipmentKeys.mp hkey with h | h | h | h | ⟨fulfillmentId, hid, rfl⟩
    · exact hold (mem_shipmentKeys.mpr (.inl h))
    · exact hold (mem_shipmentKeys.mpr (.inr (.inl h)))
    · exact hold (mem_shipmentKeys.mpr (.inr (.inr (.inl h))))
    · exact hold (mem_shipmentKeys.mpr (.inr (.inr (.inr (.inl h)))))
    · by_contra hne
      have hother : s'.id ≠ s.id := fun heq => hne (TrackingDB.shipment_eq_of_id_eq hmem hs' heq)
      have hid : id = some fulfillmentId := hid
      rw [hid] at hfree
      exact hfree s' hs' hother (Option.some_ne_none _) (mem_keys_shopifyFulfillment.mp hkey')
  have hread : shipments.find? (fun s' => s'.id == s.id) = some (markSynced id now s) := by
    have hwritten : markSynced id now s ∈ shipments.rows := by
      rw [Table.rows_of_update? hupd]
      exact List.mem_map.mpr ⟨s, hmem, by simp⟩
    exact shipments.find?_eq_some_of_mem (k := .id s.id) hwritten (by simp [markSynced])
      (by simp +contextual [Shipment.keys])
  refine ⟨markSynced id now s, { w with db := { w.db with shipments := shipments } }, ?_⟩
  unfold Oms.updateShipment
  rw [hupd]
  simp only [hread]

/-- A taken id is refused. -/
theorem updateShipment_of_not_idFree (hs : w.db.getShipment shipmentId = some s) (now : Instant)
    (htaken : ¬ IdFree w shipmentId id) :
    w.updateShipment shipmentId (markSynced id now) = .error .integrityError := by
  obtain ⟨hmem, rfl⟩ := TrackingDB.getShipment_eq_some.mp hs
  simp only [IdFree, not_forall, not_not] at htaken
  obtain ⟨s', hs', hother, hne, htaken⟩ := htaken
  obtain ⟨fulfillmentId, rfl⟩ := Option.ne_none_iff_exists'.mp hne
  have hrefused : w.db.shipments.update? (fun s' => s'.id == s.id)
      (markSynced (some fulfillmentId) now) = none :=
    Table.update?_eq_none hmem (by simp) (mem_keys_shopifyFulfillment.mpr rfl) hs'
      (by simpa using hother) (mem_keys_shopifyFulfillment.mpr htaken)
      fun heq => hother (congrArg Shipment.id heq).symm
  unfold Oms.updateShipment
  rw [hrefused]

/-- The transaction that records an id is refused exactly when the id is taken. -/
theorem recordSynced_returnsIff {actor : Option UUID} {k : RequestSession}
    (hs : w.db.getShipment shipmentId = some s) (hk : k.CanRead actor) :
    ReturnsIff (IdFree w shipmentId id)
      (transaction actor (fun w => w.updateShipment shipmentId (markSynced id now)) k w) := by
  by_cases hfree : IdFree w shipmentId id
  · obtain ⟨s', w', hwrite⟩ := updateShipment_of_idFree hs now hfree
    exact (transaction_returnsIff hwrite).congr (iff_of_true hk hfree)
  · rw [transaction_run_error (updateShipment_of_not_idFree hs now hfree)]
    exact .of_raised hfree rfl nofun

end Store

section Push

variable {w : Oms} {shipmentId : UUID} {s : Shipment} {awb : String} {order : Order}
  {gid : String} {actor : Option UUID} {now : Instant} {k : RequestSession}
  {adapter : ShopifyAdapter}

theorem canRead_courierSession (hk : k.CanRead actor) (courierId : Option UUID) :
    (courierSession w courierId k).CanRead actor := by
  cases courierId with
  | none => exact hk
  | some id => exact RequestSession.canRead_get hk _ _

theorem canRead_guardedSession (hk : k.CanRead actor) (s : Shipment) :
    (guardedSession k s).CanRead actor :=
  RequestSession.canRead_get (RequestSession.canRead_get hk _ _) _ _

/-- A write inside the `try` block that the database refuses is recorded like a failure. -/
theorem attempted_returnsIff {write : Oms → Except PyException (Shipment × Oms)} {P : Prop}
    (hs : w.db.getShipment shipmentId = some s) (hk : k.CanRead actor)
    (hwrite : (P ∧ ∃ a w', write w = .ok (a, w')) ∨ (¬ P ∧ write w = .error .integrityError)) :
    ReturnsIff (P ∨ actor = none) (attemptPush now shipmentId actor
      (Sum.inl <$> transaction actor write) k w) := by
  rw [attemptPush_inl, Proc.tryCatch_run]
  rcases hwrite with ⟨hP, a, w', hok⟩ | ⟨hP, herror⟩
  · rw [transaction_run_ok hk hok]
    exact .of_returned (.inl hP) ⟨a, rfl⟩
  · rw [transaction_run_error herror, Staged.andThen_done, Proc.resume_error]
    refine (recoverFulfillment_returnsIff hs (RequestSession.canRead_execute.mpr hk) _).congr ?_
    rw [recoverable_other (by simp)]
    simp [hP]

/-- The answer to an update is recorded inside the `try` block. -/
theorem tracked_returnsIff (h : Pushes w shipmentId s awb order gid) (hk : k.CanRead actor)
    (fulfillment : Fulfillment) :
    ReturnsIff
      (match fulfillment.id with
      | none => Recoverable k actor (.keyError "id")
      | some id => IdFree w s.id id ∨ actor = none)
      (attemptPush now shipmentId actor (do
        let id ← fulfillmentId fulfillment
        Sum.inl <$> transaction actor fun w => w.updateShipment s.id (markSynced id now)) k w) := by
  have hid := h.id_eq
  cases hf : fulfillment.id with
  | none =>
    rw [attemptPush_of_raise (e := .keyError "id") (by rw [fulfillmentId, hf]; rfl)]
    exact recoverFulfillment_returnsIff h.shipment hk _
  | some id =>
    rw [attemptPush_of_done (a := id) (by rw [fulfillmentId, hf]; rfl), hid]
    refine attempted_returnsIff h.shipment hk ?_
    by_cases hfree : IdFree w shipmentId id
    · exact .inl ⟨hfree, updateShipment_of_idFree h.shipment now hfree⟩
    · exact .inr ⟨hfree, updateShipment_of_not_idFree h.shipment now hfree⟩

/-- The answer to a creation is recorded after it. -/
theorem recorded_returnsIff (h : Pushes w shipmentId s awb order gid) (hk : k.CanRead actor)
    (fulfillment : Fulfillment) :
    ReturnsIff (∃ id, fulfillment.id = some id ∧ IdFree w s.id id)
      (recordFulfillment now shipmentId actor fulfillment k w) := by
  have hid := h.id_eq
  unfold recordFulfillment fulfillmentId
  cases hf : fulfillment.id with
  | none => exact .of_raised (by simp) rfl nofun
  | some id =>
    refine (recordSynced_returnsIff h.shipment hk).congr ?_
    simp [hid]

/-- Nothing refuses the status that is written when there is nothing to push. -/
theorem notOpen_returnsIff (hs : w.db.getShipment shipmentId = some s) (hid : s.id = shipmentId) :
    ReturnsIff True (attemptPush now shipmentId actor (Sum.inl <$> transaction none fun w =>
      w.updateShipment s.id (if s.shopifySyncStatus = .failed
        then markAlreadyFulfilled now else markNotApplicable)) k w) := by
  rw [hid, attemptPush_inl, Proc.tryCatch_run]
  obtain ⟨s', w', hok⟩ : ∃ s' w', w.updateShipment shipmentId (if s.shopifySyncStatus = .failed
      then markAlreadyFulfilled now else markNotApplicable) = .ok (s', w') := by
    split
    · obtain ⟨w', hok, -⟩ := Oms.updateShipment_of_keys hs ⟨markAlreadyFulfilled now, fun _ => rfl⟩
      exact ⟨_, w', hok⟩
    · obtain ⟨w', hok, -⟩ := Oms.updateShipment_of_keys hs ⟨markNotApplicable, fun _ => rfl⟩
      exact ⟨_, w', hok⟩
  rw [transaction_run_ok RequestSession.canRead_none hok]
  exact .of_returned True.intro ⟨_, rfl⟩

theorem attemptPush_returnsIff (h : Pushes w shipmentId s awb order gid) (hk : k.CanRead actor)
    (adapter : ShopifyAdapter) (now : Instant) :
    ReturnsIff (PushContained adapter w s awb order gid actor k (courierSession w s.courierId k))
      (attemptPush now shipmentId actor
        (pushFulfillment adapter now actor s awb order gid) k w) := by
  have hk' := canRead_courierSession (w := w) hk s.courierId
  have hid := h.id_eq
  unfold PushContained
  cases hopen : adapter.getOpenFulfillmentOrderId (orderGid gid) with
  | error e =>
    rw [attemptPush_openFailed hopen]
    exact (recoverFulfillment_returnsIff (w := w.withSent _) h.shipment hk e).commit _
  | ok open? =>
    cases open? with
    | none =>
      rw [attemptPush_nothingOpen hopen]
      unfold pushNothingOpen
      refine ReturnsIff.commit ?_ _
      cases hconfirmation : pyOr order.shopifyConfirmationFulfillmentId none with
      | none => exact notOpen_returnsIff (w := w.withSent _) h.shipment hid
      | some confirmationId =>
        dsimp only
        cases hupdate : adapter.updateFulfillmentTracking confirmationId awb
            (courierNameOf w s.courierId) with
        | error e =>
          rw [attemptPush_send_error]
          exact (recoverFulfillment_returnsIff (w := (w.withSent _).withSent _) h.shipment hk'
            e).commit _
        | ok fulfillment =>
          rw [attemptPush_send_ok]
          exact (tracked_returnsIff ((h.withSent _).withSent _) hk' fulfillment).commit _
    | some fulfillmentOrderId =>
      rw [attemptPush_open hopen]
      refine ReturnsIff.commit ?_ _
      dsimp only
      cases hcreate : adapter.createFulfillment fulfillmentOrderId awb
          (courierNameOf w s.courierId) with
      | error e =>
        rw [attemptPush_create_error]
        exact (recoverFulfillment_returnsIff (w := (w.withSent _).withSent _) h.shipment hk'
          e).commit _
      | ok fulfillment =>
        rw [attemptPush_create_ok]
        exact (recorded_returnsIff ((h.withSent _).withSent _) hk' fulfillment).commit _

/-- A shipment that is pushed is pushed in one way. -/
theorem fulfillmentContained_iff {registry : Registry} (h : Pushes w shipmentId s awb order gid) :
    FulfillmentContained registry shipmentId actor k w ↔ ∃ adapter, registry = some adapter ∧
      PushContained adapter w s awb order gid actor (guardedSession k s)
        (courierSession w s.courierId (guardedSession k s)) := by
  refine ⟨fun hall => hall s awb order gid h, fun hone s' awb' order' gid' h' => ?_⟩
  obtain rfl : s = s' := Option.some.inj (h.shipment.symm.trans h'.shipment)
  obtain rfl : awb = awb' := Option.some.inj (h.awb.symm.trans h'.awb)
  obtain ⟨rfl, rfl⟩ : order = order' ∧ gid = gid' :=
    Prod.mk.inj (Option.some.inj (h.order.symm.trans h'.order))
  exact hone

/-- `sync_fulfillment_for_shipment` on a shipment that is there. -/
theorem syncFulfillment_returnsIff (registry : Registry) (now : Instant)
    (hs : w.db.getShipment shipmentId ≠ none) (hk : k.CanRead actor) :
    ReturnsIff (FulfillmentContained registry shipmentId actor k w)
      (syncFulfillmentForShipment registry now shipmentId actor k w) := by
  rcases syncFulfillment_cases registry now shipmentId actor k w with
    ⟨k', hnone, -⟩ | ⟨s, k', hs, hpush, hrun⟩ | ⟨s, k', hs, horder, hrun⟩ |
    ⟨s, awb, order, gid, hpush, hrun⟩
  · exact absurd hnone hs
  · rw [hrun]
    refine .of_returned (fun s' awb order gid h => ?_) ⟨s, rfl⟩
    obtain rfl : s = s' := Option.some.inj (hs.symm.trans h.shipment)
    exact absurd h (hpush awb order gid)
  · obtain ⟨w', hok, -⟩ := Oms.updateShipment_of_keys hs ⟨markNotApplicable, fun _ => rfl⟩
    rw [hrun, transaction_run_ok RequestSession.canRead_none hok]
    refine .of_returned (fun s' awb order gid h => ?_) ⟨_, rfl⟩
    obtain rfl : s = s' := Option.some.inj (hs.symm.trans h.shipment)
    exact absurd (h.order.symm.trans horder) (Option.some_ne_none _)
  · rw [hrun]
    cases registry with
    | none =>
      rw [getAdapter_run_none]
      refine .of_raised (fun h => ?_) rfl nofun
      obtain ⟨adapter, hadapter, -⟩ := (fulfillmentContained_iff hpush).mp h
      cases hadapter
    | some adapter =>
      rw [getAdapter_run_some]
      refine (attemptPush_returnsIff hpush (canRead_guardedSession hk s) adapter now).congr ?_
      rw [fulfillmentContained_iff hpush]
      simp

theorem syncFulfillment_raisedOnly_iff (registry : Registry) (now : Instant)
    (shipmentId : UUID) (hk : k.CanRead actor) :
    RaisedOnly (w.db.getShipment shipmentId = none)
        (syncFulfillmentForShipment registry now shipmentId actor k w) ↔
      FulfillmentContained registry shipmentId actor k w := by
  by_cases hs : w.db.getShipment shipmentId = none
  · refine iff_of_true (fun e he => ⟨hs, ?_⟩) fun s _ _ _ h =>
      absurd (h.shipment.symm.trans hs) (Option.some_ne_none _)
    rw [syncFulfillmentForShipment, Proc.bind_run, loadShipment_run_none hs] at he
    cases he
    exact ⟨_, rfl⟩
  · exact (syncFulfillment_returnsIff registry now hs hk).raisedOnly_iff _

end Push

/-! ## Section 4: Tags and the address -/

/-- The order is Shopify's, and no adapter is registered. -/
def Unregistered (registry : Registry) (orderId : UUID) (w : Oms) : Prop :=
  registry = none ∧ shopifyOrder (w.db.orders.getOrder orderId) ≠ none

/-- The condition of `sync_shipping_address`. -/
def AddressContained (registry : Registry) (orderId : UUID) (actor : Option UUID)
    (k : RequestSession) (w : Oms) : Prop :=
  ∀ o gid address, shopifyOrder (w.db.orders.getOrder orderId) = some (o, gid) →
    o.shippingAddress = some address →
    ∃ adapter, registry = some adapter ∧ ∀ e,
      adapter.updateOrderShippingAddress (orderGid gid) (toShopifyAddressInput address) =
        .error e → Recoverable (k.get (.order orderId) true) actor e

section Orders

variable {registry : Registry} {orderId : UUID} {actor : Option UUID} {k : RequestSession} {w : Oms}

/-- `sync_confirmation_tag` and `reverse_confirmation_tag`. -/
theorem pushConfirmationTags_returnsIff
    (push : ShopifyAdapter → String → List String → ShopifyRequest × Except PyException Unit)
    (registry : Registry) (orderId : UUID) (hk : k.CanRead actor) :
    ReturnsIff (¬ Unregistered registry orderId w)
      (pushConfirmationTags push registry orderId actor k w) := by
  cases hshopify : shopifyOrder (w.db.orders.getOrder orderId) with
  | none =>
    rw [pushConfirmationTags_run_none hshopify]
    exact .of_returned (fun h => h.2 hshopify) ⟨_, rfl⟩
  | some o =>
    obtain ⟨o, gid⟩ := o
    cases registry with
    | none =>
      rw [pushConfirmationTags_run_unregistered hshopify]
      refine .of_raised (not_not_intro ⟨rfl, ?_⟩) rfl nofun
      rw [hshopify]
      exact Option.some_ne_none _
    | some adapter =>
      rw [pushConfirmationTags_run_registered hk hshopify]
      refine .of_returned (fun h => Option.some_ne_none _ h.1) ?_
      dsimp only
      split
      · exact ⟨_, rfl⟩
      · exact ⟨_, rfl⟩

theorem syncCallTags_returnsIff [PyText] (registry : Registry) (orderId : UUID)
    (outcome : TelecallingStatus) (hk : k.CanRead actor) :
    ReturnsIff (¬ Unregistered registry orderId w)
      (syncCallTags registry orderId outcome actor k w) := by
  unfold syncCallTags
  rw [Proc.bind_run, findOrder_run, Staged.andThen_done, Proc.resume_ok]
  cases hshopify : shopifyOrder (w.db.orders.getOrder orderId) with
  | none => exact .of_returned (fun h => h.2 hshopify) ⟨_, rfl⟩
  | some o =>
    obtain ⟨o, gid⟩ := o
    cases registry with
    | none =>
      refine .of_raised (not_not_intro ⟨rfl, ?_⟩) rfl nofun
      rw [hshopify]
      exact Option.some_ne_none _
    | some adapter =>
      refine .of_returned (fun h => Option.some_ne_none _ h.1) ?_
      have hk' := RequestSession.canRead_get hk (.order orderId)
        (w.db.orders.getOrder orderId).isSome
      obtain ⟨toAdd, toRemove⟩ := callTags o outcome
      dsimp only
      rw [getAdapter_run_some, Proc.bind_run, bestEffort_run, Staged.andThen_commit,
        Staged.andThen_done, Proc.resume_ok, Proc.bind_run, bestEffort_run, Staged.andThen_commit,
        Staged.andThen_done, Proc.resume_ok]
      split
      · rw [auditOnly_run hk']
        exact ⟨_, rfl⟩
      · exact ⟨_, rfl⟩

/-- A failure to push the address is recorded in a session that can read the acting user
exactly when the failure is recoverable. -/
theorem recoverAddress_run {o : Order} (ho : w.db.orders.getOrder orderId = some o)
    (hk : k.CanRead actor) (e : PyException) :
    ∃ message k', recoverAddress orderId actor e k w = (do
        recordAddressSyncFailure orderId actor message
        return false) k' w ∧
      (k'.CanRead actor ↔ Recoverable k actor e) := by
  by_cases he : ∃ message, e = .oms (.integration message)
  · obtain ⟨message, rfl⟩ := he
    exact ⟨message, k, rfl, iff_of_true hk True.intro⟩
  · rw [not_exists] at he
    refine ⟨"Unexpected error syncing to Shopify: " ++ e.str,
      k.rollback.get (.order orderId) true, ?_,
      ((RequestSession.canRead_get_iff (by simp) true).trans
        (RequestSession.canRead_rollback.trans (and_iff_right hk))).trans
        (recoverable_other he).symm⟩
    unfold recoverAddress
    split
    · exact absurd rfl (he _)
    · rw [Proc.bind_run, withSession_run, Staged.andThen_done, Proc.resume_ok, Proc.bind_run,
        findOrder_run, Staged.andThen_done, Proc.resume_ok, ho]
      rfl

/-- What follows the `except` blocks does nothing. -/
theorem recoverAddress_returnsIff {o : Order} (ho : w.db.orders.getOrder orderId = some o)
    (hk : k.CanRead actor) (e : PyException) {next : Bool → OmsProc Unit}
    (hnext : next false = pure ()) :
    ReturnsIff (Recoverable k actor e) ((recoverAddress orderId actor e >>= next) k w) := by
  obtain ⟨message, k', hrun, hread⟩ := recoverAddress_run ho hk e
  refine ReturnsIff.congr ?_ hread
  rw [Proc.bind_run, hrun, Proc.bind_run]
  by_cases hk' : k'.CanRead actor
  · rw [recordAddressSyncFailure, transaction_run_ok hk' rfl, Staged.andThen_commit,
      Staged.andThen_done, Proc.resume_ok]
    refine .of_returned hk' ?_
    rw [Staged.andThen_commit, Proc.pure_run, Staged.andThen_done, Proc.resume_ok, hnext]
    exact ⟨(), rfl⟩
  · refine .of_raised hk' (e := .missingGreenlet) ?_ nofun
    simp only [recordAddressSyncFailure, transaction, if_neg hk']
    rfl

/-- An order has one address. -/
theorem addressContained_iff {o : Order} {gid : String} {address : ShippingAddress}
    (hshopify : shopifyOrder (w.db.orders.getOrder orderId) = some (o, gid))
    (haddress : o.shippingAddress = some address) :
    AddressContained registry orderId actor k w ↔ ∃ adapter, registry = some adapter ∧ ∀ e,
      adapter.updateOrderShippingAddress (orderGid gid) (toShopifyAddressInput address) =
        .error e → Recoverable (k.get (.order orderId) true) actor e := by
  refine ⟨fun hall => hall o gid address hshopify haddress, fun hone o' gid' address' h h' => ?_⟩
  obtain ⟨rfl, rfl⟩ : o = o' ∧ gid = gid' :=
    Prod.mk.inj (Option.some.inj (hshopify.symm.trans h))
  obtain rfl : address = address' := Option.some.inj (haddress.symm.trans h')
  exact hone

/-- `sync_shipping_address` on an order that is there. -/
theorem syncShippingAddress_returnsIff (registry : Registry) (now : Instant)
    (ho : w.db.orders.getOrder orderId ≠ none) (hk : k.CanRead actor) :
    ReturnsIff (AddressContained registry orderId actor k w)
      (syncShippingAddress registry now orderId actor k w) := by
  obtain ⟨o, ho⟩ := Option.ne_none_iff_exists'.mp ho
  have hk' := RequestSession.canRead_get hk (.order orderId) true
  have hshopify : shopifyOrder (w.db.orders.getOrder orderId) =
      (pyOr o.shopifyOrderId none).map fun id => (o, id) := by
    rw [ho]
    rfl
  unfold syncShippingAddress
  rw [Proc.bind_run, findOrder_run, Staged.andThen_done, Proc.resume_ok, ho]
  dsimp only [Option.isSome]
  cases hgid : pyOr o.shopifyOrderId none with
  | none =>
    rw [hgid] at hshopify
    refine .of_returned (fun o' gid address h => ?_) ?_
    · exact absurd (h.symm.trans hshopify) (Option.some_ne_none _)
    · dsimp only
      split
      · rw [transaction_run_ok RequestSession.canRead_none rfl]
        exact ⟨(), rfl⟩
      · exact ⟨(), rfl⟩
  | some gid =>
    rw [hgid] at hshopify
    dsimp only
    cases haddress : o.shippingAddress with
    | none =>
      refine .of_returned (fun o' gid' address h h' => ?_) ⟨(), rfl⟩
      obtain ⟨rfl, -⟩ := Prod.mk.inj (Option.some.inj (hshopify.symm.trans h))
      exact absurd (h'.symm.trans haddress) (Option.some_ne_none _)
    | some address =>
      refine ReturnsIff.congr ?_ (addressContained_iff hshopify haddress).symm
      cases registry with
      | none => exact .of_raised (by simp) rfl nofun
      | some adapter =>
        dsimp only
        rw [getAdapter_run_some, Proc.bind_run, Proc.tryCatch_run]
        cases hanswer : adapter.updateOrderShippingAddress (orderGid gid)
            (toShopifyAddressInput address) with
        | error e =>
          refine ReturnsIff.commit ((recoverAddress_returnsIff (w := w.withSent _) ho hk' e
            rfl).congr ?_) _
          simp [hanswer]
        | ok a =>
          refine .of_returned ⟨adapter, rfl, fun e h => ?_⟩ ?_
          · rw [hanswer] at h
            cases h
          · simp only [Proc.bind_run, send_run, Staged.andThen_commit, Staged.andThen_done,
              Proc.resume_ok, Proc.pure_run, if_true]
            rw [transaction_run_ok hk' rfl]
            exact ⟨(), rfl⟩

theorem syncShippingAddress_raisedOnly_iff (registry : Registry) (now : Instant) (orderId : UUID)
    (hk : k.CanRead actor) :
    RaisedOnly (w.db.orders.getOrder orderId = none)
        (syncShippingAddress registry now orderId actor k w) ↔
      AddressContained registry orderId actor k w := by
  by_cases ho : w.db.orders.getOrder orderId = none
  · refine iff_of_true (fun e he => ⟨ho, ?_⟩) fun o gid _ h => ?_
    · rw [syncShippingAddress, Proc.bind_run, findOrder_run, ho] at he
      cases he
      exact ⟨_, rfl⟩
    · rw [ho] at h
      cases h
  · exact (syncShippingAddress_returnsIff registry now ho hk).raisedOnly_iff _

end Orders

/-! ## Section 5: What the methods write -/

/-- A shipment without the columns of the push. -/
def shipmentWithoutSync (s : Shipment) : Shipment :=
  { s with
    shopifyFulfillmentId := none
    shopifySyncStatus := .notApplicable
    shopifySyncError := none
    shopifySyncedAt := none }

/-- An order without the columns of the address push. -/
def orderWithoutSync (o : Order) : Order :=
  { o with
    shippingAddressSyncStatus := .notApplicable
    shippingAddressSyncError := none
    shippingAddressSyncedAt := none }

/-- The relation holds across every request, and across every write of a push. -/
structure PushRelation (R : Oms → Oms → Prop) : Prop where
  sent : ∀ w r, R w (w.withSent r)
  write : ∀ {w : Oms} {id f s w'}, (∀ s, shipmentWithoutSync (f s) = shipmentWithoutSync s) →
    w.updateShipment id f = .ok (s, w') → R w w'

section Commits

variable {R : Oms → Oms → Prop}

theorem PushRelation.transaction (hR : PushRelation R) (user : Option UUID) (id : UUID)
    (f : Shipment → Shipment) (hf : ∀ s, shipmentWithoutSync (f s) = shipmentWithoutSync s) :
    (Shopify.transaction user fun w => w.updateShipment id f).Commits R :=
  commits_transaction fun _ _ _ h => hR.write hf h

theorem commits_fulfillmentId (fulfillment : Fulfillment) :
    (fulfillmentId fulfillment).Commits R := by
  unfold fulfillmentId
  split
  · exact .throw _
  · exact .pure _

theorem commits_courierName (courierId : Option UUID) : (courierName courierId).Commits R := by
  unfold courierName
  split
  · exact .pure _
  · exact (commits_getById _ _).bind fun _ => .pure _

theorem commits_pushNothingOpen (hR : PushRelation R) (adapter : ShopifyAdapter) (now : Instant)
    (actor : Option UUID) (s : Shipment) (awb : String) (order : Order) (courier : Option String) :
    (pushNothingOpen adapter now actor s awb order courier).Commits R := by
  unfold pushNothingOpen
  split
  · refine Proc.Commits.bind (commits_send fun w => hR.sent w _) fun fulfillment => ?_
    exact (commits_fulfillmentId fulfillment).bind fun id =>
      (hR.transaction actor s.id (markSynced id now) fun _ => rfl).map Sum.inl
  · by_cases hstatus : s.shopifySyncStatus = .failed
    · simp only [if_pos hstatus]
      exact (hR.transaction none s.id (markAlreadyFulfilled now) fun _ => rfl).map Sum.inl
    · simp only [if_neg hstatus]
      exact (hR.transaction none s.id markNotApplicable fun _ => rfl).map Sum.inl

theorem commits_pushFulfillment (hR : PushRelation R) (adapter : ShopifyAdapter) (now : Instant)
    (actor : Option UUID) (s : Shipment) (awb : String) (order : Order) (gid : String) :
    (pushFulfillment adapter now actor s awb order gid).Commits R := by
  refine Proc.Commits.bind (commits_send fun w => hR.sent w _) fun open? =>
    (commits_courierName s.courierId).bind fun courier => ?_
  cases open? with
  | none => exact commits_pushNothingOpen hR adapter now actor s awb order courier
  | some id => exact (commits_send fun w => hR.sent w _).map Sum.inr

/-- `sync_fulfillment_for_shipment` sends requests, and writes columns of the push. -/
theorem commits_syncFulfillment (hR : PushRelation R) (registry : Registry) (now : Instant)
    (shipmentId : UUID) (actor : Option UUID) :
    (syncFulfillmentForShipment registry now shipmentId actor).Commits R := by
  refine (commits_loadShipment _ _).bind fun s => (commits_getById _ _).bind fun order => ?_
  split
  · exact .ite (hR.transaction _ _ _ fun _ => rfl) (.pure _)
  · refine .ite (.pure _) ?_
    split
    · exact .pure _
    · refine (commits_getAdapter _).bind fun adapter =>
        ((commits_pushFulfillment hR _ _ _ _ _ _ _).tryCatch fun e => .map _ ?_).bind
          fun pushed => ?_
      · unfold recoverFulfillment
        split
        · exact hR.transaction _ _ _ fun _ => rfl
        · exact (commits_withSession _).bind fun _ => (commits_loadShipment _ _).bind fun _ =>
            hR.transaction _ _ _ fun _ => rfl
      · unfold finishPush
        split
        · exact .pure _
        · exact (commits_fulfillmentId _).bind fun _ => hR.transaction _ _ _ fun _ => rfl

/-- `sync_shipping_address` sends a request, and writes columns of the push. -/
theorem commits_syncShippingAddress {orderId : UUID} (hsent : ∀ w r, R w (w.withSent r))
    (hwrite : ∀ (w : Oms) (f : Table.KeyPreserving Order.keys),
      (∀ o, orderWithoutSync (f o) = orderWithoutSync o) → R w (w.updateOrder orderId f))
    (registry : Registry) (now : Instant) (actor : Option UUID) :
    (syncShippingAddress registry now orderId actor).Commits R := by
  have htransaction : ∀ (user : Option UUID) (f : Table.KeyPreserving Order.keys),
      (∀ o, orderWithoutSync (f o) = orderWithoutSync o) →
      (transaction user fun w => .ok ((), w.updateOrder orderId f)).Commits R := fun user f hf =>
    commits_transaction fun w _ _ h => by
      cases h
      exact hwrite w f hf
  refine (commits_getById _ _).bind fun order => ?_
  split
  · exact .throw _
  · split
    · exact .ite (htransaction _ _ fun _ => rfl) (.pure _)
    · split
      · exact .pure _
      · refine (commits_getAdapter _).bind fun adapter => Proc.Commits.bind (.tryCatch
          ((commits_send fun w => hsent w _).bind fun _ => .pure _) fun e => ?_) fun pushed =>
          .ite (htransaction _ _ fun _ => rfl) (.pure _)
        unfold recoverAddress
        split
        · exact (htransaction _ _ fun _ => rfl).bind fun _ => .pure _
        · refine (commits_withSession _).bind fun _ => (commits_getById _ _).bind fun order => ?_
          split
          · exact .throw _
          · exact (htransaction _ _ fun _ => rfl).bind fun _ => .pure _

end Commits

end AyushOms.Shopify
