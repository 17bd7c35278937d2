import AyushOms.Lib.Bulk
import AyushOms.Shopify.AwbAssignment
import AyushOms.Tracking.CreateShipment
import AyushOms.Tracking.RefreshIsolation

/-!
# Failures in a Bulk Creation of Shipments

`bulk_create_shipments_for_orders` with unexpected failures in its turns. A call that goes through
commits twice: the shipment row, and the Shopify status with the audit record of the acting user.
Once a rollback has expired that user, a later order gets its row and fails at the audit record.

## Main results

- `createTurn_eq`: a turn without failures is `create_shipment_for_order` in its `try` block
- `createReliance_sound`: what a turn needs, restores and loses
-/

namespace AyushOms.Shipments

open AyushOms.Lib AyushOms.Lib.Proc AyushOms.Orders AyushOms.Tracking AyushOms.Shopify

/-! ## Section 1: The store of the Shiprocket service -/

/-- The database, and for a shipment what `shiprocket_order_id` finds in its
`raw_external_payload`. -/
structure ShipStore where
  oms : Oms := {}
  shiprocketOrderId : UUID → Option String := fun _ => none

abbrev ShipProc (α : Type) := Proc ShipStore RequestSession PyException α

/-- Flush the writes, record them in the audit log under the acting user, and commit. -/
def shipTransaction {α : Type} (actor : Option UUID)
    (write : ShipStore → Except PyException (α × ShipStore)) : ShipProc α := fun k st =>
  match write st with
  | .error e => .done (.error e, k.execute)
  | .ok (a, st') =>
    if k.CanRead actor then .commit st' (.done (.ok a, k.commit))
    else .done (.error .missingGreenlet, k.execute)

/-- `upsert_synced_shipment`, and the row it wrote; `payloadOrderId` is what
`shiprocket_order_id` finds in the payload. -/
def upsertSynced (data : SyncedShipment) (payloadOrderId : Option String) (orderId : UUID)
    (st : ShipStore) : Except PyException (Shipment × ShipStore) :=
  match st.oms.db.upsertSyncedShipment data orderId with
  | .error raised => .error raised.exception
  | .ok (_, db) =>
    match db.getShipmentByExternalId data.sourceSystem data.externalId with
    | none => .error (.other "Could not refresh instance")
    | some shipment => .ok (shipment, {
        oms := { st.oms with db := db }
        shiprocketOrderId := Function.update st.shiprocketOrderId shipment.id payloadOrderId })

/-! ## Section 2: A turn of the loop -/

/-- Shiprocket's answer to `create_order`: its `shipment_id`, and what `shiprocket_order_id`
finds in it. -/
structure CreateAnswer where
  shipmentId : Option String
  orderId : Option String := none
  deriving DecidableEq, Repr

/-- An order of the list, and what its turn meets: Shiprocket's answer or what the request
raises, and an unexpected failure. -/
structure CreateEntry where
  orderId : UUID
  fulfillmentStatus : FulfillmentStatus := .unfulfilled
  answer : Except PyException CreateAnswer
  fault : Option Unexpected := none

/-- The telecaller loaded with an order, the one who confirmed it. -/
def confirmedBy (w : Oms) (orderId : UUID) : Option UUID :=
  (w.db.orders.getOrder orderId).bind fun order =>
    order.confirmedByTelecallerId.filter fun id => (w.calls.getUser id).isSome

/-- The session after `get_by_id_with_items_and_customer`. -/
def shippingSession (w : Oms) (orderId : UUID) (k : RequestSession) : RequestSession :=
  match w.db.orders.getOrder orderId, confirmedBy w orderId with
  | none, _ => k.execute
  | some _, none => k.load (.order orderId)
  | some _, some id => (k.load (.order orderId)).load (.user id)

/-- `get_by_id_with_items_and_customer`: a row that is selected is readable, expired or not
before. -/
def loadForShipping (orderId : UUID) : ShipProc PUnit := do
  let st ← Proc.store
  Proc.memory fun k => (.ok PUnit.unit, shippingSession st.oms orderId k)

/-- `create_shipment_for_order` up to its first commit. -/
def storeCreated (setup : TrackingDB.ShiprocketSetup) (entry : CreateEntry) (st : ShipStore) :
    Except PyException (Shipment × ShipStore) :=
  match st.oms.db.beginShipment entry.orderId entry.fulfillmentStatus setup with
  | .error e => .error (.oms e)
  | .ok () =>
    match entry.answer with
    | .error e => .error e
    | .ok answer =>
      match pyOr answer.shipmentId none with
      | none => .error (.oms (.integration
          "Shiprocket order creation response did not include a shipment_id."))
      | some shipmentId =>
        upsertSynced (ShipWorld.createdShipment shipmentId) answer.orderId entry.orderId st

/-- `initial_shopify_status`. -/
def initialShopifyStatus (w : Oms) (orderId : UUID) : ShopifySyncStatus :=
  if ((w.db.orders.getOrder orderId).bind fun order => pyOr order.shopifyOrderId none).isSome
  then .pending else .notApplicable

/-- The columns the second commit writes. -/
def markCreated (status : ShopifySyncStatus) : Table.KeyPreserving Shipment.keys where
  apply s := { s with shopifySyncStatus := status }
  keeps _ := rfl

/-- The second commit of `create_shipment_for_order`. -/
def storeStatus (orderId : UUID) (shipment : Shipment) (st : ShipStore) :
    Except PyException (Shipment × ShipStore) :=
  match st.oms.updateShipment shipment.id (markCreated (initialShopifyStatus st.oms orderId)) with
  | .error e => .error e
  | .ok (shipment, oms) => .ok (shipment, { st with oms := oms })

/-- `create_shipment_for_order` for an order that has been looked up. -/
def createForLoaded (setup : TrackingDB.ShiprocketSetup) (actor : Option UUID)
    (entry : CreateEntry) : ShipProc Shipment := do
  let shipment ← shipTransaction none (storeCreated setup entry)
  shipTransaction actor (storeStatus entry.orderId shipment)

/-- `create_shipment_for_order`. -/
def createShipmentForOrder (setup : TrackingDB.ShiprocketSetup) (actor : Option UUID)
    (entry : CreateEntry) : ShipProc Shipment := do
  loadForShipping entry.orderId
  createForLoaded setup actor entry

/-- The same, cut short by the failure. One in the `SELECT` of the order ends like one right
after it. -/
def createAttempt (setup : TrackingDB.ShiprocketSetup) (actor : Option UUID)
    (entry : CreateEntry) : ShipProc Shipment := do
  loadForShipping entry.orderId
  faulty (entry.fault.map (·.toFault)) (createForLoaded setup actor entry)

/-- One entry of the list `bulk_create_shipments_for_orders` returns. -/
structure CreateResult where
  orderId : UUID
  success : Bool
  message : Option String
  shipmentId : Option UUID
  deriving DecidableEq, Repr

/-- The `except` blocks of the loop. -/
def recoverCreate (orderId : UUID) : PyException → ShipProc CreateResult
  | .oms (.notFound message) | .oms (.conflict message) | .oms (.integration message) =>
    pure ⟨orderId, false, some message, none⟩
  | _ => do
    Proc.memory fun k => (.ok PUnit.unit, k.rollback)
    return ⟨orderId, false, some "Could not create a shipment for this order.", none⟩

/-- One turn of the loop. -/
def createTurn (setup : TrackingDB.ShiprocketSetup) (actor : Option UUID) (entry : CreateEntry) :
    ShipProc CreateResult :=
  tryCatch
    (do
      let shipment ← createAttempt setup actor entry
      return ⟨entry.orderId, true, none, some shipment.id⟩)
    (recoverCreate entry.orderId)

/-- Without a failure the turn is `create_shipment_for_order` in the `try` block. -/
theorem createTurn_eq (setup : TrackingDB.ShiprocketSetup) (actor : Option UUID)
    {entry : CreateEntry} (h : entry.fault = none) : createTurn setup actor entry = tryCatch
      (do
        let shipment ← createShipmentForOrder setup actor entry
        return ⟨entry.orderId, true, none, some shipment.id⟩)
      (recoverCreate entry.orderId) := by
  obtain ⟨orderId, fulfillmentStatus, answer, fault⟩ := entry
  obtain rfl : fault = none := h
  rfl

/-! ## Section 3: What is reported -/

/-- The message of an error the loop expects. -/
def expectedCreate : PyException → Option String
  | .oms (.notFound message) | .oms (.conflict message) | .oms (.integration message) =>
    some message
  | _ => none

/-- What the loop reports for an order without a shipment. -/
def reportCreate (orderId : UUID) (e : PyException) : CreateResult :=
  ⟨orderId, false, some ((expectedCreate e).getD "Could not create a shipment for this order."),
    none⟩

theorem recoverCreate_silent (orderId : UUID) (e : PyException) (k : RequestSession)
    (st : ShipStore) : recoverCreate orderId e k st = .done (.ok (reportCreate orderId e),
      if (expectedCreate e).isSome then k else k.rollback) := by
  unfold recoverCreate
  split
  · rfl
  · rfl
  · rfl
  · rename_i hnotFound hconflict hintegration
    have hunexpected : expectedCreate e = none := by
      unfold expectedCreate
      split
      · exact absurd rfl (hnotFound _)
      · exact absurd rfl (hconflict _)
      · exact absurd rfl (hintegration _)
      · rfl
    rw [reportCreate, hunexpected]
    rfl

theorem expectedCreate_unexpected (f : Unexpected) : expectedCreate f.error = none := by
  unfold expectedCreate
  split
  · exact absurd ‹_› (f.unexpected _)
  · exact absurd ‹_› (f.unexpected _)
  · exact absurd ‹_› (f.unexpected _)
  · rfl

/-! ## Section 4: The two commits -/

theorem shipTransaction_run_error {α : Type} {actor : Option UUID}
    {write : ShipStore → Except PyException (α × ShipStore)} {e : PyException}
    {k : RequestSession} {st : ShipStore} (h : write st = .error e) :
    shipTransaction actor write k st = .done (.error e, k.execute) := by
  simp only [shipTransaction, h]

theorem shipTransaction_run_ok {α : Type} {actor : Option UUID}
    {write : ShipStore → Except PyException (α × ShipStore)} {a : α} {k : RequestSession}
    {st st' : ShipStore} (hk : k.CanRead actor) (h : write st = .ok (a, st')) :
    shipTransaction actor write k st = .commit st' (.done (.ok a, k.commit)) := by
  simp only [shipTransaction, h, if_pos hk]

theorem shipTransaction_run_expired {α : Type} {actor : Option UUID}
    {write : ShipStore → Except PyException (α × ShipStore)} {a : α} {k : RequestSession}
    {st st' : ShipStore} (hk : ¬ k.CanRead actor) (h : write st = .ok (a, st')) :
    shipTransaction actor write k st = .done (.error .missingGreenlet, k.execute) := by
  simp only [shipTransaction, h, if_neg hk]

/-- The row a synced shipment is written to is there afterwards. -/
theorem getShipment_of_upsertSynced {data : SyncedShipment} {payloadOrderId : Option String}
    {orderId : UUID} {st st' : ShipStore} {s : Shipment}
    (h : upsertSynced data payloadOrderId orderId st = .ok (s, st')) :
    st'.oms.db.getShipment s.id = some s := by
  unfold upsertSynced at h
  split at h
  · cases h
  · rename_i created db hupsert
    split at h
    · cases h
    · rename_i shipment hfind
      cases h
      exact TrackingDB.getShipment_eq_some.mpr ⟨Table.mem_of_find?_eq_some hfind, rfl⟩

section Commits

variable {setup : TrackingDB.ShiprocketSetup} {actor : Option UUID} {entry : CreateEntry}
  {k : RequestSession} {st st' : ShipStore} {s : Shipment}

/-- Nothing refuses the second commit. -/
theorem storeStatus_of_storeCreated (h : storeCreated setup entry st = .ok (s, st')) :
    ∃ s' st'', storeStatus entry.orderId s st' = .ok (s', st'') := by
  have hrow : st'.oms.db.getShipment s.id = some s := by
    unfold storeCreated at h
    split at h
    · cases h
    · split at h
      · cases h
      · split at h
        · cases h
        · exact getShipment_of_upsertSynced h
  obtain ⟨w, hwrite, -⟩ := Oms.updateShipment_of_keys hrow
    (markCreated (initialShopifyStatus st'.oms entry.orderId))
  exact ⟨_, _, by rw [storeStatus, hwrite]⟩

theorem createForLoaded_run_error {e : PyException} (h : storeCreated setup entry st = .error e) :
    createForLoaded setup actor entry k st = .done (.error e, k.execute) := by
  rw [createForLoaded, bind_run, shipTransaction_run_error h]
  rfl

theorem createForLoaded_run_ok {s' : Shipment} {st'' : ShipStore} (hk : k.CanRead actor)
    (h : storeCreated setup entry st = .ok (s, st'))
    (hstatus : storeStatus entry.orderId s st' = .ok (s', st'')) :
    createForLoaded setup actor entry k st =
      .commit st' (.commit st'' (.done (.ok s', k.commit.commit))) := by
  rw [createForLoaded, bind_run, shipTransaction_run_ok RequestSession.canRead_none h,
    Staged.andThen_commit, Staged.andThen_done, resume_ok,
    shipTransaction_run_ok (RequestSession.canRead_commit.mpr hk) hstatus]

/-- With the acting user expired the shipment is stored and the audit record raises. -/
theorem createForLoaded_run_expired (hk : ¬ k.CanRead actor)
    (h : storeCreated setup entry st = .ok (s, st')) :
    createForLoaded setup actor entry k st =
      .commit st' (.done (.error .missingGreenlet, k.commit.execute)) := by
  obtain ⟨s', st'', hstatus⟩ := storeStatus_of_storeCreated h
  rw [createForLoaded, bind_run, shipTransaction_run_ok RequestSession.canRead_none h,
    Staged.andThen_commit, Staged.andThen_done, resume_ok,
    shipTransaction_run_expired (fun h => hk (RequestSession.canRead_commit.mp h)) hstatus]

/-- With the acting user readable the outcome does not depend on the session. -/
theorem createForLoaded_same {k' : RequestSession} (hk : k.CanRead actor)
    (hk' : k'.CanRead actor) : SameOutcome (createForLoaded setup actor entry k st)
      (createForLoaded setup actor entry k' st) := by
  cases h : storeCreated setup entry st with
  | error e =>
    rw [createForLoaded_run_error h, createForLoaded_run_error h]
    exact ⟨rfl, rfl⟩
  | ok created =>
    obtain ⟨s', st'', hstatus⟩ := storeStatus_of_storeCreated h
    rw [createForLoaded_run_ok hk h hstatus, createForLoaded_run_ok hk' h hstatus]
    exact ⟨rfl, rfl⟩

theorem loaded_createForLoaded :
    (createForLoaded setup actor entry k st).result.2.loaded = k.loaded := by
  cases h : storeCreated setup entry st with
  | error e =>
    rw [createForLoaded_run_error h]
    rfl
  | ok created =>
    obtain ⟨s', st'', hstatus⟩ := storeStatus_of_storeCreated h
    by_cases hk : k.CanRead actor
    · rw [createForLoaded_run_ok hk h hstatus]
      rfl
    · rw [createForLoaded_run_expired hk h]
      rfl

end Commits

/-! ## Section 5: What a turn needs, restores and loses -/

/-- The order comes with the acting user, who confirmed it. -/
def LoadsActor (actor : Option UUID) (entry : CreateEntry) (st : ShipStore) : Prop :=
  ∃ id ∈ actor, confirmedBy st.oms entry.orderId = some id

/-- The call gets to its first commit. -/
def Creates (setup : TrackingDB.ShiprocketSetup) (entry : CreateEntry) (st : ShipStore) : Prop :=
  ∃ created, storeCreated setup entry st = .ok created

/-- The call fails unexpectedly in a transaction: what the failure strikes, or what Shiprocket or
the database raises before the first commit. -/
def RolledBack (setup : TrackingDB.ShiprocketSetup) (entry : CreateEntry) (st : ShipStore) : Prop :=
  match entry.fault with
  | some f => f.inTransaction = true ∨ f.commits = 0 ∨ ¬ Creates setup entry st
  | none => ∃ e, storeCreated setup entry st = .error e ∧ expectedCreate e = none

/-- A turn needs the acting user when it gets to its second commit, unless it loads that user
itself, and loses the row in a failure that is rolled back. -/
def createReliance (setup : TrackingDB.ShiprocketSetup) (actor : Option UUID) :
    Reliance CreateEntry ShipStore where
  Returns _ _ := True
  Needs entry st := ¬ LoadsActor actor entry st ∧ Creates setup entry st ∧
    ∀ f ∈ entry.fault, 2 ≤ f.commits
  Restores entry st := LoadsActor actor entry st
  Loses entry st := actor ≠ none ∧ RolledBack setup entry st

section Turn

variable {setup : TrackingDB.ShiprocketSetup} {actor : Option UUID} {entry : CreateEntry}
  {k : RequestSession} {st : ShipStore}

theorem inTransaction_shippingSession (w : Oms) (orderId : UUID) (k : RequestSession) :
    (shippingSession w orderId k).inTransaction = true := by
  unfold shippingSession
  split <;> rfl

theorem canRead_shippingSession : (shippingSession st.oms entry.orderId k).CanRead actor ↔
    k.CanRead actor ∨ LoadsActor actor entry st := by
  have hload : ∀ id, confirmedBy st.oms entry.orderId = some id →
      (((k.load (.order entry.orderId)).load (.user id)).CanRead actor ↔
        k.CanRead actor ∨ LoadsActor actor entry st) := by
    intro id hid
    cases actor with
    | none => simp
    | some id' => simp [RequestSession.CanRead, LoadsActor, hid, eq_comm, or_comm]
  have hnone : confirmedBy st.oms entry.orderId = none → ¬ LoadsActor actor entry st :=
    fun h => by simp [LoadsActor, h]
  cases horder : st.oms.db.orders.getOrder entry.orderId with
  | none =>
    have hconfirmed : confirmedBy st.oms entry.orderId = none := by rw [confirmedBy, horder]; rfl
    simp [shippingSession, horder, hnone hconfirmed]
  | some order =>
    cases hconfirmed : confirmedBy st.oms entry.orderId with
    | none =>
      have hread : (k.load (.order entry.orderId)).CanRead actor ↔ k.CanRead actor := by
        simp [RequestSession.CanRead]
      simp [shippingSession, horder, hconfirmed, hnone hconfirmed, hread]
    | some id =>
      simp only [shippingSession, horder, hconfirmed]
      exact hload id hconfirmed

theorem createAttempt_run : createAttempt setup actor entry k st =
    faulty (entry.fault.map (·.toFault)) (createForLoaded setup actor entry)
      (shippingSession st.oms entry.orderId k) st := by
  rw [createAttempt, bind_run]
  rfl

theorem createTurn_run : createTurn setup actor entry k st =
    (createAttempt setup actor entry k st).mapResult (settle
      (fun shipment => ⟨entry.orderId, true, none, some shipment.id⟩) (reportCreate entry.orderId)
      fun e k' => if (expectedCreate e).isSome then k' else k'.rollback) :=
  tryCatch_run_of_silent (recoverCreate_silent entry.orderId) k st

theorem states_createTurn :
    (createTurn setup actor entry k st).states = (createAttempt setup actor entry k st).states := by
  rw [createTurn_run, Staged.states_mapResult]

theorem result_createTurn : (createTurn setup actor entry k st).result = settle
    (fun shipment => ⟨entry.orderId, true, none, some shipment.id⟩) (reportCreate entry.orderId)
    (fun e k' => if (expectedCreate e).isSome then k' else k'.rollback)
    (createAttempt setup actor entry k st).result := by
  rw [createTurn_run, Staged.result_mapResult]

theorem createTurn_returns : ∃ r, (createTurn setup actor entry k st).result.1 = .ok r := by
  rw [result_createTurn]
  obtain ⟨e | shipment, k'⟩ := (createAttempt setup actor entry k st).result
  · exact ⟨_, rfl⟩
  · exact ⟨_, rfl⟩

/-- An attempt that no failure cuts short. -/
theorem createAttempt_of_none (hfault : entry.fault = none) :
    createAttempt setup actor entry k st =
      createForLoaded setup actor entry (shippingSession st.oms entry.orderId k) st := by
  rw [createAttempt_run, hfault]
  rfl

/-- One that a failure does. -/
theorem createAttempt_struck (setup : TrackingDB.ShiprocketSetup) (actor : Option UUID)
    (k : RequestSession) (st : ShipStore) {f : Unexpected} (hfault : entry.fault = some f) :
    (createAttempt setup actor entry k st).states = (createForLoaded setup actor entry
        (shippingSession st.oms entry.orderId k) st).states.take f.commits ∧
      (createAttempt setup actor entry k st).result = (.error f.error, f.session
        (createForLoaded setup actor entry (shippingSession st.oms entry.orderId k) st).commits
        (shippingSession st.oms entry.orderId k)) := by
  rw [createAttempt_run, hfault, Option.map_some, faulty_some, Staged.states_failAt,
    Staged.result_failAt]
  exact ⟨rfl, rfl⟩

theorem createTurn_same {k' : RequestSession}
    (h : SameOutcome
      (createForLoaded setup actor entry (shippingSession st.oms entry.orderId k) st)
      (createForLoaded setup actor entry (shippingSession st.oms entry.orderId k') st)) :
    SameOutcome (createTurn setup actor entry k st) (createTurn setup actor entry k' st) := by
  refine .tryCatch_of_silent (recoverCreate_silent entry.orderId) ?_
  rw [createAttempt_run, createAttempt_run]
  exact sameOutcome_faulty _ h

/-- Whether the second commit is made can be told from the outcome. -/
theorem createTurn_same_iff {k' : RequestSession}
    (hk : ¬ (shippingSession st.oms entry.orderId k).CanRead actor)
    (hk' : (shippingSession st.oms entry.orderId k').CanRead actor)
    (h : Creates setup entry st) :
    SameOutcome (createTurn setup actor entry k st) (createTurn setup actor entry k' st) ↔
      ¬ ∀ f ∈ entry.fault, 2 ≤ f.commits := by
  obtain ⟨⟨s, st'⟩, hstore⟩ := h
  obtain ⟨s', st'', hstatus⟩ := storeStatus_of_storeCreated hstore
  have hexpired := createForLoaded_run_expired hk hstore
  have hreadable := createForLoaded_run_ok hk' hstore hstatus
  cases hfault : entry.fault with
  | none =>
    refine iff_of_false (fun hsame => ?_) (by simp)
    have hstates := hsame.states_eq
    rw [states_createTurn, states_createTurn, createAttempt_of_none hfault,
      createAttempt_of_none hfault, hexpired, hreadable] at hstates
    simp [Staged.states] at hstates
  | some f =>
    obtain ⟨hstates, hresult⟩ := createAttempt_struck setup actor k st hfault
    obtain ⟨hstates', hresult'⟩ := createAttempt_struck setup actor k' st hfault
    rw [hexpired] at hstates
    rw [hreadable] at hstates'
    simp only [Option.mem_def, Option.some.injEq, forall_eq', not_le]
    constructor
    · rintro ⟨hsame, -⟩
      rw [states_createTurn, states_createTurn, hstates, hstates'] at hsame
      have hlength := congrArg List.length hsame
      simp only [Staged.states, List.length_take, List.length_cons, List.length_nil] at hlength
      omega
    · intro hfew
      refine ⟨?_, by rw [result_createTurn, result_createTurn, hresult, hresult']; rfl⟩
      rw [states_createTurn, states_createTurn, hstates, hstates']
      obtain hcommits | hcommits : f.commits = 0 ∨ f.commits = 1 := by omega
      · rw [hcommits]
        rfl
      · rw [hcommits]
        rfl

/-- Whatever happens in a turn whose acting user is expired and stays so when the order is
loaded, the user is expired afterwards. -/
theorem createTurn_stays_expired
    (hk : ¬ (shippingSession st.oms entry.orderId k).CanRead actor) :
    ¬ (createTurn setup actor entry k st).result.2.CanRead actor := by
  have hloaded : (createAttempt setup actor entry k st).result.2.loaded =
      (shippingSession st.oms entry.orderId k).loaded := by
    cases hfault : entry.fault with
    | none => rw [createAttempt_of_none hfault, loaded_createForLoaded]
    | some f =>
      rw [(createAttempt_struck setup actor _ _ hfault).2]
      rfl
  intro hread
  refine hk (hread.mono fun e he => ?_)
  rw [← hloaded]
  rw [result_createTurn] at he
  revert he
  generalize (createAttempt setup actor entry k st).result = r
  obtain ⟨e' | shipment, k'⟩ := r
  · rw [settle]
    dsimp only
    split
    · exact id
    · exact RequestSession.loaded_rollback_subset e
  · exact id

/-- A readable user is lost in a failure that is rolled back, and only there. -/
theorem createTurn_loses_iff
    (hk : (shippingSession st.oms entry.orderId k).CanRead actor) :
    (createTurn setup actor entry k st).result.2.CanRead actor ↔
      ¬ (actor ≠ none ∧ RolledBack setup entry st) := by
  have hbegun := inTransaction_shippingSession st.oms entry.orderId k
  rw [result_createTurn]
  cases hfault : entry.fault with
  | none =>
    -- then only what the creation itself raises can be rolled back
    have hrolled : RolledBack setup entry st ↔
        ∃ e, storeCreated setup entry st = .error e ∧ expectedCreate e = none := by
      rw [RolledBack, hfault]
    rw [createAttempt_of_none hfault, hrolled]
    cases hstore : storeCreated setup entry st with
    | error e =>
      rw [createForLoaded_run_error hstore, RequestSession.execute_of_inTransaction hbegun,
        Staged.result_done, settle]
      cases hexpected : expectedCreate e with
      | some message =>
        refine iff_of_true hk fun h => ?_
        obtain ⟨-, e', heq, hnone⟩ := h
        cases heq
        rw [hexpected] at hnone
        cases hnone
      | none =>
        rw [Option.isSome_none, if_neg Bool.false_ne_true, RequestSession.canRead_rollback,
          and_iff_right hk, hbegun]
        simp [hexpected]
    | ok created =>
      obtain ⟨s', st'', hstatus⟩ := storeStatus_of_storeCreated hstore
      rw [createForLoaded_run_ok hk hstore hstatus]
      exact iff_of_true hk (by simp)
  | some f =>
    -- the failure is rolled back in a transaction: its own, or the one the turn has begun
    have hrolled : RolledBack setup entry st ↔ f.inTransaction = true ∨
        f.commits = 0 ∨ ¬ Creates setup entry st := by rw [RolledBack, hfault]
    have hfirst : min f.commits (createForLoaded setup actor entry
        (shippingSession st.oms entry.orderId k) st).commits = 0 ↔
          f.commits = 0 ∨ ¬ Creates setup entry st := by
      cases hstore : storeCreated setup entry st with
      | error e =>
        rw [createForLoaded_run_error hstore]
        exact iff_of_true (Nat.min_zero _) (.inr (by simp [Creates, hstore]))
      | ok created =>
        obtain ⟨s', st'', hstatus⟩ := storeStatus_of_storeCreated hstore
        rw [createForLoaded_run_ok hk hstore hstatus]
        simp [Creates, hstore, Staged.commits]
    rw [(createAttempt_struck setup actor _ _ hfault).2, settle, expectedCreate_unexpected,
      Option.isSome_none, if_neg Bool.false_ne_true, RequestSession.canRead_rollback, hrolled,
      ← hfirst, ← Fault.inTransaction_session hbegun,
      and_iff_right (show (f.session _ (shippingSession st.oms entry.orderId k)).CanRead actor
        from hk)]
    cases actor with
    | none => simp
    | some id => simp

end Turn

/-- What the turns of a bulk creation need, restore and lose. -/
theorem createReliance_sound (setup : TrackingDB.ShiprocketSetup) (actor : Option UUID) :
    (createReliance setup actor).Sound (createTurn setup actor) (.authenticated actor)
      fun k => k.CanRead actor where
  returns_iff _ _ := iff_of_true True.intro createTurn_returns
  same_iff entry k st _ := by
    have hfresh : (shippingSession st.oms entry.orderId (.authenticated actor)).CanRead actor :=
      canRead_shippingSession.mpr (.inl (RequestSession.canRead_authenticated actor))
    by_cases hk : (shippingSession st.oms entry.orderId k).CanRead actor
    · refine iff_of_true (createTurn_same (createForLoaded_same hk hfresh)) ?_
      exact (canRead_shippingSession.mp hk).imp id fun h hneeds => hneeds.1 h
    have hnot : ¬ k.CanRead actor ∧ ¬ LoadsActor actor entry st :=
      not_or.mp fun h => hk (canRead_shippingSession.mpr h)
    have hneeds : (createReliance setup actor).Needs entry st ↔ Creates setup entry st ∧
        ∀ f ∈ entry.fault, 2 ≤ f.commits := and_iff_right hnot.2
    rw [or_iff_right hnot.1, hneeds]
    by_cases hcreates : Creates setup entry st
    · rw [createTurn_same_iff hk hfresh hcreates, and_iff_right hcreates]
    · refine iff_of_true (createTurn_same ?_) fun h => hcreates h.1
      cases hstore : storeCreated setup entry st with
      | ok created => exact absurd ⟨created, hstore⟩ hcreates
      | error e =>
        rw [createForLoaded_run_error hstore, createForLoaded_run_error hstore]
        exact ⟨rfl, rfl⟩
  holds_iff entry k st _ _ := by
    by_cases hk : (shippingSession st.oms entry.orderId k).CanRead actor
    · exact (createTurn_loses_iff hk).trans
        (and_iff_right (canRead_shippingSession.mp hk)).symm
    · exact iff_of_false (createTurn_stays_expired hk)
        fun h => hk (canRead_shippingSession.mpr h.1)

end AyushOms.Shipments
