import AyushOms.Sync.ShiprocketPaging
import AyushOms.Tracking.Dispatch
import AyushOms.Tracking.Identity
import AyushOms.Tracking.RefreshIsolation

/-!
# Reconciliation of Tracking

The courier answers for an AWB with a list of tracking activities. The refresh writes the status
of every activity it can, one after another; the reconciliation reads the last one, with or
without a time, and reports a shipment whose status is another.

## Main results

- `applyTrackingEvents_spec`: the status the processing of a response leaves
- `agrees_iff`: the responses after which the reconciliation reports no status mismatch
-/

namespace AyushOms.Tracking

open AyushOms.Lib AyushOms.Orders

/-! ## Section 1: A response of the courier -/

/-- One tracking activity, with the types its readers ask for; `id` is the text `str` gives. -/
structure TrackingActivity where
  id : Option String := none
  status : Option String := none
  currentStatus : Option String := none
  activity : Option String := none
  srStatusLabel : Option String := none
  date : Option String := none
  timestamp : Option String := none
  location : Option String := none
  courierName : Option String := none
  deriving DecidableEq, Repr

/-- An object the activities are read from. A key that is absent has the empty list. -/
structure TrackingData where
  awb : Option String := none
  shipmentTrackActivities : List TrackingActivity := []
  shipmentTrack : List TrackingActivity := []

/-- What a response has under `tracking_data`: nothing, `{}` or an object with fields. -/
inductive TrackingDataField where
  | absent
  | empty
  | present (data : TrackingData)

/-- What `get_tracking` returns. -/
structure TrackingResponse extends TrackingData where
  trackingData : TrackingDataField := .absent

/-- `extract_tracking_events`. -/
def extractTrackingEvents (rawResponse : TrackingResponse) : List TrackingActivity :=
  let trackingData := match rawResponse.trackingData with
    | .present data => data
    | .absent | .empty => rawResponse.toTrackingData
  match trackingData.shipmentTrackActivities with
  | [] => trackingData.shipmentTrack
  | activities => activities

/-- The instant `AwareDateTime` stores; a reading without a time zone is taken as UTC. -/
def storedInstant : Datetime → Instant
  | .naive reading => reading
  | .aware instant => instant

section Normalizer

variable [Sync.ShiprocketTimes] [IsoFormat]

/-- `_parse_datetime` of a text. -/
def parseTimestamp (value : Option String) : Option Instant :=
  match value with
  | none => none
  | some text =>
    match Sync.parseDatetime (.str text) with
    | .ok parsed => parsed.map storedInstant
    | .error _ => none

/-- `ShiprocketTrackingNormalizer.normalize_event`. -/
def normalizeEvent (raw : TrackingActivity) : NormalizedEvent :=
  let rawStatus := pyOr raw.status (pyOr raw.currentStatus (pyOr raw.activity none))
  { externalEventId := raw.id
    status := rawStatus.getD ""
    location := raw.location
    eventTimestamp := parseTimestamp (pyOr raw.date raw.timestamp)
    description := pyOr raw.activity (pyOr raw.srStatusLabel rawStatus)
    courierName := raw.courierName }

/-- A text is never read as a value of another type. -/
theorem parseTimestamp_some (text : String) :
    ∃ parsed, Sync.parseDatetime (.str text) = .ok parsed ∧
      parseTimestamp (some text) = parsed.map storedInstant := by
  have hok : ∃ parsed, Sync.parseDatetime (.str text) = .ok parsed := by
    unfold Sync.parseDatetime
    split
    · simp only [Json.text, bind, Except.bind]
      split
      · exact ⟨_, rfl⟩
      · exact ⟨_, rfl⟩
    · exact ⟨none, rfl⟩
  obtain ⟨parsed, hparsed⟩ := hok
  exact ⟨parsed, hparsed, by rw [parseTimestamp, hparsed]⟩

end Normalizer

/-! ## Section 2: The reconciliation -/

/-- `ReconciliationStatus`. -/
inductive ReconciliationStatus where
  | reconciled | mismatch | missing | error
  deriving DecidableEq, Repr

/-- A row of `reconciliation_results`; the two values are dictionaries with one key. -/
structure ReconciliationResult where
  checkType : String
  provider : String := "shiprocket"
  entityType : String := "shipment"
  internalId : UUID
  externalId : Option String
  expectedValue : Option (String × String)
  actualValue : Option (String × Option String) := none
  status : ReconciliationStatus
  message : Option String := none
  deriving DecidableEq, Repr

/-- What a check has recorded when it ends, or when it raises. -/
structure Checked where
  results : List ReconciliationResult := []
  raised : Option PyException := none

/-- The record of a comparison: a message explains a mismatch. -/
def compared (checkType : String) (s : Shipment) (key expected : String) (actual : Option String)
    (same : Bool) (explanation : String) : ReconciliationResult where
  checkType := checkType
  internalId := s.id
  externalId := s.shiprocketShipmentId
  expectedValue := some (key, expected)
  actualValue := some (key, actual)
  status := if same then .reconciled else .mismatch
  message := if same then none else some explanation

/-- `_RTO_STATUS_FROM_TRACKING`. -/
def rtoStatusFromTracking : ShipmentStatus → Option RTOStatus
  | .rtoInitiated => some .initiated
  | .rtoDelivered => some .received
  | _ => none

/-- It mirrors the table of the refresh. -/
theorem rtoStatusFromTracking_eq (status : ShipmentStatus) :
    rtoStatusFromTracking status = rtoStatusFromShipmentStatus status := by
  cases status <;> rfl

/-- `RTOStatus.value`. -/
def rtoStatusValue : RTOStatus → String
  | .initiated => "initiated"
  | .inTransit => "in_transit"
  | .received => "received"
  | .cancelled => "cancelled"

/-- `provider_awb`: an empty `tracking_data` is a dictionary here. -/
def providerAwb (raw : TrackingResponse) : Option String :=
  match raw.trackingData with
  | .present data => pyOr data.awb none
  | .empty => none
  | .absent => pyOr raw.awb none

/-- The check of the AWB. -/
def awbResults (s : Shipment) (raw : TrackingResponse) : List ReconciliationResult :=
  match providerAwb raw with
  | none => []
  | some awb => [compared "awb_mismatch" s "awb" awb s.awb (s.awb == some awb)
      "AWB on file differs from Shiprocket's tracking response."]

/-- The check of the courier; `courierName` is the name of a loaded courier. -/
def courierResults (courierName : UUID → Option String) (s : Shipment)
    (normalized : NormalizedEvent) : List ReconciliationResult :=
  match pyOr normalized.courierName none with
  | none => []
  | some provider =>
    let oms := s.courierId.bind courierName
    [compared "courier_mismatch" s "courier" provider oms (oms == some provider)
      "Courier on file differs from Shiprocket's latest tracking event."]

/-- The check of the status. -/
def statusResult (s : Shipment) (mapped : ShipmentStatus) : ReconciliationResult :=
  compared "tracking_status_mismatch" s "status" mapped.value s.currentStatus.value
    (mapped == s.currentStatus) ("OMS shipment status is stale relative to Shiprocket — a " ++
      "tracking refresh should resolve this.")

/-- The check of the return to origin; `scalar_one_or_none` raises when there are two. -/
def rtoResult (db : TrackingDB) (s : Shipment) (status : RTOStatus) :
    Except PyException ReconciliationResult :=
  match db.rtos.rows.filter fun r => r.shipmentId == s.id with
  | [] => .ok {
      checkType := "rto_mismatch"
      entityType := "rto"
      internalId := s.id
      externalId := s.shiprocketShipmentId
      expectedValue := some ("rto_status", rtoStatusValue status)
      status := .missing
      message := "Latest tracking indicates RTO but no RTO record exists in OMS." }
  | [r] => .ok { compared "rto_mismatch" s "rto_status" (rtoStatusValue status)
      (rtoStatusValue r.status) (r.status == status)
      "RTO status in OMS differs from what the latest tracking event implies." with
      entityType := "rto"
      internalId := r.id }
  | _ => .error Raised.multipleResultsFound.exception

section Reconciliation

variable [PyText] [Sync.ShiprocketTimes] [IsoFormat]

/-- One turn of the loop of `_check_shiprocket_tracking_family`, from the courier's answer on. -/
def checkTracking (courierName : UUID → Option String) (db : TrackingDB) (s : Shipment)
    (raw : TrackingResponse) : Checked :=
  let awb := awbResults s raw
  match (extractTrackingEvents raw).getLast? with
  | none => { results := awb }
  | some last =>
    let normalized := normalizeEvent last
    let results := awb ++ courierResults courierName s normalized
    match normalized.mappedStatus with
    | none => { results := results }
    | some mapped =>
      let results := results ++ [statusResult s mapped]
      match rtoStatusFromTracking mapped with
      | none => { results := results }
      | some rtoStatus =>
        match rtoResult db s rtoStatus with
        | .ok result => { results := results ++ [result] }
        | .error e => { results := results, raised := some e }

/-- The loop. -/
def checkTrackingFamily (courierName : UUID → Option String) (db : TrackingDB)
    (getTracking : String → Except PyException TrackingResponse) : List Shipment → Checked
  | [] => {}
  | s :: rest =>
    match s.awb with
    | none => { raised := some (.other "") }
    | some awb =>
      match getTracking awb with
      | .error e => { raised := some e }
      | .ok raw =>
        let turn := checkTracking courierName db s raw
        match turn.raised with
        | some _ => turn
        | none =>
          let others := checkTrackingFamily courierName db getTracking rest
          { others with results := turn.results ++ others.results }

/-- `_SAMPLE_LIMIT`. -/
def sampleLimit : ℕ := 25

/-- The shipments the reconciliation can check. -/
def reconciliationSelects (s : Shipment) : Bool := s.awb.isSome && s.shiprocketShipmentId.isSome

/-- The shipments of a run; `newestFirst` is `ORDER BY updated_at DESC`. -/
def trackingSample (newestFirst : List Shipment → List Shipment) (db : TrackingDB) :
    List Shipment :=
  (newestFirst (db.shipments.rows.filter reconciliationSelects)).take sampleLimit

/-- `_check_shiprocket_tracking_family`. -/
def checkShiprocketTrackingFamily (courierName : UUID → Option String)
    (newestFirst : List Shipment → List Shipment) (db : TrackingDB)
    (getTracking : String → Except PyException TrackingResponse) : Checked :=
  checkTrackingFamily courierName db getTracking (trackingSample newestFirst db)

end Reconciliation

/-! ## Section 3: What the refresh writes -/

open TrackingDB (TrackingCall StatusWritten)

/-- The stock effects that a poll finds failing, by the position of the event. -/
structure StockFailures where
  dispatch : ℕ → Bool := fun _ => false
  restock : ℕ → Bool := fun _ => false

/-- The calls of `apply_tracking_event` for a response. -/
def trackingCalls [Sync.ShiprocketTimes] [IsoFormat] (failures : StockFailures)
    (raw : TrackingResponse) : List TrackingCall :=
  (extractTrackingEvents raw).mapIdx fun i activity =>
    { event := normalizeEvent activity
      dispatchRaises := failures.dispatch i
      restockRaises := failures.restock i }

/-- A row of the timelines is the event: by id when it has one, else by status and time. -/
def records (shipmentId : UUID) (e : NormalizedEvent) (eventTimestamp : Instant)
    (row : ShipmentEvent) : Bool :=
  row.shipmentId == shipmentId && match pyOr e.externalEventId none with
    | some id => row.externalEventId == some id
    | none => row.status == e.status && row.eventTimestamp == eventTimestamp

/-- The timelines with an event added, or known already; `none` when they refuse it. -/
def timelinesWith (events : ShipmentEventTable) (shipmentId : UUID) (e : NormalizedEvent)
    (eventTimestamp : Instant) (source : String) : Option ShipmentEventTable :=
  match events.rows.filter (records shipmentId e eventTimestamp) with
  | [] => events.insert? (TrackingDB.eventRow shipmentId e eventTimestamp source)
  | [_] => some events
  | _ => none

section Written

variable [PyText]

/-- A stock effect of the event raises. -/
def stockRaises (call : TrackingCall) : Bool :=
  match call.event.mappedStatus with
  | none => false
  | some status => (dispatchedStatuses.contains status && call.dispatchRaises) ||
      (status == .rtoDelivered && call.restockRaises)

/-- The events of a poll whose status is written: those with a time that the timelines take, up
to the first they refuse or whose stock effect raises. -/
def written (shipmentId : UUID) : ShipmentEventTable → List TrackingCall → List NormalizedEvent
  | _, [] => []
  | events, call :: calls =>
    match call.event.eventTimestamp with
    | none => written shipmentId events calls
    | some eventTimestamp =>
      match timelinesWith events shipmentId call.event eventTimestamp call.source with
      | none => []
      | some events =>
        call.event :: if stockRaises call then [] else written shipmentId events calls

/-- The last known status among events, or the status before them. -/
def statusAfter (before : ShipmentStatus) (events : List NormalizedEvent) : ShipmentStatus :=
  (events.filterMap NormalizedEvent.mappedStatus).getLast?.getD before

theorem statusAfter_cons (before : ShipmentStatus) (e : NormalizedEvent)
    (events : List NormalizedEvent) : statusAfter before (e :: events) =
      statusAfter (e.mappedStatus.getD before) events := by
  unfold statusAfter
  cases hmapped : e.mappedStatus with
  | none => rw [List.filterMap_cons_none hmapped, Option.getD_none]
  | some status =>
    rw [List.filterMap_cons_some hmapped, List.getLast?_cons, Option.getD_some, Option.getD_some]

end Written

/-- The timelines, and the status of the shipment. -/
def TrackedAs (shipmentId : UUID) (events : ShipmentEventTable) (status : ShipmentStatus)
    (db : TrackingDB) : Prop :=
  db.events = events ∧ ∃ r ∈ db.shipments.rows, r.id = shipmentId ∧ r.currentStatus = status

/-- Writing a status of the shipment and no event. -/
theorem TrackedAs.of_statusWritten {id : UUID} {events : ShipmentEventTable}
    {before : ShipmentStatus} {db db' : TrackingDB} {status : Option ShipmentStatus}
    (h : TrackedAs id events before db) (hwritten : StatusWritten db db' id status)
    {events' : ShipmentEventTable} (hevents : db'.events = events') :
    TrackedAs id events' (status.getD before) db' := by
  obtain ⟨-, r, hr, rfl, rfl⟩ := h
  obtain ⟨r', hr', hid, -, -, hstatus⟩ := hwritten.of_mem hr
  exact ⟨hevents, r', hr', hid, hstatus⟩

/-- The duplicates of an event are the rows that are the event. -/
theorem duplicates_eq_filter (db : TrackingDB) (id : UUID) (e : NormalizedEvent)
    (eventTimestamp : Instant) :
    db.duplicates id e.externalEventId e.status eventTimestamp =
      db.events.rows.filter (records id e eventTimestamp) := by
  unfold TrackingDB.duplicates
  cases hid : pyOr e.externalEventId none with
  | none => exact List.filter_congr fun row _ => by rw [records, hid, Bool.and_assoc]
  | some externalId => exact List.filter_congr fun row _ => by rw [records, hid]

/-- `add_tracking_event` of a shipment there is raises when the timelines refuse the event. -/
theorem addTrackingEvent_timelines {db : TrackingDB} {id : UUID}
    (hs : ∃ r ∈ db.shipments.rows, r.id = id) (e : NormalizedEvent) (eventTimestamp : Instant)
    (source : String) :
    (∃ raised, db.addTrackingEvent id e eventTimestamp source = .error raised ∧
      timelinesWith db.events id e eventTimestamp source = none) ∨
    ∃ created db', db.addTrackingEvent id e eventTimestamp source = .ok (created, db') ∧
      (created = false → db' = db) ∧
      timelinesWith db.events id e eventTimestamp source = some db'.events := by
  obtain ⟨r, hr, hid⟩ := hs
  have hget := TrackingDB.getShipment_eq_some.mpr ⟨hr, hid⟩
  unfold TrackingDB.addTrackingEvent timelinesWith
  rw [hget, duplicates_eq_filter]
  dsimp only
  -- a new event is inserted, a known one returned, and two rows that match raise
  rcases db.events.rows.filter (records id e eventTimestamp) with _ | ⟨known, _ | ⟨_, _⟩⟩
  · dsimp only
    cases db.events.insert? (TrackingDB.eventRow id e eventTimestamp source) with
    | none => exact .inl ⟨_, rfl, rfl⟩
    | some events => exact .inr ⟨true, _, rfl, fun h => (by cases h), rfl⟩
  · exact .inr ⟨false, db, rfl, fun _ => rfl, rfl⟩
  · exact .inl ⟨_, rfl, rfl⟩

/-! ## Section 4: The services -/

section Services

variable {α β : Type} {id : UUID} {events : ShipmentEventTable} {before : ShipmentStatus}

/-- What holds at the end of a service call: whether it raises, the timelines and the status. -/
def Leaves (id : UUID) (raises : Bool) (events : ShipmentEventTable) (status : ShipmentStatus)
    (r : Except PyException α) (_ : RequestSession) (db : TrackingDB) : Prop :=
  r.isOk = !raises ∧ TrackedAs id events status db

/-- What is said of a call is said of it after another call. -/
theorem Leaves.followed {raises : Bool} {a : α} {p : TrackingProc β}
    {Q : Except PyException β → RequestSession → TrackingDB → Prop}
    (hp : p.Triple (fun _ => TrackedAs id events before) Q) :
    p.Triple (Leaves id raises events before (.ok a)) Q :=
  hp.weaken fun _ _ h => h.2

/-- A call that returns is followed by another. -/
theorem Leaves.bind {p : TrackingProc α} {f : α → TrackingProc β} {events' : ShipmentEventTable}
    {status : ShipmentStatus} {Q : Except PyException β → RequestSession → TrackingDB → Prop}
    (hp : p.Triple (fun _ => TrackedAs id events before) (Leaves id false events' status))
    (hf : ∀ a, (f a).Triple (fun _ => TrackedAs id events' status) Q) :
    (p >>= f).Triple (fun _ => TrackedAs id events before) Q :=
  Proc.Spec.bind hp (fun a => followed (hf a)) fun e k db h => by cases h.1

theorem addTrackingEvent_spec (e : NormalizedEvent) (eventTimestamp : Instant) (source : String) :
    (addTrackingEvent id e eventTimestamp source).Triple
      (fun _ => TrackedAs id events before)
      (match timelinesWith events id e eventTimestamp source with
        | none => Leaves id true events before
        | some events' => Leaves id false events' before) := by
  rw [Proc.triple_iff]
  rintro k db ⟨rfl, hs⟩
  obtain ⟨r, hr, hid, hstatus⟩ := hs
  unfold addTrackingEvent
  rcases addTrackingEvent_timelines ⟨r, hr, hid⟩ e eventTimestamp source with
    ⟨raised, hadd, hrefused⟩ | ⟨created, db', hadd, hsame, htaken⟩
  · rw [hadd, hrefused]
    exact ⟨rfl, rfl, r, hr, hid, hstatus⟩
  · have hwritten : StatusWritten db db' id none := (TrackingDB.addTrackingEvent_eq_ok hadd).1
    have hbefore : TrackedAs id db.events before db := ⟨rfl, r, hr, hid, hstatus⟩
    have htracked : TrackedAs id db'.events before db' := hbefore.of_statusWritten hwritten rfl
    rw [hadd, htaken]
    cases created with
    | true => exact ⟨rfl, htracked⟩
    | false =>
      obtain rfl := hsame rfl
      exact ⟨rfl, htracked⟩

/-- Under an external id there is one return at most. -/
theorem length_rtosByExternalId (db : TrackingDB) (externalId : String) :
    (db.rtosByExternalId .shiprocket (some externalId)).length ≤ 1 := by
  refine db.rtos.length_filter_le_one (k := .external (.shiprocket, externalId)) fun r hr => ?_
  simp only [Bool.and_eq_true, beq_iff_eq] at hr
  simp [RTO.keys, mem_externalKey, hr.1, hr.2]

/-- A return under an external id that is free is inserted: its id is new. -/
theorem exists_insertRto (db : TrackingDB) {data : TrackingDB.SyncedRTO} {externalId : String}
    (hexternal : data.externalId = some externalId)
    (hnone : db.rtosByExternalId .shiprocket data.externalId = []) :
    ∃ rtos, db.rtos.insert? (data.newRow (OrdersDB.unusedId (db.rtos.rows.map (·.id)))) =
      some rtos := by
  have hfree : ∀ r ∈ db.rtos.rows, r.sourceSystem = some .shiprocket →
      r.externalId ≠ some externalId := by
    intro r hr hsource hid
    have hmem : r ∈ db.rtosByExternalId .shiprocket data.externalId :=
      List.mem_filter.mpr ⟨hr, by simp [hsource, hid, hexternal]⟩
    rw [hnone] at hmem
    cases hmem
  refine db.rtos.exists_insert? ?_ fun k hk r hr hkr => ?_
  · simp [RTO.keys, TrackingDB.SyncedRTO.newRow, hexternal, externalKey]
  · rw [RTO.keys, List.mem_cons, List.mem_map] at hk hkr
    rcases hk with rfl | ⟨key, hkey, rfl⟩
    · have hid : OrdersDB.unusedId (db.rtos.rows.map (·.id)) = r.id := by
        simpa [TrackingDB.SyncedRTO.newRow] using hkr
      exact absurd hid.symm (OrdersDB.lt_unusedId (List.mem_map_of_mem hr)).ne
    · have hkey' : key ∈ externalKey r.sourceSystem r.externalId := by simpa using hkr
      rw [TrackingDB.SyncedRTO.newRow, hexternal, mem_externalKey] at hkey
      rw [mem_externalKey, ← hkey.1, ← hkey.2] at hkey'
      exact hfree r hr hkey'.1 hkey'.2

/-- So the upsert of a return under an external id does not raise. -/
theorem exists_upsertSyncedRto (db : TrackingDB) (data : TrackingDB.SyncedRTO) {externalId : String}
    (hexternal : data.externalId = some externalId) :
    ∃ rtoId db', db.upsertSyncedRto data = .ok (rtoId, db') ∧ db'.events = db.events := by
  have hone := length_rtosByExternalId db externalId
  rw [← hexternal] at hone
  unfold TrackingDB.upsertSyncedRto
  cases hfound : db.rtosByExternalId .shiprocket data.externalId with
  | nil =>
    obtain ⟨rtos, hrtos⟩ := exists_insertRto db hexternal hfound
    dsimp only
    rw [hrtos]
    exact ⟨_, _, rfl, rfl⟩
  | cons existing others =>
    cases others with
    | nil => exact ⟨_, _, rfl, rfl⟩
    | cons _ _ =>
      rw [hfound] at hone
      simp at hone

/-- A write that touches neither the timelines nor the status. -/
theorem writeTracking_spec {f : TrackingDB → Except Raised (α × TrackingDB)}
    {status : ShipmentStatus} (hf : ∀ db, TrackedAs id events before db →
      ∃ a db', f db = .ok (a, db') ∧ TrackedAs id events status db') :
    (writeTracking f).Triple (fun _ => TrackedAs id events before)
      (Leaves id false events status) := by
  rw [Proc.triple_iff]
  intro k db h
  obtain ⟨a, db', hdb', hafter⟩ := hf db h
  unfold writeTracking
  rw [hdb']
  exact ⟨rfl, hafter⟩

theorem updateStatus_spec (status : ShipmentStatus) :
    (writeTracking fun db => .ok (PUnit.unit, db.updateStatus id (some status))).Triple
      (fun _ => TrackedAs id events before) (Leaves id false events status) :=
  writeTracking_spec fun db h => ⟨_, _, rfl, h.of_statusWritten
    (TrackingDB.statusWritten_updateStatus db id (some status)) h.1⟩

/-- Stock is written, or the failure ends the call. -/
theorem stockEffect_spec (raises : Bool) {f : TrackingDB → TrackingDB}
    (hf : ∀ db, (f db).events = db.events ∧ (f db).shipments = db.shipments) :
    (stockEffect id raises f).Triple (fun _ => TrackedAs id events before)
      (Leaves id raises events before) := by
  cases raises with
  | true =>
    rw [Proc.triple_iff]
    intro k db h
    rw [stockEffect_run_raises]
    exact ⟨rfl, h⟩
  | false =>
    rw [stockEffect, if_neg Bool.false_ne_true]
    refine writeTracking_spec fun db h => ⟨_, _, rfl, (hf db).1.trans h.1, ?_⟩
    rw [(hf db).2]
    exact h.2

theorem skip_spec : (pure PUnit.unit : TrackingProc PUnit).Triple
    (fun _ => TrackedAs id events before) (Leaves id false events before) :=
  Proc.Spec.pure fun _ _ h => ⟨rfl, h⟩

theorem dispatchEffect_spec (s : Shipment) (call : TrackingCall) (status : ShipmentStatus) :
    (dispatchEffect s call status).Triple (fun _ => TrackedAs s.id events before)
      (Leaves s.id (dispatchedStatuses.contains status && call.dispatchRaises) events before) := by
  unfold dispatchEffect
  refine Proc.Spec.ite (fun hstatus => ?_) fun hstatus => ?_
  · rw [List.contains_iff_mem.mpr hstatus, Bool.true_and]
    exact stockEffect_spec _ fun _ => ⟨rfl, rfl⟩
  · have hfalse : dispatchedStatuses.contains status = false := by simpa using hstatus
    rw [hfalse, Bool.false_and]
    exact skip_spec

/-- The effect of a status on the return of a shipment with an AWB. -/
theorem returnEffect_spec {s : Shipment} {awb : String} (hawb : s.awb = some awb)
    (call : TrackingCall) (status : ShipmentStatus) :
    (returnEffect s call status).Triple (fun _ => TrackedAs s.id events before)
      (Leaves s.id (status == .rtoDelivered && call.restockRaises) events before) := by
  have hupsert : ∀ rtoStatus : RTOStatus, (writeTracking fun db => db.upsertSyncedRto {
      externalId := s.awb, shipmentId := s.id, orderId := s.orderId, courierId := s.courierId
      status := rtoStatus, externalReason := call.event.description }).Triple
      (fun _ => TrackedAs s.id events before) (Leaves s.id false events before) := by
    refine fun rtoStatus => writeTracking_spec fun db h => ?_
    obtain ⟨rtoId, db', hdb', hevents⟩ := exists_upsertSyncedRto db {
      externalId := s.awb, shipmentId := s.id, orderId := s.orderId, courierId := s.courierId
      status := rtoStatus, externalReason := call.event.description } hawb
    exact ⟨rtoId, db', hdb', h.of_statusWritten (TrackingDB.upsertSyncedRto_eq_ok hdb').1
      (hevents.trans h.1)⟩
  unfold returnEffect
  cases status with
  | rtoInitiated => exact Leaves.bind (hupsert .initiated) fun _ => skip_spec
  | rtoDelivered =>
    refine Leaves.bind (hupsert .received) fun rtoId => ?_
    unfold restockEffect
    rw [if_pos rfl]
    exact stockEffect_spec call.restockRaises fun _ => ⟨rfl, rfl⟩
  | _ => exact skip_spec

variable [PyText]

/-- The effects of a status that has been written. -/
theorem effects_spec {s : Shipment} {awb : String} (hawb : s.awb = some awb) (call : TrackingCall)
    {status : ShipmentStatus} (hstatus : call.event.mappedStatus = some status) (created : Bool) :
    (do dispatchEffect s call status
        returnEffect s call status
        return created : TrackingProc Bool).Triple
      (fun _ => TrackedAs s.id events before) (Leaves s.id (stockRaises call) events before) := by
  have hraises : stockRaises call =
      ((dispatchedStatuses.contains status && call.dispatchRaises) ||
        (status == .rtoDelivered && call.restockRaises)) := by
    unfold stockRaises
    rw [hstatus]
  rw [hraises]
  have hdispatch : (dispatchEffect s call status).Triple (fun _ => TrackedAs s.id events before)
      _ := dispatchEffect_spec s call status
  -- a dispatch that raises ends the call before the return is looked at
  cases hfirst : dispatchedStatuses.contains status && call.dispatchRaises with
  | true =>
    rw [hfirst] at hdispatch
    refine hdispatch.bind (M := Leaves s.id true events before) ?_ ?_
    · exact fun _ k db h => by cases h.1
    · exact fun _ _ _ h => h
  | false =>
    rw [hfirst] at hdispatch
    rw [Bool.false_or]
    refine Leaves.bind hdispatch fun _ => ?_
    refine Proc.Spec.bind (returnEffect_spec hawb call status) (fun _ => ?_) fun _ _ _ h => h
    exact Proc.Spec.pure fun _ _ h => ⟨h.1, h.2⟩

/-- One event: passed over without a time, refused by the timelines, or written. -/
theorem applyTrackingEvent_spec {s : Shipment} {awb : String} (hawb : s.awb = some awb)
    (call : TrackingCall) :
    (applyTrackingEvent s call).Triple (fun _ => TrackedAs s.id events before)
      (match call.event.eventTimestamp with
        | none => Leaves s.id false events before
        | some eventTimestamp =>
          match timelinesWith events s.id call.event eventTimestamp call.source with
          | none => Leaves s.id true events before
          | some events' =>
            Leaves s.id (stockRaises call) events' (call.event.mappedStatus.getD before)) := by
  unfold applyTrackingEvent
  cases call.event.eventTimestamp with
  | none => exact Proc.Spec.pure fun _ _ h => ⟨rfl, h⟩
  | some eventTimestamp =>
    have hadd : (addTrackingEvent s.id call.event eventTimestamp call.source).Triple
        (fun _ => TrackedAs s.id events before) _ := addTrackingEvent_spec _ _ _
    dsimp only
    cases htimelines : timelinesWith events s.id call.event eventTimestamp call.source with
    | none =>
      rw [htimelines] at hadd
      exact Proc.Spec.bind hadd (fun created k db h => by cases h.1) fun _ _ _ h => h
    | some events' =>
      rw [htimelines] at hadd
      refine Leaves.bind hadd fun created => ?_
      cases hmapped : call.event.mappedStatus with
      | none =>
        have hraises : stockRaises call = false := by
          unfold stockRaises
          rw [hmapped]
        rw [hraises]
        exact Proc.Spec.pure fun _ _ h => ⟨rfl, h⟩
      | some status =>
        -- the status is written before the effects, which may end the call
        exact Leaves.bind (updateStatus_spec status) fun _ => effects_spec hawb call hmapped created

/-- The processing of a response leaves the last known status of the events written. -/
theorem applyTrackingEvents_spec {s : Shipment} {awb : String} (hawb : s.awb = some awb)
    (calls : List TrackingCall) :
    (applyTrackingEvents s calls).Triple (fun _ => TrackedAs s.id events before)
      fun _ _ db => ∃ events',
        TrackedAs s.id events' (statusAfter before (written s.id events calls)) db := by
  induction calls generalizing events before with
  | nil => exact Proc.Spec.pure fun _ _ h => ⟨events, h⟩
  | cons call calls ih =>
    -- the status and the timelines the first event leaves are those the others start from
    have hcall : (applyTrackingEvent s call).Triple (fun _ => TrackedAs s.id events before) _ :=
      applyTrackingEvent_spec hawb call
    have hrest : ∀ created events before, (do
        let anyNewEvent ← applyTrackingEvents s calls
        return created || anyNewEvent : TrackingProc Bool).Triple
        (fun _ => TrackedAs s.id events before) fun _ _ db => ∃ events',
          TrackedAs s.id events' (statusAfter before (written s.id events calls)) db :=
      fun created events before => ih.bind (fun _ => Proc.Spec.pure fun _ _ h => h)
        fun _ _ _ h => h
    unfold applyTrackingEvents written
    cases hat : call.event.eventTimestamp with
    | none =>
      rw [hat] at hcall
      exact Leaves.bind hcall fun created => hrest created events before
    | some eventTimestamp =>
      rw [hat] at hcall
      dsimp only at hcall ⊢
      cases htimelines : timelinesWith events s.id call.event eventTimestamp call.source with
      | none =>
        rw [htimelines] at hcall
        exact hcall.bind (fun created k db h => by cases h.1) fun _ _ _ h => ⟨events, h.2⟩
      | some events' =>
        rw [htimelines] at hcall
        dsimp only at hcall ⊢
        rw [statusAfter_cons]
        cases hraises : stockRaises call with
        | true =>
          rw [hraises] at hcall
          exact hcall.bind (fun created k db h => by cases h.1) fun _ _ _ h => ⟨events', h.2⟩
        | false =>
          rw [hraises] at hcall
          exact Leaves.bind hcall fun created => hrest created events' _

end Services

section Identities

open TrackingDB (IdentitiesKept)

theorem commits_writeTracking {α : Type} {f : TrackingDB → Except Raised (α × TrackingDB)}
    (hf : ∀ db a db', f db = .ok (a, db') → IdentitiesKept db db') :
    (writeTracking f).Commits IdentitiesKept := by
  intro k db
  unfold writeTracking
  split
  · exact True.intro
  · rename_i a db' hdb'
    exact ⟨hf db a db' hdb', True.intro⟩

theorem commits_stockEffect {id : UUID} {raises : Bool} {f : TrackingDB → TrackingDB}
    (hf : ∀ db, IdentitiesKept db (f db)) :
    (stockEffect id raises f).Commits IdentitiesKept := by
  refine .ite ((Proc.Commits.memory _).bind fun _ => .memory _) (commits_writeTracking ?_)
  intro db a db' h
  cases h
  exact hf db

theorem commits_addTrackingEvent (id : UUID) (e : NormalizedEvent) (eventTimestamp : Instant)
    (source : String) :
    (addTrackingEvent id e eventTimestamp source).Commits IdentitiesKept := by
  intro k db
  unfold addTrackingEvent
  split
  · exact True.intro
  · rename_i db' hadd
    exact ⟨TrackingDB.identitiesKept_addTrackingEvent hadd, True.intro⟩
  · exact True.intro

theorem commits_returnEffect (s : Shipment) (call : TrackingCall) (status : ShipmentStatus) :
    (returnEffect s call status).Commits IdentitiesKept := by
  unfold returnEffect
  split
  · exact .pure _
  · refine (commits_writeTracking fun db rtoId db' h =>
      TrackingDB.identitiesKept_upsertSyncedRto h).bind fun rtoId => ?_
    exact .ite (commits_stockEffect fun db => .of_tables_eq rfl rfl) (.pure _)

/-- No commit of the processing changes what a shipment is found by. -/
theorem commits_applyTrackingEvents [PyText] (s : Shipment) (calls : List TrackingCall) :
    (applyTrackingEvents s calls).Commits IdentitiesKept := by
  induction calls with
  | nil => exact .pure _
  | cons call calls ih =>
    have hcall : (applyTrackingEvent s call).Commits IdentitiesKept := by
      unfold applyTrackingEvent
      split
      · exact .pure _
      · refine (commits_addTrackingEvent _ _ _ _).bind fun created => ?_
        split
        · exact .pure _
        · rename_i status _
          have hstatus : (writeTracking fun db => .ok (PUnit.unit,
              db.updateStatus s.id (some status))).Commits IdentitiesKept := by
            refine commits_writeTracking fun db a db' h => ?_
            cases h
            exact TrackingDB.identitiesKept_updateStatus db s.id (some status)
          refine hstatus.bind fun _ => Proc.Commits.bind ?_ fun _ =>
            (commits_returnEffect s call status).bind fun _ => .pure _
          exact .ite (commits_stockEffect fun db => .of_tables_eq rfl rfl) (.pure _)
    exact hcall.bind fun created => ih.bind fun _ => .pure _

/-- The reconciliation selects the shipment after the processing when it did before. -/
theorem reconciliationSelects_processed [PyText] {s r : Shipment} {db : TrackingDB}
    (hs : s ∈ db.shipments.rows) (calls : List TrackingCall) (k : RequestSession)
    (hr : r ∈ ((applyTrackingEvents s calls k db).final db).shipments.rows) (hid : r.id = s.id) :
    reconciliationSelects r = reconciliationSelects s := by
  have hkept : IdentitiesKept db ((applyTrackingEvents s calls k db).final db) :=
    (commits_applyTrackingEvents s calls k db).final IdentitiesKept.refl IdentitiesKept.trans
  obtain ⟨s', hs', hsame⟩ := hkept.mem hr
  obtain rfl := TrackingDB.shipment_eq_of_id_eq hs hs' (hsame.id_eq.symm.trans hid)
  rw [reconciliationSelects, reconciliationSelects, hsame.awb_eq, hsame.shiprocketShipmentId_eq]

end Identities

/-! ## Section 5: Agreement -/

/-- No result of the check says that the status differs. -/
def NoStatusMismatch (checked : Checked) : Prop :=
  ∀ result ∈ checked.results, result.checkType = "tracking_status_mismatch" →
    result.status ≠ .mismatch

theorem checkType_awbResults {s : Shipment} {raw : TrackingResponse}
    {result : ReconciliationResult} (h : result ∈ awbResults s raw) :
    result.checkType = "awb_mismatch" := by
  unfold awbResults at h
  split at h
  · cases h
  · rw [List.mem_singleton.mp h]
    rfl

theorem checkType_courierResults {courierName : UUID → Option String} {s : Shipment}
    {normalized : NormalizedEvent} {result : ReconciliationResult}
    (h : result ∈ courierResults courierName s normalized) :
    result.checkType = "courier_mismatch" := by
  unfold courierResults at h
  split at h
  · cases h
  · rw [List.mem_singleton.mp h]
    rfl

theorem checkType_rtoResult {db : TrackingDB} {s : Shipment} {status : RTOStatus}
    {result : ReconciliationResult} (h : rtoResult db s status = .ok result) :
    result.checkType = "rto_mismatch" := by
  unfold rtoResult at h
  split at h
  · cases h
    rfl
  · cases h
    rfl
  · cases h

theorem status_statusResult (s : Shipment) (mapped : ShipmentStatus) :
    (statusResult s mapped).status ≠ .mismatch ↔ s.currentStatus = mapped := by
  by_cases h : s.currentStatus = mapped
  · simp [statusResult, compared, h]
  · simp [statusResult, compared, h, Ne.symm h]

/-- A shipment that is loaded and answered for is processed event by event. -/
theorem processShipment_run [PyText] {env : RefreshEnv} {s : Shipment} {calls : List TrackingCall}
    (hanswer : env.getTracking s = .ok calls) (hfault : env.fault s = none) {k : RequestSession}
    (hloaded : .shipment s.id ∈ k.loaded) (db : TrackingDB) :
    processShipment env s k db = applyTrackingEvents s calls k db := by
  unfold processShipment faulty pollShipment
  rw [hfault]
  dsimp only
  rw [Proc.bind_run, readShipment, Proc.memory_run, if_pos hloaded, hanswer]
  rfl

section Agreement

variable [PyText] [Sync.ShiprocketTimes] [IsoFormat]

/-- The results that say something about the status compare it with the last event's. -/
theorem mem_checkTracking_iff {courierName : UUID → Option String} {db : TrackingDB} {s : Shipment}
    {raw : TrackingResponse} {result : ReconciliationResult}
    (htype : result.checkType = "tracking_status_mismatch") :
    result ∈ (checkTracking courierName db s raw).results ↔
      ∃ last ∈ (extractTrackingEvents raw).getLast?,
        ∃ mapped ∈ (normalizeEvent last).mappedStatus, result = statusResult s mapped := by
  have hawb : result ∉ awbResults s raw := fun h => by
    rw [checkType_awbResults h] at htype
    exact absurd htype (by decide)
  unfold checkTracking
  cases (extractTrackingEvents raw).getLast? with
  | none => simp [hawb]
  | some last =>
    have hcourier : result ∉ courierResults courierName s (normalizeEvent last) := fun h => by
      rw [checkType_courierResults h] at htype
      exact absurd htype (by decide)
    dsimp only
    cases hmapped : (normalizeEvent last).mappedStatus with
    | none => simp [hawb, hcourier, hmapped]
    | some mapped =>
      dsimp only
      cases rtoStatusFromTracking mapped with
      | none => simp [hawb, hcourier, hmapped]
      | some rtoStatus =>
        dsimp only
        cases hrto : rtoResult db s rtoStatus with
        | error e => simp [hawb, hcourier, hmapped]
        | ok rto =>
          have hother : result ≠ rto := fun h => by
            rw [h, checkType_rtoResult hrto] at htype
            exact absurd htype (by decide)
          simp [hawb, hcourier, hmapped, hother]

/-- The check reports no status mismatch when the last event says nothing of the status, or the
status the shipment has. -/
theorem noStatusMismatch_checkTracking_iff {courierName : UUID → Option String} {db : TrackingDB}
    {s : Shipment} {raw : TrackingResponse} :
    NoStatusMismatch (checkTracking courierName db s raw) ↔
      ∀ last ∈ (extractTrackingEvents raw).getLast?, ∀ mapped ∈ (normalizeEvent last).mappedStatus,
        s.currentStatus = mapped := by
  constructor
  · intro h last hlast mapped hmapped
    exact (status_statusResult s mapped).mp (h _
      ((mem_checkTracking_iff rfl).mpr ⟨last, hlast, mapped, hmapped, rfl⟩) rfl)
  · intro h result hresult htype
    obtain ⟨last, hlast, mapped, hmapped, rfl⟩ := (mem_checkTracking_iff htype).mp hresult
    exact (status_statusResult s mapped).mpr (h last hlast mapped hmapped)

/-- What the loop reports about the status some turn of it does. -/
theorem noStatusMismatch_checkTrackingFamily {courierName : UUID → Option String} {db : TrackingDB}
    {getTracking : String → Except PyException TrackingResponse} {shipments : List Shipment}
    (h : ∀ s ∈ shipments, ∀ awb, s.awb = some awb → ∀ raw, getTracking awb = .ok raw →
      NoStatusMismatch (checkTracking courierName db s raw)) :
    NoStatusMismatch (checkTrackingFamily courierName db getTracking shipments) := by
  induction shipments with
  | nil => exact fun _ hresult => absurd hresult List.not_mem_nil
  | cons s rest ih =>
    have hrest := ih fun s' hs' => h s' (List.mem_cons_of_mem s hs')
    unfold checkTrackingFamily
    cases hawb : s.awb with
    | none => exact fun _ hresult => absurd hresult List.not_mem_nil
    | some awb =>
      dsimp only
      cases hraw : getTracking awb with
      | error e => exact fun _ hresult => absurd hresult List.not_mem_nil
      | ok raw =>
        have hturn := h s List.mem_cons_self awb hawb raw hraw
        dsimp only
        split
        · exact hturn
        · intro result hresult
          rcases List.mem_append.mp hresult with hresult | hresult
          · exact hturn result hresult
          · exact hrest result hresult

/-- When the reconciliation selects the shipment, its check against a response reports no status
mismatch. -/
def Agrees (courierName : UUID → Option String) (db : TrackingDB) (shipmentId : UUID)
    (raw : TrackingResponse) : Prop :=
  ∀ s ∈ db.shipments.rows, s.id = shipmentId → reconciliationSelects s = true →
    NoStatusMismatch (checkTracking courierName db s raw)

/-- A run over shipments that agree with their responses reports no status mismatch. -/
theorem noStatusMismatch_of_agrees {courierName : UUID → Option String} {db : TrackingDB}
    {newestFirst : List Shipment → List Shipment} (hnewest : ∀ rows, newestFirst rows ⊆ rows)
    {getTracking : String → Except PyException TrackingResponse}
    (h : ∀ s ∈ db.shipments.rows, ∀ awb, s.awb = some awb → ∀ raw, getTracking awb = .ok raw →
      Agrees courierName db s.id raw) :
    NoStatusMismatch (checkShiprocketTrackingFamily courierName newestFirst db getTracking) := by
  refine noStatusMismatch_checkTrackingFamily fun s hs awb hawb raw hraw => ?_
  obtain ⟨hrow, hselects⟩ := List.mem_filter.mp (hnewest _ (List.mem_of_mem_take hs))
  exact h s hrow awb hawb raw hraw s hrow rfl hselects

/-- The condition: the last event has no known status, or the last known status of the events
written; when none is, the one the shipment has. -/
def LastDecides (s : Shipment) (events : ShipmentEventTable) (failures : StockFailures)
    (raw : TrackingResponse) : Prop :=
  ∀ last ∈ (extractTrackingEvents raw).getLast?, ∀ mapped ∈ (normalizeEvent last).mappedStatus,
    statusAfter s.currentStatus (written s.id events (trackingCalls failures raw)) = mapped

/-- So it is when the last event is written. -/
theorem lastDecides_of_written {s : Shipment} {events : ShipmentEventTable}
    {failures : StockFailures} {raw : TrackingResponse}
    (h : (written s.id events (trackingCalls failures raw)).getLast? =
      (extractTrackingEvents raw).getLast?.map normalizeEvent) :
    LastDecides s events failures raw := by
  intro last hlast mapped hmapped
  rw [Option.mem_def.mp hlast, Option.map_some] at h
  obtain ⟨earlier, hwritten⟩ := List.getLast?_eq_some_iff.mp h
  unfold statusAfter
  rw [hwritten, List.filterMap_append, List.filterMap_cons_some hmapped, List.filterMap_nil,
    List.getLast?_concat, Option.getD_some]

/-- For every shipment the refresh selects and every response: when it has been processed, with
whatever stock effects failing, the reconciliation reports no status mismatch against the same
response exactly when it does not select the shipment or the last event decides the status. -/
theorem agrees_iff (courierName : UUID → Option String) {env : RefreshEnv} {s : Shipment}
    {k : RequestSession} {db : TrackingDB} {failures : StockFailures} {raw : TrackingResponse}
    (hs : s ∈ db.shipments.rows) (hselected : TrackingDB.refreshSelects s = true)
    (hloaded : .shipment s.id ∈ k.loaded) (hfault : env.fault s = none)
    (hanswer : env.getTracking s = .ok (trackingCalls failures raw)) :
    Agrees courierName ((processShipment env s k db).final db) s.id raw ↔
      (reconciliationSelects s = true → LastDecides s db.events failures raw) := by
  have hawb : ∃ awb, s.awb = some awb := by
    rw [TrackingDB.refreshSelects, Bool.and_eq_true] at hselected
    exact Option.isSome_iff_exists.mp hselected.1
  obtain ⟨awb, hawb⟩ := hawb
  have hprocessed := Proc.triple_iff.mp
    (applyTrackingEvents_spec hawb (trackingCalls failures raw)) k db ⟨rfl, s, hs, rfl, rfl⟩
  obtain ⟨events', -, r, hr, hid, hstatus⟩ := hprocessed
  have hselects := reconciliationSelects_processed hs _ k hr hid
  -- both sides speak of the one row that the processing leaves
  rw [processShipment_run hanswer hfault hloaded]
  unfold Agrees LastDecides
  rw [← hstatus, ← hselects]
  constructor
  · intro h hchecked
    exact noStatusMismatch_checkTracking_iff.mp (h r hr hid hchecked)
  · intro h s' hs' hid' hchecked
    obtain rfl := TrackingDB.shipment_eq_of_id_eq hr hs' (hid'.trans hid.symm)
    exact noStatusMismatch_checkTracking_iff.mpr (h hchecked)

end Agreement

/-- The courier has picked the parcel up, at a time written in some way. -/
def pickedUp (date : String) : TrackingResponse where
  trackingData := .present { shipmentTrackActivities := [{ status := "PICKED UP", date := date }] }

/-- The courier gives this answer. -/
def answering (raw : TrackingResponse) : RefreshEnv where
  getTracking _ := .ok (trackingCalls {} raw)

/-- With a time that is read the two agree. -/
theorem agrees_iff_pickedUp :
    Agrees (fun _ => none) ((processShipment (answering (pickedUp "2025-12-18T15:52:00"))
      parcel (ownSession parcel true) awaitingPickup).final awaitingPickup) 70
      (pickedUp "2025-12-18T15:52:00") := by
  have hs : parcel ∈ awaitingPickup.shipments.rows := List.mem_cons_self
  have hloaded : .shipment parcel.id ∈ (ownSession parcel true).loaded := List.mem_cons_self
  refine (agrees_iff (fun _ => none) hs rfl hloaded rfl rfl).mpr fun _ => ?_
  refine lastDecides_of_written ?_
  decide +kernel

/-- Without one the event is passed over by the refresh, and its status reported as missed. -/
theorem unread_time_reported :
    ¬ Agrees (fun _ => none) ((processShipment (answering (pickedUp "18.12.2025 15:52"))
      parcel (ownSession parcel true) awaitingPickup).final awaitingPickup) 70
      (pickedUp "18.12.2025 15:52") := by
  intro h
  have hrow : parcel ∈ ((processShipment (answering (pickedUp "18.12.2025 15:52")) parcel
      (ownSession parcel true) awaitingPickup).final awaitingPickup).shipments.rows := by
    decide +kernel
  have hsame := noStatusMismatch_checkTracking_iff.mp (h parcel hrow rfl rfl) _ rfl .pickedUp
    (by decide +kernel)
  cases hsame

end AyushOms.Tracking
