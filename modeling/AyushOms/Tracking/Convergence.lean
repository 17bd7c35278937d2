import AyushOms.Tracking.Dispatch

/-!
# Order and Repetition of Tracking Events

Webhook, poll and replay deliver the same events in different orders and more than once.
`apply_tracking_event` records an event once but writes its status at every delivery, so
the shipment ends with the status of the last delivery, whichever event that was.

## Main results

- `statusOf_run`: the status a sequence of deliveries leaves
- `converges_iff`: exactly when a sequence leaves the newest event's status, replays change
  nothing, and a received return stays received
- `late_delivery_wins`: a sequence that does none of the first two
-/

namespace AyushOms.Tracking

open AyushOms.Lib AyushOms.Orders AyushOms.Inventory TrackingDB

section AnyText

variable [PyText]

/-! ## Section 1: Deliveries -/

/-- One delivery to a shipment. -/
def trackStep (id : UUID) (db : TrackingDB) (call : TrackingCall) : TrackingDB :=
  (db.applyTrackingEvent id call).2

/-- The deliveries that take effect. One whose event row is refused raises and leaves
nothing. -/
def taken (id : UUID) : TrackingDB → List TrackingCall → List TrackingCall
  | _, [] => []
  | db, call :: calls =>
    (if db.Recordable id call then [call] else []) ++ taken id (trackStep id db call) calls

/-- The status the last delivery that took effect carries, else the shipment's first one. -/
def lastStatus (db : TrackingDB) (s : Shipment) (calls : List TrackingCall) : ShipmentStatus :=
  ((taken s.id db calls).getLast?.bind (·.event.mappedStatus)).getD s.currentStatus

/-- `Shipment.current_status`. -/
def statusOf (db : TrackingDB) (id : UUID) : Option ShipmentStatus :=
  (db.getShipment id).map (·.currentStatus)

theorem taken_append (id : UUID) (db : TrackingDB) (calls calls' : List TrackingCall) :
    taken id db (calls ++ calls') =
      taken id db calls ++ taken id (run (trackStep id) db calls) calls' := by
  induction calls generalizing db with
  | nil => rfl
  | cons call calls ih => simp only [List.cons_append, taken, run_cons, ih, List.append_assoc]

/-- One more delivery sets the last status when it takes effect. -/
theorem lastStatus_concat {db : TrackingDB} {s : Shipment} {calls : List TrackingCall}
    {call : TrackingCall} (hmapped : call.event.mappedStatus ≠ none) :
    some (lastStatus db s (calls ++ [call])) =
      if (run (trackStep s.id) db calls).Recordable s.id call then call.event.mappedStatus
      else some (lastStatus db s calls) := by
  obtain ⟨status, hstatus⟩ := Option.ne_none_iff_exists'.mp hmapped
  unfold lastStatus
  rw [taken_append]
  by_cases hrec : (run (trackStep s.id) db calls).Recordable s.id call
  · simp [taken, hrec, hstatus]
  · simp [taken, hrec]

/-! ## Section 2: The status a sequence leaves -/

/-- One delivery writes its status when it takes effect. -/
theorem shipment_trackStep {db : TrackingDB} {s : Shipment} (hs : s ∈ db.shipments.rows)
    (call : TrackingCall) :
    ∃ s' ∈ (trackStep s.id db call).shipments.rows, s'.id = s.id ∧ s'.awb = s.awb ∧
      s'.currentStatus = if db.Recordable s.id call then
        call.event.mappedStatus.getD s.currentStatus else s.currentStatus := by
  by_cases hrec : db.Recordable s.id call
  · obtain ⟨_, _, _, hwritten, -, -⟩ := applyTrackingEvent_of_recordable hrec
    obtain ⟨s', hs', hid, -, hawb, hstatus⟩ := hwritten.of_mem hs
    exact ⟨s', hs', hid, hawb, by rw [hstatus, if_pos hrec]⟩
  · refine ⟨s, ?_, rfl, rfl, by rw [if_neg hrec]⟩
    rwa [trackStep, applyTrackingEvent_of_not_recordable hrec]

/-- A sequence of deliveries leaves the shipment with the last status. -/
theorem shipment_run {db : TrackingDB} {s : Shipment} (hs : s ∈ db.shipments.rows)
    {calls : List TrackingCall} (hmapped : ∀ call ∈ calls, call.event.mappedStatus ≠ none) :
    ∃ s' ∈ (run (trackStep s.id) db calls).shipments.rows, s'.id = s.id ∧ s'.awb = s.awb ∧
      s'.currentStatus = lastStatus db s calls := by
  -- from the right: the last delivery decides
  induction calls using List.reverseRecOn with
  | nil => exact ⟨s, hs, rfl, rfl, rfl⟩
  | append_singleton calls call ih =>
    obtain ⟨s₁, hs₁, hid₁, hawb₁, hstatus₁⟩ := ih fun c hc =>
      hmapped c (List.mem_append_left _ hc)
    have hcall := hmapped call (List.mem_append_right _ (List.mem_singleton_self call))
    obtain ⟨status, hstatus⟩ := Option.ne_none_iff_exists'.mp hcall
    obtain ⟨s₂, hs₂, hid₂, hawb₂, hstatus₂⟩ := shipment_trackStep hs₁ call
    rw [hid₁] at hs₂ hid₂ hstatus₂
    refine ⟨s₂, ?_, hid₂, hawb₂.trans hawb₁, ?_⟩
    · rwa [run_append]
    · rw [← Option.some.injEq, lastStatus_concat hcall, hstatus₂, hstatus, hstatus₁]
      split <;> rfl

theorem statusOf_run {db : TrackingDB} {s : Shipment} (hs : s ∈ db.shipments.rows)
    {calls : List TrackingCall} (hmapped : ∀ call ∈ calls, call.event.mappedStatus ≠ none) :
    statusOf (run (trackStep s.id) db calls) s.id = some (lastStatus db s calls) := by
  obtain ⟨s', hs', hid, -, hstatus⟩ := shipment_run hs hmapped
  rw [statusOf, getShipment_eq_some.mpr ⟨hs', hid⟩, Option.map_some, hstatus]

/-! ## Section 3: Returns along a sequence -/

/-- The return with this id is there and received. -/
def Received (db : TrackingDB) (rtoId : UUID) : Prop :=
  (∃ r ∈ db.rtos.rows, r.id = rtoId) ∧ ∀ r ∈ db.rtos.rows, r.id = rtoId → r.status = .received

/-- A received return stays received, unless an event of an initiated return is recorded
while the shipment's return is received. -/
theorem received_trackStep {db : TrackingDB} {s : Shipment} (hs : s ∈ db.shipments.rows)
    {id : UUID} (hid : s.id = id) {call : TrackingCall} {rtoId : UUID} (h : Received db rtoId)
    (hguard : db.Recordable id call → call.event.mappedStatus = some .rtoInitiated →
      ∀ r, db.rtosByExternalId .shiprocket s.awb = [r] → r.status ≠ .received) :
    Received (trackStep id db call) rtoId := by
  subst hid
  obtain ⟨⟨r₀, hr₀, hid₀⟩, hreceived⟩ := h
  rcases rtos_applyTrackingEvent hs call with
    hsame | ⟨status, rtoStatus, hrec, hmapped, hrto, hrows⟩
  · rw [Received, trackStep, hsame]
    exact ⟨⟨r₀, hr₀, hid₀⟩, hreceived⟩
  · -- the shipment's single return is rewritten, or a new one is added
    rcases hrows with ⟨r, write, hr, hwrite, hrows⟩ | ⟨new, hfresh, hrows⟩
    · have hmem : r ∈ db.rtos.rows := by
        have h : r ∈ db.rtosByExternalId .shiprocket s.awb := by simp [hr]
        exact (List.mem_filter.mp h).1
      rw [Received, trackStep, hrows]
      constructor
      · refine ⟨_, List.mem_map_of_mem hr₀, ?_⟩
        split
        · rw [(hwrite _).1, hid₀]
        · exact hid₀
      · intro r' hr' hid'
        obtain ⟨x, hx, rfl⟩ := List.mem_map.mp hr'
        by_cases hxr : x.id = r.id
        · simp only [hxr, beq_self_eq_true, if_true] at hid' ⊢
          rw [(hwrite x).1] at hid'
          rw [(hwrite x).2]
          -- the return that is written is the received one, so it is not written `INITIATED`
          have hstatus := hreceived r hmem (hxr ▸ hid')
          cases status with
          | rtoInitiated => exact absurd hstatus (hguard hrec hmapped r hr)
          | rtoDelivered => exact (Option.some.inj hrto).symm
          | _ => cases hrto
        · simp only [beq_iff_eq, hxr, if_false] at hid' ⊢
          exact hreceived x hx hid'
    · rw [Received, trackStep, hrows]
      refine ⟨⟨r₀, List.mem_append_left _ hr₀, hid₀⟩, fun r' hr' hid' => ?_⟩
      rcases List.mem_append.mp hr' with hr' | hr'
      · exact hreceived r' hr' hid'
      · rw [List.mem_singleton.mp hr'] at hid'
        exact absurd (hid₀.trans hid'.symm) (hfresh r₀ hr₀)

/-- An initiated return is written over the shipment's single return. -/
theorem rtos_trackStep_of_single {db : TrackingDB} {s : Shipment} (hs : s ∈ db.shipments.rows)
    {id : UUID} (hid : s.id = id) {call : TrackingCall} (hrec : db.Recordable id call)
    (hmapped : call.event.mappedStatus = some .rtoInitiated) {r : RTO}
    (hr : db.rtosByExternalId .shiprocket s.awb = [r]) :
    r ∈ db.rtos.rows ∧
      ∃ r' ∈ (trackStep id db call).rtos.rows, r'.id = r.id ∧ r'.status = .initiated := by
  subst hid
  have hmem : r ∈ db.rtosByExternalId .shiprocket s.awb := by simp [hr]
  exact ⟨(List.mem_filter.mp hmem).1,
    rtos_applyTrackingEvent_of_single hs hrec hmapped rfl hr⟩

/-! ## Section 4: Convergence -/

/-- No delivery carries an event with a later timestamp. -/
def IsNewest (calls : List TrackingCall) (call : TrackingCall) : Prop :=
  ∃ t, call.event.eventTimestamp = some t ∧
    ∀ call' ∈ calls, ∀ t', call'.event.eventTimestamp = some t' → t' ≤ t

/-- The sequence leaves the newest event's status, delivering a recorded event again does
not change the status, and a received return never goes back to initiated. -/
structure Converges (db : TrackingDB) (id : UUID) (calls : List TrackingCall) : Prop where
  newest_wins : ∀ call ∈ calls, IsNewest calls call →
    statusOf (run (trackStep id) db calls) id = call.event.mappedStatus
  replay_keeps : ∀ pre call post, calls = pre ++ call :: post →
    call.event ∈ (taken id db pre).map (·.event) →
    statusOf (run (trackStep id) db (pre ++ [call])) id =
      statusOf (run (trackStep id) db pre) id
  received_stays : ∀ pre mid post, calls = pre ++ mid ++ post →
    ∀ r ∈ (run (trackStep id) db pre).rtos.rows, r.status = .received →
      ∀ r' ∈ (run (trackStep id) db (pre ++ mid)).rtos.rows, r'.id = r.id →
        r'.status ≠ .initiated

/-- The last delivery that takes effect carries the newest event's status; each repeated
delivery carries the status of the delivery before it; no event of an initiated return is
delivered while the shipment's return is received. -/
structure DeliveredInOrder (db : TrackingDB) (s : Shipment) (calls : List TrackingCall) :
    Prop where
  last_is_newest : ∀ call ∈ calls, IsNewest calls call →
    call.event.mappedStatus = some (lastStatus db s calls)
  replay_repeats : ∀ pre call post, calls = pre ++ call :: post →
    call.event ∈ (taken s.id db pre).map (·.event) →
    (run (trackStep s.id) db pre).Recordable s.id call →
      call.event.mappedStatus = some (lastStatus db s pre)
  not_initiated_when_received : ∀ pre call post, calls = pre ++ call :: post →
    (run (trackStep s.id) db pre).Recordable s.id call →
    call.event.mappedStatus = some .rtoInitiated →
    ∀ r, (run (trackStep s.id) db pre).rtosByExternalId .shiprocket s.awb = [r] →
      r.status ≠ .received

theorem received_run {db : TrackingDB} {s : Shipment} (hs : s ∈ db.shipments.rows)
    {calls : List TrackingCall} (hmapped : ∀ call ∈ calls, call.event.mappedStatus ≠ none)
    (horder : DeliveredInOrder db s calls) {pre mid post : List TrackingCall}
    (heq : calls = pre ++ mid ++ post) {rtoId : UUID}
    (h : Received (run (trackStep s.id) db pre) rtoId) :
    Received (run (trackStep s.id) db (pre ++ mid)) rtoId := by
  induction mid using List.reverseRecOn generalizing post with
  | nil => simpa using h
  | append_singleton mid call ih =>
    have hsplit : calls = pre ++ mid ++ call :: post := by simp [heq]
    have hih := ih hsplit
    have hbefore : ∀ c ∈ pre ++ mid, c.event.mappedStatus ≠ none := fun c hc =>
      hmapped c (hsplit ▸ List.mem_append_left _ hc)
    obtain ⟨s', hs', hid, hawb, -⟩ := shipment_run hs hbefore
    rw [← List.append_assoc, run_append, run_cons, run_nil]
    refine received_trackStep hs' hid hih ?_
    rw [hawb]
    exact horder.not_initiated_when_received (pre ++ mid) call post hsplit

/-- A sequence of deliveries converges exactly when it is delivered in order. -/
theorem converges_iff {db : TrackingDB} {s : Shipment} (hs : s ∈ db.shipments.rows)
    {calls : List TrackingCall} (hmapped : ∀ call ∈ calls, call.event.mappedStatus ≠ none) :
    Converges db s.id calls ↔ DeliveredInOrder db s calls := by
  have hstatus := statusOf_run hs hmapped
  -- the two clauses about the status, one delivery at a time
  have hreplay : ∀ pre call post, calls = pre ++ call :: post →
      (statusOf (run (trackStep s.id) db (pre ++ [call])) s.id =
          statusOf (run (trackStep s.id) db pre) s.id ↔
        ((run (trackStep s.id) db pre).Recordable s.id call →
          call.event.mappedStatus = some (lastStatus db s pre))) := by
    rintro pre call post rfl
    have hpre : ∀ c ∈ pre, c.event.mappedStatus ≠ none := fun c hc =>
      hmapped c (List.mem_append_left _ hc)
    have hcall : call.event.mappedStatus ≠ none :=
      hmapped call (List.mem_append_right _ List.mem_cons_self)
    have hnext : ∀ c ∈ pre ++ [call], c.event.mappedStatus ≠ none := fun c hc =>
      (List.mem_append.mp hc).elim (hpre c) fun h => List.mem_singleton.mp h ▸ hcall
    rw [statusOf_run hs hpre, statusOf_run hs hnext, lastStatus_concat hcall]
    by_cases hrec : (run (trackStep s.id) db pre).Recordable s.id call <;> simp [hrec]
  constructor
  · intro h
    refine ⟨fun call hcall hnewest => ?_, fun pre call post heq hdone => ?_, ?_⟩
    · rw [← h.newest_wins call hcall hnewest, hstatus]
    · exact (hreplay pre call post heq).mp (h.replay_keeps pre call post heq hdone)
    · -- an initiated return recorded over a received one would set it back
      rintro pre call post rfl hrec hinitiated r hr hreceived
      have hpre : ∀ c ∈ pre, c.event.mappedStatus ≠ none := fun c hc =>
        hmapped c (List.mem_append_left _ hc)
      obtain ⟨s', hs', hid, hawb, -⟩ := shipment_run hs hpre
      rw [← hawb] at hr
      obtain ⟨hmem, r', hr', hrid, hrstatus⟩ :=
        rtos_trackStep_of_single hs' hid hrec hinitiated hr
      refine h.received_stays pre [call] post (by simp) r hmem hreceived r' ?_ hrid hrstatus
      rwa [run_append, run_cons, run_nil]
  · intro h
    refine ⟨fun call hcall hnewest => ?_, fun pre call post heq hdone => ?_, ?_⟩
    · rw [hstatus, h.last_is_newest call hcall hnewest]
    · exact (hreplay pre call post heq).mpr (h.replay_repeats pre call post heq hdone)
    · intro pre mid post heq r hr hreceived r' hr' hid hinitiated
      -- ids are unique, so the received row is the only one under its id
      have hpre : Received (run (trackStep s.id) db pre) r.id := by
        refine ⟨⟨r, hr, rfl⟩, fun x hx hxid => ?_⟩
        have hsame : x = r := (run (trackStep s.id) db pre).rtos.eq_of_shared_key
          (k := .id r.id) hx hr (by simp [RTO.keys, hxid]) (by simp [RTO.keys])
        rw [hsame, hreceived]
      have hkept := (received_run hs hmapped h heq hpre).2 r' hr' hid
      rw [hinitiated] at hkept
      cases hkept

end AnyText

/-! ## Section 5: Two sequences -/

/-- A delivery of a report of the courier. -/
def delivery (status : String) (eventTimestamp : Instant) : TrackingCall where
  event := reported status eventTimestamp

/-- Delivered in the order of their timestamps, a pickup and a delivery converge. -/
theorem converges_iff_pickup :
    Converges awaitingPickup 70 [delivery "PICKED UP" 50, delivery "DELIVERED" 100] := by
  have hs : parcel ∈ awaitingPickup.shipments.rows := List.mem_singleton_self parcel
  refine (converges_iff hs (by decide)).mpr ⟨?_, ?_, ?_⟩
  · rintro call hcall ⟨t, ht, hlast⟩
    rcases List.mem_pair.mp hcall with rfl | rfl
    · cases ht
      exact absurd (hlast (delivery "DELIVERED" 100) (by simp) 100 rfl) (by decide)
    · decide
  · rintro pre call post heq hdone -
    rcases pre with _ | ⟨first, _ | ⟨second, pre⟩⟩
    · cases hdone
    · cases heq
      exact absurd hdone (by decide)
    · simp at heq
  · rintro pre call post heq - hinitiated
    have hcall : call ∈ [delivery "PICKED UP" 50, delivery "DELIVERED" 100] := by simp [heq]
    rcases List.mem_pair.mp hcall with rfl | rfl
    · exact absurd hinitiated (by decide)
    · exact absurd hinitiated (by decide)

/-- A pickup delivered again after the delivery puts the shipment back to picked up. -/
theorem late_delivery_wins :
    ¬ Converges awaitingPickup 70
      [delivery "PICKED UP" 50, delivery "DELIVERED" 100, delivery "PICKED UP" 50] := by
  intro h
  have hnewest : IsNewest
      [delivery "PICKED UP" 50, delivery "DELIVERED" 100, delivery "PICKED UP" 50]
      (delivery "DELIVERED" 100) := by
    refine ⟨100, rfl, fun call hcall t ht => ?_⟩
    simp only [List.mem_cons, List.not_mem_nil, or_false] at hcall
    rcases hcall with rfl | rfl | rfl <;> (cases ht; decide)
  exact absurd (h.newest_wins _ (by simp) hnewest) (by decide)

end AyushOms.Tracking
