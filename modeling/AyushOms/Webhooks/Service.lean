import AyushOms.Core.Base
import AyushOms.Core.Enums
import AyushOms.Lib.Table

/-!
# Webhook Ingestion

`app.services.webhook_service.WebhookService`: every delivery is recorded once under its
idempotency key, and its row carries the status of its processing. The synchronous
endpoints share one course: a recorded key is acknowledged without processing; a new one
is recorded, processed, and marked by the outcome.
-/

namespace AyushOms.Webhooks

open AyushOms.Lib

inductive IntegrationCode where
  | shopify | shiprocket | cashfree
  deriving DecidableEq, Repr

def IntegrationCode.value : IntegrationCode → String
  | shopify => "shopify"
  | shiprocket => "shiprocket"
  | cashfree => "cashfree"

/-- `WebhookEvent`: one recorded delivery. -/
structure WebhookEvent where
  integration : IntegrationCode
  eventType : String
  externalEventId : String
  externalResourceId : Option String := none
  status : WebhookEventStatus := .received
  retryCount : Nat := 0
  deriving DecidableEq, Repr

/-- `uq_webhook_events_integration_external`. -/
def WebhookEvent.keys (e : WebhookEvent) : List (IntegrationCode × String) :=
  [(e.integration, e.externalEventId)]

abbrev EventTable := Table WebhookEvent (IntegrationCode × String) WebhookEvent.keys

/-- What an endpoint passes to `ingest`; `canonical` is the payload as canonical JSON. -/
structure Incoming where
  integration : IntegrationCode
  eventType : String
  canonical : String
  externalEventId : Option String := none
  externalResourceId : Option String := none
  deriving DecidableEq, Repr

section Digest

variable (sha256 : String → String)

/-- `compute_fallback_event_id`. -/
def computeFallbackEventId (integration : IntegrationCode) (eventType canonical : String) :
    String :=
  "fallback:" ++ sha256 (integration.value ++ ":" ++ eventType ++ ":" ++ canonical)

/-- The idempotency key of a delivery: the provider's event id, else the hash. -/
def Incoming.eventId (d : Incoming) : String :=
  (pyOr d.externalEventId none).getD
    (computeFallbackEventId sha256 d.integration d.eventType d.canonical)

/-- `get_by_integration_and_external_event_id`. -/
def getEvent (events : EventTable) (integration : IntegrationCode) (eventId : String) :
    Option WebhookEvent :=
  events.find? fun e => e.integration == integration && e.externalEventId == eventId

/-- The row `ingest` creates for a key that is not recorded. -/
def Incoming.newEvent (d : Incoming) : WebhookEvent where
  integration := d.integration
  eventType := d.eventType
  externalEventId := d.eventId sha256
  externalResourceId := d.externalResourceId

/-- `mark_processing`, `mark_processed`, `mark_failed` and `mark_ignored`. -/
def mark (events : EventTable) (integration : IntegrationCode) (eventId : String)
    (status : WebhookEventStatus) : EventTable :=
  events.modify (fun e => e.integration == integration && e.externalEventId == eventId)
    ⟨fun e => { e with
        status := status
        retryCount := if status = .failed then e.retryCount + 1 else e.retryCount },
      fun _ => rfl⟩

/-- How processing a delivery ended. -/
inductive Handled where
  | applied
  | notApplied
  | raised
  deriving DecidableEq, Repr

/-- The status a processed delivery is marked with. -/
def Handled.status : Handled → WebhookEventStatus
  | applied => .processed
  | notApplied => .ignored
  | raised => .failed

/-- The HTTP status the provider gets. -/
def Handled.answer : Handled → Nat
  | applied | notApplied => 200
  | raised => 500

/-- What an endpoint decides about a recorded delivery before handing it on. -/
inductive Preflight where
  | proceed
  /-- Recorded as ignored and acknowledged. -/
  | ignore
  /-- An exception outside the guarded part: the row stays `PROCESSING`. -/
  | crash
  deriving DecidableEq, Repr

/-- One request's effect: the answer, whether the delivery was handed to its handler, the
event log and the handler's state. -/
structure Reception (σ : Type*) where
  answer : Nat
  handed : Bool
  events : EventTable
  app : σ

variable {σ : Type*}

/-- The part of an endpoint that follows a successful `ingest`. -/
def processNew (events : EventTable) (d : Incoming) (preflight : Preflight)
    (handle : σ → Handled × σ) (app : σ) : Reception σ :=
  let eventId := d.eventId sha256
  match preflight with
  | .ignore => ⟨200, false, mark events d.integration eventId .ignored, app⟩
  | .crash => ⟨500, false, mark events d.integration eventId .processing, app⟩
  | .proceed =>
    let processing := mark events d.integration eventId .processing
    let (outcome, app') := handle app
    ⟨outcome.answer, true, mark processing d.integration eventId outcome.status, app'⟩

/-- `ingest` and what follows: a delivery whose key is recorded is acknowledged as a
duplicate, whatever became of the recorded one. -/
def receive (events : EventTable) (d : Incoming) (preflight : Preflight)
    (handle : σ → Handled × σ) (app : σ) : Reception σ :=
  match getEvent events d.integration (d.eventId sha256) with
  | some _ => ⟨200, false, events, app⟩
  | none =>
    match events.insert? (d.newEvent sha256) with
    -- a concurrent delivery won the insertion: a duplicate as well
    | none => ⟨200, false, events, app⟩
    | some recorded => processNew sha256 recorded d preflight handle app

/-! ## What reception does to the log -/

variable {sha256}

/-- The key is recorded. -/
def Known (events : EventTable) (integration : IntegrationCode) (eventId : String) : Prop :=
  ∃ e ∈ events.rows, e.integration = integration ∧ e.externalEventId = eventId

theorem getEvent_isSome_iff {events : EventTable} {integration : IntegrationCode}
    {eventId : String} :
    (getEvent events integration eventId).isSome = true ↔ Known events integration eventId := by
  unfold getEvent Table.find? Known
  rw [List.find?_isSome]
  simp

theorem getEvent_eq_none_iff {events : EventTable} {integration : IntegrationCode}
    {eventId : String} :
    getEvent events integration eventId = none ↔ ¬ Known events integration eventId := by
  rw [← getEvent_isSome_iff]
  cases getEvent events integration eventId <;> simp

/-- The status a recorded key is marked with. -/
def statusOf (events : EventTable) (integration : IntegrationCode) (eventId : String) :
    Option WebhookEventStatus :=
  (getEvent events integration eventId).map (·.status)

theorem known_iff_statusOf {events : EventTable} {integration : IntegrationCode}
    {eventId : String} : Known events integration eventId ↔
      ∃ status, statusOf events integration eventId = some status := by
  rw [← getEvent_isSome_iff]
  unfold statusOf
  cases getEvent events integration eventId <;> simp

/-- Marking a row changes its own status and no other. -/
theorem statusOf_mark (events : EventTable) (integration integration' : IntegrationCode)
    (eventId eventId' : String) (status : WebhookEventStatus) :
    statusOf (mark events integration eventId status) integration' eventId' =
      if integration' = integration ∧ eventId' = eventId then
        (statusOf events integration' eventId').map fun _ => status
      else statusOf events integration' eventId' := by
  have hfind := Table.find?_modify events
    (p := fun e => e.integration == integration && e.externalEventId == eventId)
    (q := fun e => e.integration == integration' && e.externalEventId == eventId')
    (f := ⟨fun e => { e with
        status := status
        retryCount := if status = .failed then e.retryCount + 1 else e.retryCount },
      fun _ => rfl⟩) fun _ => rfl
  unfold statusOf getEvent mark
  rw [hfind]
  -- the row found under the other key is the marked one exactly when the keys agree
  cases hget : events.find? fun e =>
      e.integration == integration' && e.externalEventId == eventId' with
  | none => simp
  | some e =>
    have he : e.integration = integration' ∧ e.externalEventId = eventId' := by
      simpa using List.find?_some hget
    obtain ⟨rfl, rfl⟩ := he
    by_cases hown : e.integration = integration ∧ e.externalEventId = eventId
    · simp [hown]
    · simp [hown]

/-- A recorded row ends the log; its key is received, the others are as they were. -/
theorem statusOf_inserted {events recorded : EventTable} {d : Incoming}
    (hins : events.insert? (d.newEvent sha256) = some recorded)
    (integration : IntegrationCode) (eventId : String) :
    statusOf recorded integration eventId =
      if integration = d.integration ∧ eventId = d.eventId sha256 then some .received
      else statusOf events integration eventId := by
  have hrows := Table.rows_of_insert? hins
  have hfree := (Table.insert?_eq_some_iff.mp hins).2.1
  unfold statusOf getEvent Table.find?
  rw [hrows, List.find?_append]
  -- the new row is last, and no earlier row has its key
  by_cases hown : integration = d.integration ∧ eventId = d.eventId sha256
  · obtain ⟨rfl, rfl⟩ := hown
    have hnone : events.rows.find? (fun e =>
        e.integration == d.integration && e.externalEventId == d.eventId sha256) = none := by
      rw [List.find?_eq_none]
      intro e he hmatch
      simp only [Bool.and_eq_true, beq_iff_eq] at hmatch
      refine hfree (d.integration, d.eventId sha256)
        (by simp [WebhookEvent.keys, Incoming.newEvent]) e he ?_
      simp [WebhookEvent.keys, hmatch]
    rw [hnone]
    simp [Incoming.newEvent]
  · have hother : ¬ (d.integration = integration ∧ d.eventId sha256 = eventId) :=
      fun h => hown ⟨h.1.symm, h.2.symm⟩
    rw [if_neg hown]
    cases events.rows.find? fun e =>
      e.integration == integration && e.externalEventId == eventId with
    | some e => simp
    | none =>
      simp only [Option.none_or, Option.map_none, Option.map_eq_none_iff, List.find?_eq_none,
        List.mem_singleton]
      rintro e rfl
      simpa [Incoming.newEvent] using hother

/-- A key that is not recorded can be recorded. -/
theorem insert?_of_not_known {events : EventTable} {d : Incoming}
    (h : ¬ Known events d.integration (d.eventId sha256)) :
    ∃ recorded, events.insert? (d.newEvent sha256) = some recorded := by
  refine Option.ne_none_iff_exists'.mp fun hnone => ?_
  obtain ⟨k, hk, e, he, hke⟩ :=
    (Table.insert?_eq_none_iff (by simp [WebhookEvent.keys])).mp hnone
  simp only [WebhookEvent.keys, Incoming.newEvent, List.mem_singleton] at hk hke
  subst hk
  rw [Prod.mk.injEq] at hke
  exact h ⟨e, he, hke.1.symm, hke.2.symm⟩

/-- A delivery whose key is recorded is acknowledged and changes nothing. -/
theorem receive_of_known {events : EventTable} {d : Incoming} {preflight : Preflight}
    {handle : σ → Handled × σ} {app : σ}
    (h : Known events d.integration (d.eventId sha256)) :
    receive sha256 events d preflight handle app = ⟨200, false, events, app⟩ := by
  obtain ⟨e, he⟩ := Option.isSome_iff_exists.mp (getEvent_isSome_iff.mpr h)
  simp only [receive, he]

/-- A delivery whose key is not recorded is recorded and processed. -/
theorem receive_of_not_known {events : EventTable} {d : Incoming} (preflight : Preflight)
    (handle : σ → Handled × σ) (app : σ)
    (h : ¬ Known events d.integration (d.eventId sha256)) :
    ∃ recorded, events.insert? (d.newEvent sha256) = some recorded ∧
      receive sha256 events d preflight handle app =
        processNew sha256 recorded d preflight handle app := by
  obtain ⟨recorded, hrecorded⟩ := insert?_of_not_known h
  refine ⟨recorded, hrecorded, ?_⟩
  simp only [receive, getEvent_eq_none_iff.mpr h, hrecorded]

/-- A delivery that is processed is marked by its outcome, and answered by it. -/
theorem processNew_proceed {events recorded : EventTable} {d : Incoming}
    (hins : events.insert? (d.newEvent sha256) = some recorded) (handle : σ → Handled × σ)
    (app : σ) :
    let r := processNew sha256 recorded d .proceed handle app
    r.handed = true ∧ r.answer = (handle app).1.answer ∧
      statusOf r.events d.integration (d.eventId sha256) = some (handle app).1.status := by
  refine ⟨rfl, rfl, ?_⟩
  simp only [processNew, statusOf_mark, statusOf_inserted hins, true_and, if_true, Option.map_some]

/-- Processing changes the status of the delivery's own key only. -/
theorem statusOf_processNew_of_ne {events : EventTable} {d : Incoming} {preflight : Preflight}
    {handle : σ → Handled × σ} {app : σ} {integration : IntegrationCode} {eventId : String}
    (hne : ¬ (integration = d.integration ∧ eventId = d.eventId sha256)) :
    statusOf (processNew sha256 events d preflight handle app).events integration eventId =
      statusOf events integration eventId := by
  cases preflight <;> simp only [processNew, statusOf_mark, if_neg hne]

/-- A recorded key keeps its status whatever is delivered afterwards. -/
theorem statusOf_receive_of_known {events : EventTable} {d : Incoming}
    {preflight : Preflight} {handle : σ → Handled × σ} {app : σ}
    {integration : IntegrationCode} {eventId : String} (h : Known events integration eventId) :
    statusOf (receive sha256 events d preflight handle app).events integration eventId =
      statusOf events integration eventId := by
  -- a delivery of another key touches that key's row only
  by_cases hd : Known events d.integration (d.eventId sha256)
  · rw [receive_of_known hd]
  · obtain ⟨recorded, hrecorded, hreceive⟩ := receive_of_not_known preflight handle app hd
    have hne : ¬ (integration = d.integration ∧ eventId = d.eventId sha256) := by
      rintro ⟨rfl, rfl⟩
      exact hd h
    rw [hreceive, statusOf_processNew_of_ne hne, statusOf_inserted hrecorded, if_neg hne]

end Digest

end AyushOms.Webhooks
