import AyushOms.Lib.Run
import AyushOms.Webhooks.Service
import Mathlib.Data.List.Perm.Subperm

/-!
# The Life of a Shopify Webhook

`receive_shopify_webhook` records a delivery and enqueues it for Celery,
`process_webhook_event_task` processes it in a worker and retries it when its handler fails,
and `recover_stuck_webhook_events_task` enqueues again what has been sitting at `RECEIVED` for
too long. Requests, workers and sweeps take their steps in any order.

An event is meant to have one task at a time, but nothing checks it: a sweep cannot tell an
event whose enqueueing failed from one whose worker is slow.

## Main results

- `settled_for_good`: a settled event stays settled as long as a sweep requeues only events
  that have lost their task, and a finished sweep leaves no old event without one
-/

namespace AyushOms.Webhooks

open AyushOms.Lib

/-! ## Section 1: Events, messages and tasks -/

/-- A row of `webhook_events`. -/
structure StoredEvent where
  id : UUID
  receivedAt : Instant
  event : WebhookEvent
  deriving DecidableEq, Repr

inductive StoredEventKey where
  | id (id : UUID)
  | external (integration : IntegrationCode) (externalEventId : String)
  deriving DecidableEq

def StoredEvent.keys (e : StoredEvent) : List StoredEventKey :=
  [.id e.id, .external e.event.integration e.event.externalEventId]

/-- A message for `webhooks.process_event`. -/
structure Message where
  eventId : UUID
  retries : ℕ := 0
  deriving DecidableEq, Repr

/-- Where `_process_webhook_event` stands. -/
inductive Stage where
  /-- The event is loaded. -/
  | loaded
  /-- `mark_processing` is committed. -/
  | processing
  /-- The handler has returned. -/
  | handled
  /-- An exception was caught. -/
  | failing
  /-- `mark_failed` is committed, and the exception is on its way to `self.retry`. -/
  | failed
  deriving DecidableEq, Repr

/-- A message that a worker has taken; it is acknowledged when the task is over. -/
structure Task where
  message : Message
  stage : Stage := .loaded
  deriving DecidableEq, Repr

/-- How the `try` block goes: no adapter is registered, the adapter raises, there is no
handler for the topic, or the handler runs and returns or raises. -/
inductive Handling where
  | noAdapter
  | adapterRaised
  | unhandled
  | handlerReturned
  | handlerRaised
  deriving DecidableEq, Repr

/-- A run of `_recover_stuck_webhook_events`: the ids it has yet to enqueue. -/
structure Sweep where
  cutoff : Instant
  remaining : List UUID
  deriving DecidableEq, Repr

/-- The clock, the table, the requests that have committed their event and not yet called
`delay`, the queue, the tasks in the workers, the sweeps, and the events whose handler was
run, one entry each time. -/
structure WebhookWorld where
  now : Instant := 0
  events : Table StoredEvent StoredEventKey StoredEvent.keys := Table.empty
  requests : List UUID := []
  queue : List Message := []
  running : List Task := []
  sweeps : List Sweep := []
  handlerRuns : List UUID := []

/-- `STUCK_WEBHOOK_EVENT_THRESHOLD`, in microseconds. -/
def stuckWebhookEventThreshold : Int := 300000000

/-- `max_retries` of the task. -/
def maxRetries : ℕ := 5

namespace WebhookWorld

/-- The status of an event. -/
def statusOf (w : WebhookWorld) (id : UUID) : Option WebhookEventStatus :=
  (w.events.find? fun e => e.id == id).map (·.event.status)

/-! ## Section 2: Steps -/

/-- `mark_processing`, `mark_processed`, `mark_failed` and `mark_ignored`. -/
def mark (w : WebhookWorld) (id : UUID) (status : WebhookEventStatus) : WebhookWorld :=
  { w with
    events := w.events.modify (fun e => e.id == id)
      ⟨fun e => { e with event := { e.event with
          status := status
          retryCount := if status = .failed then e.event.retryCount + 1
            else e.event.retryCount } },
        fun _ => rfl⟩ }

/-- `ingest`: an event that is recorded already is left alone, and its request enqueues
nothing. -/
def ingest (sha256 : String → String) (w : WebhookWorld) (id : UUID) (d : Incoming) :
    WebhookWorld :=
  match w.events.insert? { id := id, receivedAt := w.now, event := d.newEvent sha256 } with
  | none => w
  | some events => { w with events := events, requests := w.requests ++ [id] }

/-- `process_webhook_event_task.delay`, for a request: a failure is logged. -/
def enqueue (w : WebhookWorld) (i : ℕ) (delivered : Bool) : WebhookWorld :=
  match w.requests[i]? with
  | none => w
  | some id =>
    { w with
      requests := w.requests.eraseIdx i
      queue := if delivered then w.queue ++ [{ eventId := id }] else w.queue }

/-- A worker takes a message. -/
def take (w : WebhookWorld) (i : ℕ) : WebhookWorld :=
  match w.queue[i]? with
  | none => w
  | some message =>
    { w with
      queue := w.queue.eraseIdx i
      running := w.running ++ [{ message := message }] }

/-- The task moves on to a stage. -/
def moveTo (w : WebhookWorld) (i : ℕ) (t : Task) (stage : Stage) : WebhookWorld :=
  { w with running := w.running.set i { t with stage := stage } }

/-- The task is over. -/
def finish (w : WebhookWorld) (i : ℕ) : WebhookWorld :=
  { w with running := w.running.eraseIdx i }

/-- `self.retry`, which gives up after `max_retries`, or when the broker is not reached. -/
def retry (w : WebhookWorld) (t : Task) (delivered : Bool) : WebhookWorld :=
  if t.message.retries < maxRetries ∧ delivered then
    { w with queue := w.queue ++ [{ t.message with retries := t.message.retries + 1 }] }
  else w

/-- The handler is called. -/
def callHandler (w : WebhookWorld) (id : UUID) : WebhookWorld :=
  { w with handlerRuns := w.handlerRuns ++ [id] }

/-- The next commit of a task, or the `try` block in between. -/
def advance (w : WebhookWorld) (i : ℕ) (handling : Handling) (delivered : Bool) :
    WebhookWorld :=
  match w.running[i]? with
  | none => w
  | some t =>
    let id := t.message.eventId
    match t.stage with
    | .loaded => (w.mark id .processing).moveTo i t .processing
    | .processing =>
      match handling with
      | .noAdapter | .unhandled => (w.mark id .ignored).finish i
      | .adapterRaised => w.moveTo i t .failing
      | .handlerReturned => (w.callHandler id).moveTo i t .handled
      | .handlerRaised => (w.callHandler id).moveTo i t .failing
    | .handled => (w.mark id .processed).finish i
    | .failing => (w.mark id .failed).moveTo i t .failed
    | .failed => (w.finish i).retry t delivered

/-- `get_stuck_received`. -/
def stuckReceived (w : WebhookWorld) (cutoff : Instant) : List UUID :=
  (w.events.rows.filter fun e => e.event.status = .received ∧ e.receivedAt < cutoff).map (·.id)

/-- A sweep selects the events it will enqueue. -/
def beginSweep (w : WebhookWorld) : WebhookWorld :=
  let cutoff := w.now - stuckWebhookEventThreshold
  { w with sweeps := w.sweeps ++ [⟨cutoff, w.stuckReceived cutoff⟩] }

/-- A sweep enqueues its next event; a failure ends the sweep. -/
def requeue (w : WebhookWorld) (i : ℕ) (delivered : Bool) : WebhookWorld :=
  match w.sweeps[i]? with
  | some ⟨cutoff, id :: rest⟩ =>
    if delivered then
      { w with
        sweeps := w.sweeps.set i ⟨cutoff, rest⟩
        queue := w.queue ++ [{ eventId := id }] }
    else { w with sweeps := w.sweeps.eraseIdx i }
  | _ => w

end WebhookWorld

/-- A step of a request, a worker, a sweep or the clock. -/
inductive WebhookStep where
  | tick (elapsed : ℕ)
  | ingest (id : UUID) (d : Incoming)
  | enqueue (i : ℕ) (delivered : Bool)
  | take (i : ℕ)
  | advance (i : ℕ) (handling : Handling) (delivered : Bool)
  | beginSweep
  | requeue (i : ℕ) (delivered : Bool)
  deriving DecidableEq, Repr

/-- One step. -/
def webhookStep (sha256 : String → String) (w : WebhookWorld) : WebhookStep → WebhookWorld
  | .tick elapsed => { w with now := w.now + elapsed }
  | .ingest id d => w.ingest sha256 id d
  | .enqueue i delivered => w.enqueue i delivered
  | .take i => w.take i
  | .advance i handling delivered => w.advance i handling delivered
  | .beginSweep => w.beginSweep
  | .requeue i delivered => w.requeue i delivered

/-! ## Section 3: What a step can do -/

/-- `PROCESSED` or `IGNORED`. -/
def Settled (status : WebhookEventStatus) : Prop := status = .processed ∨ status = .ignored

namespace WebhookWorld

/-- The events of all tasks: about to be enqueued, queued, or in a worker. -/
def tasks (w : WebhookWorld) : List UUID :=
  w.requests ++ w.queue.map (·.eventId) ++ w.running.map (·.message.eventId)

/-- What one step does to the statuses, the handler runs and the tasks. -/
inductive Effect (w : WebhookWorld) (e : WebhookStep) (w' : WebhookWorld) : Prop where
  /-- Nothing is processed; a task may be lost. -/
  | idle (hstatus : ∀ id, w'.statusOf id = w.statusOf id)
      (hruns : w'.handlerRuns = w.handlerRuns) (htasks : w'.tasks.Subperm w.tasks)
  /-- An event is recorded, and a request is about to enqueue it. -/
  | recorded (id : UUID) (hfresh : w.statusOf id = none)
      (hstatus : ∀ id', w'.statusOf id' = if id' = id then some .received else w.statusOf id')
      (hruns : w'.handlerRuns = w.handlerRuns) (htasks : w'.tasks.Perm (id :: w.tasks))
  /-- A task works on its event: it stays, or it is over. -/
  | worked (id : UUID) (rest : List UUID) (htask : w.tasks.Perm (id :: rest))
      (hstatus : ∀ id', id' ≠ id → w'.statusOf id' = w.statusOf id')
      (hruns : ∀ id', id' ≠ id → w'.handlerRuns.count id' = w.handlerRuns.count id')
      (htasks : w'.tasks.Perm rest ∨ w'.tasks.Perm (id :: rest) ∧
        ∀ status, w'.statusOf id = some status → Settled status → w.statusOf id = some status)
  /-- A sweep enqueues an event. -/
  | requeued (i : ℕ) (cutoff : Instant) (id : UUID) (rest : List UUID)
      (hstep : e = .requeue i true) (hsweep : w.sweeps[i]? = some ⟨cutoff, id :: rest⟩)
      (hstatus : ∀ id', w'.statusOf id' = w.statusOf id')
      (hruns : w'.handlerRuns = w.handlerRuns) (htasks : w'.tasks.Perm (id :: w.tasks))

/-! The parts of a step and what they leave alone. -/

section Parts

variable {w : WebhookWorld} {id id' : UUID} {status : WebhookEventStatus} {i : ℕ} {t : Task}

theorem statusOf_mark (w : WebhookWorld) (id id' : UUID) (status : WebhookEventStatus) :
    (w.mark id status).statusOf id' =
      if id' = id then (w.statusOf id').map fun _ => status else w.statusOf id' := by
  unfold statusOf mark
  rw [Table.find?_modify _ fun _ => rfl]
  cases hfind : w.events.find? fun e => e.id == id' with
  | none => simp
  | some e =>
    have hid : e.id = id' := by simpa using List.find?_some hfind
    by_cases h : id' = id
    · simp [hid, h]
    · simp [hid, h]

@[simp] theorem requests_mark : (w.mark id status).requests = w.requests := rfl

@[simp] theorem queue_mark : (w.mark id status).queue = w.queue := rfl

@[simp] theorem running_mark : (w.mark id status).running = w.running := rfl

@[simp] theorem tasks_mark : (w.mark id status).tasks = w.tasks := rfl

@[simp] theorem handlerRuns_mark : (w.mark id status).handlerRuns = w.handlerRuns := rfl

@[simp] theorem statusOf_moveTo {stage : Stage} : (w.moveTo i t stage).statusOf = w.statusOf := rfl

@[simp] theorem statusOf_finish : (w.finish i).statusOf = w.statusOf := rfl

@[simp] theorem statusOf_callHandler : (w.callHandler id).statusOf = w.statusOf := rfl

@[simp] theorem statusOf_retry {delivered : Bool} :
    (w.retry t delivered).statusOf = w.statusOf := by
  unfold retry
  split <;> rfl

@[simp] theorem handlerRuns_retry {delivered : Bool} :
    (w.retry t delivered).handlerRuns = w.handlerRuns := by
  unfold retry
  split <;> rfl

/-- The tasks but the one at a place in the workers. -/
def otherTasks (w : WebhookWorld) (i : ℕ) : List UUID := (w.finish i).tasks

theorem tasks_perm_of_running (h : w.running[i]? = some t) :
    w.tasks.Perm (t.message.eventId :: w.otherTasks i) := by
  obtain ⟨hi, rfl⟩ := List.getElem?_eq_some_iff.mp h
  have hperm := (List.getElem_cons_eraseIdx_perm hi).map fun t => t.message.eventId
  exact (hperm.symm.append_left _).trans List.perm_middle

/-- A task that moves on keeps its message. -/
theorem eventIds_moveTo {stage : Stage} (h : w.running[i]? = some t) :
    (w.moveTo i t stage).running.map (·.message.eventId) =
      w.running.map (·.message.eventId) := by
  obtain ⟨hi, rfl⟩ := List.getElem?_eq_some_iff.mp h
  unfold moveTo
  refine List.ext_getElem (by simp) fun n hn hn' => ?_
  simp only [List.getElem_map, List.getElem_set]
  split
  · subst i
    rfl
  · rfl

theorem tasks_moveTo {stage : Stage} (h : w.running[i]? = some t) :
    (w.moveTo i t stage).tasks = w.tasks :=
  congrArg (w.requests ++ w.queue.map (·.eventId) ++ ·) (eventIds_moveTo h)

end Parts

/-! Each step has its effect. -/

section Effects

variable {w : WebhookWorld} {e : WebhookStep}

theorem effect_ingest (sha256 : String → String) (id : UUID) (d : Incoming) :
    Effect w e (w.ingest sha256 id d) := by
  unfold ingest
  split
  · exact .idle (fun _ => rfl) rfl (List.Subperm.refl _)
  · rename_i events hins
    obtain ⟨-, hfree, hrows⟩ := Table.insert?_eq_some_iff.mp hins
    have hnone : w.events.rows.find? (fun e => e.id == id) = none := by
      rw [List.find?_eq_none]
      intro e he hid
      obtain rfl : e.id = id := by simpa using hid
      exact hfree (.id e.id) (by simp [StoredEvent.keys]) e he (by simp [StoredEvent.keys])
    refine .recorded id (by simp [statusOf, Table.find?, hnone]) (fun id' => ?_) rfl ?_
    · unfold statusOf Table.find?
      rw [hrows, List.find?_append]
      by_cases h : id' = id
      · subst h
        simp [hnone, Incoming.newEvent]
      · simp [h, Ne.symm h]
    · unfold tasks
      simp only [List.append_assoc]
      exact List.perm_middle

theorem effect_enqueue (i : ℕ) (delivered : Bool) : Effect w e (w.enqueue i delivered) := by
  unfold enqueue
  split
  · exact .idle (fun _ => rfl) rfl (List.Subperm.refl _)
  · rename_i id hid
    obtain ⟨hi, rfl⟩ := List.getElem?_eq_some_iff.mp hid
    have hperm := List.getElem_cons_eraseIdx_perm hi
    refine .idle (fun _ => rfl) rfl ?_
    unfold tasks
    cases delivered with
    | true =>
      -- the request's entry becomes the message's
      refine List.Perm.subperm ?_
      simp only [if_true, List.map_append, List.map_cons, List.map_nil]
      rw [← List.append_assoc]
      refine List.Perm.append_right _ ?_
      refine (List.perm_append_comm).trans ?_
      exact (hperm.append_right (w.queue.map (·.eventId)))
    | false =>
      exact ((List.eraseIdx_sublist _ _).append_right _).append_right _ |>.subperm

theorem effect_take (i : ℕ) : Effect w e (w.take i) := by
  unfold take
  split
  · exact .idle (fun _ => rfl) rfl (List.Subperm.refl _)
  · rename_i message hmessage
    obtain ⟨hi, rfl⟩ := List.getElem?_eq_some_iff.mp hmessage
    refine .idle (fun _ => rfl) rfl (List.Perm.subperm ?_)
    have hperm := (List.getElem_cons_eraseIdx_perm hi).map (·.eventId)
    unfold tasks
    simp only [List.map_append, List.map_cons, List.map_nil, List.append_assoc]
    refine List.Perm.append_left _ ?_
    rw [← List.append_assoc]
    refine List.perm_append_comm.trans ?_
    exact hperm.append_right (w.running.map (·.message.eventId))

/-- A task that is over leaves the others, and its message once more when it is retried. -/
theorem tasks_retry (t : Task) (i : ℕ) (delivered : Bool) :
    ((w.finish i).retry t delivered).tasks.Perm (w.otherTasks i) ∨
      ((w.finish i).retry t delivered).tasks.Perm (t.message.eventId :: w.otherTasks i) := by
  unfold retry
  split
  · refine .inr ?_
    unfold tasks otherTasks tasks
    simp only [List.map_append, List.map_cons, List.map_nil, List.append_assoc]
    exact (List.Perm.append_left _ List.perm_middle).trans List.perm_middle
  · exact .inl (List.Perm.refl _)

/-- A task marks its event with a status that does not settle it, and goes on. -/
theorem effect_mark_moveTo {i : ℕ} {t : Task} (ht : w.running[i]? = some t)
    {status : WebhookEventStatus} (hstatus : ¬ Settled status) (stage : Stage) :
    Effect w e ((w.mark t.message.eventId status).moveTo i t stage) := by
  refine .worked t.message.eventId (w.otherTasks i) (tasks_perm_of_running ht)
    (fun id' hne => ?_) (fun _ _ => rfl) (.inr ⟨?_, fun status' hmarked hsettled => ?_⟩)
  · rw [statusOf_moveTo, statusOf_mark, if_neg hne]
  · rw [tasks_moveTo (w := w.mark t.message.eventId status) ht]
    exact tasks_perm_of_running ht
  · rw [statusOf_moveTo, statusOf_mark, if_pos rfl, Option.map_eq_some_iff] at hmarked
    obtain ⟨-, -, rfl⟩ := hmarked
    exact absurd hsettled hstatus

/-- A task marks its event and is over. -/
theorem effect_mark_finish {i : ℕ} {t : Task} (ht : w.running[i]? = some t)
    (status : WebhookEventStatus) : Effect w e ((w.mark t.message.eventId status).finish i) := by
  refine .worked t.message.eventId (w.otherTasks i) (tasks_perm_of_running ht)
    (fun id' hne => ?_) (fun _ _ => rfl) (.inl (List.Perm.refl _))
  rw [statusOf_finish, statusOf_mark, if_neg hne]

/-- A task calls its handler and goes on. -/
theorem effect_callHandler {i : ℕ} {t : Task} (ht : w.running[i]? = some t) (stage : Stage) :
    Effect w e ((w.callHandler t.message.eventId).moveTo i t stage) := by
  refine .worked t.message.eventId (w.otherTasks i) (tasks_perm_of_running ht)
    (fun _ _ => rfl) (fun id' hne => ?_) (.inr ⟨?_, fun _ h _ => h⟩)
  · change (w.handlerRuns ++ [t.message.eventId]).count id' = _
    simp [List.count_append, Ne.symm hne]
  · rw [tasks_moveTo (w := w.callHandler t.message.eventId) ht]
    exact tasks_perm_of_running ht

theorem effect_advance (i : ℕ) (handling : Handling) (delivered : Bool) :
    Effect w e (w.advance i handling delivered) := by
  unfold advance
  split
  · exact .idle (fun _ => rfl) rfl (List.Subperm.refl _)
  · rename_i t ht
    dsimp only
    split
    · exact effect_mark_moveTo ht (by simp [Settled]) _
    · split
      · exact effect_mark_finish ht _
      · exact effect_mark_finish ht _
      · -- the adapter raised before any handler was looked up
        refine .idle (fun _ => rfl) rfl ?_
        rw [tasks_moveTo ht]
      · exact effect_callHandler ht _
      · exact effect_callHandler ht _
    · exact effect_mark_finish ht _
    · exact effect_mark_moveTo ht (by simp [Settled]) _
    · refine .worked t.message.eventId (w.otherTasks i) (tasks_perm_of_running ht)
        (fun id' _ => ?_) (fun id' _ => ?_) ((tasks_retry t i delivered).imp_right fun h =>
          ⟨h, fun status hstatus _ => ?_⟩)
      · rw [statusOf_retry, statusOf_finish]
      · rw [handlerRuns_retry]
        rfl
      · rwa [statusOf_retry, statusOf_finish] at hstatus

theorem effect_requeue (i : ℕ) (delivered : Bool) :
    Effect w (.requeue i delivered) (w.requeue i delivered) := by
  unfold requeue
  split
  · rename_i cutoff id rest hsweep
    cases delivered with
    | true =>
      refine .requeued i cutoff id rest rfl hsweep (fun _ => rfl) rfl ?_
      unfold tasks
      simp only [if_true, List.map_append, List.map_cons, List.map_nil, List.append_assoc]
      refine (List.Perm.append_left _ List.perm_middle).trans List.perm_middle
    | false => exact .idle (fun _ => rfl) rfl (List.Subperm.refl _)
  · exact .idle (fun _ => rfl) rfl (List.Subperm.refl _)

end Effects

theorem effect_step (sha256 : String → String) (w : WebhookWorld) (e : WebhookStep) :
    Effect w e (webhookStep sha256 w e) := by
  cases e with
  | tick elapsed => exact .idle (fun _ => rfl) rfl (List.Subperm.refl _)
  | ingest id d => exact effect_ingest sha256 id d
  | enqueue i delivered => exact effect_enqueue i delivered
  | take i => exact effect_take i
  | advance i handling delivered => exact effect_advance i handling delivered
  | beginSweep => exact .idle (fun _ => rfl) rfl (List.Subperm.refl _)
  | requeue i delivered => exact effect_requeue i delivered


end WebhookWorld

/-! ## Section 4: One task for each event -/

namespace WebhookWorld

/-- Every task is of an event that is recorded. -/
def TasksKnown (w : WebhookWorld) : Prop := ∀ id ∈ w.tasks, w.statusOf id ≠ none

/-- No event has two tasks, and a settled one has none. -/
structure OneTask (w : WebhookWorld) : Prop where
  once : w.tasks.Nodup
  unsettled : ∀ id ∈ w.tasks, ∀ status, w.statusOf id = some status → ¬ Settled status

/-- A sweep that enqueues an event enqueues one that has lost its task: none of its tasks is
about to be enqueued, queued or in a worker, and it has not been settled since the sweep
selected it. -/
def RequeuesLost (w : WebhookWorld) : WebhookStep → Prop
  | .requeue i true => ∀ cutoff id rest, w.sweeps[i]? = some ⟨cutoff, id :: rest⟩ →
      id ∉ w.tasks ∧ ∀ status, w.statusOf id = some status → ¬ Settled status
  | _ => True

/-- What was settled is settled the same way, and its handler has not been run again. -/
def SettledKept (w w' : WebhookWorld) : Prop :=
  ∀ id status, w.statusOf id = some status → Settled status →
    w'.statusOf id = some status ∧ w'.handlerRuns.count id = w.handlerRuns.count id

theorem SettledKept.refl (w : WebhookWorld) : SettledKept w w := fun _ _ h _ => ⟨h, rfl⟩

theorem SettledKept.trans {w w' w'' : WebhookWorld} (h : SettledKept w w')
    (h' : SettledKept w' w'') : SettledKept w w'' := by
  intro id status hstatus hsettled
  obtain ⟨hstatus', hruns⟩ := h id status hstatus hsettled
  obtain ⟨hstatus'', hruns'⟩ := h' id status hstatus' hsettled
  exact ⟨hstatus'', hruns'.trans hruns⟩

section Step

variable {w w' : WebhookWorld} {e : WebhookStep}

theorem nodup_of_subperm {α : Type} {l l' : List α} (h : l.Subperm l') (hl : l'.Nodup) :
    l.Nodup := by
  obtain ⟨l₀, hperm, hsub⟩ := h
  exact hperm.nodup_iff.mp (hsub.nodup hl)

/-- A step that meets the guard keeps to one task. -/
theorem OneTask.step (h : w.OneTask) (hknown : w.TasksKnown) (heffect : Effect w e w')
    (hguard : w.RequeuesLost e) : w'.OneTask := by
  cases heffect with
  | idle hstatus hruns htasks =>
    refine ⟨nodup_of_subperm htasks h.once, fun id hid status hsome => ?_⟩
    rw [hstatus] at hsome
    exact h.unsettled id (htasks.subset hid) status hsome
  | recorded id hfresh hstatus hruns htasks =>
    have hnew : id ∉ w.tasks := fun hid => hknown id hid hfresh
    refine ⟨htasks.nodup_iff.mpr (List.nodup_cons.mpr ⟨hnew, h.once⟩),
      fun id' hid' status hsome => ?_⟩
    rw [hstatus] at hsome
    rcases List.mem_cons.mp (htasks.subset hid') with rfl | hold
    · rw [if_pos rfl] at hsome
      cases hsome
      simp [Settled]
    · have hne : id' ≠ id := by
        rintro rfl
        exact hnew hold
      rw [if_neg hne] at hsome
      exact h.unsettled id' hold status hsome
  | worked id rest htask hstatus hruns htasks =>
    have honce := htask.nodup_iff.mp h.once
    obtain ⟨hid, hrest⟩ := List.nodup_cons.mp honce
    have hothers : ∀ id' ∈ rest, ∀ status, w'.statusOf id' = some status → ¬ Settled status := by
      intro id' hid' status hsome
      have hne : id' ≠ id := by
        rintro rfl
        exact hid hid'
      rw [hstatus id' hne] at hsome
      exact h.unsettled id' (htask.symm.subset (List.mem_cons_of_mem _ hid')) status hsome
    rcases htasks with hover | ⟨hstays, hunsettled⟩
    · exact ⟨hover.nodup_iff.mpr hrest, fun id' hid' => hothers id' (hover.subset hid')⟩
    · refine ⟨hstays.nodup_iff.mpr honce, fun id' hid' status hsome => ?_⟩
      rcases List.mem_cons.mp (hstays.subset hid') with rfl | hold
      · intro hsettled
        exact h.unsettled id' (htask.symm.subset List.mem_cons_self) status
          (hunsettled status hsome hsettled) hsettled
      · exact hothers id' hold status hsome
  | requeued i cutoff id rest hstep hsweep hstatus hruns htasks =>
    subst hstep
    obtain ⟨hlost, hunsettled⟩ := hguard cutoff id rest hsweep
    refine ⟨htasks.nodup_iff.mpr (List.nodup_cons.mpr ⟨hlost, h.once⟩),
      fun id' hid' status hsome => ?_⟩
    rw [hstatus] at hsome
    rcases List.mem_cons.mp (htasks.subset hid') with rfl | hold
    · exact hunsettled status hsome
    · exact h.unsettled id' hold status hsome

/-- As long as there is one task for each event, a step keeps what is settled. -/
theorem OneTask.settledKept (h : w.OneTask) (heffect : Effect w e w') : SettledKept w w' := by
  intro id status hsome hsettled
  cases heffect with
  | idle hstatus hruns htasks => exact ⟨(hstatus id).trans hsome, by rw [hruns]⟩
  | recorded id' hfresh hstatus hruns htasks =>
    refine ⟨?_, by rw [hruns]⟩
    rw [hstatus, if_neg, hsome]
    rintro rfl
    rw [hfresh] at hsome
    cases hsome
  | worked id' rest htask hstatus hruns htasks =>
    -- the event of a task is not settled
    have hne : id ≠ id' := by
      rintro rfl
      exact h.unsettled id (htask.symm.subset List.mem_cons_self) status hsome hsettled
    exact ⟨(hstatus id hne).trans hsome, hruns id hne⟩
  | requeued i cutoff id' rest hstep hsweep hstatus hruns htasks =>
    exact ⟨(hstatus id).trans hsome, by rw [hruns]⟩

end Step

/-! ## Section 5: What a sweep has seen to -/

/-- The event has been sitting at `RECEIVED` since before the cutoff. -/
def Waiting (w : WebhookWorld) (cutoff : Instant) (id : UUID) : Prop :=
  ∃ e ∈ w.events.rows, e.id = id ∧ e.event.status = .received ∧ e.receivedAt < cutoff

/-- The event has a message in the queue or a task in a worker. -/
def Enqueued (w : WebhookWorld) (id : UUID) : Prop :=
  id ∈ w.queue.map (·.eventId) ∨ id ∈ w.running.map (·.message.eventId)

/-- What a sweep is about: every event that was waiting at its cutoff and still is has a task,
or is one of those the sweep has yet to enqueue. -/
def Sees (w : WebhookWorld) (sweep : Sweep) : Prop :=
  sweep.cutoff ≤ w.now ∧
    ∀ id, w.Waiting sweep.cutoff id → id ∈ sweep.remaining ∨ w.Enqueued id

/-- Tasks and sweeps are about recorded events, a task that has begun has marked its event, and
sweeps see what is waiting. -/
structure WellFormed (w : WebhookWorld) : Prop where
  tasksKnown : w.TasksKnown
  sweepsKnown : ∀ sweep ∈ w.sweeps, ∀ id ∈ sweep.remaining, w.statusOf id ≠ none
  begun : ∀ t ∈ w.running, t.stage ≠ .loaded →
    w.statusOf t.message.eventId ≠ some .received
  sees : ∀ sweep ∈ w.sweeps, w.Sees sweep

section WellFormedStep

variable {w : WebhookWorld} {sha256 : String → String} {e : WebhookStep}

/-- The table changes by one mark, none of which is `RECEIVED`, or by one new row. -/
inductive EventsChange (w w' : WebhookWorld) : Prop where
  | same (h : w'.events = w.events)
  | marked (id : UUID) (status : WebhookEventStatus) (hstatus : status ≠ .received)
      (h : w'.events = (w.mark id status).events)
  | inserted (row : StoredEvent) (hnow : row.receivedAt = w.now)
      (h : w.events.insert? row = some w'.events)

theorem eventsChange_advance (i : ℕ) (handling : Handling) (delivered : Bool) :
    EventsChange w (w.advance i handling delivered) := by
  unfold advance
  split
  · exact .same rfl
  · rename_i t ht
    dsimp only
    split
    · exact .marked t.message.eventId .processing nofun rfl
    · split
      · exact .marked t.message.eventId .ignored nofun rfl
      · exact .marked t.message.eventId .ignored nofun rfl
      · exact .same rfl
      · exact .same rfl
      · exact .same rfl
    · exact .marked t.message.eventId .processed nofun rfl
    · exact .marked t.message.eventId .failed nofun rfl
    · refine .same ?_
      unfold retry
      split <;> rfl

theorem eventsChange_step (sha256 : String → String) (w : WebhookWorld) (e : WebhookStep) :
    EventsChange w (webhookStep sha256 w e) := by
  cases e with
  | tick elapsed => exact .same rfl
  | ingest id d =>
    simp only [webhookStep, ingest]
    split
    · exact .same rfl
    · rename_i events hins
      exact .inserted _ rfl hins
  | enqueue i delivered =>
    simp only [webhookStep, enqueue]
    split <;> exact .same rfl
  | take i =>
    simp only [webhookStep, take]
    split <;> exact .same rfl
  | advance i handling delivered => exact eventsChange_advance i handling delivered
  | beginSweep => exact .same rfl
  | requeue i delivered =>
    simp only [webhookStep, requeue]
    split
    · cases delivered <;> exact .same rfl
    · exact .same rfl

theorem statusOf_congr {w w' : WebhookWorld} (h : w'.events = w.events) (id : UUID) :
    w'.statusOf id = w.statusOf id := by
  unfold statusOf
  rw [h]

/-- A recorded event stays recorded, and is `RECEIVED` only if it was. -/
theorem EventsChange.status {w w' : WebhookWorld} (h : EventsChange w w') {id : UUID}
    (hknown : w.statusOf id ≠ none) : w'.statusOf id ≠ none ∧
      (w'.statusOf id = some .received → w.statusOf id = some .received) := by
  cases h with
  | same h =>
    rw [statusOf_congr h]
    exact ⟨hknown, fun h => h⟩
  | marked id' status hstatus h =>
    rw [statusOf_congr h, statusOf_mark]
    split
    · refine ⟨by simpa using hknown, fun h => ?_⟩
      obtain ⟨-, -, rfl⟩ := Option.map_eq_some_iff.mp h
      exact absurd rfl hstatus
    · exact ⟨hknown, fun h => h⟩
  | inserted row hnow h =>
    have hsame : w'.statusOf id = w.statusOf id := by
      unfold statusOf Table.find? at hknown ⊢
      rw [Table.rows_of_insert? h, List.find?_append]
      cases hfind : w.events.rows.find? fun e => e.id == id with
      | none =>
        rw [hfind] at hknown
        exact absurd rfl hknown
      | some e => rfl
    rw [hsame]
    exact ⟨hknown, fun h => h⟩

/-- What is waiting now was waiting before. -/
theorem EventsChange.waiting {w w' : WebhookWorld} (h : EventsChange w w') {cutoff : Instant}
    (hcutoff : cutoff ≤ w.now) {id : UUID} (hwaiting : w'.Waiting cutoff id) :
    w.Waiting cutoff id := by
  obtain ⟨e, he, hid, hstatus, hreceived⟩ := hwaiting
  cases h with
  | same h => exact ⟨e, h ▸ he, hid, hstatus, hreceived⟩
  | marked id' status hmark h =>
    rw [h] at he
    obtain ⟨e₀, he₀, ⟨-, rfl⟩ | ⟨-, rfl⟩⟩ := Table.mem_modify.mp he
    · exact absurd hstatus hmark
    · exact ⟨e, he₀, hid, hstatus, hreceived⟩
  | inserted row hnow h =>
    rw [Table.rows_of_insert? h] at he
    rcases List.mem_append.mp he with hold | hnew
    · exact ⟨e, hold, hid, hstatus, hreceived⟩
    · obtain rfl := List.mem_singleton.mp hnew
      rw [hnow] at hreceived
      exact absurd hreceived (Int.not_lt.mpr hcutoff)

theorem statusOf_of_waiting {cutoff : Instant} {id : UUID} (h : w.Waiting cutoff id) :
    w.statusOf id = some .received := by
  obtain ⟨e, he, rfl, hstatus, -⟩ := h
  have hfind : w.events.find? (fun e' => e'.id == e.id) = some e :=
    w.events.find?_eq_some_of_mem (k := .id e.id) he (by simp)
      (by simp +contextual [StoredEvent.keys])
  rw [statusOf, hfind, Option.map_some, hstatus]

theorem mem_running_moveTo {i : ℕ} {t t' : Task} {stage : Stage}
    (h : t' ∈ (w.moveTo i t stage).running) : t' ∈ w.running ∨ t' = { t with stage := stage } :=
  List.mem_or_eq_of_mem_set h

theorem running_retry (t : Task) (delivered : Bool) :
    (w.retry t delivered).running = w.running := by
  unfold retry
  split <;> rfl

/-- A worker's task is one that was there, or the one that has taken its next step. -/
theorem mem_running_advance {i : ℕ} {handling : Handling} {delivered : Bool} {t' : Task}
    (h : t' ∈ (w.advance i handling delivered).running) :
    t' ∈ w.running ∨ ∃ t, w.running[i]? = some t ∧ t'.message = t.message := by
  have hmoved : ∀ {w₀ : WebhookWorld} {t : Task} {stage : Stage}, w₀.running = w.running →
      w.running[i]? = some t → t' ∈ (w₀.moveTo i t stage).running →
        t' ∈ w.running ∨ ∃ t, w.running[i]? = some t ∧ t'.message = t.message := by
    intro w₀ t stage hsame ht hmem
    rcases mem_running_moveTo hmem with hold | rfl
    · exact .inl (hsame ▸ hold)
    · exact .inr ⟨t, ht, rfl⟩
  unfold advance at h
  split at h
  · exact .inl h
  · rename_i t ht
    dsimp only at h
    split at h
    · exact hmoved rfl ht h
    · split at h
      · exact .inl (List.mem_of_mem_eraseIdx h)
      · exact .inl (List.mem_of_mem_eraseIdx h)
      · exact hmoved rfl ht h
      · exact hmoved rfl ht h
      · exact hmoved rfl ht h
    · exact .inl (List.mem_of_mem_eraseIdx h)
    · exact hmoved rfl ht h
    · rw [running_retry] at h
      exact .inl (List.mem_of_mem_eraseIdx h)

/-- A task that has begun has marked its event, whatever happens next. -/
theorem WellFormed.begun_of_change (h : w.WellFormed) {w' : WebhookWorld}
    (hchange : EventsChange w w') {t : Task} (ht : t ∈ w.running) (hstage : t.stage ≠ .loaded) :
    w'.statusOf t.message.eventId ≠ some .received := by
  intro hreceived
  have hknown := h.tasksKnown t.message.eventId
    (List.mem_append_right _ (List.mem_map_of_mem ht))
  exact h.begun t ht hstage ((hchange.status hknown).2 hreceived)

/-- A task begins with `mark_processing`. -/
theorem statusOf_advance_loaded {i : ℕ} {t : Task} (ht : w.running[i]? = some t)
    (hstage : t.stage = .loaded) (handling : Handling) (delivered : Bool) :
    (w.advance i handling delivered).statusOf t.message.eventId ≠ some .received := by
  unfold advance
  simp only [ht, hstage, statusOf_moveTo, statusOf_mark, if_true]
  cases w.statusOf t.message.eventId <;> simp

theorem WellFormed.begun_step (h : w.WellFormed) :
    ∀ t ∈ (webhookStep sha256 w e).running, t.stage ≠ .loaded →
      (webhookStep sha256 w e).statusOf t.message.eventId ≠ some .received := by
  intro t ht hstage
  have hchange := eventsChange_step sha256 w e
  cases e with
  | tick elapsed => exact h.begun_of_change hchange ht hstage
  | ingest id d =>
    refine h.begun_of_change hchange ?_ hstage
    simp only [webhookStep, ingest] at ht
    split at ht <;> exact ht
  | enqueue i delivered =>
    refine h.begun_of_change hchange ?_ hstage
    simp only [webhookStep, enqueue] at ht
    split at ht <;> exact ht
  | take i =>
    refine h.begun_of_change hchange ?_ hstage
    simp only [webhookStep, take] at ht
    split at ht
    · exact ht
    · rcases List.mem_append.mp ht with ht | hnew
      · exact ht
      · obtain rfl := List.mem_singleton.mp hnew
        exact absurd rfl hstage
  | advance i handling delivered =>
    rcases mem_running_advance ht with hold | ⟨t₀, ht₀, hmessage⟩
    · exact h.begun_of_change hchange hold hstage
    · rw [hmessage]
      by_cases hloaded : t₀.stage = .loaded
      · exact statusOf_advance_loaded ht₀ hloaded handling delivered
      · exact h.begun_of_change hchange (List.mem_of_getElem? ht₀) hloaded
  | beginSweep => exact h.begun_of_change hchange ht hstage
  | requeue i delivered =>
    refine h.begun_of_change hchange ?_ hstage
    simp only [webhookStep, requeue] at ht
    split at ht
    · cases delivered <;> exact ht
    · exact ht

theorem enqueued_moveTo {i : ℕ} {t : Task} {stage : Stage} (ht : w.running[i]? = some t)
    {id : UUID} (hid : w.Enqueued id) : (w.moveTo i t stage).Enqueued id := by
  unfold Enqueued
  rw [eventIds_moveTo ht]
  exact hid

theorem enqueued_finish {i : ℕ} {t : Task} (ht : w.running[i]? = some t) {id : UUID}
    (hne : id ≠ t.message.eventId) (hid : w.Enqueued id) : (w.finish i).Enqueued id := by
  obtain ⟨hi, rfl⟩ := List.getElem?_eq_some_iff.mp ht
  have hperm := (List.getElem_cons_eraseIdx_perm hi).map (·.message.eventId)
  refine hid.imp_right fun hrunning => ?_
  exact (List.mem_cons.mp (hperm.symm.subset hrunning)).resolve_left hne

theorem enqueued_retry (t : Task) (delivered : Bool) {id : UUID} (hid : w.Enqueued id) :
    (w.retry t delivered).Enqueued id := by
  unfold retry
  split
  · refine hid.imp_left fun hqueued => ?_
    simp only [List.map_append]
    exact List.mem_append_left _ hqueued
  · exact hid

/-- Only a task that has begun can take the last task of its event away. -/
theorem enqueued_advance {i : ℕ} {t : Task} (ht : w.running[i]? = some t) {id : UUID}
    (hid : w.Enqueued id) (hkept : t.stage = .loaded ∨ id ≠ t.message.eventId)
    (handling : Handling) (delivered : Bool) :
    (w.advance i handling delivered).Enqueued id := by
  unfold advance
  rw [ht]
  dsimp only
  split
  · exact enqueued_moveTo (w := w.mark _ _) ht hid
  all_goals have hne := hkept.resolve_left (by simp_all)
  · split
    · exact enqueued_finish (w := w.mark _ _) ht hne hid
    · exact enqueued_finish (w := w.mark _ _) ht hne hid
    · exact enqueued_moveTo ht hid
    · exact enqueued_moveTo (w := w.callHandler _) ht hid
    · exact enqueued_moveTo (w := w.callHandler _) ht hid
  · exact enqueued_finish (w := w.mark _ _) ht hne hid
  · exact enqueued_moveTo (w := w.mark _ _) ht hid
  · exact enqueued_retry t delivered (enqueued_finish ht hne hid)

/-- A message at the end of the queue leaves the others their tasks. -/
theorem Enqueued.append {w' : WebhookWorld} {id : UUID} (h : w.Enqueued id) {m : Message}
    (hqueue : w'.queue = w.queue ++ [m]) (hrunning : w'.running = w.running) : w'.Enqueued id := by
  unfold Enqueued
  rw [hqueue, hrunning, List.map_append]
  exact h.imp_left (List.mem_append_left _)

/-- An event that is still waiting keeps its task. -/
theorem WellFormed.enqueued_step (h : w.WellFormed) {id : UUID} (hid : w.Enqueued id)
    (hreceived : (webhookStep sha256 w e).statusOf id = some .received) :
    (webhookStep sha256 w e).Enqueued id := by
  have hchange := eventsChange_step sha256 w e
  cases e with
  | tick elapsed => exact hid
  | ingest id' d =>
    simp only [webhookStep, ingest]
    split <;> exact hid
  | enqueue i delivered =>
    simp only [webhookStep, enqueue]
    split
    · exact hid
    · cases delivered with
      | true => exact hid.append rfl rfl
      | false => exact hid
  | take i =>
    simp only [webhookStep, take]
    split
    · exact hid
    · rename_i message hmessage
      obtain ⟨hi, rfl⟩ := List.getElem?_eq_some_iff.mp hmessage
      have hperm := (List.getElem_cons_eraseIdx_perm hi).map (·.eventId)
      unfold Enqueued
      simp only [List.map_append, List.map_cons, List.map_nil, List.mem_append,
        List.mem_singleton]
      rcases hid with hqueued | hrunning
      · rcases List.mem_cons.mp (hperm.symm.subset hqueued) with rfl | hrest
        · exact .inr (.inr rfl)
        · exact .inl hrest
      · exact .inr (.inl hrunning)
  | advance i handling delivered =>
    cases ht : w.running[i]? with
    | none =>
      simp only [webhookStep, advance, ht]
      exact hid
    | some t =>
      refine enqueued_advance ht hid ?_ handling delivered
      by_contra hover
      obtain ⟨hbegun, hsame⟩ := not_or.mp hover
      obtain rfl := not_not.mp hsame
      exact h.begun_of_change hchange (List.mem_of_getElem? ht) hbegun hreceived
  | beginSweep => exact hid
  | requeue i delivered =>
    simp only [webhookStep, requeue]
    split
    · cases delivered with
      | true => exact hid.append rfl rfl
      | false => exact hid
    · exact hid

/-- What a sweep selects is recorded, and is everything that is waiting. -/
theorem mem_stuckReceived {cutoff : Instant} {id : UUID} :
    id ∈ w.stuckReceived cutoff ↔ w.Waiting cutoff id := by
  unfold stuckReceived Waiting
  simp only [List.mem_map, List.mem_filter, decide_eq_true_eq]
  constructor
  · rintro ⟨e, ⟨he, hstatus, hreceived⟩, rfl⟩
    exact ⟨e, he, rfl, hstatus, hreceived⟩
  · rintro ⟨e, he, rfl, hstatus, hreceived⟩
    exact ⟨e, ⟨he, hstatus, hreceived⟩, rfl⟩

theorem sweeps_advance (i : ℕ) (handling : Handling) (delivered : Bool) :
    (w.advance i handling delivered).sweeps = w.sweeps := by
  unfold advance
  split
  · rfl
  · dsimp only
    split
    · rfl
    · split <;> rfl
    · rfl
    · rfl
    · unfold retry
      split <;> rfl

theorem now_advance (i : ℕ) (handling : Handling) (delivered : Bool) :
    (w.advance i handling delivered).now = w.now := by
  unfold advance
  split
  · rfl
  · dsimp only
    split
    · rfl
    · split <;> rfl
    · rfl
    · rfl
    · unfold retry
      split <;> rfl

/-- The clock does not go back. -/
theorem now_le_step (sha256 : String → String) (w : WebhookWorld) (e : WebhookStep) :
    w.now ≤ (webhookStep sha256 w e).now := by
  cases e with
  | tick elapsed => exact Int.le_add_of_nonneg_right (Int.natCast_nonneg elapsed)
  | ingest id d =>
    simp only [webhookStep, ingest]
    split <;> exact Int.le_refl _
  | enqueue i delivered =>
    simp only [webhookStep, enqueue]
    split <;> exact Int.le_refl _
  | take i =>
    simp only [webhookStep, take]
    split <;> exact Int.le_refl _
  | advance i handling delivered => exact Int.le_of_eq (now_advance i handling delivered).symm
  | beginSweep => exact Int.le_refl _
  | requeue i delivered =>
    simp only [webhookStep, requeue]
    split
    · cases delivered <;> exact Int.le_refl _
    · exact Int.le_refl _

/-- The sweeps after a step: those before it, the one that has begun, or one that has enqueued
its next event. -/
theorem mem_sweeps_step {sweep : Sweep} (h : sweep ∈ (webhookStep sha256 w e).sweeps) :
    sweep ∈ w.sweeps ∨
      (e = .beginSweep ∧ sweep = ⟨w.now - stuckWebhookEventThreshold,
        w.stuckReceived (w.now - stuckWebhookEventThreshold)⟩) ∨
      ∃ id, ⟨sweep.cutoff, id :: sweep.remaining⟩ ∈ w.sweeps ∧
        (webhookStep sha256 w e).Enqueued id := by
  cases e with
  | tick elapsed => exact .inl h
  | ingest id d =>
    simp only [webhookStep, ingest] at h
    split at h <;> exact .inl h
  | enqueue i delivered =>
    simp only [webhookStep, enqueue] at h
    split at h <;> exact .inl h
  | take i =>
    simp only [webhookStep, take] at h
    split at h <;> exact .inl h
  | advance i handling delivered => exact .inl (sweeps_advance i handling delivered ▸ h)
  | beginSweep =>
    rcases List.mem_append.mp h with hold | hnew
    · exact .inl hold
    · exact .inr (.inl ⟨rfl, List.mem_singleton.mp hnew⟩)
  | requeue i delivered =>
    simp only [webhookStep, requeue] at h ⊢
    split at h
    · rename_i cutoff id rest hsweep
      cases delivered with
      | true =>
        rcases List.mem_or_eq_of_mem_set h with hold | rfl
        · exact .inl hold
        · refine .inr (.inr ⟨id, List.mem_of_getElem? hsweep, .inl ?_⟩)
          simp
      | false => exact .inl (List.mem_of_mem_eraseIdx h)
    · exact .inl h

/-- Every step keeps the world well formed. -/
theorem WellFormed.step (h : w.WellFormed) : (webhookStep sha256 w e).WellFormed := by
  have hchange := eventsChange_step sha256 w e
  refine ⟨fun id hid => ?_, fun sweep hsweep id hid => ?_, h.begun_step, fun sweep hsweep => ?_⟩
  · cases effect_step sha256 w e with
    | idle hstatus hruns htasks =>
      exact (hchange.status (h.tasksKnown id (htasks.subset hid))).1
    | recorded id' hfresh hstatus hruns htasks =>
      rcases List.mem_cons.mp (htasks.subset hid) with rfl | hold
      · simp [hstatus]
      · exact (hchange.status (h.tasksKnown id hold)).1
    | worked id' rest htask hstatus hruns htasks =>
      have hmem : id ∈ id' :: rest := by
        rcases htasks with hover | ⟨hstays, -⟩
        · exact List.mem_cons_of_mem _ (hover.subset hid)
        · exact hstays.subset hid
      exact (hchange.status (h.tasksKnown id (htask.symm.subset hmem))).1
    | requeued i cutoff id' rest hstep hsweep hstatus hruns htasks =>
      rcases List.mem_cons.mp (htasks.subset hid) with rfl | hold
      · exact (hchange.status (h.sweepsKnown _ (List.mem_of_getElem? hsweep) id
          List.mem_cons_self)).1
      · exact (hchange.status (h.tasksKnown id hold)).1
  · rcases mem_sweeps_step hsweep with hold | ⟨-, rfl⟩ | ⟨next, hold, -⟩
    · exact (hchange.status (h.sweepsKnown sweep hold id hid)).1
    · refine (hchange.status ?_).1
      rw [statusOf_of_waiting (mem_stuckReceived.mp hid)]
      exact Option.some_ne_none _
    · exact (hchange.status (h.sweepsKnown _ hold id (List.mem_cons_of_mem _ hid))).1
  · rcases mem_sweeps_step hsweep with hold | ⟨rfl, rfl⟩ | ⟨next, hold, hnext⟩
    · obtain ⟨hcutoff, hsees⟩ := h.sees sweep hold
      refine ⟨Int.le_trans hcutoff (now_le_step sha256 w e), fun id hwaiting => ?_⟩
      exact (hsees id (hchange.waiting hcutoff hwaiting)).imp_right fun henqueued =>
        h.enqueued_step henqueued (statusOf_of_waiting hwaiting)
    · have hcutoff : w.now - stuckWebhookEventThreshold ≤ w.now := Int.sub_le_self w.now (by decide)
      exact ⟨hcutoff, fun id hwaiting => .inl (mem_stuckReceived.mpr hwaiting)⟩
    · obtain ⟨hcutoff, hsees⟩ := h.sees _ hold
      refine ⟨Int.le_trans hcutoff (now_le_step sha256 w e), fun id hwaiting => ?_⟩
      rcases hsees id (hchange.waiting hcutoff hwaiting) with hremaining | henqueued
      · rcases List.mem_cons.mp hremaining with rfl | hrest
        · exact .inr hnext
        · exact .inl hrest
      · exact .inr (h.enqueued_step henqueued (statusOf_of_waiting hwaiting))

end WellFormedStep

end WebhookWorld

/-! ## Section 6: Runs -/

theorem wellFormed_empty : ({} : WebhookWorld).WellFormed :=
  ⟨nofun, nofun, nofun, nofun⟩

theorem oneTask_empty : ({} : WebhookWorld).OneTask := ⟨List.nodup_nil, nofun⟩

namespace WebhookWorld

/-- Along steps that meet the guard, what is settled stays settled. -/
theorem settledKept_run {sha256 : String → String} {w : WebhookWorld} (hw : w.WellFormed)
    (hone : w.OneTask) {steps : List WebhookStep}
    (hsteps : Along (webhookStep sha256) RequeuesLost w steps) :
    SettledKept w (run (webhookStep sha256) w steps) := by
  induction steps generalizing w with
  | nil => exact .refl w
  | cons e steps ih =>
    obtain ⟨hguard, hrest⟩ := along_cons.mp hsteps
    have heffect := effect_step sha256 w e
    exact (hone.settledKept heffect).trans
      (ih hw.step (hone.step hw.tasksKnown heffect hguard) hrest)

/-- So it does from any point of such a run on. -/
theorem oneTask_run {sha256 : String → String} {steps : List WebhookStep}
    (hsteps : Along (webhookStep sha256) RequeuesLost {} steps) :
    (run (webhookStep sha256) {} steps).OneTask := by
  have hkept : Throughout (webhookStep sha256) (fun w => w.WellFormed ∧ w.OneTask) {} steps :=
    throughout_of_along
      (fun w e ⟨hw, hone⟩ hguard =>
        ⟨hw.step, hone.step hw.tasksKnown (effect_step sha256 w e) hguard⟩)
      ⟨wellFormed_empty, oneTask_empty⟩ hsteps
  exact hkept.final.2

end WebhookWorld

/-- **The life of a webhook**, from an empty table and for every order of steps. As long as
every sweep requeues only events that have lost their task, an event that is `PROCESSED` or
`IGNORED` stays so and its handler is not run again. Whatever the sweeps requeue, an event that
was at `RECEIVED` before the cutoff of a finished sweep, and still is, has a task. -/
theorem settled_for_good (sha256 : String → String) (steps : List WebhookStep) :
    (Along (webhookStep sha256) WebhookWorld.RequeuesLost {} steps →
      ∀ pre post, steps = pre ++ post → WebhookWorld.SettledKept
        (run (webhookStep sha256) {} pre) (run (webhookStep sha256) {} steps)) ∧
    ∀ sweep ∈ (run (webhookStep sha256) {} steps).sweeps, sweep.remaining = [] →
      ∀ id, (run (webhookStep sha256) {} steps).Waiting sweep.cutoff id →
        (run (webhookStep sha256) {} steps).Enqueued id := by
  have hwellFormed : ∀ steps, (run (webhookStep sha256) {} steps).WellFormed :=
    run_invariant (webhookStep sha256) (fun w e h => h.step) wellFormed_empty
  constructor
  · rintro hguard pre post rfl
    obtain ⟨hpre, hpost⟩ := along_append.mp hguard
    rw [run_append]
    exact WebhookWorld.settledKept_run (hwellFormed pre) (WebhookWorld.oneTask_run hpre) hpost
  · intro sweep hsweep hremaining id hwaiting
    refine (((hwellFormed steps).sees sweep hsweep).2 id hwaiting).resolve_left ?_
    rw [hremaining]
    exact List.not_mem_nil

/-- A delivery of `orders/updated`. -/
def orderUpdated : Incoming where
  integration := .shopify
  eventType := "orders/updated"
  canonical := "{}"
  externalEventId := some "b54557e4"

/-- The delivery arrives while the broker is up or down; six minutes later a sweep begins. -/
def sweptUp (delivered : Bool) : List WebhookStep :=
  [.ingest 1 orderUpdated, .enqueue 0 delivered, .tick 360000000, .beginSweep]

/-- A worker takes the next message and processes it. -/
def processed : List WebhookStep :=
  [.take 0, .advance 0 .handlerReturned true, .advance 0 .handlerReturned true,
    .advance 0 .handlerReturned true]

/-- A delivery that was lost and found is processed, and the next sweep leaves it alone. -/
theorem settled_for_good_found :
    WebhookWorld.SettledKept
      (run (webhookStep id) {} (sweptUp false ++ .requeue 0 true :: processed))
      (run (webhookStep id) {}
        (sweptUp false ++ .requeue 0 true :: processed ++ [.beginSweep])) := by
  have hsweeps : (run (webhookStep id) {} (sweptUp false)).sweeps = [⟨60000000, [1]⟩] := by
    decide
  have hstatus : (run (webhookStep id) {} (sweptUp false)).statusOf 1 = some .received := by
    decide
  have hlost : (run (webhookStep id) {} (sweptUp false)).RequeuesLost (.requeue 0 true) := by
    intro cutoff id' rest hsweep
    rw [hsweeps] at hsweep
    cases hsweep
    refine ⟨by decide, fun status hsome => ?_⟩
    rw [hstatus] at hsome
    cases hsome
    simp [Settled]
  have hguard : Along (webhookStep id) WebhookWorld.RequeuesLost {}
      (sweptUp false ++ .requeue 0 true :: processed ++ [.beginSweep]) := by
    rw [List.append_assoc, along_append]
    refine ⟨⟨True.intro, True.intro, True.intro, True.intro, True.intro⟩, hlost, ?_⟩
    exact ⟨True.intro, True.intro, True.intro, True.intro, True.intro, True.intro⟩
  exact (settled_for_good id _).1 hguard _ [.beginSweep] rfl

/-- A delivery that was only slow is processed, and then processed again. -/
theorem slow_event_handled_twice :
    ¬ WebhookWorld.SettledKept
      (run (webhookStep id) {} (sweptUp true ++ .requeue 0 true :: processed))
      (run (webhookStep id) {} (sweptUp true ++ .requeue 0 true :: processed ++
        [.take 0, .advance 0 .handlerReturned true, .advance 0 .handlerReturned true])) := by
  intro h
  obtain ⟨hstatus, -⟩ := h 1 .processed (by decide) (.inl rfl)
  exact absurd hstatus (by decide)

end AyushOms.Webhooks
