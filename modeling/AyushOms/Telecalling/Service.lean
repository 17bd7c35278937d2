import AyushOms.Lib.Transaction
import AyushOms.Telecalling.Model
import Mathlib.Data.Prod.Lex

/-!
# The Telecalling Service

The transactions of `app.services.telecalling_service.TelecallingService` on assignments and
call attempts, statement by statement: each reads, checks that the order is the caller's own,
reads again, and writes what it has computed from its reads.
-/

namespace AyushOms.Telecalling

open AyushOms.Lib

/-! ## Section 1: Writes -/

/-- A statement that writes. An `UPDATE` sets the columns in which the written row differs
from the loaded one. -/
inductive CallWrite where
  | insertAttempt (row : CallAttempt)
  | insertAssignment (row : OrderAssignment)
  | updateAssignment (loaded written : OrderAssignment)
  deriving DecidableEq

/-- The value a column has after the `UPDATE`. -/
def changed {α : Type} [DecidableEq α] (loaded written current : α) : α :=
  if written = loaded then current else written

/-- The columns an `UPDATE` of an assignment can set. -/
def OrderAssignment.update (loaded written current : OrderAssignment) : OrderAssignment :=
  { current with
    assignmentStatus :=
      changed loaded.assignmentStatus written.assignmentStatus current.assignmentStatus
    currentStatus := changed loaded.currentStatus written.currentStatus current.currentStatus
    attemptCount := changed loaded.attemptCount written.attemptCount current.attemptCount
    lastAttemptAt := changed loaded.lastAttemptAt written.lastAttemptAt current.lastAttemptAt
    nextFollowUpAt :=
      changed loaded.nextFollowUpAt written.nextFollowUpAt current.nextFollowUpAt }

/-- A write; the database refuses one that violates a constraint. -/
def CallWrite.apply : CallWrite → CallDB → Except PyException CallDB
  | insertAttempt row, db =>
    match db.callAttempts.insert? row with
    | none => .error .integrityError
    | some attempts => .ok { db with callAttempts := attempts }
  | insertAssignment row, db =>
    match db.assignments.insert? row with
    | none => .error .integrityError
    | some assignments => .ok { db with assignments := assignments }
  | updateAssignment loaded written, db =>
    match db.assignments.update? (fun a => a.id == loaded.id) (loaded.update written) with
    | none => .error .integrityError
    | some assignments => .ok { db with assignments := assignments }

/-- A transaction of the service. -/
abbrev CallTxn (α : Type) := Txn CallDB CallWrite PyException α

/-! ## Section 2: Reads -/

/-- The active assignment of an order, for the caller it is assigned to. -/
def ownAssignment (actor : User) (orderId : UUID) (db : CallDB) :
    Except PyException OrderAssignment :=
  match getActiveForOrder db.assignments orderId with
  | none => .error (.oms (.notFound "Order is not currently assigned."))
  | some assignment =>
    if actor.isSuperuser = false ∧ assignment.assignedTo ≠ actor.id then
      .error (.oms (.authorization "This order is not assigned to you."))
    else .ok assignment

/-- The check at the beginning of every method. -/
def requireOwn (actor : User) (orderId : UUID) : CallTxn OrderAssignment := do
  let assignment ← Txn.select (ownAssignment actor orderId)
  Txn.ofExcept assignment

/-- `get_correctable_for_order`, which reads twice. -/
def requireCorrectable (attemptId orderId : UUID) : CallTxn CallAttempt := do
  let target ← Txn.select fun db => db.callAttempts.find? fun c => c.id == attemptId
  let target ← Txn.orRaise (target.filter fun c => c.orderId == orderId)
    (.oms (.notFound "Call attempt not found."))
  let current ← Txn.select fun db =>
    (resolveCurrentForOrder db.callAttempts orderId true).find? fun c =>
      c.attemptNumber == target.attemptNumber
  Txn.orRaise (current.filter fun c => !c.isVoid) (.oms (.notFound "Call attempt not found."))

/-- `max(resolved, key=lambda r: (r.attempted_at, r.attempt_number))`: the first of the
greatest. -/
def latestAttempt : List CallAttempt → Option CallAttempt
  | [] => none
  | c :: rest =>
    match latestAttempt rest with
    | none => some c
    | some best =>
      if toLex (c.attemptedAt, c.attemptNumber) < toLex (best.attemptedAt, best.attemptNumber)
      then some best else some c

/-- The columns `_recompute_assignment_from_attempts` sets. -/
def recomputed (resolved : List CallAttempt) (edited : CallAttempt)
    (assignment : OrderAssignment) : OrderAssignment :=
  let wasMostRecent := resolved.all fun c =>
    c.attemptNumber == edited.attemptNumber || decide (c.attemptedAt ≤ edited.attemptedAt)
  let latest := latestAttempt resolved
  { assignment with
    attemptCount := resolved.length
    currentStatus := (latest.map (·.outcome)).getD .notCalled
    lastAttemptAt := latest.map (·.attemptedAt)
    nextFollowUpAt :=
      if wasMostRecent then latest.bind (·.nextFollowUpAt) else assignment.nextFollowUpAt }

/-! ## Section 3: The transactions -/

/-- The arguments of `log_call`, with the id its row is given and the time. -/
structure LogCall where
  orderId : UUID
  outcome : TelecallingStatus
  notes : Option String := none
  nextFollowUpAt : Option Instant := none
  actor : User
  newId : UUID
  now : Instant
  deriving DecidableEq, Repr

/-- The row `log_call` adds. -/
def LogCall.row (c : LogCall) (attemptNumber : ℕ) : CallAttempt where
  id := c.newId
  orderId := c.orderId
  telecallerId := some c.actor.id
  attemptNumber := attemptNumber
  attemptedAt := c.now
  outcome := c.outcome
  notes := c.notes
  nextFollowUpAt := c.nextFollowUpAt

/-- The columns `log_call` sets in the assignment. -/
def LogCall.write (c : LogCall) (assignment : OrderAssignment) : OrderAssignment :=
  { assignment with
    currentStatus := c.outcome
    attemptCount := assignment.attemptCount + 1
    lastAttemptAt := some c.now
    nextFollowUpAt := c.nextFollowUpAt.or assignment.nextFollowUpAt }

/-- `log_call` up to its commit. -/
def logCall (c : LogCall) : CallTxn CallAttempt := do
  let assignment ← requireOwn c.actor c.orderId
  let attemptNumber ← Txn.select fun db => nextAttemptNumber db.callAttempts c.orderId
  Txn.flush (.insertAttempt (c.row attemptNumber))
  Txn.flush (.updateAssignment assignment (c.write assignment))
  return c.row attemptNumber

/-- What `edit_call_attempt` and `delete_call_attempt` write, which differ in the row they
add. -/
def correctAttempt (actor : User) (orderId attemptId : UUID)
    (correction : CallAttempt → CallAttempt) : CallTxn CallAttempt := do
  let assignment ← requireOwn actor orderId
  let target ← requireCorrectable attemptId orderId
  Txn.flush (.insertAttempt (correction target))
  let resolved ← Txn.select fun db => resolveCurrentForOrder db.callAttempts orderId false
  Txn.flush (.updateAssignment assignment (recomputed resolved target assignment))
  return correction target

/-- The arguments of `edit_call_attempt`. -/
structure EditCall where
  orderId : UUID
  attemptId : UUID
  outcome : TelecallingStatus
  notes : Option String := none
  nextFollowUpAt : Option Instant := none
  actor : User
  newId : UUID
  deriving DecidableEq, Repr

/-- The row `edit_call_attempt` adds. -/
def EditCall.row (c : EditCall) (target : CallAttempt) : CallAttempt where
  id := c.newId
  orderId := c.orderId
  telecallerId := some c.actor.id
  attemptNumber := target.attemptNumber
  attemptedAt := target.attemptedAt
  outcome := c.outcome
  notes := c.notes
  nextFollowUpAt := c.nextFollowUpAt
  correctsAttemptId := some target.id

/-- `edit_call_attempt` up to its commit. -/
def editCallAttempt (c : EditCall) : CallTxn CallAttempt :=
  correctAttempt c.actor c.orderId c.attemptId c.row

/-- The arguments of `delete_call_attempt`. -/
structure DeleteCall where
  orderId : UUID
  attemptId : UUID
  actor : User
  newId : UUID
  deriving DecidableEq, Repr

/-- The row `delete_call_attempt` adds. -/
def DeleteCall.row (c : DeleteCall) (target : CallAttempt) : CallAttempt :=
  { target with
    id := c.newId
    orderId := c.orderId
    telecallerId := some c.actor.id
    correctsAttemptId := some target.id
    isVoid := true }

/-- `delete_call_attempt` up to its commit. -/
def deleteCallAttempt (c : DeleteCall) : CallTxn CallAttempt :=
  correctAttempt c.actor c.orderId c.attemptId c.row

/-- `schedule_follow_up` up to its commit. -/
def scheduleFollowUp (orderId : UUID) (nextFollowUpAt : Instant) (actor : User) :
    CallTxn OrderAssignment := do
  let assignment ← requireOwn actor orderId
  let written := { assignment with nextFollowUpAt := some nextFollowUpAt }
  Txn.flush (.updateAssignment assignment written)
  return written

/-- `assert_telecaller_in_team_scope`. -/
def assertTelecallerInTeamScope (telecallerId : UUID) (actor : User) : CallTxn User := do
  let telecaller ← Txn.select fun db => db.getUser telecallerId
  let telecaller ← Txn.orRaise (telecaller.filter fun u => u.roleNames.contains "TELECALLER")
    (.oms (.notFound "Telecaller not found."))
  Txn.raiseIf (actor.isSuperuser = false ∧ "ADMIN" ∉ actor.roleNames ∧
    telecaller.teamLeaderId ≠ some actor.id)
    (.oms (.authorization "That telecaller is not on your team."))
  return telecaller

/-- The arguments of `reassign_order`. -/
structure Reassign where
  orderId : UUID
  newTelecallerId : UUID
  reason : String
  actor : User
  newId : UUID
  now : Instant
  deriving DecidableEq, Repr

/-- The row `reassign_order` adds. -/
def Reassign.row (c : Reassign) (current : OrderAssignment) (telecaller : User) :
    OrderAssignment where
  id := c.newId
  orderId := c.orderId
  assignedTo := telecaller.id
  assignedBy := some c.actor.id
  assignedAt := c.now
  teamLeaderId := telecaller.teamLeaderId
  assignmentStatus := .active
  reassignedFrom := some current.assignedTo
  reassignedTo := some telecaller.id
  reassignedAt := some c.now
  reassignmentReason := some c.reason
  currentStatus := .notCalled

/-- `reassign_order` up to its commit. -/
def reassignOrder (c : Reassign) : CallTxn OrderAssignment := do
  let current ← Txn.select fun db => getActiveForOrder db.assignments c.orderId
  let current ← Txn.orRaise current
    (.oms (.notFound "Order has no active assignment to reassign — use assign instead."))
  let telecaller ← assertTelecallerInTeamScope c.newTelecallerId c.actor
  Txn.raiseIf (c.actor.isSuperuser = false ∧ current.teamLeaderId ≠ some c.actor.id)
    (.oms (.authorization "That order is not on your team."))
  Txn.flush (.updateAssignment current { current with assignmentStatus := .inactive })
  Txn.flush (.insertAssignment (c.row current telecaller))
  return c.row current telecaller

end AyushOms.Telecalling
