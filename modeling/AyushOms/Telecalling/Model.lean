import AyushOms.Core.Base
import AyushOms.Core.Enums
import AyushOms.Lib.Table
import Mathlib.Data.List.Sort

/-!
# Telecalling: Rows and Tables

`order_assignments` and `call_attempts`, with the columns the telecalling service reads or
writes and their unique constraints. An order has at most one active assignment. Call
attempts are append-only: an edit and a deletion are rows of their own, which name the row
they correct and share its number.
-/

namespace AyushOms.Telecalling

open AyushOms.Lib

/-! ## Section 1: Rows -/

/-- `User`, the columns the telecalling service reads. -/
structure User where
  id : UUID
  name : String
  isSuperuser : Bool := false
  roleNames : List String := []
  teamLeaderId : Option UUID := none
  deriving DecidableEq, Repr

/-- `OrderAssignment`: who is supposed to call about an order. -/
structure OrderAssignment where
  id : UUID
  orderId : UUID
  assignedTo : UUID
  assignedBy : Option UUID := none
  assignedAt : Instant
  teamLeaderId : Option UUID := none
  assignmentStatus : AssignmentStatus := .active
  reassignedFrom : Option UUID := none
  reassignedTo : Option UUID := none
  reassignedAt : Option Instant := none
  reassignmentReason : Option String := none
  currentStatus : TelecallingStatus := .notCalled
  attemptCount : Int := 0
  lastAttemptAt : Option Instant := none
  nextFollowUpAt : Option Instant := none
  deriving DecidableEq, Repr

/-- `CallAttempt`: one row of the append-only call log. -/
structure CallAttempt where
  id : UUID
  orderId : UUID
  telecallerId : Option UUID
  attemptNumber : ℕ
  attemptedAt : Instant
  outcome : TelecallingStatus
  notes : Option String := none
  nextFollowUpAt : Option Instant := none
  correctsAttemptId : Option UUID := none
  isVoid : Bool := false
  deriving DecidableEq, Repr

/-! ## Section 2: Constraints and tables -/

/-- The unique columns of `order_assignments`. -/
inductive AssignmentKey where
  | id (id : UUID)
  | active (orderId : UUID)
  deriving DecidableEq

/-- `uq_order_assignments_one_active_per_order` is a partial index: an inactive row does not
occupy its key. -/
def OrderAssignment.keys (a : OrderAssignment) : List AssignmentKey :=
  .id a.id :: if a.assignmentStatus = .active then [.active a.orderId] else []

def CallAttempt.keys (c : CallAttempt) : List UUID := [c.id]

abbrev AssignmentTable := Table OrderAssignment AssignmentKey OrderAssignment.keys
abbrev AttemptTable := Table CallAttempt UUID CallAttempt.keys

/-! ## Section 3: Repositories -/

/-- `OrderAssignmentRepository.get_active_for_order`. -/
def getActiveForOrder (assignments : AssignmentTable) (orderId : UUID) :
    Option OrderAssignment :=
  assignments.find? fun a => a.orderId == orderId && a.assignmentStatus == .active

/-- `ORDER BY attempt_number DESC`. -/
def NewestFirst (c c' : CallAttempt) : Prop := c'.attemptNumber ≤ c.attemptNumber

instance : DecidableRel NewestFirst := fun c c' =>
  inferInstanceAs (Decidable (c'.attemptNumber ≤ c.attemptNumber))

instance : Std.Total NewestFirst := ⟨fun c c' => Nat.le_total c'.attemptNumber c.attemptNumber⟩

instance : IsTrans CallAttempt NewestFirst := ⟨fun _ _ _ h h' => Nat.le_trans h' h⟩

/-- `CallAttemptRepository.list_for_order`. -/
def listForOrder (attempts : AttemptTable) (orderId : UUID) : List CallAttempt :=
  (attempts.rows.filter fun c => c.orderId == orderId).insertionSort NewestFirst

/-- `CallAttemptRepository.resolve_current_for_order`: the rows no other row corrects. -/
def resolveCurrentForOrder (attempts : AttemptTable) (orderId : UUID) (includeVoid : Bool) :
    List CallAttempt :=
  let allRows := listForOrder attempts orderId
  let correctedIds := allRows.filterMap (·.correctsAttemptId)
  let resolved :=
    (allRows.filter fun c => !correctedIds.contains c.id).insertionSort NewestFirst
  if includeVoid then resolved else resolved.filter fun c => !c.isVoid

/-- `CallAttemptRepository.get_correctable_for_order`: the current row of the number the
given row has, unless it is void. -/
def getCorrectableForOrder (attempts : AttemptTable) (attemptId orderId : UUID) :
    Option CallAttempt :=
  match attempts.find? fun c => c.id == attemptId with
  | none => none
  | some target =>
    if target.orderId ≠ orderId then none
    else
      match (resolveCurrentForOrder attempts orderId true).find? fun c =>
        c.attemptNumber == target.attemptNumber with
      | none => none
      | some current => if current.isVoid then none else some current

/-- `CallAttemptRepository.next_attempt_number`: one more than the greatest number, of
originals and corrections alike. -/
def nextAttemptNumber (attempts : AttemptTable) (orderId : UUID) : ℕ :=
  ((attempts.rows.filter fun c => c.orderId == orderId).map (·.attemptNumber)).foldr max 0 + 1

/-- The tables the telecalling service works on. -/
structure CallDB where
  users : List User := []
  assignments : AssignmentTable := Table.empty
  callAttempts : AttemptTable := Table.empty

def CallDB.getUser (db : CallDB) (id : UUID) : Option User := db.users.find? fun u => u.id == id

theorem mem_listForOrder {attempts : AttemptTable} {orderId : UUID} {c : CallAttempt} :
    c ∈ listForOrder attempts orderId ↔ c ∈ attempts.rows ∧ c.orderId = orderId := by
  simp [listForOrder]

/-- The resolved rows are the order's rows that no row of the order corrects. -/
theorem mem_resolveCurrentForOrder {attempts : AttemptTable} {orderId : UUID}
    {includeVoid : Bool} {c : CallAttempt} :
    c ∈ resolveCurrentForOrder attempts orderId includeVoid ↔
      (c ∈ attempts.rows ∧ c.orderId = orderId) ∧
      (∀ c' ∈ attempts.rows, c'.orderId = orderId → c'.correctsAttemptId ≠ some c.id) ∧
      (includeVoid = false → c.isVoid = false) := by
  have hcorrected : c.id ∈ (listForOrder attempts orderId).filterMap (·.correctsAttemptId) ↔
      ∃ c' ∈ attempts.rows, c'.orderId = orderId ∧ c'.correctsAttemptId = some c.id := by
    simp only [List.mem_filterMap, mem_listForOrder, and_assoc]
  have hrows : (c ∈ listForOrder attempts orderId ∧
      (!((listForOrder attempts orderId).filterMap (·.correctsAttemptId)).contains c.id) = true) ↔
      (c ∈ attempts.rows ∧ c.orderId = orderId) ∧
        ∀ c' ∈ attempts.rows, c'.orderId = orderId → c'.correctsAttemptId ≠ some c.id := by
    simp only [Bool.not_eq_true', ← Bool.not_eq_true, List.contains_iff_mem, hcorrected,
      mem_listForOrder, not_exists, not_and, ne_eq]
  cases includeVoid with
  | true =>
    rw [resolveCurrentForOrder, if_pos rfl, List.mem_insertionSort, List.mem_filter, hrows]
    simp
  | false =>
    rw [resolveCurrentForOrder, if_neg Bool.false_ne_true, List.mem_filter, List.mem_insertionSort,
      List.mem_filter, hrows]
    simp [and_assoc]

theorem getActiveForOrder_eq_some {assignments : AssignmentTable} {orderId : UUID}
    {a : OrderAssignment} :
    getActiveForOrder assignments orderId = some a ↔
      a ∈ assignments.rows ∧ a.orderId = orderId ∧ a.assignmentStatus = .active := by
  constructor
  · intro h
    exact ⟨Table.mem_of_find?_eq_some h, by simpa using List.find?_some h⟩
  · rintro ⟨ha, rfl, hactive⟩
    refine assignments.find?_eq_some_of_mem (k := .active a.orderId) ha (by simp [hactive])
      fun a' ha' => ?_
    simp only [Bool.and_eq_true, beq_iff_eq] at ha'
    simp [OrderAssignment.keys, ha']

end AyushOms.Telecalling
