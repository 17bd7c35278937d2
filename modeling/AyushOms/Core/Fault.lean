import AyushOms.Core.Session
import AyushOms.Lib.Procedure

/-!
# Unexpected Failures

What the data does not account for: a lost connection, a deadlock, a time limit, a bug of a
library. Such an exception can be raised anywhere in a procedure. What was committed before
it stays, and the session is left in the transaction the procedure was in, if any.
-/

namespace AyushOms

open AyushOms.Lib

/-- An exception raised after so many commits of a procedure, or after its last; and whether
a transaction has been begun since. -/
structure Fault where
  commits : ℕ
  inTransaction : Bool
  error : PyException
  deriving DecidableEq, Repr

/-- An exception that is none of the errors of the services. -/
structure Unexpected extends Fault where
  unexpected : ∀ e, error ≠ .oms e

/-- The session in which the exception is raised by a procedure that commits `commits` times
from the session `k`: without a commit, a transaction that was in progress still is. -/
def Fault.session (f : Fault) (commits : ℕ) (k : RequestSession) : RequestSession :=
  { k with inTransaction :=
      f.inTransaction || decide (min f.commits commits = 0) && k.inTransaction }

/-- The procedure, cut short by the exception when there is one. -/
def faulty {σ α : Type} (fault : Option Fault) (p : Proc σ RequestSession PyException α) :
    Proc σ RequestSession PyException α := fun k s =>
  match fault with
  | none => p k s
  | some f => (p k s).failAt (.error f.error, f.session (p k s).commits k) f.commits

section Faulty

variable {σ α : Type} {p : Proc σ RequestSession PyException α}

theorem faulty_some (f : Fault) (k : RequestSession) (s : σ) : faulty (some f) p k s =
    (p k s).failAt (.error f.error, f.session (p k s).commits k) f.commits := rfl

/-- Before the first commit of a procedure a failure strikes in the transaction it was called
in. -/
theorem Fault.inTransaction_session {f : Fault} {n : ℕ} {k : RequestSession}
    (hk : k.inTransaction = true) :
    (f.session n k).inTransaction = true ↔ f.inTransaction = true ∨ min f.commits n = 0 := by
  simp [Fault.session, hk]

/-- A failure strikes at the same place in runs with the same outcome. -/
theorem sameOutcome_faulty (fault : Option Fault) {k k' : RequestSession} {s : σ}
    (h : Proc.SameOutcome (p k s) (p k' s)) :
    Proc.SameOutcome (faulty fault p k s) (faulty fault p k' s) := by
  cases fault with
  | none => exact h
  | some f =>
    rw [faulty_some, faulty_some]
    refine ⟨by rw [Staged.states_failAt, Staged.states_failAt, h.states_eq], ?_⟩
    rw [Staged.result_failAt, Staged.result_failAt]

/-- A failure depends on the session as little as the procedure does. -/
theorem respects_faulty {R : RequestSession → RequestSession → Prop} (fault : Option Fault)
    (hR : ∀ k k', R k k' → ∀ f n, R (Fault.session f n k) (Fault.session f n k'))
    (hp : p.Respects R) : (faulty fault p).Respects R := by
  intro k k' s h
  obtain ⟨hsame, hagree⟩ := hp k k' s h
  have hcommits : (p k s).commits = (p k' s).commits := by
    rw [← Staged.commits_mapResult Prod.fst, hsame, Staged.commits_mapResult]
  unfold faulty
  split
  · exact ⟨hsame, hagree⟩
  · rw [Staged.mapResult_failAt, Staged.mapResult_failAt, hsame, Staged.result_failAt,
      Staged.result_failAt, hcommits]
    exact ⟨rfl, hR k k' h _ _⟩

end Faulty

end AyushOms
