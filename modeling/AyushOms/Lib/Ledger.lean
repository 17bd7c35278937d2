import Mathlib.Algebra.BigOperators.Group.List.Basic

/-!
# Ledgers with Running Balances

A ledger is a list of entries in creation order, each with the amount it adds (`delta`)
and the balance it recorded (`after`). A ledger *runs* from an opening balance when each
recorded balance is the previous one plus the entry's own delta. The balance is an
element of any additive commutative group, so the same rules serve stock counts, money
and running tallies.

An account pairs a stored balance with such a ledger and carries the agreement of the
two as fields; posting a fresh entry is the only way to build a longer one.
-/

namespace AyushOms.Lib

variable {α β : Type*} [AddCommGroup β] (delta after : α → β)

/-! ## Section 1: Balances -/

/-- The balance a ledger leaves: the opening balance plus every delta. -/
def closing (opening : β) (es : List α) : β := opening + (es.map delta).sum

/-- Each entry records the previous balance plus its own delta. -/
def RunningBalance : β → List α → Prop
  | _, [] => True
  | b, e :: es => after e = b + delta e ∧ RunningBalance (after e) es

variable {delta after}

@[simp] theorem closing_nil (b : β) : closing delta b ([] : List α) = b := by simp [closing]

theorem closing_cons (b : β) (e : α) (es : List α) :
    closing delta b (e :: es) = closing delta (b + delta e) es := by
  simp [closing, add_assoc]

theorem closing_concat (b : β) (es : List α) (e : α) :
    closing delta b (es ++ [e]) = closing delta b es + delta e := by
  simp [closing, add_assoc]

/-- Appending an entry keeps the balances running exactly when the entry starts from the
closing balance. -/
theorem runningBalance_concat {b : β} {es : List α} {e : α} :
    RunningBalance delta after b (es ++ [e]) ↔
      RunningBalance delta after b es ∧ after e = closing delta b es + delta e := by
  induction es generalizing b with
  | nil => simp [RunningBalance]
  | cons x es ih =>
    simp only [List.cons_append, RunningBalance, ih, closing_cons, and_assoc]
    -- the balance the first entry recorded is the one the rest opens with
    refine and_congr_right fun hx => ?_
    rw [hx]

/-- The first part of a running ledger runs. -/
theorem RunningBalance.of_append {b : β} {es es' : List α}
    (h : RunningBalance delta after b (es ++ es')) : RunningBalance delta after b es := by
  induction es generalizing b with
  | nil => trivial
  | cons e es ih => exact ⟨h.1, ih h.2⟩

/-- Entries that carry more than the ledger needs. -/
theorem runningBalance_map {γ : Type*} (f : γ → α) {b : β} {es : List γ} :
    RunningBalance delta after b (es.map f) ↔
      RunningBalance (fun e => delta (f e)) (fun e => after (f e)) b es := by
  induction es generalizing b with
  | nil => exact Iff.rfl
  | cons e es ih => exact and_congr_right fun _ => ih

theorem closing_append (b : β) (es es' : List α) :
    closing delta b (es ++ es') = closing delta b es + (es'.map delta).sum := by
  simp [closing, add_assoc]

/-- In a running ledger the last recorded balance is the closing one. -/
theorem RunningBalance.after_getLast {b : β} {es : List α} {e : α}
    (h : RunningBalance delta after b (es ++ [e])) :
    after e = closing delta b (es ++ [e]) := by
  rw [closing_concat]
  exact (runningBalance_concat.mp h).2

/-! ## Section 2: Stored balances -/

/-- A stored balance agrees with the ledger kept next to it. -/
structure Balanced (delta after : α → β) (opening stored : β) (es : List α) : Prop where
  stored_eq : stored = closing delta opening es
  running : RunningBalance delta after opening es

/-- A balance without entries is its own opening balance. -/
theorem balanced_nil (b : β) : Balanced delta after b b ([] : List α) :=
  ⟨(closing_nil b).symm, True.intro⟩

/-- Storing the balance an entry records and appending the entry keeps the account
balanced exactly when the entry was computed from the stored balance. -/
theorem balanced_concat {opening stored : β} {es : List α} {e : α}
    (h : Balanced delta after opening stored es) :
    Balanced delta after opening (after e) (es ++ [e]) ↔ after e = stored + delta e := by
  constructor
  · intro h'
    rw [h'.stored_eq, closing_concat, h.stored_eq]
  · intro he
    rw [h.stored_eq] at he
    exact ⟨by rw [he, closing_concat], runningBalance_concat.mpr ⟨h.running, he⟩⟩

end AyushOms.Lib
