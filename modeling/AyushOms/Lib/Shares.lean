import Mathlib.Algebra.BigOperators.Group.List.Basic
import Mathlib.Algebra.Order.Ring.Cast
import Mathlib.Tactic.Ring

/-!
# Shares of a Total

Weights on a list of claims. The claims may each name one of a list of sources, and the sum of
all weights is then the sum over the sources of what is claimed of each. Where the weights are
proportional to whole quantities, what they add up to is within the total exactly when the
quantities are.

## Main results

- `sum_eq_sum_fibers`: the sum by source
- `sum_le_iff_of_proportional`: proportional weights stay within the total
-/

namespace AyushOms.Lib

variable {α κ : Type*} {M : Type*}

/-! ## Section 1: The sum by source -/

section Fibers

variable [AddCommMonoid M] [DecidableEq κ]

/-- One source counts a claim on it once. -/
private theorem sum_map_ite_of_mem {ids : List κ} (hids : ids.Nodup) {k : κ} (hk : k ∈ ids)
    (x : M) (s : κ → M) :
    (ids.map fun k' => if k = k' then x + s k' else s k').sum = x + (ids.map s).sum := by
  induction ids with
  | nil => exact absurd hk List.not_mem_nil
  | cons k' ids ih =>
    obtain ⟨hnew, hrest⟩ := List.nodup_cons.mp hids
    rw [List.map_cons, List.map_cons, List.sum_cons, List.sum_cons]
    by_cases heq : k = k'
    · -- no later source is the same
      have hsame : (ids.map fun k' => if k = k' then x + s k' else s k') = ids.map s :=
        List.map_congr_left fun k'' hk'' => if_neg fun h => hnew (by rwa [← heq, h])
      rw [if_pos heq, hsame, add_assoc]
    · rw [if_neg heq, ih hrest ((List.mem_cons.mp hk).resolve_left heq), add_left_comm]

/-- The sum of all weights, by the source that a claim names, if it names one. -/
theorem sum_eq_sum_fibers {ids : List κ} (hids : ids.Nodup) (key : α → Option κ) (w : α → M)
    {l : List α} (hl : ∀ a ∈ l, ∀ k ∈ key a, k ∈ ids) :
    (l.map w).sum = ((l.filter fun a => key a == none).map w).sum +
      (ids.map fun k => ((l.filter fun a => key a == some k).map w).sum).sum := by
  induction l with
  | nil => simp
  | cons a l ih =>
    have ih := ih fun a' ha' => hl a' (List.mem_cons_of_mem a ha')
    rw [List.map_cons, List.sum_cons, ih]
    cases hkey : key a with
    | none => simp [hkey, add_assoc]
    | some k =>
      have hmem : k ∈ ids := hl a List.mem_cons_self k hkey
      have hfiber : ∀ k', ((List.filter (fun a => key a == some k') (a :: l)).map w).sum =
          if k = k' then w a + ((l.filter fun a => key a == some k').map w).sum
          else ((l.filter fun a => key a == some k').map w).sum := by
        intro k'
        by_cases heq : k = k' <;> simp [hkey, heq]
      simp only [hfiber]
      rw [sum_map_ite_of_mem hids hmem, List.filter_cons_of_neg (by simp [hkey]), add_left_comm]

end Fibers

/-! ## Section 2: Proportional weights -/

section Proportional

variable [Ring M]

theorem sum_of_proportional {l : List α} {w : α → M} {q : α → ℤ} {unit : M}
    (h : ∀ a ∈ l, w a = unit * q a) : (l.map w).sum = unit * ((l.map q).sum : ℤ) := by
  induction l with
  | nil => simp
  | cons a l ih =>
    rw [List.map_cons, List.sum_cons, List.map_cons, List.sum_cons, h a List.mem_cons_self,
      ih fun a' ha' => h a' (List.mem_cons_of_mem a ha'), Int.cast_add, mul_add]

variable [LinearOrder M] [IsStrictOrderedRing M]

/-- Weights of a positive unit each stay within the total of `n` units exactly when there are
at most `n` of them. -/
theorem sum_le_iff_of_proportional {l : List α} {w : α → M} {q : α → ℤ} {unit : M}
    (hunit : 0 < unit) (h : ∀ a ∈ l, w a = unit * q a) (n : ℤ) :
    (l.map w).sum ≤ unit * n ↔ (l.map q).sum ≤ n := by
  rw [sum_of_proportional h, mul_le_mul_iff_right₀ hunit, Int.cast_le]

end Proportional

end AyushOms.Lib
