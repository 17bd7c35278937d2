import AyushOms.Lib.Run
import Mathlib.Algebra.BigOperators.Group.List.Basic
import Mathlib.Algebra.GroupWithZero.Nat
import Mathlib.Data.Finset.Card
import Mathlib.Data.Nat.Notation

/-!
# Work that Spends and Refills a Budget

A process works in rounds. Each piece of work it starts spends one unit of a budget, and may
put new units into it: `refill t` is what the first `t` pieces of work have put in altogether.
A round with budget left starts at least one piece of work, and no piece is started without
budget. Whether the work ever exceeds a bound is then decided by the initial budget and the
refills alone. The later sections count work whose units are given back one by one, and the
steps of a run that are paid out of what is left.
-/

namespace AyushOms.Lib

/-! ## Section 1: Rounds -/

/-- What is started and what is left after each round of such a process. -/
structure Budgeted (initial : ℕ) (refill started left : ℕ → ℕ) : Prop where
  started_zero : started 0 = 0
  balance : ∀ k, left k + started k = initial + refill (started k)
  grows : ∀ k, started k ≤ started (k + 1)
  progress : ∀ k, 0 < left k → started k < started (k + 1)
  stops : ∀ k t, started k ≤ t → initial + refill t ≤ t → started (k + 1) ≤ t

variable {initial : ℕ} {refill started left : ℕ → ℕ}

/-- A round that starts where the budget has run out is never left behind. -/
theorem Budgeted.started_le (h : Budgeted initial refill started left) {t : ℕ}
    (ht : initial + refill t ≤ t) (k : ℕ) : started k ≤ t := by
  induction k with
  | zero => rw [h.started_zero]; exact Nat.zero_le t
  | succ k ih => exact h.stops k t ih ht

/-- As long as the budget cannot run out, every round starts something. -/
theorem Budgeted.le_started (h : Budgeted initial refill started left) {n : ℕ}
    (hn : ∀ t ≤ n, t < initial + refill t) {k : ℕ} (hk : k ≤ n + 1) : k ≤ started k := by
  induction k with
  | zero => exact Nat.zero_le _
  | succ k ih =>
    have hle : k ≤ started k := ih (Nat.le_of_succ_le hk)
    by_cases hmore : started k ≤ n
    · have hleft : 0 < left k := by
        have hbalance := h.balance k
        have hlt := hn (started k) hmore
        omega
      exact Nat.succ_le_of_lt (Nat.lt_of_le_of_lt hle (h.progress k hleft))
    · have hgrows := h.grows k
      omega

/-- No number of rounds starts more than `n` pieces of work exactly when the budget runs out
at some point up to `n`. -/
theorem Budgeted.bounded_iff (h : Budgeted initial refill started left) (n : ℕ) :
    (∀ k, started k ≤ n) ↔ ∃ t ≤ n, initial + refill t ≤ t := by
  constructor
  · intro hbound
    by_contra hnone
    have hlack : ∀ t ≤ n, t < initial + refill t := fun t ht =>
      Nat.lt_of_not_le fun hle => hnone ⟨t, ht, hle⟩
    exact absurd (hbound (n + 1)) (Nat.not_le.mpr (h.le_started hlack (Nat.le_refl _)))
  · rintro ⟨t, htn, ht⟩ k
    exact Nat.le_trans (h.started_le ht k) htn

/-! ## Section 2: Sums over a list of accounts -/

/-- Replacing one element of a list moves a sum over it by the difference. -/
theorem sum_map_modify {α : Type*} (g : α → ℕ) (f : α → α) {l : List α} {i : ℕ} {a : α}
    (h : l[i]? = some a) :
    ((l.modify i f).map g).sum + g a = (l.map g).sum + g (f a) := by
  induction l generalizing i with
  | nil => cases h
  | cons b l ih =>
    cases i with
    | zero =>
      cases h
      simp only [List.modify_zero_cons, List.map_cons, List.sum_cons]
      omega
    | succ i =>
      simp only [List.modify_succ_cons, List.map_cons, List.sum_cons]
      have hrest := ih h
      omega

/-! ## Section 3: Work matched with releases -/

section Matching

variable {α β : Type*} [DecidableEq β] (matched : α → β → Prop)

/-- Distinct pieces of work, each matched with a release no other is matched with, are no
more than the releases. -/
theorem length_le_card_of_matched (hinj : ∀ a b x, matched a x → matched b x → a = b)
    {l : List α} (hl : l.Nodup) {t : Finset β} (hall : ∀ a ∈ l, ∃ x ∈ t, matched a x) :
    l.length ≤ t.card := by
  induction l generalizing t with
  | nil => exact Nat.zero_le _
  | cons a l ih =>
    obtain ⟨ha, hl⟩ := List.nodup_cons.mp hl
    obtain ⟨x, hx, hax⟩ := hall a List.mem_cons_self
    -- the rest is matched without the release of the first
    have hrest : l.length ≤ (t.erase x).card := by
      refine ih hl fun b hb => ?_
      obtain ⟨y, hy, hby⟩ := hall b (List.mem_cons_of_mem a hb)
      refine ⟨y, Finset.mem_erase.mpr ⟨?_, hy⟩, hby⟩
      rintro rfl
      exact ha (hinj a b y hax hby ▸ hb)
    rw [Finset.card_erase_of_mem hx] at hrest
    have hpos : 0 < t.card := Finset.card_pos.mpr ⟨x, hx⟩
    rw [List.length_cons]
    omega

/-- Distinct pieces of work of which at most one is unmatched are at most one more than the
releases. -/
theorem length_le_succ_card_of_matched (hinj : ∀ a b x, matched a x → matched b x → a = b)
    {l : List α} (hl : l.Nodup) {t : Finset β}
    (hone : ∀ a ∈ l, ∀ b ∈ l, (¬ ∃ x ∈ t, matched a x) → (¬ ∃ x ∈ t, matched b x) → a = b) :
    l.length ≤ 1 + t.card := by
  by_cases hall : ∀ a ∈ l, ∃ x ∈ t, matched a x
  · have hle := length_le_card_of_matched matched hinj hl hall
    omega
  · push Not at hall
    obtain ⟨a, ha, hnone⟩ := hall
    have ha' : ¬ ∃ x ∈ t, matched a x := by
      push Not
      exact hnone
    obtain ⟨before, after, rfl⟩ := List.append_of_mem ha
    -- without the unmatched one, all are matched
    have hsub : (before ++ after).Sublist (before ++ a :: after) :=
      List.Sublist.append_left (List.sublist_cons_self a after) before
    have hrest : (before ++ after).length ≤ t.card := by
      refine length_le_card_of_matched matched hinj (hl.sublist hsub) fun b hb => ?_
      by_contra hb'
      have heq : a = b := hone a ha b (hsub.subset hb) ha' hb'
      subst heq
      rw [List.nodup_append', List.nodup_cons] at hl
      rcases List.mem_append.mp hb with hb | hb
      · exact hl.2.2 hb List.mem_cons_self
      · exact hl.2.1.1 hb
    simp only [List.length_append, List.length_cons] at hrest ⊢
    omega

end Matching

/-! ## Section 4: Runs that spend -/

section Runs

variable {σ ε : Type*} (step : σ → ε → σ) (spends : σ → ε → Bool)

/-- How many steps of a run spend. -/
def spent : σ → List ε → ℕ
  | _, [] => 0
  | s, e :: es => (spends s e).toNat + spent (step s e) es

/-- What a run spends was left at first, or has been put in since. -/
theorem spent_add_left_le {Inv : σ → Prop} {left : σ → ℕ} {refill : ε → ℕ}
    (hinv : ∀ s e, Inv s → Inv (step s e))
    (hstep : ∀ s e, Inv s → (spends s e).toNat + left (step s e) ≤ left s + refill e) {s : σ}
    (hs : Inv s) (es : List ε) :
    spent step spends s es + left (run step s es) ≤ left s + (es.map refill).sum := by
  induction es generalizing s with
  | nil => simp [spent]
  | cons e es ih =>
    have hhead := hstep s e hs
    have hrest := ih (hinv s e hs)
    simp only [spent, run_cons, List.map_cons, List.sum_cons]
    omega

/-- What events of one kind put in, the same each. -/
theorem sum_map_refill (p : ε → Bool) (n : ℕ) (es : List ε) :
    (es.map fun e => if p e then n else 0).sum = n * es.countP p := by
  induction es with
  | nil => rfl
  | cons e es ih =>
    rw [List.map_cons, List.sum_cons, ih]
    cases hp : p e with
    | false => simp [hp]
    | true =>
      rw [if_pos rfl, List.countP_cons_of_pos hp]
      exact (Nat.add_comm _ _).trans (Nat.mul_succ n _).symm

end Runs

end AyushOms.Lib
