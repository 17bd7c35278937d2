import Mathlib.Data.List.Induction
import Mathlib.Data.List.Nodup
import Mathlib.Data.List.Sort
import Mathlib.Data.List.Perm.Basic
import Mathlib.Algebra.BigOperators.Group.List.Basic
import Mathlib.Algebra.GroupWithZero.Nat

/-!
# Dictionaries of Counters

A dictionary whose values are counters, as a loop builds one over a list: each element updates
the counter of its key, which `setdefault` creates when the key is new. In the end the items are
sorted by key.

## Main results

- `mem_items_iff`: a key has a counter when an element has the key, and the counter has seen the
  elements of its key in the order of the list
- `pairwise_items`: the keys of the sorted items ascend
- `sum_countBy`: a figure that every element adds to its counter adds up to the same total over
  the counters and over the elements
-/

namespace AyushOms.Lib

variable {α κ β : Type*}

/-- A dictionary of counters. -/
abbrev Counters (κ β : Type*) := List (κ × β)

namespace Counters

section Count

variable [DecidableEq κ]

/-! ## Section 1: The loop -/

/-- `counters.setdefault(k, zero)`, updated. -/
def update (zero : β) (k : κ) (f : β → β) : Counters κ β → Counters κ β
  | [] => [(k, f zero)]
  | (k', b) :: rest => if k' = k then (k', f b) :: rest else (k', b) :: update zero k f rest

/-- `counters.get(k, zero)`. -/
def get (zero : β) (k : κ) : Counters κ β → β
  | [] => zero
  | (k', b) :: rest => if k' = k then b else get zero k rest

/-- The counters of the elements of a list, by their keys. -/
def countBy (zero : β) (key : α → κ) (step : β → α → β) (xs : List α) : Counters κ β :=
  xs.foldl (fun t x => t.update zero (key x) fun b => step b x) []

/-! ## Section 2: One update -/

section Update

variable {zero b : β} {k k' : κ} {f : β → β} {t : Counters κ β}

/-- The keys after an update: the key is appended when it is new. -/
theorem keys_update : (t.update zero k f).map Prod.fst =
    if k ∈ t.map Prod.fst then t.map Prod.fst else t.map Prod.fst ++ [k] := by
  induction t with
  | nil => simp [update]
  | cons item rest ih =>
    obtain ⟨k₁, b₁⟩ := item
    by_cases hk : k₁ = k
    · simp [update, hk]
    · rw [update, if_neg hk, List.map_cons, ih]
      by_cases hmem : k ∈ rest.map Prod.fst
      · simp only [hmem, if_true, List.map_cons, List.mem_cons, or_true]
      · simp [hmem, Ne.symm hk]

theorem nodup_update (h : (t.map Prod.fst).Nodup) :
    ((t.update zero k f).map Prod.fst).Nodup := by
  rw [keys_update]
  by_cases hmem : k ∈ t.map Prod.fst
  · rwa [if_pos hmem]
  · rw [if_neg hmem]
    exact List.nodup_append'.mpr ⟨h, List.nodup_singleton k, by simpa using hmem⟩

/-- The key has the updated counter, and the other keys have theirs. -/
theorem mem_update (h : (t.map Prod.fst).Nodup) : (k', b) ∈ t.update zero k f ↔
    (k' = k ∧ b = f (t.get zero k)) ∨ (k' ≠ k ∧ (k', b) ∈ t) := by
  induction t with
  | nil => simp [update, get]
  | cons item rest ih =>
    obtain ⟨k₁, b₁⟩ := item
    obtain ⟨hnot, hrest⟩ := List.nodup_cons.mp h
    by_cases hk : k₁ = k
    · -- the key has its counter here, and not again
      subst hk
      have hother : (k', b) ∈ rest → k' ≠ k₁ := by
        intro hmem heq
        have hkey : k' ∈ rest.map Prod.fst := List.mem_map_of_mem (f := Prod.fst) hmem
        exact hnot (heq ▸ hkey)
      simp only [update, get, if_true, List.mem_cons, Prod.mk.injEq]
      tauto
    · simp only [update, get, if_neg hk, List.mem_cons, Prod.mk.injEq, ih hrest]
      constructor
      · intro hcases
        rcases hcases with hhead | hkey | hold
        · exact .inr ⟨hhead.1 ▸ hk, .inl hhead⟩
        · exact .inl hkey
        · exact .inr ⟨hold.1, .inr hold.2⟩
      · intro hcases
        rcases hcases with hkey | ⟨hne, hhead | hold⟩
        · exact .inr (.inl hkey)
        · exact .inl hhead
        · exact .inr (.inr ⟨hne, hold⟩)

theorem get_of_mem (h : (t.map Prod.fst).Nodup) (hmem : (k, b) ∈ t) : t.get zero k = b := by
  induction t with
  | nil => cases hmem
  | cons item rest ih =>
    obtain ⟨k₁, b₁⟩ := item
    obtain ⟨hnot, hrest⟩ := List.nodup_cons.mp h
    rcases List.mem_cons.mp hmem with heq | hmem
    · obtain ⟨rfl, rfl⟩ := Prod.mk.inj heq
      exact if_pos rfl
    · have hk : k₁ ≠ k := by
        intro heq
        have hkey : k ∈ rest.map Prod.fst := List.mem_map_of_mem (f := Prod.fst) hmem
        exact hnot (heq ▸ hkey)
      rw [get, if_neg hk]
      exact ih hrest hmem

/-- The updated key's counter is updated, and no other. -/
theorem get_update : (t.update zero k f).get zero k' =
    if k = k' then f (t.get zero k) else t.get zero k' := by
  induction t with
  | nil => simp [update, get]
  | cons item rest ih =>
    obtain ⟨k₁, b₁⟩ := item
    by_cases hk : k₁ = k
    · subst hk
      by_cases hk' : k₁ = k'
      · simp [update, get, hk']
      · simp [update, get, hk']
    · rw [update, if_neg hk, get, get, ih]
      by_cases hk' : k₁ = k'
      · subst hk'
        simp [get, Ne.symm hk]
      · simp [get, hk, hk']

theorem get_of_not_mem (h : k ∉ t.map Prod.fst) : t.get zero k = zero := by
  induction t with
  | nil => rfl
  | cons item rest ih =>
    obtain ⟨k₁, b₁⟩ := item
    rw [List.map_cons, List.mem_cons, not_or] at h
    rw [get, if_neg (Ne.symm h.1)]
    exact ih h.2

end Update

/-! ## Section 3: The counters of a list -/

/-- What the counter of a key is: all elements of the key, in their order. -/
def counterOf (zero : β) (key : α → κ) (step : β → α → β) (xs : List α) (k : κ) : β :=
  (xs.filter fun x => key x = k).foldl step zero

/-- The dictionary has the counters of the list. -/
structure Counts (zero : β) (key : α → κ) (step : β → α → β) (xs : List α) (t : Counters κ β) :
    Prop where
  nodup : (t.map Prod.fst).Nodup
  entry : ∀ k b, (k, b) ∈ t ↔ (∃ x ∈ xs, key x = k) ∧ b = counterOf zero key step xs k

variable {zero : β} {key : α → κ} {step : β → α → β} {xs : List α} {t : Counters κ β}

/-- A key of no element has no counter yet. -/
theorem Counts.get_eq (h : Counts zero key step xs t) (k : κ) :
    t.get zero k = counterOf zero key step xs k := by
  by_cases hk : ∃ x ∈ xs, key x = k
  · exact get_of_mem h.nodup ((h.entry k _).mpr ⟨hk, rfl⟩)
  · have hnone : xs.filter (fun x => key x = k) = [] := by
      refine List.filter_eq_nil_iff.mpr fun x hx => ?_
      simpa using fun hkey => hk ⟨x, hx, hkey⟩
    have hnot : k ∉ t.map Prod.fst := by
      intro hmem
      obtain ⟨⟨k', b⟩, hitem, rfl⟩ := List.mem_map.mp hmem
      exact hk ((h.entry _ b).mp hitem).1
    rw [get_of_not_mem hnot, counterOf, hnone, List.foldl_nil]

/-- One more element. -/
theorem Counts.update (h : Counts zero key step xs t) (x : α) :
    Counts zero key step (xs ++ [x]) (t.update zero (key x) fun b => step b x) := by
  refine ⟨nodup_update h.nodup, fun k b => ?_⟩
  have hcounter : counterOf zero key step (xs ++ [x]) k =
      if key x = k then step (counterOf zero key step xs k) x
      else counterOf zero key step xs k := by
    by_cases hk : key x = k
    · simp [counterOf, hk]
    · simp [counterOf, hk]
  have hkeys : (∃ y ∈ xs ++ [x], key y = k) ↔ (∃ y ∈ xs, key y = k) ∨ key x = k := by
    simp [or_and_right, exists_or]
  rw [mem_update h.nodup, hcounter, hkeys, h.get_eq, h.entry]
  by_cases hk : key x = k
  · subst hk
    simp
  · simp [hk, Ne.symm hk]

theorem counts_countBy (zero : β) (key : α → κ) (step : β → α → β) (xs : List α) :
    Counts zero key step xs (countBy zero key step xs) := by
  induction xs using List.reverseRec with
  | nil => exact ⟨List.nodup_nil, by simp [countBy]⟩
  | append_singleton xs x ih =>
    have hloop : countBy zero key step (xs ++ [x]) =
        (countBy zero key step xs).update zero (key x) fun b => step b x := by
      simp [countBy]
    rw [hloop]
    exact ih.update x

/-! ## Section 4: Totals -/

/-- Ones add up to a count. -/
theorem sum_ite_eq_countP (p : α → Bool) (xs : List α) :
    (xs.map fun x => if p x then 1 else 0).sum = xs.countP p := by
  induction xs with
  | nil => rfl
  | cons x xs ih => rw [List.map_cons, List.sum_cons, List.countP_cons, ih, Nat.add_comm]

section Totals

variable {M : Type*} [AddCommMonoid M]

/-- An update adds to the total what it adds to its counter. -/
theorem sum_update {f : κ → β → M} {k : κ} {x : α} {m : M} (hzero : f k zero = 0)
    (hstep : ∀ b, f k (step b x) = f k b + m) (t : Counters κ β) :
    ((t.update zero k fun b => step b x).map fun item => f item.1 item.2).sum =
      (t.map fun item => f item.1 item.2).sum + m := by
  induction t with
  | nil => simp [update, hstep, hzero]
  | cons item rest ih =>
    obtain ⟨k', b⟩ := item
    by_cases hk : k' = k
    · subst hk
      simp only [update, if_true, List.map_cons, List.sum_cons, hstep]
      rw [add_right_comm]
    · simp only [update, if_neg hk, List.map_cons, List.sum_cons, ih]
      rw [add_assoc]

/-- The total over the counters is the total over the elements, also of a figure that depends on
the key. -/
theorem sum_countBy_key (zero : β) (step : β → α → β) (key : α → κ) {f : κ → β → M} {g : α → M}
    (hzero : ∀ k, f k zero = 0) (hstep : ∀ b x, f (key x) (step b x) = f (key x) b + g x)
    (xs : List α) :
    ((countBy zero key step xs).map fun item => f item.1 item.2).sum = (xs.map g).sum := by
  induction xs using List.reverseRec with
  | nil => rfl
  | append_singleton xs x ih =>
    have hloop : countBy zero key step (xs ++ [x]) =
        (countBy zero key step xs).update zero (key x) fun b => step b x := by
      simp [countBy]
    rw [hloop, sum_update (hzero _) (fun b => hstep b x), ih]
    simp

theorem sum_countBy {f : β → M} {g : α → M} (hzero : f zero = 0)
    (hstep : ∀ b x, f (step b x) = f b + g x) (key : α → κ) (xs : List α) :
    ((countBy zero key step xs).map fun item => f item.2).sum = (xs.map g).sum :=
  sum_countBy_key zero step key (f := fun _ => f) (fun _ => hzero) hstep xs

end Totals

end Count

/-! ## Section 5: Sorted items -/

section Items

variable [LinearOrder κ]

/-- `sorted(counters.items())`. -/
def items (t : Counters κ β) : List (κ × β) :=
  t.insertionSort fun a b => a.1 ≤ b.1

/-- Sorting leaves the total alone. -/
theorem sum_items {M : Type*} [AddCommMonoid M] (f : κ × β → M) (t : Counters κ β) :
    (t.items.map f).sum = (t.map f).sum :=
  ((List.perm_insertionSort _ t).map f).sum_eq

variable {zero : β} {key : α → κ} {step : β → α → β} {xs : List α}

theorem mem_items_iff (k : κ) (b : β) : (k, b) ∈ (countBy zero key step xs).items ↔
    (∃ x ∈ xs, key x = k) ∧ b = counterOf zero key step xs k := by
  rw [items, List.mem_insertionSort]
  exact (counts_countBy zero key step xs).entry k b

/-- The keys ascend, and none comes twice. -/
theorem pairwise_items :
    (countBy zero key step xs).items.Pairwise fun a b => a.1 < b.1 := by
  have hsorted : (countBy zero key step xs).items.Pairwise fun a b => a.1 ≤ b.1 := by
    refine List.pairwise_insertionSort _ _
  have hnodup : ((countBy zero key step xs).items.map Prod.fst).Nodup :=
    ((List.perm_insertionSort _ _).map Prod.fst).nodup_iff.mpr
      (counts_countBy zero key step xs).nodup
  exact (hsorted.and (List.pairwise_map.mp hnodup)).imp fun h => lt_of_le_of_ne h.1 h.2

end Items

end Counters

end AyushOms.Lib
