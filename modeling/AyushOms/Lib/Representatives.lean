import Mathlib.Data.List.Sort
import Mathlib.Data.List.Nodup
import Mathlib.Data.List.Perm.Basic
import Mathlib.Order.Lattice

/-!
# One Representative for Each Class

Some elements of a list fall into classes, the others into none. The members of a class are
ranked, and of some classes all members but the first are removed. What is left has one member of
each of these classes and is otherwise what it was, and removing again changes nothing.

## Main results

- `filter_thin_of_mem`, `filter_thin_of_not_mem`: what is left of a class
- `thin_cons`: classes are thinned one after another
- `thin_eq_self`: where no class has two members, nothing is removed
-/

namespace AyushOms.Lib.Representatives

variable {α κ ρ : Type*} [DecidableEq κ] [LinearOrder ρ]

section Definitions

variable (key : α → Option κ) (rank : α → ρ)

/-- The members of a class, by rank. -/
def members (xs : List α) (k : κ) : List α :=
  (xs.filter fun x => key x = some k).insertionSort fun a b => rank a ≤ rank b

/-- Remove from some classes all members but the first. -/
def thin [DecidableEq α] (ks : List κ) (xs : List α) : List α :=
  xs.filter fun x => ∀ k ∈ key x, k ∈ ks → (members key rank xs k).head? = some x

end Definitions

variable {key : α → Option κ} {rank : α → ρ} {xs : List α} {ks : List κ} {k : κ} {x : α}

/-! ## Section 1: Members -/

theorem members_perm (key : α → Option κ) (rank : α → ρ) (xs : List α) (k : κ) :
    (members key rank xs k).Perm (xs.filter fun x => key x = some k) :=
  List.perm_insertionSort _ _

theorem mem_members : x ∈ members key rank xs k ↔ x ∈ xs ∧ key x = some k := by
  rw [(members_perm key rank xs k).mem_iff, List.mem_filter, decide_eq_true_eq]

theorem nodup_members (key : α → Option κ) (rank : α → ρ) (k : κ) (hnodup : xs.Nodup) :
    (members key rank xs k).Nodup :=
  (members_perm key rank xs k).nodup_iff.mpr (hnodup.filter _)

/-- The first member is ranked before the others. -/
theorem rank_head_le {first : α} (hfirst : (members key rank xs k).head? = some first)
    (hx : x ∈ xs) (hk : key x = some k) : rank first ≤ rank x := by
  have hmem : x ∈ members key rank xs k := mem_members.mpr ⟨hx, hk⟩
  have hsorted : (members key rank xs k).Pairwise fun a b => rank a ≤ rank b := by
    refine List.pairwise_insertionSort _ _
  obtain ⟨rest, hrest⟩ := List.head?_eq_some_iff.mp hfirst
  rw [hrest] at hmem hsorted
  rcases List.mem_cons.mp hmem with rfl | hmem
  · exact le_refl _
  · exact (List.pairwise_cons.mp hsorted).1 x hmem

theorem exists_head (rank : α → ρ) (hx : x ∈ xs) (hk : key x = some k) :
    ∃ first, (members key rank xs k).head? = some first := by
  have hmem : x ∈ members key rank xs k := mem_members.mpr ⟨hx, hk⟩
  cases hmembers : members key rank xs k with
  | nil =>
    rw [hmembers] at hmem
    cases hmem
  | cons first rest => exact ⟨first, rfl⟩

/-- A class without a second member keeps its only one. -/
theorem eq_head_of_length_le (hlength : (members key rank xs k).length ≤ 1) (hx : x ∈ xs)
    (hk : key x = some k) : (members key rank xs k).head? = some x := by
  have hmem : x ∈ members key rank xs k := mem_members.mpr ⟨hx, hk⟩
  cases hmembers : members key rank xs k with
  | nil =>
    rw [hmembers] at hmem
    cases hmem
  | cons first rest =>
    rw [hmembers] at hmem hlength
    have hrest : rest = [] := by
      rw [List.length_cons] at hlength
      exact List.length_eq_zero_iff.mp (by omega)
    rw [hrest, List.mem_singleton] at hmem
    rw [hmem]
    rfl

/-! ## Section 2: What is left -/

variable [DecidableEq α]

theorem thin_sublist : (thin key rank ks xs).Sublist xs := List.filter_sublist

/-- Other classes keep their members. -/
theorem filter_thin_of_not_mem (hk : k ∉ ks) :
    (thin key rank ks xs).filter (fun x => key x = some k) =
      xs.filter fun x => key x = some k := by
  unfold thin
  rw [List.filter_filter]
  refine List.filter_congr fun x _ => ?_
  by_cases hx : key x = some k
  · simp [hx, hk]
  · simp [hx]

/-- A class that is thinned keeps its first member. -/
theorem filter_thin_of_mem (hnodup : xs.Nodup) (hk : k ∈ ks) :
    (thin key rank ks xs).filter (fun x => key x = some k) =
      (members key rank xs k).head?.toList := by
  have hclass : (thin key rank ks xs).filter (fun x => key x = some k) =
      (xs.filter fun x => key x = some k).filter
        fun x => (members key rank xs k).head? = some x := by
    unfold thin
    rw [List.filter_filter, List.filter_filter]
    refine List.filter_congr fun x _ => ?_
    by_cases hx : key x = some k
    · simp [hx, hk]
    · simp [hx]
  have hperm := (members_perm key rank xs k).filter
    fun x => decide ((members key rank xs k).head? = some x)
  have hmembers := nodup_members key rank k hnodup
  rw [← hclass] at hperm
  cases hlist : members key rank xs k with
  | nil =>
    rw [hlist] at hperm
    exact List.nil_perm.mp hperm
  | cons first rest =>
    rw [hlist] at hperm hmembers
    have hfirst : (first :: rest).filter (fun x => decide ((first :: rest).head? = some x)) =
        [first] := by
      rw [List.head?_cons, List.filter_cons_of_pos (by simp)]
      have hrest : rest.filter (fun x => decide (some first = some x)) = [] := by
        rw [List.filter_eq_nil_iff]
        intro x hx
        have hne : first ≠ x := fun heq => (List.nodup_cons.mp hmembers).1 (heq ▸ hx)
        simpa using hne
      rw [hrest]
    rw [hfirst] at hperm
    exact (List.singleton_perm.mp hperm).symm

theorem members_thin_of_not_mem (hk : k ∉ ks) :
    members key rank (thin key rank ks xs) k = members key rank xs k := by
  rw [members, filter_thin_of_not_mem hk]
  rfl

theorem thin_congr {ks' : List κ} (h : ∀ k, k ∈ ks ↔ k ∈ ks') :
    thin key rank ks xs = thin key rank ks' xs := by
  unfold thin
  simp only [h]

/-- Where no class has two members, nothing is removed. -/
theorem thin_eq_self (h : ∀ k ∈ ks, (members key rank xs k).length ≤ 1) :
    thin key rank ks xs = xs := by
  unfold thin
  rw [List.filter_eq_self]
  intro x hx
  exact decide_eq_true fun k hkey hk => eq_head_of_length_le (h k hk) hx hkey

/-- Classes are thinned one after another. -/
theorem thin_cons (hk : k ∉ ks) :
    thin key rank (k :: ks) xs = thin key rank ks (thin key rank [k] xs) := by
  have hrest : ∀ k' ∈ ks, members key rank (thin key rank [k] xs) k' = members key rank xs k' := by
    intro k' hk'
    refine members_thin_of_not_mem ?_
    rw [List.mem_singleton]
    exact fun heq => hk (heq ▸ hk')
  conv_rhs => unfold thin
  rw [thin, List.filter_filter]
  refine List.filter_congr fun x _ => ?_
  rw [← Bool.decide_and, decide_eq_decide]
  constructor
  · intro h
    refine ⟨fun k' hkey hk' => ?_, fun k' hkey hk' => ?_⟩
    · have hsame := hrest k' hk'
      unfold thin at hsame
      rw [hsame]
      exact h k' hkey (List.mem_cons_of_mem _ hk')
    · exact h k' hkey (List.mem_cons.mpr (.inl (List.mem_singleton.mp hk')))
  · intro h k' hkey hk'
    rcases List.mem_cons.mp hk' with rfl | hk'
    · exact h.2 k' hkey (List.mem_singleton_self k')
    · have hsame := hrest k' hk'
      unfold thin at hsame
      have hfirst := h.1 k' hkey hk'
      rwa [hsame] at hfirst

end AyushOms.Lib.Representatives
