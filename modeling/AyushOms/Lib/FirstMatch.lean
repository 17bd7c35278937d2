import Mathlib.Data.List.Basic

/-!
# The First Match in a List

What a scan finds first in a list survives other entries being inserted and entries being
removed, as long as what is inserted matches nothing else and what is removed did not match as
the first one does.

## Main results

- `findSome?_of_arranged`: both at once
-/

namespace AyushOms.Lib

variable {α β : Type*} {p : α → Option β}

/-- Entries from elsewhere match nothing, or `b`: the scan finds `b`, or what it finds among
the entries of the original list. -/
theorem findSome?_inserted [DecidableEq α] {l original : List α} {b : β}
    (h : ∀ a ∈ l, a ∈ original ∨ p a = none ∨ p a = some b) :
    l.findSome? p = some b ∨ l.findSome? p = (l.filter (· ∈ original)).findSome? p := by
  induction l with
  | nil => exact .inr rfl
  | cons a l ih =>
    have hrest := ih fun a' ha' => h a' (List.mem_cons_of_mem _ ha')
    by_cases ha : a ∈ original
    · rw [List.filter_cons_of_pos (by simpa using ha), List.findSome?_cons, List.findSome?_cons]
      cases p a with
      | some c => exact .inr rfl
      | none => exact hrest
    · rw [List.filter_cons_of_neg (by simpa using ha), List.findSome?_cons]
      rcases h a List.mem_cons_self with hmem | hnone | hsome
      · exact absurd hmem ha
      · rw [hnone]
        exact hrest
      · rw [hsome]
        exact .inl rfl

/-- Removing entries that do not match as the first match does leaves the first match. -/
theorem findSome?_filter {original : List α} {keep : α → Bool}
    (h : ∀ a ∈ original, ∀ b, original.findSome? p = some b → p a = some b → keep a = true) :
    (original.filter keep).findSome? p = original.findSome? p := by
  induction original with
  | nil => rfl
  | cons a original ih =>
    rw [List.findSome?_cons]
    cases hp : p a with
    | some b =>
      -- the first entry matches, so it is kept
      have hkeep := h a List.mem_cons_self b (by rw [List.findSome?_cons, hp]) hp
      rw [List.filter_cons_of_pos hkeep, List.findSome?_cons, hp]
    | none =>
      have hrest := ih fun a' ha' b hb =>
        h a' (List.mem_cons_of_mem _ ha') b (by rw [List.findSome?_cons, hp]; exact hb)
      by_cases hkeep : keep a = true
      · rw [List.filter_cons_of_pos hkeep, List.findSome?_cons, hp]
        exact hrest
      · rw [List.filter_cons_of_neg hkeep]
        exact hrest

/-- A list holds the kept entries of the original one in their order, and others that match
nothing or `b`. -/
theorem findSome?_of_arranged [DecidableEq α] {l original : List α} {keep : α → Bool} {b : β}
    (horder : l.filter (· ∈ original) = original.filter keep)
    (hothers : ∀ a ∈ l, a ∈ original ∨ p a = none ∨ p a = some b)
    (hkeep : ∀ a ∈ original, ∀ c, original.findSome? p = some c → p a = some c → keep a = true) :
    l.findSome? p = some b ∨ l.findSome? p = original.findSome? p := by
  rcases findSome?_inserted hothers with hb | heq
  · exact .inl hb
  · exact .inr (heq.trans ((congrArg _ horder).trans (findSome?_filter hkeep)))

end AyushOms.Lib
