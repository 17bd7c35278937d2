import Mathlib.Data.Int.CardIntervalMod
import Mathlib.Data.List.Count
import Mathlib.Data.List.Nodup

/-!
# Taking Turns

The members of a rota take turns, in the order of the list and from its beginning again. After
any number of turns no member has had more than one turn more than another.

## Main results

- `Rota.count_turns`: how many of the first turns a member has
- `Rota.count_turns_le`: the numbers of any two members differ by at most one
-/

namespace AyushOms.Lib

universe u v

/-- Members who take turns. -/
structure Rota (α : Type u) where
  members : List α
  nonempty : members ≠ []

namespace Rota

variable {α : Type u} {β : Type v}

/-- Whose turn it is. -/
def turn (r : Rota α) (i : ℕ) : α :=
  r.members.get ⟨i % r.members.length, Nat.mod_lt _ (List.length_pos_of_ne_nil r.nonempty)⟩

/-- Who has the first `n` turns. -/
def turns (r : Rota α) (n : ℕ) : List α := (List.range n).map r.turn

/-- The rota of what the members are mapped to. -/
def map (r : Rota α) (f : α → β) : Rota β where
  members := r.members.map f
  nonempty := fun h => r.nonempty (List.map_eq_nil_iff.mp h)

theorem turn_mem (r : Rota α) (i : ℕ) : r.turn i ∈ r.members := List.get_mem _ _

@[simp] theorem turn_map (r : Rota α) (f : α → β) (i : ℕ) : (r.map f).turn i = f (r.turn i) := by
  simp [turn, map]

section Count

variable [DecidableEq α] {r : Rota α} {a b : α}

/-- A member's turns are the numbers congruent to its position. -/
theorem turn_eq_iff (hnodup : r.members.Nodup) (ha : a ∈ r.members) (i : ℕ) :
    r.turn i = a ↔ i ≡ r.members.idxOf a [MOD r.members.length] := by
  have hlt : r.members.idxOf a < r.members.length := List.idxOf_lt_length_iff.mpr ha
  rw [Nat.ModEq, Nat.mod_eq_of_lt hlt]
  constructor
  · intro hturn
    rw [← hturn]
    have hpos : 0 < r.members.length := List.length_pos_of_ne_nil r.nonempty
    exact (List.get_idxOf hnodup ⟨i % r.members.length, Nat.mod_lt _ hpos⟩).symm
  · intro hposition
    unfold turn
    simp only [hposition]
    exact List.idxOf_get hlt

/-- In `n` turns a member has one for each full round, and one more when its position comes
before the end of the last round. -/
theorem count_turns (hnodup : r.members.Nodup) (ha : a ∈ r.members) (n : ℕ) :
    (r.turns n).count a = n / r.members.length +
      if r.members.idxOf a < n % r.members.length then 1 else 0 := by
  have hpos : 0 < r.members.length := List.length_pos_of_ne_nil r.nonempty
  have hlt : r.members.idxOf a < r.members.length := List.idxOf_lt_length_iff.mpr ha
  have hcount : (r.turns n).count a =
      Nat.count (· ≡ r.members.idxOf a [MOD r.members.length]) n := by
    unfold turns Nat.count
    rw [List.count_eq_countP, List.countP_map]
    refine List.countP_congr fun i _ => ?_
    simp only [Function.comp_apply, beq_iff_eq, decide_eq_true_eq]
    exact turn_eq_iff hnodup ha i
  rw [hcount, Nat.count_modEq_card n hpos, Nat.mod_eq_of_lt hlt]

/-- No member has more than one turn more than another. -/
theorem count_turns_le (hnodup : r.members.Nodup) (ha : a ∈ r.members) (hb : b ∈ r.members)
    (n : ℕ) : (r.turns n).count a ≤ (r.turns n).count b + 1 := by
  rw [count_turns hnodup ha, count_turns hnodup hb]
  split <;> split <;> omega

end Count

end Rota

end AyushOms.Lib
