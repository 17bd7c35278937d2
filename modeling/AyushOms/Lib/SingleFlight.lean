import Mathlib.Data.List.Count
import Mathlib.Data.List.Induction
import Mathlib.Data.List.Nodup
import Mathlib.Data.Nat.Notation
import Mathlib.Order.Lattice

/-!
# A Cached Value, Fetched by One at a Time

Any number of callers share a value that is good until a given time. A caller that finds no good
value takes a lock, looks again, and fetches a new value while it holds the lock; whoever comes
meanwhile waits in line. A caller to whom a value turns out to be bad drops it.

## Main results

- `Flight.Accounted`: every value that was stored has been dropped or has lapsed since, except
  the last one
- `Flight.Accounted.length_stored_le`: how many values have been fetched
-/

namespace AyushOms.Lib

/-- Numbers that each name an element with the property are no more than there are such
elements. -/
theorem length_le_countP {α : Type} {p : α → Bool} {xs : List α} {l : List ℕ} (hl : l.Nodup)
    (hmem : ∀ i ∈ l, ∃ a, xs[i]? = some a ∧ p a = true) : l.length ≤ xs.countP p := by
  induction xs using List.reverseRecOn generalizing l with
  | nil =>
    cases l with
    | nil => exact Nat.zero_le _
    | cons i l =>
      obtain ⟨a, ha, _⟩ := hmem i List.mem_cons_self
      cases ha
  | append_singleton xs a ih =>
    -- the numbers but for the last element's
    have hrest : (l.erase xs.length).length ≤ xs.countP p := by
      refine ih (hl.erase _) fun i hi => ?_
      obtain ⟨hne, hi⟩ := hl.mem_erase_iff.mp hi
      obtain ⟨b, hb, hp⟩ := hmem i hi
      have hlt : i < (xs ++ [a]).length := (List.getElem?_eq_some_iff.mp hb).1
      rw [List.length_append, List.length_singleton] at hlt
      rw [List.getElem?_append_left (by omega)] at hb
      exact ⟨b, hb, hp⟩
    rw [List.countP_append]
    by_cases hlast : xs.length ∈ l
    · obtain ⟨b, hb, hp⟩ := hmem _ hlast
      rw [List.getElem?_append_right (Nat.le_refl _), Nat.sub_self] at hb
      cases hb
      rw [List.length_erase_of_mem hlast] at hrest
      simp only [List.countP_singleton, hp, if_true]
      omega
    · rw [List.erase_of_not_mem hlast] at hrest
      exact Nat.le_add_right_of_le hrest

/-- The value, the lock with its line, and what has been stored and dropped so far: until when
each stored value is good, and who dropped one. -/
structure Flight (κ : Type*) where
  value : Option κ := none
  expiresAt : ℤ := 0
  holder : Option ℕ := none
  waiters : List ℕ := []
  stored : List ℤ := []
  dropped : List ℕ := []

/-- Those of the times that have come. -/
def lapsed (now : ℤ) (times : List ℤ) : ℕ := times.countP fun time => time ≤ now

theorem lapsed_mono {now now' : ℤ} (h : now ≤ now') (times : List ℤ) :
    lapsed now times ≤ lapsed now' times :=
  List.countP_mono_left fun _ _ htime => by simp only [decide_eq_true_eq] at htime ⊢; omega

theorem lapsed_append (now : ℤ) (times times' : List ℤ) :
    lapsed now (times ++ times') = lapsed now times + lapsed now times' :=
  List.countP_append

namespace Flight

variable {κ : Type*}

/-! ## Section 1: Operations -/

/-- The value, as long as it is good. -/
def good (f : Flight κ) (now : ℤ) : Option κ :=
  match f.value with
  | some v => if now < f.expiresAt then some v else none
  | none => none

/-- The lock is free and nobody is in line for it. -/
def idle (f : Flight κ) : Bool := f.holder.isNone && f.waiters.isEmpty

def take (f : Flight κ) (caller : ℕ) : Flight κ := { f with holder := some caller }

def release (f : Flight κ) : Flight κ := { f with holder := none }

/-- The caller goes to the end of the line. -/
def enqueue (f : Flight κ) (caller : ℕ) : Flight κ :=
  { f with waiters := f.waiters ++ [caller] }

/-- The caller leaves the line. -/
def leave (f : Flight κ) (caller : ℕ) : Flight κ :=
  { f with waiters := f.waiters.erase caller }

/-- The caller at the head of the line may take the lock. -/
def next (f : Flight κ) (caller : ℕ) : Bool :=
  f.holder.isNone && f.waiters.head? == some caller

def store (f : Flight κ) (v : κ) (expiresAt : ℤ) : Flight κ :=
  { f with value := some v, expiresAt := expiresAt, stored := f.stored ++ [expiresAt] }

/-- The value is given up; only a value that is there counts as dropped. -/
def drop (f : Flight κ) (caller : ℕ) : Flight κ :=
  { f with
    value := none
    expiresAt := 0
    dropped := if f.value.isSome then f.dropped ++ [caller] else f.dropped }

/-! ## Section 2: What has become of the values -/

/-- The values before the last one have been dropped or have lapsed; so has the last one, when it
is not there any more. While a caller fetches, there is no good value. -/
structure Accounted (f : Flight κ) (now : ℤ) : Prop where
  absent : f.value = none → f.stored.length ≤ f.dropped.length + lapsed now f.stored
  present : ∀ v, f.value = some v → ∃ earlier, f.stored = earlier ++ [f.expiresAt] ∧
    earlier.length ≤ f.dropped.length + lapsed now earlier
  fetching : f.holder.isSome = true → f.good now = none

theorem good_eq_none {f : Flight κ} {now : ℤ} :
    f.good now = none ↔ f.value = none ∨ f.expiresAt ≤ now := by
  unfold good
  cases hvalue : f.value with
  | none => simp
  | some v => simp

theorem accounted_empty (now : ℤ) : Accounted ({} : Flight κ) now where
  absent _ := Nat.zero_le _
  present v h := by cases h
  fetching _ := rfl

namespace Accounted

variable {f : Flight κ} {now : ℤ}

theorem mono (h : f.Accounted now) {now' : ℤ} (hle : now ≤ now') : f.Accounted now' where
  absent hnone :=
    Nat.le_trans (h.absent hnone) (Nat.add_le_add_left (lapsed_mono hle _) _)
  present v hv := by
    obtain ⟨earlier, hstored, hlength⟩ := h.present v hv
    exact ⟨earlier, hstored,
      Nat.le_trans hlength (Nat.add_le_add_left (lapsed_mono hle _) _)⟩
  fetching hholder :=
    good_eq_none.mpr ((good_eq_none.mp (h.fetching hholder)).imp id fun h => by omega)

theorem take (h : f.Accounted now) (hbad : f.good now = none) (caller : ℕ) :
    (f.take caller).Accounted now where
  absent := h.absent
  present := h.present
  fetching _ := hbad

theorem release (h : f.Accounted now) : f.release.Accounted now where
  absent := h.absent
  present := h.present
  fetching hholder := by cases hholder

theorem enqueue (h : f.Accounted now) (caller : ℕ) : (f.enqueue caller).Accounted now where
  absent := h.absent
  present := h.present
  fetching := h.fetching

theorem leave (h : f.Accounted now) (caller : ℕ) : (f.leave caller).Accounted now where
  absent := h.absent
  present := h.present
  fetching := h.fetching

theorem drop (h : f.Accounted now) (caller : ℕ) : (f.drop caller).Accounted now where
  absent _ := by
    cases hvalue : f.value with
    | none =>
      simp only [Flight.drop, hvalue, Option.isSome_none, Bool.false_eq_true, if_false]
      exact h.absent hvalue
    | some v =>
      obtain ⟨earlier, hstored, hlength⟩ := h.present v hvalue
      simp only [Flight.drop, hvalue, Option.isSome_some, if_true, hstored, List.length_append,
        List.length_singleton, lapsed_append]
      omega
  present v hv := by cases hv
  fetching _ := rfl

/-- The holder of the lock stores what it has fetched and lets go of the lock. -/
theorem store (h : f.Accounted now) (hholder : f.holder.isSome = true) (v : κ)
    (expiresAt : ℤ) : ((f.store v expiresAt).release).Accounted now where
  absent hnone := by cases hnone
  present v' hv' := by
    refine ⟨f.stored, rfl, ?_⟩
    show f.stored.length ≤ f.dropped.length + lapsed now f.stored
    cases hvalue : f.value with
    | none => exact h.absent hvalue
    | some old =>
      -- the value that is replaced has lapsed
      obtain ⟨earlier, hstored, hlength⟩ := h.present old hvalue
      have hlapsed : lapsed now [f.expiresAt] = 1 := by
        rcases good_eq_none.mp (h.fetching hholder) with hnone | hle
        · rw [hvalue] at hnone
          cases hnone
        · simp [lapsed, hle]
      rw [hstored, List.length_append, List.length_singleton, lapsed_append, hlapsed]
      omega
  fetching hholder' := by cases hholder'

/-- All the values but one have been dropped or have lapsed. -/
theorem length_stored_le (h : f.Accounted now) :
    f.stored.length ≤ f.dropped.length + lapsed now f.stored + 1 := by
  cases hvalue : f.value with
  | none => exact Nat.le_succ_of_le (h.absent hvalue)
  | some v =>
    obtain ⟨earlier, hstored, hlength⟩ := h.present v hvalue
    rw [hstored, List.length_append, List.length_singleton, lapsed_append]
    omega

end Accounted

end Flight

end AyushOms.Lib
