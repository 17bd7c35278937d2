import AyushOms.Lib.Ledger
import Mathlib.Data.List.Induction
import Mathlib.Order.Defs.LinearOrder
import Mathlib.Algebra.Order.Ring.Int

/-!
# Ledgers with Business Dates

The entries of a dated ledger belong to a key (an account) and carry, besides their amount
and the balance recorded when they were written, the date they are attributed to. Entries
stand in the order they were written, which need not be the order of their dates.

The balance of a key as of a date is read off the latest entry dated on or before it. It
agrees with the sum of the entries dated on or before it as long as no entry that matters is
written behind a later-dated one of its key.

## Main results

- `agrees_append_iff`: what appending a run of entries of one key and date does to the
  agreement
- `Agrees.opening_add_sum`: the balance of a day is the one of the day before plus what the
  day adds
- `nonNegative_concat_iff`: when an entry leaves no sum of any date below zero
-/

namespace AyushOms.Lib

variable {α κ δ β : Type*} [DecidableEq κ] [LinearOrder δ] [AddCommGroup β]

/-! ## Section 1: The latest entry -/

section Latest

variable (date : α → δ)

/-- The later of the latest entry so far and one written after it, which wins a tie. -/
def later : Option α → α → Option α
  | none, r => some r
  | some best, r => if date best ≤ date r then some r else some best

/-- The entry with the latest date; of several, the one written last. -/
def latest? (rows : List α) : Option α := rows.foldl (later date) none

variable {date}

theorem latest?_append (rows new : List α) :
    latest? date (rows ++ new) = new.foldl (later date) (latest? date rows) :=
  List.foldl_append

theorem latest?_concat (rows : List α) (r : α) :
    latest? date (rows ++ [r]) = later date (latest? date rows) r :=
  latest?_append rows [r]

@[simp] theorem latest?_nil : latest? date ([] : List α) = none := rfl

theorem later_ne_none (best : Option α) (r : α) : later date best r ≠ none := by
  unfold later
  split
  · simp
  · split <;> simp

/-- Only the empty ledger has no latest entry. -/
theorem latest?_eq_none {rows : List α} : latest? date rows = none ↔ rows = [] := by
  rcases rows.eq_nil_or_concat with rfl | ⟨front, r, rfl⟩
  · simp
  · simp [latest?_concat, later_ne_none]

/-- The latest entry is an entry, and no other is dated after it. -/
theorem latest?_eq_some {rows : List α} {best : α} (h : latest? date rows = some best) :
    best ∈ rows ∧ ∀ r ∈ rows, date r ≤ date best := by
  induction rows using List.reverseRecOn generalizing best with
  | nil => cases h
  | append_singleton rows r ih =>
    rw [latest?_concat] at h
    simp only [List.mem_append, List.mem_singleton, or_imp, forall_and, forall_eq]
    cases hbest : latest? date rows with
    | none =>
      rw [hbest] at h
      cases h
      simp [latest?_eq_none.mp hbest]
    | some best' =>
      obtain ⟨hmem, hmax⟩ := ih hbest
      rw [hbest, later] at h
      -- the new entry wins from the date of the latest one on
      split at h
      · rename_i hle
        cases h
        exact ⟨.inr rfl, fun r' hr' => (hmax r' hr').trans hle, le_rfl⟩
      · rename_i hlt
        cases h
        exact ⟨.inl hmem, hmax, (not_le.mp hlt).le⟩

/-- A ledger with an entry has a latest one. -/
theorem exists_latest?_of_mem {rows : List α} {r : α} (hr : r ∈ rows) :
    ∃ best, latest? date rows = some best := by
  refine Option.ne_none_iff_exists'.mp fun hnone => ?_
  rw [latest?_eq_none.mp hnone] at hr
  cases hr

/-- Entries dated before the latest one leave it the latest. -/
theorem latest?_append_of_lt {rows new : List α} {best : α}
    (hbest : latest? date rows = some best) (hnew : ∀ r ∈ new, date r < date best) :
    latest? date (rows ++ new) = some best := by
  induction new using List.reverseRecOn with
  | nil => rwa [List.append_nil]
  | append_singleton new r ih =>
    rw [← List.append_assoc, latest?_concat,
      ih fun r' hr' => hnew r' (List.mem_append_left _ hr'), later]
    exact if_neg (not_le.mpr (hnew r (by simp)))

/-- Of entries of one date, not before the latest, the last one written is now the latest. -/
theorem latest?_append_of_le {rows new : List α} {r : α} {d : δ}
    (hrows : ∀ r ∈ rows, date r ≤ d) (hnew : ∀ r' ∈ new ++ [r], date r' = d) :
    latest? date (rows ++ (new ++ [r])) = some r := by
  rw [← List.append_assoc, latest?_concat]
  cases hbest : latest? date (rows ++ new) with
  | none => rfl
  | some best =>
    have hle : date best ≤ date r := by
      rw [hnew r (by simp)]
      rcases List.mem_append.mp (latest?_eq_some hbest).1 with hmem | hmem
      · exact hrows best hmem
      · exact (hnew best (List.mem_append_left _ hmem)).le
    exact if_pos hle

end Latest

/-! ## Section 2: Balances and sums as of a date -/

section Balances

variable (key : α → κ) (date : α → δ) (delta after : α → β)

/-- The entries of a key dated on or before a date. -/
def visible (k : κ) (d : δ) (rows : List α) : List α :=
  rows.filter fun r => key r = k ∧ date r ≤ d

/-- The balance the latest visible entry recorded; nothing recorded is a balance of zero. -/
def balanceAsOf (k : κ) (d : δ) (rows : List α) : β :=
  ((latest? date (visible key date k d rows)).map after).getD 0

/-- What the visible entries add up to. -/
def sumAsOf (k : κ) (d : δ) (rows : List α) : β := ((visible key date k d rows).map delta).sum

/-- For every key and date, the recorded balance is the sum. -/
def Agrees (rows : List α) : Prop :=
  ∀ k d, balanceAsOf key date after k d rows = sumAsOf key date delta k d rows

variable {key date delta after}

theorem agrees_nil : Agrees key date delta after [] := fun _ _ => rfl

theorem mem_visible {k : κ} {d : δ} {rows : List α} {r : α} :
    r ∈ visible key date k d rows ↔ r ∈ rows ∧ key r = k ∧ date r ≤ d := by
  simp [visible]

theorem visible_append (k : κ) (d : δ) (rows new : List α) :
    visible key date k d (rows ++ new) = visible key date k d rows ++ visible key date k d new :=
  List.filter_append ..

/-- Entries of another key, or dated after the date, are not seen. -/
theorem visible_eq_nil {k : κ} {d : δ} {new : List α}
    (h : ∀ r ∈ new, ¬ (key r = k ∧ date r ≤ d)) : visible key date k d new = [] := by
  simpa [visible] using h

/-- Entries of the key dated on or before the date are all seen. -/
theorem visible_eq_self {k : κ} {d : δ} {new : List α}
    (h : ∀ r ∈ new, key r = k ∧ date r ≤ d) : visible key date k d new = new := by
  rw [visible, List.filter_eq_self]
  exact fun r hr => decide_eq_true (h r hr)

/-- When nothing visible is dated after an earlier date, the same is visible as of it. -/
theorem visible_eq_of_le {k : κ} {d d' : δ} {rows : List α} (hle : d ≤ d')
    (h : ∀ r ∈ visible key date k d' rows, date r ≤ d) :
    visible key date k d' rows = visible key date k d rows := by
  refine List.filter_congr fun r hr => ?_
  rw [decide_eq_decide]
  refine and_congr_right fun hkey => ⟨fun hd => ?_, fun hd => hd.trans hle⟩
  exact h r (mem_visible.mpr ⟨hr, hkey, hd⟩)

theorem sumAsOf_append (k : κ) (d : δ) (rows new : List α) :
    sumAsOf key date delta k d (rows ++ new) =
      sumAsOf key date delta k d rows + sumAsOf key date delta k d new := by
  simp [sumAsOf, visible_append]

/-- An entry is seen as of its own date and every later one of its key. -/
theorem sumAsOf_concat (k : κ) (d : δ) (rows : List α) (r : α) :
    sumAsOf key date delta k d (rows ++ [r]) =
      sumAsOf key date delta k d rows + if key r = k ∧ date r ≤ d then delta r else 0 := by
  rw [sumAsOf_append]
  congr 1
  by_cases hseen : key r = k ∧ date r ≤ d
  · simp [sumAsOf, visible, hseen]
  · simp [sumAsOf, visible, hseen]

/-- Where nothing of the key is dated later, the sum stays what it is. -/
theorem sumAsOf_eq_of_le {k : κ} {d d' : δ} {rows : List α} (hle : d ≤ d')
    (h : ∀ r ∈ rows, key r = k → date r ≤ d) :
    sumAsOf key date delta k d' rows = sumAsOf key date delta k d rows := by
  rw [sumAsOf, visible_eq_of_le hle fun r hr => h r (mem_visible.mp hr).1 (mem_visible.mp hr).2.1,
    sumAsOf]

/-- Written behind a later-dated entry of their key, entries do not move the balance. -/
theorem balanceAsOf_append_of_lt {k : κ} {d : δ} {rows new : List α} {r : α}
    (hr : r ∈ visible key date k d rows) (hnew : ∀ r' ∈ new, date r' < date r) :
    balanceAsOf key date after k d (rows ++ new) = balanceAsOf key date after k d rows := by
  obtain ⟨best, hbest⟩ : ∃ best, latest? date (visible key date k d rows) = some best :=
    exists_latest?_of_mem hr
  have hle : date r ≤ date best := (latest?_eq_some hbest).2 r hr
  have hlater : latest? date (visible key date k d (rows ++ new)) = some best := by
    rw [visible_append]
    refine latest?_append_of_lt hbest fun r' hr' => ?_
    exact (hnew r' (mem_visible.mp hr').1).trans_le hle
  rw [balanceAsOf, balanceAsOf, hlater, hbest]

/-- Written at or after every visible entry, a run of entries that starts from the balance
ends at what the run adds to it. -/
theorem balanceAsOf_append_of_le {k : κ} {d d' : δ} {rows new : List α}
    (hrows : ∀ r ∈ visible key date k d rows, date r ≤ d') (hle : d' ≤ d)
    (hnew : ∀ r ∈ new, key r = k ∧ date r = d')
    (hrun : RunningBalance delta after (balanceAsOf key date after k d rows) new) :
    balanceAsOf key date after k d (rows ++ new) =
      closing delta (balanceAsOf key date after k d rows) new := by
  have hvisible : visible key date k d new = new :=
    visible_eq_self fun r hr => ⟨(hnew r hr).1, (hnew r hr).2.le.trans hle⟩
  rcases new.eq_nil_or_concat with rfl | ⟨front, r, rfl⟩
  · rw [List.append_nil, closing_nil]
  · rw [List.concat_eq_append] at *
    rw [← hrun.after_getLast, balanceAsOf, visible_append, hvisible,
      latest?_append_of_le hrows fun r hr => (hnew r hr).2]
    rfl

/-! ## Section 3: Appending a run of entries of one key and date -/

/-- The new entries add up to nothing, or none is written behind a later-dated one of its
key. -/
def LandsInOrder (key : α → κ) (date : α → δ) (delta : α → β) (rows new : List α) : Prop :=
  (new.map delta).sum = 0 ∨ ∀ m ∈ new, ∀ r ∈ rows, key r = key m → date r ≤ date m

omit [DecidableEq κ] in
theorem landsInOrder_nil (key : α → κ) (date : α → δ) (delta : α → β) (rows : List α) :
    LandsInOrder key date delta rows [] :=
  .inl rfl

/-- A run of entries of one key and date, computed from the balance as of that date, leaves
balances and sums in agreement exactly when it adds up to nothing or no entry of the key is
dated later. -/
theorem agrees_append_iff {rows new : List α} {k₀ : κ} {d₀ : δ}
    (h : Agrees key date delta after rows) (hnew : ∀ r ∈ new, key r = k₀ ∧ date r = d₀)
    (hrun : RunningBalance delta after (balanceAsOf key date after k₀ d₀ rows) new) :
    Agrees key date delta after (rows ++ new) ↔ LandsInOrder key date delta rows new := by
  have hsum : ∀ d, d₀ ≤ d → sumAsOf key date delta k₀ d new = (new.map delta).sum := by
    intro d hd
    rw [sumAsOf, visible_eq_self fun r hr => ⟨(hnew r hr).1, (hnew r hr).2.le.trans hd⟩]
  -- behind a later-dated entry the balance stays, while the sum moves
  have hbehind : ∀ d, d₀ ≤ d → ∀ r ∈ visible key date k₀ d rows, d₀ < date r →
      (balanceAsOf key date after k₀ d (rows ++ new) =
        sumAsOf key date delta k₀ d (rows ++ new) ↔ (new.map delta).sum = 0) := by
    intro d hd r hr hlt
    rw [balanceAsOf_append_of_lt hr fun r' hr' => by rw [(hnew r' hr').2]; exact hlt,
      sumAsOf_append, hsum d hd, h k₀ d, eq_comm, add_eq_left]
  constructor
  · intro hagrees
    by_contra hnot
    simp only [LandsInOrder, not_or, not_forall, not_le] at hnot
    obtain ⟨hne, m, hm, r, hr, hkey, hlt⟩ := hnot
    rw [(hnew m hm).1] at hkey
    rw [(hnew m hm).2] at hlt
    have hvisible : r ∈ visible key date k₀ (date r) rows :=
      mem_visible.mpr ⟨hr, hkey, le_rfl⟩
    exact hne ((hbehind _ hlt.le r hvisible hlt).mp (hagrees k₀ (date r)))
  · intro hor k d
    by_cases hseen : k = k₀ ∧ d₀ ≤ d
    · obtain ⟨rfl, hd⟩ := hseen
      by_cases hlater : ∃ r ∈ visible key date k d rows, d₀ < date r
      · obtain ⟨r, hr, hlt⟩ := hlater
        refine (hbehind d hd r hr hlt).mpr (hor.elim (fun hzero => hzero) fun hle => ?_)
        obtain ⟨hmem, hkey, _⟩ := mem_visible.mp hr
        -- without an entry there is nothing to add up
        cases new with
        | nil => rfl
        | cons m new =>
          obtain ⟨hkey', hdate'⟩ := hnew m List.mem_cons_self
          have hle' := hle m List.mem_cons_self r hmem (hkey.trans hkey'.symm)
          rw [hdate'] at hle'
          exact absurd hle' (not_le.mpr hlt)
      · -- the run starts from the balance as of its own date, which is the one as of `d`
        push Not at hlater
        have hsame :
            balanceAsOf key date after k d rows = balanceAsOf key date after k d₀ rows := by
          rw [balanceAsOf, balanceAsOf, visible_eq_of_le hd hlater]
        rw [← hsame] at hrun
        rw [balanceAsOf_append_of_le hlater hd hnew hrun, sumAsOf_append, hsum d hd, closing,
          h k d]
    · -- nothing of the run is seen
      have hnil : visible key date k d new = [] := by
        refine visible_eq_nil fun r hr hboth => hseen ?_
        rw [← (hnew r hr).1, ← (hnew r hr).2]
        exact ⟨hboth.1.symm, hboth.2⟩
      rw [balanceAsOf, sumAsOf, visible_append, hnil, List.append_nil]
      exact h k d

end Balances

/-! ## Section 4: Ledgers that never go below zero -/

section NonNegative

variable [LinearOrder β] (key : α → κ) (date : α → δ) (delta : α → β)

/-- For every key and date, the entries dated on or before the date add up to no less than
zero. -/
def NonNegative (rows : List α) : Prop := ∀ k d, 0 ≤ sumAsOf key date delta k d rows

variable {key date delta}

theorem nonNegative_nil : NonNegative key date delta [] := fun _ _ => le_rfl

/-- Whatever the entries before it, a new one leaves every sum at zero or above exactly when the
sums of its key as of its own date and of every later one can take it. -/
theorem nonNegative_concat_iff {rows : List α} (h : NonNegative key date delta rows) (r : α) :
    NonNegative key date delta (rows ++ [r]) ↔
      ∀ d, date r ≤ d → 0 ≤ sumAsOf key date delta (key r) d rows + delta r := by
  constructor
  · intro hnew d hd
    have hsum := hnew (key r) d
    rwa [sumAsOf_concat, if_pos ⟨rfl, hd⟩] at hsum
  · intro hlater k d
    rw [sumAsOf_concat]
    by_cases hseen : key r = k ∧ date r ≤ d
    · obtain ⟨rfl, hd⟩ := hseen
      rw [if_pos ⟨rfl, hd⟩]
      exact hlater d hd
    · rw [if_neg hseen, add_zero]
      exact h k d

end NonNegative

/-! ## Section 5: Days -/

section Days

variable {key : α → κ} {date : α → ℤ} {delta after : α → β}

/-- The entries of one day come on top of those up to the day before. -/
theorem sumAsOf_day (k : κ) (d : ℤ) (rows : List α) :
    sumAsOf key date delta k d rows =
      sumAsOf key date delta k (d - 1) rows +
        ((rows.filter fun r => key r = k ∧ date r = d).map delta).sum := by
  induction rows with
  | nil => simp [sumAsOf, visible]
  | cons r rows ih =>
    simp only [sumAsOf, visible, List.filter_cons, Bool.decide_and] at ih ⊢
    by_cases hkey : key r = k
    · rcases lt_trichotomy (date r) d with hlt | heq | hgt
      · have hle : date r ≤ d - 1 := by omega
        simp [hkey, hlt.le, hle, hlt.ne, ih, add_assoc]
      · have hnot : ¬ d ≤ d - 1 := by omega
        simp [hkey, heq, hnot, ih, add_left_comm]
      · have hnot : ¬ date r ≤ d - 1 := by omega
        have hnot' : ¬ date r ≤ d := by omega
        simp [hkey, hnot, hnot', hgt.ne', ih]
    · simp [hkey, ih]

/-- The balance of a day is the one of the day before plus what the day adds. -/
theorem Agrees.opening_add_sum {rows : List α} (h : Agrees key date delta after rows) (k : κ)
    (d : ℤ) :
    balanceAsOf key date after k (d - 1) rows +
        ((rows.filter fun r => key r = k ∧ date r = d).map delta).sum =
      balanceAsOf key date after k d rows := by
  rw [h k (d - 1), h k d, ← sumAsOf_day]

end Days

end AyushOms.Lib
