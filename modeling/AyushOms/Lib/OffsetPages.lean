import Mathlib.Data.List.Perm.Basic
import Mathlib.Data.List.Nodup
import Mathlib.Data.List.Count
import Mathlib.Order.Lattice

/-!
# Pages by Offset

A list is handed out in pages of one size: page `n` starts after `n` pages. Read off one list, the
pages put together are the list. A database sorts the rows anew for each page, and rows with
equal keys may change places in between. The pages are then still complete when no two rows on
either side of a page break have equal keys, and only then.

## Main results

- `pages_eq`: the pages of one list are the list
- `pages_perm_of_strict`: the pages of sorted lists are complete when the keys differ at every
  page break
- `complete_iff_tiesFit`: and only then
-/

namespace AyushOms.Lib

variable {α κ : Type*}

namespace OffsetPages

/-! ## Section 1: The pages of one list -/

/-- Page `n`, counted from zero. -/
def slice (size : ℕ) (xs : List α) (n : ℕ) : List α := (xs.drop (n * size)).take size

/-- How many pages there are. -/
def pageCount (total size : ℕ) : ℕ := if total = 0 then 0 else (total + size - 1) / size

theorem le_pageCount_mul {size : ℕ} (hsize : 0 < size) (total : ℕ) :
    total ≤ pageCount total size * size := by
  unfold pageCount
  by_cases h : total = 0
  · omega
  · rw [if_neg h]
    have hdiv := Nat.div_add_mod (total + size - 1) size
    have hmod := Nat.mod_lt (total + size - 1) hsize
    rw [Nat.mul_comm]
    omega

theorem lt_pageCount_iff {size : ℕ} (hsize : 0 < size) {total n : ℕ} :
    n < pageCount total size ↔ n * size < total := by
  unfold pageCount
  by_cases h : total = 0
  · simp [h]
  · rw [if_neg h, Nat.lt_iff_add_one_le, Nat.le_div_iff_mul_le hsize, Nat.succ_mul]
    omega

/-- The first pages make up the first part of the list. -/
theorem flatMap_slice (size : ℕ) (xs : List α) (n : ℕ) :
    (List.range n).flatMap (slice size xs) = xs.take (n * size) := by
  induction n with
  | zero => simp
  | succ n ih =>
    rw [List.range_succ, List.flatMap_append, ih, Nat.succ_mul, List.take_add]
    simp [slice]

/-- The pages of one list are the list. -/
theorem pages_eq {size : ℕ} (hsize : 0 < size) (xs : List α) :
    (List.range (pageCount xs.length size)).flatMap (slice size xs) = xs := by
  rw [flatMap_slice]
  exact List.take_of_length_le (le_pageCount_mul hsize xs.length)

/-! ## Section 2: Pages in a row -/

/-- The pages from one on, so many of them. -/
def stretch (size : ℕ) (xs : List α) (first count : ℕ) : List α :=
  (xs.drop (first * size)).take (count * size)

theorem stretch_one (size : ℕ) (xs : List α) (first : ℕ) :
    stretch size xs first 1 = slice size xs first := by
  rw [stretch, slice, Nat.one_mul]

/-- One more page at the end. -/
theorem stretch_append_slice (size : ℕ) (xs : List α) (first count : ℕ) :
    stretch size xs first count ++ slice size xs (first + count) =
      stretch size xs first (count + 1) := by
  rw [stretch, stretch, slice, Nat.add_mul first, Nat.succ_mul, List.take_add, List.drop_drop]

/-- One more page at the front. -/
theorem slice_append_stretch (size : ℕ) (xs : List α) (first count : ℕ) :
    slice size xs first ++ stretch size xs (first + 1) count =
      stretch size xs first (count + 1) := by
  rw [stretch, stretch, slice, Nat.succ_mul, Nat.succ_mul, Nat.add_comm (count * size),
    List.take_add, List.drop_drop]

theorem getElem?_stretch (size : ℕ) (xs : List α) (first count i : ℕ) :
    (stretch size xs first count)[i]? =
      if i < count * size then xs[first * size + i]? else none := by
  rw [stretch, List.getElem?_take, List.getElem?_drop]

theorem head?_slice {size : ℕ} (hsize : 0 < size) (xs : List α) (n : ℕ) :
    (slice size xs n).head? = xs[n * size]? := by
  rw [slice, List.head?_take, if_neg (Nat.ne_of_gt hsize), List.head?_drop]

/-- The last element of a page that is full. -/
theorem getLast?_slice {size n : ℕ} (hsize : 0 < size) {xs : List α}
    (hfull : (n + 1) * size ≤ xs.length) :
    (slice size xs n).getLast? = xs[(n + 1) * size - 1]? := by
  have hlength : (slice size xs n).length = size := by
    rw [slice, List.length_take, List.length_drop]
    rw [Nat.succ_mul] at hfull
    omega
  rw [List.getLast?_eq_getElem?, hlength, slice, List.getElem?_take, List.getElem?_drop,
    if_pos (Nat.sub_lt hsize Nat.one_pos), Nat.succ_mul, Nat.add_sub_assoc hsize]

/-! ## Section 3: Sorted lists with the same elements -/

section Sorted

variable [LinearOrder κ] {key : α → κ} {xs ys : List α}

/-- The keys ascend. -/
def Ascends (key : α → κ) (xs : List α) : Prop := xs.Pairwise fun a b => key a ≤ key b

/-- The elements with smaller keys stand at the front of a sorted list. -/
theorem filter_append_filter (h : Ascends key xs) (k : κ) :
    xs.filter (fun a => key a < k) ++ xs.filter (fun a => k ≤ key a) = xs := by
  induction xs with
  | nil => rfl
  | cons x xs ih =>
    obtain ⟨hx, hxs⟩ := List.pairwise_cons.mp h
    by_cases hlt : key x < k
    · have hnot : ¬ k ≤ key x := not_le.mpr hlt
      simp only [List.filter_cons, hlt, hnot, decide_true, decide_false, if_true, if_false,
        Bool.false_eq_true, List.cons_append, ih hxs]
    · -- none of the keys from here on is smaller
      have hall : ∀ a ∈ x :: xs, k ≤ key a := by
        intro a ha
        rcases List.mem_cons.mp ha with rfl | ha
        · exact not_lt.mp hlt
        · exact le_trans (not_lt.mp hlt) (hx a ha)
      have hnone : (x :: xs).filter (fun a => key a < k) = [] := by
        rw [List.filter_eq_nil_iff]
        simpa using hall
      have hself : (x :: xs).filter (fun a => k ≤ key a) = x :: xs := by
        rw [List.filter_eq_self]
        simpa using hall
      rw [hnone, hself, List.nil_append]

theorem filter_eq_take (h : Ascends key xs) (k : κ) :
    xs.filter (fun a => key a < k) = xs.take (xs.countP fun a => key a < k) := by
  have hfront := congrArg (List.take (xs.filter fun a => key a < k).length)
    (filter_append_filter h k)
  rwa [List.take_left, ← List.countP_eq_length_filter] at hfront

/-- At a break between unequal keys, the elements before it are those with smaller keys. -/
theorem countP_break (hxs : Ascends key xs) {before after : List α} {a b : α}
    (hbreak : xs = before ++ a :: b :: after) (hlt : key a < key b) :
    xs.countP (fun c => key c < key b) = before.length + 1 := by
  have hsplit := List.pairwise_append.mp (hbreak ▸ hxs : Ascends key (before ++ a :: b :: after))
  have hrest := List.pairwise_cons.mp (List.pairwise_cons.mp hsplit.2.1).2
  have hbefore : before.countP (fun c => key c < key b) = before.length := by
    rw [List.countP_eq_length]
    intro c hc
    exact decide_eq_true (lt_of_le_of_lt (hsplit.2.2 c hc a List.mem_cons_self) hlt)
  have hafter : after.countP (fun c => key c < key b) = 0 := by
    rw [List.countP_eq_zero]
    intro c hc
    simpa using hrest.1 c hc
  rw [hbreak, List.countP_append, List.countP_cons, List.countP_cons, hbefore, hafter]
  simp [hlt]

/-- At a break between unequal keys, sorted lists with the same elements have the same elements
before it. -/
theorem take_perm (hxs : Ascends key xs) (hys : Ascends key ys) (hperm : ys.Perm xs)
    {before after : List α} {a b : α} (hbreak : xs = before ++ a :: b :: after)
    (hlt : key a < key b) :
    (ys.take (before.length + 1)).Perm (xs.take (before.length + 1)) := by
  have hcount := countP_break hxs hbreak hlt
  have hcount' : ys.countP (fun c => key c < key b) = before.length + 1 := by
    rw [hperm.countP_eq, hcount]
  rw [← hcount', ← filter_eq_take hys, hcount', ← hcount, ← filter_eq_take hxs]
  exact hperm.filter _

/-! ## Section 4: A list for each page -/

/-- No two neighbours on either side of a page break have equal keys. -/
def Strict (key : α → κ) (size : ℕ) (xs : List α) : Prop :=
  ∀ before a b after, xs = before ++ a :: b :: after → size ∣ before.length + 1 →
    key a < key b

/-- The pages, each from a list of its own. -/
def collected (size : ℕ) (lists : ℕ → List α) (total : ℕ) : List α :=
  (List.range (pageCount total size)).flatMap fun n => slice size (lists n) n

/-- A page break inside the list is between two neighbours, whose keys are not equal. -/
theorem Strict.neighbours {size : ℕ} (hstrict : Strict key size xs) {n : ℕ} (hpos : 0 < n * size)
    (hinside : n * size < xs.length) :
    ∃ before a b after, xs = before ++ a :: b :: after ∧ before.length + 1 = n * size ∧
      key a < key b := by
  obtain ⟨i, hi⟩ : ∃ i, n * size = i + 1 := ⟨n * size - 1, by omega⟩
  have hlen : i + 1 < xs.length := by omega
  have hbreak : xs = xs.take i ++ xs[i] :: xs[i + 1] :: xs.drop (i + 2) := by
    conv_lhs => rw [← List.take_append_drop i xs]
    rw [List.drop_eq_getElem_cons (by omega), List.drop_eq_getElem_cons hlen]
  have hlength : (xs.take i).length + 1 = n * size := by
    rw [List.length_take]
    omega
  exact ⟨_, _, _, _, hbreak, hlength,
    hstrict _ _ _ _ hbreak (by rw [hlength]; exact Nat.dvd_mul_left _ _)⟩

/-- The first part of a sorted list up to a page break has the same elements in all sortings. -/
theorem take_mul_perm {size : ℕ} (hstrict : Strict key size xs) (hxs : Ascends key xs)
    (hys : Ascends key ys) (hperm : ys.Perm xs) (n : ℕ) :
    (ys.take (n * size)).Perm (xs.take (n * size)) := by
  by_cases hend : xs.length ≤ n * size
  · rw [List.take_of_length_le hend, List.take_of_length_le (by rw [hperm.length_eq]; exact hend)]
    exact hperm
  by_cases hzero : n * size = 0
  · rw [hzero, List.take_zero, List.take_zero]
  · obtain ⟨before, a, b, after, hbreak, hlength, hlt⟩ :=
      hstrict.neighbours (Nat.pos_of_ne_zero hzero) (not_le.mp hend)
    have hfront := take_perm hxs hys hperm hbreak hlt
    rwa [hlength] at hfront

/-- The pages of different sortings are complete when no tie crosses a page break. -/
theorem pages_perm_of_strict {size : ℕ} (hsize : 0 < size) (hstrict : Strict key size xs)
    (hxs : Ascends key xs) {lists : ℕ → List α}
    (hlists : ∀ n, Ascends key (lists n) ∧ (lists n).Perm xs) :
    (collected size lists xs.length).Perm xs := by
  have hslice : ∀ n, (slice size (lists n) n).Perm (slice size xs n) := by
    intro n
    obtain ⟨hasc, hperm⟩ := hlists n
    have hfront := take_mul_perm hstrict hxs hasc hperm n
    have hnext := take_mul_perm hstrict hxs hasc hperm (n + 1)
    rw [Nat.succ_mul, List.take_add, List.take_add] at hnext
    exact (List.perm_append_left_iff _).mp
      ((hfront.symm.append_right _).trans hnext)
  have hpages : (collected size lists xs.length).Perm
      ((List.range (pageCount xs.length size)).flatMap (slice size xs)) :=
    List.Perm.flatMap_left _ fun n _ => hslice n
  rwa [pages_eq hsize] at hpages

theorem getElem?_slice {size i : ℕ} (hi : i < size) (xs : List α) (n : ℕ) :
    (slice size xs n)[i]? = xs[n * size + i]? := by
  simp [slice, hi]

/-- Where a tie crosses a page break, the two pages can show one element twice. -/
theorem strict_of_complete {size : ℕ} (hsize : 0 < size) (hxs : Ascends key xs)
    (hnodup : xs.Nodup)
    (h : ∀ lists : ℕ → List α, (∀ n, Ascends key (lists n) ∧ (lists n).Perm xs) →
      (collected size lists xs.length).Perm xs) : Strict key size xs := by
  intro before a b after hbreak hdvd
  by_contra hnot
  obtain ⟨n, hn⟩ := hdvd
  rw [Nat.mul_comm] at hn
  obtain ⟨m, rfl⟩ : ∃ m, n = m + 1 := ⟨n - 1, by cases n <;> omega⟩
  -- the same list with the two neighbours exchanged
  let ys := before ++ b :: a :: after
  have hperm : ys.Perm xs := by
    rw [hbreak]
    exact (List.Perm.swap a b after).append_left before
  have hys : Ascends key ys := by
    have hasc : Ascends key (before ++ a :: b :: after) := hbreak ▸ hxs
    unfold Ascends at hasc ⊢
    simp only [ys, List.pairwise_append, List.pairwise_cons, List.mem_cons, forall_eq_or_imp]
      at hasc ⊢
    obtain ⟨hbefore, ⟨⟨-, ha⟩, hb, hafter⟩, hboth⟩ := hasc
    refine ⟨hbefore, ⟨⟨not_lt.mp hnot, hb⟩, ha, hafter⟩, fun c hc => ?_⟩
    exact ⟨(hboth c hc).2.1, (hboth c hc).1, (hboth c hc).2.2⟩
  have hpages := h (fun k => if k = m + 1 then ys else xs) fun k => by
    by_cases hk : k = m + 1
    · simp only [hk, if_true]
      exact ⟨hys, hperm⟩
    · simp only [hk, if_false]
      exact ⟨hxs, List.Perm.refl _⟩
  have hdisjoint := (List.nodup_flatMap.mp (hpages.nodup_iff.mpr hnodup)).2
  have hlength : (m + 1) * size < xs.length := by
    rw [hbreak, List.length_append, List.length_cons, List.length_cons]
    omega
  have hpage : m + 1 < pageCount xs.length size := (lt_pageCount_iff hsize).mpr hlength
  have hapart := List.pairwise_iff_getElem.mp hdisjoint m (m + 1)
    (by rw [List.length_range]; omega) (by rw [List.length_range]; exact hpage) (by omega)
  rw [List.getElem_range, List.getElem_range] at hapart
  refine hapart (a := a) ?_ ?_
  · show a ∈ slice size (if m = m + 1 then ys else xs) m
    rw [if_neg (by omega)]
    refine List.mem_of_getElem? (i := size - 1) ?_
    rw [Nat.succ_mul] at hn
    rw [getElem?_slice (by omega), hbreak, show m * size + (size - 1) = before.length by omega]
    simp
  · show a ∈ slice size (if m + 1 = m + 1 then ys else xs) (m + 1)
    rw [if_pos rfl]
    refine List.mem_of_getElem? (i := 0) ?_
    rw [getElem?_slice hsize, ← hn]
    simp [ys]

/-! ## Section 5: Where ties fall -/

/-- No page break lies between elements with equal keys: it would come after all elements with
smaller keys and before the last of those with the same key. -/
def TiesFit (key : α → κ) (size : ℕ) (xs : List α) : Prop :=
  ∀ a ∈ xs, ∀ n, ¬ (xs.countP (fun b => key b < key a) < n * size ∧
    n * size < xs.countP fun b => key b ≤ key a)

theorem tiesFit_congr {size : ℕ} (hperm : ys.Perm xs) :
    TiesFit key size ys ↔ TiesFit key size xs := by
  unfold TiesFit
  simp only [hperm.mem_iff, hperm.countP_eq]

/-- Elements that all tie fit on one page. -/
theorem tiesFit_const {k : κ} {size : ℕ} (hsize : 0 < size) :
    TiesFit (fun _ => k) size xs ↔ xs.length ≤ size := by
  unfold TiesFit
  simp only [lt_irrefl, decide_false, List.countP_false, Function.const_apply, le_refl,
    decide_true, List.countP_true]
  constructor
  · intro hfit
    by_contra hlong
    obtain ⟨a, ha⟩ := List.exists_mem_of_length_pos (l := xs) (by omega)
    exact hfit a ha 1 ⟨by omega, by omega⟩
  · intro hle a _ n hbetween
    have hn : 1 ≤ n := Nat.pos_of_mul_pos_right hbetween.1
    have hmul := Nat.mul_le_mul_right size hn
    omega

/-- Where every break is strict no group of ties lies on both sides of one: the neighbours at the
break are compared with the key of the tie. -/
theorem tiesFit_of_strict {size : ℕ} (hxs : Ascends key xs) (hstrict : Strict key size xs) :
    TiesFit key size xs := by
  intro a ha n hbetween
  obtain ⟨hless, hupto⟩ := hbetween
  have hcount := xs.countP_le_length (p := fun b => key b ≤ key a)
  obtain ⟨before, left, right, after, hbreak, hlength, hlt⟩ :=
    hstrict.neighbours (by omega) (lt_of_lt_of_le hupto hcount)
  have hsmaller := countP_break hxs hbreak hlt
  rw [hlength] at hsmaller
  -- the second neighbour's key is compared with the key of the tie
  rcases le_or_gt (key right) (key a) with hle | hgt
  · have hmono : xs.countP (fun c => key c < key right) ≤ xs.countP fun b => key b < key a :=
      List.countP_mono_left fun c _ hc =>
        decide_eq_true (lt_of_lt_of_le (of_decide_eq_true hc) hle)
    omega
  · have hmono : xs.countP (fun b => key b ≤ key a) ≤ xs.countP fun c => key c < key right :=
      List.countP_mono_left fun c _ hc =>
        decide_eq_true (lt_of_le_of_lt (of_decide_eq_true hc) hgt)
    omega

/-- Equal neighbours at a break are a tie that does not fit. -/
theorem strict_of_tiesFit {size : ℕ} (hxs : Ascends key xs) (hfit : TiesFit key size xs) :
    Strict key size xs := by
  intro before a b after hbreak hdvd
  obtain ⟨n, hn⟩ := hdvd
  have hsplit := List.pairwise_append.mp
    (hbreak ▸ hxs : Ascends key (before ++ a :: b :: after))
  have hle : key a ≤ key b :=
    (List.pairwise_cons.mp hsplit.2.1).1 b List.mem_cons_self
  refine lt_of_le_of_ne hle fun heq => ?_
  have hrest := (List.pairwise_cons.mp hsplit.2.1).1
  refine hfit a (hbreak ▸ List.mem_append_right _ List.mem_cons_self) n ⟨?_, ?_⟩
  · -- only the elements before can have smaller keys
    have hafter : (a :: b :: after).countP (fun c => key c < key a) = 0 := by
      rw [List.countP_eq_zero]
      intro c hc
      rcases List.mem_cons.mp hc with rfl | hc
      · simp
      · simpa using hrest c hc
    have hbefore := before.countP_le_length (p := fun c => key c < key a)
    rw [hbreak, List.countP_append, hafter, Nat.mul_comm, ← hn]
    omega
  · -- and all of them have keys that are no larger
    have hbefore : before.countP (fun c => key c ≤ key a) = before.length := by
      rw [List.countP_eq_length]
      intro c hc
      exact decide_eq_true (hsplit.2.2 c hc a List.mem_cons_self)
    rw [hbreak, List.countP_append, List.countP_cons, List.countP_cons, hbefore,
      Nat.mul_comm, ← hn]
    simp [heq]

/-- In a sorted list, the neighbours at a page break are where a tie would be. -/
theorem strict_iff_tiesFit {size : ℕ} (hxs : Ascends key xs) :
    Strict key size xs ↔ TiesFit key size xs :=
  ⟨tiesFit_of_strict hxs, strict_of_tiesFit hxs⟩

/-- Reading the pages one after another is complete, however the ties fall, exactly when no tie
crosses a page break. -/
theorem complete_iff_tiesFit {size : ℕ} (hsize : 0 < size) (hxs : Ascends key xs)
    (hnodup : xs.Nodup) :
    (∀ lists : ℕ → List α, (∀ n, Ascends key (lists n) ∧ (lists n).Perm xs) →
      (collected size lists xs.length).Perm xs) ↔ TiesFit key size xs := by
  rw [← strict_iff_tiesFit hxs]
  constructor
  · exact strict_of_complete hsize hxs hnodup
  · intro hstrict lists hlists
    exact pages_perm_of_strict hsize hstrict hxs hlists

end Sorted

end OffsetPages

end AyushOms.Lib
