import Mathlib.Algebra.BigOperators.Group.List.Basic
import Mathlib.Data.List.Induction
import Mathlib.Data.List.Nodup
import Mathlib.Tactic.Abel

/-!
# Histories Corrected by Reversal

An append-only history never changes an entry: an entry is taken back by a later one that
reverses it. A history is *linear* when every reversing entry points at an earlier entry
that is no reversal itself and that nothing else reverses. Over a linear history, any
quantity that a reversing entry negates adds up, over all entries, to what the entries left
standing add up to.

## Main results

- `Linear.sum_eq_sum_standing`: the total over all entries is the total over the standing ones
-/

namespace AyushOms.Lib

variable {α ι β : Type*} (id : α → ι) (reverses : α → Option ι)

/-- Histories built by appending plain entries and reversals of standing entries. -/
inductive Linear : List α → Prop where
  | nil : Linear []
  | plain {h : List α} {a : α} : Linear h → reverses a = none → (∀ b ∈ h, id b ≠ id a) →
      Linear (h ++ [a])
  | reversal {h : List α} {a t : α} : Linear h → t ∈ h → reverses t = none →
      reverses a = some (id t) → (∀ b ∈ h, reverses b ≠ some (id t)) →
      (∀ b ∈ h, id b ≠ id a) → Linear (h ++ [a])

/-- Some entry of the history reverses this one. -/
def Reversed (h : List α) (a : α) : Prop := ∃ b ∈ h, reverses b = some (id a)

instance [DecidableEq ι] (h : List α) (a : α) : Decidable (Reversed id reverses h a) :=
  inferInstanceAs (Decidable (∃ b ∈ h, reverses b = some (id a)))

/-- An entry that reverses nothing and that nothing reverses. -/
def Standing (h : List α) (a : α) : Prop := reverses a = none ∧ ¬ Reversed id reverses h a

instance [DecidableEq ι] (h : List α) (a : α) : Decidable (Standing id reverses h a) :=
  inferInstanceAs (Decidable (_ ∧ _))

variable {id reverses}

theorem reversed_concat {h : List α} {a b : α} :
    Reversed id reverses (h ++ [a]) b ↔
      Reversed id reverses h b ∨ reverses a = some (id b) := by
  simp [Reversed, or_and_right, exists_or]

namespace Linear

variable {h : List α}

/-- Ids are not used twice. -/
theorem id_injective (hl : Linear id reverses h) {a b : α} (ha : a ∈ h) (hb : b ∈ h)
    (heq : id a = id b) : a = b := by
  induction hl with
  | nil => cases ha
  | plain _ _ hfresh ih =>
    simp only [List.mem_append, List.mem_singleton] at ha hb
    rcases ha with ha | rfl <;> rcases hb with hb | rfl
    · exact ih ha hb
    · exact absurd heq (hfresh a ha)
    · exact absurd heq.symm (hfresh b hb)
    · rfl
  | reversal _ _ _ _ _ hfresh ih =>
    simp only [List.mem_append, List.mem_singleton] at ha hb
    rcases ha with ha | rfl <;> rcases hb with hb | rfl
    · exact ih ha hb
    · exact absurd heq (hfresh a ha)
    · exact absurd heq.symm (hfresh b hb)
    · rfl

/-- What an entry reverses is an entry of the history, and no reversal itself. -/
theorem exists_target (hl : Linear id reverses h) {a : α} {i : ι} (ha : a ∈ h)
    (hr : reverses a = some i) : ∃ t ∈ h, id t = i ∧ reverses t = none := by
  induction hl with
  | nil => cases ha
  | plain _ hplain _ ih =>
    simp only [List.mem_append, List.mem_singleton] at ha
    rcases ha with ha | rfl
    · obtain ⟨t, ht, hrest⟩ := ih ha
      exact ⟨t, List.mem_append_left _ ht, hrest⟩
    · rw [hplain] at hr
      cases hr
  | @reversal _ _ t _ ht htplain hra _ _ ih =>
    simp only [List.mem_append, List.mem_singleton] at ha
    rcases ha with ha | rfl
    · obtain ⟨t', ht', hrest⟩ := ih ha
      exact ⟨t', List.mem_append_left _ ht', hrest⟩
    · rw [hra] at hr
      cases hr
      exact ⟨t, List.mem_append_left _ ht, rfl, htplain⟩

/-- Nothing reverses an entry that is not in the history yet. -/
theorem not_reversed_of_fresh (hl : Linear id reverses h) {a : α} (hfresh : ∀ b ∈ h, id b ≠ id a) :
    ¬ Reversed id reverses h a := by
  rintro ⟨b, hb, hr⟩
  obtain ⟨t, ht, hid, _⟩ := hl.exists_target hb hr
  exact hfresh t ht hid

/-- A reversal is never reversed. -/
theorem not_reversed_of_reverses (hl : Linear id reverses h) {a : α} (ha : a ∈ h)
    (hr : reverses a ≠ none) : ¬ Reversed id reverses h a := by
  rintro ⟨b, hb, hrb⟩
  obtain ⟨t, ht, hid, hplain⟩ := hl.exists_target hb hrb
  rw [hl.id_injective ht ha hid] at hplain
  exact hr hplain

/-- At most one entry reverses any other. -/
theorem reversal_unique [DecidableEq ι] (hl : Linear id reverses h) (i : ι) :
    (h.filter fun a => reverses a = some i).length ≤ 1 := by
  induction hl with
  | nil => simp
  | plain _ hplain _ ih => simpa [hplain] using ih
  | @reversal h a t _ _ _ hra hnone _ ih =>
    rw [List.filter_append, List.length_append]
    by_cases hi : i = id t
    · subst hi
      -- nothing reversed the target so far
      have hempty : h.filter (fun b => reverses b = some (id t)) = [] := by
        simpa using hnone
      simp [hempty, hra]
    · have hne : ¬ id t = i := fun heq => hi heq.symm
      simpa [hra, hne] using ih

/-- An entry that comes in reversing nothing stands, and all others stand as before. -/
theorem standing_plain (hl : Linear id reverses h) {a : α} (hplain : reverses a = none)
    (hfresh : ∀ b ∈ h, id b ≠ id a) :
    Standing id reverses (h ++ [a]) a ∧
      ∀ b, Standing id reverses (h ++ [a]) b ↔ Standing id reverses h b := by
  have hsame : ∀ b, Reversed id reverses (h ++ [a]) b ↔ Reversed id reverses h b := by
    intro b
    rw [reversed_concat, hplain]
    simp
  refine ⟨⟨hplain, ?_⟩, fun b => and_congr_right fun _ => not_congr (hsame b)⟩
  rw [hsame]
  exact hl.not_reversed_of_fresh hfresh

/-- A reversal does not stand; its target stands no longer, and all others as before. -/
theorem standing_reversal {a t : α} (hra : reverses a = some (id t)) :
    ¬ Standing id reverses (h ++ [a]) a ∧ ¬ Standing id reverses (h ++ [a]) t ∧
      ∀ b, id b ≠ id t → (Standing id reverses (h ++ [a]) b ↔ Standing id reverses h b) := by
  refine ⟨fun hs => ?_, fun hs => ?_, fun b hne => and_congr_right fun _ => not_congr ?_⟩
  · rw [hs.1] at hra
    cases hra
  · exact hs.2 (reversed_concat.mpr (.inr hra))
  · rw [reversed_concat, hra]
    simp [hne.symm]

section Sums

variable [AddCommGroup β] {w : α → β}

open Classical in
/-- A sum changes by what changes at its one different entry. -/
theorem sum_map_eq_add_sub {l : List α} {f g : α → β} {t : α} (hnd : l.Nodup) (ht : t ∈ l)
    (heq : ∀ a ∈ l, a ≠ t → f a = g a) : (l.map f).sum = (l.map g).sum + (f t - g t) := by
  have hrest : (l.erase t).map f = (l.erase t).map g := by
    refine List.map_congr_left fun a ha => ?_
    obtain ⟨hne, hmem⟩ := (hnd.mem_erase_iff).mp ha
    exact heq a hmem hne
  rw [← List.sum_map_erase f ht, ← List.sum_map_erase g ht, hrest]
  abel

/-- Entries are not repeated. -/
theorem nodup (hl : Linear id reverses h) : h.Nodup := by
  have hconcat : ∀ {h : List α} {a : α}, h.Nodup → (∀ b ∈ h, id b ≠ id a) →
      (h ++ [a]).Nodup := by
    intro h a hnd hfresh
    refine hnd.append (List.nodup_singleton a) (List.disjoint_singleton.mpr fun hmem => ?_)
    exact hfresh a hmem rfl
  induction hl with
  | nil => exact List.nodup_nil
  | plain _ _ hfresh ih => exact hconcat ih hfresh
  | reversal _ _ _ _ _ hfresh ih => exact hconcat ih hfresh

/-- The total over all entries is the total over the standing ones, for every quantity that a
reversal negates. -/
theorem sum_eq_sum_standing [DecidableEq ι] (hl : Linear id reverses h)
    (hw : ∀ a ∈ h, ∀ t ∈ h, reverses a = some (id t) → w a = -w t) :
    (h.map w).sum = ((h.filter fun a => Standing id reverses h a).map w).sum := by
  have hfilter : ∀ h : List α, ((h.filter fun a => Standing id reverses h a).map w).sum =
      (h.map fun a => if Standing id reverses h a then w a else 0).sum := by
    intro h
    rw [List.sum_map_ite]
    simp
  rw [hfilter]
  induction hl with
  | nil => rfl
  | @plain h a hl hplain hfresh ih =>
    obtain ⟨hself, hothers⟩ := hl.standing_plain hplain hfresh
    have hw' : ∀ b ∈ h, ∀ t ∈ h, reverses b = some (id t) → w b = -w t :=
      fun b hb t ht => hw b (List.mem_append_left _ hb) t (List.mem_append_left _ ht)
    simp only [List.map_append, List.sum_append, List.map_singleton, List.sum_singleton,
      hothers, if_pos ((hothers a).mp hself)]
    rw [ih hw']
  | @reversal h a t hl ht htplain hra hnone hfresh ih =>
    obtain ⟨hself, htarget, hothers⟩ := standing_reversal (h := h) hra
    have hw' : ∀ b ∈ h, ∀ t ∈ h, reverses b = some (id t) → w b = -w t :=
      fun b hb t ht => hw b (List.mem_append_left _ hb) t (List.mem_append_left _ ht)
    have hnegates : w a = -w t :=
      hw a (by simp) t (List.mem_append_left _ ht) hra
    have hstands : Standing id reverses h t := ⟨htplain, fun ⟨b, hb, hr⟩ => hnone b hb hr⟩
    -- the target leaves the standing entries, and the reversal takes its amount off the total
    have hmove : (h.map fun b => if Standing id reverses (h ++ [a]) b then w b else 0).sum =
        (h.map fun b => if Standing id reverses h b then w b else 0).sum +
          ((if Standing id reverses (h ++ [a]) t then w t else 0) -
            if Standing id reverses h t then w t else 0) := by
      refine sum_map_eq_add_sub hl.nodup ht fun b hb hne => ?_
      have hid : id b ≠ id t := fun heq => hne (hl.id_injective hb ht heq)
      simp only [hothers b hid]
    rw [List.map_append, List.sum_append, List.map_append, List.sum_append, hmove, ih hw']
    simp only [if_neg hself, if_neg htarget, if_pos hstands, List.map_singleton,
      List.sum_singleton, hnegates]
    abel

/-- The same over the entries of one kind, when a reversal is of the kind of its target. -/
theorem sum_filter_eq_sum_standing [DecidableEq ι] (hl : Linear id reverses h) (p : α → Prop)
    [DecidablePred p]
    (hp : ∀ a ∈ h, ∀ t ∈ h, reverses a = some (id t) → (p a ↔ p t))
    (hw : ∀ a ∈ h, ∀ t ∈ h, reverses a = some (id t) → w a = -w t) :
    ((h.filter fun a => p a).map w).sum =
      ((h.filter fun a => p a ∧ Standing id reverses h a).map w).sum := by
  have hkind : ∀ l : List α, ((l.filter fun a => p a).map w).sum =
      (l.map fun a => if p a then w a else 0).sum := by
    intro l
    rw [List.sum_map_ite]
    simp
  rw [hkind, hl.sum_eq_sum_standing, ← hkind, List.filter_filter]
  · simp only [Bool.decide_and]
  · intro a ha t ht hr
    by_cases hkindt : p t
    · rw [if_pos hkindt, if_pos ((hp a ha t ht hr).mpr hkindt), hw a ha t ht hr]
    · rw [if_neg hkindt, if_neg fun hpa => hkindt ((hp a ha t ht hr).mp hpa), neg_zero]

end Sums

end Linear

end AyushOms.Lib
