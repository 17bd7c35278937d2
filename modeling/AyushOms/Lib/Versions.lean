import Mathlib.Algebra.BigOperators.Group.List.Basic
import Mathlib.Data.List.Induction
import Mathlib.Data.List.Nodup

/-!
# Versions of an Entry

An append-only history never changes an entry: a later entry replaces it. Followed from an
original, the replacements lead to its last version. When every replacement names an entry of
the history that nothing has replaced yet, the last versions of the originals are exactly the
entries that nothing replaces, each of them once.

## Main results

- `Versioned.lastVersion_perm`: the last versions are the entries nothing replaces
- `Versioned.sum_lastVersion`: a sum over last versions, read off the history
-/

namespace AyushOms.Lib

variable {α ι β : Type*} (id : α → ι) (replaces : α → Option ι)

/-! ## Section 1: Following replacements -/

/-- The version an entry has come to by the end of a history that lists replacements after
what they replace. -/
def lastVersion [DecidableEq ι] (h : List α) (a : α) : α :=
  h.foldl (fun v b => if replaces b = some (id v) then b else v) a

/-- Nothing in the history replaces this entry. -/
def Unreplaced (h : List α) (a : α) : Prop := ∀ b ∈ h, replaces b ≠ some (id a)

instance [DecidableEq ι] (h : List α) (a : α) : Decidable (Unreplaced id replaces h a) :=
  inferInstanceAs (Decidable (∀ b ∈ h, replaces b ≠ some (id a)))

/-- Histories built by appending originals, and replacements of entries that nothing has
replaced. -/
inductive Versioned : List α → Prop where
  | nil : Versioned []
  | original {h : List α} {a : α} : Versioned h → replaces a = none → (∀ b ∈ h, id b ≠ id a) →
      Versioned (h ++ [a])
  | replacement {h : List α} {a t : α} : Versioned h → t ∈ h → replaces a = some (id t) →
      Unreplaced id replaces h t → (∀ b ∈ h, id b ≠ id a) → Versioned (h ++ [a])

variable {id replaces} {h : List α}

/-- The last entry of a history replaces the last version of the others, or leaves it. -/
theorem lastVersion_concat [DecidableEq ι] (h : List α) (a b : α) :
    lastVersion id replaces (h ++ [b]) a =
      if replaces b = some (id (lastVersion id replaces h a)) then b
      else lastVersion id replaces h a := by
  rw [lastVersion, List.foldl_append]
  rfl

/-- An entry nothing replaces is its own last version. -/
theorem lastVersion_of_unreplaced [DecidableEq ι] {a : α} (ha : Unreplaced id replaces h a) :
    lastVersion id replaces h a = a := by
  induction h using List.reverseRecOn with
  | nil => rfl
  | append_singleton h b ih =>
    have hold : Unreplaced id replaces h a := fun c hc => ha c (List.mem_append_left _ hc)
    rw [lastVersion_concat, ih hold, if_neg (ha b (by simp))]

/-- The last version is an entry of the history. -/
theorem lastVersion_mem [DecidableEq ι] {a : α} (ha : a ∈ h) : lastVersion id replaces h a ∈ h := by
  have hmem : ∀ l : List α, lastVersion id replaces l a ∈ a :: l := by
    intro l
    induction l using List.reverseRecOn with
    | nil => exact List.mem_singleton_self a
    | append_singleton l b ih =>
      rw [lastVersion_concat]
      split
      · simp
      · exact (List.mem_cons.mp ih).elim (fun heq => by simp [heq]) fun hl => by simp [hl]
  rcases List.mem_cons.mp (hmem h) with heq | hh
  · rw [heq]
    exact ha
  · exact hh

/-- What every replacement keeps is the same in the last version. -/
theorem lastVersion_keeps [DecidableEq ι] (f : α → β)
    (hkeeps : ∀ b ∈ h, ∀ t ∈ h, replaces b = some (id t) → f b = f t) {a : α} (ha : a ∈ h) :
    f (lastVersion id replaces h a) = f a := by
  -- the last version of a part of the history is already one of the whole
  have hpart : ∀ l : List α, l ⊆ h → f (lastVersion id replaces l a) = f a ∧
      lastVersion id replaces l a ∈ h := by
    intro l
    induction l using List.reverseRecOn with
    | nil => exact fun _ => ⟨rfl, ha⟩
    | append_singleton l b ih =>
      intro hl
      obtain ⟨hf, hmem⟩ := ih fun c hc => hl (List.mem_append_left _ hc)
      have hb : b ∈ h := hl (by simp)
      rw [lastVersion_concat]
      split
      · rename_i hr
        exact ⟨(hkeeps b hb _ hmem hr).trans hf, hb⟩
      · exact ⟨hf, hmem⟩
  exact (hpart h (List.Subset.refl h)).1

namespace Versioned

/-! ## Section 2: What replaces what -/

/-- What an entry replaces is an entry of the history. -/
theorem exists_replaced (hv : Versioned id replaces h) {a : α} {i : ι} (ha : a ∈ h)
    (hr : replaces a = some i) : ∃ t ∈ h, id t = i := by
  induction hv with
  | nil => cases ha
  | original _ hfirst _ ih =>
    rcases List.mem_append.mp ha with hold | hnew
    · obtain ⟨t, ht, hid⟩ := ih hold
      exact ⟨t, List.mem_append_left _ ht, hid⟩
    · rw [List.mem_singleton.mp hnew, hfirst] at hr
      cases hr
  | @replacement h b t _ ht hreplaces _ _ ih =>
    rcases List.mem_append.mp ha with hold | hnew
    · obtain ⟨t', ht', hid⟩ := ih hold
      exact ⟨t', List.mem_append_left _ ht', hid⟩
    · rw [List.mem_singleton.mp hnew, hreplaces] at hr
      exact ⟨t, List.mem_append_left _ ht, Option.some.inj hr⟩

/-- Nothing replaces an entry that is not in the history yet. -/
theorem unreplaced_of_fresh (hv : Versioned id replaces h) {a : α}
    (hfresh : ∀ b ∈ h, id b ≠ id a) : Unreplaced id replaces h a := by
  intro b hb hr
  obtain ⟨t, ht, hid⟩ := hv.exists_replaced hb hr
  exact hfresh t ht hid

/-- Entries have different ids. -/
theorem nodup_ids (hv : Versioned id replaces h) : (h.map id).Nodup := by
  have hconcat : ∀ {h : List α} {a : α}, (h.map id).Nodup → (∀ b ∈ h, id b ≠ id a) →
      ((h ++ [a]).map id).Nodup := by
    intro h a hnd hfresh
    rw [List.map_append]
    refine hnd.append (List.nodup_singleton _) (List.disjoint_singleton.mpr fun hmem => ?_)
    obtain ⟨b, hb, hid⟩ := List.mem_map.mp hmem
    exact hfresh b hb hid
  induction hv with
  | nil => exact List.nodup_nil
  | original _ _ hfresh ih => exact hconcat ih hfresh
  | replacement _ _ _ _ hfresh ih => exact hconcat ih hfresh

/-- An entry is determined by its id. -/
theorem id_injective (hv : Versioned id replaces h) {a b : α} (ha : a ∈ h) (hb : b ∈ h)
    (heq : id a = id b) : a = b :=
  List.inj_on_of_nodup_map hv.nodup_ids ha hb heq

/-! ## Section 3: The last versions -/

section Perm

variable [DecidableEq α] [DecidableEq ι]

/-- One entry of a list without repetitions, exchanged for another. -/
theorem map_exchange_perm {l : List α} {t a : α} (hnd : l.Nodup) (ht : t ∈ l) :
    (l.map fun v => if v = t then a else v).Perm (l.erase t ++ [a]) := by
  induction l with
  | nil => cases ht
  | cons b l ih =>
    obtain ⟨hb, hnd⟩ := List.nodup_cons.mp hnd
    by_cases hbt : b = t
    · subst hbt
      -- the others are not the entry that is exchanged
      have hsame : (l.map fun v => if v = b then a else v) = l := by
        refine (List.map_congr_left fun v hv => ?_).trans (List.map_id l)
        refine if_neg fun heq => hb ?_
        rw [← heq]
        exact hv
      rw [List.map_cons, if_pos rfl, hsame, List.erase_cons_head]
      show ([a] ++ l).Perm (l ++ [a])
      exact List.perm_append_comm
    · have hl : t ∈ l := (List.mem_cons.mp ht).resolve_left (Ne.symm hbt)
      rw [List.map_cons, if_neg hbt, List.erase_cons_tail (by simpa using hbt)]
      exact (ih hnd hl).cons b

/-- The last versions of the originals are the entries nothing replaces, each once. -/
theorem lastVersion_perm (hv : Versioned id replaces h) :
    ((h.filter fun a => replaces a = none).map (lastVersion id replaces h)).Perm
      (h.filter fun a => Unreplaced id replaces h a) := by
  induction hv with
  | nil => exact List.Perm.refl _
  | @original h a hv hfirst hfresh ih =>
    have hself : Unreplaced id replaces (h ++ [a]) a := by
      intro b hb
      rcases List.mem_append.mp hb with hold | hnew
      · exact hv.unreplaced_of_fresh hfresh b hold
      · rw [List.mem_singleton.mp hnew, hfirst]
        simp
    have hothers : ∀ b, Unreplaced id replaces (h ++ [a]) b ↔ Unreplaced id replaces h b := by
      simp [Unreplaced, or_imp, forall_and, hfirst]
    have hlast : lastVersion id replaces (h ++ [a]) = lastVersion id replaces h :=
      funext fun b => by rw [lastVersion_concat, hfirst, if_neg (by simp)]
    -- the new original is a version of its own
    rw [List.filter_append, List.filter_append, List.map_append]
    simp only [hothers]
    refine List.Perm.append ?_ ?_
    · rw [hlast]
      exact ih
    · simp [hfirst, (hothers a).mp hself, lastVersion_of_unreplaced hself]
  | @replacement h a t hv ht hreplaces hlatest hfresh ih =>
    have hnew : Unreplaced id replaces (h ++ [a]) a := by
      intro b hb hr
      rcases List.mem_append.mp hb with hold | hown
      · exact hv.unreplaced_of_fresh hfresh b hold hr
      · rw [List.mem_singleton.mp hown, hreplaces] at hr
        exact hfresh t ht (Option.some.inj hr)
    have hothers : ∀ b ∈ h, Unreplaced id replaces (h ++ [a]) b ↔
        Unreplaced id replaces h b ∧ b ≠ t := by
      intro b hb
      have hne : id t ≠ id b ↔ b ≠ t :=
        not_congr ⟨fun heq => (hv.id_injective ht hb heq).symm, fun heq => by rw [heq]⟩
      simp [Unreplaced, or_imp, forall_and, hreplaces, hne]
    -- of the last versions, the one that is replaced gives way to the new entry
    have hlast : ∀ b ∈ h, lastVersion id replaces (h ++ [a]) b =
        if lastVersion id replaces h b = t then a else lastVersion id replaces h b := by
      intro b hb
      rw [lastVersion_concat, hreplaces]
      refine if_congr ?_ rfl rfl
      rw [Option.some_inj]
      exact ⟨fun heq => (hv.id_injective ht (lastVersion_mem hb) heq).symm, fun heq => by rw [heq]⟩
    have hnd : (h.filter fun b => Unreplaced id replaces h b).Nodup :=
      (List.Nodup.of_map id hv.nodup_ids).filter _
    have hmem : t ∈ h.filter fun b => Unreplaced id replaces h b :=
      List.mem_filter.mpr ⟨ht, by simpa using hlatest⟩
    have hleft : ((h ++ [a]).filter fun b => replaces b = none).map
        (lastVersion id replaces (h ++ [a])) =
        ((h.filter fun b => replaces b = none).map (lastVersion id replaces h)).map
          fun v => if v = t then a else v := by
      rw [List.filter_append, List.filter_singleton, hreplaces]
      simp only [reduceCtorEq, decide_false, cond_false, List.append_nil, List.map_map]
      exact List.map_congr_left fun b hb => hlast b (List.mem_filter.mp hb).1
    have hright : (h ++ [a]).filter (fun b => Unreplaced id replaces (h ++ [a]) b) =
        (h.filter fun b => Unreplaced id replaces h b).erase t ++ [a] := by
      rw [List.filter_append, hnd.erase_eq_filter, List.filter_filter]
      refine congrArg₂ (· ++ ·) (List.filter_congr fun b hb => ?_) (by simp [hnew])
      simp only [hothers b hb]
      by_cases hbt : b = t
      · simp [hbt]
      · simp [hbt]
    rw [hleft, hright]
    exact ((ih.map _).trans (map_exchange_perm hnd hmem))

end Perm

/-- A sum over the last versions of a kind is the sum over the entries of that kind that
nothing replaces. -/
theorem sum_lastVersion [DecidableEq α] [DecidableEq ι] [AddCommMonoid β]
    (hv : Versioned id replaces h) (p : α → Prop) [DecidablePred p] (w : α → β) :
    ((h.filter fun a => replaces a = none ∧ p (lastVersion id replaces h a)).map
      fun a => w (lastVersion id replaces h a)).sum =
      ((h.filter fun a => p a ∧ Unreplaced id replaces h a).map w).sum := by
  have hperm := ((hv.lastVersion_perm.filter fun a => decide (p a)).map w).sum_eq
  rw [List.filter_map, List.map_map, List.filter_filter, List.filter_filter] at hperm
  calc _ = _ := by
        simp [Function.comp_def, Bool.and_comm]
    _ = _ := hperm
    _ = _ := by simp

end Versioned

end AyushOms.Lib
