import Mathlib.Data.Finset.SDiff
import Mathlib.Data.List.Nodup

/-!
# Labels that Exclude Each Other

A table gives keys their labels, no two keys the same one. A set of tags shows a key when it has
the label of that key and no other label of the table. Adding the label of a key and removing
all others makes the set show that key whatever it was before, which is why it repairs what
earlier, half-finished changes have left.

## Main results

- `labelled_relabel`: two disjoint tables, relabelled together
-/

namespace AyushOms.Lib

variable {κ κ' ℓ : Type*} [DecidableEq κ] [DecidableEq κ']

/-- The label of a key, when the table has one. -/
def ownLabel (table : List (κ × ℓ)) (k : κ) : List ℓ := (table.lookup k).toList

/-- The labels of all other keys. -/
def otherLabels (table : List (κ × ℓ)) (k : κ) : List ℓ :=
  (table.filter fun p => p.1 != k).map (·.2)

/-- Of the labels of the table the tags have exactly the one of this key; none, when the table
gives it none. -/
def Labelled (table : List (κ × ℓ)) (k : κ) (tags : Finset ℓ) : Prop :=
  ∀ p ∈ table, p.2 ∈ tags ↔ p.1 = k

section Tables

variable {table : List (κ × ℓ)} {k : κ}

theorem mem_of_mem_ownLabel {label : ℓ} (h : label ∈ ownLabel table k) : (k, label) ∈ table := by
  rw [ownLabel, Option.mem_toList, List.lookup_eq_some_iff] at h
  obtain ⟨before, after, heq, -⟩ := h
  simp [heq]

theorem mem_map_of_mem_otherLabels {label : ℓ} (h : label ∈ otherLabels table k) :
    label ∈ table.map (·.2) :=
  List.map_subset _ (List.filter_subset_self _) h

/-- The own label is there when the key is in the table. -/
theorem mem_ownLabel_of_mem (hkeys : (table.map (·.1)).Nodup) {p : κ × ℓ} (hp : p ∈ table) :
    p.2 ∈ ownLabel table p.1 := by
  obtain ⟨before, after, rfl⟩ := List.append_of_mem hp
  rw [ownLabel, Option.mem_toList, List.lookup_eq_some_iff]
  refine ⟨before, after, rfl, fun q hq => ?_⟩
  -- an earlier entry with this key would repeat it
  have hne : q.1 ≠ p.1 := by
    rw [List.map_append, List.map_cons, List.nodup_append] at hkeys
    exact hkeys.2.2 q.1 (List.mem_map_of_mem hq) p.1 (by simp)
  simpa using hne.symm

variable (hkeys : (table.map (·.1)).Nodup) (hlabels : (table.map (·.2)).Nodup)
include hlabels

theorem label_mem_otherLabels_iff {p : κ × ℓ} (hp : p ∈ table) :
    p.2 ∈ otherLabels table k ↔ p.1 ≠ k := by
  simp only [otherLabels, List.mem_map, List.mem_filter, bne_iff_ne]
  constructor
  · intro h
    obtain ⟨q, ⟨hq, hne⟩, heq⟩ := h
    rw [List.inj_on_of_nodup_map hlabels hp hq heq.symm]
    exact hne
  · intro hne
    exact ⟨p, ⟨hp, hne⟩, rfl⟩

include hkeys

theorem label_mem_ownLabel_iff {p : κ × ℓ} (hp : p ∈ table) :
    p.2 ∈ ownLabel table k ↔ p.1 = k := by
  constructor
  · intro h
    have hentry : (k, p.2) ∈ table := mem_of_mem_ownLabel h
    rw [List.inj_on_of_nodup_map hlabels hp hentry rfl]
  · intro h
    rw [← h]
    exact mem_ownLabel_of_mem hkeys hp

end Tables

/-- Adding the labels of two keys, each of its own table, and removing all other labels of the
tables. -/
def relabel [DecidableEq ℓ] (table : List (κ × ℓ)) (k : κ) (table' : List (κ' × ℓ)) (k' : κ')
    (tags : Finset ℓ) : Finset ℓ :=
  (tags ∪ (ownLabel table k ++ ownLabel table' k').toFinset) \
    (otherLabels table k ++ otherLabels table' k').toFinset

section Settle

variable [DecidableEq ℓ] {table : List (κ × ℓ)} {table' : List (κ' × ℓ)} {k : κ} {k' : κ'}
  (hkeys : (table.map (·.1)).Nodup) (hkeys' : (table'.map (·.1)).Nodup)
  (hlabels : (table.map (·.2) ++ table'.map (·.2)).Nodup)
include hkeys hkeys' hlabels

/-- Whatever the tags were, they show both keys afterwards. -/
theorem labelled_relabel (tags : Finset ℓ) :
    Labelled table k (relabel table k table' k' tags) ∧
      Labelled table' k' (relabel table k table' k' tags) := by
  obtain ⟨hl, hl', hdisjoint⟩ := List.nodup_append.mp hlabels
  constructor
  · intro p hp
    -- no label of the other table is added or removed in its place
    have hown : p.2 ∉ ownLabel table' k' := fun h => hdisjoint p.2 (List.mem_map_of_mem hp) p.2
      (List.mem_map_of_mem (f := (·.2)) (mem_of_mem_ownLabel h)) rfl
    have hothers : p.2 ∉ otherLabels table' k' := fun h =>
      hdisjoint p.2 (List.mem_map_of_mem hp) p.2 (mem_map_of_mem_otherLabels h) rfl
    simp only [relabel, Finset.mem_sdiff, Finset.mem_union, List.mem_toFinset, List.mem_append,
      label_mem_ownLabel_iff hkeys hl hp, label_mem_otherLabels_iff hl hp, hown, hothers, or_false,
      not_not]
    exact and_iff_right_of_imp .inr
  · intro p hp
    have hown : p.2 ∉ ownLabel table k := fun h =>
      hdisjoint p.2 (List.mem_map_of_mem (f := (·.2)) (mem_of_mem_ownLabel h)) p.2
        (List.mem_map_of_mem hp) rfl
    have hothers : p.2 ∉ otherLabels table k := fun h =>
      hdisjoint p.2 (mem_map_of_mem_otherLabels h) p.2 (List.mem_map_of_mem hp) rfl
    simp only [relabel, Finset.mem_sdiff, Finset.mem_union, List.mem_toFinset, List.mem_append,
      label_mem_ownLabel_iff hkeys' hl' hp, label_mem_otherLabels_iff hl' hp, hown, hothers,
      false_or, not_not]
    exact and_iff_right_of_imp .inr

end Settle

end AyushOms.Lib
