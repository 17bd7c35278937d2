import Mathlib.Data.List.Perm.Basic
import Mathlib.Data.List.Nodup

/-!
# Dictionaries of Lists

A dictionary whose values are lists, kept in the order in which its keys were first used, as
loops build one to group the elements of a list: `setdefault(k, []).append(x)` for each element,
`pop(k, [])` to take a group out. No element is lost or doubled on the way, and each bucket holds
the elements of its key in the order of the list.

## Main results

- `bucket_bucketBy`: a bucket is the elements of its key
- `values_bucketBy_perm`, `bucket_append_values_without`: nothing is lost or doubled
- `Keyed.values_without`: what is left are the elements of the other keys
-/

namespace AyushOms.Lib

variable {α κ : Type*} [DecidableEq κ]

/-- A dictionary of lists. -/
abbrev Buckets (κ α : Type*) := List (κ × List α)

namespace Buckets

/-! ## Section 1: Operations -/

/-- `buckets.setdefault(k, []).append(a)`. -/
def add (k : κ) (a : α) : Buckets κ α → Buckets κ α
  | [] => [(k, [a])]
  | (k', as) :: rest => if k' = k then (k', as ++ [a]) :: rest else (k', as) :: add k a rest

/-- What `buckets.pop(k, [])` returns. -/
def bucket (k : κ) : Buckets κ α → List α
  | [] => []
  | (k', as) :: rest => if k' = k then as else bucket k rest

/-- What `buckets.pop(k, [])` leaves. -/
def without (k : κ) : Buckets κ α → Buckets κ α
  | [] => []
  | (k', as) :: rest => if k' = k then rest else (k', as) :: without k rest

omit [DecidableEq κ] in
/-- The elements, bucket after bucket. -/
def values (b : Buckets κ α) : List α := b.flatMap Prod.snd

/-- The elements of a list, by their keys. -/
def bucketBy (key : α → κ) (xs : List α) : Buckets κ α :=
  xs.foldl (fun b x => b.add (key x) x) []

/-! ## Section 2: Nothing is lost or doubled -/

theorem values_add_perm (k : κ) (a : α) (b : Buckets κ α) :
    (b.add k a).values.Perm (b.values ++ [a]) := by
  induction b with
  | nil => exact List.Perm.refl _
  | cons e rest ih =>
    obtain ⟨k', as⟩ := e
    rw [add]
    split
    · calc (as ++ [a]) ++ rest.flatMap Prod.snd
          = as ++ ([a] ++ rest.flatMap Prod.snd) := List.append_assoc ..
        List.Perm _ (as ++ (rest.flatMap Prod.snd ++ [a])) :=
          List.Perm.append_left _ List.perm_append_comm
        _ = values ((k', as) :: rest) ++ [a] := (List.append_assoc ..).symm
    · calc as ++ values (add k a rest)
        List.Perm _ (as ++ (values rest ++ [a])) := ih.append_left as
        _ = values ((k', as) :: rest) ++ [a] := (List.append_assoc ..).symm

theorem values_bucketBy_perm (key : α → κ) (xs : List α) : (bucketBy key xs).values.Perm xs := by
  have hloop : ∀ (xs : List α) (b : Buckets κ α),
      (xs.foldl (fun b x => b.add (key x) x) b).values.Perm (b.values ++ xs) := by
    intro xs
    induction xs with
    | nil => simp
    | cons x xs ih =>
      intro b
      have hnext := (ih (b.add (key x) x)).trans
        ((values_add_perm (key x) x b).append_right xs)
      rwa [List.append_assoc, List.singleton_append] at hnext
  exact hloop xs []

/-- What is taken out and what is left. -/
theorem bucket_append_values_without (k : κ) (b : Buckets κ α) :
    (b.bucket k ++ (b.without k).values).Perm b.values := by
  induction b with
  | nil => exact List.Perm.refl _
  | cons e rest ih =>
    obtain ⟨k', as⟩ := e
    rw [bucket, without]
    split
    · exact List.Perm.refl _
    · calc bucket k rest ++ (as ++ values (without k rest))
        List.Perm _ (as ++ (bucket k rest ++ values (without k rest))) :=
          List.perm_append_comm_assoc ..
        List.Perm _ (as ++ values rest) := ih.append_left as

/-! ## Section 3: What a bucket holds -/

theorem bucket_add (k k' : κ) (a : α) (b : Buckets κ α) :
    (b.add k a).bucket k' = b.bucket k' ++ if k = k' then [a] else [] := by
  induction b with
  | nil =>
    rw [add, bucket, bucket, bucket, List.nil_append]
  | cons e rest ih =>
    obtain ⟨k₀, as⟩ := e
    rw [add]
    by_cases hk : k₀ = k
    · subst hk
      rw [if_pos rfl, bucket, bucket]
      split
      · rfl
      · simp
    · rw [if_neg hk, bucket, bucket, ih]
      by_cases hk' : k₀ = k'
      · subst hk'
        simp [Ne.symm hk]
      · simp [hk']

/-- A bucket is the elements of its key. -/
theorem bucket_bucketBy (key : α → κ) (xs : List α) (k : κ) :
    (bucketBy key xs).bucket k = xs.filter fun x => key x = k := by
  have hloop : ∀ (xs : List α) (b : Buckets κ α),
      (xs.foldl (fun b x => b.add (key x) x) b).bucket k =
        b.bucket k ++ xs.filter fun x => key x = k := by
    intro xs
    induction xs with
    | nil => simp
    | cons x xs ih =>
      intro b
      rw [List.foldl_cons, ih, bucket_add, List.append_assoc]
      by_cases hk : key x = k
      · simp [hk]
      · simp [hk]
  exact hloop xs []

/-- Another key's bucket is left alone. -/
theorem bucket_without_of_ne {k k' : κ} (hne : k' ≠ k) (b : Buckets κ α) :
    (b.without k).bucket k' = b.bucket k' := by
  induction b with
  | nil => rfl
  | cons e rest ih =>
    obtain ⟨k₀, as⟩ := e
    rw [without]
    split
    · rename_i hk
      rw [bucket, if_neg (hk ▸ hne.symm)]
    · rw [bucket, bucket, ih]

/-! ## Section 4: Keys -/

/-- Each key has one bucket, and an element is in the bucket of its key. -/
structure Keyed (key : α → κ) (b : Buckets κ α) : Prop where
  unique : (b.map Prod.fst).Nodup
  own : ∀ e ∈ b, ∀ a ∈ e.2, key a = e.1

theorem keys_add (k : κ) (a : α) (b : Buckets κ α) :
    (b.add k a).map Prod.fst =
      if k ∈ b.map Prod.fst then b.map Prod.fst else b.map Prod.fst ++ [k] := by
  induction b with
  | nil => simp [add]
  | cons e rest ih =>
    obtain ⟨k', as⟩ := e
    rw [add]
    by_cases hk : k' = k
    · simp [hk]
    · rw [if_neg hk, List.map_cons, ih, List.map_cons]
      by_cases hmem : k ∈ rest.map Prod.fst
      · rw [if_pos hmem, if_pos (List.mem_cons_of_mem _ hmem)]
      · rw [if_neg hmem, if_neg (List.not_mem_cons_of_ne_of_not_mem (Ne.symm hk) hmem),
          List.cons_append]

theorem Keyed.add {key : α → κ} {b : Buckets κ α} (h : Keyed key b) (a : α) :
    Keyed key (b.add (key a) a) := by
  constructor
  · rw [keys_add]
    split
    · exact h.unique
    · rename_i hnew
      exact List.nodup_append_comm.mp (List.nodup_cons.mpr ⟨hnew, h.unique⟩)
  · have hown := h.own
    clear h
    induction b with
    | nil =>
      intro e he x hx
      obtain rfl := List.mem_singleton.mp he
      rw [List.mem_singleton.mp hx]
    | cons e rest ih =>
      obtain ⟨k', as⟩ := e
      have hrest := ih fun e he => hown e (List.mem_cons_of_mem _ he)
      rw [Buckets.add]
      split
      · rename_i hk
        intro e he x hx
        rcases List.mem_cons.mp he with rfl | he
        · rcases List.mem_append.mp hx with hx | hx
          · exact hown _ List.mem_cons_self x hx
          · rw [List.mem_singleton.mp hx, hk]
        · exact hown e (List.mem_cons_of_mem _ he) x hx
      · intro e he x hx
        rcases List.mem_cons.mp he with rfl | he
        · exact hown _ List.mem_cons_self x hx
        · exact hrest e he x hx

theorem keyed_bucketBy (key : α → κ) (xs : List α) : Keyed key (bucketBy key xs) := by
  have hloop : ∀ (xs : List α) (b : Buckets κ α), Keyed key b →
      Keyed key (xs.foldl (fun b x => b.add (key x) x) b) := by
    intro xs
    induction xs with
    | nil => exact fun _ h => h
    | cons x xs ih => exact fun b h => ih _ (h.add x)
  exact hloop xs [] ⟨List.nodup_nil, fun _ he => absurd he List.not_mem_nil⟩

theorem without_sublist (k : κ) (b : Buckets κ α) : (b.without k).Sublist b := by
  induction b with
  | nil => exact List.Sublist.refl _
  | cons e rest ih =>
    obtain ⟨k', as⟩ := e
    rw [without]
    split
    · exact List.sublist_cons_self _ _
    · exact ih.cons_cons _

theorem Keyed.without {key : α → κ} {b : Buckets κ α} (h : Keyed key b) (k : κ) :
    Keyed key (b.without k) where
  unique := h.unique.sublist ((without_sublist k b).map _)
  own e he := h.own e ((without_sublist k b).subset he)

/-- What is left are the elements of the other keys. -/
theorem Keyed.values_without {key : α → κ} {b : Buckets κ α} (h : Keyed key b) (k : κ) :
    (b.without k).values = b.values.filter fun a => key a ≠ k := by
  induction b with
  | nil => rfl
  | cons e rest ih =>
    obtain ⟨k', as⟩ := e
    obtain ⟨hnew, hunique⟩ := List.nodup_cons.mp h.unique
    have hrest : Keyed key rest := ⟨hunique, fun e he => h.own e (List.mem_cons_of_mem _ he)⟩
    have hkey : ∀ a ∈ as, key a = k' := h.own _ List.mem_cons_self
    have hvalues : values ((k', as) :: rest) = as ++ values rest := rfl
    rw [hvalues, List.filter_append, Buckets.without]
    split
    · rename_i hk
      have hnone : as.filter (fun a => key a ≠ k) = [] :=
        List.filter_eq_nil_iff.mpr fun a ha => by simp [hkey a ha, hk]
      have hall : (values rest).filter (fun a => key a ≠ k) = values rest := by
        refine List.filter_eq_self.mpr fun a ha => ?_
        obtain ⟨e, he, hae⟩ := List.mem_flatMap.mp ha
        refine decide_eq_true fun hak => hnew ?_
        have hkey' : e.1 = k' := by rw [← hrest.own e he a hae, hak, hk]
        exact List.mem_map.mpr ⟨e, he, hkey'⟩
      rw [hnone, hall, List.nil_append]
    · rename_i hk
      have hall : as.filter (fun a => key a ≠ k) = as :=
        List.filter_eq_self.mpr fun a ha => decide_eq_true (by rwa [hkey a ha])
      rw [hall, ← ih hrest]
      rfl

end Buckets

end AyushOms.Lib
