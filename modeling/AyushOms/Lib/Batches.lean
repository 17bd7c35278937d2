import AyushOms.Lib.Table

/-!
# Deleting and Inserting Sets of Rows

The two halves of replacing the rows that belong to one owner: the rows that satisfy a
predicate are deleted, and a list of rows is inserted in one statement, which the database
refuses as a whole when one of the rows repeats a key.

## Main results

- `Table.insertAll?_eq_some_iff`: when a list of rows is accepted, and what it leaves
- `Table.mem_replaced`: the rows after a deletion and an insertion
- `Table.exists_replaced_members`: when the rows of an owner can be replaced
- `Table.mem_owned_replaced`: the rows of every owner after a replacement
-/

namespace AyushOms.Lib

variable {α κ : Type*} {keys : α → List κ}

namespace Table

/-! ## Section 1: Deletion -/

/-- Delete the rows satisfying `p`. -/
def delete (t : Table α κ keys) (p : α → Bool) : Table α κ keys where
  rows := t.rows.filter fun r => !p r
  unique := t.unique.sublist (List.filter_sublist.flatMap keys)

@[simp] theorem rows_delete (t : Table α κ keys) (p : α → Bool) :
    (t.delete p).rows = t.rows.filter fun r => !p r := rfl

theorem mem_delete {t : Table α κ keys} {p : α → Bool} {r : α} :
    r ∈ (t.delete p).rows ↔ r ∈ t.rows ∧ p r = false := by
  rw [rows_delete, List.mem_filter, Bool.not_eq_true']

/-- Deleting the rows that were read as an owner's deletes the owner's rows. -/
theorem delete_owned [BEq α] [LawfulBEq α] {ο : Type*} [DecidableEq ο]
    (t : Table α κ keys) (owner : α → ο) (o : ο) :
    (t.delete fun r => (t.rows.filter fun r => owner r == o).contains r) =
      t.delete fun r => owner r == o := by
  refine ext (List.filter_congr fun r hr => ?_)
  rw [Bool.eq_iff_iff, Bool.not_eq_true', Bool.not_eq_true', ← Bool.not_eq_true,
    ← Bool.not_eq_true, List.contains_iff_mem, List.mem_filter]
  exact not_congr (and_iff_right hr)

/-! ## Section 2: Insertion of a list -/

/-- Rows made from distinct members, with one key each, repeat no key. -/
theorem nodup_keys_map_iff {ι : Type*} {mk : ι → α} {key : ι → κ}
    (hkeys : ∀ i, keys (mk i) = [key i]) (hinj : Function.Injective key) {members : List ι} :
    ((members.map mk).flatMap keys).Nodup ↔ members.Nodup := by
  have hmap : (members.map mk).flatMap keys = members.map key := by
    induction members with
    | nil => rfl
    | cons i members ih =>
      rw [List.map_cons, List.flatMap_cons, ih, hkeys, List.map_cons, List.singleton_append]
  rw [hmap]
  exact List.nodup_map_iff hinj

section Insert

variable [DecidableEq κ]

/-- Insert the rows of a list; `none` is the database's integrity error. -/
def insertAll? (t : Table α κ keys) (rs : List α) : Option (Table α κ keys) :=
  if h : ((t.rows ++ rs).flatMap keys).Nodup then some ⟨t.rows ++ rs, h⟩ else none

/-- A list is accepted when its rows repeat no key among themselves and none of the table. -/
theorem insertAll?_eq_some_iff {t t' : Table α κ keys} {rs : List α} :
    t.insertAll? rs = some t' ↔
      (rs.flatMap keys).Nodup ∧ (∀ r ∈ rs, ∀ k ∈ keys r, ∀ r' ∈ t.rows, k ∉ keys r') ∧
        t'.rows = t.rows ++ rs := by
  have hiff : ((t.rows ++ rs).flatMap keys).Nodup ↔
      (rs.flatMap keys).Nodup ∧ ∀ r ∈ rs, ∀ k ∈ keys r, ∀ r' ∈ t.rows, k ∉ keys r' := by
    simp only [List.flatMap_append, List.nodup_append', t.unique, true_and]
    refine and_congr_right fun _ => ⟨fun hd r hr k hk r' hr' hk' => ?_, fun hd k hk hk' => ?_⟩
    · exact hd (List.mem_flatMap.mpr ⟨r', hr', hk'⟩) (List.mem_flatMap.mpr ⟨r, hr, hk⟩)
    · obtain ⟨r', hr', hkr'⟩ := List.mem_flatMap.mp hk
      obtain ⟨r, hr, hkr⟩ := List.mem_flatMap.mp hk'
      exact hd r hr k hkr r' hr' hkr'
  unfold insertAll?
  split
  · rename_i h
    obtain ⟨hnodup, hfree⟩ := hiff.mp h
    constructor
    · intro ht
      cases ht
      exact ⟨hnodup, hfree, rfl⟩
    · rintro ⟨_, _, hrows⟩
      exact congrArg some (ext hrows.symm)
  · rename_i h
    constructor
    · intro ht
      cases ht
    · rintro ⟨hnodup, hfree, _⟩
      exact absurd (hiff.mpr ⟨hnodup, hfree⟩) h

theorem rows_of_insertAll? {t t' : Table α κ keys} {rs : List α} (h : t.insertAll? rs = some t') :
    t'.rows = t.rows ++ rs :=
  (insertAll?_eq_some_iff.mp h).2.2

/-! ## Section 3: Replacement -/

/-- What a table holds once the rows satisfying `p` have made room for a list. -/
theorem mem_replaced {t t' : Table α κ keys} {p : α → Bool} {rs : List α} {r : α}
    (h : (t.delete p).insertAll? rs = some t') :
    r ∈ t'.rows ↔ (r ∈ t.rows ∧ p r = false) ∨ r ∈ rs := by
  rw [rows_of_insertAll? h, List.mem_append, mem_delete]

/-- When every row that shares a key with the list is deleted, only a repetition within the
list is refused. -/
theorem exists_replaced {t : Table α κ keys} {p : α → Bool} {rs : List α}
    (hkey : ∀ r ∈ rs, ∀ k ∈ keys r, ∀ r' ∈ t.rows, k ∈ keys r' → p r' = true) :
    (∃ t', (t.delete p).insertAll? rs = some t') ↔ (rs.flatMap keys).Nodup := by
  constructor
  · rintro ⟨t', h⟩
    exact (insertAll?_eq_some_iff.mp h).1
  · intro hnodup
    have hfree : ∀ r ∈ rs, ∀ k ∈ keys r, ∀ r' ∈ (t.delete p).rows, k ∉ keys r' := by
      intro r hr k hk r' hr' hk'
      obtain ⟨hmem, hkept⟩ := mem_delete.mp hr'
      rw [hkey r hr k hk r' hmem hk'] at hkept
      cases hkept
    unfold insertAll?
    rw [dif_pos]
    · exact ⟨_, rfl⟩
    · simp only [List.flatMap_append, List.nodup_append']
      refine ⟨(t.delete p).unique, hnodup, fun k hk hk' => ?_⟩
      obtain ⟨r', hr', hkr'⟩ := List.mem_flatMap.mp hk
      obtain ⟨r, hr, hkr⟩ := List.mem_flatMap.mp hk'
      exact hfree r hr k hkr r' hr' hkr'

/-- The rows of an owner can be replaced by a row for every member of a list exactly when the
list repeats no member. -/
theorem exists_replaced_members {ι : Type*} {t : Table α κ keys} {p : α → Bool} {mk : ι → α}
    {key : ι → κ} (hkeys : ∀ i, keys (mk i) = [key i]) (hinj : Function.Injective key)
    (howned : ∀ i r, key i ∈ keys r → p r = true) {members : List ι} :
    (∃ t', (t.delete p).insertAll? (members.map mk) = some t') ↔ members.Nodup := by
  rw [exists_replaced, nodup_keys_map_iff hkeys hinj]
  intro r hr k hk r' _ hk'
  obtain ⟨i, _, rfl⟩ := List.mem_map.mp hr
  rw [hkeys, List.mem_singleton] at hk
  exact howned i r' (hk ▸ hk')

/-! ## Section 4: The rows of one owner -/

section Owned

variable {ο ι : Type*} [DecidableEq ο] {o : ο}

/-- Replacing the rows of an owner leaves every other owner's. -/
theorem mem_owned_replaced (owner : α → ο) {t t' : Table α κ keys} {mk : ι → α}
    {members : List ι}
    (h : (t.delete fun r => owner r == o).insertAll? (members.map mk) = some t')
    (hmk : ∀ i, owner (mk i) = o) {v : ο} {r : α} :
    r ∈ t'.rows.filter (fun r => owner r == v) ↔
      if v = o then r ∈ members.map mk else r ∈ t.rows.filter (fun r => owner r == v) := by
  simp only [List.mem_filter, mem_replaced h, beq_iff_eq, beq_eq_false_iff_ne]
  split
  · rename_i hv
    subst hv
    constructor
    · rintro ⟨⟨_, hne⟩ | hnew, howner⟩
      · exact absurd howner hne
      · exact hnew
    · intro hnew
      obtain ⟨i, _, rfl⟩ := List.mem_map.mp hnew
      exact ⟨.inr hnew, hmk i⟩
  · rename_i hv
    constructor
    · rintro ⟨⟨hr, _⟩ | hnew, howner⟩
      · exact ⟨hr, howner⟩
      · obtain ⟨i, _, rfl⟩ := List.mem_map.mp hnew
        exact absurd (howner.symm.trans (hmk i)) hv
    · rintro ⟨hr, howner⟩
      exact ⟨.inl ⟨hr, fun ho => hv (howner.symm.trans ho)⟩, howner⟩

end Owned

end Insert

end Table

end AyushOms.Lib
