import Mathlib.Data.List.Flatten
import Mathlib.Data.List.Nodup

/-!
# Tables with Unique Constraints

A relational table is a list of rows in insertion order together with the unique
keys each row occupies. A row may occupy several keys (a primary key and some
`UNIQUE` constraints) or none at all for a constraint one of whose columns is `NULL`
(SQL's `NULL` never collides with itself), so `keys` returns a list. The structure
carries the constraint: a table in which two rows share a key cannot be built, and
an insertion that would create one is refused.

## Main results

- `Table.eq_of_shared_key`: two rows with a common key are the same row
- `Table.insert?_eq_some_iff`, `Table.insert?_eq_none_iff`: when an insertion succeeds
- `Table.mem_modify`, `Table.exists_split_modify`: the rows after an update that keeps the keys
-/

namespace AyushOms.Lib

variable {α κ : Type*} {keys : α → List κ}

/-- Rows in insertion order, no two of which share a unique key. -/
structure Table (α κ : Type*) (keys : α → List κ) where
  rows : List α
  unique : (rows.flatMap keys).Nodup

namespace Table

/-! ## Section 1: Construction and lookup -/

@[ext]
theorem ext {t t' : Table α κ keys} (h : t.rows = t'.rows) : t = t' := by
  cases t; cases t'; cases h; rfl

instance [DecidableEq α] : DecidableEq (Table α κ keys) := fun t t' =>
  decidable_of_iff (t.rows = t'.rows) ⟨ext, fun h => h ▸ rfl⟩

/-- The table without rows. -/
def empty : Table α κ keys := ⟨[], List.nodup_nil⟩

instance : Inhabited (Table α κ keys) := ⟨empty⟩

@[simp] theorem rows_empty : (empty : Table α κ keys).rows = [] := rfl

/-- The table holding exactly the rows of a list that respects the constraint. -/
def ofList (rows : List α) (h : (rows.flatMap keys).Nodup) : Table α κ keys := ⟨rows, h⟩

@[simp] theorem rows_ofList (rows : List α) (h : (rows.flatMap keys).Nodup) :
    (ofList rows h).rows = rows := rfl

/-- The first row satisfying a predicate, in insertion order. -/
def find? (t : Table α κ keys) (p : α → Bool) : Option α := t.rows.find? p

theorem mem_of_find?_eq_some {t : Table α κ keys} {p : α → Bool} {r : α}
    (h : t.find? p = some r) : r ∈ t.rows :=
  List.mem_of_find?_eq_some h

theorem find?_eq_none {t : Table α κ keys} {p : α → Bool} :
    t.find? p = none ↔ ∀ r ∈ t.rows, ¬ p r = true :=
  List.find?_eq_none

private theorem eq_of_shared_key_of_nodup (k : κ) :
    ∀ {rows : List α}, (rows.flatMap keys).Nodup → ∀ {r r' : α}, r ∈ rows → r' ∈ rows →
      k ∈ keys r → k ∈ keys r' → r = r'
  | [], _, _, _, hr, _, _, _ => absurd hr List.not_mem_nil
  | a :: rows, hnd, r, r', hr, hr', hk, hk' => by
    -- a key of the first row is no key of a later one
    rw [List.flatMap_cons, List.nodup_append'] at hnd
    obtain ⟨_, hrest, hdisj⟩ := hnd
    rcases List.mem_cons.mp hr with rfl | hmem
    · rcases List.mem_cons.mp hr' with rfl | hmem'
      · rfl
      · exact absurd (List.mem_flatMap.mpr ⟨r', hmem', hk'⟩) (hdisj hk)
    · rcases List.mem_cons.mp hr' with rfl | hmem'
      · exact absurd (List.mem_flatMap.mpr ⟨r, hmem, hk⟩) (hdisj hk')
      · exact eq_of_shared_key_of_nodup k hrest hmem hmem' hk hk'

/-- Two rows with a common unique key are the same row. -/
theorem eq_of_shared_key (t : Table α κ keys) {r r' : α} {k : κ} (hr : r ∈ t.rows)
    (hr' : r' ∈ t.rows) (hk : k ∈ keys r) (hk' : k ∈ keys r') : r = r' :=
  eq_of_shared_key_of_nodup k t.unique hr hr' hk hk'

/-- A lookup by a predicate that one unique key decides finds every row with that key. -/
theorem find?_eq_some_of_mem (t : Table α κ keys) {p : α → Bool} {r : α} {k : κ}
    (hr : r ∈ t.rows) (hp : p r = true) (hkey : ∀ r', p r' = true → k ∈ keys r') :
    t.find? p = some r := by
  cases hfind : t.find? p with
  | none => exact absurd hp (find?_eq_none.mp hfind r hr)
  | some r' =>
    have hp' : p r' = true := List.find?_some hfind
    have hmem : r' ∈ t.rows := mem_of_find?_eq_some hfind
    rw [t.eq_of_shared_key hmem hr (hkey r' hp') (hkey r hp)]

/-- At most one row satisfies a predicate that one unique key decides. -/
theorem length_filter_le_one (t : Table α κ keys) {p : α → Bool} {k : κ}
    (hkey : ∀ r, p r = true → k ∈ keys r) : (t.rows.filter p).length ≤ 1 := by
  have hsub : ((t.rows.filter p).flatMap keys).Nodup :=
    t.unique.sublist (List.filter_sublist.flatMap keys)
  -- two rows of the filter would share the key `k`
  match hrows : t.rows.filter p with
  | [] => simp
  | [_] => simp
  | a :: b :: rest =>
    have ha : p a = true := (List.mem_filter.mp (hrows ▸ List.mem_cons_self)).2
    have hb : p b = true :=
      (List.mem_filter.mp (hrows ▸ List.mem_cons_of_mem a List.mem_cons_self)).2
    rw [hrows, List.flatMap_cons, List.flatMap_cons, List.nodup_append'] at hsub
    exact absurd (List.mem_append_left _ (hkey b hb)) (hsub.2.2 (hkey a ha))

/-- The rows that satisfy a predicate one unique key decides are what its lookup finds. -/
theorem filter_eq_toList_find? (t : Table α κ keys) {p : α → Bool} {k : κ}
    (hkey : ∀ r, p r = true → k ∈ keys r) : t.rows.filter p = (t.find? p).toList := by
  have hle : (t.rows.filter p).length ≤ 1 := t.length_filter_le_one hkey
  rw [find?, ← List.head?_filter]
  match hrows : t.rows.filter p with
  | [] => rfl
  | [_] => rfl
  | _ :: _ :: _ => simp [hrows] at hle

/-! ## Section 2: Insertion -/

/-- Insert a row none of whose keys is taken. -/
def insertFresh (t : Table α κ keys) (r : α) (hr : (keys r).Nodup)
    (hfree : ∀ k ∈ keys r, ∀ r' ∈ t.rows, k ∉ keys r') : Table α κ keys where
  rows := t.rows ++ [r]
  unique := by
    rw [List.flatMap_append, List.nodup_append']
    refine ⟨t.unique, by simpa using hr, fun k hk hk' => ?_⟩
    obtain ⟨r', hr', hkr'⟩ := List.mem_flatMap.mp hk
    exact hfree k (by simpa using hk') r' hr' hkr'

@[simp] theorem rows_insertFresh (t : Table α κ keys) (r : α) (hr : (keys r).Nodup)
    (hfree : ∀ k ∈ keys r, ∀ r' ∈ t.rows, k ∉ keys r') :
    (t.insertFresh r hr hfree).rows = t.rows ++ [r] := rfl

section Insert

variable [DecidableEq κ]

/-- Insert a row; `none` is the database's integrity error. -/
def insert? (t : Table α κ keys) (r : α) : Option (Table α κ keys) :=
  if h : ((t.rows ++ [r]).flatMap keys).Nodup then some ⟨t.rows ++ [r], h⟩ else none

/-- The rows after a successful insertion. -/
theorem insert?_eq_some_iff {t t' : Table α κ keys} {r : α} :
    t.insert? r = some t' ↔
      (keys r).Nodup ∧ (∀ k ∈ keys r, ∀ r' ∈ t.rows, k ∉ keys r') ∧
        t'.rows = t.rows ++ [r] := by
  have hiff : ((t.rows ++ [r]).flatMap keys).Nodup ↔
      (keys r).Nodup ∧ ∀ k ∈ keys r, ∀ r' ∈ t.rows, k ∉ keys r' := by
    simp only [List.flatMap_append, List.flatMap_cons, List.flatMap_nil, List.append_nil,
      List.nodup_append', t.unique, true_and]
    refine and_congr_right fun _ => ⟨fun hd k hk r' hr' hk' => ?_, fun hd k hk hk' => ?_⟩
    · exact hd (List.mem_flatMap.mpr ⟨r', hr', hk'⟩) hk
    · obtain ⟨r', hr', hk⟩ := List.mem_flatMap.mp hk
      exact hd k hk' r' hr' hk
  unfold insert?
  split
  · rename_i h
    have h' := hiff.mp h
    constructor
    · intro ht
      cases ht
      exact ⟨h'.1, h'.2, rfl⟩
    · rintro ⟨_, _, hrows⟩
      exact congrArg some (ext hrows.symm)
  · rename_i h
    constructor
    · intro ht
      cases ht
    · rintro ⟨hn, hd, _⟩
      exact absurd (hiff.mpr ⟨hn, hd⟩) h

theorem rows_of_insert? {t t' : Table α κ keys} {r : α} (h : t.insert? r = some t') :
    t'.rows = t.rows ++ [r] :=
  (insert?_eq_some_iff.mp h).2.2

/-- An insertion of a row whose own keys are distinct is refused exactly when one of its
keys is taken. -/
theorem insert?_eq_none_iff {t : Table α κ keys} {r : α} (hr : (keys r).Nodup) :
    t.insert? r = none ↔ ∃ k ∈ keys r, ∃ r' ∈ t.rows, k ∈ keys r' := by
  constructor
  · intro hnone
    -- were every key free, the insertion would succeed
    by_contra hfree
    push Not at hfree
    have hsome : t.insert? r = some (t.insertFresh r hr hfree) :=
      insert?_eq_some_iff.mpr ⟨hr, hfree, rfl⟩
    rw [hnone] at hsome
    cases hsome
  · rintro ⟨k, hk, r', hr', hk'⟩
    cases hins : t.insert? r with
    | none => rfl
    | some t' => exact absurd hk' ((insert?_eq_some_iff.mp hins).2.1 k hk r' hr')

/-- A row whose keys are free can be inserted. -/
theorem exists_insert? (t : Table α κ keys) {r : α} (hr : (keys r).Nodup)
    (hfree : ∀ k ∈ keys r, ∀ r' ∈ t.rows, k ∉ keys r') : ∃ t', t.insert? r = some t' :=
  ⟨t.insertFresh r hr hfree, insert?_eq_some_iff.mpr ⟨hr, hfree, rfl⟩⟩

/-- So can one that occupies none. -/
theorem insert?_of_keys_nil (t : Table α κ keys) {r : α} (hr : keys r = []) :
    ∃ t', t.insert? r = some t' :=
  t.exists_insert? (by simp [hr]) (by simp [hr])

end Insert

/-! ## Section 3: Updates that keep the keys -/

/-- An update that writes only columns no key depends on. -/
structure KeyPreserving {α κ : Type*} (keys : α → List κ) where
  apply : α → α
  keeps : ∀ r, keys (apply r) = keys r

instance : CoeFun (KeyPreserving keys) fun _ => α → α := ⟨KeyPreserving.apply⟩

/-- Apply `f` to the rows satisfying `p`. -/
def modify (t : Table α κ keys) (p : α → Bool) (f : KeyPreserving keys) : Table α κ keys where
  rows := t.rows.map fun r => if p r then f r else r
  unique := by
    have hmap : (t.rows.map fun r => if p r then f r else r).flatMap keys =
        t.rows.flatMap keys := by
      rw [List.flatMap_map]
      refine List.flatMap_congr fun r _ => ?_
      by_cases hp : p r = true <;> simp [hp, f.keeps]
    rw [hmap]
    exact t.unique

@[simp] theorem rows_modify (t : Table α κ keys) (p : α → Bool) (f : KeyPreserving keys) :
    (t.modify p f).rows = t.rows.map fun r => if p r then f r else r := rfl

theorem mem_modify {t : Table α κ keys} {p : α → Bool} {f : KeyPreserving keys} {r : α} :
    r ∈ (t.modify p f).rows ↔
      ∃ r' ∈ t.rows, (p r' = true ∧ r = f r') ∨ (¬ p r' = true ∧ r = r') := by
  simp only [rows_modify, List.mem_map]
  refine exists_congr fun r' => and_congr_right fun _ => ?_
  by_cases hp : p r' = true <;> simp [hp, eq_comm]

/-- An update of the one row with a key rewrites it in its place. -/
theorem exists_split_modify (t : Table α κ keys) {p : α → Bool} {r : α} {k : κ}
    (hr : r ∈ t.rows) (hp : p r = true) (hkey : ∀ r, p r = true → k ∈ keys r)
    (f : KeyPreserving keys) :
    ∃ pre post, t.rows = pre ++ r :: post ∧ (t.modify p f).rows = pre ++ f r :: post := by
  obtain ⟨pre, post, hrows⟩ := List.append_of_mem hr
  -- no other row satisfies the predicate
  have hcount := t.length_filter_le_one hkey
  rw [hrows, List.filter_append, List.filter_cons_of_pos hp, List.length_append,
    List.length_cons] at hcount
  have hpre : pre.filter p = [] := List.eq_nil_of_length_eq_zero (by omega)
  have hpost : post.filter p = [] := List.eq_nil_of_length_eq_zero (by omega)
  have hkept : ∀ rows : List α, rows.filter p = [] →
      (rows.map fun a => if p a then f a else a) = rows := by
    intro rows hnone
    calc (rows.map fun a => if p a then f a else a)
        = rows.map id :=
          List.map_congr_left fun a ha => if_neg (List.filter_eq_nil_iff.mp hnone a ha)
      _ = rows := List.map_id rows
  refine ⟨pre, post, hrows, ?_⟩
  rw [rows_modify, hrows, List.map_append, List.map_cons, if_pos hp, hkept pre hpre,
    hkept post hpost]

/-- An update commutes with the lookup of a predicate that it does not change. -/
theorem find?_modify (t : Table α κ keys) {p q : α → Bool} {f : KeyPreserving keys}
    (hq : ∀ r, q (f r) = q r) :
    (t.modify p f).find? q = (t.find? q).map fun r => if p r then f r else r := by
  unfold find?
  rw [rows_modify, List.find?_map]
  -- the predicate does not see the update
  have hcomp : (q ∘ fun r => if p r then f r else r) = q := by
    funext r
    by_cases hp : p r = true <;> simp [hp, hq]
  rw [hcomp]

/-- Apply `f` to the row at a position. -/
def modifyAt (t : Table α κ keys) (i : Nat) (f : KeyPreserving keys) : Table α κ keys where
  rows := t.rows.modify i f
  unique := by
    have hmodify : ∀ (rows : List α) (i : Nat),
        (rows.modify i f).flatMap keys = rows.flatMap keys := by
      intro rows
      induction rows with
      | nil => simp
      | cons r rows ih =>
        rintro (_ | i)
        · simp [f.keeps]
        · simp [ih]
    rw [hmodify]
    exact t.unique

@[simp] theorem rows_modifyAt (t : Table α κ keys) (i : Nat) (f : KeyPreserving keys) :
    (t.modifyAt i f).rows = t.rows.modify i f := rfl

/-! ## Section 4: Updates that may move keys -/

section Update

variable [DecidableEq κ]

/-- Apply `f` to the rows satisfying `p`; `none` when two rows would share a key. -/
def update? (t : Table α κ keys) (p : α → Bool) (f : α → α) : Option (Table α κ keys) :=
  if h : ((t.rows.map fun r => if p r then f r else r).flatMap keys).Nodup then
    some ⟨t.rows.map fun r => if p r then f r else r, h⟩
  else none

theorem rows_of_update? {t t' : Table α κ keys} {p : α → Bool} {f : α → α}
    (h : t.update? p f = some t') : t'.rows = t.rows.map fun r => if p r then f r else r := by
  unfold update? at h
  split at h
  · cases h
    rfl
  · cases h

/-- An update that gives every row what it has is accepted, and changes nothing. -/
theorem update?_eq_self (t : Table α κ keys) {p : α → Bool} {f : α → α}
    (h : ∀ r ∈ t.rows, p r = true → f r = r) : t.update? p f = some t := by
  have hrows : (t.rows.map fun r => if p r then f r else r) = t.rows := by
    calc (t.rows.map fun r => if p r then f r else r)
        = t.rows.map id := List.map_congr_left fun r hr => by
          by_cases hp : p r = true
          · rw [if_pos hp, h r hr hp, id]
          · rw [if_neg hp, id]
      _ = t.rows := List.map_id _
  have hnodup : ((t.rows.map fun r => if p r then f r else r).flatMap keys).Nodup := by
    rw [hrows]
    exact t.unique
  rw [update?, dif_pos hnodup]
  exact congrArg some (ext hrows)

/-- Rewriting one row is accepted when the keys it gets are its own or free. -/
theorem exists_update? {t : Table α κ keys} {p : α → Bool} {f : α → α} {r : α}
    (hp : ∀ r' ∈ t.rows, p r' = true → r' = r) (hr : keys r ≠ []) (hf : (keys (f r)).Nodup)
    (hfree : ∀ k ∈ keys (f r), ∀ r' ∈ t.rows, k ∈ keys r' → r' = r) :
    ∃ t', t.update? p f = some t' := by
  have hnodup := List.nodup_flatMap.mp t.unique
  have hafter : ((t.rows.map fun r => if p r then f r else r).flatMap keys).Nodup := by
    rw [List.flatMap_map, List.nodup_flatMap]
    refine ⟨fun a ha => ?_, hnodup.2.imp_of_mem fun {a b} ha hb hab => ?_⟩
    · by_cases hpa : p a = true
      · rw [if_pos hpa, hp a ha hpa]
        exact hf
      · rw [if_neg hpa]
        exact hnodup.1 a ha
    · -- the row is there once, and no other row has one of its new keys
      intro k hka hkb
      dsimp only at hka hkb
      by_cases hpa : p a = true
      · rw [if_pos hpa, hp a ha hpa] at hka
        by_cases hpb : p b = true
        · rw [hp a ha hpa, hp b hb hpb] at hab
          obtain ⟨k', hk'⟩ := List.exists_mem_of_ne_nil _ hr
          exact hab hk' hk'
        · rw [if_neg hpb] at hkb
          have hb' := hfree k hka b hb hkb
          rw [hb', ← hp a ha hpa] at hpb
          exact hpb hpa
      · rw [if_neg hpa] at hka
        by_cases hpb : p b = true
        · rw [if_pos hpb, hp b hb hpb] at hkb
          have ha' := hfree k hkb a ha hka
          rw [ha', ← hp b hb hpb] at hpa
          exact hpa hpb
        · rw [if_neg hpb] at hkb
          exact hab hka hkb
  exact ⟨⟨_, hafter⟩, dif_pos hafter⟩

/-- An update that gives a row the key of another is refused. -/
theorem update?_eq_none {t : Table α κ keys} {p : α → Bool} {f : α → α} {r r' : α} {k : κ}
    (hr : r ∈ t.rows) (hp : p r = true) (hk : k ∈ keys (f r)) (hr' : r' ∈ t.rows)
    (hp' : ¬ p r' = true) (hk' : k ∈ keys r') (hne : f r ≠ r') : t.update? p f = none := by
  cases hupd : t.update? p f with
  | none => rfl
  | some t' =>
    have hrows := rows_of_update? hupd
    have hmem : f r ∈ t'.rows := by
      rw [hrows]
      exact List.mem_map.mpr ⟨r, hr, if_pos hp⟩
    have hmem' : r' ∈ t'.rows := by
      rw [hrows]
      exact List.mem_map.mpr ⟨r', hr', if_neg hp'⟩
    exact absurd (t'.eq_of_shared_key hmem hmem' hk hk') hne

/-- A row keeps one of its keys and gives the other to a new row. -/
theorem exists_handover {t : Table α κ keys} {p : α → Bool} {f : α → α} {r r' : α}
    {kept given fresh : κ} (hr : r ∈ t.rows) (hpr : p r = true)
    (hp : ∀ a, p a = true → kept ∈ keys a) (hkeys : keys r = [kept, given])
    (hf : keys (f r) = [kept]) (hr' : keys r' = [fresh, given])
    (hfresh : ∀ a ∈ t.rows, fresh ∉ keys a) :
    ∃ t₁ t₂, t.update? p f = some t₁ ∧ t₁.insert? r' = some t₂ := by
  have hnodup : kept ∉ [given] ∧ [given].Nodup := by
    rw [← List.nodup_cons, ← hkeys]
    exact (List.nodup_flatMap.mp t.unique).1 r hr
  have hsame : ∀ a ∈ t.rows, p a = true → a = r := fun a ha hpa =>
    t.eq_of_shared_key ha hr (hp a hpa) (by simp [hkeys])
  have hupdate : ∃ t₁, t.update? p f = some t₁ := by
    refine exists_update? hsame (by simp [hkeys]) (by simp [hf]) fun k hk a ha hka => ?_
    rw [hf, List.mem_singleton] at hk
    exact t.eq_of_shared_key ha hr hka (by simp [hk, hkeys])
  obtain ⟨t₁, hupdate⟩ := hupdate
  have hrow : ∀ k ∈ keys r', k = fresh ∨ k = given := by
    intro k hk
    simpa [hr'] using hk
  have hinsert : ∃ t₂, t₁.insert? r' = some t₂ := by
    refine t₁.exists_insert? ?_ fun k hk a ha hka => ?_
    · have hne : fresh ≠ given := by
        rintro rfl
        exact hfresh r hr (by simp [hkeys])
      simp [hr', hne]
    · rw [rows_of_update? hupdate] at ha
      obtain ⟨b, hb, rfl⟩ := List.mem_map.mp ha
      by_cases hpb : p b = true
      · -- the row itself has given its key away
        rw [if_pos hpb, hsame b hb hpb, hf, List.mem_singleton] at hka
        rcases hrow k hk with rfl | rfl
        · exact hfresh r hr (by simp [hkeys, hka])
        · exact hnodup.1 (by simp [hka])
      · rw [if_neg hpb] at hka
        rcases hrow k hk with rfl | rfl
        · exact hfresh b hb hka
        · exact hpb (t.eq_of_shared_key hb hr hka (by simp [hkeys]) ▸ hpr)
  obtain ⟨t₂, hinsert⟩ := hinsert
  exact ⟨t₁, t₂, hupdate, hinsert⟩

end Update

end Table

end AyushOms.Lib
