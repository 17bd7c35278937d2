import Mathlib.Data.List.Chain
import Mathlib.Logic.ExistsUnique

/-!
# Append-Only Logs with Revisions

A log whose entries are never changed: an entry is put right by a later entry that names it
and stands in its slot. An entry no other names is a tip. When every new entry either opens a
slot of its own or names a tip that is not closed, the entries of a slot form one chain, in
the order they were written, and the last of them is the only tip of the slot.

## Main results

- `Revisions.History.existsUnique_tip`: every slot in use has exactly one tip
- `Revisions.History.isChain_entries`: the entries of a slot form one chain
- `Revisions.History.not_supersedes_of_closed`: a closed entry is never revised
-/

namespace AyushOms.Lib

variable {ρ ι ν : Type*}

/-- How entries identify themselves, their slot and the entry they revise, and which of them
are closed. -/
structure Revisions (ρ ι ν : Type*) where
  id : ρ → ι
  slot : ρ → ν
  supersedes : ρ → Option ι
  closed : ρ → Prop

namespace Revisions

variable (R : Revisions ρ ι ν)

/-! ## Section 1: Tips and histories -/

/-- An entry of the log that no entry revises. -/
structure Tip (log : List ρ) (r : ρ) : Prop where
  mem : r ∈ log
  current : ∀ r' ∈ log, R.supersedes r' ≠ some (R.id r)

/-- The logs that grow by entries that open a slot and by revisions of tips that are not
closed. -/
inductive History : List ρ → Prop where
  | nil : History []
  | original {log : List ρ} {r : ρ} (h : History log) (hid : ∀ r' ∈ log, R.id r' ≠ R.id r)
      (hslot : ∀ r' ∈ log, R.slot r' ≠ R.slot r) (hfirst : R.supersedes r = none) :
      History (log ++ [r])
  | revision {log : List ρ} {r tip : ρ} (h : History log) (hid : ∀ r' ∈ log, R.id r' ≠ R.id r)
      (htip : R.Tip log tip) (hopen : ¬ R.closed tip) (hslot : R.slot r = R.slot tip)
      (hrevises : R.supersedes r = some (R.id tip)) : History (log ++ [r])

/-- The entries of a slot, in the order they were written. -/
def entries [DecidableEq ν] (log : List ρ) (v : ν) : List ρ :=
  log.filter fun r => decide (R.slot r = v)

variable {R}

theorem mem_entries [DecidableEq ν] {log : List ρ} {v : ν} {r : ρ} :
    r ∈ R.entries log v ↔ r ∈ log ∧ R.slot r = v := by
  simp [entries]

/-- What nothing in a chain can follow is its end. -/
theorem getLast?_eq_some_of_isChain {S : ρ → ρ → Prop} {l : List ρ} (hl : l.IsChain S) {r : ρ}
    (hr : r ∈ l) (hlast : ∀ r' ∈ l, ¬ S r r') : l.getLast? = some r := by
  induction l with
  | nil => cases hr
  | cons a l ih =>
    rcases List.mem_cons.mp hr with rfl | hmem
    · cases l with
      | nil => rfl
      | cons b l => exact absurd (List.isChain_cons_cons.mp hl).1 (hlast b (by simp))
    · rw [List.getLast?_cons,
        ih hl.tail hmem fun r' hr' => hlast r' (List.mem_cons_of_mem a hr')]
      rfl

namespace History

variable {log : List ρ}

/-- An entry is determined by its id. -/
theorem id_injective (h : R.History log) {a b : ρ} (ha : a ∈ log) (hb : b ∈ log)
    (hab : R.id a = R.id b) : a = b := by
  induction h with
  | nil => cases ha
  | original h hid _ _ ih | revision h hid _ _ _ _ ih =>
    rcases List.mem_append.mp ha with ha' | ha' <;> rcases List.mem_append.mp hb with hb' | hb'
    · exact ih ha' hb'
    · obtain rfl := List.mem_singleton.mp hb'
      exact absurd hab (hid a ha')
    · obtain rfl := List.mem_singleton.mp ha'
      exact absurd hab.symm (hid b hb')
    · exact (List.mem_singleton.mp ha').trans (List.mem_singleton.mp hb').symm

/-- What an entry revises is an entry of its slot that is not closed. -/
theorem exists_revised (h : R.History log) {r : ρ} (hr : r ∈ log) {i : ι}
    (hi : R.supersedes r = some i) :
    ∃ r' ∈ log, R.id r' = i ∧ R.slot r' = R.slot r ∧ ¬ R.closed r' := by
  induction h with
  | nil => cases hr
  | original h _ _ hfirst ih =>
    rcases List.mem_append.mp hr with hold | hnew
    · obtain ⟨r', hr', hrest⟩ := ih hold
      exact ⟨r', List.mem_append_left _ hr', hrest⟩
    · obtain rfl := List.mem_singleton.mp hnew
      rw [hfirst] at hi
      cases hi
  | revision h _ htip hopen hslot hrevises ih =>
    rcases List.mem_append.mp hr with hold | hnew
    · obtain ⟨r', hr', hrest⟩ := ih hold
      exact ⟨r', List.mem_append_left _ hr', hrest⟩
    · obtain rfl := List.mem_singleton.mp hnew
      rw [hrevises] at hi
      exact ⟨_, List.mem_append_left _ htip.mem, Option.some.inj hi, hslot.symm, hopen⟩

/-- A closed entry is never revised. -/
theorem not_supersedes_of_closed (h : R.History log) {r r' : ρ} (hr : r ∈ log)
    (hclosed : R.closed r) (hr' : r' ∈ log) : R.supersedes r' ≠ some (R.id r) := by
  intro hrevises
  obtain ⟨r'', hr'', hid, -, hopen⟩ := h.exists_revised hr' hrevises
  obtain rfl := h.id_injective hr'' hr hid
  exact hopen hclosed

/-- No entry revises an id the log does not have. -/
theorem not_supersedes_of_fresh (h : R.History log) {i : ι} (hi : ∀ r ∈ log, R.id r ≠ i) {r : ρ}
    (hr : r ∈ log) : R.supersedes r ≠ some i := by
  intro hrevises
  obtain ⟨r', hr', hid, -⟩ := h.exists_revised hr hrevises
  exact hi r' hr' hid

/-! ## Section 2: One tip a slot -/

/-- The tips once an entry with a new id is appended: itself, and those it does not revise. -/
theorem tip_concat (h : R.History log) {r : ρ} (hid : ∀ r' ∈ log, R.id r' ≠ R.id r)
    (hself : R.supersedes r ≠ some (R.id r)) {x : ρ} :
    R.Tip (log ++ [r]) x ↔ (R.Tip log x ∧ R.supersedes r ≠ some (R.id x)) ∨ x = r := by
  constructor
  · rintro ⟨hmem, hcurrent⟩
    rcases List.mem_append.mp hmem with hold | hnew
    · exact .inl ⟨⟨hold, fun r' hr' => hcurrent r' (List.mem_append_left _ hr')⟩,
        hcurrent r (List.mem_append_right _ (List.mem_singleton_self r))⟩
    · exact .inr (List.mem_singleton.mp hnew)
  · rintro (⟨⟨hmem, hcurrent⟩, hnot⟩ | rfl)
    · refine ⟨List.mem_append_left _ hmem, fun r' hr' => ?_⟩
      rcases List.mem_append.mp hr' with hold | hnew
      · exact hcurrent r' hold
      · rwa [List.mem_singleton.mp hnew]
    · refine ⟨List.mem_append_right _ (List.mem_singleton_self x), fun r' hr' => ?_⟩
      rcases List.mem_append.mp hr' with hold | hnew
      · exact h.not_supersedes_of_fresh hid hold
      · rwa [List.mem_singleton.mp hnew]

/-- Every slot in use has exactly one tip. -/
theorem existsUnique_tip (h : R.History log) {r : ρ} (hr : r ∈ log) :
    ∃! tip, R.Tip log tip ∧ R.slot tip = R.slot r := by
  induction h generalizing r with
  | nil => cases hr
  | @original log new h hid hslot hfirst ih =>
    have htips : ∀ x, R.Tip (log ++ [new]) x ↔ R.Tip log x ∨ x = new := fun x => by
      rw [h.tip_concat hid (by simp [hfirst])]
      simp [hfirst]
    rcases List.mem_append.mp hr with hold | hnew
    -- an older slot keeps its tip, the new slot has the new entry
    · obtain ⟨tip, ⟨htip, hs⟩, hunique⟩ := ih hold
      refine ⟨tip, ⟨(htips tip).mpr (.inl htip), hs⟩, fun x ⟨hx, hxs⟩ => ?_⟩
      rcases (htips x).mp hx with hx' | rfl
      · exact hunique x ⟨hx', hxs⟩
      · exact absurd hxs.symm (hslot r hold)
    · obtain rfl := List.mem_singleton.mp hnew
      refine ⟨r, ⟨(htips r).mpr (.inr rfl), rfl⟩, fun x ⟨hx, hxs⟩ => ?_⟩
      rcases (htips x).mp hx with hx' | rfl
      · exact absurd hxs (hslot x hx'.mem)
      · rfl
  | @revision log new old h hid hold hopen hslot hrevises ih =>
    have hself : R.supersedes new ≠ some (R.id new) := by
      rw [hrevises]
      exact fun heq => hid old hold.mem (Option.some.inj heq)
    have htips : ∀ x, R.Tip (log ++ [new]) x ↔ (R.Tip log x ∧ R.id old ≠ R.id x) ∨ x = new :=
      fun x => by
        rw [h.tip_concat hid hself, hrevises]
        simp
    have hslots : ∃ r' ∈ log, R.slot r' = R.slot r := by
      rcases List.mem_append.mp hr with hmem | hnew
      · exact ⟨r, hmem, rfl⟩
      · obtain rfl := List.mem_singleton.mp hnew
        exact ⟨old, hold.mem, hslot.symm⟩
    obtain ⟨r', hr', hsr⟩ := hslots
    obtain ⟨tip, ⟨htip, hs⟩, hunique⟩ := ih hr'
    rw [hsr] at hs hunique
    by_cases hown : R.slot old = R.slot r
    -- the revised tip was the one of its slot, and the new entry takes its place
    · refine ⟨new, ⟨(htips new).mpr (.inr rfl), hslot.trans hown⟩, fun x ⟨hx, hxs⟩ => ?_⟩
      rcases (htips x).mp hx with ⟨hx', hne⟩ | rfl
      · exact absurd (congrArg R.id ((hunique old ⟨hold, hown⟩).trans
          (hunique x ⟨hx', hxs⟩).symm)) hne
      · rfl
    · refine ⟨tip, ⟨(htips tip).mpr (.inl ⟨htip, fun heq => ?_⟩), hs⟩, fun x ⟨hx, hxs⟩ => ?_⟩
      · exact hown (h.id_injective hold.mem htip.mem heq ▸ hs)
      · rcases (htips x).mp hx with ⟨hx', -⟩ | rfl
        · exact hunique x ⟨hx', hxs⟩
        · exact absurd (hslot.symm.trans hxs) hown

/-- Two entries that revise nothing stand in different slots. -/
theorem original_unique (h : R.History log) {a b : ρ} (ha : a ∈ log) (hb : b ∈ log)
    (hafirst : R.supersedes a = none) (hbfirst : R.supersedes b = none)
    (hab : R.slot a = R.slot b) : a = b := by
  induction h with
  | nil => cases ha
  | original h _ hslot _ ih =>
    rcases List.mem_append.mp ha with ha' | ha' <;> rcases List.mem_append.mp hb with hb' | hb'
    · exact ih ha' hb'
    · obtain rfl := List.mem_singleton.mp hb'
      exact absurd hab (hslot a ha')
    · obtain rfl := List.mem_singleton.mp ha'
      exact absurd hab.symm (hslot b hb')
    · exact (List.mem_singleton.mp ha').trans (List.mem_singleton.mp hb').symm
  | revision h _ _ _ _ hrevises ih =>
    rcases List.mem_append.mp ha with ha' | ha' <;> rcases List.mem_append.mp hb with hb' | hb'
    · exact ih ha' hb'
    · obtain rfl := List.mem_singleton.mp hb'
      rw [hrevises] at hbfirst
      cases hbfirst
    · obtain rfl := List.mem_singleton.mp ha'
      rw [hrevises] at hafirst
      cases hafirst
    · exact (List.mem_singleton.mp ha').trans (List.mem_singleton.mp hb').symm

/-- Two tips of one slot are one. -/
theorem tip_unique (h : R.History log) {a b : ρ} (ha : R.Tip log a) (hb : R.Tip log b)
    (hab : R.slot a = R.slot b) : a = b := by
  obtain ⟨tip, -, hunique⟩ := h.existsUnique_tip hb.mem
  exact (hunique a ⟨ha, hab⟩).trans (hunique b ⟨hb, rfl⟩).symm

/-- Every entry stands in a slot that an entry has opened. -/
theorem exists_original (h : R.History log) {r : ρ} (hr : r ∈ log) :
    ∃ first ∈ log, R.supersedes first = none ∧ R.slot first = R.slot r := by
  induction h generalizing r with
  | nil => cases hr
  | original h _ _ hfirst ih =>
    rcases List.mem_append.mp hr with hold | hnew
    · obtain ⟨first, hmem, hrest⟩ := ih hold
      exact ⟨first, List.mem_append_left _ hmem, hrest⟩
    · exact ⟨_, List.mem_append_right _ (List.mem_singleton_self _), hfirst,
        congrArg R.slot (List.mem_singleton.mp hnew).symm⟩
  | @revision log new old h _ htip _ hslot _ ih =>
    -- a revision stands in the slot of what it revises
    have hold : ∃ r' ∈ log, R.slot r' = R.slot r := by
      rcases List.mem_append.mp hr with hmem | hnew
      · exact ⟨r, hmem, rfl⟩
      · exact ⟨_, htip.mem, hslot.symm.trans (congrArg R.slot (List.mem_singleton.mp hnew).symm)⟩
    obtain ⟨r', hr', hsame⟩ := hold
    obtain ⟨first, hmem, hnone, hfirst⟩ := ih hr'
    exact ⟨first, List.mem_append_left _ hmem, hnone, hfirst.trans hsame⟩

/-! ## Section 3: The chain of a slot -/

section Chain

variable [DecidableEq ν]

/-- An appended entry is the last of its slot. -/
theorem entries_concat (r : ρ) (v : ν) :
    R.entries (log ++ [r]) v =
      if R.slot r = v then R.entries log v ++ [r] else R.entries log v := by
  by_cases hv : R.slot r = v
  · simp [entries, hv]
  · simp [entries, hv]

/-- The entries of a slot form one chain. -/
theorem isChain_entries (h : R.History log) (v : ν) :
    (R.entries log v).IsChain fun a b => R.supersedes b = some (R.id a) := by
  induction h with
  | nil => exact List.isChain_nil
  | @original log new h hid hslot hfirst ih =>
    rw [entries_concat]
    split
    · -- the slot is new, so the entry is alone in it
      rename_i hv
      have hempty : R.entries log v = [] :=
        List.filter_eq_nil_iff.mpr fun r hr => by simpa [← hv] using hslot r hr
      rw [hempty]
      exact List.isChain_singleton new
    · exact ih
  | @revision log new old h hid hold hopen hslot hrevises ih =>
    rw [entries_concat]
    split
    · rename_i hv
      have hlast : (R.entries log v).getLast? = some old := by
        refine getLast?_eq_some_of_isChain ih ?_ fun y hy => hold.current y (mem_entries.mp hy).1
        exact mem_entries.mpr ⟨hold.mem, hslot.symm.trans hv⟩
      rw [List.isChain_append]
      refine ⟨ih, List.isChain_singleton new, fun a ha b hb => ?_⟩
      rw [hlast] at ha
      obtain rfl : old = a := Option.some.inj ha
      obtain rfl : new = b := Option.some.inj hb
      exact hrevises
    · exact ih

/-- The tip of a slot is the end of its chain. -/
theorem getLast?_entries (h : R.History log) {tip : ρ} (htip : R.Tip log tip) :
    (R.entries log (R.slot tip)).getLast? = some tip :=
  getLast?_eq_some_of_isChain (h.isChain_entries _) (mem_entries.mpr ⟨htip.mem, rfl⟩)
    fun y hy => htip.current y (mem_entries.mp hy).1

end Chain

end History

end Revisions

end AyushOms.Lib
