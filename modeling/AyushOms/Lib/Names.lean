import AyushOms.Lib.Run
import Mathlib.Data.List.Nodup
import Mathlib.Logic.Function.Basic

/-!
# Granting Names

Holders ask for names one after another. Who asks for a name that another holder has gets a name of
its own instead, a fallback made of the two; what it had before is free from then on. So what
somebody gets depends on the requests before it, and going through the requests again may give a
name to a holder that was refused it at first, because whoever had it has moved on since.

## Main results

- `run_grant_again_iff`: a second run changes nothing exactly when every requested name is held
- `allHeld_of_settled`, `settled_of_allHeld`: which requests lead there
-/

namespace AyushOms.Lib.Names

variable {κ ν : Type*} {fallback : κ → ν → ν}

/-! ## Section 1: Requests -/

open Classical in
/-- What a request leads to: the name, or the fallback when another holder has the name. -/
noncomputable def awarded (fallback : κ → ν → ν) (held : κ → Option ν) (c : κ × ν) : ν :=
  if ∃ k, k ≠ c.1 ∧ held k = some c.2 then fallback c.1 c.2 else c.2

/-- The names that are held after a request. -/
noncomputable def grant [DecidableEq κ] (fallback : κ → ν → ν) (held : κ → Option ν) (c : κ × ν) :
    κ → Option ν :=
  Function.update held c.1 (some (awarded fallback held c))

theorem awarded_cases (fallback : κ → ν → ν) (held : κ → Option ν) (c : κ × ν) :
    (awarded fallback held c = c.2 ∧ ∀ k, held k = some c.2 → k = c.1) ∨
      (awarded fallback held c = fallback c.1 c.2 ∧ ∃ k, k ≠ c.1 ∧ held k = some c.2) := by
  by_cases h : ∃ k, k ≠ c.1 ∧ held k = some c.2
  · exact .inr ⟨if_pos h, h⟩
  · refine .inl ⟨if_neg h, fun k hk => ?_⟩
    by_contra hne
    exact h ⟨k, hne, hk⟩

theorem awarded_of_held {held : κ → Option ν} {c : κ × ν} {k : κ} (hne : k ≠ c.1)
    (hk : held k = some c.2) : awarded fallback held c = fallback c.1 c.2 :=
  if_pos ⟨k, hne, hk⟩

/-- In a list in which nobody asks twice, the requests around one are from others. -/
theorem not_mem_of_split {pre post : List (κ × ν)} {c : κ × ν}
    (h : ((pre ++ c :: post).map (·.1)).Nodup) :
    c.1 ∉ pre.map (·.1) ∧ c.1 ∉ post.map (·.1) ∧ ∀ k ∈ post.map (·.1), k ∉ pre.map (·.1) := by
  rw [List.map_append, List.map_cons, List.nodup_append'] at h
  obtain ⟨-, hpost, hdisjoint⟩ := h
  refine ⟨fun hpre => hdisjoint hpre List.mem_cons_self, (List.nodup_cons.mp hpost).1, ?_⟩
  intro k hk hpre
  exact hdisjoint hpre (List.mem_cons_of_mem _ hk)

/-- The last request for a name. -/
theorem exists_last_request {cs : List (κ × ν)} {name : ν} (h : ∃ c ∈ cs, c.2 = name) :
    ∃ pre c post, cs = pre ++ c :: post ∧ c.2 = name ∧ ∀ d ∈ post, d.2 ≠ name := by
  induction cs with
  | nil =>
    obtain ⟨c, hc, -⟩ := h
    cases hc
  | cons first rest ih =>
    by_cases hrest : ∃ c ∈ rest, c.2 = name
    · obtain ⟨pre, c, post, rfl, hc⟩ := ih hrest
      exact ⟨first :: pre, c, post, rfl, hc⟩
    · push Not at hrest
      obtain ⟨c, hc, hname⟩ := h
      rcases List.mem_cons.mp hc with rfl | hlater
      · exact ⟨[], c, rest, rfl, hname, hrest⟩
      · exact absurd hname (hrest c hlater)

variable [DecidableEq κ]

@[simp] theorem grant_self (held : κ → Option ν) (c : κ × ν) :
    grant fallback held c c.1 = some (awarded fallback held c) :=
  Function.update_self _ _ _

theorem grant_of_ne (held : κ → Option ν) {c : κ × ν} {k : κ} (h : k ≠ c.1) :
    grant fallback held c k = held k :=
  Function.update_of_ne h _ _

/-! ## Section 2: Runs -/

/-- Who asks for nothing keeps what it has. -/
theorem run_grant_of_not_mem {held : κ → Option ν} {cs : List (κ × ν)} {k : κ}
    (h : k ∉ cs.map (·.1)) : run (grant fallback) held cs k = held k := by
  induction cs generalizing held with
  | nil => rfl
  | cons c cs ih =>
    rw [List.map_cons, List.mem_cons, not_or] at h
    rw [run_cons, ih h.2, grant_of_ne held h.1]

/-- Who does not ask again keeps what it was awarded. -/
theorem run_grant_of_split (fallback : κ → ν → ν) (held : κ → Option ν)
    {pre post : List (κ × ν)} {c : κ × ν} (h : c.1 ∉ post.map (·.1)) :
    run (grant fallback) held (pre ++ c :: post) c.1 =
      some (awarded fallback (run (grant fallback) held pre) c) := by
  rw [run_append, run_cons, run_grant_of_not_mem h, grant_self]

/-- Who does not ask from some request on keeps what it has there. -/
theorem run_grant_of_split_of_ne {held : κ → Option ν} {pre post : List (κ × ν)} {c : κ × ν}
    {k : κ} (hne : k ≠ c.1) (h : k ∉ post.map (·.1)) :
    run (grant fallback) held (pre ++ c :: post) k = run (grant fallback) held pre k := by
  rw [run_append, run_cons, run_grant_of_not_mem h, grant_of_ne _ hne]

theorem exists_awarded (fallback : κ → ν → ν) (held : κ → Option ν) {cs : List (κ × ν)}
    (h : (cs.map (·.1)).Nodup) {c : κ × ν} (hc : c ∈ cs) :
    ∃ before, run (grant fallback) held cs c.1 = some (awarded fallback before c) := by
  obtain ⟨pre, post, rfl⟩ := List.append_of_mem hc
  exact ⟨_, run_grant_of_split fallback held (not_mem_of_split h).2.1⟩

/-- Every requested name has a holder. -/
def AllHeld (held : κ → Option ν) (cs : List (κ × ν)) : Prop :=
  ∀ c ∈ cs, ∃ k, held k = some c.2

/-- No name has two holders. -/
def HeldOnce (held : κ → Option ν) : Prop :=
  ∀ k k' name, held k = some name → held k' = some name → k = k'

section Again

variable {held : κ → Option ν} {cs : List (κ × ν)}

/-- A request made again changes nothing when its name has a holder. -/
theorem grant_again (hfallback : ∀ k name, fallback k name ≠ name) (honce : HeldOnce held)
    {before : κ → Option ν} {c : κ × ν} (hc : held c.1 = some (awarded fallback before c))
    (hheld : ∃ k, held k = some c.2) : grant fallback held c = held := by
  have hsame : awarded fallback held c = awarded fallback before c := by
    obtain ⟨k, hk⟩ := hheld
    rcases awarded_cases fallback before c with ⟨hname, -⟩ | ⟨hname, -⟩
    · rw [hname] at hc ⊢
      rcases awarded_cases fallback held c with ⟨hagain, -⟩ | ⟨-, k', hne, hk'⟩
      · exact hagain
      · exact absurd (honce _ _ _ hk' hc) hne
    · rw [hname] at hc ⊢
      -- the holder of the name is another one
      refine awarded_of_held (k := k) ?_ hk
      rintro rfl
      rw [hk] at hc
      exact hfallback _ _ (Option.some.inj hc).symm
  rw [grant, hsame, ← hc]
  exact Function.update_eq_self _ _

/-- A second run changes nothing exactly when every requested name has a holder. -/
theorem run_grant_again_iff (hfallback : ∀ k name, fallback k name ≠ name)
    (hnodup : (cs.map (·.1)).Nodup) (honce : HeldOnce (run (grant fallback) held cs)) :
    run (grant fallback) (run (grant fallback) held cs) cs = run (grant fallback) held cs ↔
      AllHeld (run (grant fallback) held cs) cs := by
  have hgot := fun c (hc : c ∈ cs) =>
    exists_awarded fallback held hnodup hc
  generalize run (grant fallback) held cs = got at hgot honce
  constructor
  · intro hsame c hc
    obtain ⟨pre, post, rfl⟩ := List.append_of_mem hc
    have hagain :=
      @run_grant_of_split κ ν _ fallback got pre post c (not_mem_of_split hnodup).2.1
    rw [hsame] at hagain
    rcases awarded_cases fallback (run (grant fallback) got pre) c with ⟨hname, -⟩ | ⟨-, k, hne, hk⟩
    · rw [hname] at hagain
      exact ⟨_, hagain⟩
    · -- the other holder has the name in the end, too
      refine ⟨k, ?_⟩
      by_cases hlater : k ∈ post.map (·.1)
      · rwa [run_grant_of_not_mem ((not_mem_of_split hnodup).2.2 k hlater)] at hk
      · rw [← hsame, run_grant_of_split_of_ne hne hlater]
        exact hk
  · intro hheld
    -- every request finds the names as they were
    have hstays : ∀ cs' : List (κ × ν), (∀ c ∈ cs', c ∈ cs) →
        run (grant fallback) got cs' = got := by
      intro cs' hsub
      induction cs' with
      | nil => rfl
      | cons c cs' ih =>
        have hc := hsub c List.mem_cons_self
        obtain ⟨before, hbefore⟩ := hgot c hc
        rw [run_cons, grant_again hfallback honce hbefore (hheld c hc)]
        exact ih fun c' hc' => hsub c' (List.mem_cons_of_mem _ hc')
    exact hstays cs fun c hc => hc

end Again

/-! ## Section 3: Requests whose names find a holder -/

/-- Nobody who asks after the last request for a name has that name. -/
def Settled (held : κ → Option ν) (cs : List (κ × ν)) : Prop :=
  ∀ pre c post, cs = pre ++ c :: post → (∀ d ∈ post, d.2 ≠ c.2) →
    ∀ d ∈ post, held d.1 ≠ some c.2

section Settled

variable {held : κ → Option ν} {cs : List (κ × ν)}

theorem allHeld_of_settled (hnodup : (cs.map (·.1)).Nodup) (h : Settled held cs) :
    AllHeld (run (grant fallback) held cs) cs := by
  intro c hc
  obtain ⟨pre, last, post, rfl, hname, hlast⟩ := exists_last_request ⟨c, hc, rfl⟩
  rw [← hname] at hlast ⊢
  obtain ⟨-, hpost, hdisjoint⟩ := not_mem_of_split hnodup
  rcases awarded_cases fallback (run (grant fallback) held pre) last with
    ⟨hawarded, -⟩ | ⟨-, k, hne, hk⟩
  · refine ⟨last.1, ?_⟩
    rw [run_grant_of_split fallback held hpost, hawarded]
  · -- the other holder has asked already, or does not ask at all
    refine ⟨k, ?_⟩
    have hlater : k ∉ post.map (·.1) := by
      intro hmem
      obtain ⟨d, hd, rfl⟩ := List.mem_map.mp hmem
      rw [run_grant_of_not_mem (hdisjoint _ hmem)] at hk
      exact h pre last post rfl hlast d hd hk
    rw [run_grant_of_split_of_ne hne hlater]
    exact hk

theorem settled_of_allHeld (hother : ∀ c ∈ cs, ∀ d ∈ cs, fallback c.1 c.2 ≠ d.2)
    (hnodup : (cs.map (·.1)).Nodup) (honce : HeldOnce held)
    (h : AllHeld (run (grant fallback) held cs) cs) : Settled held cs := by
  intro pre c post hsplit hlast d hd hname
  have hc : c ∈ cs := by simp [hsplit]
  have hdcs : d ∈ cs := by simp [hsplit, hd]
  obtain ⟨k, hk⟩ := h c hc
  by_cases hasks : k ∈ cs.map (·.1)
  · obtain ⟨e, he, rfl⟩ := List.mem_map.mp hasks
    have hown : e.2 = c.2 := by
      obtain ⟨before, hgot⟩ := exists_awarded fallback held hnodup he
      rw [hk, Option.some.injEq] at hgot
      rcases awarded_cases fallback before e with ⟨hawarded, -⟩ | ⟨hawarded, -⟩
      · rw [hgot, hawarded]
      · exact absurd (hgot.trans hawarded).symm (hother e he c hc)
    -- so it asks before `d` does, while `d` still has the name
    obtain ⟨before, after, rfl, hdafter⟩ :
        ∃ before after, cs = before ++ e :: after ∧ d ∈ after := by
      rw [hsplit] at he
      rcases List.mem_append.mp he with hpre | hrest
      · obtain ⟨before, between, rfl⟩ := List.append_of_mem hpre
        exact ⟨before, between ++ c :: post, by simp [hsplit], by simp [hd]⟩
      · rcases List.mem_cons.mp hrest with rfl | hpost
        · exact ⟨pre, post, hsplit, hd⟩
        · exact absurd hown (hlast e hpost)
    obtain ⟨-, heafter, hdisjoint⟩ := not_mem_of_split hnodup
    have hdkey : d.1 ∈ after.map (·.1) := List.mem_map_of_mem hdafter
    have hstill : run (grant fallback) held before d.1 = some e.2 := by
      rw [run_grant_of_not_mem (hdisjoint _ hdkey), hname, hown]
    have hne : d.1 ≠ e.1 := by
      intro heq
      rw [heq] at hdkey
      exact heafter hdkey
    rw [run_grant_of_split fallback held heafter, awarded_of_held hne hstill,
      Option.some.injEq] at hk
    exact hother e he c hc hk
  · -- without a request of its own, the holder had the name from the start
    rw [run_grant_of_not_mem hasks] at hk
    rw [honce _ _ _ hk hname] at hasks
    exact hasks (List.mem_map_of_mem hdcs)

end Settled

end AyushOms.Lib.Names
