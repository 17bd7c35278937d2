import AyushOms.Lib.Run

/-!
# A Counter Kept Two Ways

A collection and a counter of its members, kept apart. A new member adds one to the counter;
an exchange or a removal of a member counts them all again. Both ways agree as long as the
counter is the number of members. A restart sets the counter to zero over the members there
are: from then on new members are still counted one by one, and the next recount moves the
counter by more than the members have changed.

## Main results

- `TallyAct.follows_apply_iff`: when an act moves the counter as it changes the collection
- `Tallied.along_follows_iff`: the runs all of whose acts do
-/

namespace AyushOms.Lib

/-! ## Section 1: Acts on a tally -/

/-- The number of members of a collection, and the counter of them. -/
structure Tally where
  counter : ℤ
  size : ℕ
  deriving DecidableEq, Repr

/-- The counter is the number of members. -/
def Tally.InStep (t : Tally) : Prop := t.counter = t.size

/-- It is not, and there are members that a recount would find. -/
def Tally.Behind (t : Tally) : Prop := ¬ t.InStep ∧ 0 < t.size

/-- What happens to the collection or the counter. -/
inductive TallyAct where
  | add
  | exchange
  | remove
  | restart
  deriving DecidableEq, Repr

namespace TallyAct

/-- A new member is counted, an exchange and a removal count again. -/
def apply : TallyAct → Tally → Tally
  | add, t => ⟨t.counter + 1, t.size + 1⟩
  | exchange, t => ⟨t.size, t.size⟩
  | remove, t => ⟨(t.size - 1 : ℕ), t.size - 1⟩
  | restart, t => ⟨0, t.size⟩

/-- The act counts again. -/
def Recounts (a : TallyAct) : Prop := a = exchange ∨ a = remove

/-- The counter moves as the collection does. -/
def Follows : TallyAct → Tally → Tally → Prop
  | add, t, t' => t'.counter = t.counter + 1
  | exchange, t, t' => t'.counter = t.counter
  | remove, t, t' => t'.counter = t.counter - 1
  | restart, _, _ => True

variable {a : TallyAct} {t : Tally}

/-- An act moves the counter as it should, unless it counts again what was not in step. -/
theorem follows_apply_iff (hremove : a = remove → 0 < t.size) :
    a.Follows t (a.apply t) ↔ (a.Recounts → t.InStep) := by
  cases a with
  | add => simp [Follows, apply, Recounts]
  | exchange => simp [Follows, apply, Recounts, Tally.InStep, eq_comm]
  | remove =>
    have hpos : 0 < t.size := hremove rfl
    simp only [Follows, apply, Recounts, Tally.InStep, or_true, true_implies]
    omega
  | restart => simp [Follows, Recounts]

/-- Only a restart over some members puts the counter out of step. -/
theorem inStep_apply (h : t.InStep) (ha : a = restart → t.size = 0) : (a.apply t).InStep := by
  cases a with
  | add => simpa [Tally.InStep, apply] using h
  | exchange => simp [Tally.InStep, apply]
  | remove => simp [Tally.InStep, apply]
  | restart => simp [Tally.InStep, apply, ha rfl]

end TallyAct

/-! ## Section 2: A system that is tallied -/

variable {σ ε : Type*} {step : σ → ε → σ} {tally : σ → Tally} {act : σ → ε → Option TallyAct}
  {Inv : σ → Prop}

/-- Every step acts on the tally as `act` says, or leaves it, in the states that satisfy an
invariant. -/
structure Tallied (step : σ → ε → σ) (tally : σ → Tally) (act : σ → ε → Option TallyAct)
    (Inv : σ → Prop) : Prop where
  keeps : ∀ s e, Inv s → Inv (step s e)
  acts : ∀ s e a, Inv s → act s e = some a → tally (step s e) = a.apply (tally s)
  rests : ∀ s e, Inv s → act s e = none → tally (step s e) = tally s
  removes : ∀ s e, Inv s → act s e = some .remove → 0 < (tally s).size

/-- The step moves the counter as it changes the collection. -/
def Counted (step : σ → ε → σ) (tally : σ → Tally) (act : σ → ε → Option TallyAct) (s : σ)
    (e : ε) : Prop :=
  ∀ a, act s e = some a → a.Follows (tally s) (tally (step s e))

/-- The step restarts the counter over some members. -/
def RestartsOver (tally : σ → Tally) (act : σ → ε → Option TallyAct) (s : σ) (e : ε) : Prop :=
  act s e = some .restart ∧ 0 < (tally s).size

/-- The step counts the members again. -/
def RecountsAt (act : σ → ε → Option TallyAct) (s : σ) (e : ε) : Prop :=
  ∃ a, act s e = some a ∧ a.Recounts

namespace Tallied

variable {s : σ}

theorem counted_iff (h : Tallied step tally act Inv) (hs : Inv s) (e : ε) :
    Counted step tally act s e ↔ (RecountsAt act s e → (tally s).InStep) := by
  constructor
  · rintro hcounted ⟨a, ha, hrecounts⟩
    have hfollows := hcounted a ha
    rw [h.acts s e a hs ha] at hfollows
    exact (TallyAct.follows_apply_iff fun hremove => h.removes s e hs (hremove ▸ ha)).mp
      hfollows hrecounts
  · intro hinStep a ha
    rw [h.acts s e a hs ha]
    refine (TallyAct.follows_apply_iff fun hremove => h.removes s e hs (hremove ▸ ha)).mpr ?_
    exact fun hrecounts => hinStep ⟨a, ha, hrecounts⟩

theorem inStep_step (h : Tallied step tally act Inv) (hs : Inv s) (hin : (tally s).InStep)
    {e : ε} (hover : ¬ RestartsOver tally act s e) : (tally (step s e)).InStep := by
  cases ha : act s e with
  | none => rwa [h.rests s e hs ha]
  | some a =>
    rw [h.acts s e a hs ha]
    refine TallyAct.inStep_apply hin fun hrestart => ?_
    by_contra hsize
    exact hover ⟨hrestart ▸ ha, Nat.pos_of_ne_zero hsize⟩

/-- A counter that has gone out of step was restarted over some members. -/
theorem exists_restartsOver (h : Tallied step tally act Inv) (hs : Inv s)
    (hin : (tally s).InStep) {es : List ε} (hout : ¬ (tally (run step s es)).InStep) :
    ∃ pre r mid, es = pre ++ r :: mid ∧ RestartsOver tally act (run step s pre) r := by
  induction es generalizing s with
  | nil => exact absurd hin hout
  | cons e es ih =>
    by_cases hover : RestartsOver tally act s e
    · exact ⟨[], e, es, rfl, hover⟩
    · obtain ⟨pre, r, mid, rfl, hr⟩ := ih (h.keeps s e hs) (h.inStep_step hs hin hover) hout
      exact ⟨e :: pre, r, mid, rfl, hr⟩

/-- A step that moves the counter as it should leaves it behind where it was behind. -/
theorem behind_step (h : Tallied step tally act Inv) (hs : Inv s)
    (hbehind : (tally s).Behind) {e : ε} (hcounted : Counted step tally act s e) :
    (tally (step s e)).Behind := by
  have hnot : ¬ RecountsAt act s e := fun hrecounts =>
    hbehind.1 ((h.counted_iff hs e).mp hcounted hrecounts)
  obtain ⟨hout, hpos⟩ := hbehind
  cases ha : act s e with
  | none =>
    rw [h.rests s e hs ha]
    exact ⟨hout, hpos⟩
  | some a =>
    rw [h.acts s e a hs ha]
    cases a with
    | add => exact ⟨by simpa [Tally.InStep, TallyAct.apply] using hout, Nat.succ_pos _⟩
    | exchange => exact absurd ⟨_, ha, .inl rfl⟩ hnot
    | remove => exact absurd ⟨_, ha, .inr rfl⟩ hnot
    | restart =>
      refine ⟨?_, hpos⟩
      simp only [Tally.InStep, TallyAct.apply]
      omega

theorem behind_restartsOver (h : Tallied step tally act Inv) (hs : Inv s) {e : ε}
    (hover : RestartsOver tally act s e) : (tally (step s e)).Behind := by
  obtain ⟨ha, hpos⟩ := hover
  rw [h.acts s e _ hs ha]
  refine ⟨?_, hpos⟩
  simp only [Tally.InStep, TallyAct.apply]
  omega

/-- All steps of a run move the counter as they should exactly when none counts again after a
restart over some members. -/
theorem along_counted_iff (h : Tallied step tally act Inv) (hs : Inv s)
    (hin : (tally s).InStep) (es : List ε) :
    Along step (Counted step tally act) s es ↔
      ∀ pre r mid e post, es = pre ++ r :: (mid ++ e :: post) →
        RestartsOver tally act (run step s pre) r →
        ¬ RecountsAt act (run step s (pre ++ r :: mid)) e := by
  have hinv : ∀ es, Inv (run step s es) := run_invariant step h.keeps hs
  constructor
  · rintro hall pre r mid e post rfl hover hrecounts
    -- behind from the restart on, up to the recount
    have hrest := (along_append.mp hall).2
    obtain ⟨-, hrest⟩ := along_cons.mp hrest
    obtain ⟨hmid, hlast⟩ := along_append.mp hrest
    have hstart : Inv (step (run step s pre) r) ∧ (tally (step (run step s pre) r)).Behind :=
      ⟨h.keeps _ _ (hinv pre), h.behind_restartsOver (hinv pre) hover⟩
    have hbehind : Throughout step (fun s => Inv s ∧ (tally s).Behind)
        (step (run step s pre) r) mid :=
      throughout_of_along (fun s e hs hcounted =>
        ⟨h.keeps s e hs.1, h.behind_step hs.1 hs.2 hcounted⟩) hstart hmid
    obtain ⟨hkept, hout, -⟩ := hbehind.final
    rw [run_append, run_cons] at hrecounts
    exact hout ((h.counted_iff hkept e).mp (along_cons.mp hlast).1 hrecounts)
  · intro hnone
    refine along_iff_forall_split.mpr ?_
    rintro before e post rfl
    refine (h.counted_iff (hinv before) e).mpr fun hrecounts => ?_
    by_contra hout
    obtain ⟨pre, r, mid, rfl, hover⟩ := h.exists_restartsOver hs hin hout
    exact hnone pre r mid e post (by simp) hover hrecounts

end Tallied

end AyushOms.Lib
