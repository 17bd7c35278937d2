import Mathlib.Data.List.Infix

/-!
# Runs of a Deterministic Step Function

A system whose step is a total function of its state and an event runs through a list
of events by folding the step. The rules here lift what one step does to what a whole
run does: an invariant every step keeps, an invariant kept by the steps that meet a
guard, a reflexive and transitive relation between the state before a run and the one
after it, and an exact characterisation of the runs all of whose states are good.
-/

namespace AyushOms.Lib

variable {σ ε : Type*} (step : σ → ε → σ)

/-! ## Section 1: Runs -/

/-- The state after the events of a list, taken one after another. -/
def run (s : σ) (es : List ε) : σ := es.foldl step s

@[simp] theorem run_nil (s : σ) : run step s [] = s := rfl

@[simp] theorem run_cons (s : σ) (e : ε) (es : List ε) :
    run step s (e :: es) = run step (step s e) es := rfl

theorem run_append (s : σ) (es es' : List ε) :
    run step s (es ++ es') = run step (run step s es) es' :=
  List.foldl_append

/-- An invariant that every step keeps holds after every run. -/
theorem run_invariant {Inv : σ → Prop} (hstep : ∀ s e, Inv s → Inv (step s e)) {s : σ}
    (hs : Inv s) (es : List ε) : Inv (run step s es) := by
  induction es generalizing s with
  | nil => exact hs
  | cons e es ih => exact ih (hstep s e hs)

/-- A reflexive, transitive relation that holds across every step holds across every run. -/
theorem run_rel {R : σ → σ → Prop} (hrefl : ∀ s, R s s)
    (htrans : ∀ {a b c}, R a b → R b c → R a c) (hstep : ∀ s e, R s (step s e)) (s : σ)
    (es : List ε) : R s (run step s es) := by
  induction es generalizing s with
  | nil => exact hrefl s
  | cons e es ih => exact htrans (hstep s e) (ih (step s e))

/-! ## Section 2: Guarded runs -/

/-- Every step of the run meets the guard `P` in the state it is taken from. -/
def Along (P : σ → ε → Prop) : σ → List ε → Prop
  | _, [] => True
  | s, e :: es => P s e ∧ Along P (step s e) es

instance Along.decidable {P : σ → ε → Prop} [∀ s e, Decidable (P s e)] :
    ∀ (s : σ) (es : List ε), Decidable (Along step P s es)
  | _, [] => inferInstanceAs (Decidable True)
  | s, e :: es =>
    haveI := Along.decidable (P := P) (step s e) es
    inferInstanceAs (Decidable (P s e ∧ Along step P (step s e) es))

/-- A property of every state the run goes through, the first and the last included. -/
def Throughout (Q : σ → Prop) (s : σ) (es : List ε) : Prop :=
  ∀ pre, pre <+: es → Q (run step s pre)

variable {step}

theorem along_cons {P : σ → ε → Prop} {s : σ} {e : ε} {es : List ε} :
    Along step P s (e :: es) ↔ P s e ∧ Along step P (step s e) es := Iff.rfl

theorem along_append {P : σ → ε → Prop} {s : σ} {es es' : List ε} :
    Along step P s (es ++ es') ↔ Along step P s es ∧ Along step P (run step s es) es' := by
  induction es generalizing s with
  | nil => simp [Along]
  | cons e es ih => simp only [List.cons_append, along_cons, run_cons, ih, and_assoc]

/-- The guard of a run holds at each of its events, in the state the events before it
leave. -/
theorem along_iff_forall_split {P : σ → ε → Prop} {s : σ} {es : List ε} :
    Along step P s es ↔ ∀ pre e post, es = pre ++ e :: post → P (run step s pre) e := by
  constructor
  · rintro h pre e post rfl
    exact (along_append.mp h).2.1
  · intro h
    induction es generalizing s with
    | nil => exact True.intro
    | cons e es ih =>
      refine ⟨h [] e es rfl, ih fun pre e' post heq => ?_⟩
      exact h (e :: pre) e' post (by rw [heq, List.cons_append])

theorem Along.mono {P P' : σ → ε → Prop} (h : ∀ s e, P s e → P' s e) {s : σ} {es : List ε}
    (hrun : Along step P s es) : Along step P' s es :=
  along_iff_forall_split.mpr fun pre e post heq =>
    h _ _ (along_iff_forall_split.mp hrun pre e post heq)

theorem Along.and {P P' : σ → ε → Prop} {s : σ} {es : List ε} (h : Along step P s es)
    (h' : Along step P' s es) : Along step (fun s e => P s e ∧ P' s e) s es :=
  along_iff_forall_split.mpr fun pre e post heq =>
    ⟨along_iff_forall_split.mp h pre e post heq, along_iff_forall_split.mp h' pre e post heq⟩

theorem throughout_nil {Q : σ → Prop} {s : σ} : Throughout step Q s [] ↔ Q s := by
  simp [Throughout]

theorem throughout_cons {Q : σ → Prop} {s : σ} {e : ε} {es : List ε} :
    Throughout step Q s (e :: es) ↔ Q s ∧ Throughout step Q (step s e) es := by
  constructor
  · intro h
    refine ⟨h [] List.nil_prefix, fun pre hpre => ?_⟩
    exact h (e :: pre) (List.cons_prefix_cons.mpr ⟨rfl, hpre⟩)
  · rintro ⟨hs, hrest⟩ pre hpre
    cases pre with
    | nil => exact hs
    | cons e' pre =>
      obtain ⟨rfl, htail⟩ := List.cons_prefix_cons.mp hpre
      exact hrest pre htail

/-- What holds throughout a run holds at its end. -/
theorem Throughout.final {Q : σ → Prop} {s : σ} {es : List ε} (h : Throughout step Q s es) :
    Q (run step s es) :=
  h es List.prefix_rfl

/-- Guarded steps that keep an invariant keep it throughout the run. -/
theorem throughout_of_along {P : σ → ε → Prop} {Inv : σ → Prop}
    (hstep : ∀ s e, Inv s → P s e → Inv (step s e)) {s : σ} {es : List ε} (hs : Inv s)
    (hrun : Along step P s es) : Throughout step Inv s es := by
  induction es generalizing s with
  | nil => exact throughout_nil.mpr hs
  | cons e es ih =>
    obtain ⟨hP, hrest⟩ := along_cons.mp hrun
    exact throughout_cons.mpr ⟨hs, ih (hstep s e hs hP) hrest⟩

/-- When `P` says exactly which steps keep `Q` (in states where the background invariant
holds), the runs all of whose states satisfy `Q` are those whose steps all meet `P`. -/
theorem throughout_iff_along (P : σ → ε → Prop) (Inv Q : σ → Prop)
    (hinv : ∀ s e, Inv s → Inv (step s e))
    (hstep : ∀ s e, Inv s → Q s → (Q (step s e) ↔ P s e)) {s : σ} (es : List ε)
    (hs : Inv s) (hQ : Q s) : Throughout step Q s es ↔ Along step P s es := by
  -- the first step keeps `Q` exactly when it meets `P`; the rest is the induction hypothesis
  induction es generalizing s with
  | nil => exact ⟨fun _ => True.intro, fun _ => throughout_nil.mpr hQ⟩
  | cons e es ih =>
    rw [throughout_cons, along_cons]
    constructor
    · rintro ⟨_, hrest⟩
      have hnext : Q (step s e) := hrest [] List.nil_prefix
      exact ⟨(hstep s e hs hQ).mp hnext, (ih (hinv s e hs) hnext).mp hrest⟩
    · rintro ⟨hP, hrest⟩
      have hnext : Q (step s e) := (hstep s e hs hQ).mpr hP
      exact ⟨hQ, (ih (hinv s e hs) hnext).mpr hrest⟩

end AyushOms.Lib
