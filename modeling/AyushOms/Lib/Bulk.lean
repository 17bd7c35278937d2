import AyushOms.Lib.Procedure
import AyushOms.Lib.Run

/-!
# Loops with One Memory

A loop runs a procedure for one item after another, each with the memory the items before it
have left. Processed alone, an item has a memory of its own. The items are independent when the
loop cannot be told from one that processes each of them alone.

Often a memory matters by one thing it may hold. An item may need it, restore it or lose it, and
the loops whose items are independent are those in which no item needs it after it was lost.

## Main results

- `independent_cons`: independence item by item
- `Reliance.Sound.independent_iff`: independence by what the items need, restore and lose
-/

namespace AyushOms.Lib.Proc

universe u

variable {σ κ ε α : Type u} {ι : Type*}

/-! ## Section 1: The loop -/

/-- The loop over the items; what an item raises ends it. -/
def forEach (turn : ι → Proc σ κ ε α) : List ι → Proc σ κ ε (List α)
  | [] => pure []
  | i :: rest => do
    let a ← turn i
    let as ← forEach turn rest
    return a :: as

/-- The procedure with a memory of its own. -/
def alone (fresh : κ) (p : Proc σ κ ε α) : Proc σ PUnit ε α := fun _ s =>
  (p fresh s).mapResult fun r => (r.1, PUnit.unit)

/-- As far as the loop comes, it returns one result for each item, and commits and returns what
processing each item alone does. -/
def Independent (turn : ι → Proc σ κ ε α) (fresh : κ) (items : List ι) (k : κ) (s : σ) : Prop :=
  ∀ done, done <+: items →
    (∃ results, (forEach turn done k s).result.1 = .ok results ∧ results.length = done.length) ∧
    SameOutcome (forEach turn done k s)
      (forEach (fun i => alone fresh (turn i)) done PUnit.unit s)

section Loop

variable {turn : ι → Proc σ κ ε α} {fresh k k' : κ} {s : σ} {i : ι} {rest : List ι} {a : α}

/-- A loop goes on where its first item returned. -/
theorem forEach_cons_of_ok (turn : ι → Proc σ κ ε α) (rest : List ι)
    (h : (turn i k s).result = (.ok a, k')) :
    (forEach turn (i :: rest) k s).states =
        (turn i k s).states ++ (forEach turn rest k' ((turn i k s).final s)).states ∧
      (forEach turn (i :: rest) k s).result.1 =
        (forEach turn rest k' ((turn i k s).final s)).result.1.map (a :: ·) := by
  rw [forEach, bind_run, Staged.states_andThen, Staged.result_andThen, h, resume_ok, bind_run,
    Staged.states_andThen, Staged.result_andThen]
  obtain ⟨e | as, k''⟩ := (forEach turn rest k' ((turn i k s).final s)).result
  · exact ⟨congrArg _ (List.append_nil _), rfl⟩
  · exact ⟨congrArg _ (List.append_nil _), rfl⟩

theorem forEach_cons_of_error (rest : List ι) {e : ε} (h : (turn i k s).result.1 = .error e) :
    (forEach turn (i :: rest) k s).result.1 = .error e := by
  rw [forEach]
  exact (bind_of_error h).1

/-- What the items return comes back item by item. -/
theorem length_forEach {items : List ι} {results : List α}
    (h : (forEach turn items k s).result.1 = .ok results) : results.length = items.length := by
  induction items generalizing k s results with
  | nil =>
    cases h
    rfl
  | cons i rest ih =>
    cases hfirst : (turn i k s).result with
    | mk r k' =>
      cases r with
      | error e =>
        rw [forEach_cons_of_error rest (by rw [hfirst])] at h
        cases h
      | ok a =>
        rw [(forEach_cons_of_ok turn rest hfirst).2] at h
        cases hrest : (forEach turn rest k' ((turn i k s).final s)).result.1 with
        | error e =>
          rw [hrest] at h
          cases h
        | ok as =>
          rw [hrest] at h
          obtain rfl := Except.ok.inj h
          rw [List.length_cons, List.length_cons, ih hrest]

/-- A loop that returns begins with an item that returns. -/
theorem forEach_cons_eq_ok {results : List α}
    (h : (forEach turn (i :: rest) k s).result.1 = .ok results) :
    ∃ a k', (turn i k s).result = (.ok a, k') := by
  cases hfirst : (turn i k s).result with
  | mk r k' =>
    cases r with
    | error e =>
      rw [forEach_cons_of_error rest (by rw [hfirst])] at h
      cases h
    | ok a => exact ⟨a, k', rfl⟩

theorem sameOutcome_alone (p : Proc σ κ ε α) (k : PUnit) :
    SameOutcome (alone fresh p k s) (p fresh s) :=
  ⟨Staged.states_mapResult _ _, congrArg Prod.fst (Staged.result_mapResult _ _)⟩

theorem result_alone (p : Proc σ κ ε α) (k : PUnit) :
    (alone fresh p k s).result = ((p fresh s).result.1, PUnit.unit) :=
  Staged.result_mapResult _ _

theorem independent_nil : Independent turn fresh [] k s := by
  intro done hdone
  obtain rfl := List.prefix_nil.mp hdone
  exact ⟨⟨[], rfl, rfl⟩, rfl, rfl⟩

/-- After a first item that is as alone, the loops are the same when the rest of them is. -/
theorem sameOutcome_cons (done : List ι) (hresult : (turn i k s).result = (.ok a, k'))
    (hsame : SameOutcome (turn i k s) (turn i fresh s)) :
    SameOutcome (forEach turn (i :: done) k s)
        (forEach (fun i => alone fresh (turn i)) (i :: done) PUnit.unit s) ↔
      SameOutcome (forEach turn done k' ((turn i k s).final s))
        (forEach (fun i => alone fresh (turn i)) done PUnit.unit ((turn i k s).final s)) := by
  have halone : (alone fresh (turn i) PUnit.unit s).result = (.ok a, PUnit.unit) := by
    rw [result_alone, ← hsame.result_eq, hresult]
  have hstates : (alone fresh (turn i) PUnit.unit s).states = (turn i k s).states :=
    (sameOutcome_alone _ _).states_eq.trans hsame.states_eq.symm
  have hfinal : (alone fresh (turn i) PUnit.unit s).final s = (turn i k s).final s :=
    Staged.final_congr hstates s
  obtain ⟨hstates₁, hresult₁⟩ := forEach_cons_of_ok turn done hresult
  obtain ⟨hstates₂, hresult₂⟩ :=
    forEach_cons_of_ok (fun i => alone fresh (turn i)) done halone
  rw [hstates, hfinal] at hstates₂
  rw [hfinal] at hresult₂
  have hinj : Function.Injective (Except.map (a :: ·) : Except ε (List α) → _) := by
    rintro (e | as) (e' | as') h
    · exact congrArg _ (Except.error.inj h)
    · cases h
    · cases h
    · exact congrArg _ (List.cons_injective (Except.ok.inj h))
  constructor
  · rintro ⟨h, h'⟩
    rw [hstates₁, hstates₂] at h
    rw [hresult₁, hresult₂] at h'
    exact ⟨List.append_cancel_left h, hinj h'⟩
  · rintro ⟨h, h'⟩
    exact ⟨by rw [hstates₁, hstates₂, h], by rw [hresult₁, hresult₂, h']⟩

/-- A loop over one item is as alone when the item is. -/
theorem sameOutcome_of_singleton (hresult : (turn i k s).result = (.ok a, k'))
    (h : SameOutcome (forEach turn [i] k s)
      (forEach (fun i => alone fresh (turn i)) [i] PUnit.unit s)) :
    SameOutcome (turn i k s) (turn i fresh s) := by
  obtain ⟨hstates, hok⟩ := forEach_cons_of_ok turn [] hresult
  obtain ⟨hstates', hok'⟩ := h
  rw [hok] at hok'
  obtain ⟨a', k'', halone⟩ := forEach_cons_eq_ok hok'.symm
  obtain ⟨hstates₂, hok₂⟩ :=
    forEach_cons_of_ok (fun i => alone fresh (turn i)) [] halone
  rw [hstates, hstates₂] at hstates'
  rw [hok₂] at hok'
  have hvalue : [a] = [a'] := Except.ok.inj hok'
  obtain rfl : a = a' := List.head_eq_of_cons_eq hvalue
  refine ⟨?_, ?_⟩
  · have hnil : ∀ {κ' : Type u} (turn : ι → Proc σ κ' ε α) k s,
        (forEach turn [] k s).states = [] := fun _ _ _ => rfl
    rw [hnil, hnil, List.append_nil, List.append_nil] at hstates'
    exact hstates'.trans (sameOutcome_alone _ _).states_eq
  · rw [hresult, ← (sameOutcome_alone (turn i) PUnit.unit).result_eq, halone]

/-- The first item returns and is as alone, and the others are independent where it ended. -/
theorem independent_cons : Independent turn fresh (i :: rest) k s ↔
    ∃ a k', (turn i k s).result = (.ok a, k') ∧ SameOutcome (turn i k s) (turn i fresh s) ∧
      Independent turn fresh rest k' ((turn i k s).final s) := by
  constructor
  · intro h
    obtain ⟨⟨results, hok, -⟩, hone⟩ := h [i] (List.cons_prefix_cons.mpr ⟨rfl, List.nil_prefix⟩)
    obtain ⟨a, k', hresult⟩ := forEach_cons_eq_ok hok
    have hsame := sameOutcome_of_singleton hresult hone
    refine ⟨a, k', hresult, hsame, fun done hdone => ?_⟩
    obtain ⟨⟨results, hok, -⟩, hloop⟩ := h (i :: done) (List.cons_prefix_cons.mpr ⟨rfl, hdone⟩)
    rw [(forEach_cons_of_ok turn done hresult).2] at hok
    refine ⟨?_, (sameOutcome_cons done hresult hsame).mp hloop⟩
    cases hrest : (forEach turn done k' ((turn i k s).final s)).result.1 with
    | error e =>
      rw [hrest] at hok
      cases hok
    | ok results => exact ⟨results, rfl, length_forEach hrest⟩
  · rintro ⟨a, k', hresult, hsame, hrest⟩ done hdone
    cases done with
    | nil => exact ⟨⟨[], rfl, rfl⟩, rfl, rfl⟩
    | cons j done =>
      obtain ⟨rfl, hprefix⟩ := List.cons_prefix_cons.mp hdone
      obtain ⟨⟨results, hok, hlength⟩, hloop⟩ := hrest done hprefix
      refine ⟨⟨a :: results, ?_, congrArg (· + 1) hlength⟩,
        (sameOutcome_cons done hresult hsame).mpr hloop⟩
      rw [(forEach_cons_of_ok turn done hresult).2, hok]
      rfl

end Loop

/-! ## Section 2: What a memory matters by -/

/-- What the items of a loop make of one thing a memory may hold. -/
structure Reliance (ι σ : Type*) where
  /-- The item, processed alone, returns. -/
  Returns : ι → σ → Prop
  /-- It cannot do without. -/
  Needs : ι → σ → Prop
  /-- It puts the thing in memory. -/
  Restores : ι → σ → Prop
  /-- It loses it. -/
  Loses : ι → σ → Prop

namespace Reliance

variable (r : Reliance ι σ) (turn : ι → Proc σ κ ε α) (fresh : κ)

/-- Whether the thing is in memory after an item, and the store then. -/
def after (before : Prop × σ) (i : ι) : Prop × σ :=
  ((before.1 ∨ r.Restores i before.2) ∧ ¬ r.Loses i before.2,
    (turn i fresh before.2).final before.2)

/-- Every item returns, and none needs the thing after it was lost. -/
def Met (items : List ι) (s : σ) : Prop :=
  Along (r.after turn fresh) (fun before i => r.Returns i before.2 ∧
    (before.1 ∨ ¬ r.Needs i before.2)) (True, s) items

/-- The reliance is what the procedures do, for a thing in the memories that `Holds` tells. -/
structure Sound (Holds : κ → Prop) : Prop where
  returns_iff : ∀ i s, r.Returns i s ↔ ∃ a, (turn i fresh s).result.1 = .ok a
  same_iff : ∀ i k s, r.Returns i s →
    (SameOutcome (turn i k s) (turn i fresh s) ↔ Holds k ∨ ¬ r.Needs i s)
  holds_iff : ∀ i k s, r.Returns i s → SameOutcome (turn i k s) (turn i fresh s) →
    (Holds (turn i k s).result.2 ↔ (Holds k ∨ r.Restores i s) ∧ ¬ r.Loses i s)

variable {r turn fresh} {Holds : κ → Prop}

theorem Sound.along_iff (h : r.Sound turn fresh Holds) (items : List ι) {k : κ} {held : Prop}
    (hk : Holds k ↔ held) (s : σ) :
    Independent turn fresh items k s ↔ Along (r.after turn fresh) (fun before i =>
      r.Returns i before.2 ∧ (before.1 ∨ ¬ r.Needs i before.2)) (held, s) items := by
  induction items generalizing k held s with
  | nil => exact iff_of_true independent_nil True.intro
  | cons i rest ih =>
    rw [independent_cons, along_cons]
    constructor
    · rintro ⟨a, k', hresult, hsame, hrest⟩
      have hreturns : r.Returns i s :=
        (h.returns_iff i s).mpr ⟨a, by rw [← hsame.result_eq, hresult]⟩
      have hheld := (h.same_iff i k s hreturns).mp hsame
      have hholds := h.holds_iff i k s hreturns hsame
      rw [hresult, hk] at hholds
      rw [hk] at hheld
      refine ⟨⟨hreturns, hheld⟩, ?_⟩
      rw [after, ← hsame.final_eq]
      exact (ih hholds _).mp hrest
    · rintro ⟨⟨hreturns, hheld⟩, hrest⟩
      rw [← hk] at hheld
      have hsame := (h.same_iff i k s hreturns).mpr hheld
      have hholds := h.holds_iff i k s hreturns hsame
      rw [hk] at hholds
      obtain ⟨a, halone⟩ := (h.returns_iff i s).mp hreturns
      have hok : (turn i k s).result.1 = .ok a := hsame.result_eq.trans halone
      refine ⟨a, (turn i k s).result.2, Prod.ext hok rfl, hsame, ?_⟩
      rw [after, ← hsame.final_eq] at hrest
      exact (ih hholds _).mpr hrest

/-- The items are independent exactly when the reliance is met. -/
theorem Sound.independent_iff (h : r.Sound turn fresh Holds) (items : List ι) {k : κ}
    (hk : Holds k) (s : σ) : Independent turn fresh items k s ↔ r.Met turn fresh items s :=
  h.along_iff items (iff_of_true hk True.intro) s

end Reliance

end AyushOms.Lib.Proc
