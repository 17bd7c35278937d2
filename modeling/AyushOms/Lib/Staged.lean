import Mathlib.Data.List.Chain

/-!
# Procedures that Commit in Stages

A procedure that commits its work several times leaves a durable state after each commit.
It is modelled by the list of the states it commits, ended by its result: what an
observer, or the procedure's own retry, can find in the store when it is interrupted is
the state before the first commit or one of those.

## Main results

- `Staged.cut_of_commits_le`: a cut after the last commit is no cut
- `Staged.Durable.cut`: what holds before the procedure and of every state it commits holds
  wherever it is interrupted
- `Staged.history_isChain`: what every commit of every call keeps, every run of calls keeps
-/

namespace AyushOms.Lib

/-- A procedure over a store `σ` with result `ρ`, as the sequence of its commits. -/
inductive Staged (σ ρ : Type*) where
  | done (result : ρ)
  | commit (state : σ) (next : Staged σ ρ)

namespace Staged

variable {σ ρ : Type*}

/-- The store when the procedure has run to its end from `s`. -/
def final (s : σ) : Staged σ ρ → σ
  | done _ => s
  | commit s' next => next.final s'

/-- What the procedure returns. -/
def result : Staged σ ρ → ρ
  | done r => r
  | commit _ next => next.result

/-- How often it commits. -/
def commits : Staged σ ρ → ℕ
  | done _ => 0
  | commit _ next => next.commits + 1

/-- The store when the procedure is interrupted after `n` commits (or after its last). -/
def cut (s : σ) : ℕ → Staged σ ρ → σ
  | 0, _ => s
  | _ + 1, done _ => s
  | n + 1, commit s' next => next.cut s' n

@[simp] theorem final_done (s : σ) (r : ρ) : (done r : Staged σ ρ).final s = s := rfl

@[simp] theorem final_commit (s s' : σ) (next : Staged σ ρ) :
    (commit s' next).final s = next.final s' := rfl

@[simp] theorem result_done (r : ρ) : (done r : Staged σ ρ).result = r := rfl

@[simp] theorem result_commit (s' : σ) (next : Staged σ ρ) :
    (commit s' next).result = next.result := rfl

@[simp] theorem cut_zero (s : σ) (p : Staged σ ρ) : p.cut s 0 = s := by
  cases p <;> rfl

@[simp] theorem cut_done (s : σ) (n : ℕ) (r : ρ) : (done r : Staged σ ρ).cut s n = s := by
  cases n <;> rfl

@[simp] theorem cut_commit_succ (s s' : σ) (n : ℕ) (next : Staged σ ρ) :
    (commit s' next).cut s (n + 1) = next.cut s' n := rfl

/-- Interrupting a procedure after its last commit is not interrupting it. -/
theorem cut_of_commits_le {p : Staged σ ρ} {s : σ} {n : ℕ} (h : p.commits ≤ n) :
    p.cut s n = p.final s := by
  induction p generalizing s n with
  | done r => simp
  | commit s' next ih =>
    cases n with
    | zero => simp [commits] at h
    | succ n => exact ih (Nat.le_of_succ_le_succ h)

/-- A property of every state the procedure commits. -/
def Durable (P : σ → Prop) : Staged σ ρ → Prop
  | done _ => True
  | commit s next => P s ∧ Durable P next

theorem Durable.mono {P Q : σ → Prop} (h : ∀ s, P s → Q s) {p : Staged σ ρ}
    (hp : Durable P p) : Durable Q p := by
  induction p with
  | done r => exact True.intro
  | commit s next ih => exact ⟨h s hp.1, ih hp.2⟩

/-- What holds before the procedure and of every state it commits holds at every cut. -/
theorem Durable.cut {P : σ → Prop} {p : Staged σ ρ} {s : σ} (hp : Durable P p) (hs : P s)
    (n : ℕ) : P (p.cut s n) := by
  induction p generalizing s n with
  | done r =>
    rw [cut_done]
    exact hs
  | commit s' next ih =>
    -- an interruption before the first commit finds the state before the procedure
    cases n with
    | zero => exact hs
    | succ n => exact ih hp.2 hp.1 n

/-- In particular it holds at the end. -/
theorem Durable.final {P : σ → Prop} {p : Staged σ ρ} {s : σ} (hp : Durable P p) (hs : P s) :
    P (p.final s) := by
  rw [← cut_of_commits_le (Nat.le_refl p.commits)]
  exact hp.cut hs _

/-! ## Section 2: Procedures one after another -/

variable {ρ' : Type*}

/-- Go on with `f` from the last state, given the result. -/
def andThen (s : σ) : Staged σ ρ → (σ → ρ → Staged σ ρ') → Staged σ ρ'
  | done r, f => f s r
  | commit s' next, f => commit s' (next.andThen s' f)

@[simp] theorem andThen_done (s : σ) (r : ρ) (f : σ → ρ → Staged σ ρ') :
    (done r).andThen s f = f s r := rfl

@[simp] theorem andThen_commit (s s' : σ) (next : Staged σ ρ) (f : σ → ρ → Staged σ ρ') :
    (commit s' next).andThen s f = commit s' (next.andThen s' f) := rfl

theorem andThen_assoc {ρ'' : Type*} (p : Staged σ ρ) (f : σ → ρ → Staged σ ρ')
    (g : σ → ρ' → Staged σ ρ'') (s : σ) :
    (p.andThen s f).andThen s g = p.andThen s fun s' r => (f s' r).andThen s' g := by
  induction p generalizing s with
  | done r => rfl
  | commit s' next ih => rw [andThen_commit, andThen_commit, andThen_commit, ih s']

theorem andThen_result (p : Staged σ ρ) (s : σ) : p.andThen s (fun _ r => done r) = p := by
  induction p generalizing s with
  | done r => rfl
  | commit s' next ih => rw [andThen_commit, ih s']

/-- What follows matters only where the procedure ends. -/
theorem andThen_congr {p : Staged σ ρ} {f g : σ → ρ → Staged σ ρ'} {s : σ}
    (h : f (p.final s) p.result = g (p.final s) p.result) : p.andThen s f = p.andThen s g := by
  induction p generalizing s with
  | done r => exact h
  | commit s' next ih => exact congrArg (commit s') (ih h)

theorem final_andThen (p : Staged σ ρ) (f : σ → ρ → Staged σ ρ') (s : σ) :
    (p.andThen s f).final s = (f (p.final s) p.result).final (p.final s) := by
  induction p generalizing s with
  | done r => rfl
  | commit s' next ih => exact ih s'

theorem result_andThen (p : Staged σ ρ) (f : σ → ρ → Staged σ ρ') (s : σ) :
    (p.andThen s f).result = (f (p.final s) p.result).result := by
  induction p generalizing s with
  | done r => rfl
  | commit s' next ih => exact ih s'

/-- A cut within the first procedure does not see the second. -/
theorem cut_andThen_of_le {p : Staged σ ρ} {f : σ → ρ → Staged σ ρ'} {s : σ} {n : ℕ}
    (h : n ≤ p.commits) : (p.andThen s f).cut s n = p.cut s n := by
  induction p generalizing s n with
  | done r =>
    obtain rfl : n = 0 := Nat.le_zero.mp h
    simp
  | commit s' next ih =>
    cases n with
    | zero => simp
    | succ n => exact ih (Nat.le_of_succ_le_succ h)

theorem cut_andThen_of_ge {p : Staged σ ρ} {f : σ → ρ → Staged σ ρ'} {s : σ} (n : ℕ) :
    (p.andThen s f).cut s (p.commits + n) = (f (p.final s) p.result).cut (p.final s) n := by
  induction p generalizing s with
  | done r => simp [commits]
  | commit s' next ih =>
    rw [commits, Nat.add_right_comm]
    exact ih

/-- What commits nothing after the procedure changes no cut of it. -/
theorem cut_andThen_done {p : Staged σ ρ} {f : σ → ρ → Staged σ ρ'}
    (hf : ∀ s r, ∃ r', f s r = done r') (s : σ) (n : ℕ) : (p.andThen s f).cut s n = p.cut s n := by
  induction p generalizing s n with
  | done r =>
    obtain ⟨r', hr'⟩ := hf s r
    rw [andThen_done, hr', cut_done, cut_done]
  | commit s' next ih =>
    cases n with
    | zero => rw [cut_zero, cut_zero]
    | succ n => exact ih s' n

/-- The procedure with another result. -/
def mapResult (f : ρ → ρ') : Staged σ ρ → Staged σ ρ'
  | done r => done (f r)
  | commit s next => commit s (next.mapResult f)

@[simp] theorem mapResult_done (f : ρ → ρ') (r : ρ) :
    (done r : Staged σ ρ).mapResult f = done (f r) := rfl

@[simp] theorem mapResult_commit (f : ρ → ρ') (s : σ) (next : Staged σ ρ) :
    (commit s next).mapResult f = commit s (next.mapResult f) := rfl

theorem mapResult_eq_andThen (f : ρ → ρ') (p : Staged σ ρ) (s : σ) :
    p.mapResult f = p.andThen s fun _ r => done (f r) := by
  induction p generalizing s with
  | done r => rfl
  | commit s' next ih => exact congrArg (commit s') (ih s')

@[simp] theorem result_mapResult (f : ρ → ρ') (p : Staged σ ρ) :
    (p.mapResult f).result = f p.result := by
  induction p with
  | done r => rfl
  | commit s next ih => exact ih

@[simp] theorem final_mapResult (f : ρ → ρ') (p : Staged σ ρ) (s : σ) :
    (p.mapResult f).final s = p.final s := by
  induction p generalizing s with
  | done r => rfl
  | commit s' next ih => exact ih s'

theorem cut_mapResult (f : ρ → ρ') (p : Staged σ ρ) (s : σ) (n : ℕ) :
    (p.mapResult f).cut s n = p.cut s n := by
  induction p generalizing s n with
  | done r => rw [mapResult_done, cut_done, cut_done]
  | commit s' next ih =>
    cases n with
    | zero => rw [cut_zero, cut_zero]
    | succ n => exact ih s' n

/-- The procedure over a larger store, `put` writing the part it works on. -/
def lift {σ' : Type*} (put : σ → σ') : Staged σ ρ → Staged σ' ρ
  | done r => done r
  | commit s next => commit (put s) (next.lift put)

@[simp] theorem result_lift {σ' : Type*} (put : σ → σ') (p : Staged σ ρ) :
    (p.lift put).result = p.result := by
  induction p with
  | done r => rfl
  | commit s next ih => exact ih

theorem cut_lift {σ' : Type*} (put : σ → σ') (p : Staged σ ρ) (s : σ) (n : ℕ) :
    (p.lift put).cut (put s) n = put (p.cut s n) := by
  induction p generalizing s n with
  | done r =>
    rw [cut_done]
    exact cut_done _ n r
  | commit s' next ih =>
    cases n with
    | zero => rw [cut_zero, cut_zero]
    | succ n => exact ih s' n

theorem final_lift {σ' : Type*} (put : σ → σ') (p : Staged σ ρ) (s : σ) :
    (p.lift put).final (put s) = put (p.final s) := by
  induction p generalizing s with
  | done r => rfl
  | commit s' next ih => exact ih s'

/-- The procedure ends with `r` after `n` commits, or after its last. -/
def failAt (r : ρ) : ℕ → Staged σ ρ → Staged σ ρ
  | 0, _ => done r
  | _ + 1, done _ => done r
  | n + 1, commit s next => commit s (next.failAt r n)

@[simp] theorem result_failAt (r : ρ) (n : ℕ) (p : Staged σ ρ) : (p.failAt r n).result = r := by
  induction p generalizing n with
  | done r' => cases n <;> rfl
  | commit s' next ih =>
    cases n with
    | zero => rfl
    | succ n => exact ih n

@[simp] theorem final_failAt (r : ρ) (n : ℕ) (p : Staged σ ρ) (s : σ) :
    (p.failAt r n).final s = p.cut s n := by
  induction p generalizing n s with
  | done r' => cases n <;> rfl
  | commit s' next ih =>
    cases n with
    | zero => rfl
    | succ n => exact ih n s'

/-- How often a procedure commits and what it commits does not depend on its result. -/
theorem mapResult_failAt {ρ' : Type*} (f : ρ → ρ') (r : ρ) (n : ℕ) (p : Staged σ ρ) :
    (p.failAt r n).mapResult f = (p.mapResult f).failAt (f r) n := by
  induction p generalizing n with
  | done r' => cases n <;> rfl
  | commit s' next ih =>
    cases n with
    | zero => rfl
    | succ n => exact congrArg (commit s') (ih n)

@[simp] theorem commits_mapResult (f : ρ → ρ') (p : Staged σ ρ) :
    (p.mapResult f).commits = p.commits := by
  induction p with
  | done r => rfl
  | commit s' next ih => exact congrArg (· + 1) ih

/-! ## Section 3: What every commit does -/

/-- Every commit is related by `R` to the state before it. -/
def Steps (R : σ → σ → Prop) (s : σ) : Staged σ ρ → Prop
  | done _ => True
  | commit s' next => R s s' ∧ Steps R s' next

theorem Steps.commit {R : σ → σ → Prop} {s s' : σ} {next : Staged σ ρ} (h : R s s')
    (hnext : next.Steps R s') : (Staged.commit s' next).Steps R s := ⟨h, hnext⟩

theorem Steps.mono {R R' : σ → σ → Prop} (h : ∀ s s', R s s' → R' s s') {p : Staged σ ρ} {s : σ}
    (hp : p.Steps R s) : p.Steps R' s := by
  induction p generalizing s with
  | done r => exact True.intro
  | commit s' next ih => exact ⟨h s s' hp.1, ih hp.2⟩

theorem Steps.andThen_of {R : σ → σ → Prop} {p : Staged σ ρ} {f : σ → ρ → Staged σ ρ'} {s : σ}
    (hp : p.Steps R s) (hf : (f (p.final s) p.result).Steps R (p.final s)) :
    (p.andThen s f).Steps R s := by
  induction p generalizing s with
  | done r => exact hf
  | commit s' next ih => exact ⟨hp.1, ih hp.2 hf⟩

theorem Steps.andThen {R : σ → σ → Prop} {p : Staged σ ρ} {f : σ → ρ → Staged σ ρ'} {s : σ}
    (hp : p.Steps R s) (hf : ∀ s r, (f s r).Steps R s) : (p.andThen s f).Steps R s :=
  hp.andThen_of (hf _ _)

theorem Steps.failAt {R : σ → σ → Prop} {p : Staged σ ρ} {s : σ} (hp : p.Steps R s) (r : ρ)
    (n : ℕ) : (p.failAt r n).Steps R s := by
  induction p generalizing n s with
  | done r' => cases n <;> exact True.intro
  | commit s' next ih =>
    cases n with
    | zero => exact True.intro
    | succ n => exact ⟨hp.1, ih hp.2 n⟩

/-- A reflexive, transitive relation every commit keeps relates a cut to the state before
the procedure. -/
theorem Steps.cut {R : σ → σ → Prop} (hrefl : ∀ s, R s s)
    (htrans : ∀ {a b c}, R a b → R b c → R a c) {p : Staged σ ρ} {s : σ} (hp : p.Steps R s)
    (n : ℕ) : R s (p.cut s n) := by
  induction p generalizing s n with
  | done r =>
    rw [cut_done]
    exact hrefl s
  | commit s' next ih =>
    cases n with
    | zero => exact hrefl s
    | succ n => exact htrans hp.1 (ih hp.2 n)

theorem Steps.final {R : σ → σ → Prop} (hrefl : ∀ s, R s s)
    (htrans : ∀ {a b c}, R a b → R b c → R a c) {p : Staged σ ρ} {s : σ} (hp : p.Steps R s) :
    R s (p.final s) := by
  rw [← cut_of_commits_le (Nat.le_refl p.commits)]
  exact hp.cut hrefl htrans _

/-- An invariant every commit keeps holds of every state committed. -/
theorem Steps.durable {Inv : σ → Prop} {p : Staged σ ρ} {s : σ}
    (hp : p.Steps (fun s s' => Inv s → Inv s') s) (hs : Inv s) : p.Durable Inv := by
  induction p generalizing s with
  | done r => exact True.intro
  | commit s' next ih => exact ⟨hp.1 hs, ih hp.2 (hp.1 hs)⟩

/-! ## Section 4: Runs of interrupted calls -/

/-- The states the procedure commits, one after another. -/
def states : Staged σ ρ → List σ
  | done _ => []
  | commit s next => s :: next.states

@[simp] theorem states_mapResult {ρ' : Type*} (f : ρ → ρ') (p : Staged σ ρ) :
    (p.mapResult f).states = p.states := by
  induction p with
  | done r => rfl
  | commit s next ih => simp only [mapResult_commit, states, ih]

@[simp] theorem states_lift {σ' : Type*} (put : σ → σ') (p : Staged σ ρ) :
    (p.lift put).states = p.states.map put := by
  induction p with
  | done r => rfl
  | commit s next ih => exact congrArg (put s :: ·) ih

theorem length_states (p : Staged σ ρ) : p.states.length = p.commits := by
  induction p with
  | done r => rfl
  | commit s next ih => exact congrArg (· + 1) ih

theorem states_failAt (r : ρ) (n : ℕ) (p : Staged σ ρ) :
    (p.failAt r n).states = p.states.take n := by
  induction p generalizing n with
  | done r' => cases n <;> rfl
  | commit s next ih =>
    cases n with
    | zero => rfl
    | succ n => exact congrArg (s :: ·) (ih n)

/-- A procedure that commits nothing leaves the store alone. -/
theorem final_of_states_eq_nil {p : Staged σ ρ} (h : p.states = []) (s : σ) : p.final s = s := by
  cases p with
  | done r => rfl
  | commit s' next => cases h

/-- Nor does one that is cut before its first commit. -/
theorem cut_of_take_states_eq_nil {p : Staged σ ρ} {n : ℕ} (h : p.states.take n = []) (s : σ) :
    p.cut s n = s := by
  rw [← final_failAt p.result n p s]
  exact final_of_states_eq_nil ((states_failAt p.result n p).trans h) s

/-- The store in the end is the last state committed. -/
theorem final_congr {p : Staged σ ρ} {q : Staged σ ρ'} (h : p.states = q.states) (s : σ) :
    p.final s = q.final s := by
  induction p generalizing q s with
  | done r => exact (final_of_states_eq_nil h.symm s).symm
  | commit s' next ih =>
    cases q with
    | done r => cases h
    | commit t q =>
      obtain ⟨rfl, hnext⟩ := List.cons.inj h
      exact ih hnext s'

theorem states_andThen {ρ' : Type*} (p : Staged σ ρ) (f : σ → ρ → Staged σ ρ') (s : σ) :
    (p.andThen s f).states = p.states ++ (f (p.final s) p.result).states := by
  induction p generalizing s with
  | done r => rfl
  | commit s' next ih =>
    rw [andThen_commit, states, states, ih s', List.cons_append]
    rfl

theorem steps_iff_isChain {R : σ → σ → Prop} {p : Staged σ ρ} {s : σ} :
    p.Steps R s ↔ (s :: p.states).IsChain R := by
  induction p generalizing s with
  | done r => simp [Steps, states]
  | commit s' next ih => rw [Steps, states, List.isChain_cons_cons, ih]

@[simp] theorem steps_mapResult {ρ' : Type*} {R : σ → σ → Prop} (f : ρ → ρ') (p : Staged σ ρ)
    (s : σ) : (p.mapResult f).Steps R s ↔ p.Steps R s := by
  rw [steps_iff_isChain, steps_iff_isChain, states_mapResult]

/-- A transitive relation every commit keeps relates the state before the procedure to every
state committed. -/
theorem Steps.of_mem_states {R : σ → σ → Prop} (htrans : ∀ {a b c}, R a b → R b c → R a c)
    {p : Staged σ ρ} {s : σ} (hp : p.Steps R s) {s' : σ} (h : s' ∈ p.states) : R s s' := by
  induction p generalizing s with
  | done r => exact absurd h List.not_mem_nil
  | commit s₁ next ih =>
    rcases List.mem_cons.mp h with rfl | h
    · exact hp.1
    · exact htrans hp.1 (ih hp.2 h)

/-- The last of the states before a cut is the cut. -/
theorem getLast?_take_states (p : Staged σ ρ) (s : σ) (n : ℕ) :
    (s :: p.states.take n).getLast? = some (p.cut s n) := by
  induction p generalizing s n with
  | done r => simp [states]
  | commit s' next ih =>
    cases n with
    | zero => simp
    | succ n =>
      rw [states, List.take_succ_cons, List.getLast?_cons_cons, cut_commit_succ]
      exact ih s' n

variable {ε : Type*} (call : σ → ε → Staged σ ρ)

/-- A call that is interrupted after `n` commits. -/
def interrupt (s : σ) (e : ε × ℕ) : σ := (call s e.1).cut s e.2

/-- The states a run of calls commits, each call interrupted where the run says. -/
def history (s : σ) : List (ε × ℕ) → List σ
  | [] => []
  | e :: es => (call s e.1).states.take e.2 ++ history (interrupt call s e) es

variable {call}

/-- What relates every commit of every call relates the states of every run. -/
theorem history_isChain {R : σ → σ → Prop} (h : ∀ s e, (call s e).Steps R s) (s : σ)
    (es : List (ε × ℕ)) : (s :: history call s es).IsChain R := by
  induction es generalizing s with
  | nil => exact List.isChain_singleton s
  | cons e es ih =>
    rw [history, ← List.cons_append, List.isChain_append]
    have hcall := (steps_iff_isChain.mp (h s e.1)).take (e.2 + 1)
    rw [List.take_succ_cons] at hcall
    have hrest := ih (interrupt call s e)
    refine ⟨hcall, hrest.tail, fun a ha b hb => ?_⟩
    -- the run goes on from the state the call was cut in
    rw [getLast?_take_states] at ha
    obtain rfl : interrupt call s e = a := Option.some.inj ha
    exact (List.isChain_cons.mp hrest).1 b hb

end Staged

end AyushOms.Lib
