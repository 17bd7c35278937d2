import AyushOms.Lib.Staged

/-!
# Procedures of a Request

A request runs procedures over a durable store `σ`. It keeps what it has in memory (`κ`),
commits states of the store one after another, and ends with a value or an exception. The
exception may be caught, and what was committed before it stays committed.

## Main results

- `Proc.Commits.bind`, `Proc.Commits.tryCatch`, `Proc.Commits.forM`: what every commit does,
  from what the parts' commits do
- `Proc.Spec.bind`, `Proc.Spec.tryCatch`: what holds at the end, from what holds at the start
-/

namespace AyushOms.Lib

universe u

/-- A procedure with result `α` and exceptions `ε`. -/
def Proc (σ κ ε α : Type u) : Type u := κ → σ → Staged σ (Except ε α × κ)

namespace Proc

variable {σ κ ε α β : Type u}

/-! ## Section 1: The monad -/

/-- Go on with the value or with the exception a procedure ended with. -/
def resume (f : α → Proc σ κ ε β) (g : ε → Proc σ κ ε β) (s : σ) :
    Except ε α × κ → Staged σ (Except ε β × κ)
  | (.ok a, k) => f a k s
  | (.error e, k) => g e k s

/-- The value and the exception go their ways, from wherever the first procedure ended. -/
def thenElse (p : Proc σ κ ε α) (f : α → Proc σ κ ε β) (g : ε → Proc σ κ ε β) : Proc σ κ ε β :=
  fun k s => (p k s).andThen s (resume f g)

/-- Raise an exception. -/
def raise (e : ε) : Proc σ κ ε α := fun k _ => .done (.error e, k)

instance : Monad (Proc σ κ ε) where
  pure a := fun k _ => .done (.ok a, k)
  bind p f := p.thenElse f raise

instance : MonadExceptOf ε (Proc σ κ ε) where
  throw := raise
  tryCatch p g := p.thenElse pure g

/-- The durable store as it is now. -/
def store : Proc σ κ ε σ := fun k s => .done (.ok s, k)

/-- Read or change what the request has in memory. -/
def memory (f : κ → Except ε α × κ) : Proc σ κ ε α := fun k _ => .done (f k)

/-- One transaction: refused with an exception, or committed. -/
def transact (f : σ → Except ε (α × σ)) : Proc σ κ ε α := fun k s =>
  match f s with
  | .error e => .done (.error e, k)
  | .ok (a, s') => .commit s' (.done (.ok a, k))

theorem bind_pure (p : Proc σ κ ε α) : p >>= pure = p := by
  funext k s
  refine Eq.trans ?_ (Staged.andThen_result (p k s) s)
  refine congrArg ((p k s).andThen s) (funext fun s' => funext fun r => ?_)
  obtain ⟨a | a, k'⟩ := r <;> rfl

theorem bind_assoc {γ : Type u} (p : Proc σ κ ε α) (f : α → Proc σ κ ε β)
    (g : β → Proc σ κ ε γ) : (p >>= f) >>= g = p >>= fun a => f a >>= g := by
  funext k s
  refine (Staged.andThen_assoc _ _ _ _).trans ?_
  refine congrArg ((p k s).andThen s) (funext fun s' => funext fun r => ?_)
  obtain ⟨a | a, k'⟩ := r <;> rfl

theorem map_bind {γ : Type u} (f : α → β) (p : Proc σ κ ε α) (g : β → Proc σ κ ε γ) :
    (f <$> p) >>= g = p >>= fun a => g (f a) := by
  funext k s
  refine (Staged.andThen_assoc _ _ _ _).trans ?_
  refine congrArg ((p k s).andThen s) (funext fun s' => funext fun r => ?_)
  obtain ⟨a | a, k'⟩ := r <;> rfl

theorem tryCatch_map (f : α → β) (p : Proc σ κ ε α) (g : ε → Proc σ κ ε α) :
    (tryCatch (f <$> p) fun e => f <$> g e) = f <$> tryCatch p g := by
  funext k s
  refine (Staged.andThen_assoc _ _ _ _).trans (Eq.trans ?_ (Staged.andThen_assoc _ _ _ _).symm)
  refine congrArg ((p k s).andThen s) (funext fun s' => funext fun r => ?_)
  obtain ⟨a | a, k'⟩ := r <;> rfl

/-! ## Section 2: Running a procedure -/

section Run

variable (k : κ) (s : σ)

theorem pure_run (a : α) : (pure a : Proc σ κ ε α) k s = .done (.ok a, k) := rfl

theorem raise_run (e : ε) : (raise e : Proc σ κ ε α) k s = .done (.error e, k) := rfl

theorem store_run : (store : Proc σ κ ε σ) k s = .done (.ok s, k) := rfl

theorem memory_run (f : κ → Except ε α × κ) :
    (memory f : Proc σ κ ε α) k s = .done (f k) := rfl

theorem bind_run (p : Proc σ κ ε α) (f : α → Proc σ κ ε β) :
    (p >>= f) k s = (p k s).andThen s (resume f raise) := rfl

theorem forM_cons_run {γ : Type u} (f : γ → Proc σ κ ε PUnit) (x : γ) (xs : List γ) :
    ((x :: xs).forM f) k s = (f x k s).andThen s (resume (fun _ => xs.forM f) raise) := rfl

theorem tryCatch_run (p : Proc σ κ ε α) (g : ε → Proc σ κ ε α) :
    (tryCatch p g : Proc σ κ ε α) k s = (p k s).andThen s (resume pure g) := rfl

@[simp] theorem resume_ok (f : α → Proc σ κ ε β) (g : ε → Proc σ κ ε β) (a : α) :
    resume f g s (.ok a, k) = f a k s := rfl

@[simp] theorem resume_error (f : α → Proc σ κ ε β) (g : ε → Proc σ κ ε β) (e : ε) :
    resume f g s (.error e, k) = g e k s := rfl

/-- A sequence that returned has gone on from where its first part returned. -/
theorem result_bind_eq_ok {p : Proc σ κ ε α} {f : α → Proc σ κ ε β} {k k'' : κ} {s : σ} {b : β} :
    ((p >>= f) k s).result = (.ok b, k'') ↔ ∃ a k', (p k s).result = (.ok a, k') ∧
      (f a k' ((p k s).final s)).result = (.ok b, k'') := by
  rw [bind_run, Staged.result_andThen]
  obtain ⟨e | a, k'⟩ := (p k s).result
  · refine iff_of_false (fun h => ?_) ?_
    · cases h
    · rintro ⟨a, k', h, -⟩
      cases h
  · constructor
    · intro h
      exact ⟨a, k', rfl, h⟩
    · rintro ⟨a, k', h, h'⟩
      cases h
      exact h'

/-- A sequence goes on where its first part returned. -/
theorem bind_of_ok {p : Proc σ κ ε α} {f : α → Proc σ κ ε β} {k k' : κ} {s : σ} {a : α}
    (h : (p k s).result = (.ok a, k')) :
    ((p >>= f) k s).result = (f a k' ((p k s).final s)).result ∧
      ((p >>= f) k s).final s = (f a k' ((p k s).final s)).final ((p k s).final s) := by
  rw [bind_run, Staged.result_andThen, Staged.final_andThen, h]
  exact ⟨rfl, rfl⟩

/-- What raises ends a sequence. -/
theorem bind_of_error {p : Proc σ κ ε α} {f : α → Proc σ κ ε β} {k : κ} {s : σ} {e : ε}
    (h : (p k s).result.1 = .error e) :
    ((p >>= f) k s).result.1 = .error e ∧ ((p >>= f) k s).final s = (p k s).final s := by
  rw [bind_run, Staged.result_andThen, Staged.final_andThen, ← Prod.eta (p k s).result, h]
  exact ⟨rfl, rfl⟩

/-- How a procedure ends inside a handler that commits nothing and always returns. -/
def settle (f : α → β) (report : ε → β) (recover : ε → κ → κ) : Except ε α × κ → Except ε β × κ
  | (.ok a, k) => (.ok (f a), k)
  | (.error e, k) => (.ok (report e), recover e k)

/-- Such a handler changes how the procedure ends, and no more. -/
theorem tryCatch_run_of_silent {p : Proc σ κ ε α} {f : α → β} {g : ε → Proc σ κ ε β}
    {report : ε → β} {recover : ε → κ → κ}
    (hg : ∀ e k s, g e k s = .done (.ok (report e), recover e k)) (k : κ) (s : σ) :
    tryCatch (p >>= fun a => pure (f a)) g k s = (p k s).mapResult (settle f report recover) := by
  rw [tryCatch_run, bind_run, Staged.andThen_assoc, Staged.mapResult_eq_andThen _ _ s]
  refine congrArg (Staged.andThen s (p k s)) (funext fun s' => funext fun r => ?_)
  obtain ⟨e | a, k'⟩ := r
  · exact hg e k' s'
  · rfl

/-- Returning something else commits the same states. -/
theorem cut_map {p : Proc σ κ ε α} {g : α → β} {k : κ} {s : σ} (n : ℕ) :
    ((p >>= fun a => pure (g a)) k s).cut s n = (p k s).cut s n :=
  Staged.cut_andThen_done (fun s' r => by
    obtain ⟨a | a, k'⟩ := r
    · exact ⟨_, rfl⟩
    · exact ⟨_, rfl⟩) s n

end Run

/-! ## Section 3: What the commits do -/

/-- Whatever the request has in memory, every commit is related by `R` to the store before
it. -/
def Commits (R : σ → σ → Prop) (p : Proc σ κ ε α) : Prop := ∀ k s, (p k s).Steps R s

namespace Commits

variable {R : σ → σ → Prop}

theorem mono {R' : σ → σ → Prop} (h : ∀ s s', R s s' → R' s s') {p : Proc σ κ ε α}
    (hp : p.Commits R) : p.Commits R' := fun k s => (hp k s).mono h

theorem pure (a : α) : (Pure.pure a : Proc σ κ ε α).Commits R := fun _ _ => True.intro

theorem raise (e : ε) : (Proc.raise e : Proc σ κ ε α).Commits R := fun _ _ => True.intro

theorem throw (e : ε) : (MonadExcept.throw e : Proc σ κ ε α).Commits R := fun _ _ => True.intro

theorem store : (Proc.store : Proc σ κ ε σ).Commits R := fun _ _ => True.intro

theorem memory (f : κ → Except ε α × κ) : (Proc.memory f : Proc σ κ ε α).Commits R :=
  fun _ _ => True.intro

theorem transact {f : σ → Except ε (α × σ)} (h : ∀ s a s', f s = .ok (a, s') → R s s') :
    (Proc.transact f : Proc σ κ ε α).Commits R := by
  intro k s
  unfold Proc.transact
  split
  · exact True.intro
  · rename_i a s' hf
    exact ⟨h s a s' hf, True.intro⟩

theorem thenElse {p : Proc σ κ ε α} {f : α → Proc σ κ ε β} {g : ε → Proc σ κ ε β}
    (hp : p.Commits R) (hf : ∀ a, (f a).Commits R) (hg : ∀ e, (g e).Commits R) :
    (p.thenElse f g).Commits R := by
  refine fun k s => (hp k s).andThen fun s' r => ?_
  obtain ⟨a | a, k'⟩ := r
  · exact hg a k' s'
  · exact hf a k' s'

theorem bind {p : Proc σ κ ε α} {f : α → Proc σ κ ε β} (hp : p.Commits R)
    (hf : ∀ a, (f a).Commits R) : (p >>= f).Commits R :=
  hp.thenElse hf raise

theorem map {p : Proc σ κ ε α} (f : α → β) (hp : p.Commits R) : (f <$> p).Commits R :=
  hp.bind fun _ => pure _

theorem tryCatch {p : Proc σ κ ε α} {g : ε → Proc σ κ ε α} (hp : p.Commits R)
    (hg : ∀ e, (g e).Commits R) : (MonadExcept.tryCatch p g).Commits R :=
  hp.thenElse pure hg

theorem ite {c : Prop} [Decidable c] {p q : Proc σ κ ε α} (hp : p.Commits R)
    (hq : q.Commits R) : (if c then p else q).Commits R := by
  split
  · exact hp
  · exact hq

theorem forM {γ : Type u} {f : γ → Proc σ κ ε PUnit} (hf : ∀ x, (f x).Commits R)
    (xs : List γ) : (xs.forM f).Commits R := by
  induction xs with
  | nil => exact pure PUnit.unit
  | cons x xs ih => exact (hf x).bind fun _ => ih

end Commits

/-- The same from one memory and one store. -/
theorem steps_tryCatch {R : σ → σ → Prop} {p : Proc σ κ ε α} {g : ε → Proc σ κ ε α} {k : κ} {s : σ}
    (hp : (p k s).Steps R s) (hg : ∀ e, (g e).Commits R) : ((tryCatch p g) k s).Steps R s :=
  hp.andThen fun s' r => by
    obtain ⟨a | a, k'⟩ := r
    · exact hg a k' s'
    · exact True.intro

theorem steps_bind {R : σ → σ → Prop} {p : Proc σ κ ε α} {f : α → Proc σ κ ε β} {k : κ} {s : σ}
    (hp : (p k s).Steps R s) (hf : ∀ a, (f a).Commits R) : ((p >>= f) k s).Steps R s :=
  hp.andThen fun s' r => by
    obtain ⟨a | a, k'⟩ := r
    · exact True.intro
    · exact hf a k' s'

/-! ## Section 4: What the request still knows -/

/-- However the procedure ends, it keeps a property of what the request has in memory. -/
def Keeps (I : κ → Prop) (p : Proc σ κ ε α) : Prop := ∀ k s, I k → I (p k s).result.2

namespace Keeps

variable {I : κ → Prop}

theorem pure (a : α) : (Pure.pure a : Proc σ κ ε α).Keeps I := fun _ _ h => h

theorem raise (e : ε) : (Proc.raise e : Proc σ κ ε α).Keeps I := fun _ _ h => h

theorem throw (e : ε) : (MonadExcept.throw e : Proc σ κ ε α).Keeps I := fun _ _ h => h

theorem store : (Proc.store : Proc σ κ ε σ).Keeps I := fun _ _ h => h

theorem memory {f : κ → Except ε α × κ} (h : ∀ k, I k → I (f k).2) :
    (Proc.memory f : Proc σ κ ε α).Keeps I := fun k _ hk => h k hk

theorem thenElse {p : Proc σ κ ε α} {f : α → Proc σ κ ε β} {g : ε → Proc σ κ ε β}
    (hp : p.Keeps I) (hf : ∀ a, (f a).Keeps I) (hg : ∀ e, (g e).Keeps I) :
    (p.thenElse f g).Keeps I := by
  intro k s hk
  have hnext : ∀ (r : Except ε α × κ) (s' : σ), I r.2 → I (resume f g s' r).result.2 := by
    rintro ⟨a | a, k'⟩ s' hk'
    · exact hg a k' s' hk'
    · exact hf a k' s' hk'
  unfold Proc.thenElse
  rw [Staged.result_andThen]
  exact hnext _ _ (hp k s hk)

theorem bind {p : Proc σ κ ε α} {f : α → Proc σ κ ε β} (hp : p.Keeps I)
    (hf : ∀ a, (f a).Keeps I) : (p >>= f).Keeps I :=
  hp.thenElse hf raise

theorem tryCatch {p : Proc σ κ ε α} {g : ε → Proc σ κ ε α} (hp : p.Keeps I)
    (hg : ∀ e, (g e).Keeps I) : (MonadExcept.tryCatch p g).Keeps I :=
  hp.thenElse pure hg

theorem ite {c : Prop} [Decidable c] {p q : Proc σ κ ε α} (hp : p.Keeps I) (hq : q.Keeps I) :
    (if c then p else q).Keeps I := by
  split
  · exact hp
  · exact hq

theorem forM {γ : Type u} {f : γ → Proc σ κ ε PUnit} (hf : ∀ x, (f x).Keeps I) (xs : List γ) :
    (xs.forM f).Keeps I := by
  induction xs with
  | nil => exact pure PUnit.unit
  | cons x xs ih => exact (hf x).bind fun _ => ih

end Keeps

/-! ## Section 5: What the outcome depends on -/

/-- The same commits and the same end, whatever is in memory then. -/
structure SameOutcome {κ' : Type u} (p : Staged σ (Except ε α × κ))
    (q : Staged σ (Except ε α × κ')) : Prop where
  states_eq : p.states = q.states
  result_eq : p.result.1 = q.result.1

namespace SameOutcome

variable {p q : Staged σ (Except ε α × κ)}

theorem of_mapResult (h : p.mapResult Prod.fst = q.mapResult Prod.fst) : SameOutcome p q where
  states_eq := by simpa using congrArg Staged.states h
  result_eq := by simpa using congrArg Staged.result h

theorem final_eq {κ' : Type u} {q : Staged σ (Except ε α × κ')} (h : SameOutcome p q) (s : σ) :
    p.final s = q.final s :=
  Staged.final_congr h.states_eq s

/-- A handler that commits nothing and always returns does not tell outcomes apart that are the
same. -/
theorem tryCatch_of_silent {p : Proc σ κ ε α} {f : α → β} {g : ε → Proc σ κ ε β}
    {report : ε → β} {recover : ε → κ → κ}
    (hg : ∀ e k s, g e k s = .done (.ok (report e), recover e k)) {k k' : κ} {s : σ}
    (h : SameOutcome (p k s) (p k' s)) :
    SameOutcome (tryCatch (p >>= fun a => Pure.pure (f a)) g k s)
      (tryCatch (p >>= fun a => Pure.pure (f a)) g k' s) := by
  rw [tryCatch_run_of_silent hg, tryCatch_run_of_silent hg]
  refine ⟨by rw [Staged.states_mapResult, Staged.states_mapResult, h.states_eq], ?_⟩
  rw [Staged.result_mapResult, Staged.result_mapResult]
  have hresult := h.result_eq
  revert hresult
  generalize (p k s).result = r
  generalize (p k' s).result = r'
  obtain ⟨a, l⟩ := r
  obtain ⟨a', l'⟩ := r'
  rintro rfl
  cases a <;> rfl

end SameOutcome

/-- From memories that agree the procedure commits the same states and ends with the same
value or exception, and the memories agree again. -/
def Respects (R : κ → κ → Prop) (p : Proc σ κ ε α) : Prop :=
  ∀ k k' s, R k k' → (p k s).mapResult Prod.fst = (p k' s).mapResult Prod.fst ∧
    R (p k s).result.2 (p k' s).result.2

namespace Respects

variable {R : κ → κ → Prop}

theorem pure (a : α) : (Pure.pure a : Proc σ κ ε α).Respects R := fun _ _ _ h => ⟨rfl, h⟩

theorem raise (e : ε) : (Proc.raise e : Proc σ κ ε α).Respects R := fun _ _ _ h => ⟨rfl, h⟩

theorem throw (e : ε) : (MonadExcept.throw e : Proc σ κ ε α).Respects R := fun _ _ _ h => ⟨rfl, h⟩

theorem store : (Proc.store : Proc σ κ ε σ).Respects R := fun _ _ _ h => ⟨rfl, h⟩

theorem memory {f : κ → Except ε α × κ} (hvalue : ∀ k k', R k k' → (f k).1 = (f k').1)
    (hmemory : ∀ k k', R k k' → R (f k).2 (f k').2) :
    (Proc.memory f : Proc σ κ ε α).Respects R :=
  fun k k' _ h => ⟨congrArg Staged.done (hvalue k k' h), hmemory k k' h⟩

theorem thenElse {p : Proc σ κ ε α} {f : α → Proc σ κ ε β} {g : ε → Proc σ κ ε β}
    (hp : p.Respects R) (hf : ∀ a, (f a).Respects R) (hg : ∀ e, (g e).Respects R) :
    (p.thenElse f g).Respects R := by
  intro k k' s h
  obtain ⟨hsame, hagree⟩ := hp k k' s h
  unfold Proc.thenElse
  revert hsame hagree
  generalize p k s = q
  generalize p k' s = q'
  intro hsame hagree
  induction q generalizing q' s with
  | done r =>
    cases q' with
    | commit s' next => cases hsame
    | done r' =>
      obtain ⟨a, l⟩ := r
      obtain ⟨a', l'⟩ := r'
      obtain rfl : a = a' := Staged.done.inj hsame
      cases a with
      | error e => exact hg e l l' s hagree
      | ok a => exact hf a l l' s hagree
  | commit s' next ih =>
    cases q' with
    | done r' => cases hsame
    | commit t' next' =>
      obtain ⟨rfl, hnext⟩ := Staged.commit.inj hsame
      obtain ⟨hsame', hagree'⟩ := ih s' next' hnext hagree
      exact ⟨congrArg (Staged.commit s') hsame', hagree'⟩

theorem bind {p : Proc σ κ ε α} {f : α → Proc σ κ ε β} (hp : p.Respects R)
    (hf : ∀ a, (f a).Respects R) : (p >>= f).Respects R :=
  hp.thenElse hf raise

theorem tryCatch {p : Proc σ κ ε α} {g : ε → Proc σ κ ε α} (hp : p.Respects R)
    (hg : ∀ e, (g e).Respects R) : (MonadExcept.tryCatch p g).Respects R :=
  hp.thenElse pure hg

theorem ite {c : Prop} [Decidable c] {p q : Proc σ κ ε α} (hp : p.Respects R)
    (hq : q.Respects R) : (if c then p else q).Respects R := by
  split
  · exact hp
  · exact hq

theorem sameOutcome {p : Proc σ κ ε α} (hp : p.Respects R) {k k' : κ} (h : R k k') (s : σ) :
    SameOutcome (p k s) (p k' s) := .of_mapResult (hp k k' s h).1

end Respects

/-- Runs with the same outcome are followed by runs whose outcomes are compared. -/
theorem SameOutcome.thenElse_iff {p : Proc σ κ ε α} {f : α → Proc σ κ ε β} {g : ε → Proc σ κ ε β}
    {k k' : κ} {s : σ} (h : SameOutcome (p k s) (p k' s)) :
    SameOutcome (p.thenElse f g k s) (p.thenElse f g k' s) ↔
      SameOutcome (resume f g ((p k' s).final s) (p k s).result)
        (resume f g ((p k' s).final s) (p k' s).result) := by
  unfold Proc.thenElse
  constructor
  · rintro ⟨hstates, hresult⟩
    rw [Staged.states_andThen, Staged.states_andThen, h.states_eq, h.final_eq] at hstates
    rw [Staged.result_andThen, Staged.result_andThen, h.final_eq] at hresult
    exact ⟨List.append_cancel_left hstates, hresult⟩
  · rintro ⟨hstates, hresult⟩
    refine ⟨?_, ?_⟩
    · rw [Staged.states_andThen, Staged.states_andThen, h.states_eq, h.final_eq, hstates]
    · rw [Staged.result_andThen, Staged.result_andThen, h.final_eq, hresult]

/-- The procedure respects `R`, except where the second memory ends up lost. -/
def RespectsUnless (Lost : κ → Prop) (R : κ → κ → Prop) (p : Proc σ κ ε α) : Prop :=
  ∀ k k' s, R k k' → (SameOutcome (p k s) (p k' s) ∧ R (p k s).result.2 (p k' s).result.2) ∨
    Lost (p k' s).result.2

theorem Respects.unless {R : κ → κ → Prop} {p : Proc σ κ ε α} (hp : p.Respects R)
    {Lost : κ → Prop} : p.RespectsUnless Lost R :=
  fun k k' s h => .inl ⟨hp.sameOutcome h s, (hp k k' s h).2⟩

namespace RespectsUnless

variable {Lost : κ → Prop} {R : κ → κ → Prop} {p : Proc σ κ ε α} {f : α → Proc σ κ ε β}
  {g : ε → Proc σ κ ε β}

theorem memory {h : κ → Except ε α × κ} (hmemory : ∀ k k', R k k' →
    ((h k).1 = (h k').1 ∧ R (h k).2 (h k').2) ∨ Lost (h k').2) :
    (Proc.memory h : Proc σ κ ε α).RespectsUnless Lost R := by
  intro k k' s hR
  rcases hmemory k k' hR with ⟨hvalue, hnext⟩ | hlost
  · exact .inl ⟨⟨rfl, hvalue⟩, hnext⟩
  · exact .inr hlost

/-- Where the first procedure has not lost the memory, what follows may still do so. -/
theorem resumed {k k' : κ} {s : σ} (hsame : SameOutcome (p k s) (p k' s))
    (hR : R (p k s).result.2 (p k' s).result.2) (hf : ∀ a, (f a).RespectsUnless Lost R)
    (hg : ∀ e, (g e).RespectsUnless Lost R) :
    (SameOutcome (p.thenElse f g k s) (p.thenElse f g k' s) ∧
      R (p.thenElse f g k s).result.2 (p.thenElse f g k' s).result.2) ∨
      Lost (p.thenElse f g k' s).result.2 := by
  rw [hsame.thenElse_iff]
  unfold Proc.thenElse
  rw [Staged.result_andThen, Staged.result_andThen, hsame.final_eq]
  obtain ⟨-, hresult⟩ := hsame
  revert hresult hR
  generalize (p k s).result = r
  generalize (p k' s).result = r'
  obtain ⟨a, l⟩ := r
  obtain ⟨a', l'⟩ := r'
  rintro hR rfl
  cases a with
  | error e => exact hg e l l' _ hR
  | ok a => exact hf a l l' _ hR

/-- What is lost stays lost. -/
theorem thenElse (hp : p.RespectsUnless Lost R) (hf : ∀ a, (f a).RespectsUnless Lost R)
    (hg : ∀ e, (g e).RespectsUnless Lost R) (hf' : ∀ a, (f a).Keeps Lost)
    (hg' : ∀ e, (g e).Keeps Lost) : (p.thenElse f g).RespectsUnless Lost R := by
  intro k k' s h
  rcases hp k k' s h with ⟨hsame, hR⟩ | hlost
  · exact resumed hsame hR hf hg
  · refine .inr ?_
    unfold Proc.thenElse
    rw [Staged.result_andThen]
    revert hlost
    generalize (p k' s).result = r
    obtain ⟨e | a, l⟩ := r
    · exact hg' e l _
    · exact hf' a l _

theorem bind (hp : p.RespectsUnless Lost R) (hf : ∀ a, (f a).RespectsUnless Lost R)
    (hf' : ∀ a, (f a).Keeps Lost) : (p >>= f).RespectsUnless Lost R :=
  hp.thenElse hf (fun e => (Respects.raise e).unless) hf' Keeps.raise

end RespectsUnless

/-- A first procedure that respects `R` has lost nothing. -/
theorem Respects.thenElse_unless {Lost : κ → Prop} {R : κ → κ → Prop} {p : Proc σ κ ε α}
    {f : α → Proc σ κ ε β} {g : ε → Proc σ κ ε β} (hp : p.Respects R)
    (hf : ∀ a, (f a).RespectsUnless Lost R) (hg : ∀ e, (g e).RespectsUnless Lost R) :
    (p.thenElse f g).RespectsUnless Lost R :=
  fun k k' s h => RespectsUnless.resumed (hp.sameOutcome h s) (hp k k' s h).2 hf hg

theorem Respects.bind_unless {Lost : κ → Prop} {R : κ → κ → Prop} {p : Proc σ κ ε α}
    {f : α → Proc σ κ ε β} (hp : p.Respects R) (hf : ∀ a, (f a).RespectsUnless Lost R) :
    (p >>= f).RespectsUnless Lost R :=
  hp.thenElse_unless hf fun e => (Respects.raise e).unless

/-! ## Section 6: What holds at the end -/

/-- From every memory and store that satisfy `P`, every commit is related by `R` to the store
before it, and the procedure ends with an outcome, a memory and a store that satisfy `Q`. -/
def Spec (P : κ → σ → Prop) (R : σ → σ → Prop) (p : Proc σ κ ε α)
    (Q : Except ε α → κ → σ → Prop) : Prop :=
  ∀ k s, P k s → (p k s).Steps R s ∧ Q (p k s).result.1 (p k s).result.2 ((p k s).final s)

/-- Nothing is asked of the commits. -/
abbrev Triple (P : κ → σ → Prop) (p : Proc σ κ ε α) (Q : Except ε α → κ → σ → Prop) : Prop :=
  p.Spec P (fun _ _ => True) Q

theorem triple_iff {P : κ → σ → Prop} {p : Proc σ κ ε α} {Q : Except ε α → κ → σ → Prop} :
    p.Triple P Q ↔
      ∀ k s, P k s → Q (p k s).result.1 (p k s).result.2 ((p k s).final s) := by
  have hsteps : ∀ (q : Staged σ (Except ε α × κ)) s, q.Steps (fun _ _ => True) s := by
    intro q
    induction q with
    | done r => exact fun _ => True.intro
    | commit s' next ih => exact fun _ => ⟨True.intro, ih s'⟩
  exact ⟨fun h k s hP => (h k s hP).2, fun h k s hP => ⟨hsteps _ s, h k s hP⟩⟩

namespace Spec

variable {P : κ → σ → Prop} {R : σ → σ → Prop} {Q : Except ε α → κ → σ → Prop}

theorem mono {Q' : Except ε α → κ → σ → Prop} {p : Proc σ κ ε α} (hp : p.Spec P R Q)
    (h : ∀ r k s, Q r k s → Q' r k s) : p.Spec P R Q' := fun k s hP =>
  ⟨(hp k s hP).1, h _ _ _ (hp k s hP).2⟩

theorem weaken {P' : κ → σ → Prop} {p : Proc σ κ ε α} (hp : p.Spec P R Q)
    (h : ∀ k s, P' k s → P k s) : p.Spec P' R Q := fun k s hP => hp k s (h k s hP)

theorem pure {a : α} (h : ∀ k s, P k s → Q (.ok a) k s) :
    (Pure.pure a : Proc σ κ ε α).Spec P R Q := fun k s hP => ⟨True.intro, h k s hP⟩

theorem raise {e : ε} (h : ∀ k s, P k s → Q (.error e) k s) :
    (Proc.raise e : Proc σ κ ε α).Spec P R Q := fun k s hP => ⟨True.intro, h k s hP⟩

theorem throw {e : ε} (h : ∀ k s, P k s → Q (.error e) k s) :
    (MonadExcept.throw e : Proc σ κ ε α).Spec P R Q := fun k s hP => ⟨True.intro, h k s hP⟩

theorem store {Q : Except ε σ → κ → σ → Prop} (h : ∀ k s, P k s → Q (.ok s) k s) :
    (Proc.store : Proc σ κ ε σ).Spec P R Q := fun k s hP => ⟨True.intro, h k s hP⟩

theorem memory {f : κ → Except ε α × κ} (h : ∀ k s, P k s → Q (f k).1 (f k).2 s) :
    (Proc.memory f : Proc σ κ ε α).Spec P R Q := fun k s hP => ⟨True.intro, h k s hP⟩

theorem transact {f : σ → Except ε (α × σ)}
    (hok : ∀ k s a s', P k s → f s = .ok (a, s') → R s s' ∧ Q (.ok a) k s')
    (herror : ∀ k s e, P k s → f s = .error e → Q (.error e) k s) :
    (Proc.transact f : Proc σ κ ε α).Spec P R Q := by
  intro k s hP
  unfold Proc.transact
  split
  · rename_i e hf
    exact ⟨True.intro, herror k s e hP hf⟩
  · rename_i a s' hf
    obtain ⟨hR, hQ⟩ := hok k s a s' hP hf
    exact ⟨⟨hR, True.intro⟩, hQ⟩

theorem thenElse {M : Except ε α → κ → σ → Prop} {Q : Except ε β → κ → σ → Prop}
    {p : Proc σ κ ε α} {f : α → Proc σ κ ε β} {g : ε → Proc σ κ ε β} (hp : p.Spec P R M)
    (hf : ∀ a, (f a).Spec (M (.ok a)) R Q) (hg : ∀ e, (g e).Spec (M (.error e)) R Q) :
    (p.thenElse f g).Spec P R Q := by
  intro k s hP
  obtain ⟨hsteps, hmid⟩ := hp k s hP
  have hnext : ∀ (r : Except ε α × κ) (s' : σ), M r.1 r.2 s' →
      (resume f g s' r).Steps R s' ∧ Q (resume f g s' r).result.1 (resume f g s' r).result.2
        ((resume f g s' r).final s') := by
    rintro ⟨a | a, k'⟩ s' hM
    · exact hg a k' s' hM
    · exact hf a k' s' hM
  unfold Proc.thenElse
  rw [Staged.result_andThen, Staged.final_andThen]
  exact ⟨hsteps.andThen_of (hnext _ _ hmid).1, (hnext _ _ hmid).2⟩

theorem bind {M : Except ε α → κ → σ → Prop} {Q : Except ε β → κ → σ → Prop}
    {p : Proc σ κ ε α} {f : α → Proc σ κ ε β} (hp : p.Spec P R M)
    (hf : ∀ a, (f a).Spec (M (.ok a)) R Q) (herror : ∀ e k s, M (.error e) k s → Q (.error e) k s) :
    (p >>= f).Spec P R Q :=
  hp.thenElse hf fun e => raise (herror e)

theorem tryCatch {M : Except ε α → κ → σ → Prop} {p : Proc σ κ ε α} {g : ε → Proc σ κ ε α}
    (hp : p.Spec P R M) (hok : ∀ a k s, M (.ok a) k s → Q (.ok a) k s)
    (hg : ∀ e, (g e).Spec (M (.error e)) R Q) : (MonadExcept.tryCatch p g).Spec P R Q :=
  hp.thenElse (fun a => pure (hok a)) hg

theorem ite {c : Prop} [Decidable c] {p q : Proc σ κ ε α} (hp : c → p.Spec P R Q)
    (hq : ¬ c → q.Spec P R Q) : (if c then p else q).Spec P R Q := by
  split
  · rename_i hc
    exact hp hc
  · rename_i hc
    exact hq hc

end Spec

end Proc

end AyushOms.Lib
