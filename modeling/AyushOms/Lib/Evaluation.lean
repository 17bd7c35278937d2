import AyushOms.Lib.Transaction

/-!
# Calls Evaluated

A call that is run alone, and none of whose statements fails by itself, ends in one way: with a
result and what its session sees then, or with an exception. What it computes can be written as a
function of the database, statement by statement.

## Main results

- `Txn.evaluates_bind`, `Txn.evaluates_tryCatch`: the function of a call, from those of its parts
- `Txn.Evaluates.committed`: what is stored when the call is over
-/

namespace AyushOms.Lib.Txn

universe u

variable {σ ω ε α β : Type u} {apply : ω → σ → Except ε σ}

/-- With `stored` committed, on a session that sees `seen`, the call ends as `r` says. -/
def Evaluates (apply : ω → σ → Except ε σ) (x : Txn σ ω ε α) (stored seen : σ)
    (r : Except ε (α × σ)) : Prop :=
  ∃ left, run apply x ⟨stored, seen, fun _ => none⟩ =
      (r.map (·.1), ⟨stored, left, fun _ => none⟩) ∧ ∀ a seen', r = .ok (a, seen') → left = seen'

theorem evaluates_pure (a : α) (stored seen : σ) :
    Evaluates apply (pure a : Txn σ ω ε α) stored seen (.ok (a, seen)) := by
  refine ⟨seen, rfl, fun a seen' h => ?_⟩
  cases h
  rfl

theorem evaluates_fail (e : ε) (stored seen : σ) :
    Evaluates apply (fail e : Txn σ ω ε α) stored seen (.error e) := by
  refine ⟨seen, rfl, fun a seen' h => ?_⟩
  cases h

theorem evaluates_select (apply : ω → σ → Except ε σ) (f : σ → α) (stored seen : σ) :
    Evaluates apply (select f : Txn σ ω ε α) stored seen (.ok (f seen, seen)) := by
  refine ⟨seen, rfl, fun a seen' h => ?_⟩
  cases h
  rfl

theorem evaluates_flush (apply : ω → σ → Except ε σ) (w : ω) (stored seen : σ) :
    Evaluates apply (flush w : Txn σ ω ε PUnit) stored seen ((apply w seen).map (⟨⟩, ·)) := by
  cases h : apply w seen with
  | error e =>
    refine ⟨seen, ?_, fun a seen' h => ?_⟩
    · simp only [flush, run, h]
      rfl
    · cases h
  | ok seen' =>
    refine ⟨seen', ?_, fun a left h => ?_⟩
    · simp only [flush, run, h]
      rfl
    · cases h
      rfl

theorem evaluates_rollback (stored seen : σ) :
    Evaluates apply (rollbackSession : Txn σ ω ε PUnit) stored seen (.ok (⟨⟩, stored)) := by
  refine ⟨stored, rfl, fun a seen' h => ?_⟩
  cases h
  rfl

theorem evaluates_bind {x : Txn σ ω ε α} {f : α → Txn σ ω ε β} {stored seen : σ}
    {r : Except ε (α × σ)} {g : α × σ → Except ε (β × σ)} (hx : Evaluates apply x stored seen r)
    (hf : ∀ a seen', r = .ok (a, seen') → Evaluates apply (f a) stored seen' (g (a, seen'))) :
    Evaluates apply (x >>= f) stored seen (r >>= g) := by
  obtain ⟨left, hrun, hleft⟩ := hx
  cases r with
  | error e =>
    refine ⟨left, ?_, fun b seen' h => ?_⟩
    · rw [run_bind, hrun]
      rfl
    · cases h
  | ok done =>
    obtain ⟨a, seen'⟩ := done
    cases hleft a seen' rfl
    obtain ⟨left', hrun', hleft'⟩ := hf a left rfl
    refine ⟨left', ?_, hleft'⟩
    rw [run_bind, hrun]
    exact hrun'

/-- A handler that raises the exception again, wherever the session is left. -/
theorem evaluates_tryCatch {x : Txn σ ω ε α} {handler : ε → Txn σ ω ε α} {stored seen : σ}
    {r : Except ε (α × σ)} (hx : Evaluates apply x stored seen r)
    (hhandler : ∀ e left, r = .error e → Evaluates apply (handler e) stored left (.error e)) :
    Evaluates apply (x.tryCatch handler) stored seen r := by
  obtain ⟨left, hrun, hleft⟩ := hx
  cases r with
  | error e =>
    obtain ⟨left', hrun', -⟩ := hhandler e left rfl
    refine ⟨left', ?_, fun a seen' h => ?_⟩
    · rw [run_tryCatch, hrun]
      exact hrun'
    · cases h
  | ok done =>
    refine ⟨left, ?_, hleft⟩
    rw [run_tryCatch, hrun]
    rfl

/-- What is stored after the commit of a call, or after its exception. -/
def storedAfter (s : σ) : Except ε (α × σ) → σ
  | .ok (_, seen) => seen
  | .error _ => s

/-- After the writes of a call and its commit, what it has computed is stored. -/
theorem Evaluates.committed {x : Txn σ ω ε α} {s : σ} {r : Except ε (α × σ)}
    (h : Evaluates apply x s s r) :
    ((thenCommit x).run apply (.fresh s fun _ => none)).2.committed = storedAfter s r := by
  obtain ⟨left, hrun, hleft⟩ := h
  cases r with
  | error e =>
    rw [thenCommit, run_bind, Session.fresh, hrun]
    rfl
  | ok done =>
    rw [thenCommit, run_bind, Session.fresh, hrun]
    exact hleft done.1 done.2 rfl

/-- Nothing is returned after an exception. -/
theorem Evaluates.returned {x : Txn σ ω ε α} {s : σ} {r : Except ε (α × σ)}
    (h : Evaluates apply x s s r) :
    ((thenCommit x).run apply (.fresh s fun _ => none)).1 = r.map (·.1) := by
  obtain ⟨left, hrun, -⟩ := h
  cases r with
  | error e =>
    rw [thenCommit, run_bind, Session.fresh, hrun]
    rfl
  | ok done =>
    rw [thenCommit, run_bind, Session.fresh, hrun]
    rfl

end AyushOms.Lib.Txn
