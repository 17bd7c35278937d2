import AyushOms.Lib.Transaction

/-!
# What a Request Leaves Committed

A request that begins with a check and ends by reading back what it has changed: the check
only reads, the part between commits at most once, and what is read afterwards changes nothing.
The rules here take the request apart from its result and from what it leaves committed, for
every choice of statements that raise.

## Main results

- `Txn.run_reads_bind`: what a request does once its check has passed
- `Txn.run_settled_map`: an answer made of what a call returned
- `Txn.Leaves.thenCommit_reads`: one commit and then reads leave all or nothing
-/

namespace AyushOms.Lib

universe u

namespace Txn

variable {σ ω ε α β : Type u} {apply : ω → σ → Except ε σ} {Q : α → Prop}

/-! ## Section 1: Reads -/

theorem reads_pure {a : α} (h : Q a) : Reads Q (pure a : Txn σ ω ε α) := h

/-- A part that only reads leaves a fresh session fresh. -/
theorem Reads.run_fresh {x : Txn σ ω ε α} (hx : Reads Q x) (apply : ω → σ → Except ε σ)
    (start : σ) (faults : ℕ → Option ε) :
    ∃ faults', (x.run apply (.fresh start faults)).2 = .fresh start faults' := by
  induction x generalizing faults with
  | ret a => exact ⟨faults, rfl⟩
  | fail e => exact ⟨faults, rfl⟩
  | read next failed ihn ihf =>
    simp only [Txn.run]
    split
    · exact ihf _ (hx.2 _) _
    · exact ihn _ (hx.1 _) _
  | write _ _ _ | commit _ _ | rollback _ => exact hx.elim

/-- Reading commits nothing. -/
theorem Reads.committed {x : Txn σ ω ε α} (hx : Reads Q x) (s : Session σ ε) :
    (x.run apply s).2.committed = s.committed := by
  induction x generalizing s with
  | ret a => rfl
  | fail e => rfl
  | read next failed ihn ihf =>
    simp only [Txn.run]
    split
    · exact ihf _ (hx.2 _) _
    · exact ihn _ (hx.1 _) _
  | write _ _ _ | commit _ _ | rollback _ => exact hx.elim

/-- A check that passed has computed what it computes on the database as it stands. -/
theorem Reads.yields_self {x : Txn σ ω ε α} (hx : Reads Q x) {start : σ}
    {faults : ℕ → Option ε} {a : α} (hok : (x.run apply (.fresh start faults)).1 = .ok a) :
    Yields apply x start a start := by
  obtain ⟨faults', hsession⟩ := hx.run_fresh apply start faults
  exact ⟨.fresh start faults, rfl, hok, by rw [hsession]; rfl⟩

/-- A request whose check raised has done nothing; one whose check passed goes on from the same
database. -/
theorem run_reads_bind {x : Txn σ ω ε α} (hx : Reads Q x) (apply : ω → σ → Except ε σ)
    (f : α → Txn σ ω ε β) (start : σ) (faults : ℕ → Option ε) :
    (∃ e, (x.run apply (.fresh start faults)).1 = .error e ∧
      ((x >>= f).run apply (.fresh start faults)).1 = .error e ∧
      ((x >>= f).run apply (.fresh start faults)).2.committed = start) ∨
    ∃ a faults', (x.run apply (.fresh start faults)).1 = .ok a ∧
      Yields apply x start a start ∧
      (x >>= f).run apply (.fresh start faults) = (f a).run apply (.fresh start faults') := by
  obtain ⟨faults', hsession⟩ := hx.run_fresh apply start faults
  have hself : ∀ a, (x.run apply (.fresh start faults)).1 = .ok a → Yields apply x start a start :=
    fun _ => hx.yields_self
  rw [run_bind]
  cases hrun : x.run apply (.fresh start faults) with
  | mk result session =>
    rw [hrun] at hsession hself
    obtain rfl : session = .fresh start faults' := hsession
    cases result with
    | error e => exact .inl ⟨e, rfl, rfl, rfl⟩
    | ok a => exact .inr ⟨a, faults', rfl, hself a rfl, rfl⟩

/-! ## Section 2: What is left committed -/

/-- Run on a database that holds `start`, with some of its statements raising, the call can leave
`s'` committed. -/
def Leaves (apply : ω → σ → Except ε σ) (x : Txn σ ω ε α) (start s' : σ) : Prop :=
  ∃ faults, (x.run apply (.fresh start faults)).2.committed = s'

/-- What is read after a call does not change what the call leaves. -/
theorem Leaves.of_bind_reads {Q' : β → Prop} {x : Txn σ ω ε α} {f : α → Txn σ ω ε β}
    (hf : ∀ a, Reads Q' (f a)) {start s' : σ} :
    Leaves apply (x >>= f) start s' → Leaves apply x start s' := by
  rintro ⟨faults, rfl⟩
  refine ⟨faults, ?_⟩
  rw [run_bind]
  cases hrun : x.run apply (.fresh start faults) with
  | mk result session =>
    cases result with
    | error e => rfl
    | ok a => exact ((hf a).committed session).symm

/-- Writes under one commit leave all or nothing. -/
theorem Leaves.thenCommit {wrote : α → List ω → Prop} {x : Txn σ ω ε α} (hx : Writes wrote x)
    {start s' : σ} : Leaves apply (Txn.thenCommit x) start s' →
      s' = start ∨ ∃ a, Yields apply x start a s' := by
  rintro ⟨faults, rfl⟩
  rcases committed_cases hx.settled start faults with hsame | ⟨a, hyields⟩
  · exact .inl hsame
  · exact .inr ⟨a, yields_thenCommit hyields⟩

/-- So do writes, one commit and the reads behind it. -/
theorem Leaves.thenCommit_reads {Q' : β → Prop} {wrote : α → List ω → Prop} {x : Txn σ ω ε α}
    {f : α → Txn σ ω ε β} (hx : Writes wrote x) (hf : ∀ a, Reads Q' (f a)) {start s' : σ}
    (h : Leaves apply (Txn.thenCommit x >>= f) start s') :
    s' = start ∨ ∃ a, Yields apply x start a s' :=
  (h.of_bind_reads hf).thenCommit hx

theorem Reads.settled {x : Txn σ ω ε α} (hx : Reads Q x) :
    Ensures Settled x ⟨[], []⟩ := by
  refine (hx.ensures ⟨[], []⟩).mono fun r t ht => ?_
  obtain ⟨rfl, _⟩ := ht
  cases r with
  | error e => rfl
  | ok a => rfl

/-- A call that settles, answered with something made of its result: an error and nothing
committed, or the answer and what the call left. -/
theorem run_settled_map {x : Txn σ ω ε α} (h : Ensures Settled x ⟨[], []⟩) (f : α → β)
    (start : σ) (faults : ℕ → Option ε) :
    (∃ e s', (x >>= fun a => pure (f a)).run apply (.fresh start faults) = (.error e, s') ∧
      s'.committed = start) ∨
    ∃ a s', (x >>= fun a => pure (f a)).run apply (.fresh start faults) = (.ok (f a), s') ∧
      Yields apply x start a s'.committed := by
  rw [run_bind]
  cases hrun : x.run apply (.fresh start faults) with
  | mk result s' =>
    cases result with
    | error e =>
      have hcommitted := committed_of_error h (congrArg Prod.fst hrun)
      rw [hrun] at hcommitted
      exact .inl ⟨e, s', rfl, hcommitted⟩
    | ok a =>
      have hyields := yields_of_ok h (congrArg Prod.fst hrun)
      rw [hrun] at hyields
      exact .inr ⟨a, s', rfl, hyields⟩

/-- When no statement raises, what the writes leave is committed and read back. -/
theorem Completes.thenCommit_bind {x : Txn σ ω ε α} {f : α → Txn σ ω ε β} {a : α} {b : β}
    {s s' : σ} (hx : Completes apply x s a s') (hf : Completes apply (f a) s' b s') :
    (Txn.thenCommit x >>= f).run apply (.fresh s fun _ => none) =
      (.ok b, .fresh s' fun _ => none) := by
  have hcommit : (Txn.thenCommit x).run apply (.fresh s fun _ => none) =
      (.ok a, .fresh s' fun _ => none) := by
    rw [Txn.thenCommit, run_bind, Session.fresh, hx s]
    rfl
  rw [run_bind, hcommit]
  exact hf s'

end Txn

end AyushOms.Lib
