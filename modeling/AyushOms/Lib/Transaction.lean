import AyushOms.Lib.Run
import Mathlib.Data.List.Basic

/-!
# Database Transactions as Programs

A service call that reaches a database through one session is a tree of its statements:
reads, writes, commits and rollbacks, each with what the call does when the statement
raises. The same tree is run in two ways. Run alone, from a session whose statements may
fail at any point, it gives a result and the session it leaves. Run among other calls, one
statement of one call at a time, its reads see what is committed by then under its own
writes, and a commit replays those writes on what is committed.

What a call does to the database whatever its reads return is a property of the tree
(`Ensures`); it is carried to both ways of running.

## Main results

- `Txn.Ensures.run`: a call run alone ends in a trace that its tree ensures
- `Txn.Server.coherent_run`: so does every call of every interleaving
- `Txn.yields_bind` and its companions: what a call that returned has computed
- `Txn.completes_bind` and its companions: that a call returns when nothing raises
-/

namespace AyushOms.Lib

universe u

/-- A call with database state `σ`, writes `ω`, exceptions `ε` and result `α`. -/
inductive Txn (σ ω ε α : Type u) where
  | ret (a : α)
  | fail (e : ε)
  | read (next : σ → Txn σ ω ε α) (failed : ε → Txn σ ω ε α)
  | write (w : ω) (next : Txn σ ω ε α) (failed : ε → Txn σ ω ε α)
  | commit (next : Txn σ ω ε α) (failed : ε → Txn σ ω ε α)
  | rollback (next : Txn σ ω ε α)

namespace Txn

variable {σ ω ε α β : Type u}

/-! ## Section 1: Sequencing and statements -/

/-- Continue a call that returned; one that raised stays raised. -/
def bind : Txn σ ω ε α → (α → Txn σ ω ε β) → Txn σ ω ε β
  | ret a, f => f a
  | fail e, _ => fail e
  | read next failed, f => read (fun s => (next s).bind f) fun e => (failed e).bind f
  | write w next failed, f => write w (next.bind f) fun e => (failed e).bind f
  | commit next failed, f => commit (next.bind f) fun e => (failed e).bind f
  | rollback next, f => rollback (next.bind f)

instance : Monad (Txn σ ω ε) where
  pure := ret
  bind := bind

/-- `try: … except Exception as e: …`. -/
def tryCatch : Txn σ ω ε α → (ε → Txn σ ω ε α) → Txn σ ω ε α
  | ret a, _ => ret a
  | fail e, h => h e
  | read next failed, h => read (fun s => (next s).tryCatch h) fun e => (failed e).tryCatch h
  | write w next failed, h => write w (next.tryCatch h) fun e => (failed e).tryCatch h
  | commit next failed, h => commit (next.tryCatch h) fun e => (failed e).tryCatch h
  | rollback next, h => rollback (next.tryCatch h)

/-- One query. -/
def select (f : σ → α) : Txn σ ω ε α := read (fun s => ret (f s)) fail

/-- One write of the session, sent to the database at once. -/
def flush (w : ω) : Txn σ ω ε PUnit := write w (ret ⟨⟩) fail

/-- `session.commit()`. -/
def commitSession : Txn σ ω ε PUnit := commit (ret ⟨⟩) fail

/-- `session.rollback()`. -/
def rollbackSession : Txn σ ω ε PUnit := rollback (ret ⟨⟩)

/-- `if p: raise e`. -/
def raiseIf (p : Prop) [Decidable p] (e : ε) : Txn σ ω ε PUnit := if p then fail e else ret ⟨⟩

/-- `if value is None: raise e`. -/
def orRaise (value : Option α) (e : ε) : Txn σ ω ε α :=
  match value with
  | some a => ret a
  | none => fail e

/-- The outcome of a computation that needs no database. -/
def ofExcept : Except ε α → Txn σ ω ε α
  | .ok a => ret a
  | .error e => fail e

/-- The writes and one commit. On an exception the writes are dropped with their session. -/
def thenCommit (x : Txn σ ω ε α) : Txn σ ω ε α := do
  let a ← x
  commitSession
  pure a

/-- `try:` the writes and one commit, `except:` roll back and raise what `f` makes of the
exception. -/
def atomically (f : ε → ε) (x : Txn σ ω ε α) : Txn σ ω ε α :=
  tryCatch
    (do
      let a ← x
      commitSession
      pure a)
    fun e => do
      rollbackSession
      fail (f e)

/-! ## Section 2: A call run alone -/

/-- What is committed, what the session sees, and which of the coming statements raise. -/
structure Session (σ ε : Type u) where
  committed : σ
  working : σ
  faults : ℕ → Option ε

namespace Session

/-- The session once its next statement has been sent. -/
def tick (s : Session σ ε) : Session σ ε := { s with faults := fun n => s.faults (n + 1) }

@[simp] theorem tick_committed (s : Session σ ε) : s.tick.committed = s.committed := rfl

@[simp] theorem tick_working (s : Session σ ε) : s.tick.working = s.working := rfl

/-- A fresh session, with nothing written yet. -/
def fresh (s : σ) (faults : ℕ → Option ε) : Session σ ε := ⟨s, s, faults⟩

end Session

section Run

variable (apply : ω → σ → Except ε σ)

/-- The result of a call and the session it leaves. A write that the database refuses raises
and changes nothing. -/
def run : Txn σ ω ε α → Session σ ε → Except ε α × Session σ ε
  | ret a, s => (.ok a, s)
  | fail e, s => (.error e, s)
  | read next failed, s =>
    match s.faults 0 with
    | some e => (failed e).run s.tick
    | none => (next s.working).run s.tick
  | write w next failed, s =>
    match s.faults 0 with
    | some e => (failed e).run s.tick
    | none =>
      match apply w s.working with
      | .error e => (failed e).run s.tick
      | .ok working => next.run { s.tick with working := working }
  | commit next failed, s =>
    match s.faults 0 with
    | some e => (failed e).run s.tick
    | none => next.run { s.tick with committed := s.working }
  | rollback next, s => next.run { s with working := s.committed }

/-- Writes sent one after another. -/
def replay (ws : List ω) (s : σ) : Except ε σ := ws.foldlM (fun s w => apply w s) s

@[simp] theorem replay_nil (s : σ) : replay apply [] s = .ok s := rfl

variable {apply}

@[simp] theorem run_ret (a : α) (s : Session σ ε) :
    run apply (ret a : Txn σ ω ε α) s = (.ok a, s) := rfl

theorem run_bind (x : Txn σ ω ε α) (f : α → Txn σ ω ε β) (s : Session σ ε) :
    run apply (x >>= f) s =
      match run apply x s with
      | (.ok a, s') => run apply (f a) s'
      | (.error e, s') => (.error e, s') := by
  change run apply (x.bind f) s = _
  induction x generalizing s with
  | ret a => rfl
  | fail e => rfl
  | read next failed ihn ihf =>
    simp only [bind, run]
    split
    · exact ihf _ _
    · exact ihn _ _
  | write w next failed ihn ihf =>
    simp only [bind, run]
    split
    · exact ihf _ _
    · split
      · exact ihf _ _
      · exact ihn _
  | commit next failed ihn ihf =>
    simp only [bind, run]
    split
    · exact ihf _ _
    · exact ihn _
  | rollback next ih => exact ih _

theorem run_tryCatch (x : Txn σ ω ε α) (h : ε → Txn σ ω ε α) (s : Session σ ε) :
    run apply (x.tryCatch h) s =
      match run apply x s with
      | (.ok a, s') => (.ok a, s')
      | (.error e, s') => run apply (h e) s' := by
  induction x generalizing s with
  | ret a => rfl
  | fail e => rfl
  | read next failed ihn ihf =>
    simp only [tryCatch, run]
    split
    · exact ihf _ _
    · exact ihn _ _
  | write w next failed ihn ihf =>
    simp only [tryCatch, run]
    split
    · exact ihf _ _
    · split
      · exact ihf _ _
      · exact ihn _
  | commit next failed ihn ihf =>
    simp only [tryCatch, run]
    split
    · exact ihf _ _
    · exact ihn _
  | rollback next ih => exact ih _

theorem replay_append (ws ws' : List ω) (s : σ) :
    replay apply (ws ++ ws') s = (replay apply ws s).bind (replay apply ws') := by
  simp only [replay, List.foldlM_append]
  rfl

theorem replay_append_of_ok {ws ws' : List ω} {s s' : σ} (h : replay apply ws s = .ok s') :
    replay apply (ws ++ ws') s = replay apply ws' s' := by
  rw [replay_append, h]
  rfl

theorem replay_singleton (w : ω) (s : σ) : replay apply [w] s = apply w s := by
  simp only [replay, List.foldlM_cons, List.foldlM_nil]
  cases apply w s <;> rfl

end Run

/-! ## Section 3: What a call that returned has computed -/

section Yields

variable (apply : ω → σ → Except ε σ)

/-- Run on a session that sees `s`, the call can return `a` and leave the session seeing
`s'`. -/
def Yields (x : Txn σ ω ε α) (s : σ) (a : α) (s' : σ) : Prop :=
  ∃ session : Session σ ε, session.working = s ∧
    (run apply x session).1 = .ok a ∧ (run apply x session).2.working = s'

variable {apply}

theorem yields_ret {a b : α} {s s' : σ} :
    Yields apply (ret a : Txn σ ω ε α) s b s' → b = a ∧ s' = s := by
  rintro ⟨session, rfl, hok, rfl⟩
  cases hok
  exact ⟨rfl, rfl⟩

theorem yields_pure {a b : α} {s s' : σ} :
    Yields apply (pure a : Txn σ ω ε α) s b s' → b = a ∧ s' = s :=
  yields_ret

theorem not_yields_fail {e : ε} {a : α} {s s' : σ} :
    ¬ Yields apply (fail e : Txn σ ω ε α) s a s' := by
  rintro ⟨session, rfl, hok, rfl⟩
  cases hok

theorem yields_bind {x : Txn σ ω ε α} {f : α → Txn σ ω ε β} {b : β} {s s' : σ} :
    Yields apply (x >>= f) s b s' →
      ∃ a s₁, Yields apply x s a s₁ ∧ Yields apply (f a) s₁ b s' := by
  rintro ⟨session, rfl, hok, rfl⟩
  rw [run_bind] at hok ⊢
  cases hrun : run apply x session with
  | mk result session' =>
    rw [hrun] at hok
    cases result with
    | error e => cases hok
    | ok a => exact ⟨a, session'.working, ⟨session, rfl, by rw [hrun], by rw [hrun]⟩,
        session', rfl, hok, rfl⟩

/-- A call whose last statement only makes its result. -/
theorem yields_bind_pure {x : Txn σ ω ε α} {f : α → β} {b : β} {s s' : σ}
    (h : Yields apply (x >>= fun a => pure (f a)) s b s') :
    ∃ a, b = f a ∧ Yields apply x s a s' := by
  obtain ⟨a, s₁, hx, hpure⟩ := yields_bind h
  obtain ⟨rfl, rfl⟩ := yields_pure hpure
  exact ⟨a, rfl, hx⟩

theorem yields_select {f : σ → α} {a : α} {s s' : σ} :
    Yields apply (select f : Txn σ ω ε α) s a s' → a = f s ∧ s' = s := by
  rintro ⟨session, rfl, hok, rfl⟩
  simp only [select, run] at hok ⊢
  split at hok
  · cases hok
  · cases hok
    exact ⟨rfl, rfl⟩

theorem yields_flush {w : ω} {a : PUnit} {s s' : σ} :
    Yields apply (flush w : Txn σ ω ε PUnit) s a s' → apply w s = .ok s' := by
  rintro ⟨session, rfl, hok, rfl⟩
  simp only [flush, run] at hok ⊢
  split at hok
  · cases hok
  · split at hok
    · cases hok
    · assumption

theorem yields_commitSession {a : PUnit} {s s' : σ} :
    Yields apply (commitSession : Txn σ ω ε PUnit) s a s' → s' = s := by
  rintro ⟨session, rfl, hok, rfl⟩
  simp only [commitSession, run] at hok ⊢
  split at hok
  · cases hok
  · rfl

theorem yields_raiseIf {p : Prop} [Decidable p] {e : ε} {a : PUnit} {s s' : σ}
    (h : Yields apply (raiseIf p e : Txn σ ω ε PUnit) s a s') : ¬ p ∧ s' = s := by
  unfold raiseIf at h
  split at h
  · exact absurd h not_yields_fail
  · exact ⟨‹_›, (yields_ret h).2⟩

theorem yields_orRaise {value : Option α} {e : ε} {a : α} {s s' : σ}
    (h : Yields apply (orRaise value e : Txn σ ω ε α) s a s') : value = some a ∧ s' = s := by
  unfold orRaise at h
  split at h
  · obtain ⟨rfl, rfl⟩ := yields_ret h
    exact ⟨rfl, rfl⟩
  · exact absurd h not_yields_fail

theorem yields_ofExcept {value : Except ε α} {a : α} {s s' : σ}
    (h : Yields apply (ofExcept value : Txn σ ω ε α) s a s') : value = .ok a ∧ s' = s := by
  cases value with
  | error e => exact absurd h not_yields_fail
  | ok b =>
    obtain ⟨rfl, rfl⟩ := yields_ret h
    exact ⟨rfl, rfl⟩

/-! What a call reads or checks first, and the rest of it. -/

section First

variable {b : β} {s s' : σ}

theorem yields_select_bind {g : σ → α} {f : α → Txn σ ω ε β}
    (h : Yields apply (select g >>= f) s b s') : Yields apply (f (g s)) s b s' := by
  obtain ⟨a, s₁, hselect, hrest⟩ := yields_bind h
  obtain ⟨rfl, rfl⟩ := yields_select hselect
  exact hrest

theorem yields_raiseIf_bind {p : Prop} [Decidable p] {e : ε} {f : PUnit → Txn σ ω ε β}
    (h : Yields apply (raiseIf p e >>= f) s b s') : ¬ p ∧ Yields apply (f ⟨⟩) s b s' := by
  obtain ⟨_, s₁, hcheck, hrest⟩ := yields_bind h
  obtain ⟨hnot, rfl⟩ := yields_raiseIf hcheck
  exact ⟨hnot, hrest⟩

theorem yields_orRaise_bind {value : Option α} {e : ε} {f : α → Txn σ ω ε β}
    (h : Yields apply (orRaise value e >>= f) s b s') :
    ∃ a, value = some a ∧ Yields apply (f a) s b s' := by
  obtain ⟨a, s₁, hvalue, hrest⟩ := yields_bind h
  obtain ⟨hsome, rfl⟩ := yields_orRaise hvalue
  exact ⟨a, hsome, hrest⟩

theorem yields_ofExcept_bind {value : Except ε α} {f : α → Txn σ ω ε β}
    (h : Yields apply (ofExcept value >>= f) s b s') :
    ∃ a, value = .ok a ∧ Yields apply (f a) s b s' := by
  obtain ⟨a, s₁, hvalue, hrest⟩ := yields_bind h
  obtain ⟨hok, rfl⟩ := yields_ofExcept hvalue
  exact ⟨a, hok, hrest⟩

end First

theorem yields_thenCommit {x : Txn σ ω ε α} {a : α} {s s' : σ}
    (h : Yields apply (thenCommit x) s a s') : Yields apply x s a s' := by
  obtain ⟨b, s₁, hx, hrest⟩ := yields_bind h
  obtain ⟨_, s₂, hcommit, hpure⟩ := yields_bind hrest
  obtain ⟨rfl, rfl⟩ := yields_pure hpure
  obtain rfl := yields_commitSession hcommit
  exact hx

/-- A handler that raises again has no part in a call that returned. -/
theorem yields_atomically {f : ε → ε} {x : Txn σ ω ε α} {a : α} {s s' : σ} :
    Yields apply (atomically f x) s a s' → Yields apply x s a s' := by
  rintro ⟨session, rfl, hok, rfl⟩
  rw [atomically, run_tryCatch] at hok ⊢
  cases hrun : run apply (do let a ← x; commitSession; pure a) session with
  | mk result session' =>
    rw [hrun] at hok
    cases result with
    | error e => cases hok
    | ok b =>
      cases hok
      have hbody : Yields apply (thenCommit x) session.working a session'.working :=
        ⟨session, rfl, by rw [thenCommit, hrun], by rw [thenCommit, hrun]⟩
      exact yields_thenCommit hbody

end Yields

/-! ## Section 4: What a call does whatever it reads -/

/-- The batches a call has committed, and its writes since. -/
structure Trace (ω : Type u) where
  batches : List (List ω) := []
  pending : List ω := []

namespace Trace

/-- One more write. -/
def push (t : Trace ω) (w : ω) : Trace ω := { t with pending := t.pending ++ [w] }

/-- The pending writes become a batch. -/
def commit (t : Trace ω) : Trace ω := ⟨t.batches ++ [t.pending], []⟩

/-- The pending writes are dropped. -/
def discard (t : Trace ω) : Trace ω := { t with pending := [] }

end Trace

/-- Whatever the reads return and whichever statements raise, the call ends with a result and
a trace that `post` accepts. -/
def Ensures (post : Except ε α → Trace ω → Prop) : Txn σ ω ε α → Trace ω → Prop
  | ret a, t => post (.ok a) t
  | fail e, t => post (.error e) t
  | read next failed, t => (∀ s, Ensures post (next s) t) ∧ ∀ e, Ensures post (failed e) t
  | write w next failed, t => Ensures post next (t.push w) ∧ ∀ e, Ensures post (failed e) t
  | commit next failed, t => Ensures post next t.commit ∧ ∀ e, Ensures post (failed e) t
  | rollback next, t => Ensures post next t.discard

section Rules

variable {post post' : Except ε α → Trace ω → Prop} {t : Trace ω}

theorem Ensures.mono (himp : ∀ r t, post r t → post' r t) {x : Txn σ ω ε α}
    (h : Ensures post x t) : Ensures post' x t := by
  induction x generalizing t with
  | ret a => exact himp _ _ h
  | fail e => exact himp _ _ h
  | read next failed ihn ihf => exact ⟨fun s => ihn s (h.1 s), fun e => ihf e (h.2 e)⟩
  | write w next failed ihn ihf => exact ⟨ihn h.1, fun e => ihf e (h.2 e)⟩
  | commit next failed ihn ihf => exact ⟨ihn h.1, fun e => ihf e (h.2 e)⟩
  | rollback next ih => exact ih h

/-- What a first part ends with, for what follows it to end as `post` says. -/
def Before (post : Except ε β → Trace ω → Prop) (f : α → Txn σ ω ε β) :
    Except ε α → Trace ω → Prop
  | .ok a, t => Ensures post (f a) t
  | .error e, t => post (.error e) t

theorem ensures_bind {post : Except ε β → Trace ω → Prop} {x : Txn σ ω ε α}
    {f : α → Txn σ ω ε β} (h : Ensures (Before post f) x t) : Ensures post (x >>= f) t := by
  change Ensures post (x.bind f) t
  induction x generalizing t with
  | ret a => exact h
  | fail e => exact h
  | read next failed ihn ihf => exact ⟨fun s => ihn s (h.1 s), fun e => ihf e (h.2 e)⟩
  | write w next failed ihn ihf => exact ⟨ihn h.1, fun e => ihf e (h.2 e)⟩
  | commit next failed ihn ihf => exact ⟨ihn h.1, fun e => ihf e (h.2 e)⟩
  | rollback next ih => exact ih h

/-- What a body ends with, for the body under its handler to end as `post` says. -/
def Guarded (post : Except ε α → Trace ω → Prop) (handler : ε → Txn σ ω ε α) :
    Except ε α → Trace ω → Prop
  | .ok a, t => post (.ok a) t
  | .error e, t => Ensures post (handler e) t

theorem ensures_tryCatch {x : Txn σ ω ε α} {handler : ε → Txn σ ω ε α}
    (h : Ensures (Guarded post handler) x t) : Ensures post (x.tryCatch handler) t := by
  induction x generalizing t with
  | ret a => exact h
  | fail e => exact h
  | read next failed ihn ihf => exact ⟨fun s => ihn s (h.1 s), fun e => ihf e (h.2 e)⟩
  | write w next failed ihn ihf => exact ⟨ihn h.1, fun e => ihf e (h.2 e)⟩
  | commit next failed ihn ihf => exact ⟨ihn h.1, fun e => ihf e (h.2 e)⟩
  | rollback next ih => exact ih h

end Rules

/-! ## Section 5: Read-only, writing and atomic calls -/

/-- The call neither writes nor commits nor rolls back, and returns only what `Q` allows. -/
def Reads (Q : α → Prop) : Txn σ ω ε α → Prop
  | ret a => Q a
  | fail _ => True
  | read next failed => (∀ s, Reads Q (next s)) ∧ ∀ e, Reads Q (failed e)
  | write .. | commit .. | rollback .. => False

/-- The call commits nothing, and what it has written when it returns is as `wrote` says. -/
def Writes (wrote : α → List ω → Prop) (x : Txn σ ω ε α) : Prop :=
  ∀ t, Ensures (fun r t' => t'.batches = t.batches ∧
    ∀ a, r = .ok a → ∃ ws, t'.pending = t.pending ++ ws ∧ wrote a ws) x t

/-- Nothing at all after an exception, one batch and nothing more after a result. -/
def AllOrNothing (wrote : α → List ω → Prop) : Except ε α → Trace ω → Prop
  | .ok a, t => ∃ batch, t = ⟨[batch], []⟩ ∧ wrote a batch
  | .error _, t => t = ⟨[], []⟩

/-- The call raises having committed nothing and dropped its writes, or returns having
committed one batch and nothing more. -/
structure Atomic (wrote : α → List ω → Prop) (x : Txn σ ω ε α) : Prop where
  ensures : Ensures (AllOrNothing wrote) x ⟨[], []⟩

section Calls

variable {Q : α → Prop} {wrote : α → List ω → Prop}

theorem reads_select (f : σ → α) : Reads (fun a => ∃ s, a = f s) (select f : Txn σ ω ε α) :=
  ⟨fun s => ⟨s, rfl⟩, fun _ => True.intro⟩

theorem reads_raiseIf (p : Prop) [Decidable p] (e : ε) :
    Reads (fun _ => ¬ p) (raiseIf p e : Txn σ ω ε PUnit) := by
  unfold raiseIf
  split
  · exact True.intro
  · assumption

theorem reads_orRaise (value : Option α) (e : ε) :
    Reads (fun a => value = some a) (orRaise value e : Txn σ ω ε α) := by
  cases value with
  | none => exact True.intro
  | some a => exact rfl

theorem reads_ofExcept (value : Except ε α) :
    Reads (fun a => value = .ok a) (ofExcept value : Txn σ ω ε α) := by
  cases value with
  | error e => exact True.intro
  | ok a => exact rfl

theorem Reads.mono {Q' : α → Prop} (himp : ∀ a, Q a → Q' a) {x : Txn σ ω ε α}
    (hx : Reads Q x) : Reads Q' x := by
  induction x with
  | ret a => exact himp a hx
  | fail e => exact True.intro
  | read next failed ihn ihf => exact ⟨fun s => ihn s (hx.1 s), fun e => ihf e (hx.2 e)⟩
  | write _ _ _ | commit _ _ | rollback _ => exact hx.elim

theorem Reads.bind {Q' : β → Prop} {x : Txn σ ω ε α} {f : α → Txn σ ω ε β} (hx : Reads Q x)
    (hf : ∀ a, Q a → Reads Q' (f a)) : Reads Q' (x >>= f) := by
  change Reads Q' (x.bind f)
  induction x with
  | ret a => exact hf a hx
  | fail e => exact True.intro
  | read next failed ihn ihf => exact ⟨fun s => ihn s (hx.1 s), fun e => ihf e (hx.2 e)⟩
  | write _ _ _ | commit _ _ | rollback _ => exact hx.elim

theorem Reads.ensures {x : Txn σ ω ε α} (hx : Reads Q x) (t : Trace ω) :
    Ensures (fun r t' => t' = t ∧ ∀ a, r = .ok a → Q a) x t := by
  induction x with
  | ret a => exact ⟨rfl, fun b hb => Except.ok.inj hb ▸ hx⟩
  | fail e => exact ⟨rfl, nofun⟩
  | read next failed ihn ihf => exact ⟨fun s => ihn s (hx.1 s), fun e => ihf e (hx.2 e)⟩
  | write _ _ _ | commit _ _ | rollback _ => exact hx.elim

/-- A call that only reads leaves the session seeing what it saw. -/
theorem Reads.yields {apply : ω → σ → Except ε σ} {x : Txn σ ω ε α} (hx : Reads Q x) {a : α}
    {s s' : σ} : Yields apply x s a s' → Q a ∧ s' = s := by
  rintro ⟨session, rfl, hok, rfl⟩
  induction x generalizing session with
  | ret b => exact ⟨Except.ok.inj hok ▸ hx, rfl⟩
  | fail e => cases hok
  | read next failed ihn ihf =>
    simp only [Txn.run] at hok ⊢
    split at hok
    · exact ihf _ (hx.2 _) session.tick hok
    · exact ihn _ (hx.1 _) session.tick hok
  | write _ _ _ | commit _ _ | rollback _ => exact hx.elim

/-- The rest of a call that reads first starts from what it started from. -/
theorem Reads.yields_bind {apply : ω → σ → Except ε σ} {x : Txn σ ω ε α} (hx : Reads Q x)
    {f : α → Txn σ ω ε β} {b : β} {s s' : σ} (h : Yields apply (x >>= f) s b s') :
    ∃ a, Q a ∧ Yields apply (f a) s b s' := by
  obtain ⟨a, s₁, hread, hrest⟩ := Txn.yields_bind h
  obtain ⟨hQ, rfl⟩ := hx.yields hread
  exact ⟨a, hQ, hrest⟩

theorem Reads.writes {x : Txn σ ω ε α} (hx : Reads Q x) :
    Writes (fun a ws => ws = [] ∧ Q a) x := by
  intro t
  refine (hx.ensures t).mono fun r t' ht => ?_
  obtain ⟨rfl, hQ⟩ := ht
  exact ⟨rfl, fun a ha => ⟨[], (List.append_nil _).symm, rfl, hQ a ha⟩⟩

theorem writes_flush (w : ω) : Writes (fun _ ws => ws = [w]) (flush w : Txn σ ω ε PUnit) :=
  fun _ => ⟨⟨rfl, fun _ _ => ⟨[w], rfl, rfl⟩⟩, fun _ => ⟨rfl, nofun⟩⟩

theorem writes_ret {a : α} (h : wrote a []) : Writes wrote (ret a : Txn σ ω ε α) := by
  refine fun t => ⟨rfl, fun b hb => ⟨[], (List.append_nil _).symm, ?_⟩⟩
  cases hb
  exact h

theorem Writes.mono {wrote' : α → List ω → Prop} {x : Txn σ ω ε α}
    (himp : ∀ a ws, wrote a ws → wrote' a ws) (h : Writes wrote x) : Writes wrote' x := by
  refine fun t => (h t).mono fun r t' ht => ⟨ht.1, fun a ha => ?_⟩
  obtain ⟨ws, hpending, hws⟩ := ht.2 a ha
  exact ⟨ws, hpending, himp a ws hws⟩

theorem Writes.bind {wrote' : β → List ω → Prop} {x : Txn σ ω ε α} {f : α → Txn σ ω ε β}
    (hx : Writes wrote x)
    (hf : ∀ a ws, wrote a ws → Writes (fun b ws' => wrote' b (ws ++ ws')) (f a)) :
    Writes wrote' (x >>= f) := by
  intro t
  refine ensures_bind ((hx t).mono fun r t₁ ht₁ => ?_)
  cases r with
  | error e => exact ⟨ht₁.1, nofun⟩
  | ok a =>
    obtain ⟨ws, hpending, hws⟩ := ht₁.2 a rfl
    refine (hf a ws hws t₁).mono fun r t₂ ht₂ => ⟨ht₂.1.trans ht₁.1, fun b hb => ?_⟩
    -- the writes of the second part come after those of the first
    obtain ⟨ws', hpending', hws'⟩ := ht₂.2 b hb
    exact ⟨ws ++ ws', by rw [hpending', hpending, List.append_assoc], hws'⟩

/-- Reads and checks come first: whatever they raise, nothing has happened yet. -/
theorem Reads.ensures_bind {post : Except ε β → Trace ω → Prop} {x : Txn σ ω ε α}
    {f : α → Txn σ ω ε β} {t : Trace ω} (hx : Reads Q x)
    (hf : ∀ a, Q a → Ensures post (f a) t) (herror : ∀ e, post (.error e) t) :
    Ensures post (x >>= f) t := by
  refine Txn.ensures_bind ((hx.ensures t).mono fun r t' ht => ?_)
  obtain ⟨rfl, hQ⟩ := ht
  cases r with
  | ok a => exact hf a (hQ a rfl)
  | error e => exact herror e

/-- Reads before the writes. -/
theorem Reads.writes_bind {wrote : β → List ω → Prop} {x : Txn σ ω ε α} {f : α → Txn σ ω ε β}
    (hx : Reads Q x) (hf : ∀ a, Q a → Writes wrote (f a)) : Writes wrote (x >>= f) :=
  hx.writes.bind fun a ws hws => by
    obtain ⟨rfl, hQ⟩ := hws
    exact hf a hQ

/-- Reads and checks before an atomic part leave the call atomic. -/
theorem Reads.atomic_bind {wrote : β → List ω → Prop} {x : Txn σ ω ε α}
    {f : α → Txn σ ω ε β} (hx : Reads Q x) (hf : ∀ a, Q a → Atomic wrote (f a)) :
    Atomic wrote (x >>= f) :=
  ⟨hx.ensures_bind (fun a ha => (hf a ha).ensures) fun _ => rfl⟩

/-- Writes, then one commit, under a handler that rolls back and raises: an atomic call. -/
theorem Writes.atomically {x : Txn σ ω ε α} (hx : Writes wrote x) (f : ε → ε) :
    Atomic wrote (atomically f x) := by
  refine ⟨ensures_tryCatch (ensures_bind ((hx _).mono fun r t ht => ?_))⟩
  -- nothing was committed on the way, so a rollback leaves the empty trace
  have hdiscard : t.discard = ⟨[], []⟩ := by
    rw [Trace.discard, ht.1]
  cases r with
  | error e => exact hdiscard
  | ok a =>
    obtain ⟨ws, hpending, hws⟩ := ht.2 a rfl
    refine ⟨⟨ws, ?_, hws⟩, fun e => hdiscard⟩
    rw [Trace.commit, ht.1, hpending]
    rfl

end Calls

/-! ## Section 6: A call run alone ends as its tree ensures -/

section Alone

variable {apply : ω → σ → Except ε σ} {post : Except ε α → Trace ω → Prop}

/-- The session is where a trace leads from `start`. -/
structure Session.Follows (apply : ω → σ → Except ε σ) (start : σ) (t : Trace ω)
    (s : Session σ ε) : Prop where
  committed : replay apply t.batches.flatten start = .ok s.committed
  working : replay apply t.pending s.committed = .ok s.working

theorem Session.follows_fresh (start : σ) (faults : ℕ → Option ε) :
    (Session.fresh start faults).Follows apply start ⟨[], []⟩ :=
  ⟨rfl, rfl⟩

theorem Ensures.run {x : Txn σ ω ε α} {t : Trace ω} {start : σ} {s : Session σ ε}
    (h : Ensures post x t) (hs : s.Follows apply start t) :
    ∃ t', post (x.run apply s).1 t' ∧ (x.run apply s).2.Follows apply start t' := by
  induction x generalizing t s with
  | ret a => exact ⟨t, h, hs⟩
  | fail e => exact ⟨t, h, hs⟩
  | read next failed ihn ihf =>
    simp only [Txn.run]
    split
    · exact ihf _ (h.2 _) ⟨hs.committed, hs.working⟩
    · exact ihn _ (h.1 _) ⟨hs.committed, hs.working⟩
  | write w next failed ihn ihf =>
    simp only [Txn.run]
    split
    · exact ihf _ (h.2 _) ⟨hs.committed, hs.working⟩
    · split
      -- a write the tables refuse raises like a fault
      · exact ihf _ (h.2 _) ⟨hs.committed, hs.working⟩
      · rename_i working hw
        refine ihn h.1 ⟨hs.committed, ?_⟩
        simp only [Trace.push, Session.tick_committed]
        rw [replay_append_of_ok hs.working, replay_singleton]
        exact hw
  | commit next failed ihn ihf =>
    simp only [Txn.run]
    split
    · exact ihf _ (h.2 _) ⟨hs.committed, hs.working⟩
    · -- the pending writes are replayed behind the batches before them
      refine ihn h.1 ⟨?_, rfl⟩
      simp only [Trace.commit, List.flatten_append, List.flatten_singleton]
      rw [replay_append_of_ok hs.committed]
      exact hs.working
  | rollback next ih => exact ih h ⟨hs.committed, rfl⟩

/-- Once the call is over, nothing of it is committed if it raised, and all of it if it
returned. -/
def Settled : Except ε α → Trace ω → Prop
  | .ok _, t => t.pending = []
  | .error _, t => t.batches = []

theorem Atomic.settled {wrote : α → List ω → Prop} {x : Txn σ ω ε α} (h : Atomic wrote x) :
    Ensures Settled x ⟨[], []⟩ := by
  refine h.ensures.mono fun r t ht => ?_
  cases r with
  | error e =>
    obtain rfl : t = ⟨[], []⟩ := ht
    rfl
  | ok a =>
    obtain ⟨batch, rfl, _⟩ := ht
    rfl

theorem Writes.settled {wrote : α → List ω → Prop} {x : Txn σ ω ε α} (h : Writes wrote x) :
    Ensures Settled (thenCommit x) ⟨[], []⟩ := by
  refine ensures_bind ((h _).mono fun r t ht => ?_)
  cases r with
  | error e => exact ht.1
  | ok a => exact ⟨rfl, fun e => ht.1⟩

/-- A call that settles and returned has committed what its session saw. -/
theorem yields_of_ok {x : Txn σ ω ε α} (h : Ensures Settled x ⟨[], []⟩) {start : σ}
    {faults : ℕ → Option ε} {a : α} (hok : (x.run apply (.fresh start faults)).1 = .ok a) :
    Yields apply x start a (x.run apply (.fresh start faults)).2.committed := by
  have hfresh : (Session.fresh start faults).Follows apply start ⟨[], []⟩ :=
    Session.follows_fresh start faults
  obtain ⟨t, hpost, hfollows⟩ := h.run hfresh
  have hworking := hfollows.working
  rw [hok] at hpost
  -- with nothing pending, what the session sees is what is committed
  rw [show t.pending = [] from hpost] at hworking
  exact ⟨.fresh start faults, rfl, hok, (Except.ok.inj hworking).symm⟩

/-- So an atomic call that returned has. -/
theorem Atomic.yields {wrote : α → List ω → Prop} {x : Txn σ ω ε α} (h : Atomic wrote x)
    {start : σ} {faults : ℕ → Option ε} {a : α}
    (hok : (x.run apply (.fresh start faults)).1 = .ok a) :
    Yields apply x start a (x.run apply (.fresh start faults)).2.committed :=
  yields_of_ok h.settled hok

/-- A call that settles and raised has committed nothing. -/
theorem committed_of_error {x : Txn σ ω ε α} (h : Ensures Settled x ⟨[], []⟩) {start : σ}
    {faults : ℕ → Option ε} {e : ε} (herror : (x.run apply (.fresh start faults)).1 = .error e) :
    (x.run apply (.fresh start faults)).2.committed = start := by
  have hfresh : (Session.fresh start faults).Follows apply start ⟨[], []⟩ :=
    Session.follows_fresh start faults
  obtain ⟨t, hpost, hfollows⟩ := h.run hfresh
  have hcommitted := hfollows.committed
  rw [herror] at hpost
  rw [show t.batches = [] from hpost] at hcommitted
  exact (Except.ok.inj hcommitted).symm

/-- A call that settles leaves the database as it was, or as its session saw it when the call
returned. -/
theorem committed_cases {x : Txn σ ω ε α} (h : Ensures Settled x ⟨[], []⟩) (start : σ)
    (faults : ℕ → Option ε) :
    (x.run apply (.fresh start faults)).2.committed = start ∨
      ∃ a, Yields apply x start a (x.run apply (.fresh start faults)).2.committed := by
  cases hr : (x.run apply (.fresh start faults)).1 with
  | ok a => exact .inr ⟨a, yields_of_ok h hr⟩
  | error e => exact .inl (committed_of_error h hr)

/-- An atomic call that raises leaves the database, and its session, as they were; one that
returns leaves both with its one batch. -/
theorem Atomic.run {wrote : α → List ω → Prop} {x : Txn σ ω ε α} (h : Atomic wrote x)
    (start : σ) (faults : ℕ → Option ε) :
    (∃ e, (x.run apply (.fresh start faults)).1 = .error e ∧
      (x.run apply (.fresh start faults)).2.committed = start ∧
      (x.run apply (.fresh start faults)).2.working = start) ∨
    (∃ a batch, (x.run apply (.fresh start faults)).1 = .ok a ∧ wrote a batch ∧
      replay apply batch start = .ok (x.run apply (.fresh start faults)).2.committed ∧
      (x.run apply (.fresh start faults)).2.working =
        (x.run apply (.fresh start faults)).2.committed) := by
  have hfresh : (Session.fresh start faults).Follows apply start ⟨[], []⟩ :=
    Session.follows_fresh start faults
  obtain ⟨t, hpost, hfollows⟩ := h.ensures.run hfresh
  have hcommitted := hfollows.committed
  have hworking := hfollows.working
  revert hpost
  cases hr : (x.run apply (.fresh start faults)).1 with
  | error e =>
    rintro rfl
    have hstart := Except.ok.inj hcommitted
    exact Or.inl ⟨e, rfl, hstart.symm, (Except.ok.inj hworking).symm.trans hstart.symm⟩
  | ok a =>
    rintro ⟨batch, rfl, hwrote⟩
    rw [List.flatten_singleton] at hcommitted
    exact Or.inr ⟨a, batch, rfl, hwrote, hcommitted, (Except.ok.inj hworking).symm⟩

end Alone

/-! ## Section 7: A call none of whose statements raises -/

section Completes

variable (apply : ω → σ → Except ε σ)

/-- When no statement raises, a session that sees `s` returns `a` and sees `s'` in the end. -/
def Completes (x : Txn σ ω ε α) (s : σ) (a : α) (s' : σ) : Prop :=
  ∀ committed, run apply x ⟨committed, s, fun _ => none⟩ =
    (.ok a, ⟨committed, s', fun _ => none⟩)

variable {apply}

theorem completes_pure {a : α} {s : σ} : Completes apply (pure a : Txn σ ω ε α) s a s :=
  fun _ => rfl

theorem completes_select {f : σ → α} {s : σ} :
    Completes apply (select f : Txn σ ω ε α) s (f s) s :=
  fun _ => rfl

theorem completes_flush {w : ω} {s s' : σ} (h : apply w s = .ok s') :
    Completes apply (flush w : Txn σ ω ε PUnit) s ⟨⟩ s' := by
  intro committed
  simp only [flush, run, h]
  rfl

theorem completes_bind {x : Txn σ ω ε α} {f : α → Txn σ ω ε β} {a : α} {b : β} {s s₁ s' : σ}
    (hx : Completes apply x s a s₁) (hf : Completes apply (f a) s₁ b s') :
    Completes apply (x >>= f) s b s' := by
  intro committed
  rw [run_bind, hx committed]
  exact hf committed

theorem completes_ofExcept {a : α} {value : Except ε α} {s : σ} (h : value = .ok a) :
    Completes apply (ofExcept value : Txn σ ω ε α) s a s := by
  subst h
  exact completes_pure

theorem completes_orRaise {a : α} {value : Option α} {e : ε} {s : σ} (h : value = some a) :
    Completes apply (orRaise value e : Txn σ ω ε α) s a s := by
  subst h
  exact completes_pure

theorem completes_raiseIf {p : Prop} [Decidable p] {e : ε} {s : σ} (h : ¬ p) :
    Completes apply (raiseIf p e : Txn σ ω ε PUnit) s ⟨⟩ s := by
  rw [raiseIf, if_neg h]
  exact completes_pure

/-- What follows a part that completes runs on what it has left. -/
theorem Completes.resume {x : Txn σ ω ε α} {f : α → Txn σ ω ε β} {a : α} {s s₁ : σ}
    (hx : Completes apply x s a s₁) (committed : σ) :
    run apply (x >>= f) ⟨committed, s, fun _ => none⟩ =
      run apply (f a) ⟨committed, s₁, fun _ => none⟩ := by
  rw [Txn.run_bind, hx committed]

/-- Its commit goes through as well. -/
theorem Completes.thenCommit {x : Txn σ ω ε α} {a : α} {s s' : σ} (h : Completes apply x s a s') :
    ((Txn.thenCommit x).run apply (.fresh s fun _ => none)).1 = .ok a := by
  rw [Txn.thenCommit, run_bind, Session.fresh, h s]
  rfl

end Completes

end Txn

end AyushOms.Lib
