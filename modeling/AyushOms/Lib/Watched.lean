import AyushOms.Lib.Interleaving

/-!
# What Interleaved Calls Have Seen

A call that commits has computed its writes from tables that may have been replaced since.
The server is watched: for each call it is recorded what was committed at each of its
statements. From that record the call's next statement can be computed again, so a condition
on a commit can be stated by what the call saw at a statement and what is committed now.

## Main results

- `Txn.Watched.tracked_throughout`: in a run whose commits meet a condition, what every such commit
  keeps holds of all that any call saw, in the order it saw it
- `Txn.Caller.commits_read` and its companions: what a call saw before it commits
-/

namespace AyushOms.Lib

universe u

namespace Txn

variable {γ σ ω ε α : Type u} (apply : ω → σ → Except ε σ) (program : γ → Txn σ ω ε α)

/-! ## Section 1: The record -/

/-- The call after statements that found these tables and raised these exceptions. -/
def Caller.after (c : Caller γ σ ω ε α) (seen : List (σ × Option ε)) : Caller γ σ ω ε α :=
  seen.foldl (fun c x => (c.advance apply x.1 x.2).1) c

/-- A server with, for each call, what was committed at each of its statements. -/
structure Watched (γ σ ω ε α : Type u) where
  server : Server γ σ ω ε α
  seen : List (List (σ × Option ε)) := []

namespace Watched

/-- One event, recorded. -/
def step (w : Watched γ σ ω ε α) (e : Event γ ε) : Watched γ σ ω ε α where
  server := w.server.step apply program e
  seen :=
    match e with
    | .start _ => w.seen ++ [[]]
    | .step number fault => w.seen.modify number fun l => l ++ [(w.server.committed, fault)]

/-- Nothing has begun. -/
def init (start : σ) : Watched γ σ ω ε α := { server := { committed := start } }

variable {apply program}

/-- Watching changes nothing. -/
theorem server_run (w : Watched γ σ ω ε α) (events : List (Event γ ε)) :
    (Lib.run (step apply program) w events).server =
      Lib.run (Server.step apply program) w.server events := by
  induction events generalizing w with
  | nil => rfl
  | cons e events ih => exact ih (step apply program w e)

end Watched

/-! ## Section 2: What a call saw before it commits -/

namespace Caller

variable {apply} {call : γ} {pending batch : List ω} {seen : List (σ × Option ε)}

@[simp] theorem after_nil (c : Caller γ σ ω ε α) : c.after apply [] = c := rfl

@[simp] theorem after_cons (c : Caller γ σ ω ε α) (x : σ × Option ε)
    (seen : List (σ × Option ε)) :
    c.after apply (x :: seen) = (c.advance apply x.1 x.2).1.after apply seen := rfl

theorem after_concat (c : Caller γ σ ω ε α) (x : σ × Option ε) :
    c.after apply (seen ++ [x]) = ((c.after apply seen).advance apply x.1 x.2).1 := by
  simp [after]

@[simp] theorem call_advance (c : Caller γ σ ω ε α) (s : σ) (fault : Option ε) :
    (c.advance apply s fault).1.call = c.call := by
  unfold advance
  split <;> try rfl
  all_goals split <;> rfl

/-- A call that is over stays as it is. -/
theorem after_fail (e : ε) :
    (⟨call, .fail e, pending⟩ : Caller γ σ ω ε α).after apply seen = ⟨call, .fail e, pending⟩ := by
  induction seen with
  | nil => rfl
  | cons x seen ih => exact ih

theorem after_ret (a : α) :
    (⟨call, .ret a, pending⟩ : Caller γ σ ω ε α).after apply seen = ⟨call, .ret a, pending⟩ := by
  induction seen with
  | nil => rfl
  | cons x seen ih => exact ih

/-- After these statements the call is about to commit this batch. -/
def Commits (apply : ω → σ → Except ε σ) (c : Caller γ σ ω ε α) (seen : List (σ × Option ε))
    (batch : List ω) : Prop :=
  ∃ next failed, (c.after apply seen).program = .commit next failed ∧
    (c.after apply seen).pending = batch

theorem not_commits_fail {e : ε} :
    ¬ (⟨call, .fail e, pending⟩ : Caller γ σ ω ε α).Commits apply seen batch := by
  rintro ⟨next, failed, hprogram, -⟩
  rw [after_fail] at hprogram
  cases hprogram

/-- A statement comes before the commit: it did not raise, and the call went on as it does from
what the statement found. -/
theorem commits_statement {c : Caller γ σ ω ε α} {pending' : List ω} {next : σ → Txn σ ω ε α}
    (hstart : ∀ n f, c.program ≠ .commit n f)
    (hadvance : ∀ s fault, (c.advance apply s fault).1 =
      match answer fault (replay apply pending' s) with
      | .error e => { c with program := .fail e }
      | .ok view => { c with program := next view, pending := pending' })
    (h : c.Commits apply seen batch) :
    ∃ s rest view, seen = (s, none) :: rest ∧ replay apply pending' s = .ok view ∧
      ({ c with program := next view, pending := pending' } : Caller γ σ ω ε α).Commits apply rest
        batch := by
  cases seen with
  | nil =>
    obtain ⟨n, f, hprogram, -⟩ := h
    exact absurd hprogram (hstart n f)
  | cons x rest =>
    obtain ⟨s, fault⟩ := x
    obtain ⟨n, f, hprogram, hpending⟩ := h
    rw [after_cons, hadvance] at hprogram hpending
    cases hanswer : answer fault (replay apply pending' s) with
    | error e =>
      rw [hanswer] at hprogram
      dsimp only at hprogram
      rw [after_fail] at hprogram
      cases hprogram
    | ok view =>
      cases fault with
      | some e => cases hanswer
      | none =>
        rw [hanswer] at hprogram hpending
        exact ⟨s, rest, view, rfl, hanswer, n, f, hprogram, hpending⟩

/-- A read comes before the commit: it did not raise, and the call went on with what it
saw. -/
theorem commits_read {next : σ → Txn σ ω ε α}
    (h : (⟨call, .read next .fail, pending⟩ : Caller γ σ ω ε α).Commits apply seen batch) :
    ∃ s rest view, seen = (s, none) :: rest ∧ replay apply pending s = .ok view ∧
      (⟨call, next view, pending⟩ : Caller γ σ ω ε α).Commits apply rest batch := by
  refine commits_statement (fun n f hprogram => by cases hprogram) (fun s fault => ?_) h
  unfold advance
  dsimp only
  cases answer fault (replay apply pending s) <;> rfl

/-- So does a write, which the tables accepted. -/
theorem commits_write {w : ω} {next : Txn σ ω ε α}
    (h : (⟨call, .write w next .fail, pending⟩ : Caller γ σ ω ε α).Commits apply seen batch) :
    ∃ s rest view, seen = (s, none) :: rest ∧ replay apply (pending ++ [w]) s = .ok view ∧
      (⟨call, next, pending ++ [w]⟩ : Caller γ σ ω ε α).Commits apply rest batch := by
  refine commits_statement (fun n f hprogram => by cases hprogram) (fun s fault => ?_) h
  unfold advance
  dsimp only
  cases answer fault (replay apply (pending ++ [w]) s) <;> rfl

/-- Before the call's only commit there is nothing more. -/
theorem commits_commit {a : α}
    (h : (⟨call, .commit (.ret a) .fail, pending⟩ : Caller γ σ ω ε α).Commits apply seen batch) :
    seen = [] ∧ batch = pending := by
  cases seen with
  | nil =>
    obtain ⟨_, _, -, hpending⟩ := h
    exact ⟨rfl, hpending.symm⟩
  | cons x rest =>
    obtain ⟨s, fault⟩ := x
    obtain ⟨n, f, hprogram, -⟩ := h
    rw [after_cons] at hprogram
    cases hanswer : answer fault (replay apply pending s) with
    | error e =>
      simp only [advance, hanswer] at hprogram
      rw [after_fail] at hprogram
      cases hprogram
    | ok view =>
      simp only [advance, hanswer] at hprogram
      rw [after_ret] at hprogram
      cases hprogram

/-- A commit that goes through replays the pending writes on what is committed. -/
theorem commits_of_advance {c c' : Caller γ σ ω ε α} {s s' : σ} {fault : Option ε}
    (h : c.advance apply s fault = (c', some (batch, s'))) :
    c.Commits apply [] batch ∧ replay apply batch s = .ok s' := by
  obtain ⟨call, program, pending⟩ := c
  cases program with
  | ret a => cases h
  | fail e => cases h
  | read next failed =>
    simp only [advance] at h
    split at h <;> cases h
  | write w next failed =>
    simp only [advance] at h
    split at h <;> cases h
  | commit next failed =>
    simp only [advance] at h
    split at h
    · cases h
    · rename_i hanswer
      cases fault with
      | some e => cases hanswer
      | none =>
        cases h
        exact ⟨⟨next, failed, rfl, rfl⟩, hanswer⟩
  | rollback next => cases h

end Caller

/-! ## Section 3: Runs of validated commits -/

/-- The call's next statement is a commit. -/
def Caller.committing (c : Caller γ σ ω ε α) : Bool :=
  match c.program with
  | .commit .. => true
  | _ => false

namespace Watched

/-- The calls are as `Q` says, and every commit is as `V` says: given the call, what was
committed at its statements, and what is committed now. -/
def Validated (Q : γ → Prop) (V : γ → List σ → σ → Prop) (w : Watched γ σ ω ε α) :
    Event γ ε → Prop
  | .start call => Q call
  | .step number _ => ∀ c ∈ w.server.callers[number]?, ∀ l ∈ w.seen[number]?,
    c.committing = true → V c.call (l.map Prod.fst) w.server.committed

instance {Q : γ → Prop} {V : γ → List σ → σ → Prop} [DecidablePred Q]
    [∀ call seen s, Decidable (V call seen s)] (w : Watched γ σ ω ε α) :
    ∀ e : Event γ ε, Decidable (w.Validated Q V e)
  | .start call => inferInstanceAs (Decidable (Q call))
  | .step number _ => inferInstanceAs (Decidable (∀ c ∈ w.server.callers[number]?,
    ∀ l ∈ w.seen[number]?, c.committing = true → V c.call (l.map Prod.fst) w.server.committed))

variable {apply program} {Q : γ → Prop} {V : γ → List σ → σ → Prop} {Inv : σ → Prop}
  {R : σ → σ → Prop}

/-- What is committed satisfies `Inv`, and so does all that any call has seen; what it has
seen moved as `R` says, up to what is committed now. -/
structure Tracked (apply : ω → σ → Except ε σ) (program : γ → Txn σ ω ε α) (Q : γ → Prop)
    (Inv : σ → Prop) (R : σ → σ → Prop) (w : Watched γ σ ω ε α) : Prop where
  inv : Inv w.server.committed
  length : w.seen.length = w.server.callers.length
  reached : ∀ (n : ℕ) c l, w.server.callers[n]? = some c → w.seen[n]? = some l →
    Q c.call ∧ c = (⟨c.call, program c.call, []⟩ : Caller γ σ ω ε α).after apply l
  seen : ∀ l ∈ w.seen, (∀ x ∈ l, Inv x.1) ∧
    (l.map Prod.fst ++ [w.server.committed]).Pairwise R

theorem tracked_init {start : σ} (h : Inv start) :
    (init start : Watched γ σ ω ε α).Tracked apply program Q Inv R :=
  ⟨h, rfl, nofun, nofun⟩

/-- A validated commit keeps the invariant and moves what is committed as `R` says. -/
def Preserves (apply : ω → σ → Except ε σ) (program : γ → Txn σ ω ε α) (Q : γ → Prop)
    (V : γ → List σ → σ → Prop) (Inv : σ → Prop) (R : σ → σ → Prop) : Prop :=
  ∀ call l batch s s', Q call →
    (⟨call, program call, []⟩ : Caller γ σ ω ε α).Commits apply l batch →
    V call (l.map Prod.fst) s → replay apply batch s = .ok s' → (∀ x ∈ l, Inv x.1) →
    (l.map Prod.fst ++ [s]).Pairwise R → Inv s → Inv s' ∧ R s s'

/-- What a call has seen, once it has seen what is committed too. -/
theorem pairwise_seen_concat [Std.Refl R] {l : List σ} {s : σ} (h : (l ++ [s]).Pairwise R) :
    (l ++ [s] ++ [s]).Pairwise R := by
  refine List.pairwise_append.mpr ⟨h, List.pairwise_singleton R s, fun x hx y hy => ?_⟩
  obtain rfl := List.mem_singleton.mp hy
  rcases List.mem_append.mp hx with hold | hnew
  · exact (List.pairwise_append.mp h).2.2 x hold y (List.mem_singleton_self y)
  · obtain rfl := List.mem_singleton.mp hnew
    exact Std.Refl.refl x

/-- What is committed moves on. -/
theorem pairwise_seen_move [IsTrans σ R] {l : List σ} {s s' : σ} (h : (l ++ [s]).Pairwise R)
    (hmove : R s s') : (l ++ [s']).Pairwise R := by
  refine List.pairwise_append.mpr
    ⟨(List.pairwise_append.mp h).1, List.pairwise_singleton R s', fun x hx y hy => ?_⟩
  obtain rfl := List.mem_singleton.mp hy
  exact IsTrans.trans x s y ((List.pairwise_append.mp h).2.2 x hx s (List.mem_singleton_self s))
    hmove

/-- A call begins. -/
theorem Tracked.start {w : Watched γ σ ω ε α} (h : w.Tracked apply program Q Inv R) {call : γ}
    (hcall : Q call) :
    (w.step apply program (.start call)).Tracked apply program Q Inv R where
  inv := h.inv
  length := by simp [step, Server.step, h.length]
  reached n c l hc hl := by
    simp only [step, Server.step] at hc hl
    rcases Nat.lt_or_ge n w.server.callers.length with hlt | hge
    · rw [List.getElem?_append_left hlt] at hc
      rw [List.getElem?_append_left (h.length ▸ hlt)] at hl
      exact h.reached n c l hc hl
    · -- the call that has just begun has seen nothing
      obtain ⟨hn, -⟩ := List.getElem?_eq_some_iff.mp hc
      obtain rfl : n = w.server.callers.length := by
        rw [List.length_append, List.length_singleton] at hn
        omega
      rw [List.getElem?_concat_length] at hc
      rw [← h.length, List.getElem?_concat_length] at hl
      cases hc
      cases hl
      exact ⟨hcall, rfl⟩
  seen l hl := by
    rcases List.mem_append.mp hl with hold | hnew
    · exact h.seen l hold
    · obtain rfl := List.mem_singleton.mp hnew
      exact ⟨fun _ h => absurd h List.not_mem_nil, List.pairwise_singleton R _⟩

section Rule

variable [Std.Refl R] [IsTrans σ R] {w : Watched γ σ ω ε α}

/-- A call takes a statement, and what is committed moves on as `R` says. -/
theorem Tracked.advance (h : w.Tracked apply program Q Inv R) {number : ℕ}
    {c c' : Caller γ σ ω ε α} {fault : Option ε} {s' : σ} {log : List (ℕ × List ω)}
    (hc : w.server.callers[number]? = some c)
    (hc' : (c.advance apply w.server.committed fault).1 = c') (hinv : Inv s')
    (hmove : R w.server.committed s') :
    Tracked apply program Q Inv R
      { server := { committed := s', callers := w.server.callers.set number c', log := log }
        seen := w.seen.modify number fun l => l ++ [(w.server.committed, fault)] } where
  inv := hinv
  length := by simp [h.length]
  reached n d l hd hl := by
    rw [List.getElem?_modify] at hl
    obtain ⟨l₀, hl₀, hl⟩ := Option.map_eq_some_iff.mp hl
    by_cases hn : number = n
    · subst hn
      obtain ⟨hlt, -⟩ := List.getElem?_eq_some_iff.mp hc
      simp only [List.getElem?_set_self hlt, Option.some.injEq] at hd
      subst hd
      rw [if_pos rfl] at hl
      subst hl
      obtain ⟨hQ, hreached⟩ := h.reached number c l₀ hc hl₀
      have hcall : c'.call = c.call := by rw [← hc', Caller.call_advance]
      rw [hcall, Caller.after_concat, ← hreached]
      exact ⟨hQ, hc'.symm⟩
    · simp only [List.getElem?_set_ne hn] at hd
      rw [if_neg hn] at hl
      subst hl
      exact h.reached n d l₀ hd hl₀
  seen l hl := by
    obtain ⟨n, hl⟩ := List.mem_iff_getElem?.mp hl
    rw [List.getElem?_modify] at hl
    obtain ⟨l₀, hl₀, hl⟩ := Option.map_eq_some_iff.mp hl
    obtain ⟨hseen, hpairwise⟩ := h.seen l₀ (List.mem_of_getElem? hl₀)
    by_cases hn : number = n
    · rw [if_pos hn] at hl
      subst hl
      rw [List.map_append]
      refine ⟨fun x hx => ?_, pairwise_seen_move (pairwise_seen_concat hpairwise) hmove⟩
      rcases List.mem_append.mp hx with hold | hnew
      · exact hseen x hold
      · obtain rfl := List.mem_singleton.mp hnew
        exact h.inv
    · rw [if_neg hn] at hl
      subst hl
      exact ⟨hseen, pairwise_seen_move hpairwise hmove⟩

/-- One event of a run whose commits are validated. -/
theorem Tracked.step (hpreserves : Preserves apply program Q V Inv R)
    (h : w.Tracked apply program Q Inv R) {e : Event γ ε} (hvalid : w.Validated Q V e) :
    (w.step apply program e).Tracked apply program Q Inv R := by
  cases e with
  | start call => exact h.start hvalid
  | step number fault =>
    cases hc : w.server.callers[number]? with
    | none =>
      have hlen : w.seen.length ≤ number := h.length ▸ List.getElem?_eq_none_iff.mp hc
      have hsame : w.step apply program (.step number fault) = w := by
        simp only [Watched.step, Server.step, hc, List.modify_eq_self hlen]
      rwa [hsame]
    | some c =>
      obtain ⟨hlt, -⟩ := List.getElem?_eq_some_iff.mp hc
      obtain ⟨l, hl⟩ : ∃ l, w.seen[number]? = some l :=
        ⟨_, List.getElem?_eq_getElem (h.length ▸ hlt)⟩
      obtain ⟨hQ, hreached⟩ := h.reached number c l hc hl
      have hmem := List.mem_of_getElem? hl
      rcases hadvance : c.advance apply w.server.committed fault with ⟨c', _ | ⟨batch, s'⟩⟩
      -- a statement that commits nothing leaves everything where it is
      · simp only [Watched.step, Server.step, hc, hadvance]
        exact h.advance hc (congrArg Prod.fst hadvance) h.inv (Std.Refl.refl _)
      · simp only [Watched.step, Server.step, hc, hadvance]
        obtain ⟨⟨next, failed, hprogram, hpending⟩, hreplay⟩ := Caller.commits_of_advance hadvance
        have hcommits : (⟨c.call, program c.call, []⟩ : Caller γ σ ω ε α).Commits apply l batch :=
          ⟨next, failed, by rw [← hreached]; exact hprogram, by rw [← hreached]; exact hpending⟩
        have hcommitting : c.committing = true := by
          have hprogram : c.program = .commit next failed := hprogram
          rw [Caller.committing, hprogram]
        obtain ⟨hinv, hmove⟩ := hpreserves c.call l batch w.server.committed s' hQ hcommits
          (hvalid c hc l hl hcommitting) hreplay (h.seen l hmem).1 (h.seen l hmem).2 h.inv
        exact h.advance hc (congrArg Prod.fst hadvance) hinv hmove

/-- In every state of a run whose commits are validated. -/
theorem tracked_throughout (hpreserves : Preserves apply program Q V Inv R) {start : σ}
    (hstart : Inv start) {events : List (Event γ ε)}
    (hvalid : Along (Watched.step apply program) (Validated Q V) (init start) events) :
    Throughout (Watched.step apply program) (Tracked apply program Q Inv R) (init start) events :=
  throughout_of_along (fun _ _ h hevent => h.step hpreserves hevent) (tracked_init hstart) hvalid

end Rule

end Watched

end Txn

end AyushOms.Lib
