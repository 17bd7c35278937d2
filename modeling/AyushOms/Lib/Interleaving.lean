import AyushOms.Lib.Transaction

/-!
# Interleaved Transactions

A server holds what is committed and the calls in progress, each a program with the writes
it has not committed yet. Any call may take its next statement at any time, and any
statement may raise. A statement sees what is committed by then under the call's own
pending writes; a commit replays the pending writes on what is committed by then, and is
refused when they no longer fit.

The server keeps a log of the committed batches, so that what is committed is always the
replay of the log.

## Main results

- `Txn.Server.Coherent.step`, `Txn.Server.coherent_run`: what each tree ensures, each call
  keeps to, in every interleaving
- `Txn.Server.undisturbed`: a call that nothing comes between does what it does alone
-/

namespace AyushOms.Lib

universe u

namespace Txn

variable {γ σ ω ε α : Type u}

/-! ## Section 1: Calls in progress -/

/-- A call, the statements it has left and its uncommitted writes. -/
structure Caller (γ σ ω ε α : Type u) where
  call : γ
  program : Txn σ ω ε α
  pending : List ω := []

/-- What is committed, the calls begun so far by number, and the batches committed so far,
each with its call. -/
structure Server (γ σ ω ε α : Type u) where
  committed : σ
  callers : List (Caller γ σ ω ε α) := []
  log : List (ℕ × List ω) := []

/-- A call begins, or the call with this number takes its next statement, which may raise. -/
inductive Event (γ ε : Type u) where
  | start (call : γ)
  | step (number : ℕ) (fault : Option ε)

/-- The answer to a statement that computes `answer` unless it raises `fault`. -/
def answer {β : Type u} (fault : Option ε) (answer : Except ε β) : Except ε β :=
  match fault with
  | some e => .error e
  | none => answer

section Steps

variable (apply : ω → σ → Except ε σ) (program : γ → Txn σ ω ε α)

namespace Caller

/-- The next statement of a call, with the batch it commits and what is committed then. -/
def advance (committed : σ) (fault : Option ε) (c : Caller γ σ ω ε α) :
    Caller γ σ ω ε α × Option (List ω × σ) :=
  match c.program with
  | .ret _ | .fail _ => (c, none)
  | .read next failed =>
    match answer fault (replay apply c.pending committed) with
    | .error e => ({ c with program := failed e }, none)
    | .ok s => ({ c with program := next s }, none)
  | .write w next failed =>
    match answer fault (replay apply (c.pending ++ [w]) committed) with
    | .error e => ({ c with program := failed e }, none)
    | .ok _ => ({ c with program := next, pending := c.pending ++ [w] }, none)
  | .commit next failed =>
    match answer fault (replay apply c.pending committed) with
    | .error e => ({ c with program := failed e }, none)
    | .ok s => ({ c with program := next, pending := [] }, some (c.pending, s))
  | .rollback next => ({ c with program := next, pending := [] }, none)

/-- The next statements of a call, each of which meets the given committed state, and the
batches it commits. What the other calls do shows in these states only. -/
def advanceAmid (c : Caller γ σ ω ε α) : List σ → Caller γ σ ω ε α × List (List ω)
  | [] => (c, [])
  | committed :: rest =>
    let (c', batch) := c.advance apply committed none
    let (c'', batches) := c'.advanceAmid rest
    (c'', (batch.map Prod.fst).toList ++ batches)

end Caller

namespace Server

/-- One event. -/
def step (s : Server γ σ ω ε α) : Event γ ε → Server γ σ ω ε α
  | .start call =>
    { s with callers := s.callers ++ [{ call := call, program := program call }] }
  | .step number fault =>
    match s.callers[number]? with
    | none => s
    | some c =>
      match c.advance apply s.committed fault with
      | (c', none) => { s with callers := s.callers.set number c' }
      | (c', some (batch, committed)) =>
        { committed := committed
          callers := s.callers.set number c'
          log := s.log ++ [(number, batch)] }

/-- The batches one call has committed. -/
def batchesOf (s : Server γ σ ω ε α) (number : ℕ) : List (List ω) :=
  (s.log.filter fun entry => entry.1 == number).map (·.2)

/-- The call with this number is over and has returned. -/
def Returned (s : Server γ σ ω ε α) (number : ℕ) (call : γ) (a : α) : Prop :=
  ∃ c, s.callers[number]? = some c ∧ c.call = call ∧ c.program = .ret a

/-- The call with this number is over and has raised. -/
def Raised (s : Server γ σ ω ε α) (number : ℕ) (call : γ) (e : ε) : Prop :=
  ∃ c, s.callers[number]? = some c ∧ c.call = call ∧ c.program = .fail e

end Server

end Steps

/-! ## Section 2: What every interleaving keeps -/

variable {apply : ω → σ → Except ε σ} {program : γ → Txn σ ω ε α}
  {post : γ → Except ε α → Trace ω → Prop}

/-- A statement moves a call along its tree: without a commit the batches stay, with one
they grow by the pending writes, which fit what is committed. -/
theorem Caller.ensures_advance (apply : ω → σ → Except ε σ) {c : Caller γ σ ω ε α}
    {batches : List (List ω)} (committed : σ) (fault : Option ε)
    (h : Ensures (post c.call) c.program ⟨batches, c.pending⟩) :
    match c.advance apply committed fault with
    | (c', none) => Ensures (post c'.call) c'.program ⟨batches, c'.pending⟩
    | (c', some (batch, committed')) =>
      replay apply batch committed = .ok committed' ∧
        Ensures (post c'.call) c'.program ⟨batches ++ [batch], c'.pending⟩ := by
  obtain ⟨call, program, pending⟩ := c
  cases program with
  | ret a => exact h
  | fail e => exact h
  | read next failed =>
    simp only [advance]
    split <;> rename_i heq <;> split at heq <;> cases heq
    · exact h.2 _
    · exact h.1 _
  | write w next failed =>
    simp only [advance]
    split <;> rename_i heq <;> split at heq <;> cases heq
    · exact h.2 _
    · exact h.1
  | commit next failed =>
    simp only [advance]
    split <;> rename_i heq <;> split at heq <;> cases heq
    · exact h.2 _
    · rename_i hanswer
      refine ⟨?_, h.1⟩
      cases fault with
      | some e => cases hanswer
      | none => exact hanswer
  | rollback next => exact h

namespace Caller

variable {call : γ} {pending : List ω} {committed s : σ} {rest : List σ} {e : ε}

/-! Its statements one by one, when nothing but a refusal makes one raise. -/

theorem advanceAmid_fail (e : ε) (states : List σ) :
    (⟨call, fail e, pending⟩ : Caller γ σ ω ε α).advanceAmid apply states =
      (⟨call, fail e, pending⟩, []) := by
  induction states with
  | nil => rfl
  | cons s rest ih => simp [advanceAmid, advance, ih]

theorem advanceAmid_read {next : σ → Txn σ ω ε α} {failed : ε → Txn σ ω ε α}
    (h : replay apply pending committed = .ok s) :
    (⟨call, read next failed, pending⟩ : Caller γ σ ω ε α).advanceAmid apply
        (committed :: rest) =
      (⟨call, next s, pending⟩ : Caller γ σ ω ε α).advanceAmid apply rest := by
  simp [advanceAmid, advance, answer, h]

theorem advanceAmid_write_ok {w : ω} {next : Txn σ ω ε α} {failed : ε → Txn σ ω ε α}
    (h : replay apply (pending ++ [w]) committed = .ok s) :
    (⟨call, write w next failed, pending⟩ : Caller γ σ ω ε α).advanceAmid apply
        (committed :: rest) =
      (⟨call, next, pending ++ [w]⟩ : Caller γ σ ω ε α).advanceAmid apply rest := by
  simp [advanceAmid, advance, answer, h]

theorem advanceAmid_write_error {w : ω} {next : Txn σ ω ε α} {failed : ε → Txn σ ω ε α}
    (h : replay apply (pending ++ [w]) committed = .error e) :
    (⟨call, write w next failed, pending⟩ : Caller γ σ ω ε α).advanceAmid apply
        (committed :: rest) =
      (⟨call, failed e, pending⟩ : Caller γ σ ω ε α).advanceAmid apply rest := by
  simp [advanceAmid, advance, answer, h]

theorem advanceAmid_commit_ok {next : Txn σ ω ε α} {failed : ε → Txn σ ω ε α}
    (h : replay apply pending committed = .ok s) :
    (⟨call, commit next failed, pending⟩ : Caller γ σ ω ε α).advanceAmid apply
        (committed :: rest) =
      (((⟨call, next, []⟩ : Caller γ σ ω ε α).advanceAmid apply rest).1,
        pending :: ((⟨call, next, []⟩ : Caller γ σ ω ε α).advanceAmid apply rest).2) := by
  simp [advanceAmid, advance, answer, h]

theorem advanceAmid_commit_error {next : Txn σ ω ε α} {failed : ε → Txn σ ω ε α}
    (h : replay apply pending committed = .error e) :
    (⟨call, commit next failed, pending⟩ : Caller γ σ ω ε α).advanceAmid apply
        (committed :: rest) =
      (⟨call, failed e, pending⟩ : Caller γ σ ω ε α).advanceAmid apply rest := by
  simp [advanceAmid, advance, answer, h]

theorem advanceAmid_rollback {next : Txn σ ω ε α} :
    (⟨call, rollback next, pending⟩ : Caller γ σ ω ε α).advanceAmid apply (committed :: rest) =
      (⟨call, next, []⟩ : Caller γ σ ω ε α).advanceAmid apply rest := rfl

end Caller

namespace Server

/-- What is committed is the replay of the log, and every call is where its tree leads. -/
structure Coherent (apply : ω → σ → Except ε σ) (post : γ → Except ε α → Trace ω → Prop)
    (start : σ) (s : Server γ σ ω ε α) : Prop where
  replayed : replay apply (s.log.flatMap (·.2)) start = .ok s.committed
  ensured : ∀ n c, s.callers[n]? = some c →
    Ensures (post c.call) c.program ⟨s.batchesOf n, c.pending⟩
  logged : ∀ entry ∈ s.log, entry.1 < s.callers.length

theorem coherent_start (start : σ) : Coherent apply post start ({ committed := start } :
    Server γ σ ω ε α) :=
  ⟨rfl, nofun, nofun⟩

/-- A number no call has yet is not in the log. -/
theorem Coherent.batchesOf_eq_nil {start : σ} {s : Server γ σ ω ε α}
    (h : s.Coherent apply post start) {n : ℕ} (hn : s.callers.length ≤ n) :
    s.batchesOf n = [] := by
  rw [batchesOf, List.map_eq_nil_iff, List.filter_eq_nil_iff]
  intro entry hentry
  have hlt := h.logged entry hentry
  simp only [beq_iff_eq]
  omega

theorem batchesOf_concat (s : Server γ σ ω ε α) (number n : ℕ) (batch : List ω)
    (committed : σ) (callers : List (Caller γ σ ω ε α)) :
    batchesOf { committed := committed, callers := callers, log := s.log ++ [(number, batch)] } n =
      if number = n then s.batchesOf n ++ [batch] else s.batchesOf n := by
  simp only [batchesOf, List.filter_append, List.map_append]
  by_cases hn : number = n
  · simp [hn]
  · simp [hn]

/-- A call that begins has committed nothing. -/
theorem Coherent.start {start : σ} {s : Server γ σ ω ε α} (h : s.Coherent apply post start)
    {call : γ} (hprogram : Ensures (post call) (program call) ⟨[], []⟩) :
    (s.step apply program (.start call)).Coherent apply post start := by
  refine ⟨h.replayed, fun n c hc => ?_, fun entry hentry => ?_⟩
  -- the calls before it are untouched, and its own number is not in the log yet
  · rcases Nat.lt_trichotomy n s.callers.length with hlt | rfl | hgt
    · rw [Server.step, List.getElem?_append_left hlt] at hc
      exact h.ensured n c hc
    · have hbatches : (s.step apply program (.start call)).batchesOf s.callers.length = [] :=
        h.batchesOf_eq_nil (Nat.le_refl _)
      rw [Server.step, List.getElem?_concat_length] at hc
      cases hc
      rw [hbatches]
      exact hprogram
    · rw [Server.step, List.getElem?_eq_none (by simp; omega)] at hc
      cases hc
  · have hlt := h.logged entry hentry
    simp only [Server.step, List.length_append, List.length_singleton]
    omega

/-- A call moves on without a commit. -/
theorem Coherent.set {start : σ} {s : Server γ σ ω ε α} (h : s.Coherent apply post start)
    {number : ℕ} {c' : Caller γ σ ω ε α} (hlt : number < s.callers.length)
    (hc' : Ensures (post c'.call) c'.program ⟨s.batchesOf number, c'.pending⟩) :
    Coherent apply post start { s with callers := s.callers.set number c' } := by
  refine ⟨h.replayed, fun n d hd => ?_, fun entry hentry => ?_⟩
  · by_cases hn : number = n
    · subst hn
      rw [List.getElem?_set_self hlt] at hd
      cases hd
      exact hc'
    · rw [List.getElem?_set_ne hn] at hd
      exact h.ensured n d hd
  · rw [List.length_set]
    exact h.logged entry hentry

/-- A call commits a batch that fits what is committed. -/
theorem Coherent.logBatch {start : σ} {s : Server γ σ ω ε α} (h : s.Coherent apply post start)
    {number : ℕ} {c' : Caller γ σ ω ε α} {batch : List ω} {committed : σ}
    (hlt : number < s.callers.length) (hbatch : replay apply batch s.committed = .ok committed)
    (hc' : Ensures (post c'.call) c'.program ⟨s.batchesOf number ++ [batch], c'.pending⟩) :
    Coherent apply post start
      { committed := committed
        callers := s.callers.set number c'
        log := s.log ++ [(number, batch)] } := by
  refine ⟨?_, fun n d hd => ?_, fun entry hentry => ?_⟩
  · simp only [List.flatMap_append, List.flatMap_singleton]
    rw [replay_append_of_ok h.replayed]
    exact hbatch
  · rw [batchesOf_concat]
    by_cases hn : number = n
    · subst hn
      rw [List.getElem?_set_self hlt] at hd
      cases hd
      rw [if_pos rfl]
      exact hc'
    · rw [List.getElem?_set_ne hn] at hd
      rw [if_neg hn]
      exact h.ensured n d hd
  · rw [List.length_set]
    rcases List.mem_append.mp hentry with hold | hnew
    · exact h.logged entry hold
    · obtain rfl := List.mem_singleton.mp hnew
      exact hlt

theorem Coherent.step {start : σ} {s : Server γ σ ω ε α} (h : s.Coherent apply post start)
    (hprogram : ∀ call, Ensures (post call) (program call) ⟨[], []⟩) (e : Event γ ε) :
    (s.step apply program e).Coherent apply post start := by
  cases e with
  | start call => exact h.start (hprogram call)
  | step number fault =>
    cases hcaller : s.callers[number]? with
    | none =>
      simp only [Server.step, hcaller]
      exact h
    | some c =>
      have hlt : number < s.callers.length := (List.getElem?_eq_some_iff.mp hcaller).1
      have hadvance := Caller.ensures_advance apply s.committed fault
        (h.ensured number c hcaller)
      rcases hc : c.advance apply s.committed fault with ⟨c', _ | ⟨batch, committed⟩⟩
      -- only a commit that goes through adds to the log
      · simp only [Server.step, hcaller, hc]
        rw [hc] at hadvance
        exact h.set hlt hadvance
      · simp only [Server.step, hcaller, hc]
        rw [hc] at hadvance
        exact h.logBatch hlt hadvance.1 hadvance.2

/-- In every interleaving, what is committed is the replay of the log and every call is where
its tree leads. -/
theorem coherent_run (hprogram : ∀ call, Ensures (post call) (program call) ⟨[], []⟩)
    (start : σ) (events : List (Event γ ε)) :
    (Lib.run (step apply program) { committed := start } events).Coherent apply post start :=
  run_invariant (step apply program) (fun _ e h => h.step hprogram e) (coherent_start start) events

/-- An atomic call that returned has committed one batch, one that raised none. -/
theorem Coherent.returned {wrote : γ → α → List ω → Prop} {start : σ}
    {s : Server γ σ ω ε α}
    (h : s.Coherent apply (fun call => AllOrNothing (wrote call)) start) {number : ℕ} {call : γ}
    {a : α} (hreturned : s.Returned number call a) :
    ∃ batch, s.batchesOf number = [batch] ∧ wrote call a batch := by
  obtain ⟨c, hc, rfl, hprogram⟩ := hreturned
  have hensured := h.ensured number c hc
  rw [hprogram] at hensured
  obtain ⟨batch, htrace, hwrote⟩ := hensured
  exact ⟨batch, congrArg Trace.batches htrace, hwrote⟩

theorem Coherent.raised {wrote : γ → α → List ω → Prop} {start : σ} {s : Server γ σ ω ε α}
    (h : s.Coherent apply (fun call => AllOrNothing (wrote call)) start) {number : ℕ} {call : γ}
    {e : ε} (hraised : s.Raised number call e) : s.batchesOf number = [] := by
  obtain ⟨c, hc, rfl, hprogram⟩ := hraised
  have hensured := h.ensured number c hc
  rw [hprogram] at hensured
  have htrace : (⟨s.batchesOf number, c.pending⟩ : Trace ω) = ⟨[], []⟩ := hensured
  exact congrArg Trace.batches htrace

theorem mem_log_of_mem_batchesOf {s : Server γ σ ω ε α} {number : ℕ} {batch : List ω}
    (h : batch ∈ s.batchesOf number) : (number, batch) ∈ s.log := by
  obtain ⟨entry, hentry, rfl⟩ := List.mem_map.mp h
  obtain ⟨hlog, hnumber⟩ := List.mem_filter.mp hentry
  rw [← beq_iff_eq.mp hnumber]
  exact hlog

/-! ## Section 3: A call that nothing comes between -/

/-- A call that is over. -/
def finished : Except ε α → Txn σ ω ε α
  | .ok a => ret a
  | .error e => fail e

/-- Some statements of the call, taken one after another, end it with this outcome. -/
def Finishes (apply : ω → σ → Except ε σ) (program : γ → Txn σ ω ε α) (s : Server γ σ ω ε α)
    (number : ℕ) (call : γ) (outcome : Except ε α × Session σ ε) : Prop :=
  ∃ (faults : List (Option ε)) (c : Caller γ σ ω ε α),
    (Lib.run (step apply program) s (faults.map (.step number))).committed =
      outcome.2.committed ∧
    (Lib.run (step apply program) s (faults.map (.step number))).callers[number]? = some c ∧
    c.call = call ∧ c.program = finished outcome.1

theorem Finishes.of_step {s s' : Server γ σ ω ε α} {number : ℕ} {call : γ}
    {outcome : Except ε α × Session σ ε} (fault : Option ε)
    (hstep : s.step apply program (.step number fault) = s')
    (h : s'.Finishes apply program number call outcome) :
    s.Finishes apply program number call outcome := by
  obtain ⟨faults, c, hrest⟩ := h
  refine ⟨fault :: faults, c, ?_⟩
  rw [List.map_cons, run_cons, hstep]
  exact hrest

/-- A statement that commits nothing comes before the rest. -/
theorem Finishes.of_advance {s : Server γ σ ω ε α} {number : ℕ} {call : γ}
    {c c' : Caller γ σ ω ε α} {outcome : Except ε α × Session σ ε} {fault : Option ε}
    (hc : s.callers[number]? = some c)
    (hadvance : c.advance apply s.committed fault = (c', none))
    (h : Finishes apply program { s with callers := s.callers.set number c' } number call
      outcome) : s.Finishes apply program number call outcome :=
  .of_step fault (by simp only [step, hc, hadvance]) h

/-- The statements of one call, taken with nothing in between, end it as it ends alone. -/
theorem undisturbed (x : Txn σ ω ε α) (s : Server γ σ ω ε α) (number : ℕ)
    (c : Caller γ σ ω ε α) (session : Session σ ε) (hc : s.callers[number]? = some c)
    (hx : c.program = x) (hcommitted : s.committed = session.committed)
    (hworking : replay apply c.pending s.committed = .ok session.working) :
    s.Finishes apply program number c.call (x.run apply session) := by
  have hself : ∀ {s : Server γ σ ω ε α} {c : Caller γ σ ω ε α},
      s.callers[number]? = some c → ∀ c', (s.callers.set number c')[number]? = some c' :=
    fun hc c' => List.getElem?_set_self (List.getElem?_eq_some_iff.mp hc).1
  -- each statement is answered as the session answers it
  induction x generalizing s c session with
  | ret a => exact ⟨[], c, hcommitted, hc, rfl, hx⟩
  | fail e => exact ⟨[], c, hcommitted, hc, rfl, hx⟩
  | read next failed ihn ihf =>
    simp only [Txn.run]
    split
    · rename_i e _
      have hadvance : c.advance apply s.committed (some e) =
          ({ c with program := failed e }, none) := by simp only [Caller.advance, hx, answer]
      exact .of_advance hc hadvance
        (ihf e _ { c with program := failed e } session.tick (hself hc _) rfl hcommitted hworking)
    · have hadvance : c.advance apply s.committed none =
          ({ c with program := next session.working }, none) := by
        simp only [Caller.advance, hx, answer, hworking]
      exact .of_advance hc hadvance
        (ihn _ _ { c with program := next _ } session.tick (hself hc _) rfl hcommitted hworking)
  | write w next failed ihn ihf =>
    -- the pending writes lead to what the session sees, so the write meets the same tables
    have hsent : replay apply (c.pending ++ [w]) s.committed = apply w session.working := by
      rw [replay_append_of_ok hworking, replay_singleton]
    simp only [Txn.run]
    split
    · rename_i e _
      have hadvance : c.advance apply s.committed (some e) =
          ({ c with program := failed e }, none) := by simp only [Caller.advance, hx, answer]
      exact .of_advance hc hadvance
        (ihf e _ { c with program := failed e } session.tick (hself hc _) rfl hcommitted hworking)
    · split
      · rename_i e hw
        have hadvance : c.advance apply s.committed none =
            ({ c with program := failed e }, none) := by
          simp only [Caller.advance, hx, answer, hsent, hw]
        exact .of_advance hc hadvance
          (ihf e _ { c with program := failed e } session.tick (hself hc _) rfl hcommitted hworking)
      · rename_i working hw
        have hadvance : c.advance apply s.committed none =
            ({ c with program := next, pending := c.pending ++ [w] }, none) := by
          simp only [Caller.advance, hx, answer, hsent, hw]
        exact .of_advance hc hadvance
          (ihn _ { c with program := next, pending := c.pending ++ [w] }
            { session.tick with working := working } (hself hc _) rfl hcommitted
            (hsent.trans hw))
  | commit next failed ihn ihf =>
    simp only [Txn.run]
    split
    · rename_i e _
      have hadvance : c.advance apply s.committed (some e) =
          ({ c with program := failed e }, none) := by simp only [Caller.advance, hx, answer]
      exact .of_advance hc hadvance
        (ihf e _ { c with program := failed e } session.tick (hself hc _) rfl hcommitted hworking)
    · -- what is committed is now what the session saw
      have hstep : s.step apply program (.step number none) =
          { committed := session.working
            callers := s.callers.set number { c with program := next, pending := [] }
            log := s.log ++ [(number, c.pending)] } := by
        simp only [step, hc, Caller.advance, hx, answer, hworking]
      exact .of_step none hstep (ihn _ { c with program := next, pending := [] }
        { session.tick with committed := session.working } (hself hc _) rfl rfl rfl)
  | rollback next ih =>
    -- both forget the writes since the last commit
    have hadvance : c.advance apply s.committed none =
        ({ c with program := next, pending := [] }, none) := by simp only [Caller.advance, hx]
    refine .of_advance hc hadvance (ih _ { c with program := next, pending := [] }
      { session with working := session.committed } (hself hc _) rfl hcommitted ?_)
    exact congrArg Except.ok hcommitted

end Server

end Txn

end AyushOms.Lib
