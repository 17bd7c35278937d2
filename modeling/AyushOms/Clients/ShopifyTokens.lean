import AyushOms.Clients.ShopifyClient
import Mathlib.Data.List.Nodup

/-!
# One Token for Many Calls

What holds of the Shopify client however its calls interleave: who holds the lock, what becomes of
the tokens, and what each call has heard by the time it ends.

## Main results

- `inv_after`: the invariant of every run
- `one_token_request`: one token request at a time, and no more tokens than were needed
- `execute_answers`: what a call returns or raises is settled by the replies it got itself
-/

namespace AyushOms.Clients.Shopify

open AyushOms.Lib

variable {config : ShopifyConfig} {policy : RetryPolicy} {now : Instant} {number : ℕ}

/-! ## Section 1: The other calls -/

/-- The other calls keep their places. -/
structure Frame (number : ℕ) (tokens tokens' : Flight Json) : Prop where
  holder : ∀ j, j ≠ number → (tokens'.holder = some j ↔ tokens.holder = some j)
  waiters : ∀ j, j ≠ number → (j ∈ tokens'.waiters ↔ j ∈ tokens.waiters)
  dropped : ∀ j, j ≠ number → (j ∈ tokens'.dropped ↔ j ∈ tokens.dropped)

theorem Frame.refl (tokens : Flight Json) : Frame number tokens tokens where
  holder _ _ := Iff.rfl
  waiters _ _ := Iff.rfl
  dropped _ _ := Iff.rfl

theorem Frame.trans {f f' f'' : Flight Json} (h : Frame number f f') (h' : Frame number f' f'') :
    Frame number f f'' where
  holder j hj := (h'.holder j hj).trans (h.holder j hj)
  waiters j hj := (h'.waiters j hj).trans (h.waiters j hj)
  dropped j hj := (h'.dropped j hj).trans (h.dropped j hj)

theorem Frame.take {tokens : Flight Json} (hfree : tokens.holder = none) :
    Frame number tokens (tokens.take number) where
  holder j hj := by simp [Flight.take, hfree, Ne.symm hj]
  waiters _ _ := Iff.rfl
  dropped _ _ := Iff.rfl

theorem Frame.release {tokens : Flight Json}
    (hheld : ∀ j, tokens.holder = some j → j = number) :
    Frame number tokens tokens.release where
  holder j hj := by
    constructor
    · intro h
      cases h
    · intro h
      exact absurd (hheld j h) hj
  waiters _ _ := Iff.rfl
  dropped _ _ := Iff.rfl

theorem Frame.enqueue (tokens : Flight Json) : Frame number tokens (tokens.enqueue number) where
  holder _ _ := Iff.rfl
  waiters j hj := by simp [Flight.enqueue, hj]
  dropped _ _ := Iff.rfl

theorem Frame.leave (tokens : Flight Json) : Frame number tokens (tokens.leave number) where
  holder _ _ := Iff.rfl
  waiters _ hj := List.mem_erase_of_ne hj
  dropped _ _ := Iff.rfl

theorem Frame.drop (tokens : Flight Json) : Frame number tokens (tokens.drop number) where
  holder _ _ := Iff.rfl
  waiters _ _ := Iff.rfl
  dropped j hj := by
    simp only [Flight.drop]
    split
    · simp [hj]
    · rfl

theorem Frame.store (tokens : Flight Json) (token : Json) (expiresAt : ℤ) :
    Frame number tokens (tokens.store token expiresAt) where
  holder _ _ := Iff.rfl
  waiters _ _ := Iff.rfl
  dropped _ _ := Iff.rfl

section Calls

variable [PyRepr]

/-! ## Section 2: What a call has heard -/

/-- The loop of `execute` after the replies the call has got. -/
def Caller.sent (config : ShopifyConfig) (policy : RetryPolicy) (c : Caller) :
    Progress Raised Json :=
  run (Progress.hear (judgePost config.usesClientCredentials) policy.maxRetries) (.going {})
    c.heard

/-- The loop of `_request_token` after the replies the call has got. -/
def Caller.fetched (policy : RetryPolicy) (c : Caller) : Progress Raised Issue :=
  run (Progress.hear judgeToken policy.maxRetries) (.going {}) c.tokenHeard

/-- How a call can be over: by the last reply to its GraphQL requests; by the last reply of the
token endpoint; or because there are no credentials at all or it was cancelled. -/
inductive Answered (config : ShopifyConfig) (policy : RetryPolicy) (c : Caller) :
    Except Raised Json → Prop
  | sent {result : Except Raised Json} :
    Settles (judgePost config.usesClientCredentials) policy.maxRetries c.heard result →
    Answered config policy c result
  | noToken {raised : Raised} :
    Survived (judgePost config.usesClientCredentials) policy.maxRetries c.heard →
    Settles judgeToken policy.maxRetries c.tokenHeard (.error raised) →
    Answered config policy c (.error raised)
  | badScope {issue : Issue} {exception : PyException} :
    Survived (judgePost config.usesClientCredentials) policy.maxRetries c.heard →
    Settles judgeToken policy.maxRetries c.tokenHeard (.ok issue) →
    checkScope issue.scope = .error exception →
    Answered config policy c (.error (.other exception))
  | noCredentials :
    Survived (judgePost config.usesClientCredentials) policy.maxRetries c.heard →
    config.usesClientCredentials = false → config.accessToken = none →
    Answered config policy c (.error (.other (.other "AssertionError")))
  | cancelled :
    Survived (judgePost config.usesClientCredentials) policy.maxRetries c.heard →
    Answered config policy c (.error .cancelled)

/-- The local variables of a call are those its replies leave. -/
def Recorded (config : ShopifyConfig) (policy : RetryPolicy) (c : Caller) : Prop :=
  match c.stage with
  | .finished result => Answered config policy c result
  | .requesting attempt | .pausing attempt => c.sent config policy = .going c.attempts ∧
      c.fetched policy = .going { failed := attempt }
  | .looping | .waiting | .posting _ => c.sent config policy = .going c.attempts

theorem Caller.survived {c : Caller} {attempts : Attempts}
    (h : c.sent config policy = .going attempts) :
    Survived (judgePost config.usesClientCredentials) policy.maxRetries c.heard :=
  (run_hear_going_iff.mp h).1

theorem Recorded.going {c : Caller} (h : Recorded config policy c)
    (hgoing : ∀ result, c.stage ≠ .finished result) :
    c.sent config policy = .going c.attempts := by
  unfold Recorded at h
  split at h
  · rename_i result hstage
    exact absurd hstage (hgoing result)
  · exact h.1
  · exact h.1
  all_goals exact h

/-! ## Section 3: A call and the lock -/

/-- A call that fetches a token holds the lock, one that waits is in line, and every other call
has nothing to do with it. -/
def Stake (number : ℕ) (tokens : Flight Json) : Stage → Prop
  | .requesting _ | .pausing _ => tokens.holder = some number ∧ number ∉ tokens.waiters
  | .waiting => tokens.holder ≠ some number ∧ number ∈ tokens.waiters
  | .looping | .posting _ | .finished _ =>
    tokens.holder ≠ some number ∧ number ∉ tokens.waiters

/-- What holds of a call and the cache at every moment, but for the lock. -/
structure Base (now : Instant) (number : ℕ) (tokens : Flight Json) (c : Caller) : Prop where
  accounted : tokens.Accounted now
  waiters_nodup : tokens.waiters.Nodup
  dropped_nodup : tokens.dropped.Nodup
  dropped : number ∈ tokens.dropped → c.attempts.renewed = true

/-- What holds of a call and the cache at every moment. -/
structure Local (config : ShopifyConfig) (policy : RetryPolicy) (now : Instant) (number : ℕ)
    (tokens : Flight Json) (c : Caller) : Prop extends Base now number tokens c where
  stake : Stake number tokens c.stage
  recorded : Recorded config policy c

/-- What a call may do to the cache on its way to its next `await`. -/
structure Keeps (config : ShopifyConfig) (policy : RetryPolicy) (now : Instant) (number : ℕ)
    (tokens : Flight Json) (result : Flight Json × Caller) : Prop where
  own : Local config policy now number result.1 result.2
  frame : Frame number tokens result.1

/-! ## Section 4: To the next await -/

variable {tokens : Flight Json} {c : Caller}

omit [PyRepr] in
theorem nodup_concat {l : List ℕ} (h : l.Nodup) (hnew : number ∉ l) : (l ++ [number]).Nodup :=
  List.concat_eq_append ▸ h.concat hnew

theorem Keeps.after {tokens' : Flight Json} {result : Flight Json × Caller}
    (h : Keeps config policy now number tokens' result) (hframe : Frame number tokens tokens') :
    Keeps config policy now number tokens result :=
  ⟨h.own, hframe.trans h.frame⟩

theorem keeps_lockTaken (h : Base now number tokens c) (hfree : tokens.holder = none)
    (hout : number ∉ tokens.waiters) (hgoing : c.sent config policy = .going c.attempts) :
    Keeps config policy now number tokens (lockTaken now (tokens.take number) c) := by
  unfold lockTaken
  cases hgood : (tokens.take number).good now with
  | some token =>
    -- another call has fetched a token meanwhile
    have hsame : (tokens.take number).release = tokens := by
      simp only [Flight.take, Flight.release, ← hfree]
    refine ⟨⟨⟨?_, ?_, ?_, ?_⟩, ⟨?_, ?_⟩, hgoing⟩, ?_⟩
    all_goals simp only [hsame]
    · exact h.accounted
    · exact h.waiters_nodup
    · exact h.dropped_nodup
    · exact h.dropped
    · rw [hfree]
      exact Option.some_ne_none number |>.symm
    · exact hout
    · exact Frame.refl tokens
  | none =>
    exact ⟨⟨⟨h.accounted.take hgood number, h.waiters_nodup, h.dropped_nodup, h.dropped⟩,
      ⟨rfl, hout⟩, hgoing, rfl⟩, Frame.take hfree⟩

theorem keeps_getAccessToken (h : Base now number tokens c) (hholder : tokens.holder ≠ some number)
    (hout : number ∉ tokens.waiters) (hgoing : c.sent config policy = .going c.attempts) :
    Keeps config policy now number tokens (getAccessToken now number tokens c) := by
  unfold getAccessToken
  cases hgood : tokens.good now with
  | some token => exact ⟨⟨⟨h.1, h.2, h.3, h.4⟩, ⟨hholder, hout⟩, hgoing⟩, Frame.refl tokens⟩
  | none =>
    dsimp only
    split
    · rename_i hidle
      rw [Flight.idle, Bool.and_eq_true, Option.isNone_iff_eq_none] at hidle
      exact keeps_lockTaken h hidle.1 hout hgoing
    · exact ⟨⟨⟨h.accounted.enqueue number, nodup_concat h.waiters_nodup hout, h.dropped_nodup,
        h.dropped⟩, ⟨hholder, List.mem_append_right _ List.mem_cons_self⟩, hgoing⟩,
        Frame.enqueue tokens⟩

theorem keeps_resolveAccessToken (h : Base now number tokens c)
    (hholder : tokens.holder ≠ some number) (hout : number ∉ tokens.waiters)
    (hgoing : c.sent config policy = .going c.attempts) :
    Keeps config policy now number tokens (resolveAccessToken config now number tokens c) := by
  unfold resolveAccessToken
  split
  · exact keeps_getAccessToken h hholder hout hgoing
  · rename_i hstatic
    split
    · exact ⟨⟨⟨h.1, h.2, h.3, h.4⟩, ⟨hholder, hout⟩, hgoing⟩, Frame.refl tokens⟩
    · rename_i hnone
      exact ⟨⟨⟨h.1, h.2, h.3, h.4⟩, ⟨hholder, hout⟩,
        .noCredentials (Caller.survived hgoing) (Bool.not_eq_true _ ▸ hstatic) hnone⟩,
        Frame.refl tokens⟩

/-- A call that lets go of the lock. -/
theorem keeps_release (h : Local config policy now number tokens c)
    (hheld : tokens.holder = some number) (hout : number ∉ tokens.waiters) {c' : Caller}
    (hattempts : c'.attempts = c.attempts)
    (hstage : ∃ result, c'.stage = .finished result) (hrecorded : Recorded config policy c') :
    Keeps config policy now number tokens (tokens.release, c') where
  own :=
    { accounted := h.accounted.release
      waiters_nodup := h.waiters_nodup
      dropped_nodup := h.dropped_nodup
      dropped := fun hmem => hattempts ▸ h.dropped hmem
      stake := by
        obtain ⟨result, hresult⟩ := hstage
        show Stake number tokens.release c'.stage
        rw [hresult]
        exact ⟨Option.some_ne_none number |>.symm, hout⟩
      recorded := hrecorded }
  frame := Frame.release fun j hj => Option.some.inj (hj.symm.trans hheld)

omit [PyRepr] in
theorem judgeError_isRenew {α : Type} (error : ApiError) :
    (judgeError false error : Verdict Raised α).isRenew = false := by
  unfold judgeError
  split
  · rfl
  · rw [if_neg (by simp)]
    rfl

theorem judgeToken_isRenew (reply : HttpReply) : (judgeToken reply).isRenew = false := by
  unfold judgeToken
  split
  · exact judgeError_isRenew _
  · exact judgeError_isRenew _
  · split <;> rfl
  · split
    · split
      · rfl
      · split <;> rfl
    · exact judgeError_isRenew _

theorem Caller.fetched_append (policy : RetryPolicy) (c : Caller) (reply : HttpReply) :
    Caller.fetched policy { c with tokenHeard := c.tokenHeard ++ [reply] } =
      (c.fetched policy).hear judgeToken policy.maxRetries reply :=
  run_append _ _ _ _

theorem Caller.sent_append (config : ShopifyConfig) (policy : RetryPolicy) (c : Caller)
    (reply : HttpReply) :
    Caller.sent config policy { c with heard := c.heard ++ [reply] } =
      (c.sent config policy).hear (judgePost config.usesClientCredentials) policy.maxRetries
        reply :=
  run_append _ _ _ _

theorem keeps_tokenReply (h : Local config policy now number tokens c) {attempt : ℕ}
    (hstage : c.stage = .requesting attempt) (reply : HttpReply) :
    Keeps config policy now number tokens (tokenReply policy now tokens c attempt reply) := by
  obtain ⟨hheld, hout⟩ : tokens.holder = some number ∧ number ∉ tokens.waiters := by
    have hstake := h.stake
    rwa [hstage] at hstake
  obtain ⟨hgoing, hfetched⟩ : c.sent config policy = .going c.attempts ∧
      c.fetched policy = .going { failed := attempt } := by
    have hrecorded := h.recorded
    unfold Recorded at hrecorded
    rwa [hstage] at hrecorded
  have hsurvived := Caller.survived hgoing
  unfold tokenReply
  dsimp only
  cases hturn : Attempts.next policy.maxRetries { failed := attempt } (judgeToken reply) with
  | going attempts =>
    have hnext := c.fetched_append policy reply
    rw [hfetched, Progress.hear, hturn] at hnext
    -- the token loop never renews anything
    obtain ⟨_, _, _, rfl⟩ | ⟨hrenew, _⟩ := Attempts.of_next_going hturn
    · exact ⟨⟨⟨h.accounted, h.waiters_nodup, h.dropped_nodup, h.dropped⟩, ⟨hheld, hout⟩, hgoing,
        hnext⟩, Frame.refl tokens⟩
    · rw [judgeToken_isRenew] at hrenew
      cases hrenew
  | ended result =>
    have hsettles := Settles.of_next hfetched hturn
    cases result with
    | error raised => exact keeps_release h hheld hout rfl ⟨_, rfl⟩ (.noToken hsurvived hsettles)
    | ok issue =>
      have hframe : Frame number tokens
          (tokens.store issue.accessToken (expiry now issue.expiresIn)).release :=
        (Frame.store tokens _ _).trans
          (Frame.release fun j hj => Option.some.inj (hj.symm.trans hheld))
      have haccounted := h.accounted.store (by rw [hheld]; rfl) issue.accessToken
        (expiry now issue.expiresIn)
      refine ⟨⟨⟨haccounted, h.waiters_nodup, h.dropped_nodup, h.dropped⟩, ?_, ?_⟩, hframe⟩
      · unfold tokenIssued
        dsimp only
        split <;> exact ⟨Option.some_ne_none number |>.symm, hout⟩
      · unfold tokenIssued Recorded
        dsimp only
        cases hscope : checkScope issue.scope with
        | ok _ => exact hgoing
        | error exception => exact .badScope hsurvived hsettles hscope

theorem keeps_postReply (h : Local config policy now number tokens c) {token : Json}
    (hstage : c.stage = .posting token) (reply : HttpReply) :
    Keeps config policy now number tokens
      (postReply config policy now number tokens c reply) := by
  have hgoing : c.sent config policy = .going c.attempts :=
    h.recorded.going fun result hresult => by rw [hstage] at hresult; cases hresult
  obtain ⟨hholder, hout⟩ : tokens.holder ≠ some number ∧ number ∉ tokens.waiters := by
    have hstake := h.stake
    rwa [hstage] at hstake
  unfold postReply
  dsimp only
  cases hturn : c.attempts.next policy.maxRetries
      (judgePost config.usesClientCredentials reply) with
  | ended result =>
    exact ⟨⟨⟨h.accounted, h.waiters_nodup, h.dropped_nodup, h.dropped⟩, ⟨hholder, hout⟩,
      .sent (Settles.of_next hgoing hturn)⟩, Frame.refl tokens⟩
  | going attempts =>
    have hnext := c.sent_append config policy reply
    rw [hgoing, Progress.hear, hturn] at hnext
    dsimp only
    obtain ⟨_, hrenew, _, rfl⟩ | ⟨hrenew, hfirst, rfl⟩ := Attempts.of_next_going hturn
    · rw [if_neg (by rw [hrenew]; exact Bool.false_ne_true)]
      exact ⟨⟨⟨h.accounted, h.waiters_nodup, h.dropped_nodup, h.dropped⟩, ⟨hholder, hout⟩,
        hnext⟩, Frame.refl tokens⟩
    · rw [if_pos hrenew]
      -- a call drops a token only once
      have hnot : number ∉ tokens.dropped := fun hmem => by
        rw [h.dropped hmem] at hfirst
        cases hfirst
      have hnodup : (tokens.drop number).dropped.Nodup := by
        simp only [Flight.drop]
        split
        · exact nodup_concat h.dropped_nodup hnot
        · exact h.dropped_nodup
      have hbase : Base now number (tokens.drop number)
          { attempts := { c.attempts with renewed := true }, stage := c.stage,
            heard := c.heard ++ [reply], tokenHeard := c.tokenHeard } :=
        ⟨h.accounted.drop number, h.waiters_nodup, hnodup, fun _ => rfl⟩
      exact (keeps_resolveAccessToken hbase hholder hout hnext).after (Frame.drop tokens)

theorem keeps_cancelled (h : Local config policy now number tokens c) :
    Keeps config policy now number tokens (cancelled number tokens c) := by
  have hstake := h.stake
  have hrecorded := h.recorded
  unfold Recorded at hrecorded
  unfold cancelled
  dsimp only
  cases hstage : c.stage with
  | looping | posting _ =>
    rw [hstage] at hstake hrecorded
    exact ⟨⟨⟨h.accounted, h.waiters_nodup, h.dropped_nodup, h.dropped⟩, hstake,
      .cancelled (Caller.survived hrecorded)⟩, Frame.refl tokens⟩
  | waiting =>
    rw [hstage] at hstake hrecorded
    exact ⟨⟨⟨h.accounted.leave number, h.waiters_nodup.erase number, h.dropped_nodup, h.dropped⟩,
      ⟨hstake.1, h.waiters_nodup.not_mem_erase⟩, .cancelled (Caller.survived hrecorded)⟩,
      Frame.leave tokens⟩
  | requesting _ | pausing _ =>
    rw [hstage] at hstake hrecorded
    exact keeps_release h hstake.1 hstake.2 rfl ⟨_, rfl⟩ (.cancelled (Caller.survived hrecorded.1))
  | finished _ => exact ⟨h, Frame.refl tokens⟩

/-- Whatever happens to a call, it keeps its part of the invariant, and the others theirs. -/
theorem keeps_advance (h : Local config policy now number tokens c) (act : Act) :
    Keeps config policy now number tokens (advance config policy now number tokens c act) := by
  have hstake := h.stake
  have hrecorded := h.recorded
  unfold Recorded at hrecorded
  cases act with
  | cancel => exact keeps_cancelled h
  | reply reply =>
    simp only [advance]
    cases hstage : c.stage with
    | requesting attempt => exact keeps_tokenReply h hstage reply
    | posting token => exact keeps_postReply h hstage reply
    | looping | waiting | pausing _ | finished _ => exact ⟨h, Frame.refl tokens⟩
  | wake =>
    simp only [advance]
    cases hstage : c.stage with
    | looping =>
      rw [hstage] at hstake hrecorded
      exact keeps_resolveAccessToken h.toBase hstake.1 hstake.2 hrecorded
    | pausing attempt =>
      rw [hstage] at hstake hrecorded
      exact ⟨⟨⟨h.accounted, h.waiters_nodup, h.dropped_nodup, h.dropped⟩, hstake, hrecorded⟩,
        Frame.refl tokens⟩
    | waiting =>
      rw [hstage] at hstake hrecorded
      dsimp only
      split
      · rename_i hhead
        rw [Flight.next, Bool.and_eq_true, Option.isNone_iff_eq_none] at hhead
        have hbase : Base now number (tokens.leave number) c :=
          ⟨h.accounted.leave number, h.waiters_nodup.erase number, h.dropped_nodup, h.dropped⟩
        exact (keeps_lockTaken hbase hhead.1 h.waiters_nodup.not_mem_erase hrecorded).after
          (Frame.leave tokens)
      · exact ⟨h, Frame.refl tokens⟩
    | requesting _ | posting _ | finished _ => exact ⟨h, Frame.refl tokens⟩

/-! ## Section 5: Every run -/

/-- What holds of the client in every state of a run. -/
structure Inv (config : ShopifyConfig) (policy : RetryPolicy) (s : ShopifyClient) : Prop where
  accounted : s.tokens.Accounted s.now
  waiters_nodup : s.tokens.waiters.Nodup
  dropped_nodup : s.tokens.dropped.Nodup
  holder_lt : ∀ i, s.tokens.holder = some i → i < s.callers.length
  waiters_lt : ∀ i ∈ s.tokens.waiters, i < s.callers.length
  dropped_lt : ∀ i ∈ s.tokens.dropped, i < s.callers.length
  own : ∀ i c, s.callers[i]? = some c → Local config policy s.now i s.tokens c

theorem inv_empty : Inv config policy {} where
  accounted := Flight.accounted_empty 0
  waiters_nodup := List.nodup_nil
  dropped_nodup := List.nodup_nil
  holder_lt i h := by cases h
  waiters_lt i h := by cases h
  dropped_lt i h := by cases h
  own i c h := by cases h

theorem Local.mono (h : Local config policy now number tokens c) {now' : Instant}
    (hle : now ≤ now') : Local config policy now' number tokens c :=
  ⟨⟨h.accounted.mono hle, h.waiters_nodup, h.dropped_nodup, h.dropped⟩, h.stake, h.recorded⟩

/-- Another call goes on. -/
theorem Local.frame {j : ℕ} (h : Local config policy now j tokens c) {tokens' : Flight Json}
    {c' : Caller} (hother : Local config policy now number tokens' c')
    (hframe : Frame number tokens tokens') (hne : j ≠ number) :
    Local config policy now j tokens' c := by
  refine ⟨⟨hother.accounted, hother.waiters_nodup, hother.dropped_nodup, fun hmem =>
    h.dropped ((hframe.dropped j hne).mp hmem)⟩, ?_, h.recorded⟩
  have hstake := h.stake
  have hholder := hframe.holder j hne
  have hwaiters := hframe.waiters j hne
  cases hstage : c.stage <;> rw [hstage] at hstake <;>
    simpa only [Stake, ne_eq, hholder, hwaiters] using hstake

theorem Inv.tick {s : ShopifyClient} (h : Inv config policy s) (elapsed : ℕ) :
    Inv config policy { s with now := s.now + elapsed } :=
  have hle : s.now ≤ s.now + elapsed := Int.le_add_of_nonneg_right (Int.natCast_nonneg _)
  { h with
    accounted := h.accounted.mono hle
    own := fun i c hc => (h.own i c hc).mono hle }

/-- A call begins. -/
theorem Inv.begin {s : ShopifyClient} (h : Inv config policy s) :
    Inv config policy { s with callers := s.callers ++ [{}] } where
  accounted := h.accounted
  waiters_nodup := h.waiters_nodup
  dropped_nodup := h.dropped_nodup
  holder_lt i hi := by
    rw [List.length_append]
    exact Nat.lt_add_right _ (h.holder_lt i hi)
  waiters_lt i hi := by
    rw [List.length_append]
    exact Nat.lt_add_right _ (h.waiters_lt i hi)
  dropped_lt i hi := by
    rw [List.length_append]
    exact Nat.lt_add_right _ (h.dropped_lt i hi)
  own i c hc := by
    rcases Nat.lt_or_ge i s.callers.length with hlt | hge
    · rw [List.getElem?_append_left hlt] at hc
      exact h.own i c hc
    · rw [List.getElem?_append_right hge, List.getElem?_singleton] at hc
      split at hc
      · cases hc
        -- nobody has had to do with this number
        exact ⟨⟨h.accounted, h.waiters_nodup, h.dropped_nodup, fun hmem =>
          absurd (h.dropped_lt i hmem) (Nat.not_lt.mpr hge)⟩,
          ⟨fun hholder => absurd (h.holder_lt i hholder) (Nat.not_lt.mpr hge),
            fun hmem => absurd (h.waiters_lt i hmem) (Nat.not_lt.mpr hge)⟩, rfl⟩
      · cases hc

/-- A call goes on. -/
theorem Inv.advance {s : ShopifyClient} (h : Inv config policy s) {c : Caller}
    (hc : s.callers[number]? = some c) {result : Flight Json × Caller}
    (hkeeps : Keeps config policy s.now number s.tokens result) :
    Inv config policy
      { now := s.now, tokens := result.1, callers := s.callers.set number result.2 } := by
  have hlt : number < s.callers.length := (List.getElem?_eq_some_iff.mp hc).1
  refine ⟨hkeeps.own.accounted, hkeeps.own.waiters_nodup, hkeeps.own.dropped_nodup, ?_, ?_, ?_, ?_⟩
  · intro i hi
    rw [List.length_set]
    by_cases hne : i = number
    · rwa [hne]
    · exact h.holder_lt i ((hkeeps.frame.holder i hne).mp hi)
  · intro i hi
    rw [List.length_set]
    by_cases hne : i = number
    · rwa [hne]
    · exact h.waiters_lt i ((hkeeps.frame.waiters i hne).mp hi)
  · intro i hi
    rw [List.length_set]
    by_cases hne : i = number
    · rwa [hne]
    · exact h.dropped_lt i ((hkeeps.frame.dropped i hne).mp hi)
  · intro i c' hc'
    by_cases hne : i = number
    · subst hne
      rw [List.getElem?_set_self hlt] at hc'
      cases hc'
      exact hkeeps.own
    · rw [List.getElem?_set_ne (Ne.symm hne)] at hc'
      exact (h.own i c' hc').frame hkeeps.own hkeeps.frame hne

theorem inv_step {s : ShopifyClient} (h : Inv config policy s) (e : Event) :
    Inv config policy (s.step config policy e) := by
  have htick := h.tick e.elapsed
  unfold ShopifyClient.step
  dsimp only
  split
  · exact htick.begin
  · rename_i number act _
    split
    · exact htick
    · rename_i c hc
      exact htick.advance hc (keeps_advance (htick.own number c hc) act)

theorem inv_after (es : List Event) :
    Inv config policy (ShopifyClient.after config policy {} es) := by
  have hstep : ∀ s e, Inv config policy s → Inv config policy (s.step config policy e) :=
    fun _ e h => inv_step h e
  exact run_invariant _ hstep inv_empty es

/-! ## Section 6: Tokens -/

/-- The call is at one of the two `await`s of `_request_token`. -/
def Stage.fetching : Stage → Bool
  | .requesting _ | .pausing _ => true
  | _ => false

omit [PyRepr] in
theorem Stake.holder {stage : Stage} (h : Stake number tokens stage)
    (hfetching : stage.fetching = true) : tokens.holder = some number := by
  cases stage with
  | requesting _ | pausing _ => exact h.1
  | looping | waiting | posting _ | finished _ => cases hfetching

/-- However the calls interleave, at most one of them is at the token endpoint, and no more
tokens have been fetched than one, those that have lapsed since, and one for each call whose
token was refused. -/
theorem one_token_request (config : ShopifyConfig) (policy : RetryPolicy) (es : List Event) :
    (∀ (i j : ℕ) (c c' : Caller), (ShopifyClient.after config policy {} es).callers[i]? = some c →
      (ShopifyClient.after config policy {} es).callers[j]? = some c' →
      c.stage.fetching = true → c'.stage.fetching = true → i = j) ∧
    (ShopifyClient.after config policy {} es).tokens.stored.length ≤
      (ShopifyClient.after config policy {} es).callers.countP (fun c => c.attempts.renewed) +
      lapsed (ShopifyClient.after config policy {} es).now
        (ShopifyClient.after config policy {} es).tokens.stored + 1 := by
  have hinv : Inv config policy (ShopifyClient.after config policy {} es) := inv_after es
  constructor
  · intro i j c c' hi hj hfetching hfetching'
    have hholder := (hinv.own i c hi).stake.holder hfetching
    have hholder' := (hinv.own j c' hj).stake.holder hfetching'
    exact Option.some.inj (hholder.symm.trans hholder')
  · have hdropped := length_le_countP (p := fun c : Caller => c.attempts.renewed)
      hinv.dropped_nodup fun i hi => by
        have hlt := hinv.dropped_lt i hi
        exact ⟨_, List.getElem?_eq_getElem hlt,
          (hinv.own i _ (List.getElem?_eq_getElem hlt)).dropped hi⟩
    exact Nat.le_trans hinv.accounted.length_stored_le
      (Nat.add_le_add_right (Nat.add_le_add_right hdropped _) _)

/-- What a call returns or raises, in whatever company, is settled by the replies it got itself;
it sends its request at most `max_retries + 2` times. -/
theorem execute_answers (config : ShopifyConfig) (policy : RetryPolicy) (es : List Event)
    {c : Caller} (hc : (ShopifyClient.after config policy {} es).callers[number]? = some c)
    {result : Except Raised Json} (hover : c.stage = .finished result) :
    Answered config policy c result ∧ c.heard.length ≤ policy.maxRetries + 2 := by
  have hinv : Inv config policy (ShopifyClient.after config policy {} es) := inv_after es
  have hanswered : Answered config policy c result := by
    have hrecorded := (hinv.own number c hc).recorded
    unfold Recorded at hrecorded
    rwa [hover] at hrecorded
  refine ⟨hanswered, ?_⟩
  cases hanswered with
  | sent hsettles => exact hsettles.length_le
  | noToken hsurvived _ | badScope hsurvived _ _ | noCredentials hsurvived _ _
  | cancelled hsurvived =>
    exact Nat.le_succ_of_le hsurvived.length_le

end Calls

/-- A client with credentials. -/
def smallConfig : ShopifyConfig := { clientId := some "id", clientSecret := some "secret" }

/-- What the token endpoint answers. -/
def smallIssue (token : String) : HttpReply :=
  .response 200 (some (.obj [("access_token", .str token), ("expires_in", .int 86399)]))

/-- A call whose first token is refused. -/
def smallRun : List Event :=
  [{ act := none }, { act := some (0, .wake) },
    { act := some (0, .reply (smallIssue "old")) },
    { act := some (0, .reply (.response 401 none)) },
    { act := some (0, .reply (smallIssue "new")) },
    { act := some (0, .reply (.response 200 (some (.obj [("data", .str "shop")])))) }]

/-- That call when it is over. -/
def smallCall : Caller :=
  { attempts := { renewed := true }
    stage := .finished (.ok (.str "shop"))
    heard := [.response 401 none, .response 200 (some (.obj [("data", .str "shop")]))]
    tokenHeard := [smallIssue "new"] }

theorem execute_answers_small :
    Answered smallConfig {} smallCall (.ok (.str "shop")) ∧ smallCall.heard.length ≤ 7 := by
  have hcall : (ShopifyClient.after smallConfig {} {} smallRun).callers[0]? = some smallCall := rfl
  exact execute_answers smallConfig {} smallRun hcall rfl

end AyushOms.Clients.Shopify
