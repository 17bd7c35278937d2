import AyushOms.Clients.ShopifyTokens
import AyushOms.Lib.Budget

/-!
# Every Call Ends

A call of the Shopify client goes on a bounded number of times, whatever the replies and whatever
the other calls do; and as long as a call is not over, some call can go on.

## Main results

- `remaining_advance`: a call that goes on has less to do
- `execute_ends`: the bound, and that the calls never block each other
-/

namespace AyushOms.Clients.Shopify

open AyushOms.Lib

variable {config : ShopifyConfig} {policy : RetryPolicy} {now : Instant} {number : ℕ}

/-! ## Section 1: What is left to do -/

/-- The most a turn of the loop goes on. -/
def turnLength (policy : RetryPolicy) : ℕ := 2 * policy.maxRetries + 4

/-- The turns of the loop after this one. -/
def turnsLeft (policy : RetryPolicy) (attempts : Attempts) : ℕ :=
  (policy.maxRetries - attempts.failed) + (!attempts.renewed).toNat

/-- What is left of this turn. -/
def leftOfTurn (policy : RetryPolicy) : Stage → ℕ
  | .looping => 2 * policy.maxRetries + 4
  | .waiting => 2 * policy.maxRetries + 3
  | .requesting attempt => 2 * (policy.maxRetries - attempt) + 2
  | .pausing attempt => 2 * (policy.maxRetries - attempt) + 3
  | .posting _ => 1
  | .finished _ => 0

/-- How often the call may still go on. -/
def Caller.remaining (policy : RetryPolicy) (c : Caller) : ℕ :=
  match c.stage with
  | .finished _ => 0
  | stage => turnsLeft policy c.attempts * turnLength policy + leftOfTurn policy stage

theorem Caller.remaining_of_going (policy : RetryPolicy) {c : Caller}
    (h : ∀ result, c.stage ≠ .finished result) :
    c.remaining policy =
      turnsLeft policy c.attempts * turnLength policy + leftOfTurn policy c.stage := by
  unfold Caller.remaining
  split
  · rename_i result hstage
    exact absurd hstage (h result)
  · rfl

/-- A call has at most this much to do. -/
theorem Caller.remaining_le (policy : RetryPolicy) (c : Caller) :
    c.remaining policy ≤
      turnsLeft policy c.attempts * turnLength policy + leftOfTurn policy c.stage := by
  unfold Caller.remaining
  split
  · exact Nat.zero_le _
  · exact Nat.le_refl _

/-- A call that is not over has something to do. -/
theorem Caller.remaining_pos {c : Caller} (h : ∀ result, c.stage ≠ .finished result) :
    0 < c.remaining policy := by
  rw [Caller.remaining_of_going policy h]
  have hpos : 0 < leftOfTurn policy c.stage := by
    cases hstage : c.stage with
    | finished result => exact absurd hstage (h result)
    | looping | waiting | requesting _ | pausing _ | posting _ => simp [leftOfTurn]
  omega

/-! ## Section 2: Going on -/

variable [PyRepr] {tokens : Flight Json} {c : Caller}

/-- What the call awaits has come: a reply to its request, the end of its pause, its turn at the
lock; or it is cancelled. -/
def goesOn (tokens : Flight Json) (number : ℕ) : Stage → Act → Bool
  | .requesting _, .reply _ | .posting _, .reply _ => true
  | .looping, .wake | .pausing _, .wake => true
  | .waiting, .wake => tokens.next number
  | .finished _, .cancel => false
  | _, .cancel => true
  | _, _ => false

theorem stays_of_not_goesOn {act : Act} (h : goesOn tokens number c.stage act = false) :
    advance config policy now number tokens c act = (tokens, c) := by
  cases act with
  | cancel =>
    unfold advance cancelled
    dsimp only
    cases hstage : c.stage <;> rw [hstage] at h <;> simp [goesOn] at h ⊢
  | wake | reply _ =>
    unfold advance
    dsimp only
    cases hstage : c.stage <;> rw [hstage] at h <;> simp [goesOn] at h ⊢
    all_goals simp [h]

omit [PyRepr] in
/-- A loop that goes on has one turn less. -/
theorem turnsLeft_next {ε α : Type} {attempts attempts' : Attempts} {verdict : Verdict ε α}
    (h : attempts.next policy.maxRetries verdict = .going attempts') :
    turnsLeft policy attempts' + 1 = turnsLeft policy attempts := by
  obtain ⟨_, _, hlt, rfl⟩ | ⟨_, hfirst, rfl⟩ := Attempts.of_next_going h
  · simp only [turnsLeft]
    omega
  · simp only [turnsLeft, hfirst]
    rfl

omit [PyRepr] in
/-- The lock is taken: on to the token endpoint, or to the request. -/
theorem lockTaken_shorter (policy : RetryPolicy) (now : Instant) (tokens : Flight Json)
    (c : Caller) :
    (lockTaken now tokens c).2.attempts = c.attempts ∧
      leftOfTurn policy (lockTaken now tokens c).2.stage ≤ 2 * policy.maxRetries + 2 := by
  unfold lockTaken
  split
  · exact ⟨rfl, by simp only [leftOfTurn]; omega⟩
  · exact ⟨rfl, Nat.le_refl _⟩

omit [PyRepr] in
/-- A turn begins: up to its first `await`. -/
theorem resolve_shorter (config : ShopifyConfig) (policy : RetryPolicy) (now : Instant)
    (number : ℕ) (tokens : Flight Json) (c : Caller) :
    (resolveAccessToken config now number tokens c).2.attempts = c.attempts ∧
      leftOfTurn policy (resolveAccessToken config now number tokens c).2.stage ≤
        2 * policy.maxRetries + 3 := by
  unfold resolveAccessToken
  split
  · unfold getAccessToken
    split
    · exact ⟨rfl, by simp only [leftOfTurn]; omega⟩
    · split
      · obtain ⟨hattempts, hle⟩ := lockTaken_shorter policy now (tokens.take number) c
        exact ⟨hattempts, Nat.le_succ_of_le hle⟩
      · exact ⟨rfl, Nat.le_refl _⟩
  · split
    · exact ⟨rfl, by simp only [leftOfTurn]; omega⟩
    · exact ⟨rfl, Nat.zero_le _⟩

theorem remaining_tokenReply (tokens : Flight Json) {attempt : ℕ}
    (hstage : c.stage = .requesting attempt) (reply : HttpReply) :
    (tokenReply policy now tokens c attempt reply).2.remaining policy < c.remaining policy := by
  have hgoing : ∀ result, c.stage ≠ .finished result := fun _ h => by rw [hstage] at h; cases h
  have hpos : 0 < c.remaining policy := Caller.remaining_pos hgoing
  have hbefore := Caller.remaining_of_going policy hgoing
  rw [hstage, leftOfTurn] at hbefore
  unfold tokenReply
  dsimp only
  cases hturn : Attempts.next policy.maxRetries { failed := attempt } (judgeToken reply) with
  | going attempts =>
    obtain ⟨_, _, hlt, rfl⟩ | ⟨hrenew, _⟩ := Attempts.of_next_going hturn
    · refine Nat.lt_of_le_of_lt (Caller.remaining_le policy _) ?_
      rw [hbefore]
      refine Nat.add_lt_add_left ?_ _
      simp only [leftOfTurn] at hlt ⊢
      omega
    · rw [judgeToken_isRenew] at hrenew
      cases hrenew
  | ended result =>
    cases result with
    | error raised => exact hpos
    | ok issue =>
      unfold tokenIssued
      dsimp only
      cases checkScope issue.scope with
      | error exception => exact hpos
      | ok _ =>
        refine Nat.lt_of_le_of_lt (Caller.remaining_le policy _) ?_
        rw [hbefore]
        exact Nat.add_lt_add_left (by simp only [leftOfTurn]; omega) _

theorem remaining_postReply (tokens : Flight Json) {token : Json}
    (hstage : c.stage = .posting token) (reply : HttpReply) :
    (postReply config policy now number tokens c reply).2.remaining policy <
      c.remaining policy := by
  have hgoing : ∀ result, c.stage ≠ .finished result := fun _ h => by rw [hstage] at h; cases h
  have hpos : 0 < c.remaining policy := Caller.remaining_pos hgoing
  have hbefore := Caller.remaining_of_going policy hgoing
  rw [hstage, leftOfTurn] at hbefore
  unfold postReply
  dsimp only
  cases hturn : c.attempts.next policy.maxRetries
      (judgePost config.usesClientCredentials reply) with
  | ended result => exact hpos
  | going attempts =>
    -- the turn that begins is one of those that were left
    have hturns : turnsLeft policy c.attempts * turnLength policy =
        turnsLeft policy attempts * turnLength policy + turnLength policy := by
      rw [← turnsLeft_next hturn, Nat.succ_mul]
    rw [hturns] at hbefore
    dsimp only
    split
    · obtain ⟨hattempts, hle⟩ := resolve_shorter config policy now number
        (tokens.drop number)
        { attempts := attempts, stage := c.stage, heard := c.heard ++ [reply],
          tokenHeard := c.tokenHeard }
      refine Nat.lt_of_le_of_lt (Caller.remaining_le policy _) ?_
      rw [hattempts, hbefore]
      simp only [turnLength] at hle ⊢
      omega
    · refine Nat.lt_of_le_of_lt (Caller.remaining_le policy _) ?_
      rw [hbefore]
      simp only [turnLength, leftOfTurn]
      omega

/-- A call that goes on has less to do. -/
theorem remaining_advance (config : ShopifyConfig) (policy : RetryPolicy) (now : Instant)
    {act : Act} (h : goesOn tokens number c.stage act = true) :
    (advance config policy now number tokens c act).2.remaining policy < c.remaining policy := by
  have hgoing : ∀ result, c.stage ≠ .finished result := by
    intro result hstage
    rw [hstage] at h
    cases act <;> cases h
  have hpos : 0 < c.remaining policy := Caller.remaining_pos hgoing
  have hbefore := Caller.remaining_of_going policy hgoing
  cases act with
  | cancel =>
    simp only [advance, cancelled]
    cases hstage : c.stage with
    | finished result => exact absurd hstage (hgoing result)
    | looping | waiting | requesting _ | pausing _ | posting _ => exact hpos
  | reply reply =>
    simp only [advance]
    cases hstage : c.stage with
    | requesting attempt => exact remaining_tokenReply tokens hstage reply
    | posting token => exact remaining_postReply tokens hstage reply
    | looping | waiting | pausing _ | finished _ =>
      rw [hstage] at h
      cases h
  | wake =>
    simp only [advance]
    cases hstage : c.stage with
    | looping =>
      obtain ⟨hattempts, hle⟩ := resolve_shorter config policy now number tokens c
      refine Nat.lt_of_le_of_lt (Caller.remaining_le policy _) ?_
      rw [hattempts, hbefore, hstage]
      exact Nat.add_lt_add_left (Nat.lt_succ_of_le hle) _
    | pausing attempt =>
      refine Nat.lt_of_le_of_lt (Caller.remaining_le policy _) ?_
      rw [hbefore, hstage]
      exact Nat.add_lt_add_left (Nat.lt_succ_self _) _
    | waiting =>
      rw [hstage] at h
      rw [if_pos (show tokens.next number = true from h)]
      obtain ⟨hattempts, hle⟩ := lockTaken_shorter policy now
        ((tokens.leave number).take number) c
      refine Nat.lt_of_le_of_lt (Caller.remaining_le policy _) ?_
      rw [hattempts, hbefore, hstage]
      exact Nat.add_lt_add_left (Nat.lt_succ_of_le hle) _
    | requesting _ | posting _ | finished _ =>
      rw [hstage] at h
      cases h

/-! ## Section 3: Runs -/

/-- The event lets a call go on. -/
def ShopifyClient.goesOn (s : ShopifyClient) (e : Event) : Bool :=
  match e.act with
  | some (number, act) =>
    s.callers[number]?.any fun c => Shopify.goesOn s.tokens number c.stage act
  | none => false

/-- How many events of a run let a call go on. -/
def moves (config : ShopifyConfig) (policy : RetryPolicy) : ShopifyClient → List Event → ℕ
  | _, [] => 0
  | s, e :: es => (s.goesOn e).toNat + moves config policy (s.step config policy e) es

/-- What all the calls still have to do. -/
def ShopifyClient.remaining (policy : RetryPolicy) (s : ShopifyClient) : ℕ :=
  (s.callers.map (Caller.remaining policy)).sum

/-- How often a call goes on, at most. -/
def callLength (policy : RetryPolicy) : ℕ :=
  (policy.maxRetries + 2) * (2 * policy.maxRetries + 4)

omit [PyRepr] in
theorem remaining_begin (policy : RetryPolicy) :
    Caller.remaining policy {} = callLength policy := by
  simp only [Caller.remaining, turnsLeft, turnLength, leftOfTurn, callLength]
  simp only [Nat.sub_zero, Bool.not_false, Bool.toNat_true]
  exact (Nat.succ_mul _ _).symm

/-- An event that lets a call go on takes something away; only calls that begin add to it. -/
theorem remaining_step (config : ShopifyConfig) (policy : RetryPolicy) (s : ShopifyClient)
    (e : Event) :
    (s.goesOn e).toNat + (s.step config policy e).remaining policy +
      callLength policy * s.callers.length ≤
    s.remaining policy + callLength policy * (s.step config policy e).callers.length := by
  unfold ShopifyClient.step ShopifyClient.goesOn ShopifyClient.remaining
  dsimp only
  cases hact : e.act with
  | none =>
    simp only [List.map_append, List.map_singleton, List.sum_append, List.sum_singleton,
      remaining_begin, List.length_append, List.length_singleton, Nat.mul_succ,
      Bool.toNat_false]
    omega
  | some call =>
    obtain ⟨number, act⟩ := call
    dsimp only
    cases hc : s.callers[number]? with
    | none => simp
    | some c =>
      have hsum := sum_map_modify (Caller.remaining policy)
        (fun _ => (advance config policy (s.now + e.elapsed) number s.tokens c act).2) hc
      rw [← List.set_eq_modify] at hsum
      simp only [List.length_set, Option.any_some]
      cases hgoes : Shopify.goesOn s.tokens number c.stage act with
      | true =>
        have hless := remaining_advance config policy (s.now + e.elapsed) hgoes
        rw [Bool.toNat_true]
        omega
      | false =>
        rw [stays_of_not_goesOn hgoes] at hsum ⊢
        rw [Bool.toNat_false]
        dsimp only at hsum ⊢
        omega

theorem moves_add_remaining_le (config : ShopifyConfig) (policy : RetryPolicy)
    (s : ShopifyClient) (es : List Event) :
    moves config policy s es + (s.after config policy es).remaining policy +
      callLength policy * s.callers.length ≤
    s.remaining policy + callLength policy * (s.after config policy es).callers.length := by
  induction es generalizing s with
  | nil =>
    show 0 + s.remaining policy + _ ≤ s.remaining policy + callLength policy * s.callers.length
    omega
  | cons e es ih =>
    have hstep := remaining_step config policy s e
    have hrest := ih (s.step config policy e)
    show (s.goesOn e).toNat + moves config policy (s.step config policy e) es +
      ((s.step config policy e).after config policy es).remaining policy + _ ≤
      _ + callLength policy * ((s.step config policy e).after config policy es).callers.length
    omega

/-- While a call is not over, one that is not over has what it awaits, or may get it. -/
theorem Inv.goesOn {s : ShopifyClient} (h : Inv config policy s) {c : Caller}
    (hc : s.callers[number]? = some c) (hgoing : ∀ result, c.stage ≠ .finished result) :
    ∃ i act, act ≠ .cancel ∧ s.goesOn { act := some (i, act) } = true := by
  have hshow : ∀ {i : ℕ} {c : Caller} {act : Act}, s.callers[i]? = some c →
      Shopify.goesOn s.tokens i c.stage act = true →
      s.goesOn { act := some (i, act) } = true := by
    intro i c act hi hgoes
    simp only [ShopifyClient.goesOn, hi, Option.any_some, hgoes]
  have hwake : Act.wake ≠ .cancel := fun heq => by cases heq
  have hreply : Act.reply .timeout ≠ .cancel := fun heq => by cases heq
  have hstake := (h.own number c hc).stake
  cases hstage : c.stage with
  | finished result => exact absurd hstage (hgoing result)
  | looping | pausing _ =>
    exact ⟨number, .wake, hwake, hshow hc (by rw [hstage]; rfl)⟩
  | requesting _ | posting _ =>
    exact ⟨number, .reply .timeout, hreply, hshow hc (by rw [hstage]; rfl)⟩
  | waiting =>
    rw [hstage] at hstake
    cases hholder : s.tokens.holder with
    | some i =>
      -- whoever holds the lock awaits the token endpoint
      obtain ⟨holder, hi⟩ : ∃ holder, s.callers[i]? = some holder :=
        ⟨_, List.getElem?_eq_getElem (h.holder_lt i hholder)⟩
      have hstake' := (h.own i holder hi).stake
      cases hstage' : holder.stage with
      | requesting _ =>
        exact ⟨i, .reply .timeout, hreply, hshow hi (by rw [hstage']; rfl)⟩
      | pausing _ => exact ⟨i, .wake, hwake, hshow hi (by rw [hstage']; rfl)⟩
      | looping | waiting | posting _ | finished _ =>
        rw [hstage'] at hstake'
        exact absurd hholder hstake'.1
    | none =>
      -- the lock is free for the head of the line
      obtain ⟨i, rest, hline⟩ : ∃ i rest, s.tokens.waiters = i :: rest :=
        List.exists_cons_of_ne_nil (List.ne_nil_of_mem hstake.2)
      have hmem : i ∈ s.tokens.waiters := hline ▸ List.mem_cons_self
      obtain ⟨head, hi⟩ : ∃ head, s.callers[i]? = some head :=
        ⟨_, List.getElem?_eq_getElem (h.waiters_lt i hmem)⟩
      have hstake' := (h.own i head hi).stake
      cases hstage' : head.stage with
      | waiting =>
        refine ⟨i, .wake, hwake, hshow hi ?_⟩
        rw [hstage']
        simp [Shopify.goesOn, Flight.next, hholder, hline]
      | looping | requesting _ | pausing _ | posting _ | finished _ =>
        rw [hstage'] at hstake'
        exact absurd hmem hstake'.2

/-- Over every run, whatever the replies, no call goes on more than a bounded number of times;
and as long as one is not over, some call can go on without being cancelled. -/
theorem execute_ends (config : ShopifyConfig) (policy : RetryPolicy) (es : List Event) :
    moves config policy {} es ≤
      callLength policy * (ShopifyClient.after config policy {} es).callers.length ∧
    ∀ (number : ℕ) (c : Caller),
      (ShopifyClient.after config policy {} es).callers[number]? = some c →
      (∀ result, c.stage ≠ .finished result) →
      ∃ i act, act ≠ .cancel ∧
        (ShopifyClient.after config policy {} es).goesOn { act := some (i, act) } = true := by
  have hinv : Inv config policy (ShopifyClient.after config policy {} es) := inv_after es
  refine ⟨?_, fun number c hc hgoing => hinv.goesOn hc hgoing⟩
  have hle := moves_add_remaining_le config policy {} es
  simp only [ShopifyClient.remaining, List.map_nil, List.sum_nil, List.length_nil,
    Nat.mul_zero, Nat.zero_add] at hle
  omega

end AyushOms.Clients.Shopify
