import AyushOms.Clients.Errors

/-!
# The Shiprocket Client

`ShiprocketClient.request`, as any number of calls share one client. The token is kept in the
client without a lock: every call that finds none logs in, and a call whose token is refused
throws away whatever token is there by then.

## Main results

- `recorded_after`: what holds of every call in every run
- `request_answers`: what a call returns or raises is settled by the replies it got itself, and how
  often it logs in and sends its request
-/

namespace AyushOms.Clients.Shiprocket

open AyushOms.Lib

/-! ## Section 1: What a reply means -/

/-- A login without a token in the reply. -/
def noTokenError : ApiError :=
  { message := "Shiprocket login response did not include a token."
    errorType := "authentication_error" }

/-- The reply to `_login`: the token, or what the loop of `request` makes of the failure. A refused
login is not tried again. -/
def judgeLogin : HttpReply → Verdict Raised Json
  | .timeout => judgeError false timeoutError
  | .network text => judgeError false (networkError text)
  | .raised exception => .stop (.other exception)
  | .response status body =>
    if isSuccess status then
      match body with
      | none => .stop (.other notJson)
      | some value =>
        match value.dict with
        | .error exception => .stop (.other exception)
        | .ok fields =>
          if (Dict.get fields "token").truthy then .done (Dict.get fields "token")
          else judgeError false noTokenError
    else judgeError false (classifyHttpError status)

/-- The reply to the request itself. -/
def judgeRequest : HttpReply → Verdict Raised Json
  | .timeout => judgeError false timeoutError
  | .network text => judgeError false (networkError text)
  | .raised exception => .stop (.other exception)
  | .response status body =>
    if isSuccess status then
      match body with
      | none => .stop (.other notJson)
      | some value => .done value
    else if status = 401 then .renew (.api (classifyHttpError status))
    else judgeError false (classifyHttpError status)

/-- What a turn of the loop can end with: a login that failed, or the reply to the request. -/
inductive Heard where
  | login (reply : HttpReply)
  | request (reply : HttpReply)

def Heard.judge : Heard → Verdict Raised Json
  | login reply => judgeLogin reply
  | request reply => judgeRequest reply

/-! ## Section 2: A call and the token -/

/-- `_token` and `_token_expires_at`. -/
structure Cache where
  token : Option Json := none
  tokenExpiresAt : Option Instant := none

/-- `_TOKEN_LIFETIME`, in microseconds. -/
def tokenLifetime : ℤ := 239 * 3600 * 1000000

/-- Where a call is: before the next turn of its loop, at its login, at its request with a token,
or over. -/
inductive Stage where
  | looping
  | loggingIn
  | posting (token : Json)
  | finished (result : Except Raised Json)

/-- The local variables of a call, what its turns have ended with, and how often it has logged in
and sent its request. -/
structure Caller where
  attempts : Attempts := {}
  stage : Stage := .looping
  heard : List Heard := []
  logins : ℕ := 0
  requests : ℕ := 0

/-- What happens to a call that awaits something. -/
inductive Act where
  | reply (reply : HttpReply)
  | wake
  | cancel

section Calls

variable (policy : RetryPolicy) (now : Instant)

/-- The request is sent. -/
def Caller.post (c : Caller) (token : Json) : Caller :=
  { c with stage := .posting token, requests := c.requests + 1 }

/-- `_ensure_token`, and on to the request when there is a token. -/
def ensureToken (cache : Cache) (c : Caller) : Caller :=
  match cache.token with
  | some token =>
    if cache.tokenExpiresAt.any (· ≤ now) then
      { c with stage := .loggingIn, logins := c.logins + 1 }
    else c.post token
  | none => { c with stage := .loggingIn, logins := c.logins + 1 }

/-- The end of a turn. -/
def turn (cache : Cache) (c : Caller) (heard : Heard) : Cache × Caller :=
  let c := { c with heard := c.heard ++ [heard] }
  match c.attempts.next policy.maxRetries heard.judge with
  | .ended result => (cache, { c with stage := .finished result })
  | .going attempts =>
    if heard.judge.isRenew then
      -- the token is thrown away, and the next turn begins at once
      let cache := { cache with token := none }
      (cache, ensureToken now cache { c with attempts := attempts })
    else (cache, { c with attempts := attempts, stage := .looping })

/-- A call goes on to its next `await`. -/
def advance (cache : Cache) (c : Caller) : Act → Cache × Caller
  | .cancel =>
    match c.stage with
    | .finished _ => (cache, c)
    | .looping | .loggingIn | .posting _ =>
      (cache, { c with stage := .finished (.error .cancelled) })
  | .wake =>
    match c.stage with
    | .looping => (cache, ensureToken now cache c)
    | .loggingIn | .posting _ | .finished _ => (cache, c)
  | .reply reply =>
    match c.stage with
    | .loggingIn =>
      match judgeLogin reply with
      | .done token =>
        ({ token := some token, tokenExpiresAt := some (now + tokenLifetime) }, c.post token)
      | .stop _ | .again _ | .renew _ => turn policy now cache c (.login reply)
    | .posting _ => turn policy now cache c (.request reply)
    | .looping | .finished _ => (cache, c)

end Calls

/-! ## Section 3: The client -/

/-- The client: the token and the calls that have begun, by number. -/
structure ShiprocketClient where
  now : Instant := 0
  cache : Cache := {}
  callers : List Caller := []

/-- Some time passes; then a call of `request` begins, or the call with this number goes on. -/
structure Event where
  elapsed : ℕ := 0
  act : Option (ℕ × Act)

/-- One event. -/
def ShiprocketClient.step (policy : RetryPolicy) (s : ShiprocketClient) (e : Event) :
    ShiprocketClient :=
  let now := s.now + e.elapsed
  match e.act with
  | none => { s with now := now, callers := s.callers ++ [{}] }
  | some (number, act) =>
    match s.callers[number]? with
    | none => { s with now := now }
    | some c =>
      let (cache, c') := advance policy now s.cache c act
      { now := now, cache := cache, callers := s.callers.set number c' }

/-- The client after a run. -/
def ShiprocketClient.after (policy : RetryPolicy) (s : ShiprocketClient) (es : List Event) :
    ShiprocketClient :=
  run (ShiprocketClient.step policy) s es

/-! ## Section 4: What a call has heard -/

variable {policy : RetryPolicy} {now : Instant}

/-- The loop of `request` after the turns of the call. -/
def Caller.turns (policy : RetryPolicy) (c : Caller) : Progress Raised Json :=
  run (Progress.hear Heard.judge policy.maxRetries) (.going {}) c.heard

/-- How a call can be over. -/
inductive Answered (policy : RetryPolicy) (c : Caller) : Except Raised Json → Prop
  | heard {result : Except Raised Json} :
    Settles Heard.judge policy.maxRetries c.heard result → Answered policy c result
  | cancelled :
    Survived Heard.judge policy.maxRetries c.heard → Answered policy c (.error .cancelled)

/-- What holds of a call at every moment: in each turn it logs in at most once and sends its request
at most once, and once a token was refused it has logged in itself. -/
structure Recorded (policy : RetryPolicy) (c : Caller) : Prop where
  going : (∀ result, c.stage ≠ .finished result) → c.turns policy = .going c.attempts
  finished : ∀ result, c.stage = .finished result → Answered policy c result
  logins_le : c.logins ≤ policy.maxRetries + 2
  requests_le : c.requests ≤ policy.maxRetries + 2
  looping : c.stage = .looping → c.logins ≤ c.heard.length ∧ c.requests ≤ c.heard.length
  loggingIn : c.stage = .loggingIn →
    c.logins ≤ c.heard.length + 1 ∧ c.requests ≤ c.heard.length
  posting : ∀ token, c.stage = .posting token →
    c.logins ≤ c.heard.length + 1 ∧ c.requests ≤ c.heard.length + 1
  refused : 0 < refusals Heard.judge c.heard → 0 < c.logins

theorem recorded_empty : Recorded policy {} where
  going _ := rfl
  finished _ h := by cases h
  logins_le := Nat.zero_le _
  requests_le := Nat.zero_le _
  looping _ := ⟨Nat.le_refl 0, Nat.le_refl 0⟩
  loggingIn h := by cases h
  posting _ h := by cases h
  refused h := absurd h (Nat.lt_irrefl 0)

variable {c : Caller}

theorem Caller.survived {attempts : Attempts} (h : c.turns policy = .going attempts) :
    Survived Heard.judge policy.maxRetries c.heard :=
  (run_hear_going_iff.mp h).1

/-- The request is sent, for the first time in its turn. -/
theorem Recorded.post (hgoing : c.turns policy = .going c.attempts)
    (hlogins : c.logins ≤ c.heard.length + 1) (hrequests : c.requests ≤ c.heard.length)
    (hrefused : 0 < refusals Heard.judge c.heard → 0 < c.logins) (token : Json) :
    Recorded policy (c.post token) := by
  have hlength := (Caller.survived hgoing).length_le
  exact
    { going := fun _ => hgoing
      finished := fun _ h => by cases h
      logins_le := Nat.le_trans hlogins (Nat.succ_le_succ hlength)
      requests_le := Nat.succ_le_succ (Nat.le_trans hrequests hlength)
      looping := fun h => by cases h
      loggingIn := fun h => by cases h
      posting := fun _ _ => ⟨hlogins, Nat.succ_le_succ hrequests⟩
      refused := hrefused }

/-- A turn begins. -/
theorem recorded_ensureToken (now : Instant) (cache : Cache)
    (hgoing : c.turns policy = .going c.attempts)
    (hlogins : c.logins ≤ c.heard.length) (hrequests : c.requests ≤ c.heard.length)
    (hrefused : 0 < refusals Heard.judge c.heard → cache.token = none ∨ 0 < c.logins) :
    Recorded policy (ensureToken now cache c) := by
  have hlength := (Caller.survived hgoing).length_le
  have hlogin : Recorded policy { c with stage := .loggingIn, logins := c.logins + 1 } :=
    { going := fun _ => hgoing
      finished := fun _ h => by cases h
      logins_le := Nat.succ_le_succ (Nat.le_trans hlogins hlength)
      requests_le := Nat.le_succ_of_le (Nat.le_trans hrequests hlength)
      looping := fun h => by cases h
      loggingIn := fun _ => ⟨Nat.succ_le_succ hlogins, hrequests⟩
      posting := fun _ h => by cases h
      refused := fun _ => Nat.succ_pos _ }
  unfold ensureToken
  split
  · rename_i token htoken
    split
    · exact hlogin
    · refine .post hgoing (Nat.le_succ_of_le hlogins) hrequests (fun hpos => ?_) token
      rcases hrefused hpos with hnone | hown
      · rw [htoken] at hnone
        cases hnone
      · exact hown
  · exact hlogin

/-- A turn ends. -/
theorem Recorded.turn (h : Recorded policy c) (hgoing : c.turns policy = .going c.attempts)
    (hlogins : c.logins ≤ c.heard.length + 1) (hrequests : c.requests ≤ c.heard.length + 1)
    (cache : Cache) (heard : Heard) :
    Recorded policy (turn policy now cache c heard).2 := by
  have hlength : (c.heard ++ [heard]).length = c.heard.length + 1 := List.length_append
  have hlogins' : c.logins ≤ (c.heard ++ [heard]).length := by rwa [hlength]
  have hrequests' : c.requests ≤ (c.heard ++ [heard]).length := by rwa [hlength]
  have hattempts := (run_hear_going_iff.mp hgoing).2
  have hrefusals : refusals Heard.judge (c.heard ++ [heard]) =
      refusals Heard.judge c.heard + if heard.judge.isRenew then 1 else 0 := by
    rw [refusals_of_append, refusals_cons]
    exact congrArg _ (Nat.zero_add _)
  unfold Shiprocket.turn
  dsimp only
  cases hturn : c.attempts.next policy.maxRetries heard.judge with
  | ended result =>
    exact
      { going := fun hnot => absurd rfl (hnot result)
        finished := fun _ heq => by
          cases heq
          exact .heard (Settles.of_next hgoing hturn)
        logins_le := h.logins_le
        requests_le := h.requests_le
        looping := fun heq => by cases heq
        loggingIn := fun heq => by cases heq
        posting := fun _ heq => by cases heq
        refused := fun hpos => h.refused <| by
          by_cases hrenew : heard.judge.isRenew = true
          · -- a token refused for the first time does not end the call
            have hbefore := Attempts.renewed_of_next_ended hturn hrenew
            rw [hattempts] at hbefore
            exact of_decide_eq_true hbefore
          · rw [if_neg hrenew] at hrefusals
            exact Nat.lt_of_lt_of_eq hpos hrefusals }
  | going attempts =>
    have hnext : Caller.turns policy
        { c with attempts := attempts, heard := c.heard ++ [heard] } = .going attempts := by
      have happend : Caller.turns policy
          { c with attempts := attempts, heard := c.heard ++ [heard] } =
          (c.turns policy).hear Heard.judge policy.maxRetries heard := run_append _ _ _ _
      rw [happend, hgoing]
      exact hturn
    dsimp only
    split
    · exact recorded_ensureToken now { cache with token := none } hnext hlogins' hrequests'
        fun _ => .inl rfl
    · rename_i hrenew
      rw [if_neg hrenew] at hrefusals
      exact
        { going := fun _ => hnext
          finished := fun _ heq => by cases heq
          logins_le := h.logins_le
          requests_le := h.requests_le
          looping := fun _ => ⟨hlogins', hrequests'⟩
          loggingIn := fun heq => by cases heq
          posting := fun _ heq => by cases heq
          refused := fun hpos => h.refused (Nat.lt_of_lt_of_eq hpos hrefusals) }

theorem Recorded.cancel (h : Recorded policy c) (hgoing : c.turns policy = .going c.attempts) :
    Recorded policy { c with stage := .finished (.error .cancelled) } where
  going hnot := absurd rfl (hnot _)
  finished _ heq := by
    cases heq
    exact .cancelled (Caller.survived hgoing)
  logins_le := h.logins_le
  requests_le := h.requests_le
  looping heq := by cases heq
  loggingIn heq := by cases heq
  posting _ heq := by cases heq
  refused := h.refused

/-- Whatever happens to a call, and whatever the others have done to the token. -/
theorem Recorded.advance (h : Recorded policy c) (cache : Cache) (act : Act) :
    Recorded policy (advance policy now cache c act).2 := by
  cases hstage : c.stage with
  | finished result =>
    cases act <;> simp only [Shiprocket.advance, hstage] <;> exact h
  | looping =>
    have hgoing := h.going fun _ heq => by rw [hstage] at heq; cases heq
    obtain ⟨hlogins, hrequests⟩ := h.looping hstage
    cases act with
    | cancel => simpa only [Shiprocket.advance, hstage] using h.cancel hgoing
    | reply _ => simpa only [Shiprocket.advance, hstage] using h
    | wake =>
      simp only [Shiprocket.advance, hstage]
      exact recorded_ensureToken now cache hgoing hlogins hrequests fun hpos =>
        .inr (h.refused hpos)
  | loggingIn =>
    have hgoing := h.going fun _ heq => by rw [hstage] at heq; cases heq
    obtain ⟨hlogins, hrequests⟩ := h.loggingIn hstage
    have hturn : ∀ heard, Recorded policy (Shiprocket.turn policy now cache c heard).2 :=
      fun heard => h.turn hgoing hlogins (Nat.le_succ_of_le hrequests) cache heard
    cases act with
    | cancel => simpa only [Shiprocket.advance, hstage] using h.cancel hgoing
    | wake => simpa only [Shiprocket.advance, hstage] using h
    | reply reply =>
      simp only [Shiprocket.advance, hstage]
      cases judgeLogin reply with
      | done token => exact .post hgoing hlogins hrequests h.refused token
      | stop _ | again _ | renew _ => exact hturn _
  | posting token =>
    have hgoing := h.going fun _ heq => by rw [hstage] at heq; cases heq
    obtain ⟨hlogins, hrequests⟩ := h.posting token hstage
    cases act with
    | cancel => simpa only [Shiprocket.advance, hstage] using h.cancel hgoing
    | wake => simpa only [Shiprocket.advance, hstage] using h
    | reply reply =>
      simp only [Shiprocket.advance, hstage]
      exact h.turn hgoing hlogins hrequests cache _

/-! ## Section 5: Every run -/

theorem recorded_step {s : ShiprocketClient} (h : ∀ c ∈ s.callers, Recorded policy c)
    (e : Event) : ∀ c ∈ (s.step policy e).callers, Recorded policy c := by
  unfold ShiprocketClient.step
  dsimp only
  split
  · intro c hc
    rcases List.mem_append.mp hc with hold | hnew
    · exact h c hold
    · rw [List.mem_singleton.mp hnew]
      exact recorded_empty
  · split
    · exact h
    · rename_i c hc
      intro c' hc'
      rcases List.mem_or_eq_of_mem_set hc' with hold | rfl
      · exact h c' hold
      · exact (h c (List.mem_of_getElem? hc)).advance _ _

theorem recorded_after (es : List Event) :
    ∀ c ∈ (ShiprocketClient.after policy {} es).callers, Recorded policy c := by
  have hstep : ∀ s e, (∀ c ∈ ShiprocketClient.callers s, Recorded policy c) →
      ∀ c ∈ (s.step policy e).callers, Recorded policy c := fun _ e h => recorded_step h e
  refine run_invariant _ hstep ?_ es
  intro c hc
  cases hc

/-- What a call returns or raises, in whatever company, is settled by the replies it got itself. It
logs in and sends its request at most `max_retries + 2` times each, and it has logged in itself
once its token was refused. -/
theorem request_answers (policy : RetryPolicy) (es : List Event) {number : ℕ} {c : Caller}
    (hc : (ShiprocketClient.after policy {} es).callers[number]? = some c)
    {result : Except Raised Json} (hover : c.stage = .finished result) :
    Answered policy c result ∧ c.logins ≤ policy.maxRetries + 2 ∧
      c.requests ≤ policy.maxRetries + 2 ∧
      (0 < refusals Heard.judge c.heard → 0 < c.logins) := by
  have hrecorded := recorded_after es c (List.mem_of_getElem? hc)
  exact ⟨hrecorded.finished result hover, hrecorded.logins_le, hrecorded.requests_le,
    hrecorded.refused⟩

/-- A login. -/
def smallLogin (token : String) : HttpReply :=
  .response 200 (some (.obj [("token", .str token)]))

/-- Two calls that both log in; the token of the first is refused. -/
def smallRun : List Event :=
  [{ act := none }, { act := none }, { act := some (0, .wake) }, { act := some (1, .wake) },
    { act := some (0, .reply (smallLogin "old")) },
    { act := some (1, .reply (smallLogin "new")) },
    { act := some (0, .reply (.response 401 none)) },
    { act := some (0, .reply .timeout) }, { act := some (0, .wake) },
    { act := some (0, .reply (smallLogin "last")) },
    { act := some (0, .reply (.response 200 (some (.str "shipped")))) }]

/-- The first of the calls when it is over. -/
def smallCall : Caller :=
  { attempts := { failed := 1, renewed := true }
    stage := .finished (.ok (.str "shipped"))
    heard := [.request (.response 401 none), .login .timeout,
      .request (.response 200 (some (.str "shipped")))]
    logins := 3
    requests := 2 }

theorem request_answers_small :
    Answered {} smallCall (.ok (.str "shipped")) ∧ smallCall.logins ≤ 7 ∧
      smallCall.requests ≤ 7 ∧
      (0 < refusals Heard.judge smallCall.heard → 0 < smallCall.logins) := by
  have hcall : (ShiprocketClient.after {} {} smallRun).callers[0]? = some smallCall := rfl
  exact request_answers {} smallRun hcall rfl

end AyushOms.Clients.Shiprocket
