import AyushOms.Lib.Budget
import AyushOms.Lib.Run
import Mathlib.Algebra.Order.BigOperators.Group.List
import Mathlib.Algebra.Order.Group.Nat

/-!
# The API Client of the Browser

`lib/api-client.ts`: a call that is answered with 401 asks for a new access token and is sent once
more. Calls that fail while a refresh is in flight wait for that one. A browser runs one piece of
script at a time, so that a step is what happens up to the next `await` that has to wait.

A reply travels: it is given at one time and delivered at another. A refresh without a stored
refresh token is no request, and is answered as soon as it is begun. An empty token counts as none.

## Main results

- `Browser.Inv.step`: what every step keeps
- `Browser.calls_end`: how much the calls of a run cause, and that none is left hanging
-/

namespace AyushOms.Web

open AyushOms.Lib

/-! ## Section 1: Calls -/

/-- A reply as the interceptor tells them apart. -/
inductive Reply where
  | success
  | unauthorized
  | failed
  deriving DecidableEq, Repr

/-- Where a call is: with the network, on its way back, waiting for a refresh, or settled. -/
inductive Phase (Token : Type) where
  | sent (bearer : Option Token)
  | answered (reply : Reply)
  | waiting
  | settled (reply : Reply)
  deriving DecidableEq, Repr

/-- A call: whether it is one of `NON_RETRIABLE_AUTH_ENDPOINTS`, the permission its endpoint asks
for, `_retried`, and how often it has been sent. -/
structure Call (Token : Type) where
  nonRetriable : Bool := false
  code : Option String := none
  phase : Phase Token
  retried : Bool := false
  sends : ℕ := 1
  deriving DecidableEq, Repr

/-- `refreshInFlight`: the token it was sent with, or the token it has brought. -/
inductive Flight (Token : Type) where
  | asked (refreshToken : Token)
  | answered (accessToken : Option Token)
  deriving DecidableEq, Repr

/-- The storage, the refresh in flight, the calls so far, the refresh requests so far, and whether
the page has been sent to `/login`. -/
structure Browser (Token : Type) where
  accessToken : Option Token := none
  refreshToken : Option Token := none
  refreshInFlight : Option (Flight Token) := none
  calls : List (Call Token) := []
  refreshes : ℕ := 0
  atLogin : Bool := false
  deriving DecidableEq, Repr

variable {Token : Type}

namespace Call

/-- A call with the token that is stored. -/
def start (nonRetriable : Bool) (code : Option String) (accessToken : Option Token) :
    Call Token where
  nonRetriable := nonRetriable
  code := code
  phase := .sent accessToken

/-- The interceptor refreshes and retries the call. -/
def retries (c : Call Token) : Bool := !c.retried && !c.nonRetriable

/-- The call comes back with a reply that it settles with. -/
def settle (reply : Reply) (c : Call Token) : Call Token := { c with phase := .settled reply }

/-- The call comes back with 401, and waits for a refresh. -/
def await (c : Call Token) : Call Token := { c with phase := .waiting, retried := true }

/-- The call goes on after the refresh it has waited for, if it has. -/
def resume (newAccessToken : Option Token) (c : Call Token) : Call Token :=
  match c.phase, newAccessToken with
  | .waiting, some token => { c with phase := .sent (some token), sends := c.sends + 1 }
  | .waiting, none => { c with phase := .settled .unauthorized }
  | _, _ => c

def isWaiting (c : Call Token) : Bool :=
  match c.phase with
  | .waiting => true
  | _ => false

end Call

/-! ## Section 2: The client -/

/-- A call begins, a reply is given or delivered, or someone signs in or out. -/
inductive BrowserEvent (Token : Type) where
  | request (nonRetriable : Bool) (code : Option String)
  | answer (call : ℕ) (reply : Reply)
  | deliver (call : ℕ)
  | answerRefresh (accessToken : Option Token)
  | deliverRefresh
  | store (accessToken refreshToken : Option Token)

def BrowserEvent.isRequest : BrowserEvent Token → Bool
  | .request .. => true
  | _ => false

namespace Browser

/-- `refreshInFlight ??= refreshAccessToken()`. -/
def joinRefresh (b : Browser Token) : Browser Token :=
  match b.refreshInFlight, b.refreshToken with
  | some _, _ => b
  | none, some token =>
    { b with refreshInFlight := some (.asked token), refreshes := b.refreshes + 1 }
  | none, none => { b with refreshInFlight := some (.answered none) }

/-- A call goes out. -/
def request (b : Browser Token) (nonRetriable : Bool) (code : Option String) : Browser Token :=
  { b with calls := b.calls ++ [.start nonRetriable code b.accessToken] }

/-- A call is answered. -/
def answer (b : Browser Token) (call : ℕ) (reply : Reply) : Browser Token :=
  match b.calls[call]? with
  | some ⟨_, _, .sent _, _, _⟩ =>
    { b with calls := b.calls.modify call fun c => { c with phase := .answered reply } }
  | _ => b

/-- The interceptor of responses. -/
def deliver (b : Browser Token) (call : ℕ) : Browser Token :=
  match b.calls[call]? with
  | some c =>
    match c.phase with
    | .answered .unauthorized =>
      if c.retries then
        ({ b with calls := b.calls.modify call Call.await } : Browser Token).joinRefresh
      else { b with calls := b.calls.modify call (Call.settle .unauthorized) }
    | .answered reply => { b with calls := b.calls.modify call (Call.settle reply) }
    | _ => b
  | none => b

/-- `/auth/refresh` is answered; a failure is no token. -/
def answerRefresh (b : Browser Token) (accessToken : Option Token) : Browser Token :=
  match b.refreshInFlight with
  | some (.asked _) => { b with refreshInFlight := some (.answered accessToken) }
  | _ => b

/-- The refresh is over: its token is stored, and those who wait for it go on. -/
def deliverRefresh (b : Browser Token) : Browser Token :=
  match b.refreshInFlight with
  | some (.answered (some token)) =>
    { b with
      accessToken := some token
      refreshInFlight := none
      calls := b.calls.map (Call.resume (some token)) }
  | some (.answered none) =>
    if b.calls.any Call.isWaiting then
      { b with
        accessToken := none
        refreshToken := none
        refreshInFlight := none
        calls := b.calls.map (Call.resume none)
        atLogin := true }
    else { b with refreshInFlight := none }
  | _ => b

/-- One event. -/
def step (b : Browser Token) : BrowserEvent Token → Browser Token
  | .request nonRetriable code => b.request nonRetriable code
  | .answer call reply => b.answer call reply
  | .deliver call => b.deliver call
  | .answerRefresh accessToken => b.answerRefresh accessToken
  | .deliverRefresh => b.deliverRefresh
  | .store accessToken refreshToken =>
    { b with accessToken := accessToken, refreshToken := refreshToken }

/-- The state after a run. -/
def after (b : Browser Token) (es : List (BrowserEvent Token)) : Browser Token := run step b es

/-! ## Section 3: What holds of every call -/

/-- A call is sent again only after it has waited, and waits only once. -/
structure Sound (c : Call Token) : Prop where
  sends_le : c.sends ≤ 1 + c.retried.toNat
  waiting : c.phase = .waiting → c.retried = true ∧ c.sends ≤ 1

/-- What holds in every state: a call that waits waits for a refresh, and every refresh was asked
for by a call of its own. -/
structure Inv (b : Browser Token) : Prop where
  sound : ∀ c ∈ b.calls, Sound c
  awaited : ∀ c ∈ b.calls, c.phase = .waiting → b.refreshInFlight ≠ none
  refreshes_le : b.refreshes ≤ (b.calls.map fun c => c.retried.toNat).sum

variable {b : Browser Token}

theorem resume_sound {c : Call Token} (h : Sound c) (newAccessToken : Option Token) :
    Sound (c.resume newAccessToken) ∧ (c.resume newAccessToken).phase ≠ .waiting ∧
      (c.resume newAccessToken).retried = c.retried := by
  cases hphase : c.phase with
  | waiting =>
    obtain ⟨hretried, hsends⟩ := h.waiting hphase
    cases newAccessToken with
    | none =>
      simp only [Call.resume, hphase]
      exact ⟨⟨h.sends_le, fun hwaiting => (by cases hwaiting)⟩, by simp, trivial⟩
    | some token =>
      simp only [Call.resume, hphase]
      refine ⟨⟨?_, fun hwaiting => (by cases hwaiting)⟩, by simp, trivial⟩
      show c.sends + 1 ≤ 1 + c.retried.toNat
      rw [hretried]
      exact Nat.succ_le_succ hsends
  | sent _ | answered _ | settled _ =>
    have hsame : c.resume newAccessToken = c := by simp only [Call.resume, hphase]
    rw [hsame, hphase]
    exact ⟨h, by simp, rfl⟩

theorem mem_modify {l : List (Call Token)} {i : ℕ} {f : Call Token → Call Token} {c : Call Token}
    (h : c ∈ l.modify i f) : c ∈ l ∨ ∃ c₀, l[i]? = some c₀ ∧ c = f c₀ := by
  obtain ⟨k, hk⟩ := List.mem_iff_getElem?.mp h
  by_cases heq : i = k
  · subst heq
    rw [List.getElem?_modify_eq] at hk
    obtain ⟨c₀, hc₀, rfl⟩ := Option.map_eq_some_iff.mp hk
    exact .inr ⟨c₀, hc₀, rfl⟩
  · rw [List.getElem?_modify_ne _ _ heq] at hk
    exact .inl (List.mem_of_getElem? hk)

/-- One call goes on, and stays as it was otherwise. -/
theorem Inv.modify (h : Inv b) {call : ℕ} {c : Call Token} (hc : b.calls[call]? = some c)
    {f : Call Token → Call Token} (hphase : (f c).phase ≠ .waiting)
    (hretried : (f c).retried = c.retried) (hsends : (f c).sends = c.sends) :
    Inv { b with calls := b.calls.modify call f } where
  sound c' hc' := by
    rcases mem_modify hc' with hold | ⟨c₀, hc₀, rfl⟩
    · exact h.sound c' hold
    · obtain rfl := Option.some.inj (hc.symm.trans hc₀)
      refine ⟨?_, fun hwaiting => absurd hwaiting hphase⟩
      rw [hretried, hsends]
      exact (h.sound c (List.mem_of_getElem? hc)).sends_le
  awaited c' hc' hwaiting := by
    rcases mem_modify hc' with hold | ⟨c₀, hc₀, rfl⟩
    · exact h.awaited c' hold hwaiting
    · obtain rfl := Option.some.inj (hc.symm.trans hc₀)
      exact absurd hwaiting hphase
  refreshes_le := by
    have hsum := sum_map_modify (fun c : Call Token => c.retried.toNat) f hc
    have hle := h.refreshes_le
    rw [hretried] at hsum
    show b.refreshes ≤ ((b.calls.modify call f).map fun c => c.retried.toNat).sum
    omega

/-- A call waits, for the refresh in flight or for a new one. -/
theorem Inv.await (h : Inv b) {call : ℕ} {c : Call Token} (hc : b.calls[call]? = some c)
    (hretries : c.retries = true) :
    Inv (Browser.joinRefresh { b with calls := b.calls.modify call Call.await }) := by
  have hfirst : c.retried = false := by
    simp only [Call.retries, Bool.and_eq_true, Bool.not_eq_true'] at hretries
    exact hretries.1
  have hsum := sum_map_modify (fun c : Call Token => c.retried.toNat) Call.await hc
  have hone : (Call.await c).retried.toNat = 1 := rfl
  rw [hfirst, hone] at hsum
  have hle := h.refreshes_le
  have hsound : ∀ c' ∈ b.calls.modify call Call.await, Sound c' := by
    intro c' hc'
    rcases mem_modify hc' with hold | ⟨c₀, hc₀, rfl⟩
    · exact h.sound c' hold
    · obtain rfl := Option.some.inj (hc.symm.trans hc₀)
      have hsends := (h.sound c (List.mem_of_getElem? hc)).sends_le
      rw [hfirst] at hsends
      exact ⟨Nat.le_succ_of_le hsends, fun _ => ⟨rfl, hsends⟩⟩
  unfold joinRefresh
  split
  · rename_i hflight
    refine ⟨hsound, fun _ _ _ heq => ?_, ?_⟩
    · rw [hflight] at heq
      cases heq
    · show b.refreshes ≤ ((b.calls.modify call Call.await).map fun c => c.retried.toNat).sum
      simp only [Bool.toNat_false] at hsum
      omega
  · refine ⟨hsound, fun _ _ _ heq => (by cases heq), ?_⟩
    show b.refreshes + 1 ≤ ((b.calls.modify call Call.await).map fun c => c.retried.toNat).sum
    simp only [Bool.toNat_false] at hsum
    omega
  · refine ⟨hsound, fun _ _ _ heq => (by cases heq), ?_⟩
    show b.refreshes ≤ ((b.calls.modify call Call.await).map fun c => c.retried.toNat).sum
    simp only [Bool.toNat_false] at hsum
    omega

theorem Inv.deliver (h : Inv b) (call : ℕ) : Inv (b.deliver call) := by
  unfold Browser.deliver
  split
  · rename_i c hc
    split
    · split
      · rename_i hretries
        exact h.await hc hretries
      · exact h.modify hc (by simp [Call.settle]) rfl rfl
    · exact h.modify hc (by simp [Call.settle]) rfl rfl
    · exact h
  · exact h

/-- Those who wait go on. -/
theorem Inv.resume (h : Inv b) (newAccessToken : Option Token) {b' : Browser Token}
    (hcalls : b'.calls = b.calls.map (Call.resume newAccessToken))
    (hrefreshes : b'.refreshes = b.refreshes) : Inv b' where
  sound c hc := by
    rw [hcalls] at hc
    obtain ⟨c₀, hc₀, rfl⟩ := List.mem_map.mp hc
    exact (resume_sound (h.sound c₀ hc₀) newAccessToken).1
  awaited c hc hwaiting := by
    rw [hcalls] at hc
    obtain ⟨c₀, hc₀, rfl⟩ := List.mem_map.mp hc
    exact absurd hwaiting (resume_sound (h.sound c₀ hc₀) newAccessToken).2.1
  refreshes_le := by
    rw [hrefreshes, hcalls, List.map_map]
    have hsame : b.calls.map ((fun c => c.retried.toNat) ∘ Call.resume newAccessToken) =
        b.calls.map fun c => c.retried.toNat :=
      List.map_congr_left fun c hc =>
        congrArg Bool.toNat (resume_sound (h.sound c hc) newAccessToken).2.2
    rw [hsame]
    exact h.refreshes_le

theorem Inv.deliverRefresh (h : Inv b) : Inv b.deliverRefresh := by
  unfold Browser.deliverRefresh
  split
  · exact h.resume _ rfl rfl
  · split
    · exact h.resume _ rfl rfl
    · rename_i hnone
      refine ⟨h.sound, fun c hc hwaiting => absurd ?_ hnone, h.refreshes_le⟩
      refine List.any_eq_true.mpr ⟨c, hc, ?_⟩
      rw [Call.isWaiting, hwaiting]
  · exact h

/-- Every step keeps the invariant. -/
theorem Inv.step (h : Inv b) (e : BrowserEvent Token) : Inv (b.step e) := by
  cases e with
  | request nonRetriable code =>
    have hnew : ∀ c ∈ b.calls ++ [.start nonRetriable code b.accessToken], Sound c ∧
        (c.phase = .waiting → b.refreshInFlight ≠ none) := by
      intro c hc
      rcases List.mem_append.mp hc with hold | hnew
      · exact ⟨h.sound c hold, h.awaited c hold⟩
      · obtain rfl := List.mem_singleton.mp hnew
        exact ⟨⟨Nat.le_refl 1, fun hwaiting => (by cases hwaiting)⟩,
          fun hwaiting => (by cases hwaiting)⟩
    refine ⟨fun c hc => (hnew c hc).1, fun c hc => (hnew c hc).2, ?_⟩
    show b.refreshes ≤ ((b.calls ++ _).map _).sum
    rw [List.map_append, List.sum_append]
    exact Nat.le_trans h.refreshes_le (Nat.le_add_right _ _)
  | answer call reply =>
    simp only [Browser.step, Browser.answer]
    split
    · rename_i hc
      exact h.modify hc (by simp) rfl rfl
    · exact h
  | deliver call => exact h.deliver call
  | answerRefresh accessToken =>
    simp only [Browser.step, Browser.answerRefresh]
    split
    · exact ⟨h.sound, fun _ _ _ heq => (by cases heq), h.refreshes_le⟩
    · exact h
  | deliverRefresh => exact h.deliverRefresh
  | store accessToken refreshToken => exact ⟨h.sound, h.awaited, h.refreshes_le⟩

/-! ## Section 4: No call is left hanging -/

/-- The network has something to give or to deliver. -/
def canGoOn (b : Browser Token) : BrowserEvent Token → Bool
  | .answer call _ =>
    match b.calls[call]? with
    | some ⟨_, _, .sent _, _, _⟩ => true
    | _ => false
  | .deliver call =>
    match b.calls[call]? with
    | some ⟨_, _, .answered _, _, _⟩ => true
    | _ => false
  | .answerRefresh _ =>
    match b.refreshInFlight with
    | some (.asked _) => true
    | _ => false
  | .deliverRefresh =>
    match b.refreshInFlight with
    | some (.answered _) => true
    | _ => false
  | .request .. | .store .. => false

/-- A call that is not settled has a reply to come, or the refresh it waits for has. -/
theorem Inv.goes_on (h : Inv b) {c : Call Token} (hc : c ∈ b.calls)
    (hopen : ∀ reply, c.phase ≠ .settled reply) : ∃ e, b.canGoOn e = true := by
  obtain ⟨call, hcall⟩ := List.mem_iff_getElem?.mp hc
  obtain ⟨nonRetriable, code, phase, retried, sends⟩ := c
  cases phase with
  | sent bearer => exact ⟨.answer call .failed, by simp [canGoOn, hcall]⟩
  | answered reply => exact ⟨.deliver call, by simp [canGoOn, hcall]⟩
  | settled reply => exact absurd rfl (hopen reply)
  | waiting =>
    cases hflight : b.refreshInFlight with
    | none => exact absurd hflight (h.awaited _ hc rfl)
    | some flight =>
      cases flight with
      | asked refreshToken => exact ⟨.answerRefresh none, by simp [canGoOn, hflight]⟩
      | answered accessToken => exact ⟨.deliverRefresh, by simp [canGoOn, hflight]⟩

/-- How often the network has still to do with a call, and with the refresh it may ask for. -/
def callRank (c : Call Token) : ℕ :=
  match c.phase with
  | .sent _ => if c.retried then 2 else 6
  | .answered _ => if c.retried then 1 else 5
  | .waiting => 2
  | .settled _ => 0

def flightRank : Option (Flight Token) → ℕ
  | some (.asked _) => 2
  | some (.answered _) => 1
  | none => 0

def rank (b : Browser Token) : ℕ := (b.calls.map callRank).sum + flightRank b.refreshInFlight

theorem rank_modify {call : ℕ} {c : Call Token} (hc : b.calls[call]? = some c)
    {f : Call Token → Call Token} (h : callRank (f c) < callRank c) :
    1 + rank { b with calls := b.calls.modify call f } ≤ rank b := by
  have hsum := sum_map_modify callRank f hc
  simp only [rank]
  omega

theorem callRank_resume {c : Call Token} (h : Sound c) (newAccessToken : Option Token) :
    callRank (c.resume newAccessToken) ≤ callRank c := by
  cases hphase : c.phase with
  | waiting =>
    have hretried := (h.waiting hphase).1
    cases newAccessToken with
    | none => simp [Call.resume, callRank, hphase]
    | some token => simp [Call.resume, callRank, hphase, hretried]
  | sent _ | answered _ | settled _ =>
    have hsame : c.resume newAccessToken = c := by simp only [Call.resume, hphase]
    rw [hsame]

theorem Inv.rank_resume (h : Inv b) (newAccessToken : Option Token) :
    ((b.calls.map (Call.resume newAccessToken)).map callRank).sum ≤ (b.calls.map callRank).sum := by
  rw [List.map_map]
  exact List.sum_le_sum fun c hc => callRank_resume (h.sound c hc) newAccessToken

theorem rank_joinRefresh (b : Browser Token) : rank b.joinRefresh ≤ rank b + 2 := by
  unfold joinRefresh
  split
  · exact Nat.le_add_right _ _
  · rename_i hnone _
    simp only [rank, flightRank, hnone]
    omega
  · rename_i hnone _
    simp only [rank, flightRank, hnone]
    omega

/-- A call that waits has a reply, a refresh and another reply before it at most. -/
theorem rank_await {call : ℕ} {c : Call Token} (hc : b.calls[call]? = some c)
    (hphase : c.phase = .answered .unauthorized) (hretries : c.retries = true) :
    1 + rank (joinRefresh { b with calls := b.calls.modify call Call.await }) ≤ rank b := by
  have hfirst : c.retried = false := by
    simp only [Call.retries, Bool.and_eq_true, Bool.not_eq_true'] at hretries
    exact hretries.1
  have hbefore : callRank c = 5 := by simp [callRank, hphase, hfirst]
  have hafter : callRank c.await = 2 := rfl
  have hsum := sum_map_modify callRank Call.await hc
  have hjoin := rank_joinRefresh { b with calls := b.calls.modify call Call.await }
  have hrank : rank { b with calls := b.calls.modify call Call.await } + 3 = rank b := by
    simp only [rank]
    omega
  omega

/-- Whatever the network gives or delivers lowers the rank, and only a new call raises it. -/
theorem Inv.rank_step (h : Inv b) (e : BrowserEvent Token) :
    (b.canGoOn e).toNat + rank (b.step e) ≤ rank b + if e.isRequest then 6 else 0 := by
  cases e with
  | request nonRetriable code =>
    simp [canGoOn, Browser.step, Browser.request, rank, callRank, Call.start,
      BrowserEvent.isRequest]
    omega
  | store accessToken refreshToken =>
    simp [canGoOn, Browser.step, rank, BrowserEvent.isRequest]
  | answer call reply =>
    simp only [canGoOn, Browser.step, Browser.answer, BrowserEvent.isRequest]
    split
    · rename_i hcall
      refine rank_modify hcall ?_
      rename_i retried _
      cases retried <;> simp [callRank]
    · simp
  | deliver call =>
    cases hcall : b.calls[call]? with
    | none => simp [canGoOn, Browser.step, Browser.deliver, hcall]
    | some c =>
      obtain ⟨nonRetriable, code, phase, retried, sends⟩ := c
      cases phase with
      | sent bearer => simp [canGoOn, Browser.step, Browser.deliver, hcall]
      | waiting => simp [canGoOn, Browser.step, Browser.deliver, hcall]
      | settled reply => simp [canGoOn, Browser.step, Browser.deliver, hcall]
      | answered reply =>
        have hsettle : 1 + rank { b with calls := b.calls.modify call (Call.settle reply) } ≤
            rank b := by
          refine rank_modify hcall ?_
          cases retried <;> simp [Call.settle, callRank]
        simp only [canGoOn, hcall, Browser.step, Browser.deliver, BrowserEvent.isRequest]
        cases reply with
        | success | failed => exact hsettle
        | unauthorized =>
          dsimp only
          split
          · rename_i hretries
            exact rank_await hcall rfl hretries
          · exact hsettle
  | answerRefresh accessToken =>
    simp only [canGoOn, Browser.step, Browser.answerRefresh, BrowserEvent.isRequest]
    split
    · rename_i hflight
      simp [rank, flightRank, hflight]
      omega
    · simp
  | deliverRefresh =>
    simp only [canGoOn, Browser.step, Browser.deliverRefresh, BrowserEvent.isRequest]
    cases hflight : b.refreshInFlight with
    | none => simp
    | some flight =>
      cases flight with
      | asked refreshToken => simp
      | answered accessToken =>
        have hresume := h.rank_resume accessToken
        cases accessToken with
        | some token =>
          simp only [rank, flightRank, hflight, Bool.toNat_true, Bool.false_eq_true, if_false]
          omega
        | none =>
          dsimp only
          split
          · simp only [rank, flightRank, hflight, Bool.toNat_true, Bool.false_eq_true, if_false]
            omega
          · simp only [rank, flightRank, hflight, Bool.toNat_true, Bool.false_eq_true, if_false]
            omega

/-- Every call of a run is sent at most twice, a refresh is asked for at most once for each call
that comes back with 401, and the network moves at most six times for each call. As long as a call
is not settled, there is a move for the network to make. -/
theorem calls_end (accessToken refreshToken : Option Token) (es : List (BrowserEvent Token)) :
    let fresh : Browser Token := { accessToken, refreshToken }
    (∀ c ∈ (fresh.after es).calls, c.sends ≤ 2 ∧
      ((∀ reply, c.phase ≠ .settled reply) → ∃ e, (fresh.after es).canGoOn e = true)) ∧
    (fresh.after es).refreshes ≤ ((fresh.after es).calls.map fun c => c.retried.toNat).sum ∧
    spent step canGoOn fresh es ≤ 6 * es.countP BrowserEvent.isRequest := by
  intro fresh
  have hfresh : Inv fresh := ⟨by simp [fresh], by simp [fresh], Nat.zero_le _⟩
  have hafter : Inv (fresh.after es) := run_invariant step (fun _ e h => h.step e) hfresh es
  refine ⟨fun c hc => ⟨?_, hafter.goes_on hc⟩, hafter.refreshes_le, ?_⟩
  · have hsends := (hafter.sound c hc).sends_le
    have hone : c.retried.toNat ≤ 1 := Bool.toNat_le c.retried
    omega
  · have hspent := spent_add_left_le step canGoOn (fun _ e h => Inv.step h e)
      (fun _ e h => Inv.rank_step h e) hfresh es
    have hnothing : rank fresh = 0 := rfl
    rw [sum_map_refill] at hspent
    omega

/-- Two calls with a token that has lapsed, and one refresh for both. -/
example :
    ((({ accessToken := some 1, refreshToken := some 7 } : Browser ℕ).after
      [.request false none, .request false none, .answer 0 .unauthorized, .answer 1 .unauthorized,
        .deliver 1, .answerRefresh (some 2), .deliver 0, .deliverRefresh]).calls.map Call.phase) =
      [.sent (some 2), .sent (some 2)] := rfl

end Browser

end AyushOms.Web
