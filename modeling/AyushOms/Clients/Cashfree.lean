import AyushOms.Clients.Errors

/-!
# The Cashfree Client

`CashfreeClient.request`: a request without a token, sent again as long as the failures are
transient. The replies are those of the network, one for each time it is sent.

## Main results

- `request_settled`: how often the request is sent, what it ends with and how long it pauses
-/

namespace AyushOms.Clients.Cashfree

open AyushOms.Lib

/-! ## Section 1: The request -/

/-- What a reply means. -/
def judge [PyRepr] : HttpReply → Verdict Raised Json
  | .timeout => judgeError false timeoutError
  | .network text => judgeError false (networkError text)
  | .raised exception => .stop (.other exception)
  | .response status body =>
    if isSuccess status then
      match body with
      | some value => .done value
      | none => .stop (.other notJson)
    else judgeError false (classifyHttpError status body)

/-- What a call leaves: its result, how often it sent the request, and the pauses between. -/
structure Answer where
  result : Except Raised Json
  sent : ℕ
  paused : List ℚ

/-- `request` after `attempt` failures, with `left` retries left: `replies n` answers the request
when it is sent for the time `n`, from zero on. -/
def requestFrom [PyRepr] (policy : RetryPolicy) (replies : ℕ → HttpReply) (attempt : ℕ) :
    ℕ → Answer
  | 0 => { result := (judge (replies attempt)).result, sent := attempt + 1, paused := [] }
  | left + 1 =>
    if (judge (replies attempt)).isAgain then
      let rest := requestFrom policy replies (attempt + 1) left
      { rest with paused := computeBackoffSeconds policy (attempt + 1) :: rest.paused }
    else { result := (judge (replies attempt)).result, sent := attempt + 1, paused := [] }

/-- `request`. -/
def request [PyRepr] (policy : RetryPolicy) (replies : ℕ → HttpReply) : Answer :=
  requestFrom policy replies 0 policy.maxRetries

/-! ## Section 2: What it ends with -/

/-- From some failures on: the request is sent up to the first reply that is no transient failure,
or the last one there is. -/
theorem requestFrom_settled [PyRepr] (policy : RetryPolicy) (replies : ℕ → HttpReply)
    (attempt left : ℕ) :
    ∃ k ≤ left, (∀ j < k, (judge (replies (attempt + j))).isAgain = true) ∧
      (k = left ∨ (judge (replies (attempt + k))).isAgain = false) ∧
      requestFrom policy replies attempt left =
        { result := (judge (replies (attempt + k))).result
          sent := attempt + k + 1
          paused := (List.range k).map fun j =>
            computeBackoffSeconds policy (attempt + j + 1) } := by
  induction left generalizing attempt with
  | zero => exact ⟨0, Nat.le_refl 0, fun j hj => absurd hj (Nat.not_lt_zero j), .inl rfl, rfl⟩
  | succ left ih =>
    cases hagain : (judge (replies attempt)).isAgain with
    | false =>
      refine ⟨0, Nat.zero_le _, fun j hj => absurd hj (Nat.not_lt_zero j), .inr hagain, ?_⟩
      simp only [requestFrom, hagain, Bool.false_eq_true, if_false]
      rfl
    | true =>
      obtain ⟨k, hk, hbefore, hlast, heq⟩ := ih (attempt + 1)
      have hshift : ∀ j, attempt + 1 + j = attempt + (j + 1) := fun j => by omega
      refine ⟨k + 1, Nat.succ_le_succ hk, ?_, ?_, ?_⟩
      · intro j hj
        cases j with
        | zero => exact hagain
        | succ j =>
          rw [← hshift]
          exact hbefore j (Nat.lt_of_succ_lt_succ hj)
      · rw [← hshift]
        exact hlast.imp (congrArg Nat.succ) id
      · simp only [requestFrom, hagain, if_true, heq, List.range_succ_eq_map, List.map_cons,
          List.map_map, hshift]
        rfl

/-- Whatever the network does, the request is sent until the first reply that is no transient
failure, `max_retries + 1` times at most, and that reply is the result. The pauses grow by the
policy and take no longer in all than the retries times the longest pause. -/
theorem request_settled [PyRepr] (policy : RetryPolicy) (replies : ℕ → HttpReply) :
    ∃ k ≤ policy.maxRetries, (∀ j < k, (judge (replies j)).isAgain = true) ∧
      (k = policy.maxRetries ∨ (judge (replies k)).isAgain = false) ∧
      request policy replies =
        { result := (judge (replies k)).result, sent := k + 1, paused := pauses policy k } ∧
      (request policy replies).paused.sum ≤ k * policy.maxDelaySeconds := by
  obtain ⟨k, hk, hbefore, hlast, heq⟩ :=
    requestFrom_settled policy replies 0 policy.maxRetries
  simp only [Nat.zero_add] at hbefore hlast heq
  refine ⟨k, hk, hbefore, hlast, heq, ?_⟩
  rw [request, heq]
  exact pauses_sum_le policy k

end AyushOms.Clients.Cashfree
