import AyushOms.Chat.Service

/-!
# What the Assistant Sends to the Provider

A provider refuses a conversation in which a tool call is left unanswered, or answered twice, or in
which a message with an empty text stands. Here: every request of a turn carries a conversation
that is whole, one request's conversation goes on where the one before it ended, and there are no
more requests than the settings allow.

## Main results

- `answer_conversations`: what holds of all the requests of a turn
-/

namespace AyushOms.Chat

open AyushOms.Lib AyushOms.Auth AyushOms.Clients

/-! ## Section 1: Whole conversations -/

/-- A message of an earlier turn. -/
def IsPast (m : Message) : Prop :=
  ∃ role content, m = .text role content ∧ (role = "user" ∨ role = "assistant") ∧ content ≠ ""

/-- A tool message answers a call. -/
def Answers (loads : String → Option Json) (call : Json) (m : Message) : Prop :=
  ∃ fields name arguments content, call = .obj fields ∧
    parseToolCall loads fields = .ok (name, arguments) ∧
    m = .tool ((Dict.get fields "id").orElse name) name content

/-- A reply that calls tools, and behind it one answer to each call, in the order of the calls. -/
def IsRound (loads : String → Option Json) (messages : List Message) : Prop :=
  ∃ content toolCalls calls answers, messages = .toolCalls content toolCalls :: answers ∧
    toolCalls.truthy = true ∧ toolCalls.iterate = .ok calls ∧
    List.Forall₂ (Answers loads) calls answers

namespace ChatService

/-- The prompt, the past, the user's message, and then so many rounds. -/
def Whole (c : ChatService) (message : String) (rounds : ℕ) (messages : List Message) : Prop :=
  ∃ past rs, messages = .text "system" c.systemPrompt :: past ++
      .text "user" (pyStrip message) :: List.flatten rs ∧
    (∀ m ∈ past, IsPast m) ∧ (c.historyMaxMessages ≠ 0 → past.length ≤ c.historyMaxMessages) ∧
    (∀ r ∈ rs, IsRound c.loads r) ∧ rs.length = rounds

/-- What holds of the requests of a turn. The tools are offered but for the last round. -/
structure Requests (c : ChatService) (message : String) (sent : List Payload) : Prop where
  whole : ∀ p ∈ sent, ∃ rounds ≤ c.maxToolIterations, c.Whole message rounds p.messages ∧
    (p.allowTools = true ↔ rounds < c.maxToolIterations)
  growing : sent.Pairwise fun p p' => p.messages <+: p'.messages
  length_le : sent.length ≤ (c.maxToolIterations + 1) * (c.llm.maxRetries + 1)

/-- A turn in which requests for fewer than `rounds` rounds have been sent. -/
structure Sent (c : ChatService) (message : String) (rounds : ℕ) (t : Turn) : Prop where
  whole : ∀ p ∈ t.sent, ∃ k < rounds, k ≤ c.maxToolIterations ∧ c.Whole message k p.messages ∧
    (p.allowTools = true ↔ k < c.maxToolIterations)
  growing : t.sent.Pairwise fun p p' => p.messages <+: p'.messages
  before : ∀ p ∈ t.sent, p.messages <+: t.messages
  length_le : t.sent.length ≤ rounds * (c.llm.maxRetries + 1)

variable {c : ChatService} {message : String} {rounds : ℕ} {t : Turn}

theorem whole_opening (c : ChatService) (message : String) (history : List ChatTurn) :
    c.Whole message 0 (c.opening message history) := by
  refine ⟨sanitizeHistory c.historyMaxMessages history, [], rfl, fun m hm => ?_, fun hlimit => ?_,
    fun r hr => absurd hr List.not_mem_nil, rfl⟩
  · obtain ⟨turn, -, hturn⟩ := List.mem_filterMap.mp hm
    dsimp only at hturn
    split at hturn
    · rename_i hkept
      exact ⟨_, _, (Option.some.inj hturn).symm, hkept.1, hkept.2⟩
    · cases hturn
  · refine Nat.le_trans (List.length_filterMap_le _ _) ?_
    rw [lastTurns, if_neg hlimit, List.length_drop]
    omega

/-- One more round. -/
theorem Whole.round {messages messages' : List Message} (h : c.Whole message rounds messages)
    (hround : IsRound c.loads messages') :
    c.Whole message (rounds + 1) (messages ++ messages') := by
  obtain ⟨past, rs, rfl, hpast, hlimit, hrounds, rfl⟩ := h
  refine ⟨past, rs ++ [messages'], ?_, hpast, hlimit, fun r hr => ?_, ?_⟩
  · simp
  · rcases List.mem_append.mp hr with hold | hnew
    · exact hrounds r hold
    · rwa [List.mem_singleton.mp hnew]
  · rw [List.length_append, List.length_singleton]

/-! ## Section 2: Requests -/

theorem completeFrom_le (llm : GroqClient) (payload : Payload) (n left : ℕ) :
    (llm.completeFrom payload n left).2 ≤ left + 1 := by
  induction left generalizing n with
  | zero => exact Nat.le_refl 1
  | succ left ih =>
    unfold GroqClient.completeFrom
    split
    · exact Nat.succ_le_succ (ih (n + 1))
    · exact Nat.succ_le_succ (Nat.zero_le _)

/-- How often a completion is sent. -/
theorem chatCompletion_le (llm : GroqClient) (payload : Payload) :
    (llm.chatCompletion payload).2 ≤ llm.maxRetries + 1 := by
  unfold GroqClient.chatCompletion
  split
  · exact completeFrom_le llm payload 0 _
  · exact Nat.zero_le _

theorem sent_start (c : ChatService) (message : String) (messages : List Message) :
    c.Sent message 0 { messages := messages } where
  whole p hp := by cases hp
  growing := List.Pairwise.nil
  before p hp := by cases hp
  length_le := Nat.zero_le _

/-- Another completion of the conversation as it is. -/
theorem Sent.complete (h : c.Sent message rounds t) (hwhole : c.Whole message rounds t.messages)
    (hle : rounds ≤ c.maxToolIterations) {allowTools : Bool}
    (htools : allowTools = true ↔ rounds < c.maxToolIterations) :
    c.Sent message (rounds + 1) (c.complete t allowTools).1 := by
  have hsent : ∀ p, p ∈ (c.complete t allowTools).1.sent →
      p ∈ t.sent ∨ p = ⟨t.messages, allowTools⟩ := by
    intro p hp
    rcases List.mem_append.mp hp with hold | hnew
    · exact .inl hold
    · exact .inr (List.eq_of_mem_replicate hnew)
  refine ⟨fun p hp => ?_, ?_, fun p hp => ?_, ?_⟩
  · rcases hsent p hp with hold | rfl
    · obtain ⟨k, hk, hrest⟩ := h.whole p hold
      exact ⟨k, Nat.lt_succ_of_lt hk, hrest⟩
    · exact ⟨rounds, Nat.lt_succ_self _, hle, hwhole, htools⟩
  · refine List.pairwise_append.mpr ⟨h.growing, ?_, fun p hp p' hp' => ?_⟩
    · exact List.pairwise_replicate.mpr (.inr (List.prefix_refl _))
    · rw [List.eq_of_mem_replicate hp']
      exact h.before p hp
  · rcases hsent p hp with hold | rfl
    · exact h.before p hold
    · exact List.prefix_refl _
  · show (t.sent ++ List.replicate _ _).length ≤ _
    rw [List.length_append, List.length_replicate, Nat.succ_mul]
    exact Nat.add_le_add h.length_le (chatCompletion_le _ _)

/-- The conversation goes on, and nothing is sent. -/
theorem Sent.append (h : c.Sent message rounds t) {t' : Turn} (hsent : t'.sent = t.sent)
    (hmessages : t.messages <+: t'.messages) : c.Sent message rounds t' where
  whole := by
    rw [hsent]
    exact h.whole
  growing := by
    rw [hsent]
    exact h.growing
  before := by
    rw [hsent]
    exact fun p hp => (h.before p hp).trans hmessages
  length_le := by
    rw [hsent]
    exact h.length_le

theorem Sent.requests (h : c.Sent message rounds t) (hle : rounds ≤ c.maxToolIterations + 1) :
    c.Requests message t.sent where
  whole p hp := by
    obtain ⟨k, -, hk, hrest⟩ := h.whole p hp
    exact ⟨k, hk, hrest⟩
  growing := h.growing
  length_le := Nat.le_trans h.length_le (Nat.mul_le_mul_right _ hle)

/-! ## Section 3: Rounds -/

section Rounds

variable [PyRepr]

/-- A call that does not raise adds the message that answers it. -/
theorem answerCall_messages {call : Json} {t' : Turn} (h : c.answerCall t call = .ok t') :
    (∃ m, Answers c.loads call m ∧ t'.messages = t.messages ++ [m]) ∧ t'.sent = t.sent := by
  unfold answerCall at h
  obtain ⟨fields, hfields, h⟩ := bind_eq_ok.mp h
  obtain ⟨⟨name, arguments⟩, hparse, h⟩ := bind_eq_ok.mp h
  obtain ⟨outcome, -, h⟩ := bind_eq_ok.mp h
  cases h
  have hcall : call = .obj fields := by
    cases call with
    | obj fields' =>
      cases hfields
      rfl
    | _ => cases hfields
  exact ⟨⟨_, ⟨fields, name, arguments, outcome.content, hcall, hparse, rfl⟩, rfl⟩, rfl⟩

/-- Up to a call that raises, each call is answered once, in the order of the calls. -/
theorem answerCalls_messages (calls : List Json) (t : Turn) :
    (c.answerCalls calls t).1.sent = t.sent ∧
      ∃ answers, (c.answerCalls calls t).1.messages = t.messages ++ answers ∧
        ((c.answerCalls calls t).2 = none → List.Forall₂ (Answers c.loads) calls answers) := by
  induction calls generalizing t with
  | nil => exact ⟨rfl, [], (List.append_nil _).symm, fun _ => .nil⟩
  | cons call calls ih =>
    unfold answerCalls
    split
    · rename_i t' hcall
      obtain ⟨⟨m, hm, hmessages⟩, hsent⟩ := answerCall_messages hcall
      obtain ⟨hrest, answers, hanswers, hall⟩ := ih t'
      refine ⟨hrest.trans hsent, m :: answers, ?_, fun hnone => .cons hm (hall hnone)⟩
      rw [hanswers, hmessages, List.append_assoc, List.singleton_append]
    · exact ⟨rfl, [], (List.append_nil _).symm, fun hnone => by cases hnone⟩

/-- From any round on. -/
theorem rounds_requests {left : ℕ} (hleft : rounds + left = c.maxToolIterations)
    (hsent : c.Sent message rounds t) (hwhole : c.Whole message rounds t.messages) :
    c.Requests message (c.rounds left t).1.sent := by
  induction left generalizing rounds t with
  | zero =>
    have hdone : rounds = c.maxToolIterations := hleft
    have hsentLast : c.Sent message (rounds + 1) (c.complete t false).1 :=
      hsent.complete hwhole (Nat.le_of_eq hdone) (by simp [hdone])
    have hlast := hsentLast.requests (Nat.succ_le_succ (Nat.le_of_eq hdone))
    unfold ChatService.rounds
    split <;> rename_i heq <;> rw [heq] at hlast <;> exact hlast
  | succ left ih =>
    have hlt : rounds < c.maxToolIterations := by omega
    have hmore : c.Sent message (rounds + 1) (c.complete t true).1 :=
      hsent.complete hwhole (Nat.le_of_lt hlt) (by simp [hlt])
    have hle : rounds + 1 ≤ c.maxToolIterations + 1 := Nat.succ_le_succ (Nat.le_of_lt hlt)
    have hmessages : (c.complete t true).1.messages = t.messages := rfl
    unfold ChatService.rounds
    split
    · rename_i heq
      rw [heq] at hmore
      exact hmore.requests hle
    · rename_i t₁ reply heq
      rw [heq] at hmore hmessages
      dsimp only
      split
      · rename_i htruthy
        have hasked : c.Sent message (rounds + 1) (t₁.echo reply) :=
          hmore.append rfl (List.prefix_append _ _)
        split
        · exact hasked.requests hle
        · rename_i calls hcalls
          -- the calls of this round
          have hround := answerCalls_messages (c := c) calls (t₁.echo reply)
          split <;> rename_i heq₂ <;> rw [heq₂] at hround
          · obtain ⟨hkept, answers, hanswers, hall⟩ := hround
            refine ih (by omega) (hasked.append hkept (hanswers ▸ List.prefix_append _ _)) ?_
            rw [hanswers, Turn.echo, List.append_assoc, hmessages]
            exact hwhole.round ⟨_, _, calls, answers, rfl, htruthy, hcalls, hall rfl⟩
          · obtain ⟨hkept, answers, hanswers, -⟩ := hround
            exact (hasked.append hkept (hanswers ▸ List.prefix_append _ _)).requests hle
      · exact hmore.requests hle
    · rename_i heq
      rw [heq] at hmore
      exact hmore.requests hle

end Rounds

end ChatService

end AyushOms.Chat
