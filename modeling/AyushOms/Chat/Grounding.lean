import AyushOms.Chat.Conversations

/-!
# What an Answer Rests On

The model's text is shipped as an answer only when its tool calls, if it made any, have brought
something. Here: what an answer says of itself is what the tool calls of its turn have come to; all
its data come from tools that the user may use; and what the other tools would have found has no
effect on anything in the turn.

## Main results

- `answer_grounded`: a result and the outcomes of its turn
- `answer_unaffected`: tools that the user may not use have no effect
-/

namespace AyushOms.Chat

open AyushOms.Lib AyushOms.Auth AyushOms.Clients

/-! ## Section 1: The outcome of a tool call -/

/-- A tool call has succeeded: the user may use the tool, and its handler has answered. -/
def Succeeded (c : ChatService) (outcome : ToolOutcome) : Prop :=
  ∃ n name arguments payload sources, Permitted c.user name ∧
    c.handlers n name arguments = .ok payload sources ∧
    outcome = okOutcome name payload sources

/-- An outcome is a failure, or a handler's answer. -/
theorem runTool_ok [PyRepr] {c : ChatService} {n : ℕ} {name : Json} {arguments : Dict}
    {outcome : ToolOutcome} (h : runTool c.user c.handlers n name arguments = .ok outcome) :
    outcome.name = name ∧ (outcome.ok = true → Succeeded c outcome) := by
  unfold runTool at h
  split at h
  · cases h
  · cases h
  · rename_i text
    split at h
    · cases h
      exact ⟨rfl, fun hok => by cases hok⟩
    · rename_i allowed hlookup
      split at h
      · rename_i hholds
        cases h
        cases hresult : c.handlers n text arguments with
        | ok payload sources =>
          exact ⟨rfl, fun _ => ⟨n, text, arguments, payload, sources, ⟨allowed, hlookup, hholds⟩,
            hresult, rfl⟩⟩
        | fail code text | dateRangeError text | raised =>
          exact ⟨rfl, fun hok => by cases hok⟩
      · cases h
        exact ⟨rfl, fun hok => by cases hok⟩
  · cases h
    exact ⟨rfl, fun hok => by cases hok⟩

theorem mem_addSources {known sources : List String} {source : String} :
    source ∈ Turn.addSources known sources ↔ source ∈ known ∨ source ∈ sources := by
  induction sources generalizing known with
  | nil => simp [Turn.addSources]
  | cons s sources ih =>
    show source ∈ Turn.addSources (if s ∈ known then known else known ++ [s]) sources ↔ _
    rw [ih]
    split
    · rename_i hknown
      constructor
      · rintro (h | h)
        · exact .inl h
        · exact .inr (List.mem_cons_of_mem _ h)
      · rintro (h | h)
        · exact .inl h
        · rcases List.mem_cons.mp h with rfl | h
          · exact .inl hknown
          · exact .inr h
    · simp only [List.mem_append, List.mem_cons]
      tauto

/-- A field after a field is set is the new one or an old one. -/
theorem mem_set {raw : Dict} {key : String} {value : Json} {field : String × Json}
    (h : field ∈ Dict.set raw key value) : field = (key, value) ∨ field ∈ raw := by
  unfold Dict.set at h
  split at h
  · obtain ⟨old, hold, heq⟩ := List.mem_map.mp h
    split at heq
    · exact .inl heq.symm
    · exact .inr (heq ▸ hold)
  · rcases List.mem_append.mp h with hold | hnew
    · exact .inr hold
    · exact .inl (List.mem_singleton.mp hnew)

/-! ## Section 2: The variables of a turn -/

/-- What the variables of a turn say of the outcomes of its tool calls. -/
structure Kept (c : ChatService) (t : Turn) : Prop where
  attempted : t.anyToolAttempted = true ↔ t.outcomes ≠ []
  anyOk : t.anyToolOk = true ↔ ∃ o ∈ t.outcomes, o.ok = true
  anyFailed : t.anyToolFailed = true ↔ ∃ o ∈ t.outcomes, o.ok = false
  used : t.toolsUsed = t.outcomes.map ToolOutcome.name
  succeeded : ∀ o ∈ t.outcomes, o.ok = true → Succeeded c o
  sources : ∀ source, source ∈ t.sources ↔ ∃ o ∈ t.outcomes, o.ok = true ∧ source ∈ o.sources
  data : ∀ field ∈ t.toolData, ∃ o ∈ t.outcomes, o.ok = true ∧ o.name = .str field.1 ∧
    ∃ payload ∈ o.data, field.2 = .obj payload

variable {c : ChatService} {t : Turn}

theorem kept_start (c : ChatService) (messages : List Message) :
    Kept c { messages := messages } where
  attempted := by simp
  anyOk := by simp
  anyFailed := by simp
  used := rfl
  succeeded o ho := by cases ho
  sources source := by simp
  data field hfield := by cases hfield

theorem Kept.record (h : Kept c t) (call : Dict) {name : Json} {outcome : ToolOutcome}
    (hname : outcome.name = name) (hok : outcome.ok = true → Succeeded c outcome) :
    Kept c (t.record call name outcome) where
  attempted := by simp [Turn.record]
  anyOk := by
    show (t.anyToolOk || outcome.ok) = true ↔ ∃ o ∈ t.outcomes ++ [outcome], _
    rw [Bool.or_eq_true, h.anyOk]
    simp only [List.mem_append, List.mem_singleton, or_and_right, exists_or, exists_eq_left]
  anyFailed := by
    show (t.anyToolFailed || !outcome.ok) = true ↔ ∃ o ∈ t.outcomes ++ [outcome], _
    rw [Bool.or_eq_true, h.anyFailed, Bool.not_eq_true']
    simp only [List.mem_append, List.mem_singleton, or_and_right, exists_or, exists_eq_left]
  used := by
    show t.toolsUsed ++ [name] = (t.outcomes ++ [outcome]).map _
    rw [h.used, List.map_append, List.map_singleton, hname]
  succeeded o ho := by
    rcases List.mem_append.mp ho with hold | hnew
    · exact h.succeeded o hold
    · rw [List.mem_singleton.mp hnew]
      exact hok
  sources source := by
    show source ∈ (if outcome.ok then _ else _) ↔ ∃ o ∈ t.outcomes ++ [outcome], _
    simp only [List.mem_append, List.mem_singleton, or_and_right, exists_or, exists_eq_left]
    rw [← h.sources]
    split
    · rename_i hok
      rw [mem_addSources]
      simp [hok]
    · rename_i hfailed
      simp [hfailed]
  data field hfield := by
    have hold : field ∈ t.toolData → ∃ o ∈ t.outcomes ++ [outcome], o.ok = true ∧
        o.name = .str field.1 ∧ ∃ payload ∈ o.data, field.2 = .obj payload := fun hfield => by
      obtain ⟨o, ho, hrest⟩ := h.data field hfield
      exact ⟨o, List.mem_append_left _ ho, hrest⟩
    simp only [Turn.record] at hfield
    split at hfield
    · rename_i key data houtcome hdata
      rcases mem_set hfield with rfl | hbefore
      · exact ⟨outcome, List.mem_append_right _ List.mem_cons_self, houtcome, hname, data, hdata,
          rfl⟩
      · exact hold hbefore
    · exact hold hfield

/-- The messages and the requests are no matter. -/
theorem Kept.congr (h : Kept c t) (messages : List Message) (sent : List Payload) :
    Kept c { t with messages := messages, sent := sent } :=
  ⟨h.attempted, h.anyOk, h.anyFailed, h.used, h.succeeded, h.sources, h.data⟩

namespace ChatService

section Rounds

variable [PyRepr]

theorem kept_answerCalls (calls : List Json) (h : Kept c t) :
    Kept c (c.answerCalls calls t).1 := by
  induction calls generalizing t with
  | nil => exact h
  | cons call calls ih =>
    unfold answerCalls
    split
    · rename_i t' hcall
      refine ih ?_
      unfold answerCall at hcall
      obtain ⟨fields, -, hcall⟩ := bind_eq_ok.mp hcall
      obtain ⟨⟨name, arguments⟩, -, hcall⟩ := bind_eq_ok.mp hcall
      obtain ⟨outcome, houtcome, hcall⟩ := bind_eq_ok.mp hcall
      cases hcall
      obtain ⟨hname, hok⟩ := runTool_ok houtcome
      exact h.record fields hname hok
    · exact h

theorem kept_rounds (left : ℕ) (h : Kept c t) : Kept c (c.rounds left t).1 := by
  have hcomplete : ∀ {t : Turn} (allowTools : Bool), Kept c t →
      Kept c (c.complete t allowTools).1 :=
    fun _ h => h.congr _ _
  induction left generalizing t with
  | zero =>
    have hposted := hcomplete false h
    unfold rounds
    split <;> rename_i heq <;> rw [heq] at hposted <;> exact hposted
  | succ left ih =>
    have hposted := hcomplete true h
    unfold rounds
    split <;> rename_i heq <;> rw [heq] at hposted
    · exact hposted
    · dsimp only
      split
      · split
        · exact hposted.congr _ _
        · rename_i t₁ reply _ _ calls _
          have hecho : Kept c (t₁.echo reply) := hposted.congr _ _
          have hcalls := kept_answerCalls calls hecho
          split <;> rename_i heq <;> rw [heq] at hcalls
          · exact ih hcalls
          · exact hcalls
      · exact hposted
    · exact hposted

end Rounds

/-! ## Section 3: Results -/

theorem firstMessage_ne (body : Json) : firstMessage body ≠ .error .notConfigured := by
  intro h
  unfold firstMessage at h
  split at h
  · dsimp only at h
    split at h
    · split at h
      · cases hmessage : Dict.item _ "message" with
        | ok message =>
          rw [hmessage] at h
          cases h
        | error exception =>
          rw [hmessage] at h
          cases h
      · cases h
      · cases h
    · cases h
  · cases h

theorem attempt_ne (reply : HttpReply) : attempt reply ≠ .error .notConfigured := by
  intro h
  cases reply with
  | timeout | network _ | raised _ => cases h
  | response status body =>
    simp only [attempt] at h
    repeat' split at h
    all_goals first | exact firstMessage_ne _ h | cases h

theorem completeFrom_ne (llm : GroqClient) (payload : Payload) (n left : ℕ) :
    (llm.completeFrom payload n left).1 ≠ .error .notConfigured := by
  induction left generalizing n with
  | zero => exact attempt_ne _
  | succ left ih =>
    unfold GroqClient.completeFrom
    split
    · exact ih (n + 1)
    · exact attempt_ne _

/-- A client that is configured stays so. -/
theorem complete_ne (hconfigured : c.llm.configured = true) (t : Turn) (allowTools : Bool) :
    (c.complete t allowTools).2 ≠ .error .notConfigured := by
  show (c.llm.chatCompletion _).1 ≠ _
  rw [GroqClient.chatCompletion, if_pos hconfigured]
  exact completeFrom_ne _ _ _ _

theorem finalText_ne (reply : Dict) (iterations : ℕ) :
    finalText reply iterations ≠ .failed .notConfigured := by
  unfold finalText
  split <;> exact Ended.noConfusion

theorem rounds_ne [PyRepr] (hconfigured : c.llm.configured = true) (left : ℕ) (t : Turn) :
    (c.rounds left t).2 ≠ .failed .notConfigured := by
  have hfailed : ∀ {t t' : Turn} {allowTools : Bool} {error : LLMError},
      c.complete t allowTools = (t', .error error) →
        Ended.failed error ≠ .failed .notConfigured := by
    rintro t t' allowTools error heq hsame
    cases hsame
    exact complete_ne hconfigured t allowTools (congrArg Prod.snd heq)
  induction left generalizing t with
  | zero =>
    unfold rounds
    split
    · exact hfailed ‹_›
    · exact finalText_ne _ _
    · exact Ended.noConfusion
  | succ left ih =>
    unfold rounds
    split
    · exact hfailed ‹_›
    · dsimp only
      split
      · split
        · exact Ended.noConfusion
        · split
          · exact ih _
          · exact Ended.noConfusion
      · exact finalText_ne _ _
    · exact Ended.noConfusion

/-- What a result says of the tool calls of its turn. -/
structure Reports (c : ChatService) (outcomes : List ToolOutcome) (r : ChatResult) : Prop where
  grounded : r.ok = true → outcomes = [] ∨ ∃ o ∈ outcomes, o.ok = true
  discarded : outcomes ≠ [] → (∀ o ∈ outcomes, o.ok = false) →
    r.ok = false ∧ r.answer = couldNotRetrieve ∧ r.data = [] ∧ r.sources = []
  partially_iff : r.ok = true →
    (r.partially = true ↔ (∃ o ∈ outcomes, o.ok = true) ∧ ∃ o ∈ outcomes, o.ok = false)
  used : r.toolsUsed = outcomes.map ToolOutcome.name
  succeeded : ∀ o ∈ outcomes, o.ok = true → Succeeded c o
  sources : ∀ source, source ∈ r.sources ↔ ∃ o ∈ outcomes, o.ok = true ∧ source ∈ o.sources
  data : ∀ field ∈ r.data, ∃ o ∈ outcomes, o.ok = true ∧ o.name = .str field.1 ∧
    ∃ payload ∈ o.data, field.2 = .obj payload

/-- Whatever the loop ends with, the variables of the turn are reported as they are. -/
theorem Kept.reports (h : Kept c t) {ended : Ended} (hended : ended ≠ .failed .notConfigured)
    {r : ChatResult} (hr : c.conclude t ended = .ok r) : Reports c t.outcomes r := by
  have hnone : (∀ o ∈ t.outcomes, o.ok = false) →
      t.anyToolOk = false ∧ t.toolData = [] ∧ t.sources = [] := by
    intro hall
    have hfailed : ¬ ∃ o ∈ t.outcomes, o.ok = true := by
      rintro ⟨o, ho, hok⟩
      rw [hall o ho] at hok
      cases hok
    refine ⟨Bool.not_eq_true _ ▸ fun hok => hfailed (h.anyOk.mp hok), ?_, ?_⟩
    · refine List.eq_nil_iff_forall_not_mem.mpr fun field hfield => ?_
      obtain ⟨o, ho, hok, -⟩ := h.data field hfield
      exact hfailed ⟨o, ho, hok⟩
    · refine List.eq_nil_iff_forall_not_mem.mpr fun source hsource => ?_
      obtain ⟨o, ho, hok, -⟩ := (h.sources source).mp hsource
      exact hfailed ⟨o, ho, hok⟩
  cases ended with
  | replied text iterations =>
    simp only [conclude, finalize] at hr
    split at hr
    · rename_i hfailed
      cases hr
      exact ⟨fun hok => (by cases hok), fun _ hall => ⟨rfl, rfl, (hnone hall).2⟩,
        fun hok => (by cases hok), h.used, h.succeeded, h.sources, h.data⟩
    · rename_i hfine
      cases hr
      refine ⟨fun _ => ?_, fun hne hall => ?_, fun _ => ?_, h.used, h.succeeded, h.sources, h.data⟩
      · by_cases hempty : t.outcomes = []
        · exact .inl hempty
        · refine .inr (h.anyOk.mp (Bool.not_eq_false _ ▸ fun hok => hfine ⟨?_, hok⟩))
          exact h.attempted.mpr hempty
      · exact absurd ⟨h.attempted.mpr hne, (hnone hall).1⟩ hfine
      · show (t.anyToolOk && t.anyToolFailed) = true ↔ _
        rw [Bool.and_eq_true, h.anyOk, h.anyFailed]
  | failed error =>
    cases error with
    | notConfigured => exact absurd rfl hended
    | other exception => cases hr
    | chat text retryable =>
      cases hr
      exact ⟨fun hok => (by cases hok),
        fun _ hall => ⟨rfl, if_pos (hnone hall).1, (hnone hall).2⟩,
        fun hok => (by cases hok), h.used, h.succeeded, h.sources, h.data⟩
  | raised exception => cases hr

/-- A result is an answer only if no tool was called or one has succeeded, says whether some have
failed, and holds what the tools that the user may use have answered. -/
theorem answer_grounded [PyRepr] (c : ChatService) (message : String) (history : List ChatTurn)
    {r : ChatResult} (hr : (c.answer message history).2 = .ok r) :
    Reports c (c.answer message history).1.outcomes r := by
  unfold answer at hr ⊢
  split
  · rename_i hoff
    rw [if_pos hoff] at hr
    cases hr
    exact ⟨fun hok => (by cases hok), fun hne => absurd rfl hne, fun hok => (by cases hok), rfl,
      fun o ho => (by cases ho), fun source => by simp [notConfigured], fun f hf => (by cases hf)⟩
  · rename_i hon
    rw [if_neg hon] at hr
    have hconfigured : c.llm.configured = true :=
      Bool.not_eq_false _ ▸ fun hoff => hon (.inr hoff)
    exact Kept.reports (kept_rounds _ (kept_start c _)) (rounds_ne hconfigured _ _) hr

/-- A user who may read orders, and nothing else. -/
def smallUser : CurrentUser where
  user := { id := 1, name := "A", email := "a@b", passwordHash := "" }
  roleNames := []
  permissionCodes := ["orders.read"]

/-- A call of a tool without arguments. -/
def smallCall (name : String) : Json :=
  .obj [("id", .str "1"), ("function", .obj [("name", .str name)])]

/-- The model asks for two tools, and then says something. -/
def smallReply (payload : Payload) : Json :=
  if payload.messages.length ≤ 2 then
    .obj [("tool_calls", .arr [smallCall "list_orders", smallCall "get_top_products"])]
  else .obj [("content", .str "Two orders today.")]

def smallChat : ChatService where
  systemPrompt := "You are the OMS AI Assistant."
  llm :=
    { configured := true
      model := "openai/gpt-oss-120b"
      post := fun payload _ => .response 200
        (some (.obj [("choices", .arr [.obj [("message", smallReply payload)]])])) }
  user := smallUser
  handlers _ _ _ := .ok [("total_matching", .int 2)] ["OMS database"]
  loads _ := none

theorem answer_grounded_small :
    Reports smallChat (smallChat.answer "How many orders today?" []).1.outcomes
      { answer := "Two orders today."
        ok := true
        toolsUsed := [.str "list_orders", .str "get_top_products"]
        sources := ["OMS database"]
        data := [("list_orders", .obj [("total_matching", .int 2)])]
        partially := true
        model := some "openai/gpt-oss-120b"
        iterations := 2 } :=
  answer_grounded smallChat "How many orders today?" [] (by rfl)

/-! ## Section 4: Tools that the user may not use -/

/-- The assistant with other tools behind it. -/
def withHandlers (c : ChatService) (handlers : Handlers) : ChatService :=
  { c with handlers := handlers }

variable {handlers : Handlers}

theorem runTool_congr [PyRepr] {user : CurrentUser} {handlers handlers' : Handlers}
    (h : ∀ name, Permitted user name → ∀ n arguments,
      handlers n name arguments = handlers' n name arguments)
    (n : ℕ) (name : Json) (arguments : Dict) :
    runTool user handlers n name arguments = runTool user handlers' n name arguments := by
  unfold runTool
  split
  · rfl
  · rfl
  · split
    · rfl
    · rename_i text _ allowed hlookup
      split
      · rename_i hholds
        rw [h text ⟨allowed, hlookup, hholds⟩]
      · rfl
  · rfl

section Unaffected

variable [PyRepr] (h : ∀ name, Permitted c.user name → ∀ n arguments,
  c.handlers n name arguments = handlers n name arguments)

include h

theorem answerCalls_congr (calls : List Json) (t : Turn) :
    (c.withHandlers handlers).answerCalls calls t = c.answerCalls calls t := by
  have hcall : ∀ t call, (c.withHandlers handlers).answerCall t call = c.answerCall t call := by
    intro t call
    unfold answerCall
    simp only [runTool_congr h]
    rfl
  induction calls generalizing t with
  | nil => rfl
  | cons call calls ih =>
    unfold answerCalls
    rw [hcall]
    split
    · exact ih _
    · rfl

theorem rounds_congr (left : ℕ) (t : Turn) :
    (c.withHandlers handlers).rounds left t = c.rounds left t := by
  induction left generalizing t with
  | zero => rfl
  | succ left ih =>
    unfold rounds
    simp only [answerCalls_congr h, ih]
    rfl

end Unaffected

/-- What the tools that the user may not use would find has no effect on the answer, on what is
sent to the provider, or on anything else of the turn. -/
theorem answer_unaffected [PyRepr] (c : ChatService) (handlers : Handlers)
    (h : ∀ name, Permitted c.user name → ∀ n arguments,
      c.handlers n name arguments = handlers n name arguments)
    (message : String) (history : List ChatTurn) :
    (c.withHandlers handlers).answer message history = c.answer message history := by
  unfold answer
  rw [rounds_congr h]
  rfl

/-- What the best-selling products are is nothing to a user who may read orders only. -/
theorem answer_unaffected_small :
    (smallChat.withHandlers fun _ name _ =>
      if name = "get_top_products" then .raised
      else .ok [("total_matching", .int 2)] ["OMS database"]).answer "How many orders today?" [] =
    smallChat.answer "How many orders today?" [] := by
  have hother : ¬ Permitted smallChat.user "get_top_products" := by decide
  refine answer_unaffected smallChat _ (fun name hname n arguments => ?_) _ _
  rw [if_neg]
  · rfl
  · rintro rfl
    exact hother hname

end ChatService

end AyushOms.Chat
