import AyushOms.Auth.Service
import AyushOms.Clients.Errors

/-!
# The Chat Assistant

`ChatService.answer`: a question goes to a language model, which may ask for tools. Each tool call
is executed by `ToolRunner` under the permissions of the user, its outcome goes back to the model,
and the model's last text becomes the answer.

What the provider answers to a request may depend on all that the request says; what a tool finds
may depend on when it is run. `Turn` holds the local variables of `answer`, and beside them what
has been sent to the provider and what the tools have come to.
-/

namespace AyushOms.Chat

open AyushOms.Lib AyushOms.Auth AyushOms.Clients

/-! ## Section 1: The provider -/

/-- A message of the conversation. The content of a tool message is kept as the object whose text
is sent. -/
inductive Message where
  | text (role content : String)
  | toolCalls (content calls : Json)
  | tool (toolCallId name : Json) (content : Dict)

/-- What a request to the provider says that differs from one to the next. -/
structure Payload where
  messages : List Message
  allowTools : Bool

/-- `ChatLLMError`, `LLMNotConfigured`, or an exception of another kind. -/
inductive LLMError where
  | chat (message : String) (retryable : Bool)
  | notConfigured
  | other (exception : PyException)

/-- `GroqClient`, with what the provider answers when a request is sent for the time `n`, from zero
on. -/
structure GroqClient where
  configured : Bool
  model : String
  maxRetries : ℕ := 3
  post : Payload → ℕ → HttpReply

/-- `choices[0]["message"]` of a body. -/
def firstMessage (body : Json) : Except LLMError Json :=
  match body with
  | .obj fields =>
    let choices := Dict.get fields "choices"
    if choices.truthy then
      match choices with
      | .arr (.obj first :: _) => (Dict.item first "message").mapError .other
      | .obj _ => .error (.other (.keyError "0"))
      | _ => .error (.other wrongType)
    else .error (.chat "The AI service returned an empty response." false)
  | _ => .error (.other wrongType)

/-- `_attempt`. -/
def attempt : HttpReply → Except LLMError Json
  | .timeout => .error (.chat "The AI service timed out." true)
  | .network _ => .error (.chat "Could not reach the AI service." true)
  | .raised exception => .error (.other exception)
  | .response status body =>
    if status = 401 then .error (.chat "The AI service rejected the API credentials." false)
    else if status = 429 then .error (.chat "The AI service is rate-limiting requests." true)
    else if 500 ≤ status then .error (.chat "The AI service is temporarily unavailable." true)
    else if 400 ≤ status then .error (.chat "The AI service could not process the request." false)
    else
      match body with
      | some body => firstMessage body
      | none => .error (.other notJson)

namespace GroqClient

/-- `chat_completion` from an attempt on, with `left` retries left: what it comes to, and how often
it sends the request. -/
def completeFrom (llm : GroqClient) (payload : Payload) (n : ℕ) : ℕ → Except LLMError Json × ℕ
  | 0 => (attempt (llm.post payload n), 1)
  | left + 1 =>
    match attempt (llm.post payload n) with
    | .error (.chat _ true) =>
      let rest := llm.completeFrom payload (n + 1) left
      (rest.1, rest.2 + 1)
    | result => (result, 1)

/-- `chat_completion`. -/
def chatCompletion (llm : GroqClient) (payload : Payload) : Except LLMError Json × ℕ :=
  if llm.configured then llm.completeFrom payload 0 llm.maxRetries else (.error .notConfigured, 0)

end GroqClient

/-! ## Section 2: Tools -/

/-- `_TOOL_PERMISSIONS`. -/
def toolPermissions : List (String × List String) :=
  [("get_operations_summary", ["analytics.read"]),
    ("get_orders_breakdown", ["analytics.read"]),
    ("get_top_products", ["analytics.read"]),
    ("get_courier_performance", ["analytics.read"]),
    ("get_orders_timeseries", ["analytics.read"]),
    ("compare_periods", ["analytics.read"]),
    ("list_orders", ["orders.read"]),
    ("get_data_freshness", ["analytics.read", "integrations.read", "sync_jobs.read"])]

/-- `ToolOutcome`. -/
structure ToolOutcome where
  name : Json
  ok : Bool
  content : Dict
  sources : List String := []
  data : Option Dict := none
  errorCode : Option String := none

/-- How the handler of a tool ends: with `_ok`, with `_fail`, or with an exception. -/
inductive HandlerResult where
  | ok (payload : Dict) (sources : List String)
  | fail (code message : String)
  | dateRangeError (text : String)
  | raised

/-- What the handlers find: when so many tool calls are over, for a tool and its arguments. -/
abbrev Handlers := ℕ → String → Dict → HandlerResult

/-- `_authorized`, for the permissions of one tool. -/
def holdsAny (user : CurrentUser) (allowed : List String) : Bool :=
  user.user.isSuperuser || allowed.any fun code => user.permissionCodes.contains code

/-- There is such a tool, and the user may use it. -/
def Permitted (user : CurrentUser) (name : String) : Prop :=
  ∃ allowed ∈ toolPermissions.lookup name, holdsAny user allowed = true

instance (user : CurrentUser) (name : String) : Decidable (Permitted user name) :=
  inferInstanceAs (Decidable (∃ allowed ∈ toolPermissions.lookup name, _))

/-- `_ok`. -/
def okOutcome (name : String) (payload : Dict) (sources : List String) : ToolOutcome where
  name := .str name
  ok := true
  content := payload.foldl (fun body field => Dict.set body field.1 field.2)
    [("ok", .bool true), ("tool", .str name), ("sources", .arr (sources.map .str))]
  sources := sources
  data := some payload

/-- `_fail`. -/
def failOutcome (name : Json) (code message : String) : ToolOutcome where
  name := name
  ok := false
  content := [("ok", .bool false), ("tool", name), ("error", .str code), ("message", .str message)]
  errorCode := some code

/-- The outcome of a handler's run. -/
def handled (name : String) : HandlerResult → ToolOutcome
  | .ok payload sources => okOutcome name payload sources
  | .fail code message => failOutcome (.str name) code message
  | .dateRangeError text => failOutcome (.str name) "bad_date_range" text
  | .raised => failOutcome (.str name) "tool_error"
      "The OMS returned an error while retrieving that data."

/-- `ToolRunner.run`. -/
def runTool [PyRepr] (user : CurrentUser) (handlers : Handlers) (n : ℕ) (name : Json)
    (arguments : Dict) : Except PyException ToolOutcome :=
  let unknown := failOutcome name "unknown_tool" ("No such tool: " ++ pyStr name ++ ".")
  match name with
  | .arr _ | .obj _ => .error wrongType
  | .str text =>
    match toolPermissions.lookup text with
    | none => .ok unknown
    | some allowed =>
      if holdsAny user allowed then .ok (handled text (handlers n text arguments))
      else .ok (failOutcome name "not_authorized"
        "You don't have permission to view this information in the OMS.")
  | _ => .ok unknown

/-! ## Section 3: One turn of the user -/

/-- `ChatTurn`. -/
structure ChatTurn where
  role : String
  content : String

/-- `history[-limit:]`, which is all of it for zero. -/
def lastTurns (limit : ℕ) (history : List ChatTurn) : List ChatTurn :=
  if limit = 0 then history else history.drop (history.length - limit)

/-- `_sanitize_history`. -/
def sanitizeHistory (limit : ℕ) (history : List ChatTurn) : List Message :=
  (lastTurns limit history).filterMap fun turn =>
    let content := pyStrip turn.content
    if (turn.role = "user" ∨ turn.role = "assistant") ∧ content ≠ "" then
      some (.text turn.role content)
    else none

/-- `_parse_tool_call`; `loads` is `json.loads` of a text. -/
def parseToolCall (loads : String → Option Json) (call : Dict) :
    Except PyException (Json × Dict) := do
  let fn ← (Dict.get call "function").dictOr
  let name := (Dict.get fn "name").orElse (.str "")
  match Dict.get fn "arguments" with
  | .obj arguments => return (name, arguments)
  | .str text =>
    match loads text with
    | some (.obj arguments) => return (name, arguments)
    | _ => return (name, [])
  | _ => return (name, [])

/-- `ChatResult`. -/
structure ChatResult where
  answer : String
  ok : Bool
  toolsUsed : List Json := []
  sources : List String := []
  data : Dict := []
  partially : Bool := false
  errorCode : Option String := none
  model : Option String := none
  iterations : ℕ := 0

/-- `ChatService`, with the settings it reads, its provider and its tools. -/
structure ChatService where
  enabled : Bool := true
  maxToolIterations : ℕ := 6
  historyMaxMessages : ℕ := 20
  systemPrompt : String
  llm : GroqClient
  user : CurrentUser
  handlers : Handlers
  loads : String → Option Json

/-- The local variables of `answer`, what has been sent to the provider and how the tool calls
have come out. -/
structure Turn where
  messages : List Message
  toolsUsed : List Json := []
  sources : List String := []
  toolData : Dict := []
  anyToolAttempted : Bool := false
  anyToolOk : Bool := false
  anyToolFailed : Bool := false
  sent : List Payload := []
  outcomes : List ToolOutcome := []

/-- How the loop of `answer` ends. -/
inductive Ended where
  | replied (text : String) (iterations : ℕ)
  | failed (error : LLMError)
  | raised (exception : PyException)

/-- `_COULD_NOT_RETRIEVE`. -/
def couldNotRetrieve : String :=
  "I couldn't retrieve the required OMS data right now. Please try again " ++
    "in a moment — if it keeps failing, the Shopify/Shiprocket sync or the " ++
    "AI service may be temporarily unavailable."

/-- `_NOT_CONFIGURED`. -/
def notConfiguredText : String :=
  "The OMS AI Assistant isn't configured yet — an administrator needs to " ++
    "set the AI service API key. No data has been changed."

/-- The answer to an empty text of the model. -/
def noAnswer : String :=
  "I don't have an answer for that. Try rephrasing, or ask about " ++
    "orders, revenue, payments, shipments, NDR/RTO, returns, " ++
    "products or courier performance for a given period."

namespace Turn

/-- The next sources, each one once. -/
def addSources (known sources : List String) : List String :=
  sources.foldl (fun known source => if source ∈ known then known else known ++ [source]) known

/-- `_assistant_tool_call_msg`, for the tool calls of the reply. -/
def assistantToolCallMsg (reply : Dict) : Message :=
  .toolCalls ((Dict.get reply "content").orElse (.str "")) (Dict.get reply "tool_calls")

/-- A reply with tool calls is echoed. -/
def echo (t : Turn) (reply : Dict) : Turn :=
  { t with messages := t.messages ++ [assistantToolCallMsg reply] }

/-- A tool call is over: what the loop keeps of its outcome. -/
def record (t : Turn) (call : Dict) (name : Json) (outcome : ToolOutcome) : Turn :=
  { t with
    messages := t.messages ++ [.tool ((Dict.get call "id").orElse name) name outcome.content]
    toolsUsed := t.toolsUsed ++ [name]
    sources := if outcome.ok then addSources t.sources outcome.sources else t.sources
    toolData :=
      match outcome.ok, name, outcome.data with
      -- a tool that has answered has a text for a name
      | true, .str key, some data => Dict.set t.toolData key (.obj data)
      | _, _, _ => t.toolData
    anyToolAttempted := true
    anyToolOk := t.anyToolOk || outcome.ok
    anyToolFailed := t.anyToolFailed || !outcome.ok
    outcomes := t.outcomes ++ [outcome] }

/-- The payload has been sent a number of times. -/
def posted (t : Turn) (payload : Payload) (times : ℕ) : Turn :=
  { t with sent := t.sent ++ List.replicate times payload }

end Turn

namespace ChatService

variable (c : ChatService)

/-- The body of the loop over the tool calls of a reply. -/
def answerCall [PyRepr] (t : Turn) (call : Json) : Except PyException Turn := do
  let fields ← call.dict
  let (name, arguments) ← parseToolCall c.loads fields
  let outcome ← runTool c.user c.handlers t.outcomes.length name arguments
  return t.record fields name outcome

/-- That loop, up to a call that raises. -/
def answerCalls [PyRepr] : List Json → Turn → Turn × Option PyException
  | [], t => (t, none)
  | call :: calls, t =>
    match c.answerCall t call with
    | .ok t' => answerCalls calls t'
    | .error exception => (t, some exception)

/-- `_complete`. -/
def complete (t : Turn) (allowTools : Bool) : Turn × Except LLMError Json :=
  let payload : Payload := ⟨t.messages, allowTools⟩
  let completion := c.llm.chatCompletion payload
  (t.posted payload completion.2, completion.1)

/-- The text of a reply without tool calls: `(reply.get("content") or "").strip()`. -/
def finalText (reply : Dict) (iterations : ℕ) : Ended :=
  match (Dict.get reply "content").textOr with
  | .ok text => .replied (pyStrip text) iterations
  | .error exception => .raised exception

/-- The loop of `answer`, with `left` rounds left. -/
def rounds [PyRepr] : ℕ → Turn → Turn × Ended
  | 0, t =>
    match c.complete t false with
    | (t, .error error) => (t, .failed error)
    | (t, .ok (.obj reply)) => (t, finalText reply c.maxToolIterations)
    | (t, .ok _) => (t, .raised wrongType)
  | left + 1, t =>
    match c.complete t true with
    | (t, .error error) => (t, .failed error)
    | (t, .ok (.obj reply)) =>
      let toolCalls := Dict.get reply "tool_calls"
      if toolCalls.truthy then
        match toolCalls.iterate with
        | .error exception => (t.echo reply, .raised exception)
        | .ok calls =>
          match c.answerCalls calls (t.echo reply) with
          | (t, none) => rounds left t
          | (t, some exception) => (t, .raised exception)
      else (t, finalText reply (c.maxToolIterations - left))
    | (t, .ok _) => (t, .raised wrongType)

/-- `_finalize`. -/
def finalize (t : Turn) (text : String) (iterations : ℕ) : ChatResult :=
  if t.anyToolAttempted = true ∧ t.anyToolOk = false then
    { answer := couldNotRetrieve
      ok := false
      toolsUsed := t.toolsUsed
      sources := t.sources
      data := t.toolData
      errorCode := some "all_tools_failed"
      model := some c.llm.model
      iterations := iterations }
  else
    { answer := if pyFalsy text then noAnswer else text
      ok := true
      toolsUsed := t.toolsUsed
      sources := t.sources
      data := t.toolData
      partially := t.anyToolOk && t.anyToolFailed
      model := some c.llm.model
      iterations := iterations }

/-- The messages before the first reply. -/
def opening (message : String) (history : List ChatTurn) : List Message :=
  .text "system" c.systemPrompt :: sanitizeHistory c.historyMaxMessages history ++
    [.text "user" (pyStrip message)]

/-- The result for an assistant that is switched off or has no key. -/
def notConfigured : ChatResult where
  answer := notConfiguredText
  ok := false
  errorCode := some "not_configured"

/-- What `answer` makes of the end of its loop. -/
def conclude (t : Turn) : Ended → Except PyException ChatResult
  | .replied text iterations => .ok (c.finalize t text iterations)
  | .failed .notConfigured => .ok notConfigured
  | .failed (.chat message _) => .ok
      { answer := if t.anyToolOk = false then couldNotRetrieve else message
        ok := false
        toolsUsed := t.toolsUsed
        sources := t.sources
        data := t.toolData
        partially := t.anyToolOk
        errorCode := some "llm_error"
        model := some c.llm.model }
  | .failed (.other exception) => .error exception
  | .raised exception => .error exception

/-- `answer`, with the turn as it was left. -/
def answer [PyRepr] (message : String) (history : List ChatTurn) :
    Turn × Except PyException ChatResult :=
  if c.enabled = false ∨ c.llm.configured = false then ({ messages := [] }, .ok notConfigured)
  else
    let ended := c.rounds c.maxToolIterations { messages := c.opening message history }
    (ended.1, c.conclude ended.1 ended.2)

end ChatService

end AyushOms.Chat
