import AyushOms.Clients.Errors
import AyushOms.Lib.SingleFlight

/-!
# The Shopify Client

`ShopifyClient.execute` and `ShopifyTokenManager`, as any number of calls share one client. A call
runs from one `await` to the next without interruption; at each of them another call may go on,
time passes, and the call may be cancelled. What a call does is a function of the token cache and
of its own local variables.

`asyncio.Lock` is fair: a call that finds the lock taken, or others in line, goes to the end of
the line, and only the head of the line takes the lock once it is free. The body of a GraphQL
request is not looked at by this code and is left out.
-/

namespace AyushOms.Clients.Shopify

open AyushOms.Lib

/-! ## Section 1: What a reply means -/

/-- The body of a response that is no HTTP error: an error in it, or its data. -/
def readBody [PyRepr] (body : Json) : Except PyException (ApiError ⊕ Json) := do
  let fields ← body.dict
  let errors := Dict.get fields "errors"
  if errors.truthy then return .inl (← classifyGraphqlErrors errors)
  else return .inr (← Dict.item fields "data")

/-- The reply to a GraphQL request. -/
def judgePost [PyRepr] (renewable : Bool) : HttpReply → Verdict Raised Json
  | .timeout => judgeError renewable timeoutError
  | .network text => judgeError renewable (networkError text)
  | .raised exception => .stop (.other exception)
  | .response status body =>
    if isSuccess status then
      match body with
      | none => .stop (.other notJson)
      | some body =>
        match readBody body with
        | .error exception => .stop (.other exception)
        | .ok (.inl error) => judgeError renewable error
        | .ok (.inr data) => .done data
    else judgeError renewable (classifyHttpError status)

/-- What the token endpoint hands out. -/
structure Issue where
  accessToken : Json
  expiresIn : Int
  scope : Json

/-- A body of the token endpoint that is not JSON. -/
def invalidJsonError : ApiError :=
  { message := "Shopify token endpoint returned a response that isn't valid JSON."
    errorType := "validation_error" }

/-- A body without a token or without its lifetime. -/
def incompleteError : ApiError :=
  { message := "Shopify token endpoint response is missing 'access_token' or a valid 'expires_in'."
    errorType := "validation_error" }

/-- `isinstance(value, int)`, which a `bool` is too. -/
def asInt : Json → Option Int
  | .int n => some n
  | .bool b => some (if b then 1 else 0)
  | _ => none

/-- The body of a response of the token endpoint that is no HTTP error. -/
def readIssue (body : Json) : Except Raised Issue :=
  match body.dict with
  | .error exception => .error (.other exception)
  | .ok fields =>
    match (Dict.get fields "access_token").truthy, asInt (Dict.get fields "expires_in") with
    | true, some expiresIn =>
      .ok { accessToken := Dict.get fields "access_token"
            expiresIn := expiresIn
            scope := (fields.lookup "scope").getD (.str "") }
    | _, _ => .error (.api incompleteError)

/-- The reply to a request of `_request_token`. -/
def judgeToken [PyRepr] : HttpReply → Verdict Raised Issue
  | .timeout => judgeError false timeoutError
  | .network text => judgeError false (networkError text)
  | .raised exception =>
    if exception = notJson then .stop (.api invalidJsonError) else .stop (.other exception)
  | .response status body =>
    if isSuccess status then
      match body with
      | none => .stop (.api invalidJsonError)
      | some body =>
        match readIssue body with
        | .error raised => .stop raised
        | .ok issue => .done issue
    else judgeError false (classifyTokenEndpointError status body)

/-! ## Section 2: A call and the cache -/

/-- Where a call is: before the next turn of its loop, in line for the lock, at one of the two
`await`s of `_request_token`, at its GraphQL request with a token, or over. -/
inductive Stage where
  | looping
  | waiting
  | requesting (attempt : ℕ)
  | pausing (attempt : ℕ)
  | posting (token : Json)
  | finished (result : Except Raised Json)

/-- The local variables of a call, and the replies it has got: to its GraphQL requests, and to
its token requests since it last began to fetch a token. -/
structure Caller where
  attempts : Attempts := {}
  stage : Stage := .looping
  heard : List HttpReply := []
  tokenHeard : List HttpReply := []

/-- `ShopifyConfig`, the credentials. -/
structure ShopifyConfig where
  accessToken : Option String := none
  clientId : Option String := none
  clientSecret : Option String := none

/-- `uses_client_credentials`. -/
def ShopifyConfig.usesClientCredentials (config : ShopifyConfig) : Bool :=
  config.clientId.any (fun text => !pyFalsy text) &&
    config.clientSecret.any (fun text => !pyFalsy text)

/-- `TOKEN_EXPIRY_SAFETY_MARGIN_SECONDS`. -/
def tokenExpirySafetyMarginSeconds : Int := 300

/-- `_expires_at` of a token issued now. -/
def expiry (now : Instant) (expiresIn : Int) : Instant :=
  now + 1000000 * max (expiresIn - tokenExpirySafetyMarginSeconds) 0

/-- `len(scope.split(","))`, which the log line of a refresh reads. -/
def checkScope (scope : Json) : Except PyException Unit :=
  if scope.truthy then scope.text.map fun _ => () else .ok ()

/-- What happens to a call that awaits something: its reply comes, it may go on, or it is
cancelled. -/
inductive Act where
  | reply (reply : HttpReply)
  | wake
  | cancel

section Calls

variable [PyRepr] (config : ShopifyConfig) (policy : RetryPolicy) (now : Instant) (number : ℕ)

/-- `get_access_token` once the lock is taken: the second look at the cache. -/
def lockTaken (tokens : Flight Json) (c : Caller) : Flight Json × Caller :=
  match tokens.good now with
  | some token => (tokens.release, { c with stage := .posting token })
  | none => (tokens, { c with stage := .requesting 0, tokenHeard := [] })

/-- `get_access_token`. -/
def getAccessToken (tokens : Flight Json) (c : Caller) : Flight Json × Caller :=
  match tokens.good now with
  | some token => (tokens, { c with stage := .posting token })
  | none =>
    if tokens.idle then lockTaken now (tokens.take number) c
    else (tokens.enqueue number, { c with stage := .waiting })

/-- `_resolve_access_token`. -/
def resolveAccessToken (tokens : Flight Json) (c : Caller) : Flight Json × Caller :=
  if config.usesClientCredentials then getAccessToken now number tokens c
  else
    match config.accessToken with
    | some token => (tokens, { c with stage := .posting (.str token) })
    | none => (tokens, { c with stage := .finished (.error (.other (.other "AssertionError"))) })

/-- The rest of `refresh_access_token` after a token was issued, and of `get_access_token`, which
lets go of the lock. -/
def tokenIssued (tokens : Flight Json) (c : Caller) (issue : Issue) : Flight Json × Caller :=
  ((tokens.store issue.accessToken (expiry now issue.expiresIn)).release,
    { c with
      stage := match checkScope issue.scope with
        | .ok () => .posting issue.accessToken
        | .error exception => .finished (.error (.other exception)) })

/-- The reply to a token request. -/
def tokenReply (tokens : Flight Json) (c : Caller) (attempt : ℕ) (reply : HttpReply) :
    Flight Json × Caller :=
  let c := { c with tokenHeard := c.tokenHeard ++ [reply] }
  match Attempts.next policy.maxRetries { failed := attempt } (judgeToken reply) with
  | .going attempts => (tokens, { c with stage := .pausing attempts.failed })
  | .ended (.error raised) => (tokens.release, { c with stage := .finished (.error raised) })
  | .ended (.ok issue) => tokenIssued now tokens c issue

/-- The reply to a GraphQL request. -/
def postReply (tokens : Flight Json) (c : Caller) (reply : HttpReply) : Flight Json × Caller :=
  let verdict := judgePost config.usesClientCredentials reply
  let c := { c with heard := c.heard ++ [reply] }
  match c.attempts.next policy.maxRetries verdict with
  | .ended result => (tokens, { c with stage := .finished result })
  | .going attempts =>
    if verdict.isRenew then
      -- `invalidate_token`, and on to the next turn at once
      resolveAccessToken config now number (tokens.drop number) { c with attempts := attempts }
    else (tokens, { c with attempts := attempts, stage := .looping })

/-- A call that is cancelled lets go of the lock, or leaves the line for it. -/
def cancelled (tokens : Flight Json) (c : Caller) : Flight Json × Caller :=
  let left := { c with stage := .finished (.error .cancelled) }
  match c.stage with
  | .requesting _ | .pausing _ => (tokens.release, left)
  | .waiting => (tokens.leave number, left)
  | .looping | .posting _ => (tokens, left)
  | .finished _ => (tokens, c)

/-- A call goes on to its next `await`. -/
def advance (tokens : Flight Json) (c : Caller) : Act → Flight Json × Caller
  | .cancel => cancelled number tokens c
  | .wake =>
    match c.stage with
    | .looping => resolveAccessToken config now number tokens c
    | .pausing attempt => (tokens, { c with stage := .requesting attempt })
    | .waiting =>
      if tokens.next number then lockTaken now ((tokens.leave number).take number) c
      else (tokens, c)
    | .requesting _ | .posting _ | .finished _ => (tokens, c)
  | .reply reply =>
    match c.stage with
    | .requesting attempt => tokenReply policy now tokens c attempt reply
    | .posting _ => postReply config policy now number tokens c reply
    | .looping | .waiting | .pausing _ | .finished _ => (tokens, c)

end Calls

/-! ## Section 3: The client -/

/-- The client: the token cache and the calls that have begun, by number. -/
structure ShopifyClient where
  now : Instant := 0
  tokens : Flight Json := {}
  callers : List Caller := []

/-- Some time passes; then a call of `execute` begins, or the call with this number goes on. -/
structure Event where
  elapsed : ℕ := 0
  act : Option (ℕ × Act)

section Runs

variable [PyRepr] (config : ShopifyConfig) (policy : RetryPolicy)

/-- One event. -/
def ShopifyClient.step (s : ShopifyClient) (e : Event) : ShopifyClient :=
  let now := s.now + e.elapsed
  match e.act with
  | none => { s with now := now, callers := s.callers ++ [{}] }
  | some (number, act) =>
    match s.callers[number]? with
    | none => { s with now := now }
    | some c =>
      let (tokens, c') := advance config policy now number s.tokens c act
      { now := now, tokens := tokens, callers := s.callers.set number c' }

/-- The client after a run. -/
def ShopifyClient.after (s : ShopifyClient) (es : List Event) : ShopifyClient :=
  run (ShopifyClient.step config policy) s es

end Runs

end AyushOms.Clients.Shopify
