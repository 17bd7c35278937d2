import AyushOms.Core.Values
import AyushOms.Lib.Retry
import Mathlib.Algebra.Order.BigOperators.Group.List
import Mathlib.Algebra.Order.Field.Rat

/-!
# Replies, Errors and Retries of the HTTP Clients

What awaiting a request of one of the HTTP clients can end in, how Shopify, Shiprocket and
Cashfree classify the failures, and the retry policy they share. The delays are the exact numbers
of the policy; its floats are not rounded.

## Main results

- `pauses_le`, `pauses_sum_le`: no pause is longer than the policy's maximum
-/

namespace AyushOms.Clients

open AyushOms.Lib

/-! ## Section 1: Replies and errors -/

/-- What awaiting a request ends in: `httpx.TimeoutException`, another `httpx.TransportError`, a
response with its decoded body (`none` is not JSON), or an exception no client expects. -/
inductive HttpReply where
  | timeout
  | network (text : String)
  | response (status : ℕ) (body : Option Json)
  | raised (exception : PyException)

/-- `response.is_success`: `raise_for_status` raises for every other status. -/
def isSuccess (status : ℕ) : Bool := 200 ≤ status && status < 300

/-- `ShopifyApiError`, `ShiprocketApiError` and `CashfreeApiError`. -/
structure ApiError where
  message : String
  errorType : String
  statusCode : Option ℕ := none
  deriving DecidableEq, Repr

/-- What a call raises. -/
inductive Raised where
  | api (error : ApiError)
  | other (exception : PyException)
  | cancelled
  deriving DecidableEq, Repr

/-- `response.json()` of a body that is not JSON: a `ValueError`. -/
def notJson : PyException := .other "ValueError"

/-- `_RETRYABLE_ERROR_TYPES`, the same in each client. -/
def retryableErrorTypes : List String :=
  ["timeout", "network_error", "http_429", "http_500", "http_502", "http_503", "http_504"]

/-- The error type of a status from 500 to 599. -/
def serverErrorType (status : ℕ) : String :=
  if status ∈ [500, 502, 503, 504] then "http_" ++ toString status else "http_500"

/-! ## Section 2: The retry policy -/

/-- `RetryPolicy`. -/
structure RetryPolicy where
  maxRetries : ℕ := 5
  baseDelaySeconds : ℚ := 60
  maxDelaySeconds : ℚ := 3600
  backoffMultiplier : ℚ := 2

/-- `compute_backoff_seconds`. -/
def computeBackoffSeconds (policy : RetryPolicy) (attempt : ℕ) : ℚ :=
  min (policy.baseDelaySeconds * policy.backoffMultiplier ^ (attempt - 1)) policy.maxDelaySeconds

/-- The pauses before the retries of a call that has failed so often. -/
def pauses (policy : RetryPolicy) (failed : ℕ) : List ℚ :=
  (List.range failed).map fun k => computeBackoffSeconds policy (k + 1)

theorem pauses_le {policy : RetryPolicy} {failed : ℕ} {pause : ℚ}
    (h : pause ∈ pauses policy failed) : pause ≤ policy.maxDelaySeconds := by
  obtain ⟨k, _, rfl⟩ := List.mem_map.mp h
  exact min_le_right _ _

theorem pauses_sum_le (policy : RetryPolicy) (failed : ℕ) :
    (pauses policy failed).sum ≤ failed * policy.maxDelaySeconds := by
  have hle := List.sum_le_card_nsmul (pauses policy failed) policy.maxDelaySeconds
    fun _ hpause => pauses_le hpause
  rwa [pauses, List.length_map, List.length_range, nsmul_eq_mul] at hle

example : pauses {} 5 = [60, 120, 240, 480, 960] := by decide +kernel

/-- What the loop of a client makes of an error: `renewable` says whether a refused credential can
be fetched again. -/
def judgeError {α : Type} (renewable : Bool) (error : ApiError) : Verdict Raised α :=
  if error.errorType ∈ retryableErrorTypes then .again (.api error)
  else if error.errorType = "authentication_error" ∧ renewable = true then .renew (.api error)
  else .stop (.api error)

/-! ## Section 3: Shopify -/

namespace Shopify

/-- `classify_http_error`. -/
def classifyHttpError (status : ℕ) : ApiError :=
  if status = 401 then
    { message := "Shopify rejected the access token (authentication failed)."
      errorType := "authentication_error", statusCode := some status }
  else if status = 403 then
    { message := "Shopify access token is missing a required scope (permission failure)."
      errorType := "authorization_error", statusCode := some status }
  else if status = 429 then
    { message := "Shopify rate limit exceeded (429)."
      errorType := "http_429", statusCode := some status }
  else if 500 ≤ status ∧ status < 600 then
    { message := "Shopify API returned a server error (" ++ toString status ++ ")."
      errorType := serverErrorType status, statusCode := some status }
  else
    { message := "Shopify API returned an unexpected status (" ++ toString status ++ ")."
      errorType := "permanent_error", statusCode := some status }

/-- `classify_transport_error` of a timeout. -/
def timeoutError : ApiError :=
  { message := "Timed out contacting Shopify.", errorType := "timeout" }

/-- `classify_transport_error` of any other transport error. -/
def networkError (text : String) : ApiError :=
  { message := "Network error contacting Shopify: " ++ text, errorType := "network_error" }

/-- `(err.get("extensions") or {}).get("code")` and `str(err.get("message", ""))`. A code that is
a list or a dictionary cannot be put into a set. -/
def errorCode (err : Dict) : Except PyException Json := do
  match (← (err.get "extensions").dictOr).get "code" with
  | .arr _ | .obj _ => .error wrongType
  | code => .ok code

def errorMessage [PyRepr] (err : Dict) : String := pyStr ((err.lookup "message").getD (.str ""))

/-- `err for err in errors if isinstance(err, dict)`. -/
def errorDicts (errors : List Json) : List Dict :=
  errors.filterMap fun
    | .obj fields => some fields
    | _ => none

def hasCode (codes : List Json) (code : String) : Bool :=
  codes.any fun
    | .str text => text == code
    | _ => false

/-- `classify_graphql_errors`. -/
def classifyGraphqlErrors [PyRepr] (errors : Json) : Except PyException ApiError := do
  let dicts := errorDicts (← errors.iterate)
  let codes ← dicts.mapM errorCode
  let messages := "; ".intercalate (dicts.map errorMessage)
  if hasCode codes "THROTTLED" then
    return { message := "Shopify GraphQL query cost throttled.", errorType := "http_429" }
  else if hasCode codes "ACCESS_DENIED" then
    return { message := "Shopify GraphQL access denied: " ++ messages
             errorType := "authorization_error" }
  else if hasCode codes "UNAUTHENTICATED" then
    return { message := "Shopify GraphQL authentication failed: " ++ messages
             errorType := "authentication_error" }
  else
    return { message := "Shopify GraphQL query error: " ++
               (if pyFalsy messages then "unknown error" else messages)
             errorType := "validation_error" }

/-- `_extract_oauth_error_detail`. -/
def extractOauthErrorDetail [PyRepr] (body : Option Json) : Option String :=
  match body with
  | some (.obj fields) =>
    let parts := ["error", "error_description"].filterMap fun key =>
      if (Dict.get fields key).truthy then some (pyStr (Dict.get fields key)) else none
    let joined := "; ".intercalate parts
    if pyFalsy joined then none else some joined
  | _ => none

/-- `_classify_token_endpoint_error`. -/
def classifyTokenEndpointError [PyRepr] (status : ℕ) (body : Option Json) : ApiError :=
  let suffix := match extractOauthErrorDetail body with
    | some detail => " Shopify said: " ++ detail
    | none => ""
  if status = 400 then
    { message := "Shopify rejected the client-credentials request " ++
        "(malformed request, or invalid SHOPIFY_CLIENT_ID format)." ++ suffix
      errorType := "validation_error", statusCode := some status }
  else if status = 401 then
    { message := "Shopify rejected SHOPIFY_CLIENT_ID/SHOPIFY_CLIENT_SECRET " ++
        "(invalid client credentials)." ++ suffix
      errorType := "authentication_error", statusCode := some status }
  else if status = 403 then
    { message := "Shopify refused to issue a token for this app on this store " ++
        "(app not installed on SHOPIFY_STORE_DOMAIN, or client " ++
        "credentials grant not permitted for this app/store)." ++ suffix
      errorType := "authorization_error", statusCode := some status }
  else classifyHttpError status

end Shopify

/-! ## Section 4: Shiprocket -/

namespace Shiprocket

/-- `classify_http_error`. -/
def classifyHttpError (status : ℕ) : ApiError :=
  if status = 401 then
    { message := "Shiprocket rejected the credentials/token (authentication failed)."
      errorType := "authentication_error", statusCode := some status }
  else if status = 403 then
    { message := "Shiprocket account lacks permission for this operation."
      errorType := "authorization_error", statusCode := some status }
  else if status = 422 then
    { message := "Shiprocket rejected the request payload (validation error)."
      errorType := "validation_error", statusCode := some status }
  else if status = 429 then
    { message := "Shiprocket rate limit exceeded (429)."
      errorType := "http_429", statusCode := some status }
  else if 500 ≤ status ∧ status < 600 then
    { message := "Shiprocket API returned a server error (" ++ toString status ++ ")."
      errorType := serverErrorType status, statusCode := some status }
  else
    { message := "Shiprocket API returned an unexpected status (" ++ toString status ++ ")."
      errorType := "permanent_error", statusCode := some status }

/-- `classify_transport_error` of a timeout. -/
def timeoutError : ApiError :=
  { message := "Timed out contacting Shiprocket.", errorType := "timeout" }

/-- `classify_transport_error` of any other transport error. -/
def networkError (text : String) : ApiError :=
  { message := "Network error contacting Shiprocket: " ++ text, errorType := "network_error" }

end Shiprocket

/-! ## Section 5: Cashfree -/

namespace Cashfree

/-- The detail of an error body, in brackets. -/
def suffix [PyRepr] (body : Option Json) : String :=
  match body with
  | some (.obj fields) =>
    let detail := Dict.get fields "message"
    if detail.truthy then " (" ++ pyStr detail ++ ")" else ""
  | _ => ""

/-- `classify_http_error`. -/
def classifyHttpError [PyRepr] (status : ℕ) (body : Option Json) : ApiError :=
  if status = 401 ∨ status = 403 then
    { message := "Cashfree rejected the credentials" ++ suffix body ++ "."
      errorType := "authentication_error", statusCode := some status }
  else if status = 404 then
    { message := "Cashfree order/payment not found" ++ suffix body ++ "."
      errorType := "not_found", statusCode := some status }
  else if status = 409 then
    { message := "Cashfree order_id conflict" ++ suffix body ++ "."
      errorType := "conflict", statusCode := some status }
  else if status = 422 ∨ status = 400 then
    { message := "Cashfree rejected the request payload" ++ suffix body ++ "."
      errorType := "validation_error", statusCode := some status }
  else if status = 429 then
    { message := "Cashfree rate limit exceeded (429)."
      errorType := "http_429", statusCode := some status }
  else if 500 ≤ status ∧ status < 600 then
    { message := "Cashfree API returned a server error (" ++ toString status ++ ")."
      errorType := serverErrorType status, statusCode := some status }
  else
    { message := "Cashfree API returned an unexpected status (" ++ toString status ++ ")" ++
        suffix body ++ "."
      errorType := "permanent_error", statusCode := some status }

/-- `classify_transport_error` of a timeout. -/
def timeoutError : ApiError :=
  { message := "Timed out contacting Cashfree.", errorType := "timeout" }

/-- `classify_transport_error` of any other transport error. -/
def networkError (text : String) : ApiError :=
  { message := "Network error contacting Cashfree: " ++ text, errorType := "network_error" }

end Cashfree

end AyushOms.Clients
