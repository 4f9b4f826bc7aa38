/-
# How each SDK classifies an HTTP reply

The error classes the three SDKs make of a reply that is not a success. Go
reads the body into an `APIError`; Python and TypeScript read the error
envelope, else the text, else a fallback. `decodeReply` is the part all
endpoints share: the endpoint's own status table, then the decoded body.

Key definitions: `Go.signerHttpError`, `Go.rejectedForbiddenError`,
`errorParts`, `badRequestError`, `forbiddenRejectedError`, `decodeReply`.
Key theorems: `decodeReply_ok`.
-/
import AplaneSdk.Txn

namespace AplaneSdk

/-- The classes of failure of one endpoint of one SDK: what it raises when
nothing came back, for a status that is not 200, and for an undecodable body. -/
structure Endpoint where
  unreachable : String → SdkError
  /-- By status, standard text, body text and envelope. -/
  refused : ℕ → String → String → Option ErrorResponse → SdkError
  undecodable : String → SdkError

/-- The decoded body of a reply with status 200. -/
def decodeReply {α : Type} (endpoint : Endpoint) : Reply α → Except SdkError α
  | .unreachable why => .error (endpoint.unreachable why)
  | .http status statusText text envelope body =>
    if status ≠ 200 then .error (endpoint.refused status statusText text envelope)
    else match body with
      | none => .error (endpoint.undecodable text)
      | some a => .ok a

/-- The body a reply carries when its status is 200. -/
def Reply.okBody {α : Type} : Reply α → Option α
  | .unreachable _ => none
  | .http status _ _ _ body => if status = 200 then body else none

@[simp] theorem decodeReply_ok {α : Type} {endpoint : Endpoint} {r : Reply α} {a : α} :
    decodeReply endpoint r = .ok a ↔ r.okBody = some a := by
  cases r with
  | unreachable why => simp [decodeReply, Reply.okBody]
  | http status statusText text envelope body =>
    by_cases h : status = 200
    · cases body <;> simp [decodeReply, Reply.okBody, h]
    · simp [decodeReply, Reply.okBody, h]

namespace Go

def errAuthentication : SdkError where
  kind := .authentication
  text := "authentication failed: connect through an enrolled SSH key"

def errSigningRejected : SdkError where
  kind := .signingRejected
  text := "signing rejected by operator"

def errSignerUnavailable : SdkError where
  kind := .signerUnavailable
  text := "signer unavailable"

def errSignerLocked : SdkError where
  kind := .signerLocked
  text := "signer is locked"

/-- The wire code, empty without an envelope, and the message of an error body. -/
def readErrorParts (statusText text : String) (envelope : Option ErrorResponse) : String × String :=
  if text = "" then ("", statusText)
  else match envelope with
    | some e => if e.error ≠ "" then (e.code, e.error) else ("", text)
    | none => ("", text)

/-- An `APIError`; only the code `not_found` matches a sentinel. -/
def signerHttpError (op : String) (status : ℕ) (statusText text : String)
    (envelope : Option ErrorResponse) : SdkError :=
  let parts := readErrorParts statusText text envelope
  { kind := if parts.1 = errCodeNotFound then .keyNotFound else .signer
    text := s!"{op} ({status}): {parts.2}"
    code := parts.1 }

def rejectedForbiddenError (status : ℕ) (statusText text : String)
    (envelope : Option ErrorResponse) : SdkError :=
  let apiErr := signerHttpError "signer error" status statusText text envelope
  if apiErr.code = errCodeLocked then errSignerLocked
  else if apiErr.code = errCodeForbidden then errSigningRejected
  else apiErr

/-- `/sign/component` and `/sign/assemble`, which differ in one text. -/
def componentEndpoint (undecodable : String) (env : Env) : Endpoint where
  unreachable why := { text := "failed to make request to Signer: " ++ why }
  refused status statusText text envelope :=
    if status = 401 then errAuthentication
    else if status = 403 then rejectedForbiddenError status statusText text envelope
    else if status = 503 then errSignerUnavailable
    else signerHttpError "signer error" status statusText text envelope
  undecodable text := { text := undecodable ++ env.jsonError text }

/-- `/sign` in `SignGroupWithContext`: every status is an `APIError`. -/
def signEndpoint (env : Env) : Endpoint where
  unreachable why := { text := "failed to make request to Signer: " ++ why }
  refused status statusText text envelope := signerHttpError "signer error" status statusText text envelope
  undecodable text := { text := "failed to decode response: " ++ env.jsonError text }

def planEndpoint (env : Env) : Endpoint where
  unreachable why := { text := "failed to plan group: " ++ why }
  refused status statusText text envelope :=
    if status = 401 then errAuthentication
    else signerHttpError "plan failed" status statusText text envelope
  undecodable text := { text := "failed to decode response: " ++ env.jsonError text }

end Go

/-! ### Python and TypeScript -/

/-- `_error_parts` and `errorParts`: the envelope, else the text, else `fallback`. -/
def errorParts (fallback text : String) (envelope : Option ErrorResponse) : String × String :=
  match envelope with
  | some e =>
    if e.error.trimAscii.copy ≠ "" then (e.code, e.error)
    else if text ≠ "" then ("", text) else ("", fallback)
  | none => if text ≠ "" then ("", text) else ("", fallback)

def signerHttpError (fallback text : String) (envelope : Option ErrorResponse) : SdkError :=
  let parts := errorParts fallback text envelope
  { text := parts.2, code := parts.1 }

def badRequestError (text : String) (envelope : Option ErrorResponse) : SdkError :=
  let parts := errorParts "Bad request" text envelope
  if parts.1 = errCodeNotFound then { kind := .keyNotFound, text := parts.2, code := parts.1 }
  else { text := "Bad request: " ++ parts.2, code := parts.1 }

def forbiddenRejectedError (fallback text : String) (envelope : Option ErrorResponse) : SdkError :=
  let parts := errorParts fallback text envelope
  if parts.1 = errCodeLocked then
    { kind := .signerUnavailable, text := "Signer is locked", code := parts.1 }
  else if parts.1 = errCodeForbidden then
    { kind := .signingRejected, text := parts.2, code := parts.1 }
  else { text := parts.2, code := parts.1 }

def authenticationError : SdkError where
  kind := .authentication
  text := "Not authenticated: connect through an enrolled SSH key"

/-- What Python and TypeScript raise when no reply came. -/
def connectError (why : String) : SdkError where
  kind := .signerUnavailable
  text := "Failed to connect: " ++ why

/-- A signing endpoint of Python or TypeScript: `rejected` and `failed` are its
own texts, and a 400 is told apart where `badRequest` says so. -/
def signingEndpoint (rejected failed : String) (badRequest : Bool) (undecodable : String → SdkError) :
    Endpoint where
  unreachable := connectError
  refused status _ text envelope :=
    if status = 401 then authenticationError
    else if status = 403 then forbiddenRejectedError rejected text envelope
    else if status = 503 then
      { kind := .signerUnavailable, text := (errorParts "Signer unavailable" text envelope).2 }
    else if badRequest ∧ status = 400 then badRequestError text envelope
    else signerHttpError s!"{failed}: HTTP {status}" text envelope
  undecodable := undecodable

/-- `/plan` of Python and TypeScript. -/
def planEndpoint (undecodable : String → SdkError) : Endpoint where
  unreachable := connectError
  refused status _ text envelope :=
    if status = 401 then authenticationError
    else if status = 400 then badRequestError text envelope
    else if status = 403 then signerHttpError "Forbidden" text envelope
    else signerHttpError s!"Plan failed: HTTP {status}" text envelope
  undecodable := undecodable

namespace Python

/-- `resp.json()` failed in `sign_requests` and `plan_requests`. -/
def invalidJson (text : String) : SdkError where
  text := "Server returned invalid JSON: " ++ (text.take 200).copy

/-- `_safe_json` makes an undecodable body an empty mapping, whose validation
raises `text`. -/
def emptyMapping (text : String) (_ : String) : SdkError := { text := text }

def componentEndpoint : Endpoint :=
  signingEndpoint "Component signing request rejected" "Component signing failed" true
    (emptyMapping "invalid component response: request_id and components are required")

def assembleEndpoint : Endpoint :=
  signingEndpoint "Assembly request rejected" "Assembly failed" false
    (emptyMapping "invalid assembly response: request_id is required")

def signEndpoint : Endpoint :=
  signingEndpoint "Signing request rejected by operator" "Signing failed" true invalidJson

def planRequestsEndpoint : Endpoint := planEndpoint invalidJson

end Python

namespace TypeScript

def invalidJson (_ : String) : SdkError := { text := "Server returned invalid JSON" }

def componentEndpoint : Endpoint :=
  signingEndpoint "Component signing request rejected" "Component signing failed" true invalidJson

def assembleEndpoint : Endpoint :=
  signingEndpoint "Assembly request rejected" "Assembly failed" false invalidJson

def signEndpoint : Endpoint :=
  signingEndpoint "Signing request rejected by operator" "Signing failed" true invalidJson

def planRequestsEndpoint : Endpoint := planEndpoint invalidJson

end TypeScript

end AplaneSdk
