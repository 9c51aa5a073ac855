import Pentagon5.Asgi.Routing
import Pentagon5.Ecma.Json
import Pentagon5.Python.Interpreter
import Pentagon5.Runtime.Envelopes

/-!
# The middleware around the routes

`observe` bounds the body and the time of a request, names it, and answers what the application did
not.
-/

namespace Pentagon5.Runtime

open Python Python.Json Asgi

/-- The settings that the middleware and the application read. -/
structure RuntimeSettings where
  serviceName : Str
  environment : String
  corsOrigins : List String
  maxBodyBytes : ℕ

/-- `JSONResponse`; texts are not escaped beyond what JSON asks for. -/
def jsonResponse (status : ℕ) (content : Json) : HttpResponse := ⟨status, ofChars (Ecma.stringify content)⟩

/-- What is drawn for one envelope. -/
structure Stamped where
  messageId : Drawn
  now : Datetime

/-- What a request meets besides its own content: the values that are drawn for it, and whether its
time runs out before the application answers. -/
structure Occasion where
  correlationId : Drawn
  fallbackId : Drawn
  statusId : Drawn
  application : Stamped
  middleware : Stamped
  expires : Bool

/-- The exceptions that `observe` tells apart. -/
inductive Uncaught where
  | bodyTooLargeError
  | timeoutError
  | exception
deriving DecidableEq

/-- The body as `limited_receive` hands it on, after `received` bytes. -/
def limitedReceive (maxBodyBytes : ℕ) : ℕ → List (List UInt8) → Except Uncaught (List UInt8)
  | _, [] => .ok []
  | received, message :: messages =>
    if maxBodyBytes < received + message.length then .error .bodyTooLargeError
    else (limitedReceive maxBodyBytes (received + message.length) messages).map (message ++ ·)

/-- The name of a request: the one that it brings, if that is a UUIDv7. -/
def correlationIdOf (I : Interpreter) (request : HttpRequest) (occasion : Occasion) : Str :=
  let suppliedId := request.headerText "x-request-id"
  if isUuid7 I.decimal suppliedId then suppliedId else UUID.str occasion.correlationId.value

/-- The check of the `Content-Length` header; `int` raises a `ValueError`. -/
def checkContentLength (I : Interpreter) (settings : RuntimeSettings) (request : HttpRequest) :
    Except Uncaught Unit :=
  let contentLength := request.headerText "content-length"
  if contentLength = "" then .ok ()
  else match I.int contentLength with
    | none => .error .exception
    | some n => if settings.maxBodyBytes < n then .error .bodyTooLargeError else .ok ()

/-- `request.method == "OPTIONS" and request.headers.get("origin")`. -/
def isCrossOriginOptions (request : HttpRequest) : Prop :=
  request.method = "OPTIONS" ∧ request.headerText "origin" ≠ ""

instance (request : HttpRequest) : Decidable (isCrossOriginOptions request) :=
  inferInstanceAs (Decidable (_ ∧ _))

section

variable (I : Interpreter) (settings : RuntimeSettings) (occasion : Occasion)
  (callNext : Str → Except Uncaught HttpResponse) (request : HttpRequest)

/-- An answer of `observe` itself. -/
def ownResponse (status : ℕ) (code message : String) (retryable : Bool) : HttpResponse :=
  jsonResponse status (errorEnvelope (correlationIdOf I request occasion) code message retryable none
    occasion.middleware.messageId occasion.middleware.now)

/-- `call_next` under the time limit. -/
def callInTime : Except Uncaught HttpResponse :=
  if occasion.expires then .error .timeoutError else callNext (correlationIdOf I request occasion)

/-- The `try` block of `observe`. -/
def attempted : Except Uncaught HttpResponse := do
  checkContentLength I settings request
  let response ← callInTime I occasion callNext request
  if isCrossOriginOptions request ∧ 400 ≤ response.status then
    .ok (ownResponse I occasion request 400 "CORS_ORIGIN_DENIED" "Cross-origin request is not allowed" false)
  else .ok response

/-- The `except` clauses of `observe`. -/
def failureResponse : Uncaught → HttpResponse
  | .bodyTooLargeError => ownResponse I occasion request 413
      "REQUEST_BODY_TOO_LARGE" "Request body exceeds the configured limit" false
  | .timeoutError => ownResponse I occasion request 504
      "REQUEST_TIMEOUT" "Request processing timed out" true
  | .exception => ownResponse I occasion request 500
      "INTERNAL_ERROR" "An internal error occurred" true

/-- `observe`; `callNext` is what the application answers or raises under the name of the request. -/
def observe : HttpResponse :=
  match attempted I settings occasion callNext request with
  | .ok response => response
  | .error failure => failureResponse I occasion request failure

end

end Pentagon5.Runtime
