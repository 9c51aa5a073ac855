import Pentagon5.Asgi.Exceptions
import Pentagon5.Auth.Schema
import Pentagon5.Auth.Session
import Pentagon5.Runtime.Observability

/-!
# The application

The routes of the authentication application, which the gateway serves as well, the exceptions that
they raise and the handlers that answer these. What the methods of the service return and what
FastAPI reads from a request are parameters.
-/

namespace Pentagon5.Surface

open Python Python.Json Asgi Auth Pentagon5.Runtime

structure ApiError where
  statusCode : ℕ
  code : String
  message : String
  retryable : Bool := false

structure HTTPException where
  statusCode : ℕ
  detail : String

/-- An item of the place that a validation error names. -/
inductive LocationItem where
  | key (text : String)
  | index (position : ℤ)

abbrev Location := List LocationItem

/-- The exceptions of the application; Starlette and FastAPI have an `HTTPException` each. -/
inductive AppException where
  | apiError (error : ApiError)
  | starletteHTTPException (error : HTTPException)
  | fastapiHTTPException (error : HTTPException)
  | requestValidationError (errors : List Location)
  | bodyTooLargeError
  | timeoutError
  | service (error : PyError)
  | other

/-- The classes that the application names. -/
inductive ExceptionClass where
  | exception
  | apiError
  | starletteHTTPException
  | fastapiHTTPException
  | requestValidationError
  | authenticationError
  | permissionDenied
  | oidcError
  | httpError
  | bodyTooLargeError
  | timeoutError
deriving DecidableEq

/-- What a handler for the class reads. -/
def ExceptionClass.Attributes : ExceptionClass → Type
  | apiError => ApiError
  | starletteHTTPException => HTTPException
  | fastapiHTTPException => HTTPException
  | requestValidationError => List Location
  | _ => Unit

/-- FastAPI's `HTTPException` is a subclass of Starlette's. -/
def AppException.mro : AppException → List ExceptionClass
  | apiError _ => [.apiError, .exception]
  | starletteHTTPException _ => [.starletteHTTPException, .exception]
  | fastapiHTTPException _ => [.fastapiHTTPException, .starletteHTTPException, .exception]
  | requestValidationError _ => [.requestValidationError, .exception]
  | bodyTooLargeError => [.bodyTooLargeError, .exception]
  | timeoutError => [.timeoutError, .exception]
  | service (.authenticationError _) => [.authenticationError, .exception]
  | service (.permissionDenied _) => [.permissionDenied, .exception]
  | service (.oidcError _) => [.oidcError, .exception]
  | service .httpError => [.httpError, .exception]
  | service _ => [.exception]
  | other => [.exception]

def AppException.view : AppException → (c : ExceptionClass) → Option c.Attributes
  | apiError error, .apiError => some error
  | starletteHTTPException error, .starletteHTTPException => some error
  | fastapiHTTPException error, .starletteHTTPException => some error
  | fastapiHTTPException error, .fastapiHTTPException => some error
  | requestValidationError errors, .requestValidationError => some errors
  | _, .exception => some ()
  | _, _ => none

abbrev hierarchy : Hierarchy AppException where
  Class := ExceptionClass
  Attributes := ExceptionClass.Attributes
  mro := AppException.mro
  view := AppException.view

/-- As `observe` sees an exception. -/
def AppException.uncaught (e : AppException) : Uncaught :=
  if hierarchy.IsInstance e ExceptionClass.bodyTooLargeError then .bodyTooLargeError
  else if hierarchy.IsInstance e ExceptionClass.timeoutError then .timeoutError
  else .exception

structure AppSettings extends RuntimeSettings where
  webCookieMode : Bool
  wsTicketTtlSeconds : ℕ

structure LoginStart where
  deviceKey : String
  platform : String

inductive Endpoint where
  | openapi
  | docs
  | docsOauth2Redirect
  | metrics
  | startup
  | live
  | ready
  | startLogin
  | callback
  | exchange
  | session
  | logout
  | devices
  | revokeDevice
  | wsTicket
deriving DecidableEq

/-- Why FastAPI does not read a body: it is not valid, or the attempt raised something else. -/
inductive Refusal where
  | invalid (errors : List Location)
  | unreadable

/-- What FastAPI, pydantic and the other libraries make of a request. -/
structure Framework where
  /-- The answers of the endpoints that a library defines. -/
  page : Endpoint → String
  /-- The checks of the CORS middleware that a preflight request fails. -/
  preflightFailures : List String → HttpRequest → List String
  Body : Type
  decodeBody : HttpRequest → List UInt8 → Except Refusal Body
  loginStart : Body → Except (List Location) LoginStart
  loginGrantExchange : Body → Except (List Location) String
  ticketRequest : Body → Except (List Location) Channel
  /-- The parameters `code` and `state`. -/
  callbackQuery : String → Except (List Location) (String × String)
  uuid : List Char → Except (List Location) Uuid
  datetime : Timestamp → Str

/-- What a method of the service can raise. -/
inductive Failure where
  | service (error : PyError)
  | timeoutError
  | other

def Failure.toException : Failure → AppException
  | service error => .service error
  | timeoutError => .timeoutError
  | other => .other

/-- What the methods of the service return or raise during a request, and the state of the database. -/
structure ServiceResults where
  authenticate : String → Except Failure Principal
  startLogin : String → String → Except Failure String
  completeLogin : String → String → Except Failure LoginRedirect
  exchangeLoginGrant : String → Except Failure SessionGrant
  logout : Principal → Except Failure Unit
  devices : Principal → Except Failure (List Device)
  revokeDevice : Principal → Uuid → Except Failure Unit
  issueWsTicket : Principal → Channel → Except Failure String
  databaseIsReady : Except Failure Bool

section

variable (requestId : Str) (occasion : Occasion)

/-- `_correlation_id`. -/
def correlationId : Str := orText (some requestId) (UUID.str occasion.fallbackId.value)

/-- `error_response`. -/
def errorResponse (statusCode : ℕ) (code message : String) (retryable : Bool) (field : Option Str) :
    HttpResponse :=
  jsonResponse statusCode (errorEnvelope (correlationId requestId occasion) code message retryable field
    occasion.application.messageId occasion.application.now)

def apiErrorHandler (error : ApiError) : HttpResponse :=
  errorResponse requestId occasion error.statusCode error.code error.message error.retryable none

def httpErrorHandler (error : HTTPException) : HttpResponse :=
  let (code, message, retryable) :=
    if error.statusCode = 404 then ("NOT_FOUND", "Resource not found", false)
    else if error.statusCode = 405 then ("METHOD_NOT_ALLOWED", "Method not allowed", false)
    else ("HTTP_ERROR", "Request could not be completed", false)
  errorResponse requestId occasion error.statusCode code message retryable none

def LocationItem.text : LocationItem → String
  | key text => text
  | index position => toString position

/-- The first error's location without its first item. -/
def fieldOf (errors : List Location) : Option Str :=
  let location := errors.headD []
  let field := ".".intercalate ((location.drop 1).map LocationItem.text)
  if field = "" then none else some field

def validationErrorHandler (errors : List Location) : HttpResponse :=
  errorResponse requestId occasion 422 "REQUEST_VALIDATION_FAILED" "Request validation failed" false
    (fieldOf errors)

def unexpectedErrorHandler : HttpResponse :=
  errorResponse requestId occasion 500 "INTERNAL_ERROR" "An internal error occurred" true none

/-- FastAPI's own `http_exception_handler`. -/
def httpExceptionHandler (error : HTTPException) : HttpResponse :=
  if error.statusCode < 200 ∨ error.statusCode ∈ [204, 205, 304] then ⟨error.statusCode, ""⟩
  else jsonResponse error.statusCode (.dict [entry "detail" (.str error.detail)])

/-- The handlers in the order of their registration. -/
def exceptionHandlers : Handlers hierarchy HttpResponse :=
  (Handlers.empty : Handlers hierarchy HttpResponse)
    |>.register ExceptionClass.starletteHTTPException httpExceptionHandler
    |>.register ExceptionClass.apiError (apiErrorHandler requestId occasion)
    |>.register ExceptionClass.fastapiHTTPException (httpErrorHandler requestId occasion)
    |>.register ExceptionClass.requestValidationError (validationErrorHandler requestId occasion)
    |>.register ExceptionClass.exception (fun _ => unexpectedErrorHandler requestId occasion)

end

section

variable {α : Type}

/-- `except` clauses that raise an `ApiError` for the named classes. -/
def translate (classes : List ExceptionClass) (error : ApiError) (result : Except Failure α) :
    Except AppException α :=
  match result with
  | .ok a => .ok a
  | .error failure =>
    if ∃ c ∈ classes, c ∈ failure.toException.mro then .error (.apiError error)
    else .error failure.toException

/-- A call whose exceptions are not caught. -/
def propagate (result : Except Failure α) : Except AppException α :=
  result.mapError Failure.toException

def validated (result : Except (List Location) α) : Except AppException α :=
  result.mapError .requestValidationError

/-- `text.partition(" ")` when there is a blank. -/
def partitionBlank (text : String) : Option (List Char × List Char) :=
  let (scheme, rest) := text.toList.span (· ≠ ' ')
  match rest with
  | [] => none
  | _ :: credentials => some (scheme, credentials)

variable (F : Framework) (S : ServiceResults) (settings : AppSettings) (requestId : Str)
  (occasion : Occasion)

/-- FastAPI refuses a body that cannot be received or decoded. -/
def readBody (request : HttpRequest) : Except AppException F.Body :=
  let unreadable : AppException := .fastapiHTTPException ⟨400, "There was an error parsing the body"⟩
  match limitedReceive settings.maxBodyBytes 0 request.body with
  | .error _ => .error unreadable
  | .ok data =>
    match F.decodeBody request data with
    | .error (.invalid errors) => .error (.requestValidationError errors)
    | .error .unreadable => .error unreadable
    | .ok body => .ok body

def cookieName : String := "__Host-p5_session"

/-- The token that a request presents. -/
def presentedToken (request : HttpRequest) : Except AppException String :=
  let authorization := request.headerText "authorization"
  let schemeInvalid : AppException :=
    .apiError
      { statusCode := 401, code := "AUTHORIZATION_SCHEME_INVALID", message := "Authorization must use Bearer" }
  if authorization ≠ "" then
    match partitionBlank authorization with
    | none => .error schemeInvalid
    | some (scheme, credentials) =>
      if scheme.map Char.toLower ≠ "bearer".toList then .error schemeInvalid
      else .ok (String.ofList credentials)
  else if settings.webCookieMode then .ok ((request.cookies.lookup cookieName).getD "")
  else .ok ""

/-- `current_principal`. -/
def currentPrincipal (request : HttpRequest) : Except AppException Principal := do
  let token ← presentedToken settings request
  translate [.authenticationError]
    { statusCode := 401, code := "SESSION_INVALID", message := "Session is invalid or expired" }
    (S.authenticate token)

/-- The answer of a health endpoint. -/
def healthResponse (detail : Option Str) : HttpResponse :=
  jsonResponse 200 (healthEnvelope (correlationId requestId occasion) settings.serviceName "healthy" detail
    occasion.application.now occasion.statusId occasion.application.messageId)

/-- The state of the database; a `TimeoutError` counts as unavailable. -/
def databaseAvailable : Except AppException Bool :=
  match S.databaseIsReady with
  | .error .timeoutError => .ok false
  | result => propagate result

def ready : Except AppException HttpResponse := do
  let available ← databaseAvailable S
  if available then return healthResponse settings requestId occasion (some "database connection available")
  else
    .error (.apiError
      { statusCode := 503, code := "DATABASE_UNAVAILABLE", message := "Database is unavailable",
        retryable := true })

def startLogin (request : HttpRequest) : Except AppException HttpResponse := do
  let body ← readBody F settings request
  let body ← validated (F.loginStart body)
  let url ← translate [.authenticationError]
    { statusCode := 400, code := "LOGIN_REQUEST_INVALID", message := "Login request is invalid" }
    (S.startLogin body.deviceKey body.platform)
  return jsonResponse 200 (.dict [entry "authorization_url" (.str url)])

def callback (request : HttpRequest) : Except AppException HttpResponse := do
  let (code, state) ← validated (F.callbackQuery request.queryString)
  let _ ← translate [.authenticationError, .oidcError, .httpError]
    { statusCode := 401, code := "OIDC_LOGIN_FAILED", message := "OIDC login failed" }
    (S.completeLogin state code)
  return ⟨303, ""⟩

def exchange (request : HttpRequest) : Except AppException HttpResponse := do
  let body ← readBody F settings request
  let code ← validated (F.loginGrantExchange body)
  let grant ← translate [.authenticationError]
    { statusCode := 401, code := "LOGIN_GRANT_INVALID", message := "Login grant is invalid or expired" }
    (S.exchangeLoginGrant code)
  return jsonResponse 200 (.dict [
    entry "session_token" (.str grant.token),
    entry "session" (sessionResponse F.datetime grant.principal)])

def session (request : HttpRequest) : Except AppException HttpResponse := do
  let principal ← currentPrincipal S settings request
  return jsonResponse 200 (sessionResponse F.datetime principal)

def logout (request : HttpRequest) : Except AppException HttpResponse := do
  let principal ← currentPrincipal S settings request
  propagate (S.logout principal)
  return ⟨204, ""⟩

/-- A timestamp, or `None`. -/
def optionalDatetime : Option Timestamp → Json
  | none => .null
  | some t => .str (F.datetime t)

def devices (request : HttpRequest) : Except AppException HttpResponse := do
  let principal ← currentPrincipal S settings request
  let devices ← propagate (S.devices principal)
  return jsonResponse 200 (.list (devices.map fun device : Device => .dict [
    entry "id" (.str (UUID.str device.id)),
    entry "platform" (.str device.platform),
    entry "last_seen_at" (optionalDatetime F device.lastSeenAt),
    entry "revoked_at" (optionalDatetime F device.revokedAt)]))

def revokeDevice (request : HttpRequest) (deviceId : List Char) : Except AppException HttpResponse := do
  let principal ← currentPrincipal S settings request
  let deviceId ← validated (F.uuid deviceId)
  translate [.authenticationError]
    { statusCode := 404, code := "DEVICE_NOT_FOUND", message := "Device was not found" }
    (S.revokeDevice principal deviceId)
  return ⟨204, ""⟩

def wsTicket (request : HttpRequest) : Except AppException HttpResponse := do
  let body ← readBody F settings request
  let principal ← currentPrincipal S settings request
  let channel ← validated (F.ticketRequest body)
  let ticket ← translate [.permissionDenied]
    { statusCode := 403, code := "PERMISSION_DENIED", message := "Permission denied" }
    (S.issueWsTicket principal channel)
  return jsonResponse 200 (.dict [
    entry "ticket" (.str ticket),
    entry "channel" (.str channel.text),
    entry "expires_in_seconds" (.int settings.wsTicketTtlSeconds)])

/-- The endpoint of a route, with the parameter of its path. -/
def Endpoint.run (request : HttpRequest) (parameter : List Char) : Endpoint → Except AppException HttpResponse
  | .startup => .ok (healthResponse settings requestId occasion (some "application startup completed"))
  | .live => .ok (healthResponse settings requestId occasion none)
  | .ready => Surface.ready S settings requestId occasion
  | .startLogin => Surface.startLogin F S settings request
  | .callback => Surface.callback F S request
  | .exchange => Surface.exchange F S settings request
  | .session => Surface.session F S settings request
  | .logout => Surface.logout S settings request
  | .devices => Surface.devices F S settings request
  | .revokeDevice => Surface.revokeDevice F S settings request parameter
  | .wsTicket => Surface.wsTicket F S settings request
  | page => .ok ⟨200, F.page page⟩

end

/-- The routes of the application; a route of FastAPI itself also takes `HEAD`. -/
def routes (settings : AppSettings) : List (Route Endpoint) :=
  [⟨.path "/openapi.json", ["GET", "HEAD"], .openapi⟩] ++
  (if settings.environment = "production" then []
    else [⟨.path "/docs", ["GET", "HEAD"], .docs⟩,
      ⟨.path "/docs/oauth2-redirect", ["GET", "HEAD"], .docsOauth2Redirect⟩]) ++
  [⟨.path "/metrics", ["GET"], .metrics⟩,
    ⟨.path "/v1/system/health/startup", ["GET"], .startup⟩,
    ⟨.path "/v1/system/health/live", ["GET"], .live⟩,
    ⟨.path "/v1/system/health/ready", ["GET"], .ready⟩,
    ⟨.path "/v1/auth/oidc/start", ["POST"], .startLogin⟩,
    ⟨.path "/v1/auth/oidc/callback", ["GET"], .callback⟩,
    ⟨.path "/v1/auth/oidc/exchange", ["POST"], .exchange⟩,
    ⟨.path "/v1/auth/session", ["GET"], .session⟩,
    ⟨.path "/v1/auth/logout", ["POST"], .logout⟩,
    ⟨.path "/v1/auth/devices", ["GET"], .devices⟩,
    ⟨.parameter "/v1/auth/devices/", ["DELETE"], .revokeDevice⟩,
    ⟨.path "/v1/auth/ws-tickets", ["POST"], .wsTicket⟩]

section

variable (F : Framework) (S : ServiceResults) (settings : AppSettings) (occasion : Occasion)

/-- The router, with the exceptions of Starlette for what has no route. -/
def dispatch (request : HttpRequest) (requestId : Str) : Except AppException HttpResponse :=
  match route (routes settings) request.method request.path.toList with
  | .found endpoint parameter => endpoint.run F S settings requestId occasion request parameter
  | .methodNotAllowed => .error (.starletteHTTPException ⟨405, "Method Not Allowed"⟩)
  | .redirect => .ok ⟨307, ""⟩
  | .notFound => .error (.starletteHTTPException ⟨404, "Not Found"⟩)

/-- The framework's exception middleware; the handler for `Exception` stands outside every other
middleware, so that `observe` comes before it. -/
def handled (requestId : Str) (result : Except AppException HttpResponse) : Except Uncaught HttpResponse :=
  match result with
  | .ok response => .ok response
  | .error e =>
    match ((exceptionHandlers requestId occasion).without ExceptionClass.exception).lookup e with
    | some response => .ok response
    | none => .error e.uncaught

/-- Whether the CORS middleware takes a request for a preflight one. -/
def isPreflight (settings : AppSettings) (request : HttpRequest) : Prop :=
  settings.corsOrigins ≠ [] ∧ request.method = "OPTIONS" ∧ (request.header "origin").isSome ∧
    (request.header "access-control-request-method").isSome

instance (request : HttpRequest) : Decidable (isPreflight settings request) :=
  inferInstanceAs (Decidable (_ ∧ _))

/-- The CORS middleware, which is installed where there are origins. -/
def corsMiddleware (request : HttpRequest) (inner : Except Uncaught HttpResponse) :
    Except Uncaught HttpResponse :=
  if isPreflight settings request then
    match F.preflightFailures settings.corsOrigins request with
    | [] => .ok ⟨200, "OK"⟩
    | failures => .ok ⟨400, "Disallowed CORS " ++ ", ".intercalate failures⟩
  else inner

/-- What `observe` calls. -/
def callNext (request : HttpRequest) (requestId : Str) : Except Uncaught HttpResponse :=
  corsMiddleware F settings request
    (handled occasion requestId (dispatch F S settings occasion request requestId))

/-- What the application that `create_app` builds answers. -/
def answer (I : Interpreter) (request : HttpRequest) : HttpResponse :=
  observe I settings.toRuntimeSettings occasion (callNext F S settings occasion request) request

end

end Pentagon5.Surface
