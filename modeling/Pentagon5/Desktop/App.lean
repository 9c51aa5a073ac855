import Pentagon5.Client.Session
import Pentagon5.Interleaving.Machine

/-!
# The desktop application

The handlers of `App` as programs over the state of the component and the Keychain. A handler is
split at its awaits: an awaited call takes effect in one step and the handler goes on in a later one.
-/

namespace Pentagon5.Desktop

open Interleaving Python

inductive SessionState where
  | disconnected
  | signedOut
  | authenticating
  | authenticated
  | expired
  | denied
deriving DecidableEq

/-- The state variables of `App` that its handlers share. -/
structure View where
  session : SessionState
  user : Option Client.Session
  token : Option String
deriving DecidableEq

def View.init : View := ⟨.disconnected, none, none⟩

/-- The updates that a handler makes without awaiting between them. -/
inductive Update where
  | session (session : SessionState)
  | signedIn (token : String) (user : Client.Session)
  | signedOut (session : SessionState)
deriving DecidableEq

def Update.apply (view : View) : Update → View
  | session next => { view with session := next }
  | signedIn token user => ⟨.authenticated, some user, some token⟩
  | signedOut next => ⟨next, none, none⟩

/-- What a call throws: an answer of the backend that is not successful, or anything else. -/
inductive JsError where
  | apiClientError (status : ℕ)
  | other
deriving DecidableEq

structure AuthSession where
  sessionToken : String
  session : Client.Session
deriving DecidableEq

structure ParsedAuthCallback where
  code : Option String
  error : Option String
deriving DecidableEq

inductive Call where
  | getStatus
  | getSession (token : String)
  | exchangeOidcGrant (code : String)
  | beginOidcLogin (deviceKey : String)
  | logout (token : String)
  | loadToken
  | storeToken (token : String)
  | deleteToken
  | getOrCreateDeviceKey
  | openOidcLogin (authorizationUrl : String)
  /-- The `active` flag of the startup effect. -/
  | active
  /-- The `token` of the render that a click belongs to. -/
  | token
  | update (update : Update)
deriving DecidableEq

abbrev Answer : Call → Type
  | .getStatus => Unit
  | .getSession _ => Client.Session
  | .exchangeOidcGrant _ => AuthSession
  | .beginOidcLogin _ => String
  | .logout _ => Unit
  | .loadToken => Option String
  | .storeToken _ => Unit
  | .deleteToken => Unit
  | .getOrCreateDeviceKey => String
  | .openOidcLogin _ => Unit
  | .active => Bool
  | .token => Option String
  | .update _ => Unit

abbrev Task := Prog Answer JsError

/-- A call whose exception the program goes on with. -/
def attempt (call : Call) : Task (Except JsError (Answer call)) := .call call fun r => .ret (.ok r)

/-- The updates of one turn. -/
def setState (update : Update) : Task Unit := Prog.perform (Call.update update)

/-- `try { task } catch { handler }`. -/
def tryCatch {α : Type} (task : Task α) (handler : Task α) : Task α := task.handle fun _ => some handler

/-- Whether a string counts as true. -/
def truthy (text : Option String) : Option String := text.filter (· ≠ "")

section

variable (parseAuthCallback : Str → Except JsError ParsedAuthCallback) (isBlank : String → Bool)

/-- `authenticate`. -/
def authenticate (opaqueToken : String) : Task Unit := do
  match ← attempt (Call.getSession opaqueToken) with
  | .ok currentUser => setState (.signedIn opaqueToken currentUser)
  | .error error =>
    let _ ← attempt Call.deleteToken
    setState (.signedOut (if error = .apiClientError 403 then .denied else .expired))

/-- The startup effect; nothing but the Keychain is read between the two calls. -/
def startup : Task Unit := do
  let savedToken ← attempt Call.loadToken
  let status ← attempt Call.getStatus
  if ← Prog.perform Call.active then
    match savedToken, status with
    | .ok savedToken, .ok _ =>
      match truthy savedToken with
      | some token => authenticate token
      | none => setState (.session .signedOut)
    | _, _ => setState (.session .disconnected)
  else pure ()

/-- The `try` block of `handleCallback`. -/
def exchangeGrant (callbackUrl : Str) : Task Unit := do
  let callback ← Prog.ofExcept (parseAuthCallback callbackUrl)
  match truthy callback.error, truthy callback.code with
  | some _, _ => setState (.session .denied)
  | none, none => Prog.raise .other
  | none, some code =>
    let result ← Prog.perform (Call.exchangeOidcGrant code)
    Prog.perform (Call.storeToken result.sessionToken)
    setState (.signedIn result.sessionToken result.session)

def handleCallback (callbackUrl : Str) : Task Unit := do
  setState (.session .authenticating)
  tryCatch (exchangeGrant parseAuthCallback callbackUrl) (setState (.session .denied))

/-- The `try` block of `login`. -/
def launchLogin : Task Unit := do
  let deviceKey ← Prog.perform Call.getOrCreateDeviceKey
  let authorizationUrl ← Prog.perform (Call.beginOidcLogin deviceKey)
  Prog.perform (Call.openOidcLogin authorizationUrl)

def login : Task Unit := do
  setState (.session .authenticating)
  tryCatch launchLogin (setState (.session .disconnected))

/-- The backend is told of a logout when there is a token; a blank one throws outside the promise. -/
def revoke (token : Option String) : Task Unit :=
  match truthy token with
  | none => pure ()
  | some token => if isBlank token then Prog.raise .other else do
    let _ ← attempt (Call.logout token)
    return ()

def logout : Task Unit := do
  let token ← Prog.perform Call.token
  revoke isBlank token
  Prog.perform Call.deleteToken
  setState (.signedOut .signedOut)

inductive Handler where
  | startup
  | login
  | callback (callbackUrl : Str)
  | logout
deriving DecidableEq

def Handler.task : Handler → Task Unit
  | startup => Desktop.startup
  | login => Desktop.login
  | callback callbackUrl => handleCallback parseAuthCallback callbackUrl
  | logout => Desktop.logout isBlank

end

structure World where
  keychain : Option String
  view : View
deriving DecidableEq

/-- What the backend, the Keychain and the user answer to a call. -/
abbrev Env := (call : Call) → Except JsError (Answer call)

/-- `store_auth_token` refuses tokens of other lengths. -/
def isStorable (token : String) : Prop := 32 ≤ token.utf8ByteSize ∧ token.utf8ByteSize ≤ 16384

instance (token : String) : Decidable (isStorable token) := inferInstanceAs (Decidable (_ ∧ _))

/-- `store_auth_token`, where `result` is what the Keychain says. -/
def storeAuthToken (result : Except JsError Unit) (w : World) (token : String) : Except JsError Unit × World :=
  if isStorable token then
    match result with
    | .ok _ => (.ok (), { w with keychain := some token })
    | .error e => (.error e, w)
  else (.error .other, w)

/-- `delete_auth_token`; to delete nothing succeeds. -/
def deleteAuthToken (result : Except JsError Unit) (w : World) : Except JsError Unit × World :=
  match result with
  | .ok _ => (.ok (), { w with keychain := none })
  | .error e => (.error e, w)

/-- A call, with what the Keychain does unless it fails. -/
def answer (ω : Env) (w : World) : (call : Call) → Except JsError (Answer call) × World
  | .loadToken => ((ω .loadToken).map fun _ => w.keychain, w)
  | .storeToken token => storeAuthToken (ω (.storeToken token)) w token
  | .deleteToken => deleteAuthToken (ω .deleteToken) w
  | .token => (.ok w.view.token, w)
  | .update update => (.ok (), { w with view := update.apply w.view })
  | call => (ω call, w)

/-- The application: its handlers start at any time and any number of them are in flight. -/
def app (parseAuthCallback : Str → Except JsError ParsedAuthCallback) (isBlank : String → Bool) :
    Machine Answer JsError Env World Handler Unit where
  serve := Handler.task parseAuthCallback isBlank
  answer := answer
  admissible _ _ _ := True
  environment _ _ := False

abbrev State := Config Answer JsError Env World Handler Unit

abbrev Event := Entry Answer JsError Env World

/-- A fresh window over any Keychain. -/
def Initial (w : World) : Prop := w.view = View.init

end Pentagon5.Desktop
