import Pentagon5.Auth.Service
import Pentagon5.Interleaving.Machine

/-!
# The authentication system

The requests that clients send, served by any number of threads whose calls interleave. Between
calls an administrator may change the status of users and the role tables.
-/

namespace Pentagon5.Auth

open Interleaving AuthenticationService

/-- What a request may do after its token was authenticated. -/
inductive Operation where
  | session
  | logout
  | devices
  | revokeDevice (deviceId : Uuid)
  | issueWsTicket (channel : String)
deriving DecidableEq

/-- The routes of the application; `websocket` asks to open a WebSocket connection. -/
inductive Request where
  | startLogin (deviceKey platform : String)
  | completeLogin (state code : String)
  | exchangeLoginGrant (code : String)
  | authenticated (token : String) (operation : Operation)
  | websocket (ticket channel : String)
deriving DecidableEq

inductive Reply where
  | authorizationUrl (url : Python.Str)
  | redirect (login : LoginRedirect)
  | grant (grant : SessionGrant)
  | session (principal : Principal)
  | noContent
  | devices (devices : List Device)
  | ticket (ticket : String)
  | accepted (sessionId : Uuid)
deriving DecidableEq

variable (settings : AuthSettings) (crypto : Primitives)

def Operation.serve (principal : Principal) : Operation → Async Reply
  | session => return .session principal
  | logout => do
    AuthenticationService.logout principal
    return .noContent
  | devices => do
    let devices ← AuthenticationService.devices principal
    return .devices devices
  | revokeDevice deviceId => do
    AuthenticationService.revokeDevice principal deviceId
    return .noContent
  | issueWsTicket channel => do
    let ticket ← AuthenticationService.issueWsTicket settings crypto principal channel
    return .ticket ticket

def Request.serve : Request → Async Reply
  | startLogin deviceKey platform => do
    let url ← AuthenticationService.startLogin settings crypto deviceKey platform
    return .authorizationUrl url
  | completeLogin state code => do
    let login ← AuthenticationService.completeLogin settings crypto state code
    return .redirect login
  | exchangeLoginGrant code => do
    let grant ← AuthenticationService.exchangeLoginGrant settings crypto code
    return .grant grant
  | authenticated token operation => do
    let principal ← authenticate settings crypto token
    operation.serve settings crypto principal
  | websocket ticket channel => do
    let sessionId ← consumeWsTicket settings crypto ticket channel
    return .accepted sessionId

abbrev History := List (Entry Answer PyError Env World)

/-- The token that a call drew. -/
def issued? : Done Answer PyError → Option String
  | ⟨.randomToken _, .ok token⟩ => some token
  | _ => none

def issuedTokens (history : History) : List String := history.filterMap (fun e => issued? e.done)

def drawn (ω : Env) : Call → Option String
  | .randomToken n => some (tokenUrlsafe (randomBytes ω n))
  | _ => none

/-- Random tokens never repeat. -/
def admissible (history : History) (ω : Env) (call : Call) : Prop :=
  ∀ token ∈ drawn ω call, token ∉ issuedTokens history

instance (history : History) (ω : Env) (call : Call) : Decidable (admissible history ω call) :=
  inferInstanceAs (Decidable (∀ token ∈ drawn ω call, token ∉ issuedTokens history))

/-- The status of users and the role tables change; nothing else does. -/
structure Administers (w w' : World) : Prop where
  users : ∃ status : UserRow → UserStatus,
    w.store.users.Mapped (fun u => { u with status := status u }) w'.store.users
  devices : w'.store.devices = w.store.devices
  sessions : w'.store.sessions = w.store.sessions
  identities : w'.store.identities = w.store.identities
  flows : w'.store.flows = w.store.flows
  grants : w'.store.grants = w.store.grants
  tickets : w'.store.tickets = w.store.tickets
  events : w'.store.events = w.store.events
  metadata : w'.metadata = w.metadata

/-- Every device and every identity belongs to a user. -/
structure Owned (s : Store) : Prop where
  devices : ∀ d ∈ s.devices, ∃ u ∈ s.users, u.id = d.userId
  identities : ∀ i ∈ s.identities, ∃ u ∈ s.users, u.id = i.userId

/-- Before the first request there may be users, roles and devices, but nothing that belongs to
a login or a session. -/
structure Initial (w : World) : Prop where
  owned : Owned w.store
  sessions : ∀ r, r ∉ w.store.sessions
  flows : ∀ r, r ∉ w.store.flows
  grants : ∀ r, r ∉ w.store.grants
  tickets : ∀ r, r ∉ w.store.tickets
  events : ∀ r, r ∉ w.store.events
  metadata : w.metadata = none

def system : Machine Answer PyError Env World Request Reply where
  serve := Request.serve settings crypto
  answer := answer
  admissible := admissible
  environment := Administers

instance (history : History) (ω : Env) (call : Call) :
    Decidable ((system settings crypto).admissible history ω call) :=
  inferInstanceAs (Decidable (admissible history ω call))

abbrev State := Config Answer PyError Env World Request Reply

/-- A configuration that some interleaving of requests reaches. -/
abbrev Run (c : State) : Prop := Reachable (system settings crypto) Initial c

end Pentagon5.Auth
