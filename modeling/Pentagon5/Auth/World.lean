import Pentagon5.Auth.Repository
import Pentagon5.Auth.Security
import Pentagon5.Interleaving.Program

/-!
# The calls of the service

The service reads the clock, draws random bytes, calls the repository and the OIDC provider,
and reads and sets the metadata that its OIDC client caches. Each of these is one atomic
call. `Env` holds what a call takes from outside: the provider may answer anything.
-/

namespace Pentagon5.Auth

open Python Interleaving

/-- An HTTP response; `body` is the value of `response.json()`, `none` where it raises. -/
structure Response where
  status : ℕ
  body : Option Json

/-- How an HTTP request fails: with an `httpx.HTTPError`, with `httpx.InvalidURL`, or because
the URL cannot be encoded. -/
inductive TransportError where
  | http
  | invalidUrl
  | unencodable

def TransportError.raised : TransportError → PyError
  | http => .httpError
  | invalidUrl => .invalidUrl
  | unencodable => .unicodeEncodeError

/-- The two members read from `jwt.get_unverified_header`, which refuses a `kid` that is not
text; an absent `alg` reads as `null`. -/
structure JwtHeader where
  alg : Json
  kid : Option Str

inductive Call where
  | now
  | randomToken (bytesCount : ℕ)
  | urandom (size : ℕ)
  | putFlow (fingerprint encryptedPayload redirectUri : String) (expiresAt : Timestamp)
  | consumeFlow (fingerprint : String) (now : Timestamp)
  | putLoginGrant (fingerprint encryptedPayload : String) (expiresAt : Timestamp)
  | consumeLoginGrant (fingerprint : String) (now : Timestamp)
  | provisionIdentity (identity : Identity)
  | registerDevice (userId : Uuid) (deviceFingerprint platform : String) (now : Timestamp)
  | createSession (userId deviceId : Uuid) (tokenFingerprint : String) (expiresAt : Timestamp)
  | resolveSession (tokenFingerprint : String) (now : Timestamp)
  | revokeSession (sessionId : Uuid) (now : Timestamp)
  | listDevices (userId : Uuid)
  | revokeDevice (userId deviceId : Uuid) (now : Timestamp)
  | putWsTicket (ticketFingerprint : String) (sessionId : Uuid) (channel : String)
      (expiresAt : Timestamp)
  | consumeWsTicket (ticketFingerprint channel : String) (now : Timestamp)
  | cachedMetadata
  | cacheMetadata (metadata : ProviderMetadata)
  | httpGet (url : Str)
  | httpPost (url : Str) (data : List (String × String))
  | getUnverifiedHeader (idToken : Str)
  /-- `jwt.decode` with the key that `PyJWK.from_dict` makes of `jwk`. -/
  | jwtDecode (idToken : Str) (jwk : Dict) (algorithm : String)

def Answer : Call → Type
  | .now => Timestamp
  | .randomToken _ => String
  | .urandom _ => List UInt8
  | .putFlow .. => Unit
  | .consumeFlow .. => Option Flow
  | .putLoginGrant .. => Unit
  | .consumeLoginGrant .. => Option String
  | .provisionIdentity _ => Uuid
  | .registerDevice .. => Uuid
  | .createSession .. => Uuid
  | .resolveSession .. => Option Principal
  | .revokeSession .. => Unit
  | .listDevices _ => List Device
  | .revokeDevice .. => Bool
  | .putWsTicket .. => Unit
  | .consumeWsTicket .. => Option Uuid
  | .cachedMetadata => Option ProviderMetadata
  | .cacheMetadata _ => Unit
  | .httpGet _ => Response
  | .httpPost .. => Response
  | .getUnverifiedHeader _ => JwtHeader
  | .jwtDecode .. => Dict

/-- What one call takes from outside; `none` where PyJWT raises. -/
structure Env where
  clock : Timestamp := 0
  random : ℕ → UInt8 := fun _ => 0
  uuid7 : ℕ → Uuid := fun _ => 0
  response : Except TransportError Response := .error .http
  header : Option JwtHeader := none
  claims : Option Dict := none

/-- The database and the metadata cached by the OIDC client. -/
structure World where
  store : Store
  metadata : Option ProviderMetadata
deriving Inhabited

namespace World

/-- A transaction that may raise. -/
def transact {α : Type} (w : World) (r : Except PyError (α × Store)) : Except PyError α × World :=
  match r with
  | .ok (a, store) => (.ok a, { w with store })
  | .error e => (.error e, w)

/-- A transaction that always commits. -/
def commit {α : Type} (w : World) (r : α × Store) : Except PyError α × World :=
  (.ok r.1, { w with store := r.2 })

end World

def randomBytes (ω : Env) (n : ℕ) : List UInt8 := (List.range n).map ω.random

open PostgresAuthRepository in
/-- The effect of a call on the world. -/
def answer (ω : Env) (w : World) : (call : Call) → Except PyError (Answer call) × World
  | .now => (.ok ω.clock, w)
  | .randomToken n => (.ok (tokenUrlsafe (randomBytes ω n)), w)
  | .urandom n => (.ok (randomBytes ω n), w)
  | .putFlow fp payload uri expiresAt => w.transact (putFlow ω.uuid7 w.store fp payload uri expiresAt)
  | .consumeFlow fp now => w.commit (consumeFlow w.store fp now)
  | .putLoginGrant fp payload expiresAt =>
    w.transact (putLoginGrant ω.uuid7 w.store fp payload expiresAt)
  | .consumeLoginGrant fp now => w.commit (consumeLoginGrant w.store fp now)
  | .provisionIdentity identity => w.transact (provisionIdentity ω.uuid7 w.store identity)
  | .registerDevice userId fp platform now =>
    w.transact (registerDevice ω.uuid7 ω.clock w.store userId fp platform now)
  | .createSession userId deviceId fp expiresAt =>
    w.transact (createSession ω.uuid7 w.store userId deviceId fp expiresAt)
  | .resolveSession fp now => (.ok (resolveSession w.store fp now), w)
  | .revokeSession sessionId now => w.transact (revokeSession ω.uuid7 w.store sessionId now)
  | .listDevices userId => (.ok (listDevices w.store userId), w)
  | .revokeDevice userId deviceId now => w.commit (revokeDevice w.store userId deviceId now)
  | .putWsTicket fp sessionId channel expiresAt =>
    w.transact (putWsTicket ω.uuid7 w.store fp sessionId channel expiresAt)
  | .consumeWsTicket fp channel now => w.commit (consumeWsTicket w.store fp channel now)
  | .cachedMetadata => (.ok w.metadata, w)
  | .cacheMetadata metadata => (.ok (), { w with metadata := some metadata })
  | .httpGet _ => (ω.response.mapError TransportError.raised, w)
  | .httpPost .. => (ω.response.mapError TransportError.raised, w)
  | .getUnverifiedHeader _ => (ω.header.elim (.error .pyJwtError) .ok, w)
  | .jwtDecode .. => (ω.claims.elim (.error .pyJwtError) .ok, w)

/-- A method of the service: a program over these calls. -/
abbrev Async (α : Type) := Prog Answer PyError α

abbrev ask (call : Call) : Async (Answer call) := Prog.perform call

end Pentagon5.Auth
