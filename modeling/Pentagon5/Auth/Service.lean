import Pentagon5.Auth.Oidc

/-!
# The authentication service

The methods of `AuthenticationService`, call for call in the order of the source.
-/

namespace Pentagon5.Auth.AuthenticationService

open Python Interleaving Interleaving.Prog

variable (settings : AuthSettings) (crypto : Primitives)

def platforms : List String := ["macos", "windows", "linux", "ios", "android", "web"]

def wsChannels : List String := ["system.health", "session.events"]

/-- `_seal`. -/
def sealPayload (payload : List (String × String)) (associatedData : List UInt8) : Async String := do
  let nonce ← ask (.urandom 12)
  return sealed settings crypto nonce payload associatedData

/-- The payload that `start_login` seals. -/
def flowPayload (verifier nonce deviceKey platform : String) : List (String × String) :=
  [("verifier", verifier), ("nonce", nonce), ("device_key", deviceKey), ("platform", platform)]

def startLogin (deviceKey platform : String) : Async Str := do
  require (8 ≤ deviceKey.length ∧ deviceKey.length ≤ 200)
    (.authenticationError "device key must contain 8 to 200 characters")
  require (platform ∈ platforms) (.authenticationError "unsupported device platform")
  let state ← ask (.randomToken 32)
  let nonce ← ask (.randomToken 32)
  let verifier ← ask (.randomToken 48)
  let payload ← sealPayload settings crypto (flowPayload verifier nonce deviceKey platform) flowPurpose
  let now : Timestamp ← ask .now
  ask (.putFlow (fingerprint settings crypto state) payload settings.redirectUri
    (now + seconds settings.flowTtlSeconds))
  OIDCClient.authorizationUrl settings state nonce (pkceChallenge crypto verifier)

def completeLogin (state code : String) : Async LoginRedirect := do
  require (state ≠ "" ∧ code ≠ "")
    (.authenticationError "state and authorization code are required")
  let now : Timestamp ← ask .now
  let some flow ← ask (.consumeFlow (fingerprint settings crypto state) now)
    | raise (.authenticationError "authorization transaction is invalid or expired")
  require (flow.redirectUri = settings.redirectUri)
    (.authenticationError "authorization redirect URI does not match")
  let payload ← ofExcept (opened settings crypto flow.encryptedPayload flowPurpose)
  let verifier ← ofExcept (required payload "verifier")
  let nonce ← ofExcept (required payload "nonce")
  let claims ← OIDCClient.exchange settings code verifier nonce
  let identity ← ofExcept (identity settings crypto claims)
  let userId ← ask (.provisionIdentity identity)
  let deviceKey ← ofExcept (required payload "device_key")
  let platform ← ofExcept (required payload "platform")
  let deviceId ← ask
    (.registerDevice userId (fingerprint settings crypto deviceKey) platform now)
  let token ← ask (.randomToken 32)
  let tokenFingerprint := fingerprint settings crypto token
  let expiresAt := now + seconds settings.sessionTtlSeconds
  let _ ← ask (.createSession userId deviceId tokenFingerprint expiresAt)
  let some _ ← ask (.resolveSession tokenFingerprint now)
    | raise (.authenticationError "identity is not permitted to create a session")
  let grantCode ← ask (.randomToken 32)
  let payload ← sealPayload settings crypto [("session_token", token)] grantPurpose
  ask (.putLoginGrant (fingerprint settings crypto grantCode) payload
    (now + seconds settings.loginGrantTtlSeconds))
  return ⟨grantCode, settings.desktopCallbackUri ++ "?" ++ urlencode [("code", grantCode)]⟩

def authenticate (token : String) : Async Principal := do
  require (token ≠ "") (.authenticationError "session token is required")
  let now : Timestamp ← ask .now
  let some principal ← ask (.resolveSession (fingerprint settings crypto token) now)
    | raise (.authenticationError "session is invalid or expired")
  return principal

def exchangeLoginGrant (code : String) : Async SessionGrant := do
  require (code ≠ "") (.authenticationError "login grant code is required")
  let now : Timestamp ← ask .now
  let some encrypted ← ask (.consumeLoginGrant (fingerprint settings crypto code) now)
    | raise (.authenticationError "login grant is invalid or expired")
  let payload ← ofExcept (opened settings crypto encrypted grantPurpose)
  let token ← ofExcept (required payload "session_token")
  let principal ← authenticate settings crypto token
  return ⟨token, principal⟩

/-- `require`. -/
def requirePermission (principal : Principal) (permission : String) : Async Unit :=
  require (permission ∈ principal.permissions)
    (.permissionDenied ("missing permission: " ++ permission))

def logout (principal : Principal) : Async Unit := do
  let now : Timestamp ← ask .now
  ask (.revokeSession principal.sessionId now)

def devices (principal : Principal) : Async (List Device) :=
  ask (.listDevices principal.userId)

def revokeDevice (principal : Principal) (deviceId : Uuid) : Async Unit := do
  let now : Timestamp ← ask .now
  let revoked : Bool ← ask (.revokeDevice principal.userId deviceId now)
  require (revoked = true) (.authenticationError "device was not found")

def issueWsTicket (principal : Principal) (channel : String) : Async String := do
  require (channel ∈ wsChannels) (.authenticationError "unsupported WebSocket channel")
  (if channel = "system.health" then requirePermission principal "system.health.read" else pure ())
  let ticket : String ← ask (.randomToken 32)
  let now : Timestamp ← ask .now
  ask (.putWsTicket (fingerprint settings crypto ticket) principal.sessionId channel
    (now + seconds settings.wsTicketTtlSeconds))
  return ticket

def consumeWsTicket (ticket channel : String) : Async Uuid := do
  require (channel ∈ wsChannels) (.authenticationError "unsupported WebSocket channel")
  let now : Timestamp ← ask .now
  let some sessionId ← ask
      (.consumeWsTicket (fingerprint settings crypto ticket) channel now)
    | raise (.authenticationError "WebSocket ticket is invalid or expired")
  return sessionId

end Pentagon5.Auth.AuthenticationService
