import Pentagon5.Python.Json
import Mathlib.Data.Finset.Dedup

/-!
# Authentication models

The values that the authentication service passes between its parts, its settings, and the
exceptions it can raise.
-/

namespace Pentagon5.Auth

open Python

abbrev Uuid := BitVec 128

/-- Microseconds since the epoch, in UTC. -/
abbrev Timestamp := ℤ

/-- `timedelta(seconds=n)`. -/
def seconds (n : ℕ) : ℤ := 1000000 * n

/-- A consumed, encrypted OIDC authorization transaction. -/
structure Flow where
  encryptedPayload : String
  redirectUri : String
deriving DecidableEq

/-- Validated provider identity claims. -/
structure Identity where
  issuer : String
  subject : Str
  email : Str
  displayName : Str
deriving DecidableEq

/-- A current global authorization principal. -/
structure Principal where
  userId : Uuid
  sessionId : Uuid
  deviceId : Option Uuid
  email : String
  displayName : String
  roles : List String
  permissions : Finset String
  expiresAt : Timestamp
deriving DecidableEq

/-- A newly-issued opaque session and its public metadata. -/
structure SessionGrant where
  token : String
  principal : Principal
deriving DecidableEq

/-- Desktop redirect containing only a one-time login code. -/
structure LoginRedirect where
  code : String
  redirectUri : String
deriving DecidableEq

/-- A registered client device. -/
structure Device where
  id : Uuid
  platform : String
  lastSeenAt : Option Timestamp
  revokedAt : Option Timestamp
deriving DecidableEq

structure ProviderMetadata where
  authorizationEndpoint : Str
  tokenEndpoint : Str
  jwksUri : Str
deriving DecidableEq

/-- The settings that the service and its OIDC client read; `load_auth_settings` refuses a
shorter HMAC key. -/
structure AuthSettings where
  environment : String
  issuer : String
  clientId : String
  clientSecret : String
  redirectUri : String
  hmacKey : List UInt8
  desktopCallbackUri : String
  sessionTtlSeconds : ℕ
  flowTtlSeconds : ℕ
  loginGrantTtlSeconds : ℕ
  wsTicketTtlSeconds : ℕ
  hmacKey_length : 32 ≤ hmacKey.length

/-- The exceptions, with the text of those that the service raises itself. -/
inductive PyError where
  | authenticationError (message : String)
  | permissionDenied (message : String)
  | oidcError (message : String)
  | httpError
  | invalidUrl
  | pyJwtError
  | jsonDecodeError
  | attributeError
  | typeError
  | unicodeEncodeError
  | integrityError
  | dataError
deriving DecidableEq

end Pentagon5.Auth
