import Pentagon5.Auth.Config
import Pentagon5.Python.Base64
import Pentagon5.Runtime.Config

/-!
# The settings of the authentication process

`load_auth_settings` on a whole environment, in the parts before, at and behind the session key.
-/

namespace Pentagon5.Auth.Environment

open Python Pentagon5.Runtime.Config

structure AuthPlatform extends ConfigPlatform where
  interpreter : Interpreter
  lower : Str → Str

def authKeys : List String := ["P5_OIDC_CLIENT_ID", "P5_OIDC_CLIENT_SECRET",
  "P5_OIDC_CLIENT_SECRET_FILE", "P5_OIDC_ISSUER", "P5_OIDC_REDIRECT_URI", "P5_DESKTOP_CALLBACK_URI",
  "P5_LOGIN_GRANT_TTL_SECONDS", "P5_SESSION_HMAC_KEY", "P5_SESSION_HMAC_KEY_FILE",
  "P5_SESSION_TTL_SECONDS", "P5_OIDC_FLOW_TTL_SECONDS", "P5_WS_TICKET_TTL_SECONDS",
  "P5_WS_MAX_FRAME_BYTES", "P5_WS_MAX_SUBSCRIPTIONS", "P5_WEB_COOKIE_MODE"]

/-- An accepted session key. -/
structure HmacKey where
  bytes : List UInt8
  length_bytes : 32 ≤ bytes.length
deriving DecidableEq

/-- What the settings take from the provider variables. -/
structure OidcSettings where
  runtime : RuntimeSettings
  issuer : Str
  clientId : Str
  redirectUri : Str
  desktopCallbackUri : Str
  webCookieMode : Bool
deriving DecidableEq

/-- What the settings take from the other secret and the limits. -/
structure LimitSettings where
  clientSecret : Str
  sessionTtlSeconds : ℕ
  flowTtlSeconds : ℕ
  loginGrantTtlSeconds : ℕ
  wsTicketTtlSeconds : ℕ
  wsMaxFrameBytes : ℕ
  wsMaxSubscriptions : ℕ
deriving DecidableEq

/-- `AuthSettings`. -/
structure AuthSettings where
  oidc : OidcSettings
  hmacKey : HmacKey
  limits : LimitSettings
deriving DecidableEq

section

variable (P : AuthPlatform) (environ : Environ)

/-- `load_auth_settings` before the session key. -/
def loadOidcSettings : Except ConfigError OidcSettings := do
  let runtime ← loadRuntimeSettings P.toConfigPlatform environ authKeys
  let issuer : Str := ⟨((environ.get "P5_OIDC_ISSUER").getD "").codes.rdropWhile (· = '/'.toNat)⟩
  let redirectUri := (environ.get "P5_OIDC_REDIRECT_URI").getD ""
  let clientId := (environ.get "P5_OIDC_CLIENT_ID").getD ""
  let desktopCallbackUri := (environ.get "P5_DESKTOP_CALLBACK_URI").getD ""
  if issuer = ⟨[]⟩ ∨ clientId = ⟨[]⟩ ∨ redirectUri = ⟨[]⟩ ∨ desktopCallbackUri = ⟨[]⟩ then
    .error (.configurationError
      "OIDC issuer, client ID, provider redirect URI, and desktop callback URI are required")
  else
    match urlparse P.refused issuer, urlparse P.refused redirectUri, urlparse P.refused desktopCallbackUri with
    | some issuerUrl, some redirectUrl, some desktopUrl =>
      let isLocal := runtime.environment ∈ ["development", "test"].map Str.ofString
      if ¬isLocal ∧ (issuerUrl.scheme ≠ "https" ∨ redirectUrl.scheme ≠ "https") then
        .error (.configurationError "OIDC issuer and redirect URI must use HTTPS")
      else if isLocal ∧ issuerUrl.scheme ∉ ["http", "https"].map Str.ofString then
        .error (.configurationError "OIDC issuer must use HTTP or HTTPS")
      else if desktopUrl.scheme = ⟨[]⟩ ∨ desktopUrl.scheme ∈ ["http", "https"].map Str.ofString ∨
          desktopUrl.query ≠ ⟨[]⟩ ∨ desktopUrl.fragment ≠ ⟨[]⟩ ∨ desktopUrl.netloc = ⟨[]⟩ then
        .error (.configurationError
          "P5_DESKTOP_CALLBACK_URI must be an exact custom URI without query or fragment")
      else
        let webCookieValue := P.lower ((environ.get "P5_WEB_COOKIE_MODE").getD "false")
        if webCookieValue ∉ ["true", "false"].map Str.ofString then
          .error (.configurationError "P5_WEB_COOKIE_MODE must be true or false")
        else
          return ⟨runtime, issuer, clientId, redirectUri, desktopCallbackUri, webCookieValue = "true"⟩
    | _, _, _ => .error .valueError

/-- `base64.b64decode` of a key, padded to a multiple of four characters. -/
def decodeKey (rawKey : Str) : Option (List UInt8) :=
  (rawKey ++ Str.ofString (ofChars (Base64.padding rawKey.codes.length))).encode?.bind Base64.b64decode

/-- The session key of `load_auth_settings`. -/
def loadHmacKey : Except ConfigError HmacKey := do
  let rawKey ← secretValue P.toConfigPlatform environ "P5_SESSION_HMAC_KEY"
  match decodeKey rawKey with
  | none => .error (.configurationError "P5_SESSION_HMAC_KEY must be URL-safe base64")
  | some bytes =>
    if h : 32 ≤ bytes.length then .ok ⟨bytes, h⟩
    else .error (.configurationError "P5_SESSION_HMAC_KEY must decode to at least 32 bytes")

/-- `_positive_int`. -/
def positiveInt (name : String) (default maximum : ℕ) : Except ConfigError ℕ :=
  (Auth.positiveInt P.interpreter environ.get name default maximum).mapError
    fun message : String => .configurationError message

/-- `load_auth_settings` behind the session key. -/
def loadLimitSettings : Except ConfigError LimitSettings := do
  let wsMaxFrameBytes ← positiveInt P environ "P5_WS_MAX_FRAME_BYTES" 16384 65536
  if wsMaxFrameBytes < 1024 then
    .error (.configurationError "P5_WS_MAX_FRAME_BYTES must be at least 1024")
  else
    let clientSecret ← secretValue P.toConfigPlatform environ "P5_OIDC_CLIENT_SECRET"
    let sessionTtlSeconds ← positiveInt P environ "P5_SESSION_TTL_SECONDS" 28800 86400
    let flowTtlSeconds ← positiveInt P environ "P5_OIDC_FLOW_TTL_SECONDS" 300 600
    let loginGrantTtlSeconds ← positiveInt P environ "P5_LOGIN_GRANT_TTL_SECONDS" 60 120
    let wsTicketTtlSeconds ← positiveInt P environ "P5_WS_TICKET_TTL_SECONDS" 30 60
    let wsMaxSubscriptions ← positiveInt P environ "P5_WS_MAX_SUBSCRIPTIONS" 1 4
    return ⟨clientSecret, sessionTtlSeconds, flowTtlSeconds, loginGrantTtlSeconds, wsTicketTtlSeconds,
      wsMaxFrameBytes, wsMaxSubscriptions⟩

/-- `load_auth_settings`. -/
def loadAuthSettings : Except ConfigError AuthSettings := do
  let oidc ← loadOidcSettings P environ
  let hmacKey ← loadHmacKey P environ
  let limits ← loadLimitSettings P environ
  return ⟨oidc, hmacKey, limits⟩

end

end Pentagon5.Auth.Environment
