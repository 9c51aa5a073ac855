import Pentagon5.Auth.Models
import Pentagon5.Python.Url

/-!
# Settings of the OpenID Connect client

The part of `load_auth_settings` that reads the issuer, the client and the two callback addresses.
-/

namespace Pentagon5.Auth

open Python

/-- The check of `P5_DESKTOP_CALLBACK_URI`. -/
def SplitResult.isCustomUri (url : SplitResult) : Bool :=
  url.scheme ≠ "" ∧ url.scheme ∉ ["http", "https"] ∧ url.query = "" ∧ url.fragment = "" ∧ url.netloc ≠ ""

/-- `load_auth_settings`, where `other` holds what it takes from the other variables. -/
def loadAuthSettings (U : Urllib) (other : AuthSettings) (values : String → Option String) :
    Except Raised AuthSettings := do
  let issuer := rstrip ((values "P5_OIDC_ISSUER").getD "") '/'
  let redirectUri := (values "P5_OIDC_REDIRECT_URI").getD ""
  let clientId := (values "P5_OIDC_CLIENT_ID").getD ""
  let desktopCallbackUri := (values "P5_DESKTOP_CALLBACK_URI").getD ""
  if issuer = "" ∨ clientId = "" ∨ redirectUri = "" ∨ desktopCallbackUri = "" then
    .error (.valueError
      "OIDC issuer, client ID, provider redirect URI, and desktop callback URI are required")
  else
    let issuerUrl ← urlsplit U issuer
    let redirectUrl ← urlsplit U redirectUri
    let desktopUrl ← urlsplit U desktopCallbackUri
    if other.environment ∉ ["development", "test"] ∧
        (issuerUrl.scheme ≠ "https" ∨ redirectUrl.scheme ≠ "https") then
      .error (.valueError "OIDC issuer and redirect URI must use HTTPS")
    else if other.environment ∈ ["development", "test"] ∧ issuerUrl.scheme ∉ ["http", "https"] then
      .error (.valueError "OIDC issuer must use HTTP or HTTPS")
    else if SplitResult.isCustomUri desktopUrl = false then
      .error (.valueError "P5_DESKTOP_CALLBACK_URI must be an exact custom URI without query or fragment")
    else .ok { other with issuer, clientId, redirectUri, desktopCallbackUri }

lemma loadAuthSettings_issuer {U : Urllib} {other settings : AuthSettings}
    {values : String → Option String} (h : loadAuthSettings U other values = .ok settings) :
    settings.issuer = rstrip ((values "P5_OIDC_ISSUER").getD "") '/' := by
  unfold loadAuthSettings at h
  simp only at h
  split_ifs at h
  obtain ⟨issuerUrl, -, h⟩ := bind_eq_ok.mp h
  obtain ⟨redirectUrl, -, h⟩ := bind_eq_ok.mp h
  obtain ⟨desktopUrl, -, h⟩ := bind_eq_ok.mp h
  split_ifs at h
  rw [← Except.ok.inj h]

end Pentagon5.Auth
