import Pentagon5.Auth.World

/-!
# The OpenID Connect client

Discovery, the authorization URL, and the exchange of an authorization code for validated
ID-token claims. The functions on `Json` spell out which exception each shape of an untrusted
document raises.
-/

namespace Pentagon5.Auth

open Python Interleaving Interleaving.Prog

/-- `response.raise_for_status()`. -/
def Response.raiseForStatus (r : Response) : Except PyError Unit :=
  if 200 ≤ r.status ∧ r.status ≤ 299 then .ok () else .error .httpError

/-- `response.json()`. -/
def Response.json (r : Response) : Except PyError Json :=
  match r.body with
  | some value => .ok value
  | none => .error .jsonDecodeError

/-- `value.get(key)`, which only a dictionary has. -/
def getMember (value : Json) (key : String) : Except PyError (Option Json) :=
  match value with
  | .dict entries => .ok (Json.get? entries key)
  | _ => .error .attributeError

/-- `if not p: raise e`. -/
def ensure (p : Prop) [Decidable p] (e : PyError) : Except PyError Unit :=
  if p then .ok () else .error e

lemma ensure_ok {p : Prop} [Decidable p] {e : PyError} {u : Unit} (h : ensure p e = .ok u) : p := by
  unfold ensure at h
  split at h
  · assumption
  · cases h

namespace OIDCClient

variable (settings : AuthSettings)

/-- `str(value)`; of a value that is not text only the first character is kept, and none of
these begins a URL scheme. -/
def endpointText : Json → Str
  | .str value => value
  | .null => "N"
  | .bool true => "T"
  | .bool false => "F"
  | .int value => (toString value : String)
  | .float lexeme => lexeme.toLower
  | .list _ => "["
  | .dict _ => "\x7b"

/-- The validation in `metadata` of the discovery document. -/
def providerMetadata (document : Json) : Except PyError ProviderMetadata := do
  let issuer ← getMember document "issuer"
  ensure (issuer.bind Json.str? = some (settings.issuer : Str))
    (.oidcError "discovered issuer does not match configured issuer")
  match ← getMember document "authorization_endpoint", ← getMember document "token_endpoint",
    ← getMember document "jwks_uri" with
  | some authorization, some token, some jwks =>
    let endpoints := [authorization, token, jwks].map endpointText
    ensure (endpoints.all fun value => value.startsWith "https://" ∨ value.startsWith "http://")
      (.oidcError "provider endpoints must be absolute HTTP URLs")
    ensure (settings.environment ∈ ["development", "test"] ∨
        endpoints.all fun value => value.startsWith "https://")
      (.oidcError "provider endpoints must use HTTPS")
    return ⟨endpointText authorization, endpointText token, endpointText jwks⟩
  | _, _, _ => .error (.oidcError "provider metadata is incomplete")

def metadata : Async ProviderMetadata := do
  match ← ask .cachedMetadata with
  | some metadata => return metadata
  | none =>
    let response ← ask (.httpGet (settings.issuer ++ "/.well-known/openid-configuration" : String))
    ofExcept response.raiseForStatus
    let document ← ofExcept response.json
    let metadata ← ofExcept (providerMetadata settings document)
    ask (.cacheMetadata metadata)
    return metadata

/-- `authorization_url`. -/
def authorizationUrl (state nonce codeChallenge : String) : Async Str := do
  let metadata ← metadata settings
  let query := urlencode
    [("client_id", settings.clientId), ("redirect_uri", settings.redirectUri),
      ("response_type", "code"), ("scope", "openid email profile"), ("state", state),
      ("nonce", nonce), ("code_challenge", codeChallenge), ("code_challenge_method", "S256")]
  return metadata.authorizationEndpoint ++ ("?" ++ query : String)

/-- The ID token in the answer of the token endpoint. -/
def idTokenOf (document : Json) : Except PyError Str := do
  match (← getMember document "id_token").bind Json.str? with
  | some idToken => .ok idToken
  | none => .error (.oidcError "token response did not contain an ID token")

/-- `algorithm not in {"RS256", "ES256"}`; a set refuses to look up a list or a dictionary. -/
def supportedAlgorithm : Json → Except PyError String
  | .list _ => .error .typeError
  | .dict _ => .error .typeError
  | .str value =>
    if value = ("RS256" : String) then .ok "RS256"
    else if value = ("ES256" : String) then .ok "ES256"
    else .error (.oidcError "ID token uses an unsupported algorithm")
  | _ => .error (.oidcError "ID token uses an unsupported algorithm")

/-- `key.get("kid") == kid`; an absent member is `None` like `null`. -/
def hasKid (kid : Option Str) (key : Dict) : Bool :=
  match Json.get? key "kid", kid with
  | some (.str value), some kid => value = kid
  | some .null, none => true
  | none, none => true
  | _, _ => false

/-- `[key for key in keys if key.get("kid") == kid]` over a list. -/
def matchingKeys (kid : Option Str) : List Json → Except PyError (List Dict)
  | [] => .ok []
  | .dict key :: keys => do
    let matching ← matchingKeys kid keys
    return if hasKid kid key then key :: matching else matching
  | _ :: _ => .error .attributeError

/-- Iterating over `keys`: a text or a dictionary yields texts, which have no `get`. -/
def iterateKeys (kid : Option Str) : Json → Except PyError (List Dict)
  | .list keys => matchingKeys kid keys
  | .str value => if value.codes = [] then .ok [] else .error .attributeError
  | .dict entries => if entries.isEmpty then .ok [] else .error .attributeError
  | _ => .error .typeError

/-- The only key of the key set that carries the `kid`. -/
def signingKey (jwks : Json) (kid : Option Str) : Except PyError Dict := do
  let keys := (← getMember jwks "keys").getD (.list [])
  match ← iterateKeys kid keys with
  | [key] => .ok key
  | _ => .error (.oidcError "ID token signing key was not uniquely identified")

/-- `claims.get("nonce") != nonce` and `claims.get("email_verified") is not True`. -/
def validatedClaims (nonce : String) (claims : Dict) : Except PyError Dict := do
  ensure ((Json.get? claims "nonce").bind Json.str? = some (nonce : Str))
    (.oidcError "ID token nonce does not match")
  match Json.get? claims "email_verified" with
  | some (.bool true) => .ok claims
  | _ => .error (.oidcError "provider email is not verified")

/-- What the claims of a validated ID token say. -/
lemma validatedClaims_ok {nonce : String} {claims claims' : Dict}
    (h : validatedClaims nonce claims = .ok claims') : claims' = claims ∧
      Json.get? claims "nonce" = some (.str nonce) ∧
      Json.get? claims "email_verified" = some (.bool true) := by
  obtain ⟨_, hnonce, h⟩ := Store.bind_ok h
  have hstr : Json.get? claims "nonce" = some (.str nonce) := by
    obtain ⟨value, hget, hvalue⟩ := Option.bind_eq_some_iff.mp (ensure_ok hnonce)
    cases value <;> cases hvalue
    exact hget
  split at h
  · next hverified =>
    cases h
    exact ⟨rfl, hstr, hverified⟩
  · cases h

def exchange (code verifier nonce : String) : Async Dict := do
  let metadata ← metadata settings
  let response ← ask (.httpPost metadata.tokenEndpoint
    [("grant_type", "authorization_code"), ("code", code),
      ("redirect_uri", settings.redirectUri), ("client_id", settings.clientId),
      ("client_secret", settings.clientSecret), ("code_verifier", verifier)])
  ofExcept response.raiseForStatus
  let idToken ← ofExcept (response.json >>= idTokenOf)
  let jwksResponse ← ask (.httpGet metadata.jwksUri)
  ofExcept jwksResponse.raiseForStatus
  let header ← ask (.getUnverifiedHeader idToken)
  let algorithm ← ofExcept (supportedAlgorithm header.alg)
  let jwk ← ofExcept (jwksResponse.json >>= (signingKey · header.kid))
  let claims ← ask (.jwtDecode idToken jwk algorithm)
  ofExcept (validatedClaims nonce claims)

end OIDCClient

end Pentagon5.Auth
