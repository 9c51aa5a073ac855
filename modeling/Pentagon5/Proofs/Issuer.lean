import Pentagon5.Auth.Deployment
import Pentagon5.Auth.Settings
import Pentagon5.Python.Raising

/-!
# The issuer that the client expects

The configured issuer loses its final slashes before it is compared. Discovery and the validation of
ID tokens then follow the configured provider exactly if its identifier has none.
-/

namespace Pentagon5.Auth

open Python Interleaving Interleaving.Prog

/-- PyJWT. -/
structure PyJwt where
  /-- `jwt.get_unverified_header`; `none` where it raises. -/
  header : Str → Option JwtHeader
  /-- `jwt.decode` with a key and an algorithm, for an audience and an issuer. -/
  decode : Str → Dict → String → String → Str → Option Dict
  /-- An accepted token names the expected issuer. -/
  decode_issuer : ∀ {token jwk algorithm audience issuer claims},
    decode token jwk algorithm audience issuer = some claims →
      Json.get? claims "iss" = some (.str issuer)
  /-- The claims are those of the token, whatever issuer is expected. -/
  decode_claims : ∀ {token jwk algorithm audience issuer issuer' claims claims'},
    decode token jwk algorithm audience issuer = some claims →
      decode token jwk algorithm audience issuer' = some claims' → claims = claims'

/-- A provider with its own identifier, which serves its discovery document where the client looks
for it and has endpoints of the accepted form. -/
structure Provider (settings : AuthSettings) where
  issuer : Str
  get : Str → Response
  post : Str → Response
  metadata : ProviderMetadata
  document : Dict
  served : get ↑(settings.issuer ++ "/.well-known/openid-configuration") = ⟨200, some (.dict document)⟩
  issuer_document : Json.get? document "issuer" = some (.str issuer)
  authorization_document :
    Json.get? document "authorization_endpoint" = some (.str metadata.authorizationEndpoint)
  token_document : Json.get? document "token_endpoint" = some (.str metadata.tokenEndpoint)
  jwks_document : Json.get? document "jwks_uri" = some (.str metadata.jwksUri)
  accepted : ∀ endpoint ∈ [metadata.authorizationEndpoint, metadata.tokenEndpoint, metadata.jwksUri],
    endpoint.startsWith "https://" = true ∨
      settings.environment ∈ ["development", "test"] ∧ endpoint.startsWith "http://" = true

/-- An ID token of the provider that is valid for its own issuer. -/
structure Token (jwt : PyJwt) {settings : AuthSettings} (p : Provider settings) (nonce : String) where
  idToken : Str
  header : JwtHeader
  algorithm : String
  jwks : Json
  jwk : Dict
  claims : Dict
  tokenDocument : Dict
  posted : p.post p.metadata.tokenEndpoint = ⟨200, some (.dict tokenDocument)⟩
  idToken_document : Json.get? tokenDocument "id_token" = some (.str idToken)
  jwks_served : p.get p.metadata.jwksUri = ⟨200, some jwks⟩
  header_eq : jwt.header idToken = some header
  supported : OIDCClient.supportedAlgorithm header.alg = .ok algorithm
  identified : OIDCClient.signingKey jwks header.kid = .ok jwk
  valid : jwt.decode idToken jwk algorithm settings.clientId p.issuer = some claims
  nonce_claims : Json.get? claims "nonce" = some (.str nonce)
  verified : Json.get? claims "email_verified" = some (.bool true)

/-- How the calls of the OIDC client are answered; it makes no other. The state is the metadata that
the client has cached. -/
def Provider.reply (jwt : PyJwt) {settings : AuthSettings} (p : Provider settings)
    (cache : Option ProviderMetadata) :
    (call : Call) → Except PyError (Answer call) × Option ProviderMetadata
  | .cachedMetadata => (.ok cache, cache)
  | .cacheMetadata metadata => (.ok (), some metadata)
  | .httpGet url => (.ok (p.get url), cache)
  | .httpPost url _ => (.ok (p.post url), cache)
  | .getUnverifiedHeader idToken => ((jwt.header idToken).elim (.error .pyJwtError) .ok, cache)
  | .jwtDecode idToken jwk algorithm =>
    ((jwt.decode idToken jwk algorithm settings.clientId settings.issuer).elim (.error .pyJwtError) .ok,
      cache)
  | _ => (.error .httpError, cache)

section

variable {jwt : PyJwt} {settings : AuthSettings} {p : Provider settings}

lemma except_error_bind {α β ε : Type} (e : ε) (f : α → Except ε β) :
    (Except.error e >>= f) = .error e := rfl

lemma ensure_of {q : Prop} [Decidable q] (e : PyError) (h : q) : ensure q e = .ok () := if_pos h

lemma ensure_of_not {q : Prop} [Decidable q] (e : PyError) (h : ¬q) : ensure q e = .error e := if_neg h

lemma raiseForStatus_success (body : Option Json) : (Response.mk 200 body).raiseForStatus = .ok () := by
  exact if_pos (show 200 ≤ 200 ∧ 200 ≤ 299 by decide)

/-- The document is accepted for the issuer that it names. -/
lemma providerMetadata_document (p : Provider settings) :
    OIDCClient.providerMetadata settings (.dict p.document) =
      if p.issuer = settings.issuer then .ok p.metadata
      else .error (.oidcError "discovered issuer does not match configured issuer") := by
  have hform : ∀ endpoint ∈ [p.metadata.authorizationEndpoint, p.metadata.tokenEndpoint,
      p.metadata.jwksUri], endpoint.startsWith "https://" = true ∨ endpoint.startsWith "http://" = true :=
    fun endpoint he => (p.accepted endpoint he).imp_right And.right
  have hsecure : settings.environment ∈ ["development", "test"] ∨
      ∀ endpoint ∈ [p.metadata.authorizationEndpoint, p.metadata.tokenEndpoint, p.metadata.jwksUri],
        endpoint.startsWith "https://" = true := by
    by_cases henv : settings.environment ∈ ["development", "test"]
    · exact Or.inl henv
    · exact Or.inr fun endpoint he => (p.accepted endpoint he).resolve_right fun h => henv h.1
  have hmember : ∀ key, getMember (.dict p.document) key = .ok (Json.get? p.document key) := fun _ => rfl
  have hendpoints : [Json.str p.metadata.authorizationEndpoint, .str p.metadata.tokenEndpoint,
      .str p.metadata.jwksUri].map OIDCClient.endpointText =
      [p.metadata.authorizationEndpoint, p.metadata.tokenEndpoint, p.metadata.jwksUri] := rfl
  rw [OIDCClient.providerMetadata]
  simp only [hmember, p.issuer_document, p.authorization_document, p.token_document, p.jwks_document,
    except_ok_bind, hendpoints]
  have hnamed : (some (Json.str p.issuer)).bind Json.str? = some ↑settings.issuer ↔
      p.issuer = settings.issuer := Option.some_inj
  by_cases hissuer : p.issuer = settings.issuer
  · rw [if_pos hissuer, ensure_of _ (hnamed.mpr hissuer), except_ok_bind, ensure_of, except_ok_bind,
      ensure_of, except_ok_bind]
    · rfl
    · simpa using hsecure
    · simpa using hform
  · rw [if_neg hissuer, ensure_of_not _ (hnamed.not.mpr hissuer), except_error_bind]

/-- A new client asks the provider once. -/
lemma run_metadata (p : Provider settings) : (OIDCClient.metadata settings).run (p.reply jwt) none =
    if p.issuer = settings.issuer then (.ok p.metadata, some p.metadata)
    else (.error (.oidcError "discovered issuer does not match configured issuer"), none) := by
  have hcached : (ask .cachedMetadata).run (p.reply jwt) none = (.ok none, none) := run_perform _ _ _
  have hget : (ask (.httpGet ↑(settings.issuer ++ "/.well-known/openid-configuration"))).run
      (p.reply jwt) none = (.ok ⟨200, some (.dict p.document)⟩, none) := by
    rw [ask, run_perform, Provider.reply, p.served]
  rw [OIDCClient.metadata, run_bind_of_ok _ hcached]
  simp only
  rw [run_bind_of_ok _ hget, raiseForStatus_success, run_bind_of_ok _ (run_ofExcept _ _ _), Response.json,
    run_bind_of_ok _ (run_ofExcept _ _ _), providerMetadata_document]
  split_ifs
  · rw [run_bind_of_ok _ (run_ofExcept _ _ _)]
    exact run_bind_of_ok _ (run_perform _ none (Call.cacheMetadata p.metadata))
  · rw [run_bind_of_error _ (run_ofExcept _ _ _)]

lemma run_metadata_cached (p : Provider settings) (metadata : ProviderMetadata) :
    (OIDCClient.metadata settings).run (p.reply jwt) (some metadata) = (.ok metadata, some metadata) := by
  have hcached : (ask .cachedMetadata).run (p.reply jwt) (some metadata) =
      (.ok (some metadata), some metadata) := run_perform _ _ _
  rw [OIDCClient.metadata, run_bind_of_ok _ hcached]
  exact run_pure _ _ _

/-- What a client has cached after it met the provider, or nothing. -/
def Provider.Cached (p : Provider settings) (cache : Option ProviderMetadata) : Prop :=
  cache = none ∨ cache = some p.metadata

lemma validatedClaims_token {nonce : String} (t : Token jwt p nonce) :
    OIDCClient.validatedClaims nonce t.claims = .ok t.claims := by
  have hnonce : (Json.get? t.claims "nonce").bind Json.str? = some ↑nonce := by
    rw [t.nonce_claims]
    rfl
  rw [OIDCClient.validatedClaims, ensure_of _ hnonce, except_ok_bind, t.verified]

/-- A token is valid for no issuer but its own. -/
lemma Token.decode_other {nonce : String} (t : Token jwt p nonce) (h : p.issuer ≠ settings.issuer) :
    jwt.decode t.idToken t.jwk t.algorithm settings.clientId settings.issuer = none := by
  cases hdecode : jwt.decode t.idToken t.jwk t.algorithm settings.clientId settings.issuer with
  | none => rfl
  | some claims =>
    have hown := jwt.decode_issuer t.valid
    have hother := jwt.decode_issuer hdecode
    rw [← jwt.decode_claims t.valid hdecode, hown] at hother
    exact absurd (Json.str.inj (Option.some.inj hother)) h

/-- The validation of a token after its discovery. -/
lemma run_exchange {nonce : String} (t : Token jwt p nonce) (code verifier : String)
    {cache cache' : Option ProviderMetadata}
    (hmetadata : (OIDCClient.metadata settings).run (p.reply jwt) cache = (.ok p.metadata, cache')) :
    ((OIDCClient.exchange settings code verifier nonce).run (p.reply jwt) cache).1 =
      if p.issuer = settings.issuer then .ok t.claims else .error .pyJwtError := by
  have hpost : (ask (.httpPost p.metadata.tokenEndpoint
      [("grant_type", "authorization_code"), ("code", code),
        ("redirect_uri", settings.redirectUri), ("client_id", settings.clientId),
        ("client_secret", settings.clientSecret), ("code_verifier", verifier)])).run (p.reply jwt) cache' =
      (.ok ⟨200, some (.dict t.tokenDocument)⟩, cache') := by
    rw [ask, run_perform, Provider.reply, t.posted]
  have htoken : (Response.mk 200 (some (.dict t.tokenDocument))).json >>= OIDCClient.idTokenOf =
      .ok t.idToken := by
    have hmember : getMember (.dict t.tokenDocument) "id_token" =
        .ok (Json.get? t.tokenDocument "id_token") := rfl
    rw [Response.json, except_ok_bind, OIDCClient.idTokenOf, hmember, t.idToken_document]
    rfl
  have hkeys : (ask (.httpGet p.metadata.jwksUri)).run (p.reply jwt) cache' =
      (.ok ⟨200, some t.jwks⟩, cache') := by
    rw [ask, run_perform, Provider.reply, t.jwks_served]
  have hheader : (ask (.getUnverifiedHeader t.idToken)).run (p.reply jwt) cache' =
      (.ok t.header, cache') := by
    rw [ask, run_perform, Provider.reply, t.header_eq]
    rfl
  have hjwk : (Response.mk 200 (some t.jwks)).json >>= (OIDCClient.signingKey · t.header.kid) =
      .ok t.jwk := by
    rw [Response.json, except_ok_bind, t.identified]
  rw [OIDCClient.exchange, run_bind_of_ok _ hmetadata, run_bind_of_ok _ hpost, raiseForStatus_success,
    run_bind_of_ok _ (run_ofExcept _ _ _), htoken, run_bind_of_ok _ (run_ofExcept _ _ _),
    run_bind_of_ok _ hkeys, raiseForStatus_success, run_bind_of_ok _ (run_ofExcept _ _ _),
    run_bind_of_ok _ hheader, t.supported, run_bind_of_ok _ (run_ofExcept _ _ _), hjwk,
    run_bind_of_ok _ (run_ofExcept _ _ _)]
  by_cases hissuer : p.issuer = settings.issuer
  · have hdecode : (ask (.jwtDecode t.idToken t.jwk t.algorithm)).run (p.reply jwt) cache' =
        (.ok t.claims, cache') := by
      rw [ask, run_perform, Provider.reply, ← hissuer, t.valid]
      rfl
    rw [if_pos hissuer, run_bind_of_ok _ hdecode, run_ofExcept, validatedClaims_token t]
  · have hdecode : (ask (.jwtDecode t.idToken t.jwk t.algorithm)).run (p.reply jwt) cache' =
        (.error .pyJwtError, cache') := by
      rw [ask, run_perform, Provider.reply, t.decode_other hissuer]
      rfl
    rw [if_neg hissuer, run_bind_of_error _ hdecode]

end

/-- The client accepts the discovery document and the tokens of a provider whose identifier is `v`,
and refuses those of all others. -/
structure FollowsIssuer (jwt : PyJwt) (settings : AuthSettings) (v : String) : Prop where
  discovered : ∀ p : Provider settings, p.issuer = v →
    ((OIDCClient.metadata settings).run (p.reply jwt) none).1 = .ok p.metadata
  exchanged : ∀ (p : Provider settings) (nonce : String) (t : Token jwt p nonce)
    (code verifier : String) (cache : Option ProviderMetadata), p.issuer = v → p.Cached cache →
      ((OIDCClient.exchange settings code verifier nonce).run (p.reply jwt) cache).1 = .ok t.claims
  undiscovered : ∀ p : Provider settings, p.issuer ≠ v →
    ∃ e, ((OIDCClient.metadata settings).run (p.reply jwt) none).1 = .error e
  refused : ∀ (p : Provider settings) (nonce : String) (_ : Token jwt p nonce)
    (code verifier : String) (cache : Option ProviderMetadata), p.issuer ≠ v → p.Cached cache →
      ∃ e, ((OIDCClient.exchange settings code verifier nonce).run (p.reply jwt) cache).1 = .error e

section

variable {jwt : PyJwt} {settings : AuthSettings}

/-- The client follows the issuer that it has after the slashes were taken off. -/
lemma followsIssuer_self : FollowsIssuer jwt settings settings.issuer where
  discovered p hp := by rw [run_metadata, if_pos hp]
  exchanged p nonce t code verifier cache hp hcache := by
    rcases hcache with rfl | rfl
    · rw [run_exchange t code verifier ((run_metadata p).trans (if_pos hp)), if_pos hp]
    · rw [run_exchange t code verifier (run_metadata_cached p p.metadata), if_pos hp]
  undiscovered p hp := ⟨_, by rw [run_metadata, if_neg hp]⟩
  refused p nonce t code verifier cache hp hcache := by
    rcases hcache with rfl | rfl
    · refine ⟨.oidcError "discovered issuer does not match configured issuer", ?_⟩
      rw [OIDCClient.exchange, run_bind_of_error _ ((run_metadata p).trans (if_neg hp))]
    · refine ⟨.pyJwtError, ?_⟩
      rw [run_exchange t code verifier (run_metadata_cached p p.metadata), if_neg hp]

/-- A discovery document for an identifier. -/
def documentOf (issuer : Str) : Dict :=
  [("issuer", .str issuer), ("authorization_endpoint", .str "https://id.example/authorize"),
    ("token_endpoint", .str "https://id.example/token"), ("jwks_uri", .str "https://id.example/jwks")]

def providerOf (settings : AuthSettings) (issuer : Str) : Provider settings where
  issuer := issuer
  get _ := ⟨200, some (.dict (documentOf issuer))⟩
  post _ := ⟨404, none⟩
  metadata := ⟨"https://id.example/authorize", "https://id.example/token", "https://id.example/jwks"⟩
  document := documentOf issuer
  served := rfl
  issuer_document := rfl
  authorization_document := rfl
  token_document := rfl
  jwks_document := rfl
  accepted := by
    intro endpoint he
    left
    simp only [List.mem_cons, List.not_mem_nil, or_false] at he
    rcases he with rfl | rfl | rfl <;> decide

/-- Whatever else is configured, the client follows the configured issuer exactly if that does not
end in a slash. -/
theorem followsIssuer_iff (jwt : PyJwt) (U : Urllib) (other settings : AuthSettings)
    (values : String → Option String) (v : String) (hv : values "P5_OIDC_ISSUER" = some v)
    (hload : loadAuthSettings U other values = .ok settings) :
    FollowsIssuer jwt settings v ↔ v.toList.getLast? ≠ some '/' := by
  have hissuer := loadAuthSettings_issuer hload
  rw [hv, Option.getD_some] at hissuer
  rw [← rstrip_eq_self_iff, ← hissuer]
  constructor
  · intro h
    by_contra hne
    have haccepted := h.discovered (providerOf settings v) rfl
    have hother : (providerOf settings v).issuer ≠ settings.issuer :=
      fun heq => hne (Str.ofString_injective heq).symm
    rw [run_metadata, if_neg hother] at haccepted
    cases haccepted
  · intro heq
    rw [← heq]
    exact followsIssuer_self

end

namespace Sample

def urllib : Urllib := ⟨fun _ => none⟩

/-- The environment of a process with this issuer. -/
def environ (issuer name : String) : Option String :=
  if name = "P5_OIDC_ISSUER" then some issuer
  else if name = "P5_OIDC_CLIENT_ID" then some settings.clientId
  else if name = "P5_OIDC_REDIRECT_URI" then some settings.redirectUri
  else if name = "P5_DESKTOP_CALLBACK_URI" then some settings.desktopCallbackUri
  else none

/-- The claims of a token with the identifier of its issuer. -/
def issuedBy (issuer : String) : Dict := ("iss", .str issuer) :: claims

/-- PyJWT for a provider whose one token is `h.p.s`. -/
def jwt (own : String) : PyJwt where
  header idToken := if idToken = "h.p.s" then some ⟨.str "RS256", some "k1"⟩ else none
  decode idToken _ _ audience issuer :=
    if idToken = "h.p.s" ∧ audience = settings.clientId ∧ issuer = own then some (issuedBy own) else none
  decode_issuer h := by
    split_ifs at h with hvalid
    rw [← Option.some.inj h, hvalid.2.2]
    rfl
  decode_claims h h' := by
    split_ifs at h h'
    exact (Option.some.inj h).symm.trans (Option.some.inj h')

theorem followsIssuer_iff_plain : FollowsIssuer (jwt "https://id.example") settings "https://id.example" ↔
    "https://id.example".toList.getLast? ≠ some '/' :=
  followsIssuer_iff (jwt "https://id.example") urllib settings settings (environ "https://id.example")
    "https://id.example" rfl rfl

/-- A provider that publishes its identifier with a slash at the end. -/
theorem not_followsIssuer_slash :
    ¬∀ (jwt : PyJwt) (U : Urllib) (other settings : AuthSettings) (values : String → Option String)
      (v : String), values "P5_OIDC_ISSUER" = some v → loadAuthSettings U other values = .ok settings →
        FollowsIssuer jwt settings v := by
  intro h
  have hload : loadAuthSettings urllib settings (environ "https://id.example/") = .ok settings := rfl
  have hfollows := h (jwt "https://id.example/") urllib settings settings _ "https://id.example/" rfl hload
  have haccepted := hfollows.discovered (providerOf settings "https://id.example/") rfl
  have hother : (providerOf settings "https://id.example/").issuer ≠ settings.issuer := by decide
  rw [run_metadata, if_neg hother] at haccepted
  cases haccepted

end Sample

end Pentagon5.Auth
