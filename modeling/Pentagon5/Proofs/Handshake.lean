import Pentagon5.Auth.TokenText
import Pentagon5.Proofs.AuthorizationUrl
import Pentagon5.Proofs.BrowserLogin
import Pentagon5.Proofs.ProviderEndpoints

/-!
# From the service to the system browser

The authorization URL that a login returns is one that the shell opens, as long as the endpoint of the
provider and the redirect address are web addresses that the shell trusts; what it opens carries the
state and the challenge of that login.
-/

namespace Pentagon5.Auth

open Interleaving Interleaving.Prog Python AuthenticationService

variable {settings : AuthSettings} {crypto : Primitives}

variable (settings crypto) in
/-- The thread drew the values of a login and stored its flow. -/
structure Started (t : Trace) (F : Start) : Prop where
  drawn : F.Drawn t
  stored : Did t (.putFlow (fingerprint settings crypto F.state) (F.payload settings crypto) settings.redirectUri
    (F.now + seconds settings.flowTtlSeconds)) ()

lemma Started.append {t : Trace} {F : Start} (h : Started settings crypto t F) (new : Trace) :
    Started settings crypto (new ++ t) F where
  drawn := ⟨h.drawn.state.append new, h.drawn.nonce.append new, h.drawn.verifier.append new,
    h.drawn.sealing.append new, h.drawn.now.append new⟩
  stored := h.stored.append new

variable (settings crypto) in
/-- The address that the browser is to open for a login. -/
def Start.url (F : Start) (endpoint : Str) : Str :=
  requestUrl endpoint (requestParameters settings F.state F.nonce (pkceChallenge crypto F.verifier))

variable (settings crypto) in
/-- The address is that of a login which the thread started with a provider that it knows. -/
def Asked (deviceKey platform : String) (t : Trace) (url : Str) : Prop :=
  ∃ F : Start, F.deviceKey = deviceKey ∧ F.platform = platform ∧ Started settings crypto t F ∧
    ∃ m, Obtained t m ∧ url = F.url settings crypto m.authorizationEndpoint

lemma asked_authorizationUrl {t : Trace} {F : Start} (h : Started settings crypto t F) :
    Meets (fun _ _ => True) (fun t r => ∀ url, r = .ok url → Asked settings crypto F.deviceKey F.platform t url) t
      (OIDCClient.authorizationUrl settings F.state F.nonce (pkceChallenge crypto F.verifier)) := by
  refine meets_bind (((meets_extends _).and metadata_obtained).mono (fun _ _ _ => trivial) fun t' r hr => ?_)
  obtain ⟨⟨new, rfl⟩, hobtained⟩ := hr
  cases r with
  | error e =>
    intro url hurl
    cases hurl
  | ok metadata =>
    rintro url ⟨⟩
    exact ⟨F, rfl, rfl, h.append new, metadata, hobtained metadata rfl, rfl⟩

lemma spec_authorizationUrl {q : Request} {t : Trace} {F : Start} (h : Started settings crypto t F) :
    Spec settings crypto q t
      (OIDCClient.authorizationUrl settings F.state F.nonce (pkceChallenge crypto F.verifier))
      (Asked settings crypto F.deviceKey F.platform) :=
  ((authorizationUrl_free _ _ _).and (asked_authorizationUrl h)).mono (fun _ _ h => callSpec_free h.1)
    fun _ _ h => h.2

/-- The rest of `start_login` when everything is drawn. -/
lemma spec_store {t : Trace} {F : Start} (ht : NoPut t) (h : F.Drawn t) :
    Spec settings crypto (.startLogin F.deviceKey F.platform) t (do
      ask (.putFlow (fingerprint settings crypto F.state) (F.payload settings crypto) settings.redirectUri
        (F.now + seconds settings.flowTtlSeconds))
      OIDCClient.authorizationUrl settings F.state F.nonce (pkceChallenge crypto F.verifier))
      (Asked settings crypto F.deviceKey F.platform) := by
  refine spec_ask_bind ⟨ht, F, rfl, h, rfl, rfl, rfl, rfl⟩ fun _ => spec_authorizationUrl ⟨?_, did_head _ _ _⟩
  exact ⟨h.state.cons _, h.nonce.cons _, h.verifier.cons _, h.sealing.cons _, h.now.cons _⟩

lemma asked_startLogin (deviceKey platform : String) :
    Spec settings crypto (.startLogin deviceKey platform) [] (startLogin settings crypto deviceKey platform)
      (Asked settings crypto deviceKey platform) := by
  refine spec_require_bind fun _ => spec_require_bind fun _ => ?_
  refine spec_ask_bind trivial fun state => spec_ask_bind trivial fun nonce =>
    spec_ask_bind trivial fun verifier => ?_
  refine spec_seal_bind fun sealing => ?_
  refine spec_ask_bind trivial fun now => ?_
  refine spec_store (F := ⟨deviceKey, platform, state, nonce, verifier, sealing, now⟩) (by simp [NoPut, Call.puts]) ?_
  constructor <;> simp [Did]

variable (settings crypto) in
/-- What a request to start a login returns. -/
def AskedFor (q : Request) (t : Trace) (r : Except PyError Reply) : Prop :=
  ∀ deviceKey platform url, q = .startLogin deviceKey platform → r = .ok (.authorizationUrl url) →
    Asked settings crypto deviceKey platform t url

lemma askedFor_serve (q : Request) :
    Meets (fun _ _ => True) (AskedFor settings crypto q) [] (q.serve settings crypto) := by
  by_cases hq : ∃ deviceKey platform, q = .startLogin deviceKey platform
  · obtain ⟨deviceKey, platform, rfl⟩ := hq
    refine meets_bind ((asked_startLogin deviceKey platform).mono (fun _ _ _ => trivial) fun t r hr => ?_)
    cases r with
    | error e =>
      intro _ _ _ _ hurl
      cases hurl
    | ok url =>
      rintro _ _ _ ⟨⟩ ⟨⟩
      exact hr url rfl
  · refine meets_trivial (fun _ _ => trivial) (fun t r deviceKey platform url h _ => ?_) _
    exact absurd ⟨deviceKey, platform, h⟩ hq

/-- The address that a request returned is that of a login which it started. -/
lemma asked_of_run {c : State} (hc : Run settings crypto c) {j : ℕ} {deviceKey platform : String} {url : Str}
    (hj : c.threads j = some ⟨.startLogin deviceKey platform, .ret (.ok (.authorizationUrl url))⟩) :
    Asked settings crypto deviceKey platform (own j c.history) url :=
  hc.meets askedFor_serve hj _ _ _ rfl rfl

end Pentagon5.Auth

namespace Pentagon5.Desktop.Shell

open Interleaving Python Web Auth

/-- The URL with a query. -/
def withQuery (url : Url) (query : String) : Url := { url with query := some query }

/-- The parser reads the endpoint with a query of unreserved characters and escapes as the URL with it. -/
def ReadsQueries (parse : String → Option Url) (endpoint : String) (url : Url) : Prop :=
  ∀ query : String, (∀ c ∈ query.toList, isFormChar c = true) →
    parse (endpoint ++ "?" ++ query) = some (withQuery url query)

/-- A redirect address that the shell takes for the callback of the service. -/
structure IsBackendCallback (redirect : Url) : Prop where
  trusted : Trusted redirect
  ipv4 : ¬OnIpv6Loopback redirect
  path : redirect.path = "/v1/auth/oidc/callback"
  query : redirect.query = none
  fragment : redirect.fragment = none

section

variable {parse : String → Option Url} {url : Url} {parameters : List (String × String)}

lemma queryPairs_withQuery : queryPairs (withQuery url (urlencode parameters)) = parameters := by
  rw [queryPairs, withQuery, Option.getD_some, parse_urlencode, List.map_map]
  have hid : ((fun pair : List Char × List Char => (String.ofList pair.1, String.ofList pair.2)) ∘
      fun pair : String × String => (pair.1.toList, pair.2.toList)) = id := by
    funext pair
    simp
  exact (congrArg (List.map · parameters) hid).trans (List.map_id _)

/-- With distinct names every parameter with a value occurs once. -/
lemma parameter_withQuery (hnodup : (parameters.map Prod.fst).Nodup) {name value text : String}
    (h : (name, value) ∈ parameters) :
    Parameter (withQuery url (urlencode parameters)) name text ↔ text = value ∧ value ≠ "" := by
  rw [Parameter, queryPairs_withQuery, filter_name hnodup h]
  simp only [List.cons.injEq, Prod.mk.injEq, true_and, and_true]
  constructor
  · rintro ⟨rfl, hne⟩
    exact ⟨rfl, hne⟩
  · rintro ⟨rfl, hne⟩
    exact ⟨rfl, hne⟩

section

variable {settings : AuthSettings} {state nonce codeChallenge : String}

variable (settings state nonce codeChallenge) in
/-- The parameters that the shell looks at. -/
lemma mem_requestParameters :
    ("client_id", settings.clientId) ∈ requestParameters settings state nonce codeChallenge ∧
    ("redirect_uri", settings.redirectUri) ∈ requestParameters settings state nonce codeChallenge ∧
    ("response_type", "code") ∈ requestParameters settings state nonce codeChallenge ∧
    ("state", state) ∈ requestParameters settings state nonce codeChallenge ∧
    ("code_challenge", codeChallenge) ∈ requestParameters settings state nonce codeChallenge ∧
    ("code_challenge_method", "S256") ∈ requestParameters settings state nonce codeChallenge := by
  simp [requestParameters]

variable (settings nonce) in
/-- The address of a login is opened exactly if both ends are trusted. -/
lemma validate_withQuery {endpoint : String} (hreads : ReadsQueries parse endpoint url) (hstate : state ≠ "")
    (hchallenge : codeChallenge ≠ "") :
    validateOidcAuthorizationUrl parse
        (endpoint ++ "?" ++ urlencode (requestParameters settings state nonce codeChallenge)) =
      .ok (withQuery url (urlencode (requestParameters settings state nonce codeChallenge))) ↔
      Trusted url ∧ ¬OnIpv6Loopback url ∧ settings.clientId ≠ "" ∧ settings.redirectUri ≠ "" ∧
        ∃ redirect, parse settings.redirectUri = some redirect ∧ IsBackendCallback redirect := by
  have hparse := hreads _ (isFormChar_urlencode (requestParameters settings state nonce codeChallenge))
  have hnodup : ((requestParameters settings state nonce codeChallenge).map Prod.fst).Nodup :=
    nodup_requestParameters
  obtain ⟨hclientId, hredirectUri, htype, hstateParam, hchallengeParam, hmethod⟩ :=
    mem_requestParameters settings state nonce codeChallenge
  rw [validate_eq_ok]
  constructor
  · rintro ⟨redirect, h, hnot, hnotRedirect⟩
    obtain ⟨uri, huri, hredirect⟩ := h.redirectUri
    obtain ⟨client, hclient⟩ := h.clientId
    obtain ⟨rfl, hne⟩ := (parameter_withQuery hnodup hredirectUri).mp huri
    exact ⟨⟨h.trusted.username, h.trusted.password, h.trusted.web⟩, hnot,
      ((parameter_withQuery hnodup hclientId).mp hclient).2, hne, redirect, hredirect,
      ⟨h.trustedRedirect, hnotRedirect, h.path, h.query, h.fragment⟩⟩
  · rintro ⟨htrusted, hnot, hclient, huri, redirect, hredirect, hback⟩
    refine ⟨redirect, ?_, hnot, hback.ipv4⟩
    exact {
      parsed := hparse
      trusted := ⟨htrusted.username, htrusted.password, htrusted.web⟩
      redirectUri := ⟨_, (parameter_withQuery hnodup hredirectUri).mpr ⟨rfl, huri⟩, hredirect⟩
      trustedRedirect := hback.trusted
      path := hback.path
      query := hback.query
      fragment := hback.fragment
      responseType := (parameter_withQuery hnodup htype).mpr ⟨rfl, by decide⟩
      clientId := ⟨_, (parameter_withQuery hnodup hclientId).mpr ⟨rfl, hclient⟩⟩
      state := ⟨_, (parameter_withQuery hnodup hstateParam).mpr ⟨rfl, hstate⟩⟩
      codeChallenge := ⟨_, (parameter_withQuery hnodup hchallengeParam).mpr ⟨rfl, hchallenge⟩⟩
      codeChallengeMethod := (parameter_withQuery hnodup hmethod).mpr ⟨rfl, by decide⟩ }

/-- What is opened carries the values of the login. -/
lemma parameters_of_validate {endpoint : String} (hreads : ReadsQueries parse endpoint url) {opened : Url}
    (h : validateOidcAuthorizationUrl parse
      (endpoint ++ "?" ++ urlencode (requestParameters settings state nonce codeChallenge)) = .ok opened) :
    opened = withQuery url (urlencode (requestParameters settings state nonce codeChallenge)) ∧
      (state ≠ "" → Parameter opened "state" state) ∧
      (codeChallenge ≠ "" → Parameter opened "code_challenge" codeChallenge) ∧
      (settings.redirectUri ≠ "" → Parameter opened "redirect_uri" settings.redirectUri) := by
  obtain ⟨redirect, hlogin, -, -⟩ := validate_eq_ok.mp h
  obtain rfl : withQuery url (urlencode (requestParameters settings state nonce codeChallenge)) = opened :=
    Option.some.inj ((hreads _ (isFormChar_urlencode _)).symm.trans hlogin.parsed)
  have hnodup : ((requestParameters settings state nonce codeChallenge).map Prod.fst).Nodup :=
    nodup_requestParameters
  obtain ⟨-, hredirectUri, -, hstateParam, hchallengeParam, -⟩ :=
    mem_requestParameters settings state nonce codeChallenge
  exact ⟨rfl, fun hne => (parameter_withQuery hnodup hstateParam).mpr ⟨rfl, hne⟩,
    fun hne => (parameter_withQuery hnodup hchallengeParam).mpr ⟨rfl, hne⟩,
    fun hne => (parameter_withQuery hnodup hredirectUri).mpr ⟨rfl, hne⟩⟩

end

end

/-- A digest has bytes, so its text is not empty. -/
lemma pkceChallenge_ne_empty {crypto : Primitives} {verifier : String}
    (h : crypto.sha256 (encode verifier) ≠ []) : pkceChallenge crypto verifier ≠ "" := by
  have hlength : (pkceChallenge crypto verifier).length = (4 * (crypto.sha256 (encode verifier)).length + 2) / 3 :=
    length_tokenUrlsafe _
  have hpos := List.length_pos_iff.mpr h
  intro hempty
  rw [hempty, String.length_empty] at hlength
  omega

/-- The shell opens the address exactly if the endpoint and the redirect address are trusted; and what it opens
carries once the state of the login, its challenge and the redirect address. -/
def OpensTrusted (settings : AuthSettings) (crypto : Primitives) (F : Start) (endpoint : Str) (login : String) :
    Prop :=
  ∀ (parse : String → Option Url) (text : String) (url : Url), endpoint = Str.ofString text →
    ReadsQueries parse text url →
    ((∃ opened, validateOidcAuthorizationUrl parse login = .ok opened) ↔
      Trusted url ∧ ¬OnIpv6Loopback url ∧ settings.clientId ≠ "" ∧ settings.redirectUri ≠ "" ∧
        ∃ redirect, parse settings.redirectUri = some redirect ∧ IsBackendCallback redirect) ∧
    ∀ opened, validateOidcAuthorizationUrl parse login = .ok opened →
      Parameter opened "state" F.state ∧
      Parameter opened "code_challenge" (pkceChallenge crypto F.verifier) ∧
      Parameter opened "redirect_uri" settings.redirectUri

/-- In every run the address that a login returned is that of a flow which its thread stored at the endpoint of
the document that was fetched from the provider and checked; the shell opens it exactly if that endpoint and the
redirect address are trusted, whatever was drawn, and then with the state and the challenge of that flow. -/
theorem opened_of_login {settings : AuthSettings} {crypto : Primitives} {c : Auth.State}
    (hsha : ∀ data, crypto.sha256 data ≠ []) (hc : Auth.Run settings crypto c) {j : ℕ}
    {deviceKey platform login : String}
    (hj : c.threads j = some ⟨.startLogin deviceKey platform, .ret (.ok (.authorizationUrl login))⟩) :
    ∃ F : Start, F.deviceKey = deviceKey ∧ F.platform = platform ∧ Started settings crypto (own j c.history) F ∧
      ∃ m, Obtained (own j c.history) m ∧ Checked settings c.history m ∧ Secure settings m.authorizationEndpoint ∧
        Str.ofString login = F.url settings crypto m.authorizationEndpoint ∧
        OpensTrusted settings crypto F m.authorizationEndpoint login := by
  obtain ⟨F, hkey, hplatform, hstarted, m, hm, hurl⟩ := asked_of_run hc hj
  have hchecked := checked_of_obtained hc hm
  refine ⟨F, hkey, hplatform, hstarted, m, hm, hchecked, hchecked.secure.1, hurl,
    fun parse text url htext hreads => ?_⟩
  have hstate : F.state ≠ "" := drawn_ne_empty hc (by omega) hstarted.drawn.state
  have hchallenge : pkceChallenge crypto F.verifier ≠ "" := pkceChallenge_ne_empty (hsha _)
  obtain rfl : login = text ++ "?" ++ urlencode (requestParameters settings F.state F.nonce
      (pkceChallenge crypto F.verifier)) := by
    apply Str.ofString_injective
    rw [hurl, htext, Start.url, requestUrl, String.append_assoc, Str.ofString_append text]
  have hiff := validate_withQuery settings F.nonce hreads hstate hchallenge
  constructor
  · rw [← hiff]
    constructor
    · rintro ⟨opened, h⟩
      obtain ⟨rfl, -⟩ := parameters_of_validate hreads h
      exact h
    · intro h
      exact ⟨_, h⟩
  · intro opened h
    obtain ⟨rfl, hstateParam, hchallengeParam, hredirect⟩ := parameters_of_validate hreads h
    exact ⟨hstateParam hstate, hchallengeParam hchallenge, hredirect (hiff.mp h).2.2.2.1⟩

namespace Sample

/-- A service whose redirect address is the callback of its API. -/
def service : AuthSettings := { Auth.Sample.settings with redirectUri := callbackText }

/-- The primitives of the sample, with a digest for every text. -/
def primitives : Primitives :=
  { Auth.Sample.tables.primitives with sha256 := fun data => (Auth.Sample.tables.digests.lookup data).getD [0] }

lemma sha256_ne_nil (data : List UInt8) : primitives.sha256 data ≠ [] := by
  have hall : Auth.Sample.tables.digests.all (fun entry => entry.2 ≠ []) = true := by decide +kernel
  change (Auth.Sample.tables.digests.lookup data).getD [0] ≠ []
  cases hdigest : Auth.Sample.tables.digests.lookup data with
  | none => exact List.cons_ne_nil _ _
  | some digest =>
    obtain ⟨l₁, l₂, hsplit, -⟩ := List.lookup_eq_some_iff.mp hdigest
    have hmem : (data, digest) ∈ Auth.Sample.tables.digests := by
      rw [hsplit]
      exact List.mem_append_right _ List.mem_cons_self
    exact of_decide_eq_true (List.all_eq_true.mp hall _ hmem)

def asked : Auth.State := Auth.Sample.noRequests.serve (system service primitives) 0
  (.startLogin "device-key-1" "linux") [Auth.Sample.bytes 1, Auth.Sample.bytes 2, Auth.Sample.bytes 3,
    Auth.Sample.bytes 4, Auth.Sample.clockAt 0, Auth.Sample.uuids 1, Auth.Sample.unused,
    { response := .ok Auth.Sample.discovery }, Auth.Sample.unused]

lemma run_asked : Auth.Run service primitives asked := by
  have hstart : Auth.Run service primitives Auth.Sample.noRequests := by
    refine .start ⟨⟨?_, ?_⟩, ?_, ?_, ?_, ?_, ?_, rfl⟩ <;> exact fun _ h => absurd h List.not_mem_nil
  exact hstart.serve 0 _ _

/-- The endpoint of the provider. -/
def endpointUrl : Url where
  scheme := "https"
  username := ""
  password := none
  host := some (.domain ⟨"id.example".toList, by decide +kernel,
    List.all_eq_true.mp (by decide +kernel), by decide +kernel⟩)
  port := none
  path := "/authorize"
  query := none
  fragment := none
  special := fun _ => ⟨_, rfl, rfl⟩

/-- A parser that knows the endpoint and the redirect address. -/
def parseLogin (text : String) : Option Url :=
  let endpoint := "https://id.example/authorize?".toList
  if endpoint.isPrefixOf text.toList then
    some (withQuery endpointUrl (String.ofList (text.toList.drop endpoint.length)))
  else if text = callbackText then some callbackUrl
  else none

lemma reads_parseLogin : ReadsQueries parseLogin "https://id.example/authorize" endpointUrl := by
  intro query _
  have htext : ("https://id.example/authorize" ++ "?" ++ query).toList =
      "https://id.example/authorize?".toList ++ query.toList := by
    rw [String.toList_append, show "https://id.example/authorize" ++ "?" = "https://id.example/authorize?" by
      decide +kernel]
  rw [parseLogin, htext, if_pos (by simp), List.drop_left, String.ofList_toList]

/-- The address that a reply asks the browser to open. -/
def urlOf (result : Option (Except PyError Reply)) : Option Str :=
  match result with
  | some (.ok (.authorizationUrl url)) => some url
  | _ => none

lemma result_of_urlOf {result : Option (Except PyError Reply)} {url : Str} (h : urlOf result = some url) :
    result = some (.ok (.authorizationUrl url)) := by
  unfold urlOf at h
  split at h
  · cases h
    rfl
  · cases h

/-- The endpoint of the metadata that a call brings. -/
def endpointOf : Done Auth.Answer PyError → Option Str
  | ⟨.cachedMetadata, .ok (some m)⟩ => some m.authorizationEndpoint
  | ⟨.cacheMetadata m, .ok _⟩ => some m.authorizationEndpoint
  | _ => none

lemma endpoint_of_obtained {t : Trace} {m : ProviderMetadata} (h : Obtained t m) :
    m.authorizationEndpoint ∈ t.filterMap endpointOf := by
  rcases h with h | h
  · exact List.mem_filterMap.mpr ⟨_, h, rfl⟩
  · exact List.mem_filterMap.mpr ⟨_, h, rfl⟩

/-- The shell opens the address of the sample login. -/
theorem opened_of_login_asked : ∃ login opened, urlOf (asked.result 0) = some (Str.ofString login) ∧
    validateOidcAuthorizationUrl parseLogin login = .ok opened := by
  let login := "https://id.example/authorize?" ++ urlencode (requestParameters service (Auth.Sample.token 1)
    (Auth.Sample.token 2) (pkceChallenge primitives Auth.Sample.verifier))
  have hdone : urlOf (asked.result 0) = some (Str.ofString login) ∧
      (asked.threads 0).map Thread.request = some (.startLogin "device-key-1" "linux") ∧
      (own 0 asked.history).filterMap endpointOf = [Str.ofString "https://id.example/authorize"] := by
    decide +kernel
  have hj := Config.threads_of_result (result_of_urlOf hdone.1) hdone.2.1
  obtain ⟨F, -, -, -, m, hm, -, -, -, hopens⟩ := opened_of_login sha256_ne_nil run_asked hj
  have hendpoint := endpoint_of_obtained hm
  rw [hdone.2.2, List.mem_singleton] at hendpoint
  have htrusted : Trusted endpointUrl := ⟨rfl, rfl, .inl ⟨rfl, nofun⟩⟩
  have hredirect : IsBackendCallback callbackUrl :=
    ⟨⟨rfl, rfl, .inl ⟨rfl, nofun⟩⟩, fun h => absurd h.1 (by decide), rfl, rfl, rfl⟩
  have hparsed : parseLogin service.redirectUri = some callbackUrl := by decide +kernel
  obtain ⟨opened, hopened⟩ := ((hopens parseLogin _ endpointUrl hendpoint reads_parseLogin).1).mpr
    ⟨htrusted, fun h => absurd h.1 (by decide), by decide, by decide, callbackUrl, hparsed, hredirect⟩
  exact ⟨login, opened, hdone.1, hopened⟩

end Sample

end Pentagon5.Desktop.Shell
