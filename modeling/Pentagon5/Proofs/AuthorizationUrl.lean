import Pentagon5.Auth.Deployment
import Pentagon5.Auth.Oidc
import Pentagon5.Python.Urlencode
import Pentagon5.Web.Generic

/-!
# The authorization URL

For which authorization endpoints the URL of a login request is the endpoint with the parameters of
the request added to it. The client writes a question mark behind the endpoint, whatever the endpoint
holds already.
-/

namespace Pentagon5.Auth

open Python Interleaving Web

/-- The parameters of a login request. -/
def requestParameters (settings : AuthSettings) (state nonce codeChallenge : String) :
    List (String × String) :=
  [("client_id", settings.clientId), ("redirect_uri", settings.redirectUri), ("response_type", "code"),
    ("scope", "openid email profile"), ("state", state), ("nonce", nonce),
    ("code_challenge", codeChallenge), ("code_challenge_method", "S256")]

/-- The URL is the endpoint with the parameters added to it. -/
structure ExtendsEndpoint (endpoint : Str) (parameters : List (String × String)) (url : Str) : Prop where
  scheme : Generic.scheme url.codes = Generic.scheme endpoint.codes
  authority : Generic.authority url.codes = Generic.authority endpoint.codes
  path : Generic.path url.codes = Generic.path endpoint.codes
  own : (Generic.parameters endpoint.codes).Sublist (Generic.parameters url.codes)
  given : ∀ parameter ∈ parameters, (Generic.parameters url.codes).filter (·.1 = parameter.1.toList) =
    [(parameter.1.toList, parameter.2.toList)]

/-- What the client returns is such a URL, whatever it is asked for. -/
def AlwaysExtends (settings : AuthSettings) (metadata : ProviderMetadata) : Prop :=
  ∀ (clientId redirectUri state nonce codeChallenge : String) (ω : Env) (w w' w'' : World) (url : Str),
    (OIDCClient.metadata { settings with clientId, redirectUri }).run (answer ω) w = (.ok metadata, w') →
    (OIDCClient.authorizationUrl { settings with clientId, redirectUri } state nonce codeChallenge).run
      (answer ω) w = (.ok url, w'') →
    ExtendsEndpoint metadata.authorizationEndpoint
      (requestParameters { settings with clientId, redirectUri } state nonce codeChallenge) url

def requestUrl (endpoint : Str) (parameters : List (String × String)) : Str :=
  endpoint ++ ("?" ++ urlencode parameters : String)

section

variable {settings : AuthSettings} {state nonce codeChallenge : String} {ω : Env} {w w' : World}
  {metadata : ProviderMetadata} {endpoint : Str} {parameters : List (String × String)}

lemma authorizationUrl_run (h : (OIDCClient.metadata settings).run (answer ω) w = (.ok metadata, w')) :
    (OIDCClient.authorizationUrl settings state nonce codeChallenge).run (answer ω) w =
      (.ok (requestUrl metadata.authorizationEndpoint
        (requestParameters settings state nonce codeChallenge)), w') := by
  rw [OIDCClient.authorizationUrl, Prog.run_bind_of_ok _ h]
  exact Prog.run_pure _ _ _

lemma requestUrl_codes : (requestUrl endpoint parameters).codes =
    endpoint.codes ++ '?'.toNat :: (urlencode parameters).toList.map Char.toNat := by
  rw [requestUrl, Str.codes_append, Str.ofString_codes, String.toList_append, List.map_append]
  rfl

lemma notMem_urlencode : '#'.toNat ∉ '?'.toNat :: (urlencode parameters).toList.map Char.toNat := by
  rw [List.mem_cons, not_or]
  refine ⟨by decide, fun h => ?_⟩
  obtain ⟨c, hc, hcode⟩ := List.mem_map.mp h
  have hform := isFormChar_urlencode parameters c hc
  rw [Str.toNat_injective hcode] at hform
  exact absurd hform (by decide)

lemma encodeCodes_urlencode :
    Utf8.encodeCodes ((urlencode parameters).toList.map Char.toNat) = encode (urlencode parameters) := by
  rw [Utf8.encodeCodes_map, encode_eq]

lemma filter_name {α β : Type} [DecidableEq α] {pairs : List (α × β)} (hnodup : (pairs.map Prod.fst).Nodup)
    {pair : α × β} (h : pair ∈ pairs) : pairs.filter (·.1 = pair.1) = [pair] := by
  induction pairs with
  | nil => cases h
  | cons first pairs ih =>
    rw [List.map_cons, List.nodup_cons] at hnodup
    rcases List.mem_cons.mp h with rfl | h
    · have hrest : pairs.filter (·.1 = pair.1) = [] := by
        refine List.filter_eq_nil_iff.mpr fun other hother hname => hnodup.1 ?_
        exact List.mem_map.mpr ⟨other, hother, of_decide_eq_true hname⟩
      rw [List.filter_cons_of_pos (by simp), hrest]
    · have hfirst : first.1 ≠ pair.1 := fun he => hnodup.1 (he ▸ List.mem_map_of_mem h)
      rw [List.filter_cons_of_neg (by simpa using hfirst), ih hnodup.2 h]

lemma nodup_requestParameters :
    ((requestParameters settings state nonce codeChallenge).map Prod.fst).Nodup := by
  have hnames : ["client_id", "redirect_uri", "response_type", "scope", "state", "nonce",
      "code_challenge", "code_challenge_method"].Nodup := by decide
  exact hnames

/-- An endpoint without a query or a fragment is extended. -/
lemma extends_requestUrl (hquery : '?'.toNat ∉ endpoint.codes) (hfragment : '#'.toNat ∉ endpoint.codes)
    (hnodup : (parameters.map Prod.fst).Nodup) :
    ExtendsEndpoint endpoint parameters (requestUrl endpoint parameters) := by
  have hparameters : Generic.parameters (requestUrl endpoint parameters).codes =
      parameters.map fun pair => (pair.1.toList, pair.2.toList) := by
    have hrest : '#'.toNat ∉ (urlencode parameters).toList.map Char.toNat :=
      fun h => notMem_urlencode (List.mem_cons_of_mem _ h)
    rw [Generic.parameters, requestUrl_codes, Generic.query_append hquery hfragment hrest, Option.getD_some,
      encodeCodes_urlencode, parse_urlencode]
  refine ⟨?_, ?_, ?_, ?_, ?_⟩
  · rw [requestUrl_codes, Generic.scheme_append]
  · rw [requestUrl_codes, Generic.authority_append]
  · rw [requestUrl_codes, Generic.path_append]
  · rw [Generic.parameters, Generic.query_of_notMem hquery hfragment]
    exact List.nil_sublist _
  · intro parameter hparameter
    have hnames : ((parameters.map fun pair => (pair.1.toList, pair.2.toList)).map Prod.fst).Nodup := by
      rw [List.map_map, show (Prod.fst ∘ fun (pair : String × String) => (pair.1.toList, pair.2.toList)) =
        String.toList ∘ Prod.fst from rfl, ← List.map_map]
      exact hnodup.map fun a b h => String.toList_inj.mp h
    rw [hparameters]
    exact filter_name hnames (List.mem_map.mpr ⟨parameter, hparameter, rfl⟩)

/-- A parameter behind a fragment changes nothing. -/
lemma parameters_of_fragment (hfragment : '#'.toNat ∈ endpoint.codes) :
    Generic.parameters (requestUrl endpoint parameters).codes = Generic.parameters endpoint.codes := by
  rw [Generic.parameters, Generic.parameters, requestUrl_codes, Generic.query_append_of_fragment hfragment]

/-- The first parameter is glued to the last piece of a query that is there already. -/
lemma parameters_of_query (hquery : '?'.toNat ∈ endpoint.codes) (hfragment : '#'.toNat ∉ endpoint.codes) :
    ∃ front : List (List Char × List Char), ∃ last : List UInt8,
      ∀ (name value : String) (pair : String × String) (others : List (String × String)),
        Generic.parameters (requestUrl endpoint ((name, value) :: pair :: others)).codes =
          front ++ Form.parsePiece (last ++ 63 :: Form.spelledPair spellByte (name.toList, value.toList)) ::
            (pair :: others).map fun (name, value) => (name.toList, value.toList) := by
  obtain ⟨own, -, happend⟩ := Generic.query_append_of_mem hquery hfragment
  obtain ⟨front, last, -, hpiece⟩ := Form.exists_lastPiece (Utf8.encodeCodes own)
  refine ⟨front, last, fun name value pair others => ?_⟩
  have hcodes : Utf8.encodeCodes ('?'.toNat ::
      (urlencode ((name, value) :: pair :: others)).toList.map Char.toNat) =
      (63 :: Form.spelledPair spellByte (name.toList, value.toList)) ++
        Form.ampersand :: encode (urlencode (pair :: others)) := by
    have hmark : Utf8.encodeCodes ['?'.toNat] = [63] := by decide
    rw [← List.singleton_append, Utf8.encodeCodes_append, hmark, encodeCodes_urlencode,
      encode_urlencode_cons]
    rfl
  have hnot : Form.ampersand ∉ 63 :: Form.spelledPair spellByte (name.toList, value.toList) := by
    rw [List.mem_cons, not_or]
    exact ⟨by decide, Form.notMem_spelledPair spells_spellByte _⟩
  rw [Generic.parameters, requestUrl_codes, happend _ notMem_urlencode, Option.getD_some,
    Utf8.encodeCodes_append, hcodes, ← List.append_assoc, Form.parse_append, parse_urlencode,
    hpiece _ hnot (List.append_ne_nil_of_right_ne_nil _ (List.cons_ne_nil _ _)), List.append_assoc,
    List.singleton_append]

end

/-- A glued piece is not a parameter without a question mark. -/
lemma parsePiece_glued (last rest : List UInt8) {name value : List Char} (hname : '?' ∉ name)
    (hvalue : '?' ∉ value) : Form.parsePiece (last ++ 63 :: rest) ≠ (name, value) := by
  intro heq
  have hmark := Form.mem_parsePiece (b := 63) (by decide) (by decide) (by decide)
    (List.mem_append_right last (List.mem_cons_self (l := rest)))
  rw [heq] at hmark
  exact hmark.elim hname hvalue

/-- With a query in the endpoint the first parameter is not given, whatever its value is. -/
lemma not_given_of_query {endpoint : Str} (hquery : '?'.toNat ∈ endpoint.codes)
    (hfragment : '#'.toNat ∉ endpoint.codes) {name : String} (hmark : '?' ∉ name.toList)
    {pair : String × String} {others : List (String × String)} (hnames : name ∉ (pair :: others).map Prod.fst) :
    ¬∀ value, (Generic.parameters (requestUrl endpoint ((name, value) :: pair :: others)).codes).filter
      (·.1 = name.toList) = [(name.toList, value.toList)] := by
  intro h
  obtain ⟨front, last, hparameters⟩ := parameters_of_query hquery hfragment
  have hothers : ((pair :: others).map fun (name, value) => (name.toList, value.toList)).filter
      (·.1 = name.toList) = [] := by
    refine List.filter_eq_nil_iff.mpr fun parameter hparameter hname => hnames ?_
    obtain ⟨other, hother, rfl⟩ := List.mem_map.mp hparameter
    exact List.mem_map.mpr ⟨other, hother, String.toList_inj.mp (of_decide_eq_true hname)⟩
  have hglued (value : String) : front.filter (·.1 = name.toList) ++
      [Form.parsePiece (last ++ 63 :: Form.spelledPair spellByte (name.toList, value.toList))].filter
        (·.1 = name.toList) = [(name.toList, value.toList)] := by
    have hvalue := h value
    rwa [hparameters, ← List.singleton_append, List.filter_append, List.filter_append, hothers,
      List.append_nil] at hvalue
  -- the pieces in front of the glued one are the same for every value
  have hfront : front.filter (·.1 = name.toList) = [] := by
    cases hpieces : front.filter (·.1 = name.toList) with
    | nil => rfl
    | cons piece pieces =>
      have ha := hglued "a"
      have hb := hglued "b"
      rw [hpieces, List.cons_append] at ha hb
      have hab := (List.cons.inj ha).1.symm.trans (List.cons.inj hb).1
      exact absurd (Prod.mk.inj hab).2 (by decide +kernel)
  have ha := hglued "a"
  rw [hfront, List.nil_append] at ha
  have hmem : (name.toList, "a".toList) ∈ [Form.parsePiece (last ++ 63 ::
      Form.spelledPair spellByte (name.toList, "a".toList))].filter (·.1 = name.toList) :=
    ha ▸ List.mem_singleton_self _
  exact parsePiece_glued last _ hmark (by decide +kernel)
    (List.mem_singleton.mp (List.mem_filter.mp hmem).1).symm

/-- The parameters behind the client of a request that is empty otherwise. -/
def emptyRequest : List (String × String) :=
  [("response_type", "code"), ("scope", "openid email profile"), ("state", ""), ("nonce", ""),
    ("code_challenge", ""), ("code_challenge_method", "S256")]

lemma AlwaysExtends.extends {settings : AuthSettings} {metadata : ProviderMetadata}
    (h : AlwaysExtends settings metadata) (clientId : String) :
    ExtendsEndpoint metadata.authorizationEndpoint
      (("client_id", clientId) :: ("redirect_uri", "") :: emptyRequest)
      (requestUrl metadata.authorizationEndpoint
        (("client_id", clientId) :: ("redirect_uri", "") :: emptyRequest)) := by
  have hcached : (OIDCClient.metadata { settings with clientId, redirectUri := "" }).run
      (answer {}) ⟨default, some metadata⟩ = (.ok metadata, ⟨default, some metadata⟩) := rfl
  exact h clientId "" "" "" "" _ _ _ _ _ hcached (authorizationUrl_run hcached)

/-- The URL of a login request extends the endpoint of the provider, for every request, exactly when
the endpoint has neither a query nor a fragment. -/
theorem alwaysExtends_iff (settings : AuthSettings) (metadata : ProviderMetadata) :
    AlwaysExtends settings metadata ↔ '?'.toNat ∉ metadata.authorizationEndpoint.codes ∧
      '#'.toNat ∉ metadata.authorizationEndpoint.codes := by
  constructor
  · intro h
    have hgiven (clientId : String) :=
      (h.extends clientId).given ("client_id", clientId) List.mem_cons_self
    simp only at hgiven
    have hfragment : '#'.toNat ∉ metadata.authorizationEndpoint.codes := by
      intro hfragment
      have ha := hgiven "a"
      have hb := hgiven "b"
      rw [parameters_of_fragment hfragment] at ha hb
      have hab := (List.cons.inj (ha.symm.trans hb)).1
      exact absurd (Prod.mk.inj hab).2 (by decide +kernel)
    refine ⟨fun hquery => ?_, hfragment⟩
    exact not_given_of_query hquery hfragment (by decide +kernel) (by decide +kernel) hgiven
  · rintro ⟨hquery, hfragment⟩ clientId redirectUri state nonce codeChallenge ω w w' w'' url hmetadata hurl
    rw [authorizationUrl_run hmetadata] at hurl
    obtain rfl := Except.ok.inj (Prod.mk.inj hurl).1
    exact extends_requestUrl hquery hfragment nodup_requestParameters

namespace Sample

/-- The discovery document of a provider that tells its tenants apart by a parameter. -/
def tenantDocument : Dict :=
  [("issuer", .str "https://id.example"),
    ("authorization_endpoint", .str "https://id.example/authorize?tenant=1"),
    ("token_endpoint", .str "https://id.example/token"), ("jwks_uri", .str "https://id.example/jwks")]

def tenantMetadata : ProviderMetadata :=
  ⟨"https://id.example/authorize?tenant=1", "https://id.example/token", "https://id.example/jwks"⟩

/-- The client accepts the provider, and its requests do not name the client to it. -/
theorem not_alwaysExtends_tenant :
    ¬∀ (settings : AuthSettings) (document : Json) (metadata : ProviderMetadata),
      OIDCClient.providerMetadata settings document = .ok metadata → AlwaysExtends settings metadata := by
  intro h
  have haccepted : OIDCClient.providerMetadata settings (.dict tenantDocument) = .ok tenantMetadata := rfl
  have hextends := h settings (.dict tenantDocument) tenantMetadata haccepted
  exact not_given_of_query (by decide +kernel) (by decide +kernel) (by decide +kernel) (by decide +kernel)
    fun clientId => (hextends.extends clientId).given ("client_id", clientId) List.mem_cons_self

end Sample

end Pentagon5.Auth
