import Pentagon5.Auth.Deployment
import Pentagon5.Auth.Evolution

/-!
# Where the service sends its requests

Every HTTP request of a run goes to the discovery address of the configured issuer or to an endpoint of a
discovery document that passed the checks; so outside development and test the authorization code, the
verifier and the client secret leave the service through HTTPS only.
-/

namespace Pentagon5.Auth

open Interleaving Interleaving.Prog Python AuthenticationService

section

variable {α β : Type} {settings : AuthSettings} {crypto : Primitives} {t : Trace} {m : ProviderMetadata}

/-- The thread read the metadata in the cache, or checked and cached it. -/
def Obtained (t : Trace) (m : ProviderMetadata) : Prop :=
  Did t .cachedMetadata (some m) ∨ Did t (.cacheMetadata m) ()

/-- `f"{issuer}/.well-known/openid-configuration"` -/
def discoveryAddress (settings : AuthSettings) : Str :=
  (settings.issuer ++ "/.well-known/openid-configuration" : String)

/-- The thread fetched the document at the discovery address, and its checks made the metadata of it. -/
def Fetched (settings : AuthSettings) (t : Trace) (m : ProviderMetadata) : Prop :=
  ∃ response document, Did t (.httpGet (discoveryAddress settings)) response ∧
    response.raiseForStatus = .ok () ∧ response.json = .ok document ∧
    OIDCClient.providerMetadata settings document = .ok m

/-- The metadata of a document that a request of the run fetched and checked. -/
def Checked (settings : AuthSettings) (h : History) (m : ProviderMetadata) : Prop :=
  ∃ i, Fetched settings (own i h) m

/-- What the calls to the provider and to the cache are made with. -/
def ProviderCall (settings : AuthSettings) (t : Trace) : Call → Prop
  | .cacheMetadata m => Fetched settings t m
  | .httpGet url => url = discoveryAddress settings ∨ ∃ m, Obtained t m ∧
      (∃ data response, Did t (.httpPost m.tokenEndpoint data) response) ∧ url = m.jwksUri
  | .httpPost url _ => ∃ m, Obtained t m ∧ url = m.tokenEndpoint
  | _ => True

lemma Obtained.cons (h : Obtained t m) (d : Done Answer PyError) : Obtained (d :: t) m :=
  h.imp (fun h => h.cons d) fun h => h.cons d

/-- After the calls `t` every call to the provider is as above. -/
abbrev Provides (settings : AuthSettings) (t : Trace) (p : Async α) : Prop :=
  Meets (ProviderCall settings) (fun _ _ => True) t p

lemma provides_ask {call : Call} (h : ProviderCall settings t call) : Provides settings t (ask call) :=
  ⟨h, fun _ => trivial⟩

lemma provides_bind {p : Async α} {f : α → Async β} (hp : Provides settings t p)
    (hf : ∀ t a, Provides settings t (f a)) : Provides settings t (p >>= f) := by
  refine meets_bind (hp.mono (fun _ _ h => h) fun t r _ => ?_)
  cases r with
  | ok a => exact hf t a
  | error e => trivial

lemma provides_ask_bind {call : Call} {f : Answer call → Async β} (h : ProviderCall settings t call)
    (hf : ∀ a, Provides settings (⟨call, .ok a⟩ :: t) (f a)) : Provides settings t (ask call >>= f) :=
  meets_perform_bind.mpr ⟨h, hf, fun _ => trivial⟩

lemma provides_require_bind {p : Prop} [Decidable p] {e : PyError} {f : Unit → Async β}
    (hf : Provides settings t (f ())) : Provides settings t (require p e >>= f) :=
  meets_require_bind.mpr ⟨fun _ => hf, fun _ => trivial⟩

lemma provides_ofExcept_bind {r : Except PyError α} {f : α → Async β} (hf : ∀ a, Provides settings t (f a)) :
    Provides settings t (ofExcept r >>= f) :=
  meets_ofExcept_bind.mpr ⟨fun a _ => hf a, fun _ _ => trivial⟩

lemma provides_seal_bind {payload : List (String × String)} {associatedData : List UInt8} {f : String → Async β}
    (hf : ∀ t a, Provides settings t (f a)) :
    Provides settings t (sealPayload settings crypto payload associatedData >>= f) :=
  provides_bind (provides_ask_bind trivial fun _ => trivial) hf

/-- `metadata` returns what the thread obtained. -/
lemma metadata_obtained : Meets (ProviderCall settings) (fun t r => ∀ m, r = .ok m → Obtained t m) t
    (OIDCClient.metadata settings) := by
  refine meets_perform_bind.mpr ⟨trivial, fun cached => ?_, fun e m h => by cases h⟩
  cases cached with
  | some metadata =>
    rintro m ⟨⟩
    exact .inl (did_head _ _ _)
  | none =>
    refine meets_perform_bind.mpr ⟨.inl rfl, fun response => ?_, fun e m h => by cases h⟩
    refine meets_ofExcept_bind.mpr ⟨fun _ hstatus => ?_, fun e _ m h => by cases h⟩
    refine meets_ofExcept_bind.mpr ⟨fun document hdocument => ?_, fun e _ m h => by cases h⟩
    refine meets_ofExcept_bind.mpr ⟨fun metadata hmetadata => ?_, fun e _ m h => by cases h⟩
    refine meets_perform_bind.mpr ⟨?_, fun _ => ?_, fun e m h => by cases h⟩
    · exact ⟨response, document, did_head _ _ _, hstatus, hdocument, hmetadata⟩
    rintro m ⟨⟩
    exact .inr (did_head _ _ _)

lemma provides_metadata_bind {f : ProviderMetadata → Async β}
    (hf : ∀ t m, Obtained t m → Provides settings t (f m)) :
    Provides settings t (OIDCClient.metadata settings >>= f) := by
  refine meets_bind (metadata_obtained.mono (fun _ _ h => h) fun t r h => ?_)
  cases r with
  | ok m => exact hf t m (h m rfl)
  | error e => trivial

lemma provides_authorizationUrl (state nonce codeChallenge : String) :
    Provides settings t (OIDCClient.authorizationUrl settings state nonce codeChallenge) :=
  provides_metadata_bind fun _ _ _ => trivial

lemma provides_exchange (code verifier nonce : String) :
    Provides settings t (OIDCClient.exchange settings code verifier nonce) := by
  refine provides_metadata_bind fun t m hm => ?_
  refine provides_ask_bind ⟨m, hm, rfl⟩ fun response => ?_
  refine provides_ofExcept_bind fun _ => provides_ofExcept_bind fun idToken => ?_
  refine provides_ask_bind (.inr ⟨m, hm.cons _, ⟨_, response, did_head _ _ _⟩, rfl⟩) fun jwks => ?_
  refine provides_ofExcept_bind fun _ => provides_ask_bind trivial fun header => ?_
  refine provides_ofExcept_bind fun algorithm => provides_ofExcept_bind fun jwk => ?_
  exact provides_ask_bind trivial fun claims => trivial

lemma provides_startLogin (deviceKey platform : String) :
    Provides settings t (startLogin settings crypto deviceKey platform) := by
  refine provides_require_bind (provides_require_bind ?_)
  refine provides_ask_bind trivial fun state => provides_ask_bind trivial fun nonce => ?_
  refine provides_ask_bind trivial fun verifier => provides_seal_bind fun t payload => ?_
  refine provides_ask_bind trivial fun now => provides_ask_bind trivial fun _ => ?_
  exact provides_authorizationUrl _ _ _

lemma provides_completeLogin (state code : String) :
    Provides settings t (completeLogin settings crypto state code) := by
  refine provides_require_bind (provides_ask_bind trivial fun now => provides_ask_bind trivial fun flow => ?_)
  cases flow with
  | none => trivial
  | some flow =>
    refine provides_require_bind (provides_ofExcept_bind fun payload => ?_)
    refine provides_ofExcept_bind fun verifier => provides_ofExcept_bind fun nonce => ?_
    refine provides_bind (provides_exchange _ _ _) fun t claims => provides_ofExcept_bind fun identity => ?_
    refine provides_ask_bind trivial fun userId => provides_ofExcept_bind fun deviceKey => ?_
    refine provides_ofExcept_bind fun platform => provides_ask_bind trivial fun deviceId => ?_
    refine provides_ask_bind trivial fun token => provides_ask_bind trivial fun session => ?_
    refine provides_ask_bind trivial fun resolved => ?_
    cases resolved with
    | none => trivial
    | some principal =>
      refine provides_ask_bind trivial fun grantCode => provides_seal_bind fun t payload => ?_
      exact provides_ask_bind trivial fun _ => trivial

lemma provides_authenticate (token : String) : Provides settings t (authenticate settings crypto token) := by
  refine provides_require_bind (provides_ask_bind trivial fun now => provides_ask_bind trivial fun found => ?_)
  cases found with
  | none => trivial
  | some principal => trivial

lemma provides_exchangeLoginGrant (code : String) :
    Provides settings t (exchangeLoginGrant settings crypto code) := by
  refine provides_require_bind (provides_ask_bind trivial fun now => provides_ask_bind trivial fun found => ?_)
  cases found with
  | none => trivial
  | some encrypted =>
    refine provides_ofExcept_bind fun payload => provides_ofExcept_bind fun token => ?_
    exact provides_bind (provides_authenticate token) fun _ _ => trivial

lemma provides_operation (operation : Operation) (principal : Principal) :
    Provides settings t (operation.serve settings crypto principal) := by
  cases operation with
  | session => trivial
  | logout => exact provides_bind (provides_ask_bind trivial fun _ => provides_ask trivial) fun _ _ => trivial
  | devices => exact provides_bind (provides_ask trivial) fun _ _ => trivial
  | revokeDevice deviceId =>
    refine provides_bind (provides_ask_bind trivial fun now => provides_ask_bind trivial fun revoked => ?_)
      fun _ _ => trivial
    unfold require
    split <;> trivial
  | issueWsTicket channel =>
    refine provides_bind (provides_require_bind (provides_bind ?_ fun t _ => ?_)) fun _ _ => trivial
    · split
      · unfold requirePermission require
        split <;> trivial
      · trivial
    · refine provides_ask_bind trivial fun ticket => provides_ask_bind trivial fun now => ?_
      exact provides_ask_bind trivial fun _ => trivial

lemma provides_serve (q : Request) : Provides settings [] (q.serve settings crypto) := by
  cases q with
  | startLogin deviceKey platform => exact provides_bind (provides_startLogin _ _) fun _ _ => trivial
  | completeLogin state code => exact provides_bind (provides_completeLogin _ _) fun _ _ => trivial
  | exchangeLoginGrant code => exact provides_bind (provides_exchangeLoginGrant _) fun _ _ => trivial
  | authenticated token operation =>
    exact provides_bind (provides_authenticate token) fun _ principal => provides_operation operation principal
  | websocket ticket channel =>
    refine provides_bind ?_ fun _ _ => trivial
    refine provides_require_bind (provides_ask_bind trivial fun now => provides_ask_bind trivial fun found => ?_)
    cases found with
    | none => trivial
    | some sessionId => trivial

variable {c : State}

/-- Only one call changes the cache. -/
lemma answer_metadata (ω : Env) (w : World) {call : Call} (h : ∀ m, call ≠ .cacheMetadata m) :
    (answer ω w call).2.metadata = w.metadata := by
  have htransact {γ : Type} (r : Except PyError (γ × Store)) : (w.transact r).2.metadata = w.metadata := by
    cases r <;> rfl
  cases call with
  | cacheMetadata m => exact absurd rfl (h m)
  | putFlow => exact htransact _
  | putLoginGrant => exact htransact _
  | provisionIdentity => exact htransact _
  | registerDevice => exact htransact _
  | createSession => exact htransact _
  | revokeSession => exact htransact _
  | putWsTicket => exact htransact _
  | _ => rfl

lemma Fetched.later {i : ℕ} {h h₁ h₀ : History} {e : Entry Answer PyError Env World} (hsplit : h = h₁ ++ e :: h₀)
    (hfetched : Fetched settings (own i h₀) m) : Fetched settings (own i h) m := by
  obtain ⟨response, document, hget, hchecks⟩ := hfetched
  exact ⟨response, document, hget.later hsplit, hchecks⟩

lemma Checked.later {h h₁ h₀ : History} {e : Entry Answer PyError Env World} (hsplit : h = h₁ ++ e :: h₀)
    (hchecked : Checked settings h₀ m) : Checked settings h m :=
  hchecked.imp fun _ hfetched => hfetched.later hsplit

/-- What is cached was fetched and checked. -/
lemma checked_of_cached (hc : Run settings crypto c) (h : c.state.metadata = some m) :
    Checked settings c.history m := by
  have hinit (w : World) (hw : Initial w) : w.metadata ≠ some m := by
    rw [hw.metadata]
    exact (Option.some_ne_none m).symm
  have henv (w w' : World) (hw : Administers w w') (h : w'.metadata = some m) : w.metadata = some m :=
    hw.metadata ▸ h
  obtain ⟨h₁, e, h₀, hsplit, hbefore, hafter⟩ := hc.origin hinit henv h
  obtain ⟨P⟩ := hc.performed hsplit
  have hprovides := P.meets provides_serve
  have hstate : (answer e.env e.before e.done.call).2 = e.after := congrArg Prod.snd P.answered
  by_cases hcall : ∃ m, e.done.call = .cacheMetadata m
  · obtain ⟨m', hm'⟩ := hcall
    rw [hm'] at hprovides hstate
    rw [← hstate] at hafter
    obtain rfl := Option.some.inj (show some m' = some m from hafter)
    exact ⟨e.thread, Fetched.later hsplit hprovides⟩
  · rw [← hstate, answer_metadata _ _ fun m' hm' => hcall ⟨m', hm'⟩] at hafter
    exact absurd hafter hbefore

/-- What a request obtained was fetched and checked. -/
lemma checked_of_obtained (hc : Run settings crypto c) {i : ℕ} (h : Obtained (own i c.history) m) :
    Checked settings c.history m := by
  rcases h with h | h
  · obtain ⟨e, he, -, hd⟩ := did_own.mp h
    obtain ⟨h₁, h₀, hsplit, ⟨P⟩⟩ := hc.performed_mem he
    have hcached : P.origin.state.metadata = some m := by
      rw [P.state]
      exact Except.ok.inj (congrArg Prod.fst (performed_answer P hd))
    have hchecked := checked_of_cached P.reachable hcached
    rw [P.history] at hchecked
    exact hchecked.later hsplit
  · obtain ⟨e, he, -, hd⟩ := did_own.mp h
    obtain ⟨h₁, h₀, hsplit, ⟨P⟩⟩ := hc.performed_mem he
    have hprovides := P.meets provides_serve
    rw [hd] at hprovides
    exact ⟨e.thread, Fetched.later hsplit hprovides⟩

/-- An address that the checks let through: in plain HTTP only in development and test. -/
def Secure (settings : AuthSettings) (url : Str) : Prop :=
  url.startsWith "https://" = true ∨
    settings.environment ∈ ["development", "test"] ∧ url.startsWith "http://" = true

/-- What the checks say of a document. -/
lemma Checked.secure {history : History} (h : Checked settings history m) :
    Secure settings m.authorizationEndpoint ∧ Secure settings m.tokenEndpoint ∧ Secure settings m.jwksUri := by
  obtain ⟨_, _, document, -, -, -, h⟩ := h
  obtain ⟨issuer, -, h⟩ := Store.bind_ok h
  obtain ⟨-, -, h⟩ := Store.bind_ok h
  obtain ⟨authorization, -, h⟩ := Store.bind_ok h
  obtain ⟨token, -, h⟩ := Store.bind_ok h
  obtain ⟨jwks, -, h⟩ := Store.bind_ok h
  cases authorization with
  | none => cases h
  | some authorization =>
  cases token with
  | none => cases h
  | some token =>
  cases jwks with
  | none => cases h
  | some jwks =>
    obtain ⟨_, habsolute, h⟩ := Store.bind_ok h
    obtain ⟨_, hhttps, h⟩ := Store.bind_ok h
    obtain rfl := Except.ok.inj h
    have hsecure : ∀ url ∈ [authorization, token, jwks].map OIDCClient.endpointText, Secure settings url := by
      intro url hurl
      have hurl' := of_decide_eq_true (List.all_eq_true.mp (ensure_ok habsolute) url hurl)
      rcases ensure_ok hhttps with henvironment | hall
      · exact hurl'.imp id fun hhttp => ⟨henvironment, hhttp⟩
      · exact .inl (List.all_eq_true.mp hall url hurl)
    exact ⟨hsecure _ (by simp), hsecure _ (by simp), hsecure _ (by simp)⟩

/-- In every run an HTTP request goes to the discovery address, or to an endpoint of the document that a request
before it fetched there and checked: a POST to its token endpoint, and a GET of its key set after that. Outside
development and test all of these are HTTPS. -/
theorem requests_of_run (hc : Run settings crypto c) {newer older : History} {e : Entry Answer PyError Env World}
    (hsplit : c.history = newer ++ e :: older) :
    (∀ url, e.done.call = .httpGet url → url = discoveryAddress settings ∨ ∃ m, Checked settings older m ∧
      Secure settings url ∧ url = m.jwksUri ∧
      ∃ data response, Did (own e.thread older) (.httpPost m.tokenEndpoint data) response) ∧
    ∀ url data, e.done.call = .httpPost url data → ∃ m, Checked settings older m ∧ Secure settings url ∧
      url = m.tokenEndpoint := by
  obtain ⟨P⟩ := hc.performed hsplit
  have hprovides := P.meets provides_serve
  have hchecked {m : ProviderMetadata} (h : Obtained (own e.thread older) m) : Checked settings older m := by
    rw [← P.history] at h ⊢
    exact checked_of_obtained P.reachable h
  constructor
  · intro url hurl
    rw [hurl] at hprovides
    rcases hprovides with hdiscovery | ⟨m, hm, hpost, rfl⟩
    · exact .inl hdiscovery
    · exact .inr ⟨m, hchecked hm, (hchecked hm).secure.2.2, rfl, hpost⟩
  · intro url data hurl
    rw [hurl] at hprovides
    obtain ⟨m, hm, rfl⟩ := hprovides
    exact ⟨m, hchecked hm, (hchecked hm).secure.2.1, rfl⟩

end

namespace Sample

def postedTo : Call → Option Str
  | .httpPost url _ => some url
  | _ => none

lemma httpPost_of_postedTo {call : Call} {url : Str} (h : postedTo call = some url) :
    ∃ data, call = .httpPost url data := by
  unfold postedTo at h
  split at h
  · cases h
    exact ⟨_, rfl⟩
  · cases h

end Sample

open Sample in
/-- The code of the sample login is posted to the endpoint of the document that it fetched. -/
theorem requests_of_run_loggedIn : ∃ older m, Checked Sample.settings older m ∧
    m.tokenEndpoint = Str.ofString "https://id.example/token" := by
  have hposted : loggedIn.history.filterMap (fun e => postedTo e.done.call) =
      [Str.ofString "https://id.example/token"] := by
    decide +kernel
  obtain ⟨e, he, hcall⟩ := List.mem_filterMap.mp (hposted ▸ List.mem_singleton_self _)
  obtain ⟨data, hpost⟩ := httpPost_of_postedTo hcall
  obtain ⟨newer, older, hsplit⟩ := List.append_of_mem he
  obtain ⟨m, hm, -, hurl⟩ := (requests_of_run run_loggedIn hsplit).2 _ data hpost
  exact ⟨older, m, hm, hurl.symm⟩

end Pentagon5.Auth
