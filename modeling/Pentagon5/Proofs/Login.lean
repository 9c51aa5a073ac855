import Pentagon5.Auth.Deployment
import Pentagon5.Auth.Tokens

/-!
# Which login a session belongs to

A session token leads back to one `complete_login` request, which drew it, and through the flow
that this request consumed to one `start_login` request. The device, the verifier and the nonce
come from the one, the identity from the other, and only the grant of that login gives out the
token.
-/

namespace Pentagon5.Auth

open Python Relational Relational.Table Interleaving PostgresAuthRepository AuthenticationService

section

variable {settings : AuthSettings} {crypto : Primitives} {c : State}

variable (settings crypto) in
/-- Thread `j` consumed, before its expiry, the flow that thread `i` stored, and works with what
that flow holds. -/
structure Continues (c : State) (i j : ℕ) (F : Start) (L : Login) : Prop where
  started : (c.threads i).map Thread.request = some (.startLogin F.deviceKey F.platform)
  drawn : F.Drawn (own i c.history)
  stored : Did (own i c.history) (.putFlow (fingerprint settings crypto F.state) (F.payload settings crypto)
    settings.redirectUri (F.now + seconds settings.flowTtlSeconds)) ()
  state : L.state = F.state
  consumed : Did (own j c.history) (.consumeFlow (fingerprint settings crypto F.state) L.now)
    (some ⟨F.payload settings crypto, settings.redirectUri⟩)
  inTime : L.now < F.now + seconds settings.flowTtlSeconds
  payload : L.payload = Json.ofStrings (flowPayload F.verifier F.nonce F.deviceKey F.platform)

/-- The flow that a request consumed was stored by a request to start a login. -/
lemma consumed_flow (hc : Run settings crypto c) (hideal : Ideal crypto) {j : ℕ} {L : Login}
    (hL : L.Consumed settings crypto (own j c.history)) :
    ∃ i F, Continues settings crypto c i j F L := by
  obtain ⟨expiresAt, h₁, e, h₀, hlt, hsplit, hd⟩ := consumed_flow_origin hc hL.flow
  obtain ⟨P⟩ := hc.performed hsplit
  have hspec := performed_spec P
  rw [hd] at hspec
  obtain ⟨-, F, hq, hF, hfp, hpayload, huri, rfl⟩ := hspec
  have hsealing := urandom_length hc (hF.sealing.later hsplit)
  have hopened := hL.opened
  rw [hpayload] at hopened
  refine ⟨e.thread, F, by rw [P.now, ← hq]; rfl, hF.later hsplit, ?_, fingerprint_injective hideal hfp, ?_,
    hlt, opened_flow hideal hsealing hopened⟩
  · exact did_own.mpr ⟨e, by simp [hsplit], rfl, by rw [hd, hfp, hpayload, huri]⟩
  · rw [← hfp, ← hpayload, ← huri]
    exact hL.flow

/-- The values of a consumed flow are those of the request that stored it. -/
lemma Continues.values {i j : ℕ} {F : Start} {L : Login} (h : Continues settings crypto c i j F L) {t : Trace}
    (hL : L.Provisioned settings crypto t) : L.verifier = F.verifier ∧ L.nonce = F.nonce ∧
      L.deviceKey = F.deviceKey ∧ L.platform = F.platform := by
  have hverifier := hL.verifier
  have hnonce := hL.nonce
  have hkey := hL.deviceKey
  have hplatform := hL.platform
  rw [h.payload] at hverifier hnonce hkey hplatform
  have hv := required_ofStrings_eq_ok hverifier
  have hn := required_ofStrings_eq_ok hnonce
  have hk := required_ofStrings_eq_ok hkey
  have hp := required_ofStrings_eq_ok hplatform
  simp [flowPayload, List.lookup_cons] at hv hn hk hp
  exact ⟨hv.symm, hn.symm, hk.symm, hp.symm⟩

variable (settings crypto) in
/-- Thread `i` started the login and thread `j` completed it; the token was drawn for it, and the
principal is that of its session. -/
structure LoginOf (c : State) (token : String) (p : Principal) (i j : ℕ) (F : Start) (L : Login) : Prop where
  flow : Continues settings crypto c i j F L
  completed : (c.threads j).map Thread.request = some (.completeLogin L.state L.code)
  exchanged : Exchanged settings (own j c.history) L.code F.verifier F.nonce L.claims
  verified : Json.get? L.claims "nonce" = some (.str F.nonce) ∧
    Json.get? L.claims "email_verified" = some (.bool true)
  identity : Json.get? L.claims "sub" = some (.str L.identity.subject) ∧ L.identity.issuer = settings.issuer
  user : ∃ row ∈ c.state.store.identities, row.Holds L.identity ∧ row.userId = p.userId
  device : ∃ d ∈ c.state.store.devices, p.deviceId = some d.id ∧ d.userId = p.userId ∧
    d.deviceKey = fingerprint settings crypto F.deviceKey ∧
    ∃ now, Did (own j c.history) (.registerDevice p.userId d.deviceKey F.platform now) d.id
  drawn : Did (own j c.history) (.randomToken 32) token
  session : ∃ deviceId expiresAt, Did (own j c.history)
    (.createSession p.userId deviceId (fingerprint settings crypto token) expiresAt) p.sessionId

lemma identity_ok {claims : Dict} {identity : Identity}
    (h : AuthenticationService.identity settings crypto claims = .ok identity) :
    Json.get? claims "sub" = some (.str identity.subject) ∧ identity.issuer = settings.issuer := by
  unfold AuthenticationService.identity at h
  split at h
  · next subject email hsub hemail =>
    obtain ⟨value, hget, hvalue⟩ := Option.bind_eq_some_iff.mp hsub
    cases value <;> cases hvalue
    cases h
    exact ⟨hget, rfl⟩
  · cases h

/-- The login that created a session which a token resolves to. -/
lemma exists_login (hc : Run settings crypto c) (hideal : Ideal crypto) {token : String} {now : Timestamp}
    {p : Principal}
    (h : resolveSession c.state.store (fingerprint settings crypto token) now = some p) :
    ∃ i j F L, LoginOf settings crypto c token p i j F L := by
  obtain ⟨r, hr, hfp, -, u, -, -, -, -, rfl⟩ := resolveSession_eq_some.mp h
  obtain ⟨h₁, e, h₀, deviceId, hsplit, hd, hdevice⟩ := session_origin hc hr
  obtain ⟨P⟩ := hc.performed hsplit
  have hspec := performed_spec P
  rw [hd] at hspec
  obtain ⟨L, hq, hL, huser, hid, hfp', -⟩ := hspec
  have hL := hL.later hsplit
  obtain rfl : L.token = token := fingerprint_injective hideal (hfp'.symm.trans hfp)
  obtain ⟨i, F, hflow⟩ := consumed_flow hc hideal hL.toConsumed
  obtain ⟨hverifier, hnonce, hkey, hplatform⟩ := hflow.values hL.toProvisioned
  obtain ⟨d, hdmem, hdid, hduser, hdkey⟩ := registered_device hc hL.device
  obtain ⟨row, hrow, hholds, howner⟩ := provisioned_identity hc hL.user
  obtain ⟨-, hn, hv⟩ := OIDCClient.validatedClaims_ok hL.exchanged.validated
  refine ⟨i, e.thread, F, L, hflow, by rw [P.now, ← hq]; rfl, ?_, ⟨hnonce ▸ hn, hv⟩, identity_ok hL.identity,
    ⟨row, hrow, hholds, howner.trans huser.symm⟩, ⟨d, hdmem, ?_, hduser.trans huser.symm, ?_, L.now, ?_⟩,
    hL.token, deviceId, r.expiresAt, ?_⟩
  · rw [← hverifier, ← hnonce]
    exact hL.exchanged
  · rw [hdevice, hid, hdid]
  · rw [hdkey, hkey]
  · rw [huser, hdkey, ← hplatform, hdid]
    exact hL.device
  · exact did_own.mpr ⟨e, by simp [hsplit], rfl, by rw [hd, hfp]⟩

/-- No other pair of requests is the login of the token. -/
lemma login_unique (hc : Run settings crypto c) {token : String} {p p' : Principal} {i i' j j' : ℕ}
    {F F' : Start} {L L' : Login} (h : LoginOf settings crypto c token p i j F L)
    (h' : LoginOf settings crypto c token p' i' j' F' L') : i = i' ∧ j = j' := by
  obtain rfl := drawn_once hc h.drawn h'.drawn
  have hrequest := h.completed.symm.trans h'.completed
  obtain ⟨hstate, -⟩ := Request.completeLogin.inj (Option.some.inj hrequest)
  have hsame : F.state = F'.state := by rw [← h.flow.state, hstate, h'.flow.state]
  have hdrawn' := h'.flow.drawn.state
  rw [← hsame] at hdrawn'
  exact ⟨drawn_once hc h.flow.drawn.state hdrawn', rfl⟩

/-- An exchange returns a token only for a grant that the login of the token stored. -/
lemma exchanged_grant (hc : Run settings crypto c) (hideal : Ideal crypto) {token : String} {p p' : Principal}
    {i j k : ℕ} {F : Start} {L : Login} (h : LoginOf settings crypto c token p i j F L) {code : String}
    (hk : c.threads k = some ⟨.exchangeLoginGrant code, .ret (.ok (.grant ⟨token, p'⟩))⟩) :
    Did (own j c.history) (.randomToken 32) code ∧ ∃ payload expiresAt, Did (own j c.history)
      (.putLoginGrant (fingerprint settings crypto code) payload expiresAt) () := by
  obtain ⟨code', now, encrypted, payload, now', hq, hconsumed, hopen, hreq, -⟩ := hc.meets serve_meets hk
  cases hq
  obtain ⟨expiresAt, h₁, e, h₀, -, hsplit, hd⟩ := consumed_grant_origin hc hconsumed
  obtain ⟨P⟩ := hc.performed hsplit
  have hspec := performed_spec P
  rw [hd] at hspec
  obtain ⟨-, L', code', sealing, -, hL', hcode, hsealing, hfp, hencrypted, -⟩ := hspec
  obtain rfl : code = code' := fingerprint_injective hideal hfp
  -- the payload opens to the token that the thread of the grant drew
  have hlength := urandom_length hc (hsealing.later hsplit)
  rw [hencrypted, opened_sealed hideal hlength (by simp) grantPurpose] at hopen
  obtain rfl := Except.ok.inj hopen
  have htoken := required_ofStrings_eq_ok hreq
  obtain rfl : L'.token = token := by simpa [List.lookup_cons] using htoken
  obtain rfl := drawn_once hc h.drawn (hL'.token.later hsplit)
  exact ⟨hcode.later hsplit, encrypted, expiresAt, did_own.mpr ⟨e, by simp [hsplit], rfl, hd⟩⟩

/-- A token that resolves to a principal has exactly one login: one request that started it and
one that completed it, with the device, the verifier and the nonce of the first, claims that carry
the nonce, the user linked to them as the columns hold them, and the device of that user. Only the
grant code of this login is exchanged for the token. -/
theorem login_of_token (hc : Run settings crypto c) (hideal : Ideal crypto) {token : String}
    {now : Timestamp} {p : Principal}
    (h : resolveSession c.state.store (fingerprint settings crypto token) now = some p) :
    ∃ i j F L, LoginOf settings crypto c token p i j F L ∧
      (∀ i' j' F' L', LoginOf settings crypto c token p i' j' F' L' → i = i' ∧ j = j') ∧
      ∀ k code p', c.threads k = some ⟨.exchangeLoginGrant code, .ret (.ok (.grant ⟨token, p'⟩))⟩ →
        Did (own j c.history) (.randomToken 32) code ∧ ∃ payload expiresAt, Did (own j c.history)
          (.putLoginGrant (fingerprint settings crypto code) payload expiresAt) () := by
  obtain ⟨i, j, F, L, hlogin⟩ := exists_login hc hideal h
  exact ⟨i, j, F, L, hlogin, fun i' j' F' L' h' => login_unique hc hlogin h',
    fun k code p' hk => exchanged_grant hc hideal hlogin hk⟩

end

namespace Sample

/-- The grant of the login is exchanged for its token. -/
def exchangedGrant : State := loggedIn.serve machine 2 (.exchangeLoginGrant (token 6))
  [clockAt 2000000, unused, clockAt 2000000, unused]

lemma run_exchangedGrant : Sampled exchangedGrant := run_loggedIn.serve 2 _ _

/-- The request was answered with the session token. -/
def grants (token : String) (result : Option (Except PyError Reply)) : Bool :=
  match result with
  | some (.ok (.grant grant)) => grant.token = token
  | _ => false

end Sample

open Sample in
theorem login_of_token_exchangedGrant : ∃ p i j F L,
    LoginOf Sample.settings tables.primitives exchangedGrant (Sample.token 5) p i j F L ∧
      Did (own j exchangedGrant.history) (.randomToken 32) (Sample.token 6) := by
  have hdone : (resolveSession exchangedGrant.state.store (print (token 5)) 3000000).isSome ∧
      grants (token 5) (exchangedGrant.result 2) = true ∧
      (exchangedGrant.threads 2).map Thread.request = some (.exchangeLoginGrant (token 6)) := by
    decide +kernel
  obtain ⟨p, hp⟩ := Option.isSome_iff_exists.mp hdone.1
  obtain ⟨i, j, F, L, hlogin, -, hgrant⟩ := login_of_token run_exchangedGrant ideal hp
  refine ⟨p, i, j, F, L, hlogin, ?_⟩
  have hresult := hdone.2.1
  unfold grants at hresult
  split at hresult
  · next grant hreply =>
    obtain ⟨token', p'⟩ := grant
    obtain rfl : token' = token 5 := of_decide_eq_true hresult
    exact (hgrant 2 (token 6) p' (Config.threads_of_result hreply hdone.2.2)).1
  · cases hresult

namespace Sample

/-- 512 characters and a space. -/
def paddedSubject : Str := ⟨List.replicate 512 97 ++ [32]⟩

lemma length_paddedSubject : 512 < paddedSubject.codes.length := by
  rw [paddedSubject, List.length_append, List.length_replicate]
  decide

def paddedClaims : Dict := [("sub", .str paddedSubject), ("email", .str "User@example.com"),
  ("email_verified", .bool true), ("nonce", .str (token 2)), ("name", .str "User One")]

/-- A login with this subject. -/
def paddedLogin : State := started.serve machine 1 (.completeLogin (token 1) "code") <|
  [clockAt 1000000, unused, unused, { response := .ok tokenResponse }, { response := .ok jwks },
    { header := some ⟨.str "RS256", some "k1"⟩ }, { claims := some paddedClaims }] ++
    [uuids 10, uuids 20, bytes 5, uuids 30, unused, bytes 6, bytes 7, uuids 40]

lemma run_paddedLogin : Sampled paddedLogin := (run_noRequests.serve 0 _ _).serve 1 _ _

/-- Claims that the call decoded have this subject. -/
def decodes (subject : Str) : Done Answer PyError → Bool
  | ⟨.jwtDecode _ _ _, .ok claims⟩ => (Json.get? claims "sub").bind Json.str? = some subject
  | _ => true

end Sample

open Sample in
/-- The login succeeds, and no user is linked to the subject of its claims as it stands. -/
theorem not_linked_paddedLogin : ¬∀ (c : State) (token : String) (now : Timestamp) (p : Principal), Sampled c →
    resolveSession c.state.store (print token) now = some p →
    ∃ i j F L, LoginOf Sample.settings tables.primitives c token p i j F L ∧
      ∃ row ∈ c.state.store.identities, row.Stores L.identity ∧ row.userId = p.userId := by
  intro h
  have hdone : (resolveSession paddedLogin.state.store (print (token 5)) 2000000).isSome ∧
      ∀ e ∈ paddedLogin.history, decodes paddedSubject e.done = true := by
    decide +kernel
  obtain ⟨p, hp⟩ := Option.isSome_iff_exists.mp hdone.1
  obtain ⟨i, j, F, L, hlogin, row, -, hstores, -⟩ := h _ _ _ p run_paddedLogin hp
  obtain ⟨idToken, jwk, algorithm, hdecoded⟩ := hlogin.exchanged.decoded
  obtain ⟨e, he, -, hd⟩ := did_own.mp hdecoded
  have hsubject : L.identity.subject = paddedSubject := by
    have hcall := hdone.2 e he
    rw [hd] at hcall
    have hsub : (Json.get? L.claims "sub").bind Json.str? = some paddedSubject := of_decide_eq_true hcall
    rw [hlogin.identity.1] at hsub
    exact Option.some.inj hsub
  exact not_stores_of_length (hsubject ▸ length_paddedSubject) hstores

end Pentagon5.Auth
