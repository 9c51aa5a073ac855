import Pentagon5.Auth.Documents
import Pentagon5.Auth.Deployment
import Pentagon5.Auth.Tokens

/-!
# The exceptions of a login

`complete_login` raises an exception that the callback route does not catch exactly when one of
its calls raises one or receives an answer that makes the next step raise one.
-/

namespace Pentagon5.Auth

open Python Interleaving Interleaving.Prog AuthenticationService

section

variable {α β : Type} {settings : AuthSettings} {crypto : Primitives} {t : Trace}

def Posted (t : Trace) : Prop := ∃ url data r, ⟨.httpPost url data, r⟩ ∈ t

/-- The answer of this call, after the calls `t`, makes the program raise an exception that the
callback route does not catch. -/
def Unhandled (t : Trace) : Done Answer PyError → Prop
  | ⟨_, .error e⟩ => e.caught = false
  | ⟨.httpGet _, .ok response⟩ => ¬Posted t ∧ Response.Malformed response
  | ⟨.httpPost .., .ok response⟩ => Response.Malformed response
  | ⟨.getUnverifiedHeader _, .ok header⟩ => JwtHeader.Unhashable header ∨
      JwtHeader.Supported header ∧ ∃ url response, ⟨.httpGet url, .ok response⟩ ∈ t.head? ∧
        Response.Keyless response
  | _ => False

/-- Some call of the trace received such an answer. -/
def Escaped : Trace → Prop
  | [] => False
  | d :: t => Unhandled t d ∨ Escaped t

@[simp] lemma escaped_cons {d : Done Answer PyError} : Escaped (d :: t) ↔ Unhandled t d ∨ Escaped t := Iff.rfl

lemma escaped_iff : Escaped t ↔ ∃ t₁ d t₀, t = t₁ ++ d :: t₀ ∧ Unhandled t₀ d := by
  induction t with
  | nil => simp [Escaped]
  | cons d t ih =>
    rw [escaped_cons, ih]
    constructor
    · rintro (h | ⟨t₁, d', t₀, rfl, h⟩)
      · exact ⟨[], d, t, rfl, h⟩
      · exact ⟨d :: t₁, d', t₀, rfl, h⟩
    · rintro ⟨t₁, d', t₀, ht, h⟩
      cases t₁ with
      | nil =>
        obtain ⟨rfl, rfl⟩ := List.cons.inj ht
        exact .inl h
      | cons a t₁ => exact .inr ⟨t₁, d', t₀, (List.cons.inj ht).2, h⟩

/-- The calls that answer with an untrusted document. -/
def Call.untrusted : Call → Bool
  | .httpGet _ | .httpPost .. | .getUnverifiedHeader _ => true
  | _ => false

lemma not_unhandled_ok {call : Call} {a : Answer call} (h : call.untrusted = false) :
    ¬Unhandled t ⟨call, .ok a⟩ := by
  cases call <;> first | exact id | exact Bool.noConfusion h

lemma not_escaped_ok {call : Call} {a : Answer call} (h : call.untrusted = false) (ht : ¬Escaped t) :
    ¬Escaped (⟨call, .ok a⟩ :: t) := not_or.mpr ⟨not_unhandled_ok h, ht⟩

/-- The program raises an uncaught exception exactly when one of its calls is unhandled, and its
result satisfies `post`. -/
def Judged (t : Trace) (p : Async α) (post : Trace → α → Prop) : Prop :=
  Meets (fun _ _ => True) (fun t r => (CaughtOnly r ↔ ¬Escaped t) ∧ ∀ a, r = .ok a → post t a) t p

variable {post : Trace → β → Prop}

lemma judged_pure {b : β} (ht : ¬Escaped t) (h : post t b) : Judged t (pure b) post := by
  refine ⟨iff_of_true (caughtOnly_ok b) ht, ?_⟩
  rintro _ ⟨⟩
  exact h

lemma judged_raise {e : PyError} (ht : ¬Escaped t) (he : e.caught = true) :
    Judged t (raise e) post := by
  refine ⟨iff_of_true ((caughtOnly_error e).mpr he) ht, ?_⟩
  rintro _ ⟨⟩

lemma judged_bind {p : Async α} {f : α → Async β} {K : Trace → α → Prop} (hp : Judged t p K)
    (hf : ∀ t a, ¬Escaped t → K t a → Judged t (f a) post) : Judged t (p >>= f) post := by
  refine meets_bind (hp.mono (fun _ _ h => h) fun t r h => ?_)
  cases r with
  | ok a => exact hf t a (h.1.mp (caughtOnly_ok a)) (h.2 a rfl)
  | error e =>
    refine ⟨by simpa using h.1, ?_⟩
    rintro _ ⟨⟩

lemma judged_ask_bind {call : Call} {f : Answer call → Async β} (ht : ¬Escaped t)
    (hf : ∀ a, Judged (⟨call, .ok a⟩ :: t) (f a) post) : Judged t (ask call >>= f) post := by
  refine meets_perform_bind.mpr ⟨trivial, hf, fun e => ⟨?_, ?_⟩⟩
  · simp [Unhandled, ht]
  · rintro _ ⟨⟩

/-- A call whose answer no later step can refuse. -/
lemma judged_settled_bind {call : Call} {f : Answer call → Async β} (hc : call.untrusted = false)
    (ht : ¬Escaped t) (hf : ∀ a, ¬Escaped (⟨call, .ok a⟩ :: t) → Judged (⟨call, .ok a⟩ :: t) (f a) post) :
    Judged t (ask call >>= f) post :=
  judged_ask_bind ht fun a => hf a (not_escaped_ok hc ht)

lemma judged_ofExcept_bind {r : Except PyError α} {f : α → Async β}
    (he : ∀ e, r = .error e → (e.caught = true ↔ ¬Escaped t))
    (hf : ∀ a, r = .ok a → Judged t (f a) post) : Judged t (ofExcept r >>= f) post := by
  refine meets_ofExcept_bind.mpr ⟨hf, fun e hr => ⟨by simpa using he e hr, ?_⟩⟩
  rintro _ ⟨⟩

/-- A step that raises only exceptions that the callback route catches. -/
lemma judged_caught_bind {r : Except PyError α} {f : α → Async β} (ht : ¬Escaped t) (hr : CaughtOnly r)
    (hf : ∀ a, r = .ok a → Judged t (f a) post) : Judged t (ofExcept r >>= f) post :=
  judged_ofExcept_bind (fun e he => iff_of_true (hr e he) ht) hf

lemma judged_seal_bind {payload : List (String × String)} {associatedData : List UInt8}
    {f : String → Async β} (ht : ¬Escaped t) (hf : ∀ t a, ¬Escaped t → Judged t (f a) post) :
    Judged t (sealPayload settings crypto payload associatedData >>= f) post :=
  judged_bind (K := fun _ _ => True)
    (judged_settled_bind rfl ht fun _ ht => judged_pure ht trivial) fun t a ht _ => hf t a ht

lemma judged_metadata (ht : ¬Escaped t) (hp : ¬Posted t) :
    Judged t (OIDCClient.metadata settings) (fun _ _ => True) := by
  refine judged_settled_bind rfl ht fun cached ht => ?_
  cases cached with
  | some metadata => exact judged_pure ht trivial
  | none =>
    have hp : ¬Posted (⟨.cachedMetadata, .ok none⟩ :: t) := by simpa [Posted] using hp
    refine judged_ask_bind ht fun response => ?_
    have hescaped : ∀ url, ¬Escaped (⟨.httpGet url, .ok response⟩ :: ⟨.cachedMetadata, .ok none⟩ :: t) ↔
        ¬Response.Malformed response := by
      intro url
      exact not_congr ((or_iff_left ht).trans (and_iff_right hp))
    refine judged_ofExcept_bind (fun e he => ?_) fun _ hstatus => ?_
    · obtain ⟨hcaught, hwell⟩ := raiseForStatus_error he
      exact iff_of_true hcaught ((hescaped _).mpr hwell)
    have hbody := caughtOnly_body (raiseForStatus_ok hstatus) (caughtOnly_providerMetadata settings)
    refine judged_ofExcept_bind (fun e he => ?_) fun document hdocument => ?_
    · rw [hescaped, ← hbody, he]
      exact (caughtOnly_error e).symm
    rw [hdocument] at hbody
    change CaughtOnly (OIDCClient.providerMetadata settings document) ↔ _ at hbody
    refine judged_ofExcept_bind (fun e he => ?_) fun metadata hmetadata => ?_
    · rw [hescaped, ← hbody, he]
      exact (caughtOnly_error e).symm
    rw [hmetadata] at hbody
    have ht := (hescaped (settings.issuer ++ "/.well-known/openid-configuration" : String)).mpr
      (hbody.mp (caughtOnly_ok _))
    exact judged_settled_bind rfl ht fun _ ht => judged_pure ht trivial

/-- The rest of an exchange once the key set was answered. -/
lemma judged_keys {jwksUri idToken : Str} {nonce : String} {jwks : Response} (ht : ¬Escaped t)
    (hp : Posted t) : Judged (⟨.httpGet jwksUri, .ok jwks⟩ :: t) (do
      ofExcept jwks.raiseForStatus
      let header ← ask (.getUnverifiedHeader idToken)
      let algorithm ← ofExcept (OIDCClient.supportedAlgorithm header.alg)
      let jwk ← ofExcept (jwks.json >>= (OIDCClient.signingKey · header.kid))
      let claims ← ask (.jwtDecode idToken jwk algorithm)
      ofExcept (OIDCClient.validatedClaims nonce claims)) (fun _ _ => True) := by
  have ht : ¬Escaped (⟨.httpGet jwksUri, .ok jwks⟩ :: t) := not_or.mpr ⟨fun h => h.1 hp, ht⟩
  refine judged_ofExcept_bind (fun e he => ?_) fun _ _ => ?_
  · exact iff_of_true (raiseForStatus_error he).1 ht
  refine judged_ask_bind ht fun header => ?_
  have hescaped : Escaped (⟨.getUnverifiedHeader idToken, .ok header⟩ :: ⟨.httpGet jwksUri, .ok jwks⟩ :: t) ↔
      JwtHeader.Unhashable header ∨ JwtHeader.Supported header ∧ jwks.Keyless := by
    refine (or_iff_left ht).trans (or_congr_right (and_congr_right fun _ => ?_))
    constructor
    · rintro ⟨url, response, hmem, hkeyless⟩
      obtain ⟨⟩ := Option.some.inj hmem
      exact hkeyless
    · exact fun hkeyless => ⟨jwksUri, jwks, rfl, hkeyless⟩
  have hcaught := caughtOnly_supportedAlgorithm header
  have hsucceeds := succeeds_supportedAlgorithm header
  refine judged_ofExcept_bind (fun e he => ?_) fun algorithm halgorithm => ?_
  · rw [he, caughtOnly_error] at hcaught
    rw [he] at hsucceeds
    have hnot : ¬JwtHeader.Supported header := fun h => not_succeeds_error e (hsucceeds.mpr h)
    rw [hescaped, hcaught, or_iff_left fun h => hnot h.1]
  rw [halgorithm] at hcaught hsucceeds
  have hkeyless : Escaped (⟨.getUnverifiedHeader idToken, .ok header⟩ ::
      ⟨.httpGet jwksUri, .ok jwks⟩ :: t) ↔ jwks.Keyless := by
    rw [hescaped, or_iff_right (hcaught.mp (caughtOnly_ok _)), and_iff_right (hsucceeds.mp (succeeds_ok _))]
  have hkey := caughtOnly_jwks jwks (JwtHeader.kid header)
  refine judged_ofExcept_bind (fun e he => ?_) fun jwk hjwk => ?_
  · rw [hkeyless, ← hkey, he]
    exact (caughtOnly_error e).symm
  rw [hjwk, ← hkeyless] at hkey
  have ht := hkey.mp (caughtOnly_ok _)
  refine judged_ask_bind ht fun claims => ?_
  exact ⟨iff_of_true caughtOnly_validatedClaims (not_escaped_ok rfl ht), fun _ _ => trivial⟩

lemma judged_exchange {code verifier nonce : String} (ht : ¬Escaped t) (hp : ¬Posted t) :
    Judged t (OIDCClient.exchange settings code verifier nonce) (fun _ _ => True) := by
  refine judged_bind (judged_metadata ht hp) fun t metadata ht _ => ?_
  refine judged_ask_bind ht fun response => ?_
  have hescaped : ∀ data, ¬Escaped (⟨.httpPost metadata.tokenEndpoint data, .ok response⟩ :: t) ↔
      ¬Response.Malformed response := fun _ => not_congr (or_iff_left ht)
  refine judged_ofExcept_bind (fun e he => ?_) fun _ hstatus => ?_
  · obtain ⟨hcaught, hwell⟩ := raiseForStatus_error he
    exact iff_of_true hcaught ((hescaped _).mpr hwell)
  have hbody := caughtOnly_body (raiseForStatus_ok hstatus) caughtOnly_idTokenOf
  refine judged_ofExcept_bind (fun e he => ?_) fun idToken hidToken => ?_
  · rw [hescaped, ← hbody, he]
    exact (caughtOnly_error e).symm
  rw [hidToken] at hbody
  -- the key set is read only after the header, so its body is judged there
  refine judged_ask_bind ((hescaped _).mpr (hbody.mp (caughtOnly_ok _))) fun jwks => ?_
  have ht := (hescaped [("grant_type", "authorization_code"), ("code", code),
    ("redirect_uri", settings.redirectUri), ("client_id", settings.clientId),
    ("client_secret", settings.clientSecret), ("code_verifier", verifier)]).mpr
      (hbody.mp (caughtOnly_ok _))
  exact judged_keys ht ⟨_, _, _, List.mem_cons_self⟩

variable (settings crypto) in
/-- The payload of every consumed flow that opens holds text without lone surrogates. -/
def Textual (t : Trace) : Prop := ∀ fp now flow payload, Did t (.consumeFlow fp now) (some flow) →
  opened settings crypto flow.encryptedPayload flowPurpose = .ok payload →
  ∀ key, CaughtOnly (required payload key)

lemma judged_completeLogin (state code : String) : Meets (fun _ _ => True)
    (fun t r => Textual settings crypto t → (CaughtOnly r ↔ ¬Escaped t)) []
    (completeLogin settings crypto state code) := by
  have hstart : ¬Escaped [] := id
  refine meets_require_bind.mpr ⟨fun _ => ?_, fun _ _ => iff_of_true (fun _ h => by cases h; rfl) hstart⟩
  refine meets_perform_bind.mpr ⟨trivial, fun now => ?_, fun e _ => by simp [Unhandled, Escaped]⟩
  refine meets_perform_bind.mpr ⟨trivial, fun found => ?_, fun e _ => by simp [Unhandled, Escaped]⟩
  have ht : ¬Escaped [⟨.consumeFlow (fingerprint settings crypto state) now, .ok found⟩, ⟨.now, .ok now⟩] :=
    not_escaped_ok rfl (not_escaped_ok rfl hstart)
  have hexit : ∀ e : PyError, e.caught = true →
      (CaughtOnly (.error e : Except PyError LoginRedirect) ↔ ¬Escaped _) :=
    fun e he => iff_of_true ((caughtOnly_error e).mpr he) ht
  cases found with
  | none => exact fun _ => hexit _ rfl
  | some flow =>
    refine meets_require_bind.mpr ⟨fun _ => ?_, fun _ _ => hexit _ rfl⟩
    refine meets_ofExcept_bind.mpr ⟨fun payload hopen => ?_,
      fun e he _ => hexit e (caughtOnly_opened e he)⟩
    by_cases htext : ∀ key, CaughtOnly (required payload key)
    · refine Meets.mono (show Judged _ _ (fun _ (_ : LoginRedirect) => True) from ?_) (fun _ _ h => h)
        fun t r h _ => h.1
      refine judged_caught_bind ht (htext _) fun verifier _ =>
        judged_caught_bind ht (htext _) fun nonce _ => ?_
      refine judged_bind (judged_exchange ht (by simp [Posted])) fun t claims ht _ => ?_
      refine judged_caught_bind ht caughtOnly_identity fun identity _ => ?_
      refine judged_settled_bind rfl ht fun userId ht => ?_
      refine judged_caught_bind ht (htext _) fun deviceKey _ =>
        judged_caught_bind ht (htext _) fun platform _ => ?_
      refine judged_settled_bind rfl ht fun deviceId ht => judged_settled_bind rfl ht fun token ht =>
        judged_settled_bind rfl ht fun sessionId ht => judged_settled_bind rfl ht fun resolved ht => ?_
      cases resolved with
      | none => exact judged_raise ht rfl
      | some principal =>
        refine judged_settled_bind rfl ht fun grantCode ht => judged_seal_bind ht fun t payload ht => ?_
        exact judged_settled_bind rfl ht fun _ ht => judged_pure ht trivial
    · -- the trace keeps the consumed flow, whose payload is not textual
      refine (meets_extends _).mono (fun _ _ h => h) ?_
      rintro t r ⟨new, rfl⟩ htextual
      exact absurd (htextual _ now flow payload ((did_head _ _ _).append new) hopen) htext

/-- What the provider, PyJWT or the database chose for this call, after the calls `t` of the same
thread and in the store `s`, makes `complete_login` raise an uncaught exception. -/
def Escapes (t : Trace) (ω : Env) (s : Store) : Call → Prop
  | .httpGet _ => match ω.response with
    | .error e => e.raised.caught = false
    | .ok response => ¬Posted t ∧ response.Malformed
  | .httpPost .. => match ω.response with
    | .error e => e.raised.caught = false
    | .ok response => response.Malformed
  | .getUnverifiedHeader _ => match ω.header with
    | none => True
    | some header => header.Unhashable ∨ header.Supported ∧
        ∃ url response, ⟨.httpGet url, .ok response⟩ ∈ t.head? ∧ Response.Keyless response
  | .jwtDecode .. => ω.claims = none
  | other => ¬Accepts ω.uuid7 s other

lemma unhandled_transaction {call : Call} {r : Except PyError (Answer call)} (hc : call.untrusted = false)
    (hdb : OnlyDatabase r) : Unhandled t ⟨call, r⟩ ↔ ¬Succeeds r := by
  cases r with
  | ok a => exact iff_of_false (not_unhandled_ok hc) (not_not_intro (succeeds_ok a))
  | error e => exact iff_of_true (PyError.not_caught_of_database (hdb e rfl)) (not_succeeds_error e)

/-- The calls that `complete_login` does not make although they may raise. -/
def Call.foreign : Call → Bool
  | .revokeSession .. | .putWsTicket .. => true
  | _ => false

lemma unhandled_iff {call : Call} (hc : call.foreign = false) (ω : Env) (w : World) :
    Unhandled t ⟨call, (answer ω w call).1⟩ ↔ Escapes t ω w.store call := by
  have htransacts : call.transacts = true → call.untrusted = false →
      (Unhandled t ⟨call, (answer ω w call).1⟩ ↔ ¬Accepts ω.uuid7 w.store call) := by
    intro ht hu
    obtain ⟨hiff, hdb⟩ := answer_accepts ht ω w
    rw [unhandled_transaction hu hdb, hiff]
  have hsettled : ∀ {call : Call} (a : Answer call), call.untrusted = false →
      Accepts ω.uuid7 w.store call → (Unhandled t ⟨call, .ok a⟩ ↔ ¬Accepts ω.uuid7 w.store call) :=
    fun a hu ha => iff_of_false (not_unhandled_ok hu) (not_not_intro ha)
  cases call with
  | putFlow | putLoginGrant | provisionIdentity | registerDevice | createSession =>
    exact htransacts rfl rfl
  | httpGet url =>
    unfold Escapes answer
    cases ω.response with
    | error e => exact Iff.rfl
    | ok response => exact Iff.rfl
  | httpPost url data =>
    unfold Escapes answer
    cases ω.response with
    | error e => exact Iff.rfl
    | ok response => exact Iff.rfl
  | getUnverifiedHeader idToken =>
    unfold Escapes answer
    cases ω.header with
    | none => exact iff_of_true rfl trivial
    | some header => exact Iff.rfl
  | jwtDecode idToken jwk algorithm =>
    unfold Escapes answer
    cases ω.claims with
    | none => exact iff_of_true rfl rfl
    | some claims => exact iff_of_false id (by simp)
  | revokeSession | putWsTicket => cases hc
  | _ => exact hsettled _ rfl trivial

/-- The payloads that a thread opened were sealed by `start_login`. -/
lemma textual (h : Ideal crypto) {c : State} (hc : Run settings crypto c) {i : ℕ} :
    Textual settings crypto (own i c.history) := by
  intro fp now flow payload hflow hopen key
  obtain ⟨expiresAt, h₁, e, h₀, -, hsplit, hd⟩ := consumed_flow_origin hc hflow
  obtain ⟨P⟩ := hc.performed hsplit
  have hspec := performed_spec P
  rw [hd] at hspec
  obtain ⟨-, F, -, hF, -, hpayload, -⟩ := hspec
  rw [hpayload] at hopen
  rw [opened_flow h (urandom_length hc (hF.later hsplit).sealing) hopen]
  exact caughtOnly_required_ofStrings

/-- `complete_login` is the only request whose exceptions are judged here. -/
lemma judged_serve (q : Request) : Meets (fun _ _ => True) (fun t r => ∀ state code,
    q = .completeLogin state code → Textual settings crypto t → (CaughtOnly r ↔ ¬Escaped t)) []
    (q.serve settings crypto) := by
  cases q with
  | completeLogin state code =>
    refine meets_bind ((judged_completeLogin state code).mono (fun _ _ h => h) fun t r h => ?_)
    cases r with
    | ok login =>
      rintro _ _ ⟨⟩ htext
      exact iff_of_true (caughtOnly_ok _) ((h htext).mp (caughtOnly_ok _))
    | error e =>
      rintro _ _ ⟨⟩ htext
      rw [caughtOnly_error, ← h htext, caughtOnly_error]
  | _ => exact meets_trivial (fun _ _ => trivial) (fun _ _ _ _ hq => nomatch hq) _

/-- A finished `complete_login` returned or raised an exception that the callback route catches if
and only if none of its calls took one of the listed turns. -/
theorem login_errors_caught_iff (h : Ideal crypto) {c : State} (hc : Run settings crypto c) {i : ℕ}
    {state code : String} {r : Except PyError Reply}
    (hi : c.threads i = some ⟨.completeLogin state code, .ret r⟩) :
    CaughtOnly r ↔ ∀ h₁ e h₀, c.history = h₁ ++ e :: h₀ → e.thread = i →
      ¬Escapes (own i h₀) e.env e.before.store e.done.call := by
  rw [hc.meets judged_serve hi state code rfl (textual h hc), escaped_iff]
  have hentry : ∀ h₁ e h₀, c.history = h₁ ++ e :: h₀ → e.thread = i →
      (Unhandled (own i h₀) e.done ↔ Escapes (own i h₀) e.env e.before.store e.done.call) := by
    intro h₁ e h₀ hsplit hthread
    obtain ⟨P⟩ := hc.performed hsplit
    have hspec := performed_spec P
    rw [P.request_eq (by rw [hthread]; exact hi)] at hspec
    have hforeign : e.done.call.foreign = false := by
      cases hcall : e.done.call with
      | revokeSession => simp [hcall, CallSpec] at hspec
      | putWsTicket => simp [hcall, CallSpec] at hspec
      | _ => rfl
    have hiff := unhandled_iff (t := own i h₀) hforeign e.env e.before
    rwa [performed_answer P rfl] at hiff
  constructor
  · intro hno h₁ e h₀ hsplit hthread hescapes
    refine hno ⟨own i h₁, e.done, own i h₀, ?_, (hentry h₁ e h₀ hsplit hthread).mpr hescapes⟩
    exact own_eq_append_cons.mpr ⟨h₁, e, h₀, hsplit, hthread, rfl, rfl, rfl⟩
  · rintro hno ⟨t₁, d, t₀, hown, hunhandled⟩
    obtain ⟨h₁, e, h₀, hsplit, hthread, rfl, -, rfl⟩ := own_eq_append_cons.mp hown
    exact hno h₁ e h₀ hsplit hthread ((hentry h₁ e h₀ hsplit hthread).mp hunhandled)

end

namespace Sample

/-- The ID token of the exchange has expired. -/
def expiredToken : State := started.serve machine 1 (.completeLogin (token 1) "code")
  [clockAt 1000000, unused, unused, { response := .ok tokenResponse }, { response := .ok jwks },
    { header := some ⟨.str "RS256", some "k1"⟩ }, { claims := none }]

lemma run_expiredToken : Sampled expiredToken := (run_noRequests.serve 0 _ _).serve 1 _ _

/-- The request returned. -/
def returns (result : Option (Except PyError Reply)) : Bool :=
  match result with
  | some (.ok _) => true
  | _ => false

/-- The request raised what the route of the callback does not catch. -/
def escapes (result : Option (Except PyError Reply)) : Bool :=
  match result with
  | some (.error e) => !e.caught
  | _ => false

end Sample

open Sample in
theorem login_errors_caught_loggedIn : (loggedIn.result 1).isSome ∧
    ∀ h₁ e h₀, loggedIn.history = h₁ ++ e :: h₀ → e.thread = 1 →
      ¬Escapes (own 1 h₀) e.env e.before.store e.done.call := by
  have hdone : returns (loggedIn.result 1) = true ∧
      (loggedIn.threads 1).map Thread.request = some (.completeLogin (token 1) "code") := by
    decide +kernel
  have hresult := hdone.1
  unfold returns at hresult
  split at hresult
  · next reply hreply =>
    refine ⟨by rw [hreply]; rfl, ?_⟩
    exact (login_errors_caught_iff ideal run_loggedIn (Config.threads_of_result hreply hdone.2)).mp
      (caughtOnly_ok reply)
  · cases hresult

open Sample in
/-- An expired ID token ends the login with an exception of PyJWT. -/
theorem not_caught_expiredToken : ¬∀ (c : State) (i : ℕ) (state code : String) (r : Except PyError Reply),
    Sampled c → c.threads i = some ⟨.completeLogin state code, .ret r⟩ → CaughtOnly r := by
  intro h
  have hdone : escapes (expiredToken.result 1) = true ∧
      (expiredToken.threads 1).map Thread.request = some (.completeLogin (token 1) "code") := by
    decide +kernel
  have hresult := hdone.1
  unfold escapes at hresult
  split at hresult
  · next e hreply =>
    have hcaught := h _ 1 _ _ _ run_expiredToken (Config.threads_of_result hreply hdone.2)
    rw [(caughtOnly_error e).mp hcaught] at hresult
    cases hresult
  · cases hresult

end Pentagon5.Auth
