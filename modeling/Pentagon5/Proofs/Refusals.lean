import Pentagon5.Auth.Constraints
import Pentagon5.Auth.Deployment
import Pentagon5.Auth.Tokens
import Pentagon5.Auth.TokenText

/-!
# Why requests are refused

An `AuthenticationError` has a cause that lies with the client, with an administrator or with the
lapse of time: whatever a run seals it can open again, so none of the errors about a broken
authorization transaction is ever raised.
-/

namespace Pentagon5.Auth

open Python Interleaving Interleaving.Prog AuthenticationService

section

variable {α β : Type} {settings : AuthSettings} {crypto : Primitives} {t : Trace}

variable (settings crypto) in
/-- The `AuthenticationError`s of a request that made the calls `t`, each with its cause. -/
inductive Refusal (t : Trace) : Request → String → Prop where
  | deviceKey {deviceKey platform : String} (h : ¬(8 ≤ deviceKey.length ∧ deviceKey.length ≤ 200)) :
      Refusal t (.startLogin deviceKey platform) "device key must contain 8 to 200 characters"
  | platform {deviceKey platform : String} (h : platform ∉ platforms) :
      Refusal t (.startLogin deviceKey platform) "unsupported device platform"
  | incomplete {state code : String} (h : state = "" ∨ code = "") :
      Refusal t (.completeLogin state code) "state and authorization code are required"
  | flow {state code : String} {now : Timestamp}
      (h : Did t (.consumeFlow (fingerprint settings crypto state) now) none) :
      Refusal t (.completeLogin state code) "authorization transaction is invalid or expired"
  | claims {state code verifier nonce : String} {claims : Dict}
      (h : Exchanged settings t code verifier nonce claims)
      (hclaims : (Json.get? claims "sub").bind Json.str? = none ∨ (Json.get? claims "email").bind Json.str? = none) :
      Refusal t (.completeLogin state code) "ID token is missing subject or email"
  | permitted {state code fp : String} {userId deviceId sessionId : Uuid} {expiresAt now : Timestamp}
      (h : Did t (.createSession userId deviceId fp expiresAt) sessionId)
      (hresolve : Did t (.resolveSession fp now) none) :
      Refusal t (.completeLogin state code) "identity is not permitted to create a session"
  | grantCode : Refusal t (.exchangeLoginGrant "") "login grant code is required"
  | grant {code : String} {now : Timestamp}
      (h : Did t (.consumeLoginGrant (fingerprint settings crypto code) now) none) :
      Refusal t (.exchangeLoginGrant code) "login grant is invalid or expired"
  | granted {code encrypted token : String} {now now' : Timestamp}
      (h : Did t (.consumeLoginGrant (fingerprint settings crypto code) now) (some encrypted))
      (hopen : opened settings crypto encrypted grantPurpose = .ok (Json.ofStrings [("session_token", token)]))
      (hresolve : Did t (.resolveSession (fingerprint settings crypto token) now') none) :
      Refusal t (.exchangeLoginGrant code) "session is invalid or expired"
  | token {operation : Operation} :
      Refusal t (.authenticated "" operation) "session token is required"
  | session {token : String} {operation : Operation} {now : Timestamp}
      (h : Did t (.resolveSession (fingerprint settings crypto token) now) none) :
      Refusal t (.authenticated token operation) "session is invalid or expired"
  | device {token : String} {userId deviceId : Uuid} {now : Timestamp}
      (h : Did t (.revokeDevice userId deviceId now) false) :
      Refusal t (.authenticated token (.revokeDevice deviceId)) "device was not found"
  | ticketChannel {token channel : String} (h : channel ∉ wsChannels) :
      Refusal t (.authenticated token (.issueWsTicket channel)) "unsupported WebSocket channel"
  | channel {ticket channel : String} (h : channel ∉ wsChannels) :
      Refusal t (.websocket ticket channel) "unsupported WebSocket channel"
  | ticket {ticket channel : String} {now : Timestamp}
      (h : Did t (.consumeWsTicket (fingerprint settings crypto ticket) channel now) none) :
      Refusal t (.websocket ticket channel) "WebSocket ticket is invalid or expired"

variable (settings crypto) in
/-- What a run promises about the answers that a thread received: no call answers with an
`AuthenticationError`, and the payloads that the thread took hold what they were sealed for. -/
structure Intact (t : Trace) : Prop where
  answers : ∀ d ∈ t, ∀ m, d.answer ≠ .error (.authenticationError m)
  flows : ∀ fp now flow, Did t (.consumeFlow fp now) (some flow) → flow.redirectUri = settings.redirectUri ∧
    ∃ verifier nonce deviceKey platform : String, verifier ≠ "" ∧ nonce ≠ "" ∧ deviceKey ≠ "" ∧ platform ≠ "" ∧
      opened settings crypto flow.encryptedPayload flowPurpose =
        .ok (Json.ofStrings (flowPayload verifier nonce deviceKey platform))
  grants : ∀ fp now encrypted, Did t (.consumeLoginGrant fp now) (some encrypted) → ∃ token : String, token ≠ "" ∧
    opened settings crypto encrypted grantPurpose = .ok (Json.ofStrings [("session_token", token)])

/-- No `AuthenticationError`. -/
def Other (r : Except PyError α) : Prop := ∀ m, r ≠ .error (.authenticationError m)

lemma other_ok (a : α) : Other (.ok a : Except PyError α) := by
  intro m h
  cases h

lemma other_error {e : PyError} (he : ∀ m, e ≠ .authenticationError m) : Other (.error e : Except PyError α) :=
  fun m h => he m (Except.error.inj h)

lemma Other.bind {r : Except PyError α} {f : α → Except PyError β} (hr : Other r) (hf : ∀ a, Other (f a)) :
    Other (r >>= f) := by
  cases r with
  | ok a => exact hf a
  | error e => exact fun m h => hr m (congrArg Except.error (Except.error.inj h))

lemma other_ensure {p : Prop} [Decidable p] {e : PyError} (he : ∀ m, e ≠ .authenticationError m) :
    Other (ensure p e) := by
  unfold ensure
  split
  · exact other_ok _
  · exact other_error he

variable (settings crypto) in
/-- On what a run promises, every `AuthenticationError` of the program has a listed cause. -/
def Excused (cause : Trace → String → Prop) (t : Trace) (p : Async α) (post : Trace → α → Prop) : Prop :=
  Meets (fun _ _ => True) (fun t r => Intact settings crypto t →
    (∀ m, r = .error (.authenticationError m) → cause t m) ∧ ∀ a, r = .ok a → post t a) t p

variable {cause : Trace → String → Prop} {post : Trace → β → Prop}

lemma excused_pure {b : β} (h : Intact settings crypto t → post t b) :
    Excused settings crypto cause t (pure b) post := by
  refine fun ht => ⟨fun m hm => ?_, ?_⟩
  · cases hm
  · rintro _ ⟨⟩
    exact h ht

lemma excused_raise {m : String} (h : Intact settings crypto t → cause t m) :
    Excused settings crypto cause t (raise (.authenticationError m) : Async β) post := by
  refine fun ht => ⟨?_, fun b hb => ?_⟩
  · rintro _ ⟨⟩
    exact h ht
  · cases hb

lemma excused_bind {p : Async α} {f : α → Async β} {K : Trace → α → Prop}
    (hp : Excused settings crypto cause t p K)
    (hf : ∀ new a, (Intact settings crypto (new ++ t) → K (new ++ t) a) →
      Excused settings crypto cause (new ++ t) (f a) post) :
    Excused settings crypto cause t (p >>= f) post := by
  refine meets_bind ((hp.since (K := fun _ => True) fun _ _ _ => trivial).mono (fun _ _ h => h) ?_)
  rintro _ r ⟨h, new, rfl, -⟩
  cases r with
  | ok a => exact hf new a fun ht => (h ht).2 a rfl
  | error e =>
    refine fun ht => ⟨fun m hm => (h ht).1 m (congrArg Except.error (Except.error.inj hm)), fun b hb => ?_⟩
    cases hb

lemma excused_ask_bind {call : Call} {f : Answer call → Async β}
    (hf : ∀ a, Excused settings crypto cause (⟨call, .ok a⟩ :: t) (f a) post) :
    Excused settings crypto cause t (ask call >>= f) post := by
  refine meets_perform_bind.mpr ⟨trivial, hf, fun e ht => ⟨?_, ?_⟩⟩
  · rintro m ⟨⟩
    exact absurd rfl (ht.answers _ List.mem_cons_self m)
  · rintro _ ⟨⟩

lemma excused_require_bind {p : Prop} [Decidable p] {m : String} {f : Unit → Async β}
    (hp : Intact settings crypto t → ¬p → cause t m) (hf : p → Excused settings crypto cause t (f ()) post) :
    Excused settings crypto cause t (require p (.authenticationError m) >>= f) post := by
  refine meets_require_bind.mpr ⟨hf, fun hn ht => ⟨?_, ?_⟩⟩
  · rintro _ ⟨⟩
    exact hp ht hn
  · rintro _ ⟨⟩

lemma excused_ask {call : Call} : Excused settings crypto cause t (ask call) (fun _ _ => True) := by
  refine meets_perform.mpr ⟨trivial, fun r ht => ⟨?_, fun _ _ => trivial⟩⟩
  rintro m rfl
  exact absurd rfl (ht.answers _ List.mem_cons_self m)

lemma excused_require {p : Prop} [Decidable p] {e : PyError}
    (h : Intact settings crypto t → ¬p → ∀ m, e = .authenticationError m → cause t m) :
    Excused settings crypto cause t (require p e) (fun _ _ => True) := by
  unfold require
  split
  · exact excused_pure fun _ => trivial
  · next hp =>
    refine fun ht => ⟨fun m hm => h ht hp m (Except.error.inj hm), fun _ _ => trivial⟩

/-- A step that raises no `AuthenticationError` on what a run promises. -/
lemma excused_ofExcept_bind {r : Except PyError α} {f : α → Async β}
    (hr : Intact settings crypto t → ∀ m, r = .error (.authenticationError m) → cause t m)
    (hf : ∀ a, r = .ok a → Excused settings crypto cause t (f a) post) :
    Excused settings crypto cause t (ofExcept r >>= f) post := by
  refine meets_ofExcept_bind.mpr ⟨hf, fun e he ht => ⟨?_, ?_⟩⟩
  · rintro m ⟨⟩
    exact hr ht m he
  · rintro _ ⟨⟩

lemma excused_other_bind {r : Except PyError α} {f : α → Async β} (hr : Other r)
    (hf : ∀ a, r = .ok a → Excused settings crypto cause t (f a) post) :
    Excused settings crypto cause t (ofExcept r >>= f) post :=
  excused_ofExcept_bind (fun _ m h => absurd h (hr m)) hf

lemma excused_seal_bind {payload : List (String × String)} {associatedData : List UInt8} {f : String → Async β}
    (hf : ∀ new value, Excused settings crypto cause (new ++ t) (f value) post) :
    Excused settings crypto cause t (sealPayload settings crypto payload associatedData >>= f) post :=
  excused_bind (K := fun _ _ => True) (excused_ask_bind fun _ => excused_pure fun _ => trivial)
    fun new value _ => hf new value

lemma other_raiseForStatus (r : Response) : Other r.raiseForStatus := by
  unfold Response.raiseForStatus
  split
  · exact other_ok _
  · exact other_error (by simp)

lemma other_json (r : Response) : Other r.json := by
  unfold Response.json
  split
  · exact other_ok _
  · exact other_error (by simp)

lemma other_getMember (value : Json) (key : String) : Other (getMember value key) := by
  unfold getMember
  split
  · exact other_ok _
  · exact other_error (by simp)

lemma other_providerMetadata (document : Json) : Other (OIDCClient.providerMetadata settings document) := by
  unfold OIDCClient.providerMetadata
  refine (other_getMember _ _).bind fun _ => (other_ensure (by simp)).bind fun _ =>
    (other_getMember _ _).bind fun _ => (other_getMember _ _).bind fun _ => (other_getMember _ _).bind fun _ => ?_
  split
  · exact (other_ensure (by simp)).bind fun _ => (other_ensure (by simp)).bind fun _ => other_ok _
  · exact other_error (by simp)

lemma other_idTokenOf (document : Json) : Other (OIDCClient.idTokenOf document) := by
  unfold OIDCClient.idTokenOf
  refine (other_getMember _ _).bind fun _ => ?_
  split
  · exact other_ok _
  · exact other_error (by simp)

lemma other_supportedAlgorithm (alg : Json) : Other (OIDCClient.supportedAlgorithm alg) := by
  unfold OIDCClient.supportedAlgorithm
  repeat' split
  all_goals first | exact other_ok _ | exact other_error (by simp)

lemma other_matchingKeys (kid : Option Str) (keys : List Json) : Other (OIDCClient.matchingKeys kid keys) := by
  induction keys with
  | nil => exact other_ok _
  | cons key keys ih =>
    cases key with
    | dict key => exact ih.bind fun _ => other_ok _
    | _ => exact other_error (by simp)

lemma other_signingKey (jwks : Json) (kid : Option Str) : Other (OIDCClient.signingKey jwks kid) := by
  unfold OIDCClient.signingKey
  refine (other_getMember _ _).bind fun keys => Other.bind ?_ fun matching => ?_
  · unfold OIDCClient.iterateKeys
    split
    · exact other_matchingKeys kid _
    · split
      · exact other_ok _
      · exact other_error (by simp)
    · split
      · exact other_ok _
      · exact other_error (by simp)
    · exact other_error (by simp)
  · split
    · exact other_ok _
    · exact other_error (by simp)

lemma other_validatedClaims (nonce : String) (claims : Dict) : Other (OIDCClient.validatedClaims nonce claims) := by
  unfold OIDCClient.validatedClaims
  refine (other_ensure (by simp)).bind fun _ => ?_
  split
  · exact other_ok _
  · exact other_error (by simp)

lemma excused_metadata : Excused settings crypto cause t (OIDCClient.metadata settings) (fun _ _ => True) := by
  refine excused_ask_bind fun cached => ?_
  cases cached with
  | some metadata => exact excused_pure fun _ => trivial
  | none =>
    refine excused_ask_bind fun response => excused_other_bind (other_raiseForStatus _) fun _ _ =>
      excused_other_bind (other_json _) fun document _ =>
      excused_other_bind (other_providerMetadata document) fun metadata _ => ?_
    exact excused_ask_bind fun _ => excused_pure fun _ => trivial

lemma excused_authorizationUrl (state nonce challenge : String) : Excused settings crypto cause t
    (OIDCClient.authorizationUrl settings state nonce challenge) (fun _ _ => True) :=
  excused_bind excused_metadata fun _ _ _ => excused_pure fun _ => trivial

lemma excused_exchange (code verifier nonce : String) : Excused settings crypto cause t
    (OIDCClient.exchange settings code verifier nonce)
    (fun t claims => Exchanged settings t code verifier nonce claims) := by
  have hother : Excused settings crypto cause t (OIDCClient.exchange settings code verifier nonce)
      (fun _ _ => True) := by
    refine excused_bind excused_metadata fun new metadata _ => excused_ask_bind fun response => ?_
    refine excused_other_bind (other_raiseForStatus _) fun _ _ =>
      excused_other_bind ((other_json _).bind other_idTokenOf) fun idToken _ => excused_ask_bind fun jwks => ?_
    refine excused_other_bind (other_raiseForStatus _) fun _ _ => excused_ask_bind fun header =>
      excused_other_bind (other_supportedAlgorithm _) fun algorithm _ =>
      excused_other_bind ((other_json _).bind (other_signingKey · _)) fun jwk _ => excused_ask_bind fun claims => ?_
    exact fun _ => ⟨fun m hm => absurd hm (other_validatedClaims nonce claims m), fun _ _ => trivial⟩
  refine (hother.and (exchange_free code verifier nonce)).mono (fun _ _ _ => trivial) ?_
  exact fun t r h ht => ⟨(h.1 ht).1, h.2⟩

lemma excused_startLogin (deviceKey platform : String) : Excused settings crypto
    (fun t => Refusal settings crypto t (.startLogin deviceKey platform)) t
    (startLogin settings crypto deviceKey platform) (fun _ _ => True) := by
  refine excused_require_bind (fun _ h => .deviceKey h) fun _ => excused_require_bind (fun _ h => .platform h)
    fun _ => ?_
  refine excused_ask_bind fun state => excused_ask_bind fun nonce => excused_ask_bind fun verifier =>
    excused_seal_bind fun _ payload => excused_ask_bind fun now => excused_ask_bind fun _ => ?_
  exact excused_authorizationUrl _ _ _

lemma excused_authenticate {token : String} (htoken : Intact settings crypto t → token = "" →
      cause t "session token is required")
    (hnone : ∀ new now, Did (new ++ t) (.resolveSession (fingerprint settings crypto token) now) none →
      Intact settings crypto (new ++ t) → cause (new ++ t) "session is invalid or expired") :
    Excused settings crypto cause t (authenticate settings crypto token) (fun _ _ => True) := by
  refine excused_require_bind (fun ht h => htoken ht (not_not.mp h)) fun _ => excused_ask_bind fun now =>
    excused_ask_bind fun found => ?_
  cases found with
  | none => exact excused_raise fun ht => hnone [_, _] now (did_head _ _ _) ht
  | some principal => exact excused_pure fun _ => trivial

/-- A part of a payload that was sealed. -/
lemma other_required {members : List (String × String)} {key value : String}
    (hl : members.lookup key = some value) (hne : value ≠ "") : Other (required (Json.ofStrings members) key) := by
  rw [required_ofStrings hl hne]
  exact other_ok _

lemma Intact.other_flow (h : Intact settings crypto t) {fp key : String} {now : Timestamp} {flow : Flow}
    {payload : Dict} (hflow : Did t (.consumeFlow fp now) (some flow))
    (hopen : opened settings crypto flow.encryptedPayload flowPurpose = .ok payload)
    (hkey : key ∈ ["verifier", "nonce", "device_key", "platform"]) : Other (required payload key) := by
  obtain ⟨-, verifier, nonce, deviceKey, platform, hv, hn, hd, hp, hok⟩ := h.flows fp now flow hflow
  rw [hopen] at hok
  rw [Except.ok.inj hok]
  simp only [List.mem_cons, List.not_mem_nil, or_false] at hkey
  rcases hkey with rfl | rfl | rfl | rfl
  · exact other_required rfl hv
  · exact other_required rfl hn
  · exact other_required rfl hd
  · exact other_required rfl hp

lemma identity_error {claims : Dict} {m : String}
    (h : identity settings crypto claims = .error (.authenticationError m)) :
    ((Json.get? claims "sub").bind Json.str? = none ∨ (Json.get? claims "email").bind Json.str? = none) ∧
      m = "ID token is missing subject or email" := by
  unfold identity at h
  split at h
  · cases h
  · next hnone =>
    refine ⟨?_, (PyError.authenticationError.inj (Except.error.inj h)).symm⟩
    by_contra hsome
    obtain ⟨subject, hsubject⟩ := Option.ne_none_iff_exists'.mp (not_or.mp hsome).1
    obtain ⟨email, hemail⟩ := Option.ne_none_iff_exists'.mp (not_or.mp hsome).2
    exact hnone subject email hsubject hemail

lemma excused_completeLogin (state code : String) : Excused settings crypto
    (fun t => Refusal settings crypto t (.completeLogin state code)) t
    (completeLogin settings crypto state code) (fun _ _ => True) := by
  refine excused_require_bind (fun _ h => .incomplete ?_) fun _ => excused_ask_bind fun now =>
    excused_ask_bind fun found => ?_
  · rw [not_and_or, not_not, not_not] at h
    exact h
  cases found with
  | none => exact excused_raise fun _ => .flow (did_head _ _ _)
  | some flow =>
    have hflow : Did (⟨.consumeFlow (fingerprint settings crypto state) now, .ok (some flow)⟩ :: ⟨.now, .ok now⟩ :: t)
        (.consumeFlow (fingerprint settings crypto state) now) (some flow) := did_head _ _ _
    refine excused_require_bind (fun ht h => absurd (ht.flows _ _ _ hflow).1 h) fun _ => ?_
    refine excused_ofExcept_bind (fun ht m h => ?_) fun payload hopen => ?_
    · obtain ⟨-, _, _, _, _, -, -, -, -, hok⟩ := ht.flows _ _ _ hflow
      rw [hok] at h
      cases h
    refine excused_ofExcept_bind (fun ht m h => absurd h (ht.other_flow hflow hopen (by simp) m)) fun verifier _ => ?_
    refine excused_ofExcept_bind (fun ht m h => absurd h (ht.other_flow hflow hopen (by simp) m)) fun nonce _ => ?_
    refine excused_bind (excused_exchange code verifier nonce) fun new claims hclaims => ?_
    refine excused_ofExcept_bind (fun ht m h => ?_) fun identity _ => excused_ask_bind fun userId => ?_
    · obtain ⟨hnone, rfl⟩ := identity_error h
      exact .claims (hclaims ht) hnone
    have hflow := (hflow.append new).cons ⟨.provisionIdentity identity, .ok userId⟩
    refine excused_ofExcept_bind (fun ht m h => absurd h (ht.other_flow hflow hopen (by simp) m)) fun deviceKey _ => ?_
    refine excused_ofExcept_bind (fun ht m h => absurd h (ht.other_flow hflow hopen (by simp) m)) fun platform _ => ?_
    refine excused_ask_bind fun deviceId => excused_ask_bind fun token => excused_ask_bind fun sessionId =>
      excused_ask_bind fun resolved => ?_
    cases resolved with
    | none => exact excused_raise fun _ => .permitted ((did_head _ _ _).cons _) (did_head _ _ _)
    | some principal =>
      exact excused_ask_bind fun grantCode => excused_seal_bind fun _ payload => excused_ask_bind fun _ =>
        excused_pure fun _ => trivial

lemma Intact.granted (h : Intact settings crypto t) {fp encrypted : String} {now : Timestamp} {payload : Dict}
    (hgrant : Did t (.consumeLoginGrant fp now) (some encrypted))
    (hopen : opened settings crypto encrypted grantPurpose = .ok payload) :
    ∃ token : String, token ≠ "" ∧ payload = Json.ofStrings [("session_token", token)] := by
  obtain ⟨token, hne, hok⟩ := h.grants fp now encrypted hgrant
  rw [hopen] at hok
  exact ⟨token, hne, Except.ok.inj hok⟩

lemma excused_exchangeLoginGrant (code : String) : Excused settings crypto
    (fun t => Refusal settings crypto t (.exchangeLoginGrant code)) t
    (exchangeLoginGrant settings crypto code) (fun _ _ => True) := by
  refine excused_require_bind (fun _ h => ?_) fun _ => excused_ask_bind fun now => excused_ask_bind fun found => ?_
  · rw [not_not.mp h]
    exact .grantCode
  cases found with
  | none => exact excused_raise fun _ => .grant (did_head _ _ _)
  | some encrypted =>
    have hgrant : Did (⟨.consumeLoginGrant (fingerprint settings crypto code) now, .ok (some encrypted)⟩ ::
        ⟨.now, .ok now⟩ :: t) (.consumeLoginGrant (fingerprint settings crypto code) now) (some encrypted) :=
      did_head _ _ _
    refine excused_ofExcept_bind (fun ht m h => ?_) fun payload hopen => ?_
    · obtain ⟨token, -, hok⟩ := ht.grants _ _ _ hgrant
      rw [hok] at h
      cases h
    refine excused_ofExcept_bind (fun ht m h => ?_) fun token htoken => ?_
    · obtain ⟨token, hne, rfl⟩ := ht.granted hgrant hopen
      exact absurd h (other_required rfl hne m)
    refine excused_bind (excused_authenticate (fun ht h => ?_) fun new now' hnone ht => ?_)
      fun _ _ _ => excused_pure fun _ => trivial
    · obtain ⟨token', hne, rfl⟩ := ht.granted hgrant hopen
      exact absurd ((Option.some.inj (required_ofStrings_eq_ok htoken)).trans h) hne
    · obtain ⟨token', hne, rfl⟩ := ht.granted (hgrant.append new) hopen
      obtain rfl := Option.some.inj (required_ofStrings_eq_ok htoken)
      exact .granted (hgrant.append new) hopen hnone

lemma excused_issueWsTicket {token channel : String} (principal : Principal) : Excused settings crypto
    (fun t => Refusal settings crypto t (.authenticated token (.issueWsTicket channel))) t
    (issueWsTicket settings crypto principal channel) (fun _ _ => True) := by
  refine excused_require_bind (fun _ h => .ticketChannel h) fun _ => ?_
  refine excused_bind (K := fun _ _ => True) ?_ fun _ _ _ => excused_ask_bind fun ticket =>
    excused_ask_bind fun now => excused_ask_bind fun _ => excused_pure fun _ => trivial
  split
  · refine excused_require fun _ _ m h => ?_
    cases h
  · exact excused_pure fun _ => trivial

/-- What an operation raises after its token was authenticated. -/
lemma excused_operation {token : String} (principal : Principal) (operation : Operation) : Excused settings crypto
    (fun t => Refusal settings crypto t (.authenticated token operation)) t
    (operation.serve settings crypto principal) (fun _ _ => True) := by
  cases operation with
  | session => exact excused_pure fun _ => trivial
  | logout =>
    exact excused_bind (K := fun _ _ => True) (excused_ask_bind fun now => excused_ask) fun _ _ _ =>
      excused_pure fun _ => trivial
  | devices => exact excused_bind (K := fun _ _ => True) excused_ask fun _ _ _ => excused_pure fun _ => trivial
  | revokeDevice deviceId =>
    refine excused_bind (K := fun _ _ => True) (excused_ask_bind fun now => excused_ask_bind fun (revoked : Bool) => ?_)
      fun _ _ _ => excused_pure fun _ => trivial
    refine excused_require fun _ hrevoked m h => ?_
    obtain rfl := PyError.authenticationError.inj h
    obtain rfl := Bool.eq_false_of_not_eq_true hrevoked
    exact .device (did_head _ _ _)
  | issueWsTicket channel =>
    exact excused_bind (excused_issueWsTicket principal) fun _ _ _ => excused_pure fun _ => trivial

/-- Every `AuthenticationError` of a request has a listed cause, on what a run promises. -/
lemma excused_serve (q : Request) : Excused settings crypto (fun t => Refusal settings crypto t q) []
    (q.serve settings crypto) (fun _ _ => True) := by
  cases q with
  | startLogin deviceKey platform =>
    exact excused_bind (excused_startLogin deviceKey platform) fun _ _ _ => excused_pure fun _ => trivial
  | completeLogin state code =>
    exact excused_bind (excused_completeLogin state code) fun _ _ _ => excused_pure fun _ => trivial
  | exchangeLoginGrant code =>
    exact excused_bind (excused_exchangeLoginGrant code) fun _ _ _ => excused_pure fun _ => trivial
  | authenticated token operation =>
    refine excused_bind (excused_authenticate (fun _ h => ?_) fun new now h _ => .session h) fun new principal _ =>
      excused_operation principal operation
    rw [h]
    exact .token
  | websocket ticket channel =>
    refine excused_bind (K := fun _ _ => True) (excused_require_bind (fun _ h => .channel h) fun _ =>
      excused_ask_bind fun now => excused_ask_bind fun found => ?_) fun _ _ _ => excused_pure fun _ => trivial
    cases found with
    | none => exact excused_raise fun _ => .ticket (did_head _ _ _)
    | some sessionId => exact excused_pure fun _ => trivial

lemma other_mapError {r : Except TransportError α} : Other (r.mapError TransportError.raised) := by
  cases r with
  | ok a => exact other_ok a
  | error e => exact other_error fun m h => by cases e <;> cases h

lemma other_elim {r : Option α} : Other (r.elim (.error .pyJwtError) .ok : Except PyError α) := by
  cases r with
  | none => exact other_error (by simp)
  | some a => exact other_ok a

lemma OnlyDatabase.other {r : Except PyError α} (h : OnlyDatabase r) : Other r := by
  intro m hm
  cases h _ hm

/-- No call answers with an `AuthenticationError`. -/
lemma other_answer (ω : Env) (w : World) (call : Call) : Other (answer ω w call).1 := by
  cases call with
  | putFlow | putLoginGrant | provisionIdentity | registerDevice | createSession =>
    exact (answer_accepts rfl ω w).2.other
  | revokeSession sessionId now =>
    refine (OnlyDatabase.transact ?_ w).other
    unfold PostgresAuthRepository.revokeSession
    dsimp only
    split
    · exact onlyDatabase_pure _
    · refine OnlyDatabase.bind ?_ fun _ => onlyDatabase_pure _
      exact (onlyDatabase_references _ _).bind fun _ => (onlyDatabase_references _ _).bind fun _ =>
        (onlyDatabase_insertRow _ _).bind fun _ => onlyDatabase_pure _
  | putWsTicket fp sessionId channel expiresAt =>
    refine (OnlyDatabase.transact ?_ w).other
    unfold PostgresAuthRepository.putWsTicket
    split
    · exact onlyDatabase_error rfl
    · exact (onlyDatabase_references _ _).bind fun _ => (onlyDatabase_insertRow _ _).bind fun _ =>
        onlyDatabase_pure _
  | httpGet | httpPost => exact other_mapError
  | getUnverifiedHeader | jwtDecode => exact other_elim
  | _ => exact other_ok _

/-- `start_login` stores a flow only for an acceptable device. -/
lemma startLogin_accepts (q : Request) : Meets (fun _ call => ∀ fp payload uri expiresAt deviceKey platform,
      call = .putFlow fp payload uri expiresAt → q = .startLogin deviceKey platform →
        8 ≤ deviceKey.length ∧ platform ∈ platforms)
    (fun _ _ => True) [] (q.serve settings crypto) := by
  have hother : (∀ deviceKey platform, q ≠ .startLogin deviceKey platform) → Meets (fun _ call =>
      ∀ fp payload uri expiresAt deviceKey platform, call = .putFlow fp payload uri expiresAt →
        q = .startLogin deviceKey platform → 8 ≤ deviceKey.length ∧ platform ∈ platforms)
      (fun _ _ => True) [] (q.serve settings crypto) := fun hq =>
    meets_trivial (fun _ _ _ _ _ _ deviceKey platform _ h => absurd h (hq deviceKey platform)) (fun _ _ => trivial) _
  cases q with
  | startLogin deviceKey platform =>
    refine meets_bind ?_
    refine meets_require_bind.mpr ⟨fun hkey => ?_, fun _ => trivial⟩
    refine meets_require_bind.mpr ⟨fun hplatform => ?_, fun _ => trivial⟩
    refine meets_trivial (fun _ _ _ _ _ _ _ _ _ h => ?_) (fun _ r => ?_) _
    · obtain ⟨rfl, rfl⟩ := Request.startLogin.inj h
      exact ⟨hkey.1, hplatform⟩
    · cases r with
      | ok url => trivial
      | error e => trivial
  | _ => exact hother (by simp)

/-- The threads of a run receive what a run promises. -/
lemma intact (h : Ideal crypto) {c : State} (hc : Run settings crypto c) (i : ℕ) :
    Intact settings crypto (own i c.history) where
  answers d hd m := by
    obtain ⟨e, he, -, rfl⟩ := mem_own.mp hd
    obtain ⟨h₁, h₀, -, ⟨P⟩⟩ := hc.performed_mem he
    have := other_answer e.env e.before e.done.call m
    rwa [performed_answer P rfl] at this
  flows fp now flow hflow := by
    obtain ⟨expiresAt, h₁, e, h₀, -, hsplit, hd⟩ := consumed_flow_origin hc hflow
    obtain ⟨P⟩ := hc.performed hsplit
    have hspec := performed_spec P
    have haccepts := P.meets startLogin_accepts
    rw [hd] at hspec haccepts
    obtain ⟨-, F, hq, hF, -, hpayload, huri, -⟩ := hspec
    obtain ⟨hkey, hplatform⟩ := haccepts _ _ _ _ _ _ rfl hq
    have hF := hF.later hsplit
    refine ⟨huri, F.verifier, F.nonce, F.deviceKey, F.platform, drawn_ne_empty hc (by omega) hF.verifier,
      drawn_ne_empty hc (by omega) hF.nonce, ?_, ?_, ?_⟩
    · rintro hempty
      rw [hempty, String.length_empty] at hkey
      omega
    · rintro hempty
      rw [hempty] at hplatform
      exact absurd hplatform (by decide)
    · rw [hpayload]
      exact opened_sealed h (urandom_length hc hF.sealing) (by simp [flowPayload]) flowPurpose
  grants fp now encrypted hgrant := by
    obtain ⟨expiresAt, h₁, e, h₀, -, hsplit, hd⟩ := consumed_grant_origin hc hgrant
    obtain ⟨P⟩ := hc.performed hsplit
    have hspec := performed_spec P
    rw [hd] at hspec
    obtain ⟨-, L, code, sealing, -, hL, -, hsealing, -, hencrypted, -⟩ := hspec
    refine ⟨L.token, drawn_ne_empty hc (by omega) (hL.token.later hsplit), ?_⟩
    rw [hencrypted]
    exact opened_sealed h (urandom_length hc (hsealing.later hsplit)) (by simp) grantPurpose

/-- Every `AuthenticationError` of a run has one of the listed causes. -/
theorem refusal_of_run (h : Ideal crypto) {c : State} (hc : Run settings crypto c) {i : ℕ} {q : Request}
    {m : String} (hi : c.threads i = some ⟨q, .ret (.error (.authenticationError m))⟩) :
    Refusal settings crypto (own i c.history) q m :=
  (hc.meets excused_serve hi (intact h hc i)).1 m rfl

end

namespace Sample

/-- The token is sent again after its device was revoked. -/
def revokedToken : State := deviceRevoked.serve machine 3 (.authenticated (token 5) .session)
  [clockAt 3000000, unused]

lemma run_revokedToken : Sampled revokedToken := run_deviceRevoked.serve 3 _ _

end Sample

open Sample in
/-- A session of a revoked device is refused because it did not resolve. -/
theorem refusal_of_run_revokedToken : Refusal Sample.settings tables.primitives (own 3 revokedToken.history)
    (.authenticated (token 5) .session) "session is invalid or expired" := by
  have hdone : revokedToken.result 3 = some (.error (.authenticationError "session is invalid or expired")) ∧
      (revokedToken.threads 3).map Thread.request = some (.authenticated (token 5) .session) := by
    decide +kernel
  exact refusal_of_run ideal run_revokedToken (Config.threads_of_result hdone.1 hdone.2)

end Pentagon5.Auth
