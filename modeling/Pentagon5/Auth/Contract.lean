import Pentagon5.Auth.System

/-!
# What requests ask for and return

`CallSpec q t call` states, for a call that request `q` makes after the calls `t`, where its
arguments come from; `Finish q t r` states where the parts of a result come from. Both speak of
answers that the same request received before, so they hold however requests interleave.
-/

namespace Pentagon5.Auth

open Python Interleaving Interleaving.Prog AuthenticationService

/-- The calls of one thread with their answers, latest first. -/
abbrev Trace := List (Done Answer PyError)

/-- The thread made the call and received the answer. -/
def Did (t : Trace) (call : Call) (a : Answer call) : Prop := ⟨call, .ok a⟩ ∈ t

lemma Did.cons {t : Trace} {call : Call} {a : Answer call} (h : Did t call a)
    (d : Done Answer PyError) : Did (d :: t) call a := List.mem_cons_of_mem _ h

lemma Did.append {t : Trace} {call : Call} {a : Answer call} (h : Did t call a) (new : Trace) :
    Did (new ++ t) call a := List.mem_append_right _ h

lemma did_head (t : Trace) (call : Call) (a : Answer call) : Did (⟨call, .ok a⟩ :: t) call a :=
  List.mem_cons_self

/-- The calls that store a one-time item. -/
def Call.puts : Call → Bool
  | .putFlow .. | .putLoginGrant .. | .putWsTicket .. => true
  | _ => false

def NoPut (t : Trace) : Prop := ∀ d ∈ t, d.call.puts = false

@[simp] lemma noPut_nil : NoPut [] := by simp [NoPut]

@[simp] lemma noPut_cons {d : Done Answer PyError} {t : Trace} :
    NoPut (d :: t) ↔ d.call.puts = false ∧ NoPut t := by simp [NoPut]

/-- The calls whose arguments no result depends on. -/
def Call.free : Call → Bool
  | .now | .randomToken _ | .urandom _ | .cachedMetadata | .cacheMetadata _ | .httpGet _
  | .httpPost .. | .getUnverifiedHeader _ | .jwtDecode .. => true
  | _ => false

lemma Call.not_puts_of_free {call : Call} (h : call.free = true) : call.puts = false := by
  cases call <;> first | rfl | exact Bool.noConfusion h

variable (settings : AuthSettings) (crypto : Primitives)

/-- What `start_login` draws for a login. -/
structure Start where
  deviceKey : String
  platform : String
  state : String
  nonce : String
  verifier : String
  sealing : List UInt8
  now : Timestamp

namespace Start

variable (F : Start)

/-- The encrypted payload of the flow. -/
def payload : String := sealed settings crypto F.sealing
  (flowPayload F.verifier F.nonce F.deviceKey F.platform) flowPurpose

structure Drawn (t : Trace) : Prop where
  state : Did t (.randomToken 32) F.state
  nonce : Did t (.randomToken 32) F.nonce
  verifier : Did t (.randomToken 48) F.verifier
  sealing : Did t (.urandom 12) F.sealing
  now : Did t .now F.now

end Start

/-- The values that `complete_login` works with. -/
structure Login where
  state : String
  code : String
  now : Timestamp
  flow : Flow
  payload : Dict
  verifier : String
  nonce : String
  claims : Dict
  identity : Identity
  userId : Uuid
  deviceKey : String
  platform : String
  deviceId : Uuid
  token : String
  sessionId : Uuid

/-- The provider exchange of one verifier and one nonce that ended with `claims`. -/
structure Exchanged (t : Trace) (code verifier nonce : String) (claims : Dict) : Prop where
  posted : ∃ url response, Did t (.httpPost url
    [("grant_type", "authorization_code"), ("code", code),
      ("redirect_uri", settings.redirectUri), ("client_id", settings.clientId),
      ("client_secret", settings.clientSecret), ("code_verifier", verifier)]) response
  decoded : ∃ idToken jwk algorithm, Did t (.jwtDecode idToken jwk algorithm) claims
  validated : OIDCClient.validatedClaims nonce claims = .ok claims

namespace Login

variable (L : Login)

structure Consumed (t : Trace) : Prop where
  now : Did t .now L.now
  flow : Did t (.consumeFlow (fingerprint settings crypto L.state) L.now) (some L.flow)
  opened : opened settings crypto L.flow.encryptedPayload flowPurpose = .ok L.payload
  verifier : required L.payload "verifier" = .ok L.verifier
  nonce : required L.payload "nonce" = .ok L.nonce

structure Claimed (t : Trace) : Prop extends L.Consumed settings crypto t where
  exchanged : Exchanged settings t L.code L.verifier L.nonce L.claims
  identity : AuthenticationService.identity settings crypto L.claims = .ok L.identity

structure Provisioned (t : Trace) : Prop extends L.Claimed settings crypto t where
  user : Did t (.provisionIdentity L.identity) L.userId
  deviceKey : required L.payload "device_key" = .ok L.deviceKey
  platform : required L.payload "platform" = .ok L.platform

structure Registered (t : Trace) : Prop extends L.Provisioned settings crypto t where
  device : Did t (.registerDevice L.userId (fingerprint settings crypto L.deviceKey) L.platform L.now)
    L.deviceId
  token : Did t (.randomToken 32) L.token

/-- The session of the login was created and resolves. -/
structure Created (t : Trace) : Prop extends L.Registered settings crypto t where
  session : Did t (.createSession L.userId L.deviceId (fingerprint settings crypto L.token)
    (L.now + seconds settings.sessionTtlSeconds)) L.sessionId

variable {settings crypto L} {t : Trace}

lemma Claimed.cons (h : L.Claimed settings crypto t) (d : Done Answer PyError) :
    L.Claimed settings crypto (d :: t) where
  now := h.now.cons d
  flow := h.flow.cons d
  opened := h.opened
  verifier := h.verifier
  nonce := h.nonce
  exchanged :=
    { posted := h.exchanged.posted.imp fun _ h => h.imp fun _ h => h.cons d
      decoded := h.exchanged.decoded.imp fun _ h => h.imp fun _ h => h.imp fun _ h => h.cons d
      validated := h.exchanged.validated }
  identity := h.identity

lemma Claimed.provision (h : L.Claimed settings crypto t)
    (hkey : required L.payload "device_key" = .ok L.deviceKey)
    (hplatform : required L.payload "platform" = .ok L.platform) :
    L.Provisioned settings crypto (⟨.provisionIdentity L.identity, .ok L.userId⟩ :: t) :=
  ⟨h.cons _, did_head _ _ _, hkey, hplatform⟩

lemma Provisioned.cons (h : L.Provisioned settings crypto t) (d : Done Answer PyError) :
    L.Provisioned settings crypto (d :: t) :=
  ⟨h.toClaimed.cons d, h.user.cons d, h.deviceKey, h.platform⟩

lemma Provisioned.register (h : L.Provisioned settings crypto t) :
    L.Registered settings crypto (⟨.randomToken 32, .ok L.token⟩ ::
      ⟨.registerDevice L.userId (fingerprint settings crypto L.deviceKey) L.platform L.now,
        .ok L.deviceId⟩ :: t) :=
  ⟨(h.cons _).cons _, (did_head _ _ _).cons _, did_head _ _ _⟩

lemma Registered.cons (h : L.Registered settings crypto t) (d : Done Answer PyError) :
    L.Registered settings crypto (d :: t) :=
  ⟨h.toProvisioned.cons d, h.device.cons d, h.token.cons d⟩

lemma Registered.create (h : L.Registered settings crypto t) :
    L.Created settings crypto (⟨.createSession L.userId L.deviceId (fingerprint settings crypto L.token)
      (L.now + seconds settings.sessionTtlSeconds), .ok L.sessionId⟩ :: t) :=
  ⟨h.cons _, did_head _ _ _⟩

lemma Created.cons (h : L.Created settings crypto t) (d : Done Answer PyError) :
    L.Created settings crypto (d :: t) :=
  ⟨h.toRegistered.cons d, h.session.cons d⟩

end Login

/-- The thread resolved `token` to `principal`. -/
def Resolved (t : Trace) (token : String) (principal : Principal) : Prop :=
  ∃ now, Did t .now now ∧
    Did t (.resolveSession (fingerprint settings crypto token) now) (some principal)

variable {settings crypto} in
lemma Resolved.cons {t : Trace} {token : String} {principal : Principal}
    (h : Resolved settings crypto t token principal) (d : Done Answer PyError) :
    Resolved settings crypto (d :: t) token principal :=
  h.imp fun _ h => ⟨h.1.cons d, h.2.cons d⟩

def CallSpec (q : Request) (t : Trace) : Call → Prop
  | .putFlow fp payload uri expiresAt => NoPut t ∧ ∃ F : Start,
      q = .startLogin F.deviceKey F.platform ∧ F.Drawn t ∧
      fp = fingerprint settings crypto F.state ∧ payload = F.payload settings crypto ∧
      uri = settings.redirectUri ∧ expiresAt = F.now + seconds settings.flowTtlSeconds
  | .consumeFlow fp now => ∃ state code, q = .completeLogin state code ∧
      fp = fingerprint settings crypto state ∧ Did t .now now
  | .provisionIdentity identity => ∃ L : Login, q = .completeLogin L.state L.code ∧
      L.Claimed settings crypto t ∧ identity = L.identity
  | .registerDevice userId fp platform now => ∃ L : Login, q = .completeLogin L.state L.code ∧
      L.Provisioned settings crypto t ∧ userId = L.userId ∧
      fp = fingerprint settings crypto L.deviceKey ∧ platform = L.platform ∧ now = L.now
  | .createSession userId deviceId fp expiresAt => ∃ L : Login,
      q = .completeLogin L.state L.code ∧ L.Registered settings crypto t ∧ userId = L.userId ∧
      deviceId = L.deviceId ∧ fp = fingerprint settings crypto L.token ∧
      expiresAt = L.now + seconds settings.sessionTtlSeconds
  | .putLoginGrant fp payload expiresAt => NoPut t ∧ ∃ (L : Login) (code : String) (sealing : List UInt8),
      q = .completeLogin L.state L.code ∧ L.Created settings crypto t ∧
      Did t (.randomToken 32) code ∧ Did t (.urandom 12) sealing ∧
      fp = fingerprint settings crypto code ∧
      payload = sealed settings crypto sealing [("session_token", L.token)] grantPurpose ∧
      expiresAt = L.now + seconds settings.loginGrantTtlSeconds
  | .consumeLoginGrant fp now => ∃ code, q = .exchangeLoginGrant code ∧
      fp = fingerprint settings crypto code ∧ Did t .now now
  | .resolveSession _ _ => True
  | .revokeSession sessionId now => ∃ token principal, q = .authenticated token .logout ∧
      Resolved settings crypto t token principal ∧ sessionId = principal.sessionId ∧ Did t .now now
  | .listDevices userId => ∃ token principal, q = .authenticated token .devices ∧
      Resolved settings crypto t token principal ∧ userId = principal.userId
  | .revokeDevice userId deviceId now => ∃ token principal,
      q = .authenticated token (.revokeDevice deviceId) ∧
      Resolved settings crypto t token principal ∧ userId = principal.userId ∧ Did t .now now
  | .putWsTicket fp sessionId channel expiresAt => NoPut t ∧
      ∃ (token : String) (principal : Principal) (ticket : String) (now : Timestamp),
      q = .authenticated token (.issueWsTicket channel) ∧
      Resolved settings crypto t token principal ∧ channel ∈ wsChannels ∧
      (channel = "system.health" → "system.health.read" ∈ principal.permissions) ∧
      Did t (.randomToken 32) ticket ∧ Did t .now now ∧
      fp = fingerprint settings crypto ticket ∧ sessionId = principal.sessionId ∧
      expiresAt = now + seconds settings.wsTicketTtlSeconds
  | .consumeWsTicket fp channel now => ∃ ticket, q = .websocket ticket channel ∧
      channel ∈ wsChannels ∧ fp = fingerprint settings crypto ticket ∧ Did t .now now
  | _ => True

def Finish (q : Request) (t : Trace) : Except PyError Reply → Prop
  | .ok (.authorizationUrl _) => ∃ deviceKey platform, q = .startLogin deviceKey platform
  | .ok (.redirect login) => ∃ L : Login, q = .completeLogin L.state L.code ∧
      L.Created settings crypto t ∧ Did t (.randomToken 32) login.code ∧
      ∃ payload expiresAt, Did t
        (.putLoginGrant (fingerprint settings crypto login.code) payload expiresAt) ()
  | .ok (.grant grant) => ∃ code now encrypted payload now', q = .exchangeLoginGrant code ∧
      Did t (.consumeLoginGrant (fingerprint settings crypto code) now) (some encrypted) ∧
      opened settings crypto encrypted grantPurpose = .ok payload ∧
      required payload "session_token" = .ok grant.token ∧
      Did t (.resolveSession (fingerprint settings crypto grant.token) now') (some grant.principal)
  | .ok (.session principal) => ∃ token, q = .authenticated token .session ∧
      Resolved settings crypto t token principal
  | .ok (.devices devices) => ∃ token principal, q = .authenticated token .devices ∧
      Resolved settings crypto t token principal ∧ Did t (.listDevices principal.userId) devices
  | .ok .noContent => ∃ token principal, Resolved settings crypto t token principal ∧
      ((q = .authenticated token .logout ∧
          ∃ now, Did t (.revokeSession principal.sessionId now) ()) ∨
        ∃ deviceId now, q = .authenticated token (.revokeDevice deviceId) ∧
          Did t (.revokeDevice principal.userId deviceId now) true)
  | .ok (.ticket ticket) => ∃ token channel principal expiresAt,
      q = .authenticated token (.issueWsTicket channel) ∧ Resolved settings crypto t token principal ∧
      Did t (.putWsTicket (fingerprint settings crypto ticket) principal.sessionId channel expiresAt) ()
  | .ok (.accepted sessionId) => ∃ ticket channel now, q = .websocket ticket channel ∧
      channel ∈ wsChannels ∧ Did t .now now ∧
      Did t (.consumeWsTicket (fingerprint settings crypto ticket) channel now) (some sessionId)
  | .error _ => True

/-- Every call of `p` after the calls `t` is as specified for `q`, and a result of `p` satisfies
`post`. -/
def Spec {α : Type} (q : Request) (t : Trace) (p : Async α) (post : Trace → α → Prop) : Prop :=
  Meets (CallSpec settings crypto q) (fun t r => ∀ a, r = .ok a → post t a) t p

variable {settings crypto} {α β : Type} {q : Request} {t : Trace} {post : Trace → β → Prop}

lemma callSpec_free {call : Call} (h : call.free = true) : CallSpec settings crypto q t call := by
  cases call <;> trivial

lemma spec_pure {b : β} (h : post t b) : Spec settings crypto q t (pure b) post := by
  rintro a ⟨⟩
  exact h

lemma spec_raise {e : PyError} : Spec settings crypto q t (raise e) post := by
  rintro a ⟨⟩

lemma spec_ask {call : Call} {post : Trace → Answer call → Prop}
    (hc : CallSpec settings crypto q t call) (h : ∀ a, post (⟨call, .ok a⟩ :: t) a) :
    Spec settings crypto q t (ask call) post := by
  refine meets_perform.mpr ⟨hc, ?_⟩
  rintro r a rfl
  exact h a

lemma spec_bind {p : Async α} {f : α → Async β} {K : Trace → α → Prop}
    (hp : Spec settings crypto q t p K)
    (hf : ∀ t a, K t a → Spec settings crypto q t (f a) post) :
    Spec settings crypto q t (p >>= f) post := by
  refine meets_bind (hp.mono (fun _ _ h => h) fun t r h => ?_)
  cases r with
  | ok a => exact hf t a (h a rfl)
  | error e => rintro a ⟨⟩

lemma spec_ask_bind {call : Call} {f : Answer call → Async β}
    (hc : CallSpec settings crypto q t call)
    (hf : ∀ a, Spec settings crypto q (⟨call, .ok a⟩ :: t) (f a) post) :
    Spec settings crypto q t (ask call >>= f) post := by
  refine meets_perform_bind.mpr ⟨hc, hf, ?_⟩
  rintro e a ⟨⟩

lemma spec_require_bind {c : Prop} [Decidable c] {e : PyError} {f : Unit → Async β}
    (hf : c → Spec settings crypto q t (f ()) post) :
    Spec settings crypto q t (require c e >>= f) post := by
  refine meets_require_bind.mpr ⟨hf, ?_⟩
  rintro - a ⟨⟩

lemma spec_ofExcept_bind {r : Except PyError α} {f : α → Async β}
    (hf : ∀ a, r = .ok a → Spec settings crypto q t (f a) post) :
    Spec settings crypto q t (ofExcept r >>= f) post := by
  refine meets_ofExcept_bind.mpr ⟨hf, ?_⟩
  rintro e - a ⟨⟩

lemma spec_seal_bind {payload : List (String × String)} {associatedData : List UInt8}
    {f : String → Async β} (hf : ∀ nonce, Spec settings crypto q (⟨.urandom 12, .ok nonce⟩ :: t)
      (f (sealed settings crypto nonce payload associatedData)) post) :
    Spec settings crypto q t (sealPayload settings crypto payload associatedData >>= f) post := by
  refine spec_bind (K := fun t' value => ∃ nonce, t' = ⟨.urandom 12, .ok nonce⟩ :: t ∧
    value = sealed settings crypto nonce payload associatedData)
    (spec_ask_bind trivial fun nonce => spec_pure ⟨nonce, rfl, rfl⟩) ?_
  rintro t _ ⟨nonce, rfl, rfl⟩
  exact hf nonce

/-- A method all of whose calls are free only adds free calls. -/
lemma spec_free_bind {p : Async α} {f : α → Async β} {K : Trace → α → Prop}
    (hp : Meets (fun _ call => call.free = true) (fun t r => ∀ a, r = .ok a → K t a) t p)
    (hf : ∀ new a, (∀ d ∈ new, d.call.free = true) → K (new ++ t) a →
      Spec settings crypto q (new ++ t) (f a) post) :
    Spec settings crypto q t (p >>= f) post := by
  refine meets_bind ((hp.since fun _ _ h => h).mono (fun _ _ h => callSpec_free h) ?_)
  rintro t' r ⟨hmid, new, rfl, hnew⟩
  cases r with
  | ok a => exact hf new a hnew (hmid a rfl)
  | error e => rintro a ⟨⟩

lemma metadata_free : Meets (fun _ call => call.free = true) (fun _ _ => True) t
    (OIDCClient.metadata settings) := by
  refine meets_perform_bind.mpr ⟨rfl, fun cached => ?_, fun _ => trivial⟩
  cases cached with
  | some metadata => trivial
  | none =>
    refine meets_perform_bind.mpr ⟨rfl, fun response => ?_, fun _ => trivial⟩
    refine meets_ofExcept_bind.mpr ⟨fun _ _ => ?_, fun _ _ => trivial⟩
    refine meets_ofExcept_bind.mpr ⟨fun _ _ => ?_, fun _ _ => trivial⟩
    refine meets_ofExcept_bind.mpr ⟨fun _ _ => ?_, fun _ _ => trivial⟩
    exact meets_perform_bind.mpr ⟨rfl, fun _ => trivial, fun _ => trivial⟩

lemma authorizationUrl_free (state nonce challenge : String) :
    Meets (fun _ call => call.free = true) (fun _ _ => True) t
      (OIDCClient.authorizationUrl settings state nonce challenge) :=
  meets_bind (metadata_free.mono (fun _ _ h => h) fun _ r _ => by cases r <;> trivial)

/-- A successful exchange posted the verifier and validated the claims against the nonce. -/
lemma exchange_free (code verifier nonce : String) :
    Meets (fun _ call => call.free = true)
      (fun t r => ∀ claims, r = .ok claims → Exchanged settings t code verifier nonce claims) t
      (OIDCClient.exchange settings code verifier nonce) := by
  refine meets_bind (metadata_free.mono (fun _ _ h => h) fun t r _ => ?_)
  cases r with
  | error e => rintro a ⟨⟩
  | ok metadata =>
    refine meets_perform_bind.mpr ⟨rfl, fun response => ?_, fun e a h => by cases h⟩
    refine meets_ofExcept_bind.mpr ⟨fun _ _ => ?_, fun e _ a h => by cases h⟩
    refine meets_ofExcept_bind.mpr ⟨fun idToken _ => ?_, fun e _ a h => by cases h⟩
    refine meets_perform_bind.mpr ⟨rfl, fun jwks => ?_, fun e a h => by cases h⟩
    refine meets_ofExcept_bind.mpr ⟨fun _ _ => ?_, fun e _ a h => by cases h⟩
    refine meets_perform_bind.mpr ⟨rfl, fun header => ?_, fun e a h => by cases h⟩
    refine meets_ofExcept_bind.mpr ⟨fun algorithm _ => ?_, fun e _ a h => by cases h⟩
    refine meets_ofExcept_bind.mpr ⟨fun jwk _ => ?_, fun e _ a h => by cases h⟩
    refine meets_perform_bind.mpr ⟨rfl, fun claims => ?_, fun e a h => by cases h⟩
    intro claims' hvalid
    obtain ⟨rfl, -, -⟩ := OIDCClient.validatedClaims_ok hvalid
    refine ⟨⟨_, response, ?_⟩, ⟨idToken, jwk, algorithm, did_head _ _ _⟩, hvalid⟩
    simp [Did]

lemma noPut_free {new : Trace} (h : ∀ d ∈ new, d.call.free = true) : NoPut new :=
  fun d hd => Call.not_puts_of_free (h d hd)

lemma NoPut.append {new : Trace} (hnew : NoPut new) (ht : NoPut t) : NoPut (new ++ t) := by
  intro d hd
  rcases List.mem_append.mp hd with hd | hd
  · exact hnew d hd
  · exact ht d hd

lemma startLogin_spec (deviceKey platform : String) :
    Spec settings crypto (.startLogin deviceKey platform) []
      (startLogin settings crypto deviceKey platform) (fun _ _ => True) := by
  refine spec_require_bind fun _ => spec_require_bind fun _ => ?_
  refine spec_ask_bind trivial fun state => spec_ask_bind trivial fun nonce =>
    spec_ask_bind trivial fun verifier => ?_
  refine spec_seal_bind fun sealing => ?_
  refine spec_ask_bind trivial fun now => ?_
  refine spec_ask_bind ⟨by simp [Call.puts], ⟨deviceKey, platform, state, nonce, verifier, sealing, now⟩,
    rfl, ?_, rfl, rfl, rfl, rfl⟩ fun _ => ?_
  · constructor <;> simp [Did]
  · exact (authorizationUrl_free state nonce _).mono (fun _ _ h => callSpec_free h)
      fun _ _ _ _ _ => trivial

lemma authenticate_spec (token : String) : Spec settings crypto q t (authenticate settings crypto token)
      (fun t' principal => Resolved settings crypto t' token principal ∧ ∃ d₁ d₂, t' = d₁ :: d₂ :: t ∧
        d₁.call.puts = false ∧ d₂.call.puts = false) := by
  refine spec_require_bind fun _ => spec_ask_bind trivial fun now => spec_ask_bind trivial fun found => ?_
  cases found with
  | none => exact spec_raise
  | some principal =>
    exact spec_pure ⟨⟨now, (did_head _ _ _).cons _, did_head _ _ _⟩, _, _, rfl, rfl, rfl⟩

lemma exchangeLoginGrant_spec (code : String) :
    Spec settings crypto (.exchangeLoginGrant code) [] (exchangeLoginGrant settings crypto code)
      (fun t grant => Finish settings crypto (.exchangeLoginGrant code) t (.ok (.grant grant))) := by
  refine spec_require_bind fun _ => spec_ask_bind trivial fun now => ?_
  refine spec_ask_bind ⟨code, rfl, rfl, did_head _ _ _⟩ fun found => ?_
  cases found with
  | none => exact spec_raise
  | some encrypted =>
    refine spec_ofExcept_bind fun payload hopen => spec_ofExcept_bind fun token htoken => ?_
    refine spec_bind (authenticate_spec token) ?_
    rintro t principal ⟨⟨now', -, hres⟩, d₁, d₂, rfl, -⟩
    exact spec_pure ⟨code, now, encrypted, payload, now', rfl, by simp [Did], hopen, htoken, hres⟩

lemma issueWsTicket_spec {token channel : String} {principal : Principal}
    (hp : Resolved settings crypto t token principal) (ht : NoPut t) :
    Spec settings crypto (.authenticated token (.issueWsTicket channel)) t
      (issueWsTicket settings crypto principal channel) (fun t ticket => Finish settings crypto
        (.authenticated token (.issueWsTicket channel)) t (.ok (.ticket ticket))) := by
  refine spec_require_bind fun hchannel => ?_
  refine spec_bind (K := fun t' _ => t' = t ∧
    (channel = "system.health" → "system.health.read" ∈ principal.permissions)) ?_ ?_
  · split
    · unfold requirePermission require
      split
      · next hperm => exact spec_pure ⟨rfl, fun _ => hperm⟩
      · exact spec_raise
    · next hhealth => exact spec_pure ⟨rfl, fun h => absurd h hhealth⟩
  rintro t - ⟨rfl, hperm⟩
  refine spec_ask_bind trivial fun ticket => spec_ask_bind trivial fun now => ?_
  have hp := (hp.cons ⟨.randomToken 32, .ok ticket⟩).cons ⟨.now, .ok now⟩
  exact spec_ask_bind ⟨by simpa [Call.puts] using ht, token, principal, ticket, now, rfl, hp, hchannel,
    hperm, (did_head _ _ _).cons _, did_head _ _ _, rfl, rfl, rfl⟩ fun _ =>
    spec_pure ⟨token, channel, principal, _, rfl, hp.cons _, did_head _ _ _⟩

lemma consumeWsTicket_spec (ticket channel : String) :
    Spec settings crypto (.websocket ticket channel) [] (consumeWsTicket settings crypto ticket channel)
      (fun t sessionId => Finish settings crypto (.websocket ticket channel) t
        (.ok (.accepted sessionId))) := by
  refine spec_require_bind fun hchannel => spec_ask_bind trivial fun now => ?_
  refine spec_ask_bind ⟨ticket, rfl, hchannel, rfl, did_head _ _ _⟩ fun found => ?_
  cases found with
  | none => exact spec_raise
  | some sessionId =>
    exact spec_pure ⟨ticket, channel, now, rfl, hchannel, (did_head _ _ _).cons _, did_head _ _ _⟩

/-- What an operation does with an authenticated principal. -/
lemma operation_spec {token : String} {principal : Principal} (operation : Operation)
    (hp : Resolved settings crypto t token principal) (ht : NoPut t) :
    Spec settings crypto (.authenticated token operation) t
      (operation.serve settings crypto principal)
      (fun t reply => Finish settings crypto (.authenticated token operation) t (.ok reply)) := by
  cases operation with
  | session => exact spec_pure ⟨token, rfl, hp⟩
  | logout =>
    refine spec_bind (K := fun t _ => Finish settings crypto (.authenticated token .logout) t
      (.ok .noContent)) ?_ fun t _ h => spec_pure h
    exact spec_ask_bind trivial fun now => spec_ask ⟨token, principal, rfl, hp.cons _, rfl,
      did_head _ _ _⟩ fun _ => ⟨token, principal, (hp.cons _).cons _, .inl ⟨rfl, now, did_head _ _ _⟩⟩
  | devices =>
    refine spec_bind (K := fun t devices => Finish settings crypto (.authenticated token .devices) t
      (.ok (.devices devices))) ?_ fun t _ h => spec_pure h
    exact spec_ask ⟨token, principal, rfl, hp, rfl⟩ fun devices =>
      ⟨token, principal, rfl, hp.cons _, did_head _ _ _⟩
  | revokeDevice deviceId =>
    refine spec_bind (K := fun t _ => Finish settings crypto
      (.authenticated token (.revokeDevice deviceId)) t (.ok .noContent)) ?_ fun t _ h => spec_pure h
    refine spec_ask_bind trivial fun now => spec_ask_bind ⟨token, principal, rfl, hp.cons _, rfl,
      did_head _ _ _⟩ fun revoked => ?_
    unfold require
    split
    · next hrevoked =>
      obtain rfl : revoked = true := hrevoked
      exact spec_pure ⟨token, principal, (hp.cons _).cons _, .inr ⟨deviceId, now, rfl, did_head _ _ _⟩⟩
    · exact spec_raise
  | issueWsTicket channel =>
    exact spec_bind (issueWsTicket_spec hp ht) fun _ _ h => spec_pure h

lemma completeLogin_spec (state code : String) :
    Spec settings crypto (.completeLogin state code) [] (completeLogin settings crypto state code)
      (fun t login => Finish settings crypto (.completeLogin state code) t
        (.ok (.redirect login))) := by
  refine spec_require_bind fun _ => spec_ask_bind trivial fun now => ?_
  refine spec_ask_bind ⟨state, code, rfl, rfl, did_head _ _ _⟩ fun found => ?_
  cases found with
  | none => exact spec_raise
  | some flow =>
    refine spec_require_bind fun _ => spec_ofExcept_bind fun payload hopen =>
      spec_ofExcept_bind fun verifier hverifier => spec_ofExcept_bind fun nonce hnonce => ?_
    refine spec_free_bind (exchange_free code verifier nonce) fun new claims hnew hexch => ?_
    refine spec_ofExcept_bind fun identity hid => ?_
    have claimed : ∀ userId deviceKey platform deviceId token sessionId, Login.Claimed settings crypto
        ⟨state, code, now, flow, payload, verifier, nonce, claims, identity, userId, deviceKey,
          platform, deviceId, token, sessionId⟩
        (new ++ [⟨.consumeFlow (fingerprint settings crypto state) now, .ok (some flow)⟩,
          ⟨.now, .ok now⟩]) := fun _ _ _ _ _ _ =>
      ⟨⟨by simp [Did], by simp [Did], hopen, hverifier, hnonce⟩, hexch, hid⟩
    refine spec_ask_bind ⟨_, rfl, claimed default "" "" default "" default, rfl⟩ fun userId => ?_
    refine spec_ofExcept_bind fun deviceKey hkey => spec_ofExcept_bind fun platform hplatform => ?_
    have provisioned := fun deviceId token sessionId => (claimed userId deviceKey platform deviceId token
      sessionId).provision hkey hplatform
    refine spec_ask_bind ⟨_, rfl, provisioned default "" default, rfl, rfl, rfl, rfl⟩ fun deviceId => ?_
    refine spec_ask_bind trivial fun token => ?_
    have registered := fun sessionId => (provisioned deviceId token sessionId).register
    refine spec_ask_bind ⟨_, rfl, registered default, rfl, rfl, rfl, rfl⟩ fun sessionId => ?_
    have created := (registered sessionId).create
    refine spec_ask_bind trivial fun resolved => ?_
    cases resolved with
    | none => exact spec_raise
    | some principal =>
      refine spec_ask_bind trivial fun grantCode => ?_
      have hput : NoPut new := noPut_free hnew
      refine spec_seal_bind fun sealing => ?_
      have done := ((created.cons ⟨.resolveSession (fingerprint settings crypto token) now,
        .ok (some principal)⟩).cons ⟨.randomToken 32, .ok grantCode⟩).cons ⟨.urandom 12, .ok sealing⟩
      refine spec_ask_bind ⟨?_, _, grantCode, sealing, rfl, done, (did_head _ _ _).cons _,
        did_head _ _ _, rfl, rfl, rfl⟩ fun _ => ?_
      · simpa [Call.puts] using hput.append (t := [_, _]) (by simp [Call.puts])
      · exact spec_pure ⟨_, rfl, done.cons _, ((did_head _ _ _).cons _).cons _, _, _, did_head _ _ _⟩

/-- Every request makes its calls and finishes as specified. -/
theorem serve_meets (q : Request) : Meets (CallSpec settings crypto q) (Finish settings crypto q) []
    (q.serve settings crypto) := by
  have finish : ∀ {p : Async Reply}, Spec settings crypto q [] p
      (fun t reply => Finish settings crypto q t (.ok reply)) →
      Meets (CallSpec settings crypto q) (Finish settings crypto q) [] p := by
    refine fun h => h.mono (fun _ _ h => h) fun t r hr => ?_
    cases r with
    | ok reply => exact hr reply rfl
    | error e => trivial
  apply finish
  cases q with
  | startLogin deviceKey platform =>
    exact spec_bind (startLogin_spec deviceKey platform) fun _ _ _ =>
      spec_pure ⟨deviceKey, platform, rfl⟩
  | completeLogin state code =>
    exact spec_bind (completeLogin_spec state code) fun _ _ h => spec_pure h
  | exchangeLoginGrant code =>
    exact spec_bind (exchangeLoginGrant_spec code) fun _ _ h => spec_pure h
  | authenticated token operation =>
    refine spec_bind (authenticate_spec token) ?_
    rintro t principal ⟨hp, d₁, d₂, rfl, h₁, h₂⟩
    exact operation_spec operation hp (by simp [h₁, h₂])
  | websocket ticket channel =>
    exact spec_bind (consumeWsTicket_spec ticket channel) fun _ _ h => spec_pure h

end Pentagon5.Auth
