import Pentagon5.Proofs.IssuedCredentials
import Pentagon5.Auth.Deployment
import Pentagon5.Auth.Tokens
import Pentagon5.Auth.TokenText

/-!
# Which credentials are honoured

A credential is honoured exactly if the history of calls says so: it was issued, no later call voided
it, and it has not expired. For a session also its device counts, which is admitted unless it was
revoked and not registered again since, and the present status of its user. So a completed login can
be handed over as long as none of this has happened.
-/

namespace Pentagon5.Auth

open Python Relational Relational.Table Interleaving Interleaving.Prog PostgresAuthRepository
  AuthenticationService

section

variable {settings : AuthSettings} {crypto : Primitives} {c : State} {s : Store}

/-- The credential was issued and has not been voided since. -/
def Outstanding (h : History) (k : Credential) : Prop :=
  Since (fun d => issues d = some k) (fun d => voids d k = true) h

/-- The device was registered and has not been revoked since. -/
def InUse (h : History) (deviceId : Uuid) : Prop :=
  Since (fun d => admits d = some deviceId) (fun d => bans deviceId d = true) h

lemma consumeFlow_eq_some {fp : String} {now : Timestamp} {flow : Flow} :
    (consumeFlow s fp now).1 = some flow ↔
      ∃ expiresAt, Holds s (.flow fp flow.encryptedPayload flow.redirectUri expiresAt) ∧ now < expiresAt := by
  constructor
  · intro h
    have he := consumeFlow_effect s fp now
    rw [h] at he
    obtain ⟨r, hr, rfl, ht, rfl⟩ := he.flow_found
    exact ⟨r.expiresAt, ⟨r, hr, rfl, rfl, rfl, rfl⟩, ht⟩
  · rintro ⟨_, ⟨r, hr, rfl, hpayload, huri, rfl⟩, ht⟩
    have hfind := find_of_mem (t := s.flows)
      (p := fun a => decide (a.stateFingerprint = r.stateFingerprint ∧ now < a.expiresAt)) hr (by simp [ht])
      fun a _ ha => .inr (of_decide_eq_true ha).1
    rw [consumeFlow]
    simp only [hfind, Option.map_some, hpayload, huri]

lemma consumeLoginGrant_eq_some {fp encrypted : String} {now : Timestamp} :
    (consumeLoginGrant s fp now).1 = some encrypted ↔
      ∃ expiresAt, Holds s (.grant fp encrypted expiresAt) ∧ now < expiresAt := by
  constructor
  · intro h
    have he := consumeLoginGrant_effect s fp now
    rw [h] at he
    obtain ⟨r, hr, rfl, ht, rfl⟩ := he.grant_found
    exact ⟨r.expiresAt, ⟨r, hr, rfl, rfl, rfl⟩, ht⟩
  · rintro ⟨_, ⟨r, hr, rfl, hpayload, rfl⟩, ht⟩
    have hfind := find_of_mem (t := s.grants)
      (p := fun a => decide (a.codeFingerprint = r.codeFingerprint ∧ now < a.expiresAt)) hr (by simp [ht])
      fun a _ ha => .inr (of_decide_eq_true ha).1
    rw [consumeLoginGrant]
    simp only [hfind, Option.map_some, hpayload]

lemma live_session (hc : Run settings crypto c) {id : Uuid} {now : Timestamp} :
    (∃ a ∈ c.state.store.sessions, a.id = id ∧ a.Live now) ↔
      ∃ userId deviceId fp expiresAt, Outstanding c.history (.session id userId deviceId fp expiresAt) ∧
        now < expiresAt := by
  constructor
  · rintro ⟨r, hr, rfl, hrev, ht⟩
    obtain ⟨-, -, -, deviceId, -, -, hdevice⟩ := session_origin hc hr
    exact ⟨r.userId, deviceId, r.tokenFingerprint, r.expiresAt,
      (holds_iff_since hc _).mp ⟨r, hr, rfl, rfl, hdevice, rfl, rfl, hrev⟩, ht⟩
  · rintro ⟨userId, deviceId, fp, expiresAt, hsince, ht⟩
    obtain ⟨r, hr, rfl, -, -, -, rfl, hrev⟩ := (holds_iff_since hc _).mpr hsince
    exact ⟨r, hr, rfl, hrev, ht⟩

/-- In every run a call takes a flow, a grant or a ticket exactly if it is outstanding and has not expired;
for a ticket its session must be outstanding and not have expired either. -/
theorem items_honoured_iff (hc : Run settings crypto c) (fp : String) (now : Timestamp) :
    (∀ flow, (consumeFlow c.state.store fp now).1 = some flow ↔ ∃ expiresAt,
      Outstanding c.history (.flow fp flow.encryptedPayload flow.redirectUri expiresAt) ∧ now < expiresAt) ∧
    (∀ encrypted, (consumeLoginGrant c.state.store fp now).1 = some encrypted ↔ ∃ expiresAt,
      Outstanding c.history (.grant fp encrypted expiresAt) ∧ now < expiresAt) ∧
    ∀ channel sessionId, (consumeWsTicket c.state.store fp channel now).1 = some sessionId ↔
      (∃ expiresAt, Outstanding c.history (.ticket fp sessionId channel expiresAt) ∧ now < expiresAt) ∧
      ∃ userId deviceId token expiresAt, now < expiresAt ∧
        Outstanding c.history (.session sessionId userId deviceId token expiresAt) := by
  refine ⟨fun flow => ?_, fun encrypted => ?_, fun channel sessionId => ?_⟩
  · simp only [consumeFlow_eq_some, holds_iff_since hc, Outstanding]
  · simp only [consumeLoginGrant_eq_some, holds_iff_since hc, Outstanding]
  · have hticket : (∃ expiresAt, Outstanding c.history (.ticket fp sessionId channel expiresAt) ∧ now < expiresAt) ↔
        ∃ r ∈ c.state.store.tickets, r.ticketFingerprint = fp ∧ r.channel.text = channel ∧ now < r.expiresAt ∧
          r.sessionId = sessionId := by
      simp only [Outstanding, ← holds_iff_since hc, Holds]
      constructor
      · rintro ⟨_, ⟨r, hr, hfp, hid, hchannel, rfl⟩, ht⟩
        exact ⟨r, hr, hfp, hchannel, ht, hid⟩
      · rintro ⟨r, hr, hfp, hchannel, ht, hid⟩
        exact ⟨_, ⟨r, hr, hfp, hid, hchannel, rfl⟩, ht⟩
    rw [hticket, consumeWsTicket_eq_some]
    constructor
    · rintro ⟨r, hr, hfp, hchannel, ht, hid, hlive⟩
      obtain ⟨userId, deviceId, token, expiresAt, hsince, ht'⟩ := (live_session hc).mp hlive
      exact ⟨⟨r, hr, hfp, hchannel, ht, hid⟩, userId, deviceId, token, expiresAt, ht', hsince⟩
    · rintro ⟨⟨r, hr, hfp, hchannel, ht, hid⟩, userId, deviceId, token, expiresAt, ht', hsince⟩
      exact ⟨r, hr, hfp, hchannel, ht, hid, (live_session hc).mpr ⟨userId, deviceId, token, expiresAt, hsince, ht'⟩⟩

/-- The session of the token is honoured at this time, as the principal. -/
structure Honoured (settings : AuthSettings) (crypto : Primitives) (c : State) (token : String) (now : Timestamp)
    (p : Principal) : Prop where
  outstanding : ∃ deviceId, p.deviceId = some deviceId ∧ InUse c.history deviceId ∧
    Outstanding c.history (.session p.sessionId p.userId deviceId (fingerprint settings crypto token) p.expiresAt)
  inTime : now < p.expiresAt
  user : ∃ u ∈ c.state.store.users, u.id = p.userId ∧ u.status = .active ∧ p.email = u.email ∧
    p.displayName = u.displayName
  roles : p.roles = roleNames c.state.store p.userId
  permissions : p.permissions = permissionCodes c.state.store p.userId

lemma issues_session {d : Done Answer PyError} {id userId deviceId : Uuid} {fp : String} {expiresAt : Timestamp}
    (h : issues d = some (.session id userId deviceId fp expiresAt)) :
    d = ⟨.createSession userId deviceId fp expiresAt, .ok id⟩ := by
  unfold issues at h
  split at h <;> cases h
  rfl

/-- The device of an outstanding session was registered. -/
lemma registered_of_outstanding (hc : Run settings crypto c) {id userId deviceId : Uuid} {fp : String}
    {expiresAt : Timestamp} (h : Outstanding c.history (.session id userId deviceId fp expiresAt)) :
    ∃ e ∈ c.history, admits e.done = some deviceId := by
  obtain ⟨h₁, e, h₀, hsplit, hissues, -⟩ := since_iff.mp h
  obtain ⟨P⟩ := hc.performed hsplit
  have hspec := performed_spec P
  rw [issues_session hissues] at hspec
  obtain ⟨L, -, hL, -, rfl, -⟩ := hspec
  obtain ⟨e₀, he₀, -, hd⟩ := did_own.mp (hL.device.later hsplit)
  exact ⟨e₀, he₀, by rw [hd]; rfl⟩

/-- In every run a token resolves exactly if its session is outstanding, its device is in use, neither has
expired, and its user is active. -/
lemma resolveSession_iff (hc : Run settings crypto c) {token : String} {now : Timestamp} {p : Principal} :
    resolveSession c.state.store (fingerprint settings crypto token) now = some p ↔
      Honoured settings crypto c token now p := by
  rw [resolveSession_eq_some]
  constructor
  · rintro ⟨r, hr, hfp, ⟨hrev, ht⟩, u, hu, hid, hactive, hallows, rfl⟩
    obtain ⟨-, -, -, deviceId, -, -, hdevice⟩ := session_origin hc hr
    have hsince : Outstanding c.history
        (.session r.id r.userId deviceId (fingerprint settings crypto token) r.expiresAt) :=
      (holds_iff_since hc _).mp ⟨r, hr, rfl, rfl, hdevice, hfp, rfl, hrev⟩
    obtain ⟨e, he, hadmits⟩ := registered_of_outstanding hc hsince
    rw [hdevice] at hallows
    have hinuse := ((tracks_device settings crypto deviceId).holds_iff_of_mem hc he hadmits).mp hallows
    exact ⟨⟨deviceId, hdevice, hinuse, hsince⟩, ht, ⟨u, hu, hid, hactive, rfl, rfl⟩, rfl, rfl⟩
  · rintro ⟨⟨deviceId, hdevice, hinuse, hsince⟩, ht, ⟨u, hu, hid, hactive, hemail, hname⟩, hroles, hpermissions⟩
    obtain ⟨r, hr, hrid, hruser, hrdevice, hfp, hexp, hrev⟩ := (holds_iff_since hc _).mpr hsince
    obtain ⟨e, he, hadmits⟩ := registered_of_outstanding hc hsince
    have hallows := ((tracks_device settings crypto deviceId).holds_iff_of_mem hc he hadmits).mpr hinuse
    refine ⟨r, hr, hfp, ⟨hrev, hexp ▸ ht⟩, u, hu, hid.trans hruser.symm, hactive, by rwa [hrdevice], ?_⟩
    rw [hrid, hruser, hrdevice, hexp, ← hdevice, ← hemail, ← hname, ← hroles, ← hpermissions]

lemma Honoured.ne_empty (h : Ideal crypto) (hc : Run settings crypto c) {token : String} {now : Timestamp}
    {p : Principal} (hp : Honoured settings crypto c token now p) : token ≠ "" := by
  obtain ⟨deviceId, -, -, hsince⟩ := hp.outstanding
  obtain ⟨h₁, e, h₀, hsplit, hissues, -⟩ := since_iff.mp hsince
  obtain ⟨P⟩ := hc.performed hsplit
  have hspec := performed_spec P
  rw [issues_session hissues] at hspec
  obtain ⟨L, -, hL, -, -, hfp, -⟩ := hspec
  rw [fingerprint_injective h hfp]
  exact drawn_ne_empty hc (by omega) (hL.token.later hsplit)

lemma run_ask {β : Type} {call : Call} {a : Answer call} {ω : Env} {w w' : World} (f : Answer call → Async β)
    (h : answer ω w call = (.ok a, w')) : (ask call >>= f).run (answer ω) w = (f a).run (answer ω) w' :=
  run_bind_of_ok _ ((run_perform _ w call).trans h)

lemma run_authenticate {token : String} (hne : token ≠ "") (ω : Env) (w : World) :
    (authenticate settings crypto token).run (answer ω) w =
      ((resolveSession w.store (fingerprint settings crypto token) ω.clock).elim
        (.error (.authenticationError "session is invalid or expired")) .ok, w) := by
  rw [authenticate, Prog.require, if_pos hne, pure_bind']
  refine (run_ask _ (rfl : answer ω w .now = _)).trans ?_
  refine (run_ask _ (rfl : answer ω w (.resolveSession _ _) = _)).trans ?_
  cases resolveSession w.store (fingerprint settings crypto token) ω.clock with
  | some p => exact run_pure _ _ _
  | none => exact run_ret _ _ _

/-- `authenticate` returns a principal exactly if the session is honoured. -/
theorem authenticate_iff (h : Ideal crypto) (hc : Run settings crypto c) (token : String) (ω : Env) (p : Principal) :
    ((authenticate settings crypto token).run (answer ω) c.state).1 = .ok p ↔
      Honoured settings crypto c token ω.clock p := by
  by_cases hne : token = ""
  · refine iff_of_false (fun hok => ?_) fun hp => hp.ne_empty h hc hne
    rw [hne, authenticate, Prog.require, if_neg (by simp)] at hok
    cases hok
  · rw [run_authenticate hne, ← resolveSession_iff hc]
    cases resolveSession c.state.store (fingerprint settings crypto token) ω.clock with
    | some principal => simp
    | none => simp

lemma resolveSession_consumeLoginGrant (s : Store) (fp fp' : String) (now now' : Timestamp) :
    resolveSession (consumeLoginGrant s fp now).2 fp' now' = resolveSession s fp' now' := rfl

variable {code encrypted : String} {ω : Env} {w : World}

lemma answer_consumeLoginGrant
    (hfound : (consumeLoginGrant w.store (fingerprint settings crypto code) ω.clock).1 = some encrypted) :
    answer ω w (.consumeLoginGrant (fingerprint settings crypto code) ω.clock) = (.ok (some encrypted),
      { w with store := (consumeLoginGrant w.store (fingerprint settings crypto code) ω.clock).2 }) := by
  rw [← hfound]
  rfl

lemma run_exchangeLoginGrant {token : String} (hne : code ≠ "") (htoken : token ≠ "")
    (hfound : (consumeLoginGrant w.store (fingerprint settings crypto code) ω.clock).1 = some encrypted)
    (hopen : opened settings crypto encrypted grantPurpose = .ok (Json.ofStrings [("session_token", token)])) :
    (exchangeLoginGrant settings crypto code).run (answer ω) w =
      ((resolveSession w.store (fingerprint settings crypto token) ω.clock).elim
        (.error (.authenticationError "session is invalid or expired")) fun p => .ok ⟨token, p⟩,
        { w with store := (consumeLoginGrant w.store (fingerprint settings crypto code) ω.clock).2 }) := by
  have hrequired : required (Json.ofStrings [("session_token", token)]) "session_token" = .ok token :=
    required_ofStrings rfl htoken
  rw [exchangeLoginGrant, Prog.require, if_pos hne, pure_bind']
  refine (run_ask _ (rfl : answer ω w .now = _)).trans ?_
  refine (run_ask _ (answer_consumeLoginGrant hfound)).trans ?_
  dsimp only
  rw [hopen]
  refine (run_bind_of_ok _ (run_ofExcept _ _ _)).trans ?_
  rw [hrequired]
  refine (run_bind_of_ok _ (run_ofExcept _ _ _)).trans ?_
  rw [run_bind, run_authenticate htoken, resolveSession_consumeLoginGrant]
  cases resolveSession w.store (fingerprint settings crypto token) ω.clock with
  | some p => exact run_pure _ _ _
  | none => rfl

lemma run_exchangeLoginGrant_none (hne : code ≠ "")
    (hfound : (consumeLoginGrant w.store (fingerprint settings crypto code) ω.clock).1 = none) (grant : SessionGrant) :
    ((exchangeLoginGrant settings crypto code).run (answer ω) w).1 ≠ .ok grant := by
  intro hok
  have hmissed : answer ω w (.consumeLoginGrant (fingerprint settings crypto code) ω.clock) = (.ok none,
      { w with store := (consumeLoginGrant w.store (fingerprint settings crypto code) ω.clock).2 }) := by
    rw [← hfound]
    rfl
  have hrun : (exchangeLoginGrant settings crypto code).run (answer ω) w =
      (.error (.authenticationError "login grant is invalid or expired"),
        { w with store := (consumeLoginGrant w.store (fingerprint settings crypto code) ω.clock).2 }) := by
    rw [exchangeLoginGrant, Prog.require, if_pos hne, pure_bind']
    refine (run_ask _ (rfl : answer ω w .now = _)).trans ?_
    refine (run_ask _ hmissed).trans ?_
    exact run_ret _ _ _
  rw [hrun] at hok
  cases hok

lemma Login.Created.later {i : ℕ} {h h₁ h₀ : History} {e : Entry Answer PyError Env World} {L : Login}
    (hsplit : h = h₁ ++ e :: h₀) (hL : L.Created settings crypto (own i h₀)) :
    L.Created settings crypto (own i h) :=
  ⟨hL.toRegistered.later hsplit, hL.session.later hsplit⟩

lemma issues_grant {d : Done Answer PyError} {fp payload : String} {expiresAt : Timestamp}
    (h : issues d = some (.grant fp payload expiresAt)) : d = ⟨.putLoginGrant fp payload expiresAt, .ok ()⟩ := by
  unfold issues at h
  split at h <;> cases h
  rfl

/-- A completed login can be handed over exactly as long as its grant is outstanding and has not expired and
its session is honoured; the client then receives the token and the principal of this session. -/
theorem handover_iff (h : Ideal crypto) (hc : Run settings crypto c) {j : ℕ} {state code : String}
    {login : LoginRedirect} (hj : c.threads j = some ⟨.completeLogin state code, .ret (.ok (.redirect login))⟩) :
    ∃ L : Login, L.Created settings crypto (own j c.history) ∧ ∃ payload, ∀ ω grant,
      ((exchangeLoginGrant settings crypto login.code).run (answer ω) c.state).1 = .ok grant ↔
        Outstanding c.history (.grant (fingerprint settings crypto login.code) payload
          (L.now + seconds settings.loginGrantTtlSeconds)) ∧
        ω.clock < L.now + seconds settings.loginGrantTtlSeconds ∧ grant.token = L.token ∧
        Honoured settings crypto c L.token ω.clock grant.principal := by
  obtain ⟨-, -, -, hdrawn, stored, expiresAt, hput⟩ := hc.meets serve_meets hj
  have hne : login.code ≠ "" := drawn_ne_empty hc (by omega) hdrawn
  obtain ⟨e, he, rfl, hd⟩ := did_own.mp hput
  obtain ⟨h₁, h₀, hsplit, ⟨P⟩⟩ := hc.performed_mem he
  have hspec := performed_spec P
  rw [hd] at hspec
  obtain ⟨-, L, code', sealing, -, hL, -, hsealing, -, rfl, rfl⟩ := hspec
  have hL := hL.later hsplit
  have hopen : opened settings crypto (sealed settings crypto sealing [("session_token", L.token)] grantPurpose)
      grantPurpose = .ok (Json.ofStrings [("session_token", L.token)]) :=
    opened_sealed h (urandom_length hc (hsealing.later hsplit)) (by simp) grantPurpose
  have htoken : L.token ≠ "" := drawn_ne_empty hc (by omega) hL.token
  refine ⟨L, hL, sealed settings crypto sealing [("session_token", L.token)] grantPurpose, fun ω grant => ?_⟩
  cases hfound : (consumeLoginGrant c.state.store (fingerprint settings crypto login.code) ω.clock).1 with
  | none =>
    refine iff_of_false (run_exchangeLoginGrant_none hne hfound grant) ?_
    rintro ⟨hout, ht, -⟩
    have := consumeLoginGrant_eq_some.mpr ⟨_, (holds_iff_since hc _).mpr hout, ht⟩
    rw [hfound] at this
    cases this
  | some encrypted =>
    obtain ⟨expiresAt, hholds, ht⟩ := consumeLoginGrant_eq_some.mp hfound
    have hout := (holds_iff_since hc _).mp hholds
    obtain ⟨h₂, e', h₃, hsplit', hissues, -⟩ := since_iff.mp hout
    have hd' := issues_grant hissues
    have he' : e' ∈ c.history := by
      rw [hsplit']
      exact List.mem_append_right _ List.mem_cons_self
    have hs : e.done.call.stores (fingerprint settings crypto login.code) = true := by
      rw [hd]
      exact decide_eq_true rfl
    have hs' : e'.done.call.stores (fingerprint settings crypto login.code) = true := by
      rw [hd']
      exact decide_eq_true rfl
    obtain rfl := stored_unique hc h he he' hs hs'
    obtain ⟨rfl, rfl⟩ : sealed settings crypto sealing [("session_token", L.token)] grantPurpose = encrypted ∧
        L.now + seconds settings.loginGrantTtlSeconds = expiresAt := by
      rw [hd, Done.mk.injEq, Call.putLoginGrant.injEq] at hd'
      exact hd'.1.2
    rw [run_exchangeLoginGrant hne htoken hfound hopen, ← resolveSession_iff hc]
    cases resolveSession c.state.store (fingerprint settings crypto L.token) ω.clock with
    | none => simp
    | some p =>
      constructor
      · intro hok
        obtain rfl := Except.ok.inj hok
        exact ⟨hout, ht, rfl, rfl⟩
      · rintro ⟨-, -, htok, hp⟩
        obtain rfl := Option.some.inj hp
        rw [← htok]
        rfl

end

namespace Sample

/-- A later call that reads the clock. -/
def later : Env := clockAt 2000000

/-- The reply is a redirection to the desktop with this code. -/
def redirects (code : String) (result : Option (Except PyError Reply)) : Bool :=
  match result with
  | some (.ok (.redirect login)) => login.code = code
  | _ => false

lemma exists_ok {α : Type} {r : Except PyError α} (h : r.toOption.isSome = true) : ∃ a, r = .ok a := by
  cases r with
  | ok a => exact ⟨a, rfl⟩
  | error e => cases h

end Sample

open Sample in
/-- The grant of the login is outstanding. -/
theorem items_honoured_iff_loggedIn : ∃ encrypted expiresAt,
    Outstanding loggedIn.history (.grant (print (token 6)) encrypted expiresAt) := by
  have hfound : (consumeLoginGrant loggedIn.state.store (print (token 6)) 2000000).1.isSome = true := by
    decide +kernel
  obtain ⟨encrypted, hencrypted⟩ := Option.isSome_iff_exists.mp hfound
  obtain ⟨expiresAt, hout, -⟩ :=
    ((items_honoured_iff run_loggedIn (print (token 6)) 2000000).2.1 encrypted).mp hencrypted
  exact ⟨encrypted, expiresAt, hout⟩

open Sample in
/-- The session of the login is honoured. -/
theorem authenticate_iff_loggedIn : ∃ p,
    Honoured Sample.settings tables.primitives loggedIn (Sample.token 5) 2000000 p := by
  have hreply : ((authenticate Sample.settings tables.primitives (Sample.token 5)).run (answer later)
      loggedIn.state).1.toOption.isSome = true := by
    decide +kernel
  obtain ⟨p, hp⟩ := exists_ok hreply
  exact ⟨p, (authenticate_iff ideal run_loggedIn (token 5) later p).mp hp⟩

open Sample in
/-- The login is handed over. -/
theorem handover_iff_loggedIn : ∃ grant : SessionGrant,
    Honoured Sample.settings tables.primitives loggedIn grant.token 2000000 grant.principal := by
  have hdone : redirects (token 6) (loggedIn.result 1) = true ∧
      (loggedIn.threads 1).map Thread.request = some (.completeLogin (token 1) "code") ∧
      ((exchangeLoginGrant Sample.settings tables.primitives (token 6)).run (answer later)
        loggedIn.state).1.toOption.isSome = true := by
    decide +kernel
  obtain ⟨grant, hgrant⟩ := exists_ok hdone.2.2
  have hresult := hdone.1
  unfold redirects at hresult
  split at hresult
  · next login hlogin =>
    obtain ⟨L, -, payload, hiff⟩ := handover_iff ideal run_loggedIn (Config.threads_of_result hlogin hdone.2.1)
    rw [of_decide_eq_true hresult] at hiff
    obtain ⟨-, -, htoken, hhonoured⟩ := (hiff later grant).mp hgrant
    exact ⟨grant, htoken ▸ hhonoured⟩
  · cases hresult

end Pentagon5.Auth
