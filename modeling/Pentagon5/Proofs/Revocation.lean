import Pentagon5.Auth.Deployment
import Pentagon5.Auth.Tokens

/-!
# Revocation is final

Revoking a session, or the device it is bound to, marks the session row, and no later call
clears the mark: registering the device again only clears the one on the device row. A session
with the mark neither resolves nor lets a ticket be consumed.
-/

namespace Pentagon5.Auth

open Python Relational Relational.Table Interleaving Interleaving.Prog PostgresAuthRepository
  AuthenticationService

section

variable {settings : AuthSettings} {crypto : Primitives} {c c' : State} {s : Store} {r : SessionRow}

/-- The session `r` is there and is revoked. -/
def Revoked (r : SessionRow) (s : Store) : Prop :=
  ∃ a ∈ s.sessions, a.Continues r ∧ a.revokedAt ≠ none

lemma stable_revoked (r : SessionRow) :
    Stable (system settings crypto) (fun w => Revoked r w.store) := by
  refine stable_of_extends fun s s' hs ⟨a, ha, hcont, hrev⟩ => ?_
  obtain ⟨a', ha', hcont'⟩ := hs.sessions a ha
  exact ⟨a', ha', hcont'.trans hcont, by rw [hcont'.revoked hrev]; exact hrev⟩

lemma Revoked.resolveSession (h : Revoked r s) (now : Timestamp) :
    resolveSession s r.tokenFingerprint now = none := by
  obtain ⟨a, ha, hcont, hrev⟩ := h
  cases hres : PostgresAuthRepository.resolveSession s r.tokenFingerprint now with
  | none => rfl
  | some p =>
    obtain ⟨b, hb, hfp, hlive, -⟩ := resolveSession_eq_some.mp hres
    rw [eq_of_clash ha hb (.inr (hcont.tokenFingerprint.trans hfp.symm))] at hrev
    exact absurd hlive.1 hrev

lemma Revoked.consumeWsTicket (h : Revoked r s) {row : TicketRow} (hrow : row ∈ s.tickets)
    (hbound : row.sessionId = r.id) (channel : String) (now : Timestamp) :
    (consumeWsTicket s row.ticketFingerprint channel now).1 = none := by
  obtain ⟨a, ha, hcont, hrev⟩ := h
  cases hcons : (PostgresAuthRepository.consumeWsTicket s row.ticketFingerprint channel now).1 with
  | none => rfl
  | some sessionId =>
    obtain ⟨t, ht, hfp, -, -, rfl, b, hb, hid, hlive⟩ := consumeWsTicket_eq_some.mp hcons
    rw [eq_of_clash ht hrow (.inr hfp), hbound, ← hcont.id] at hid
    rw [← eq_of_clash hb ha (.inl hid)] at hrev
    exact absurd hlive.1 hrev

/-- The call revoked the session `r`, or returned `True` for the device that `r` is bound to. -/
def Revokes (d : Done Answer PyError) (r : SessionRow) : Prop :=
  (∃ now, d = ⟨.revokeSession r.id now, .ok ()⟩) ∨
    ∃ userId deviceId now, d = ⟨.revokeDevice userId deviceId now, .ok true⟩ ∧
      r.deviceId = some deviceId

/-- A revoking call marks the session, whether or not it was marked before. -/
lemma Effect.revoked {d : Done Answer PyError} {s' : Store} (h : Effect d s s') (hr : r ∈ s.sessions)
    (hd : Revokes d r) : Revoked r s' := by
  rcases hd with ⟨now, rfl⟩ | ⟨userId, deviceId, now, rfl, hdev⟩
  · generalize hid : r.id = sessionId at h
    cases h with
    | read _ _ h => cases h
    | revokeSession a e _ hmem ha he hm hev =>
      obtain rfl := eq_of_clash hmem hr (.inl hid.symm)
      refine ⟨_, hm.image hmem, ?_, ?_⟩
      · rw [if_pos rfl]
        exact ⟨rfl, rfl, rfl, rfl, rfl, fun h => absurd ha h⟩
      · simp [revokeRow]
    | keepSession _ _ hkeep => exact ⟨r, hr, .rfl, hkeep r hr hid⟩
  · cases h with
    | read _ _ h => cases h
    | revokeDevice d _ hmem hd hm hs =>
      refine ⟨_, hs.image hr, ?_, ?_⟩
      · split
        · next h => exact ⟨rfl, rfl, rfl, rfl, rfl, fun hrev => absurd h.2 hrev⟩
        · exact .rfl
      · by_cases hrev : r.revokedAt = none
        · simp [hdev, hrev, revokeRow]
        · simp [hrev]

/-- An exchange makes no call after it resolved a token, and none of its calls raises. -/
def ExchangeCalls (q : Request) (t : Trace) (call : Call) : Prop := ∀ code,
  q = .exchangeLoginGrant code → call.infallible = true ∧ ∀ d ∈ t, ∀ fp now, d.call ≠ .resolveSession fp now

variable (settings crypto) in
/-- An exchange raises `AuthenticationError`, or the token in the grant that it consumed is
missing or resolved. -/
def ExchangeResult (q : Request) (t : Trace) (reply : Except PyError Reply) : Prop := ∀ code,
  q = .exchangeLoginGrant code →
  (∃ d ∈ t, ∃ e, d.answer = .error e) ∨ (∃ message, reply = .error (.authenticationError message)) ∨
    ∃ now encrypted payload,
      Did t (.consumeLoginGrant (fingerprint settings crypto code) now) (some encrypted) ∧
      opened settings crypto encrypted grantPurpose = .ok payload ∧
      ∀ token, required payload "session_token" = .ok token → ∃ now' principal,
        Did t (.resolveSession (fingerprint settings crypto token) now') (some principal)

lemma opened_error {value : String} {purpose : List UInt8} {e : PyError}
    (h : opened settings crypto value purpose = .error e) : ∃ message, e = .authenticationError message := by
  unfold opened at h
  split at h <;> cases h
  · exact ⟨_, rfl⟩
  · exact ⟨_, rfl⟩

lemma exchangeLoginGrant_meets (code : String) : Meets (ExchangeCalls (.exchangeLoginGrant code))
    (fun t r => ExchangeResult settings crypto (.exchangeLoginGrant code) t (r.map Reply.grant)) []
    (exchangeLoginGrant settings crypto code) := by
  have raised : ∀ {t : Trace} {call : Call} {e : PyError} {reply}, ExchangeResult settings crypto
      (.exchangeLoginGrant code) (⟨call, .error e⟩ :: t) reply :=
    fun _ _ => .inl ⟨_, List.mem_cons_self, _, rfl⟩
  have refused : ∀ {t : Trace} {message}, ExchangeResult settings crypto (.exchangeLoginGrant code) t
      (.error (.authenticationError message)) := fun _ _ => .inr (.inl ⟨_, rfl⟩)
  refine meets_require_bind.mpr ⟨fun _ => ?_, fun _ => refused⟩
  refine meets_perform_bind.mpr ⟨fun _ _ => ⟨rfl, by simp⟩, fun now => ?_, fun _ => raised⟩
  refine meets_perform_bind.mpr ⟨fun _ _ => ⟨rfl, by simp⟩, fun found => ?_, fun _ => raised⟩
  cases found with
  | none => exact refused
  | some encrypted =>
    refine meets_ofExcept_bind.mpr ⟨fun payload hopen => ?_, fun e he => ?_⟩
    · refine meets_ofExcept_bind.mpr ⟨fun token hreq => ?_, fun e he => ?_⟩
      · refine meets_bind ?_
        refine meets_require_bind.mpr ⟨fun _ => ?_, fun _ => refused⟩
        refine meets_perform_bind.mpr ⟨fun _ _ => ⟨rfl, by simp⟩, fun now' => ?_, fun _ => raised⟩
        refine meets_perform_bind.mpr ⟨fun _ _ => ⟨rfl, by simp⟩, fun resolved => ?_, fun _ => raised⟩
        cases resolved with
        | none => exact refused
        | some principal =>
          rintro _ ⟨⟩
          refine .inr (.inr ⟨now, encrypted, payload, by simp [Did], hopen, fun token' hreq' => ?_⟩)
          cases hreq.symm.trans hreq'
          exact ⟨now', principal, did_head _ _ _⟩
      · rintro _ ⟨⟩
        refine .inr (.inr ⟨now, encrypted, payload, by simp [Did], hopen, fun token' hreq' => ?_⟩)
        cases he.symm.trans hreq'
    · obtain ⟨message, rfl⟩ := opened_error he
      exact refused

lemma exchange_meets (q : Request) : Meets (ExchangeCalls q) (ExchangeResult settings crypto q) []
    (q.serve settings crypto) := by
  cases q with
  | exchangeLoginGrant code =>
    exact meets_bind ((exchangeLoginGrant_meets code).mono (fun _ _ h => h)
      fun t r h => by cases r <;> exact h)
  | startLogin | completeLogin | authenticated | websocket =>
    exact meets_trivial (fun _ _ _ h => nomatch h) (fun _ _ _ h => nomatch h) _

/-- An exchange that has not finished has not resolved any token. -/
lemma not_resolved_of_unfinished (hc : Run settings crypto c) {i : ℕ} (hi : c.result i = none)
    {code : String} (hq : ∀ t, c.threads i = some t → t.request = .exchangeLoginGrant code) :
    ∀ d ∈ own i c.history, ∀ fp now, d.call ≠ .resolveSession fp now := by
  cases ht : c.threads i with
  | none => simp [hc.own_of_idle ht]
  | some t =>
    obtain ⟨q, p⟩ := t
    cases p with
    | ret reply => cases hi.symm.trans (Config.result_eq_some.mpr ⟨q, ht⟩)
    | call call next => exact ((hc.meets exchange_meets ht).1 code (hq _ ht)).2

/-- The calls of an exchange are answered without an exception. -/
lemma exchange_answers (hc : Run settings crypto c) {i : ℕ} {code : String}
    (hq : ∀ t, c.threads i = some t → t.request = .exchangeLoginGrant code) :
    ∀ d ∈ own i c.history, ∀ e, d.answer ≠ .error e := by
  intro d hd error hans
  obtain ⟨e, he, rfl, rfl⟩ := mem_own.mp hd
  obtain ⟨h₁, h₀, -, ⟨P⟩⟩ := hc.performed_mem he
  have hcall := (P.meets exchange_meets code (hq _ P.now)).1
  exact answer_infallible hcall e.env e.before error (by rw [performed_answer P rfl]; exact hans)

variable (settings crypto) in
/-- A call stored, for the grant `code`, a payload in which `token` is sealed. -/
def Seals (history : History) (code token : String) : Prop := ∃ e ∈ history, ∃ encrypted expiresAt payload,
  e.done.call = .putLoginGrant (fingerprint settings crypto code) encrypted expiresAt ∧
  opened settings crypto encrypted grantPurpose = .ok payload ∧
  required payload "session_token" = .ok token

/-- The payload that a call found under a grant code is the one that was stored for it. -/
lemma consumed_grant (hc : Run settings crypto c) (hideal : Ideal crypto) {i : ℕ} {fp encrypted : String}
    {now : Timestamp} (h : Did (own i c.history) (.consumeLoginGrant fp now) (some encrypted))
    {e : Entry Answer PyError Env World} (he : e ∈ c.history) {stored : String} {expiresAt : Timestamp}
    (hput : e.done.call = .putLoginGrant fp stored expiresAt) : encrypted = stored := by
  obtain ⟨expiresAt', h₁, e₀, h₀, -, hsplit, hd₀⟩ := consumed_grant_origin hc h
  have hstores : e₀.done.call.stores fp = true := by simp [hd₀, Call.stores]
  obtain rfl := stored_unique hc hideal (by simp [hsplit]) he hstores (by simp [hput, Call.stores])
  rw [hd₀] at hput
  exact (Call.putLoginGrant.inj hput).2.1

/-- Once a call has revoked a session, or the device it is bound to, then in every later state
the token of the session resolves to nothing, no ticket bound to it is consumed, and every
exchange of a grant that seals the token, if it was still to finish, raises
`AuthenticationError`. -/
theorem revoked_for_good (hc : Run settings crypto c) (hideal : Ideal crypto)
    (hs : Relation.ReflTransGen (Step (system settings crypto)) c c')
    {e : Entry Answer PyError Env World} (he : e ∈ c.history)
    {r : SessionRow} (hr : r ∈ e.before.store.sessions) (hrev : Revokes e.done r) :
    (∀ token now, fingerprint settings crypto token = r.tokenFingerprint →
      resolveSession c'.state.store (fingerprint settings crypto token) now = none) ∧
    (∀ row ∈ c'.state.store.tickets, row.sessionId = r.id → ∀ channel now,
      (consumeWsTicket c'.state.store row.ticketFingerprint channel now).1 = none) ∧
    ∀ i code token reply, c.result i = none →
      c'.threads i = some ⟨.exchangeLoginGrant code, .ret reply⟩ →
      Seals settings crypto c'.history code token →
      fingerprint settings crypto token = r.tokenFingerprint →
      ∃ message, reply = .error (.authenticationError message) := by
  have hc' := hc.steps hs
  have dead : Revoked r c.state.store := by
    obtain ⟨h₁, h₀, hsplit, ⟨P⟩⟩ := hc.performed_mem he
    exact hc.stable_since (stable_revoked r) hsplit ((performed_effect P).revoked hr hrev)
  have dead' : Revoked r c'.state.store := (stable_revoked r).steps hs dead
  refine ⟨?_, fun row hrow hbound channel now => dead'.consumeWsTicket hrow hbound channel now, ?_⟩
  · intro token now htoken
    rw [htoken]
    exact dead'.resolveSession now
  · rintro i code token reply hi hthread ⟨e₀, he₀, stored, expiresAt, payload, hput, hopen, hreq⟩ htoken
    have hq' : ∀ t, c'.threads i = some t → t.request = .exchangeLoginGrant code := by
      intro t ht
      rw [hthread] at ht
      rw [← Option.some.inj ht]
    have hq : ∀ t, c.threads i = some t → t.request = .exchangeLoginGrant code := by
      intro t ht
      obtain ⟨p, hp⟩ := request_of_steps hs ht
      exact hq' ⟨t.request, p⟩ hp
    rcases hc'.meets exchange_meets hthread code rfl with
      ⟨d, hd, error, hans⟩ | hrefused | ⟨now, encrypted, payload', hconsumed, hopen', hresolved⟩
    · exact absurd hans (exchange_answers hc' hq' d hd error)
    · exact hrefused
    · obtain rfl := consumed_grant hc' hideal hconsumed he₀ hput
      cases hopen.symm.trans hopen'
      obtain ⟨now', principal, hdid⟩ := hresolved token hreq
      -- the token resolved after `c`, where its session was revoked already
      obtain ⟨new, hnew, hbefore⟩ := (stable_revoked r).since hs dead
      obtain ⟨e', he', hthread', hdone⟩ := did_own.mp hdid
      rw [hnew] at he'
      rcases List.mem_append.mp he' with hmem | hold
      · obtain ⟨h₁, h₀, -, ⟨P⟩⟩ := hc'.performed_mem (by rw [hnew]; exact List.mem_append_left _ hmem)
        have hans := congrArg Prod.fst (performed_answer P hdone)
        have hnone := (hbefore e' hmem).resolveSession now'
        rw [← htoken] at hnone
        cases hnone.symm.trans (Except.ok.inj hans)
      · have := not_resolved_of_unfinished hc hi hq e'.done (mem_own.mpr ⟨e', hold, hthread', rfl⟩)
          (fingerprint settings crypto token) now'
        rw [hdone] at this
        exact absurd rfl this

end

namespace Sample

/-- The user logs out of the session of the login. -/
def loggedOut : State := loggedIn.serve machine 2 (.authenticated (token 5) .logout)
  [clockAt 2000000, unused, clockAt 2000000, uuids 50]

/-- The grant of the login is exchanged after the logout. -/
def exchangedLate : State := loggedOut.serve machine 3 (.exchangeLoginGrant (token 6))
  [clockAt 3000000, unused, clockAt 3000000, unused]

lemma run_loggedOut : Sampled loggedOut := run_loggedIn.serve 2 _ _

lemma loggedOut_exchangedLate : Relation.ReflTransGen (Step machine) loggedOut exchangedLate :=
  loggedOut.serve_steps 3 _ _

/-- The encrypted payload of the grant. -/
def grantPayload : String := sealed settings tables.primitives (List.replicate 12 7)
  [("session_token", token 5)] grantPurpose

/-- The call revoked the session of the token. -/
def revokesSession (token : String) (rows : Table SessionRow) (done : Done Answer PyError) : Bool :=
  match done with
  | ⟨.revokeSession id _, .ok _⟩ => (rows.find fun r => r.id = id ∧ r.tokenFingerprint = print token).isSome
  | _ => false

/-- The call put the payload behind the code. -/
def putsGrant (code payload : String) (call : Call) : Bool :=
  match call with
  | .putLoginGrant fp encrypted _ => fp = print code ∧ encrypted = payload
  | _ => false

lemma loggedOut_revokes : ∃ e ∈ loggedOut.history, ∃ r ∈ e.before.store.sessions,
    r.tokenFingerprint = print (token 5) ∧ Revokes e.done r := by
  have h : loggedOut.history.any (fun e =>
      revokesSession (token 5) e.before.store.sessions e.done) = true := by decide +kernel
  obtain ⟨e, he, hp⟩ := List.any_eq_true.mp h
  refine ⟨e, he, ?_⟩
  unfold revokesSession at hp
  split at hp
  · next id now _ hd =>
    obtain ⟨r, hr, hrow⟩ := find_isSome.mp hp
    simp only [decide_eq_true_eq] at hrow
    exact ⟨r, hr, hrow.2, .inl ⟨now, by rw [hd, hrow.1]; rfl⟩⟩
  · cases hp

lemma exchangedLate_seals : Seals settings tables.primitives exchangedLate.history (token 6) (token 5) := by
  have h : exchangedLate.history.any (fun e =>
      putsGrant (token 6) grantPayload e.done.call) = true := by decide +kernel
  obtain ⟨e, he, hp⟩ := List.any_eq_true.mp h
  unfold putsGrant at hp
  split at hp
  · next fp payload expiresAt hd =>
    obtain ⟨rfl, rfl⟩ := of_decide_eq_true hp
    exact ⟨e, he, grantPayload, expiresAt, _, hd, opened_sealed ideal rfl (by simp) _,
      required_ofStrings rfl (by decide +kernel)⟩
  · cases hp

end Sample

open Sample in
theorem revoked_for_good_after_logout : ∃ message,
    exchangedLate.result 3 = some (.error (.authenticationError message)) := by
  obtain ⟨e, he, r, hr, htoken, hrev⟩ := loggedOut_revokes
  have h := revoked_for_good run_loggedOut ideal loggedOut_exchangedLate he hr hrev
  have hdone : (loggedOut.result 3).isNone ∧ (exchangedLate.result 3).isSome ∧
      (exchangedLate.threads 3).map Thread.request = some (.exchangeLoginGrant (token 6)) := by
    decide +kernel
  obtain ⟨reply, hreply⟩ := Option.isSome_iff_exists.mp hdone.2.1
  obtain ⟨message, rfl⟩ := h.2.2 3 (token 6) (token 5) reply (Option.isNone_iff_eq_none.mp hdone.1)
    (Config.threads_of_result hreply hdone.2.2) exchangedLate_seals htoken.symm
  exact ⟨message, hreply⟩

end Pentagon5.Auth
