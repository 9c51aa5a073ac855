import Pentagon5.Auth.Deployment
import Pentagon5.Auth.Evolution

/-!
# Users are isolated

A login binds its session to the device that it registered for the same user. So the sessions
that a device revocation reaches belong to the user who revokes, and no operation of an
authenticated user changes a row of another user.
-/

namespace Pentagon5.Auth

open Relational Relational.Table Interleaving PostgresAuthRepository AuthenticationService

section

variable {settings : AuthSettings} {crypto : Primitives} {c : State} {d : Done Answer PyError}
  {s s' : Store} {userId sessionId : Uuid}

/-- Every session that is bound to a device belongs to the user of the device. -/
def SameUser (s : Store) : Prop :=
  ∀ r ∈ s.sessions, ∀ d ∈ s.devices, r.deviceId = some d.id → r.userId = d.userId

lemma same_user (hc : Run settings crypto c) : SameUser c.state.store := by
  intro r hr d hd hbound
  obtain ⟨h₁, e, h₀, deviceId, hsplit, hdone, hdevice⟩ := session_origin hc hr
  obtain ⟨P⟩ := hc.performed hsplit
  have hspec := performed_spec P
  rw [hdone] at hspec
  obtain ⟨L, -, hL, huser, hid, -⟩ := hspec
  obtain ⟨d', hd', hid', huser', -⟩ := registered_device hc (hL.device.later hsplit)
  have hsame : d.id = d'.id := by
    rw [hid', ← hid]
    exact Option.some.inj (hbound.symm.trans hdevice)
  rw [eq_of_clash hd hd' (.inl hsame), huser', huser]

/-- The rows that belong to other users are the same in both stores. -/
structure Untouched (userId : Uuid) (s s' : Store) : Prop where
  users : ∀ u : UserRow, u.id ≠ userId → (u ∈ s'.users ↔ u ∈ s.users)
  devices : ∀ d : DeviceRow, d.userId ≠ userId → (d ∈ s'.devices ↔ d ∈ s.devices)
  sessions : ∀ r : SessionRow, r.userId ≠ userId → (r ∈ s'.sessions ↔ r ∈ s.sessions)
  tickets : ∀ t : TicketRow, (∃ r ∈ s.sessions, r.id = t.sessionId ∧ r.userId ≠ userId) →
    (t ∈ s'.tickets ↔ t ∈ s.tickets)
  events : ∀ e : EventRow, e.userId ≠ userId → (e ∈ s'.events ↔ e ∈ s.events)

lemma Untouched.rfl : Untouched userId s s :=
  ⟨fun _ _ => .rfl, fun _ _ => .rfl, fun _ _ => .rfl, fun _ _ => .rfl, fun _ _ => .rfl⟩

/-- The call reads, or acts on the user or on the session. -/
def Concerns (userId sessionId : Uuid) : Call → Prop
  | .revokeSession id _ => id = sessionId
  | .revokeDevice id _ _ => id = userId
  | .putWsTicket _ id _ _ => id = sessionId
  | call => call.reads = true

lemma mem_inserted_other {ρ : Type} [Keyed ρ] {t t' : Table ρ} {a r : ρ} (h : t.Inserted r t')
    (hne : a ≠ r) : a ∈ t' ↔ a ∈ t := by
  rw [h.mem a, or_iff_left hne]

/-- The rows that a mapping changes, and what it makes of them, are not among those that satisfy
`p`. -/
lemma mem_mapped_other {ρ : Type} [Keyed ρ] {t t' : Table ρ} {f : ρ → ρ} (h : t.Mapped f t')
    {p : ρ → Prop} (hf : ∀ a ∈ t, f a = a ∨ (¬p a ∧ ¬p (f a))) {a : ρ} (ha : p a) :
    a ∈ t' ↔ a ∈ t := by
  rw [h a]
  constructor
  · rintro ⟨b, hb, rfl⟩
    rcases hf b hb with hsame | hother
    · rwa [hsame]
    · exact absurd ha hother.2
  · intro hmem
    rcases hf a hmem with hsame | hother
    · exact ⟨a, hmem, hsame⟩
    · exact absurd ha hother.1

lemma Effect.untouched (h : Effect d s s') (hd : Concerns userId sessionId d.call) (hs : SameUser s)
    (hu : ∀ r ∈ s.sessions, r.id = sessionId → r.userId = userId) : Untouched userId s s' := by
  cases h with
  | failed | read | missFlow | missGrant | missTicket | keepSession | keepDevice => exact .rfl
  | revokeSession r e now hmem hlive he hm hev =>
    have huser := hu r hmem hd
    refine ⟨fun _ _ => .rfl, fun _ _ => .rfl, fun a ha => ?_, fun _ _ => .rfl, fun a ha => ?_⟩
    · refine mem_mapped_other hm (p := fun a => a.userId ≠ userId) (fun b _ => ?_) ha
      by_cases hbr : b = r
      · rw [if_pos hbr, hbr]
        exact .inr ⟨fun h => h huser, fun h => h huser⟩
      · exact .inl (if_neg hbr)
    · refine mem_inserted_other hev ?_
      rintro rfl
      exact ha (he.2.1.trans huser)
  | revokeDevice d now hmem hlive hm hsm =>
    obtain rfl : d.userId = userId := hd
    refine ⟨fun _ _ => .rfl, fun a ha => ?_, fun a ha => ?_, fun _ _ => .rfl, fun _ _ => .rfl⟩
    · refine mem_mapped_other hm (p := fun a => a.userId ≠ d.userId) (fun b _ => ?_) ha
      by_cases hbd : b = d
      · rw [if_pos hbd, hbd]
        exact .inr ⟨fun h => h rfl, fun h => h rfl⟩
      · exact .inl (if_neg hbd)
    · refine mem_mapped_other hsm (p := fun a => a.userId ≠ d.userId) (fun b hb => ?_) ha
      by_cases hbound : b.deviceId = some d.id ∧ b.revokedAt = none
      · rw [if_pos hbound]
        have huser := hs b hb d hmem hbound.1
        exact .inr ⟨fun h => h huser, fun h => h huser⟩
      · exact .inl (if_neg hbound)
  | putWsTicket r hsession hi =>
    refine ⟨fun _ _ => .rfl, fun _ _ => .rfl, fun _ _ => .rfl, fun t ⟨a, ha, hid, hne⟩ => ?_, fun _ _ => .rfl⟩
    refine mem_inserted_other hi ?_
    rintro rfl
    exact hne (hu a ha (hid.trans hd))
  | _ => cases hd

/-- The principals that a token resolves to are of one user and one session. -/
lemma resolved_same (hc : Run settings crypto c) {i j : ℕ} {token : String} {p p' : Principal}
    (h : Resolved settings crypto (own i c.history) token p)
    (h' : Resolved settings crypto (own j c.history) token p') :
    p'.userId = p.userId ∧ p'.sessionId = p.sessionId := by
  obtain ⟨r, hr, hfp, hid, huser, -⟩ := resolved_session hc h
  obtain ⟨r', hr', hfp', hid', huser', -⟩ := resolved_session hc h'
  obtain rfl := eq_of_clash hr hr' (.inr (hfp.trans hfp'.symm))
  exact ⟨huser'.symm.trans huser, hid'.symm.trans hid⟩

lemma authenticated_concerns {t : Trace} {token : String} {operation : Operation} {call : Call}
    (h : CallSpec settings crypto (.authenticated token operation) t call)
    (hp : ∀ p, Resolved settings crypto t token p → p.userId = userId ∧ p.sessionId = sessionId) :
    Concerns userId sessionId call := by
  cases call with
  | putFlow =>
    obtain ⟨-, F, hq, -⟩ := h
    cases hq
  | consumeFlow =>
    obtain ⟨state, code, hq, -⟩ := h
    cases hq
  | putLoginGrant =>
    obtain ⟨-, L, code, sealing, hq, -⟩ := h
    cases hq
  | consumeLoginGrant =>
    obtain ⟨code, hq, -⟩ := h
    cases hq
  | provisionIdentity | registerDevice | createSession =>
    obtain ⟨L, hq, -⟩ := h
    cases hq
  | revokeSession =>
    obtain ⟨token', p, hq, hres, hid, -⟩ := h
    cases hq
    exact hid.trans (hp p hres).2
  | revokeDevice =>
    obtain ⟨token', p, hq, hres, hid, -⟩ := h
    cases hq
    exact hid.trans (hp p hres).1
  | putWsTicket =>
    obtain ⟨-, token', p, ticket, now, hq, hres, -, -, -, -, -, hid, -⟩ := h
    cases hq
    exact hid.trans (hp p hres).2
  | consumeWsTicket =>
    obtain ⟨ticket, hq, -⟩ := h
    cases hq
  | _ => rfl

/-- No call of an authenticated request changes a row of a user other than the one whose token it
presents. -/
lemma authenticated_untouched (hc : Run settings crypto c) {e : Entry Answer PyError Env World}
    (he : e ∈ c.history) {token : String} {operation : Operation} {program : Async Reply}
    (hthread : c.threads e.thread = some ⟨.authenticated token operation, program⟩) {i : ℕ} {p : Principal}
    (hp : Resolved settings crypto (own i c.history) token p) :
    Untouched p.userId e.before.store e.after.store := by
  obtain ⟨h₁, h₀, hsplit, ⟨P⟩⟩ := hc.performed_mem he
  have hspec := performed_spec P
  rw [P.request_eq hthread] at hspec
  have hconcerns := authenticated_concerns hspec fun p' hp' => resolved_same hc hp (hp'.later hsplit)
  have hsame := same_user P.reachable
  rw [P.state] at hsame
  refine (performed_effect P).untouched hconcerns hsame fun r hr hid => ?_
  -- the session row is still there, and it is the one that the token resolves to
  obtain ⟨r', hr', hcont'⟩ := (performed_effect P).extends.sessions r hr
  obtain ⟨a, ha, hcont⟩ := hc.stable_since (stable_session r) hsplit ⟨r', hr', hcont'⟩
  obtain ⟨b, hb, -, hbid, hbuser, -⟩ := resolved_session hc hp
  obtain rfl := eq_of_clash ha hb (.inl (hcont.id.trans (hid.trans hbid.symm)))
  exact hcont.userId.symm.trans hbuser

lemma mem_listDevices {device : Device} : device ∈ listDevices s userId ↔
    ∃ d ∈ s.devices, d.userId = userId ∧ device = ⟨d.id, d.platform, d.lastSeenAt, d.revokedAt⟩ := by
  simp [listDevices, mem_iff, and_assoc, eq_comm]

lemma revoked_device (h : Effect d s s') {deviceId : Uuid} {now : Timestamp}
    (hd : d = ⟨.revokeDevice userId deviceId now, .ok true⟩) :
    ∃ dev ∈ s.devices, dev.id = deviceId ∧ dev.userId = userId ∧ dev.revokedAt = none := by
  subst hd
  cases h with
  | read _ _ h => cases h
  | revokeDevice dev _ hmem hlive => exact ⟨dev, hmem, rfl, rfl, hlive⟩

/-- In every run a session has the user of its device; no call of an authenticated request changes
a row of another user; a request for the devices lists the user's own ones; and a revocation
succeeds only for an unrevoked device of the user, and raises for every other one. -/
theorem users_isolated (hc : Run settings crypto c) :
    SameUser c.state.store ∧
    (∀ e ∈ c.history, ∀ token operation program,
      c.threads e.thread = some ⟨.authenticated token operation, program⟩ →
      ∀ i p, Resolved settings crypto (own i c.history) token p →
        Untouched p.userId e.before.store e.after.store) ∧
    (∀ i token devices, c.threads i = some ⟨.authenticated token .devices, .ret (.ok (.devices devices))⟩ →
      ∃ p, Resolved settings crypto (own i c.history) token p ∧ ∃ e ∈ c.history, e.thread = i ∧
        ∀ device ∈ devices, ∃ d ∈ e.before.store.devices, d.userId = p.userId ∧ d.id = device.id) ∧
    ∀ i token deviceId reply,
      c.threads i = some ⟨.authenticated token (.revokeDevice deviceId), .ret (.ok reply)⟩ →
      ∃ p, Resolved settings crypto (own i c.history) token p ∧ ∃ e ∈ c.history, e.thread = i ∧
        ∃ d ∈ e.before.store.devices, d.id = deviceId ∧ d.userId = p.userId ∧ d.revokedAt = none := by
  refine ⟨same_user hc, fun e he token operation program hthread i p hp =>
    authenticated_untouched hc he hthread hp, ?_, ?_⟩
  · intro i token devices hthread
    obtain ⟨token', p, hq, hp, hdid⟩ := hc.meets serve_meets hthread
    cases hq
    obtain ⟨e, he, hi, hd⟩ := did_own.mp hdid
    obtain ⟨h₁, h₀, -, ⟨P⟩⟩ := hc.performed_mem he
    refine ⟨p, hp, e, he, hi, fun device hmem => ?_⟩
    obtain rfl := Except.ok.inj (congrArg Prod.fst (performed_answer P hd))
    obtain ⟨d, hdev, huser, rfl⟩ := mem_listDevices.mp hmem
    exact ⟨d, hdev, huser, rfl⟩
  · intro i token deviceId reply hthread
    have hfinish := hc.meets serve_meets hthread
    cases reply with
    | noContent =>
      obtain ⟨token', p, hp, ⟨hq, -⟩ | ⟨deviceId', now, hq, hdid⟩⟩ := hfinish
      · cases hq
      · cases hq
        obtain ⟨e, he, hi, hd⟩ := did_own.mp hdid
        obtain ⟨h₁, h₀, -, ⟨P⟩⟩ := hc.performed_mem he
        exact ⟨p, hp, e, he, hi, revoked_device (performed_effect P) hd⟩
    | authorizationUrl =>
      obtain ⟨deviceKey, platform, hq⟩ := hfinish
      cases hq
    | redirect =>
      obtain ⟨L, hq, -⟩ := hfinish
      cases hq
    | grant =>
      obtain ⟨code, now, encrypted, payload, now', hq, -⟩ := hfinish
      cases hq
    | session | devices =>
      obtain ⟨token', hfinish⟩ := hfinish
      simp at hfinish
    | ticket =>
      obtain ⟨token', channel, p, expiresAt, hq, -⟩ := hfinish
      cases hq
    | accepted =>
      obtain ⟨ticket, channel, now, hq, -⟩ := hfinish
      cases hq

end

open Sample in
theorem users_isolated_deviceRevoked : ∃ p,
    Resolved Sample.settings tables.primitives (own 2 deviceRevoked.history) (token 5) p ∧
    ∃ e ∈ deviceRevoked.history, e.thread = 2 ∧ ∃ d ∈ e.before.store.devices,
      d.id = 20 ∧ d.userId = p.userId ∧ d.revokedAt = none := by
  have hdone : deviceRevoked.result 2 = some (.ok .noContent) ∧ (deviceRevoked.threads 2).map
      Thread.request = some (.authenticated (token 5) (.revokeDevice 20)) := by decide +kernel
  exact (users_isolated run_deviceRevoked).2.2.2 2 (token 5) 20 .noContent
    (Config.threads_of_result hdone.1 hdone.2)

end Pentagon5.Auth
