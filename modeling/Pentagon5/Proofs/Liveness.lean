import Pentagon5.Auth.Deployment
import Pentagon5.Auth.Tokens

/-!
# Which sessions are live

`resolve_session` and `consume_ws_ticket` decide separately whether a session is live. Only the
first looks at the device of the session and at the status of its user. The device makes no
difference: a session that resolved once and is not revoked has a device that is not revoked.
The status does: a ticket is consumed for a user who is no longer active.
-/

namespace Pentagon5.Auth

open Relational Relational.Table Interleaving PostgresAuthRepository AuthenticationService

section

variable {settings : AuthSettings} {crypto : Primitives} {c : State} {d : Done Answer PyError}
  {s s' : Store} {r : SessionRow} {fp channel : String} {now : Timestamp}

/-- A device stays unrevoked, or all sessions that are bound to it are revoked. -/
lemma Effect.deviceAllows (h : Effect d s s') {id : Uuid} (ha : deviceAllows s (some id) = true) :
    deviceAllows s' (some id) = true ∨ ∀ a ∈ s'.sessions, a.deviceId = some id → a.revokedAt ≠ none := by
  rw [deviceAllows_iff] at ha
  simp only [deviceAllows_iff]
  cases h with
  | registerDevice d now hnew _ hi =>
    refine .inl fun a hmem hid => ?_
    rcases (hi.mem a).mp hmem with hold | rfl
    · exact ha a hold hid
    · exact hnew
  | reregisterDevice d platform now _ hm =>
    refine .inl fun a hmem hid => ?_
    obtain ⟨b, hb, rfl⟩ := (hm a).mp hmem
    dsimp only at hid ⊢
    by_cases hbd : b.id = d.id
    · rw [if_pos hbd]
      rfl
    · rw [if_neg hbd] at hid ⊢
      exact ha b hb hid
  | revokeDevice d now hmem _ hm hs =>
    by_cases hd : d.id = id
    · refine .inr fun a ha hdev => ?_
      obtain ⟨b, -, rfl⟩ := (hs a).mp ha
      dsimp only at hdev ⊢
      by_cases hb : b.deviceId = some d.id ∧ b.revokedAt = none
      · simp [hb, revokeRow]
      · rw [if_neg hb] at hdev ⊢
        exact fun hrev => hb ⟨by rw [hdev, hd], hrev⟩
    · refine .inl fun a ha' hid => ?_
      obtain ⟨b, hb, rfl⟩ := (hm a).mp ha'
      dsimp only at hid ⊢
      by_cases hbd : b = d
      · rw [if_pos hbd, hbd] at hid
        exact absurd hid hd
      · rw [if_neg hbd] at hid ⊢
        exact ha b hb hid
  | _ => exact .inl ha

/-- The session `r` is there, and unless it is revoked its device is not revoked either. -/
def Guarded (r : SessionRow) (s : Store) : Prop :=
  ∃ a ∈ s.sessions, a.Continues r ∧ (a.revokedAt = none → PostgresAuthRepository.deviceAllows s a.deviceId = true)

lemma Effect.guarded (h : Effect d s s') (hg : Guarded r s) : Guarded r s' := by
  obtain ⟨a, ha, hcont, hallows⟩ := hg
  obtain ⟨a', ha', hcont'⟩ := h.extends.sessions a ha
  refine ⟨a', ha', hcont'.trans hcont, fun hlive => ?_⟩
  have hlive₀ : a.revokedAt = none := by
    by_contra hrev
    exact hrev ((hcont'.revoked hrev).symm.trans hlive)
  have hbefore := hallows hlive₀
  rw [← hcont'.deviceId] at hbefore
  cases hdev : a'.deviceId with
  | none => rfl
  | some id =>
    rw [hdev] at hbefore
    rcases h.deviceAllows hbefore with hafter | hrevoked
    · exact hafter
    · exact absurd hlive (hrevoked a' ha' hdev)

lemma stable_guarded (r : SessionRow) :
    Stable (system settings crypto) (fun w => Guarded r w.store) := by
  refine stable_of_effect (fun d s s' h => h.guarded) fun w w' hw ⟨a, ha, hcont, hallows⟩ => ?_
  refine ⟨a, by rwa [hw.sessions], hcont, fun hlive => ?_⟩
  have := hallows hlive
  unfold PostgresAuthRepository.deviceAllows at this ⊢
  rwa [hw.devices]

/-- The device of a session that has a ticket is not revoked as long as the session is not. -/
lemma ticket_guarded (hc : Run settings crypto c) {row : TicketRow} (hrow : row ∈ c.state.store.tickets)
    (hr : r ∈ c.state.store.sessions) (hid : r.id = row.sessionId) (hlive : r.revokedAt = none) :
    PostgresAuthRepository.deviceAllows c.state.store r.deviceId = true := by
  obtain ⟨h₁, e, h₀, hsplit, hd⟩ := ticket_origin hc hrow
  obtain ⟨P⟩ := hc.performed hsplit
  have hspec := performed_spec P
  rw [hd] at hspec
  obtain ⟨-, token, p, ticket, issued, -, hres, -, -, -, -, -, hsession, -⟩ := hspec
  rw [← P.history] at hres
  obtain ⟨h₂, e', h₃, now', hsplit', -, hsame, -, hresolved⟩ := resolved_at settings crypto P.reachable hres
  obtain ⟨a, ha, -, -, u, -, -, -, hallows, rfl⟩ := resolveSession_eq_some.mp hresolved
  -- the session resolved when the ticket was issued
  have hguard : Guarded a e'.after.store := by
    rw [hsame]
    exact ⟨a, ha, .rfl, fun _ => hallows⟩
  rw [P.history] at hsplit'
  have hwhole : c.history = (h₁ ++ e :: h₂) ++ e' :: h₃ := by rw [hsplit, hsplit']; simp
  obtain ⟨b, hb, hcont, hnow⟩ := hc.stable_since (stable_guarded a) hwhole hguard
  obtain rfl := eq_of_clash hr hb (.inl (hid.trans (hsession.trans hcont.id.symm)))
  exact hnow hlive

/-- If a ticket is consumed then the token of its session resolves to that session. -/
def Agree (s : Store) (fp channel : String) (now : Timestamp) : Prop :=
  ∀ sessionId, (consumeWsTicket s fp channel now).1 = some sessionId →
    ∀ r ∈ s.sessions, r.id = sessionId →
      ∃ p, resolveSession s r.tokenFingerprint now = some p ∧ p.sessionId = sessionId

def OwnerActive (s : Store) (r : SessionRow) : Prop :=
  ∃ u ∈ s.users, u.id = r.userId ∧ u.status = .active

/-- The conditions agree on a ticket exactly when the user of its session, where the ticket and
the session are live, is active. -/
theorem agree_iff_owner_active (hc : Run settings crypto c) :
    Agree c.state.store fp channel now ↔
      ∀ row ∈ c.state.store.tickets, row.ticketFingerprint = fp → row.channel.text = channel →
        now < row.expiresAt → ∀ r ∈ c.state.store.sessions, r.id = row.sessionId → r.Live now →
          OwnerActive c.state.store r := by
  constructor
  · intro h row hrow hfp hchannel hexp r hr hid hlive
    have hsome : (consumeWsTicket c.state.store fp channel now).1 = some row.sessionId :=
      consumeWsTicket_eq_some.mpr ⟨row, hrow, hfp, hchannel, hexp, rfl, r, hr, hid, hlive⟩
    obtain ⟨p, hp, -⟩ := h _ hsome r hr hid
    obtain ⟨a, ha, hfpa, -, u, hu, huid, hactive, -⟩ := resolveSession_eq_some.mp hp
    obtain rfl := eq_of_clash ha hr (.inr hfpa)
    exact ⟨u, hu, huid, hactive⟩
  · intro h sessionId hsome r hr hid
    obtain ⟨row, hrow, hfp, hchannel, hexp, rfl, a, ha, haid, hlive⟩ := consumeWsTicket_eq_some.mp hsome
    obtain rfl := eq_of_clash ha hr (.inl (haid.trans hid.symm))
    obtain ⟨u, hu, huid, hactive⟩ := h row hrow hfp hchannel hexp a ha haid hlive
    exact ⟨_, resolveSession_eq_some.mpr ⟨a, ha, rfl, hlive, u, hu, huid, hactive,
      ticket_guarded hc hrow ha haid hlive.1, rfl⟩, haid⟩

end

namespace Sample

/-- A ticket is issued in the session of the login. -/
def ticketed : State := loggedIn.serve machine 2 (.authenticated (token 5) (.issueWsTicket "session.events"))
  [clockAt 2000000, unused, bytes 8, clockAt 2000000, uuids 60]

lemma run_ticketed : Sampled ticketed := run_loggedIn.serve 2 _ _

/-- Then the user is disabled. -/
def disabled : State := setStatus .disabled ticketed

lemma run_disabled : Sampled disabled := run_setStatus run_ticketed .disabled

end Sample

open Sample in
theorem agree_ticketed : Agree ticketed.state.store (print (token 8)) "session.events" 3000000 := by
  refine (agree_iff_owner_active run_ticketed).mpr ?_
  have h : ticketed.state.store.sessions.rows.all (fun r =>
      (ticketed.state.store.users.find fun u => u.id = r.userId ∧ u.status = .active).isSome) = true := by
    decide +kernel
  intro row _ _ _ _ r hr _ _
  obtain ⟨u, hu, hp⟩ := find_isSome.mp (List.all_eq_true.mp h r hr)
  exact ⟨u, hu, of_decide_eq_true hp⟩

open Sample in
/-- The ticket of a disabled user is consumed, and the token of the session does not resolve. -/
theorem not_agree_disabled : ¬∀ c : State, Sampled c → ∀ fp channel now,
    Agree c.state.store fp channel now := by
  intro h
  have hdone : (disabled.state.store.sessions.find fun r =>
      (consumeWsTicket disabled.state.store (print (token 8)) "session.events" 3000000).1 = some r.id ∧
      resolveSession disabled.state.store r.tokenFingerprint 3000000 = none).isSome := by decide +kernel
  obtain ⟨r, hr, hp⟩ := find_isSome.mp hdone
  obtain ⟨hconsumed, hnone⟩ := of_decide_eq_true hp
  obtain ⟨p, hsome, -⟩ := h disabled run_disabled _ _ _ _ hconsumed r hr rfl
  cases hnone.symm.trans hsome

end Pentagon5.Auth
