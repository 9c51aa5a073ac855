import Pentagon5.Auth.Deployment
import Pentagon5.Auth.Tokens

/-!
# Accepted WebSocket connections

The permission of a user is checked when a ticket is issued and the channel when it is consumed.
A connection that is accepted goes back to one request that resolved a live session, drew the
ticket and stored it for the channel.
-/

namespace Pentagon5.Auth

open Relational Relational.Table Interleaving PostgresAuthRepository AuthenticationService

section

variable {settings : AuthSettings} {crypto : Primitives} {c : State} {s : Store}

/-- Some role that the user has was granted the permission. -/
def Granted (s : Store) (userId : Uuid) (code : String) : Prop :=
  ∃ roleId, ⟨userId, roleId⟩ ∈ s.userRoles ∧
    ∃ permission ∈ s.permissions, permission.code = code ∧ ⟨roleId, permission.id⟩ ∈ s.rolePermissions

lemma mem_permissionCodes {userId : Uuid} {code : String} :
    code ∈ permissionCodes s userId ↔ Granted s userId code := by
  simp only [permissionCodes, Granted, List.mem_toFinset, List.mem_map, List.mem_filter, List.any_eq_true,
    List.contains_iff_mem, decide_eq_true_eq, mem_iff]
  constructor
  · rintro ⟨permission, ⟨hp, ⟨user, roleId⟩, hur, rfl, hrp⟩, rfl⟩
    exact ⟨roleId, hur, permission, hp, rfl, hrp⟩
  · rintro ⟨roleId, hur, permission, hp, rfl, hrp⟩
    exact ⟨permission, ⟨hp, ⟨userId, roleId⟩, hur, rfl, hrp⟩, rfl⟩

variable (settings crypto) in
/-- Thread `j` was asked for a ticket for the channel with a token that resolved, in the store `s`,
to the live session of `p`, and stored the ticket for that session. -/
structure IssuedTo (c : State) (j : ℕ) (ticket channel token : String) (p : Principal) (s : Store) :
    Prop where
  request : (c.threads j).map Thread.request = some (.authenticated token (.issueWsTicket channel))
  resolved : Resolved settings crypto (own j c.history) token p
  live : ∃ now, Did (own j c.history) .now now ∧
    resolveSession s (fingerprint settings crypto token) now = some p
  found : ∃ e ∈ c.history, e.thread = j ∧ e.before.store = s
  drawn : Did (own j c.history) (.randomToken 32) ticket
  stored : ∃ expiresAt, Did (own j c.history)
    (.putWsTicket (fingerprint settings crypto ticket) p.sessionId channel expiresAt) ()
  permitted : channel = "system.health" → Granted s p.userId "system.health.read"

/-- The request that stored a ticket. -/
lemma ticket_issued (hc : Run settings crypto c) (hideal : Ideal crypto) {ticket : String} {row : TicketRow}
    {h₁ h₀ : History} {e : Entry Answer PyError Env World} (hsplit : c.history = h₁ ++ e :: h₀)
    (hd : e.done = ⟨.putWsTicket row.ticketFingerprint row.sessionId row.channel.text row.expiresAt, .ok ()⟩)
    (hfp : row.ticketFingerprint = fingerprint settings crypto ticket) :
    ∃ token p s, p.sessionId = row.sessionId ∧
      IssuedTo settings crypto c e.thread ticket row.channel.text token p s := by
  obtain ⟨P⟩ := hc.performed hsplit
  have hspec := performed_spec P
  rw [hd] at hspec
  obtain ⟨-, token, p, ticket', now, hq, hres, -, hperm, hdrawn, -, hfp', hsession, -⟩ := hspec
  obtain rfl : ticket = ticket' := fingerprint_injective hideal (hfp.symm.trans hfp')
  obtain ⟨h₂, e', h₃, now', hsplit', hthread, -, hnow, hresolved⟩ :=
    resolved_at settings crypto hc (hres.later hsplit)
  refine ⟨token, p, e'.before.store, hsession.symm, ?_, hres.later hsplit, ⟨now', hnow, hresolved⟩,
    ⟨e', by simp [hsplit'], hthread, rfl⟩, hdrawn.later hsplit, ⟨row.expiresAt, ?_⟩, fun hhealth => ?_⟩
  · rw [P.now, ← hq]
    rfl
  · refine did_own.mpr ⟨e, by simp [hsplit], rfl, ?_⟩
    rw [hd, hfp, hsession]
  · obtain ⟨r, -, -, -, u, -, -, -, -, rfl⟩ := resolveSession_eq_some.mp hresolved
    exact mem_permissionCodes.mp (hperm hhealth)

/-- An accepted connection on a channel has a ticket that a request issued for the same channel
and for the session that the connection gets; that session was live when the request was
authenticated, and for `system.health` its user then had a role with the permission. A user
without roles never gets a `system.health` connection. -/
theorem accepted_provenance (hc : Run settings crypto c) (hideal : Ideal crypto) {i : ℕ}
    {ticket channel : String} {sessionId : Uuid}
    (hthread : c.threads i = some ⟨.websocket ticket channel, .ret (.ok (.accepted sessionId))⟩) :
    (channel = "system.health" ∨ channel = "session.events") ∧
    (∃ j token p s, p.sessionId = sessionId ∧ IssuedTo settings crypto c j ticket channel token p s) ∧
    ∀ r ∈ c.state.store.sessions, r.id = sessionId → channel = "system.health" →
      ∃ e ∈ c.history, ∃ roleId, ⟨r.userId, roleId⟩ ∈ e.before.store.userRoles := by
  obtain ⟨ticket', channel', now, hq, hchannel, -, hdid⟩ := hc.meets serve_meets hthread
  cases hq
  obtain ⟨e, he, -, hd⟩ := did_own.mp hdid
  obtain ⟨h₁, h₀, hsplit, ⟨P⟩⟩ := hc.performed_mem he
  have hconsumed := congrArg Prod.fst (performed_answer P hd)
  obtain ⟨row, hrow, hfp, rfl, -, rfl, -⟩ := consumeWsTicket_eq_some.mp (Except.ok.inj hconsumed)
  rw [← P.state] at hrow
  obtain ⟨h₂, e', h₃, horigin, hput⟩ := ticket_origin P.reachable hrow
  rw [P.history] at horigin
  have hwhole : c.history = (h₁ ++ e :: h₂) ++ e' :: h₃ := by rw [hsplit, horigin]; simp
  obtain ⟨token, p, s, hsession, hissued⟩ := ticket_issued hc hideal hwhole hput hfp
  refine ⟨by simpa [wsChannels] using hchannel, ⟨_, token, p, s, hsession, hissued⟩,
    fun r hr hid hhealth => ?_⟩
  obtain ⟨roleId, hrole, -⟩ := hissued.permitted hhealth
  obtain ⟨e'', he'', -, rfl⟩ := hissued.found
  -- the session of the connection is the one that the token resolved to
  obtain ⟨a, ha, -, haid, hauser, -⟩ := resolved_session hc hissued.resolved
  obtain rfl := eq_of_clash hr ha (.inl (hid.trans (hsession.symm.trans haid.symm)))
  exact ⟨e'', he'', roleId, by rwa [hauser]⟩

end

namespace Sample

/-- An administrator gives the user a role with the permission. -/
def permit (userId : Uuid) (c : State) : State :=
  let store := { c.state.store with
    roles := ⟨[⟨2, "operator"⟩], List.pairwise_singleton _ _⟩
    permissions := ⟨[⟨1, "system.health.read"⟩], List.pairwise_singleton _ _⟩
    userRoles := ⟨[⟨userId, 2⟩], List.pairwise_singleton _ _⟩
    rolePermissions := ⟨[⟨2, 1⟩], List.pairwise_singleton _ _⟩ }
  { c with state.store := store }

lemma run_permit (userId : Uuid) {c : State} (hc : Sampled c) : Sampled (permit userId c) := by
  refine hc.step (.environment _ ⟨⟨UserRow.status, fun a => ?_⟩, rfl, rfl, rfl, rfl, rfl, rfl, rfl, rfl⟩)
  simp

/-- The user opens a connection with a ticket. -/
def connected : State :=
  ((permit 10 loggedIn).serve machine 2 (.authenticated (token 5) (.issueWsTicket "system.health"))
      [clockAt 2000000, unused, bytes 8, clockAt 2000000, uuids 60]).serve machine 3
    (.websocket (token 8) "system.health") [clockAt 3000000, unused]

lemma run_connected : Sampled connected :=
  ((run_permit 10 run_loggedIn).serve 2 _ _).serve 3 _ _

end Sample

open Sample in
theorem accepted_provenance_connected : ∃ j token p s,
    p.sessionId = 30 ∧ IssuedTo Sample.settings tables.primitives connected j (Sample.token 8)
      "system.health" token p s := by
  have hdone : connected.result 3 = some (.ok (.accepted 30)) ∧ (connected.threads 3).map
      Thread.request = some (.websocket (token 8) "system.health") := by decide +kernel
  exact (accepted_provenance run_connected ideal (Config.threads_of_result hdone.1 hdone.2)).2.1

end Pentagon5.Auth
