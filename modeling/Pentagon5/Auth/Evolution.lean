import Pentagon5.Auth.Contract
import Pentagon5.Auth.Effect

/-!
# How the store evolves

No call and no administrator removes users, devices, sessions, identities or events, and a
session only ever changes by being revoked, once. `Extends` says so for two stores, and every
predicate that it carries forward holds in all later states of a run. The rows of the other
tables come from the calls that stored them.
-/

namespace Pentagon5.Auth

open Python Relational Relational.Table Interleaving PostgresAuthRepository

/-- `r'` is the row `r` at a later time. -/
structure SessionRow.Continues (r' r : SessionRow) : Prop where
  id : r'.id = r.id
  userId : r'.userId = r.userId
  deviceId : r'.deviceId = r.deviceId
  tokenFingerprint : r'.tokenFingerprint = r.tokenFingerprint
  expiresAt : r'.expiresAt = r.expiresAt
  revoked : r.revokedAt ≠ none → r'.revokedAt = r.revokedAt

lemma SessionRow.Continues.rfl {r : SessionRow} : r.Continues r := ⟨.refl _, .refl _, .refl _, .refl _,
  .refl _, fun _ => .refl _⟩

lemma SessionRow.Continues.trans {a b c : SessionRow} (h : c.Continues b) (h' : b.Continues a) :
    c.Continues a where
  id := h.id.trans h'.id
  userId := h.userId.trans h'.userId
  deviceId := h.deviceId.trans h'.deviceId
  tokenFingerprint := h.tokenFingerprint.trans h'.tokenFingerprint
  expiresAt := h.expiresAt.trans h'.expiresAt
  revoked hr := by
    have hb := h'.revoked hr
    exact (h.revoked (hb ▸ hr)).trans hb

/-- `d'` is the row `d` at a later time. -/
structure DeviceRow.Continues (d' d : DeviceRow) : Prop where
  id : d'.id = d.id
  userId : d'.userId = d.userId
  deviceKey : d'.deviceKey = d.deviceKey

structure Extends (s s' : Store) : Prop where
  users : ∀ u ∈ s.users, ∃ u' ∈ s'.users, u'.id = u.id
  devices : ∀ d ∈ s.devices, ∃ d' ∈ s'.devices, d'.Continues d
  sessions : ∀ r ∈ s.sessions, ∃ r' ∈ s'.sessions, r'.Continues r
  identities : ∀ i ∈ s.identities, i ∈ s'.identities
  events : ∀ e ∈ s.events, e ∈ s'.events

variable {d : Done Answer PyError} {s s' : Store}

lemma revokeRow_continues (now : Timestamp) (p : SessionRow → Bool)
    (hp : ∀ a, p a = true → a.revokedAt = none) (a : SessionRow) :
    SessionRow.Continues (if p a = true then revokeRow now a else a) a := by
  split
  · next h => exact ⟨rfl, rfl, rfl, rfl, rfl, fun hr => absurd (hp a h) hr⟩
  · exact .rfl

lemma Effect.extends (h : Effect d s s') : Extends s s' where
  users u hu := by
    rcases h.users_cases with heq | ⟨_, hi⟩ | ⟨f, hf, hm⟩
    · exact ⟨u, heq ▸ hu, rfl⟩
    · exact ⟨u, hi.old hu, rfl⟩
    · exact ⟨f u, hm.image hu, (hf u).1⟩
  devices d hd := by
    rcases h.devices_cases with heq | ⟨_, -, hi⟩ | ⟨f, hf, hm⟩
    · exact ⟨d, heq ▸ hd, rfl, rfl, rfl⟩
    · exact ⟨d, hi.old hd, rfl, rfl, rfl⟩
    · exact ⟨f d, hm.image hd, (hf d).1, (hf d).2.1, (hf d).2.2⟩
  sessions r hr := by
    rcases h.sessions_cases with heq | ⟨_, _, -, -, -, -, -, hi⟩ | ⟨now, p, hp, hm⟩
    · exact ⟨r, heq ▸ hr, .rfl⟩
    · exact ⟨r, hi.old hr, .rfl⟩
    · exact ⟨_, hm.image hr, revokeRow_continues now p hp r⟩
  identities i hi := by
    rcases h.identities_cases with heq | ⟨_, -, hins⟩
    · exact heq ▸ hi
    · exact hins.old hi
  events e he := by
    rcases h.events_cases with heq | ⟨_, hins⟩
    · exact heq ▸ he
    · exact hins.old he

lemma Administers.extends {w w' : World} (h : Administers w w') : Extends w.store w'.store where
  users u hu := by
    obtain ⟨status, hm⟩ := h.users
    exact ⟨_, hm.image hu, rfl⟩
  devices d hd := ⟨d, by rwa [h.devices], rfl, rfl, rfl⟩
  sessions r hr := ⟨r, by rwa [h.sessions], .rfl⟩
  identities i hi := by rwa [h.identities]
  events e he := by rwa [h.events]

variable {settings : AuthSettings} {crypto : Primitives} {c : State}

/-- A predicate that extensions keep is stable. -/
lemma stable_of_extends {I : Store → Prop} (hI : ∀ s s', Extends s s' → I s → I s') :
    Stable (system settings crypto) (fun w => I w.store) where
  answer ω w call h := hI _ _ (answer_effect ω w call).extends h
  environment _ _ hs h := hI _ _ hs.extends h

/-- A predicate that every effect and every administrator keeps is stable. -/
lemma stable_of_effect {I : Store → Prop} (hI : ∀ d s s', Effect d s s' → I s → I s')
    (ha : ∀ w w', Administers w w' → I w.store → I w'.store) :
    Stable (system settings crypto) (fun w => I w.store) where
  answer ω w call h := hI _ _ _ (answer_effect ω w call) h
  environment w w' hs h := ha w w' hs h

lemma performed_answer {e : Entry Answer PyError Env World} {h₀ : History}
    (P : Performed (system settings crypto) Initial c e h₀) {call : Call}
    {r : Except PyError (Answer call)} (hd : e.done = ⟨call, r⟩) :
    answer e.env e.before call = (r, e.after) := by
  obtain ⟨thread, env, done, before, after⟩ := e
  obtain rfl : done = ⟨call, r⟩ := hd
  exact P.answered

lemma performed_effect {e : Entry Answer PyError Env World} {h₀ : History}
    (P : Performed (system settings crypto) Initial c e h₀) :
    Effect e.done e.before.store e.after.store := by
  have h := answer_effect e.env e.before e.done.call
  rw [performed_answer P rfl] at h
  exact h

lemma performed_spec {e : Entry Answer PyError Env World} {h₀ : History}
    (P : Performed (system settings crypto) Initial c e h₀) :
    CallSpec settings crypto P.request (own e.thread h₀) e.done.call :=
  P.meets serve_meets

lemma did_own {i : ℕ} {h : History} {call : Call} {a : Answer call} :
    Did (own i h) call a ↔ ∃ e ∈ h, e.thread = i ∧ e.done = ⟨call, .ok a⟩ := mem_own

/-- A thread keeps the answers that it received. -/
lemma Did.later {i : ℕ} {h h₁ h₀ : History} {e : Entry Answer PyError Env World}
    (hsplit : h = h₁ ++ e :: h₀) {call : Call} {a : Answer call} (hd : Did (own i h₀) call a) :
    Did (own i h) call a := by
  rw [hsplit, List.append_cons, own_append]
  exact hd.append _

lemma Resolved.later {i : ℕ} {h h₁ h₀ : History} {e : Entry Answer PyError Env World}
    (hsplit : h = h₁ ++ e :: h₀) {token : String} {p : Principal}
    (hr : Resolved settings crypto (own i h₀) token p) : Resolved settings crypto (own i h) token p :=
  hr.imp fun _ h => ⟨h.1.later hsplit, h.2.later hsplit⟩

lemma Start.Drawn.later {i : ℕ} {h h₁ h₀ : History} {e : Entry Answer PyError Env World} {F : Start}
    (hsplit : h = h₁ ++ e :: h₀) (hF : F.Drawn (own i h₀)) : F.Drawn (own i h) :=
  ⟨hF.state.later hsplit, hF.nonce.later hsplit, hF.verifier.later hsplit, hF.sealing.later hsplit,
    hF.now.later hsplit⟩

lemma Login.Registered.later {i : ℕ} {h h₁ h₀ : History} {e : Entry Answer PyError Env World} {L : Login}
    (hsplit : h = h₁ ++ e :: h₀) (hL : L.Registered settings crypto (own i h₀)) :
    L.Registered settings crypto (own i h) := by
  rw [hsplit, List.append_cons, own_append]
  generalize own i (h₁ ++ [e]) = new
  induction new with
  | nil => exact hL
  | cons d new ih => exact ih.cons d

variable (settings crypto) in
/-- The call of a thread that resolved its token, and the store that it found. -/
lemma resolved_at (hc : Run settings crypto c) {i : ℕ} {token : String} {p : Principal}
    (h : Resolved settings crypto (own i c.history) token p) :
    ∃ h₁ e h₀ now, c.history = h₁ ++ e :: h₀ ∧ e.thread = i ∧ e.after = e.before ∧
      Did (own i c.history) .now now ∧
      resolveSession e.before.store (fingerprint settings crypto token) now = some p := by
  obtain ⟨now, hnow, hres⟩ := h
  obtain ⟨e, he, hthread, hd⟩ := did_own.mp hres
  obtain ⟨h₁, h₀, hsplit, ⟨P⟩⟩ := hc.performed_mem he
  have hans := performed_answer P hd
  exact ⟨h₁, e, h₀, now, hsplit, hthread, (congrArg Prod.snd hans).symm, hnow,
    Except.ok.inj (congrArg Prod.fst hans)⟩

/-- The call that created a session. -/
lemma session_origin (hc : Run settings crypto c) {r : SessionRow} (hr : r ∈ c.state.store.sessions) :
    ∃ h₁ e h₀ deviceId, c.history = h₁ ++ e :: h₀ ∧ e.done = ⟨.createSession r.userId deviceId
      r.tokenFingerprint r.expiresAt, .ok r.id⟩ ∧ r.deviceId = some deviceId := by
  obtain ⟨h₁, e, h₀, he, hbefore, a, ha, hcont⟩ := hc.origin
    (I := fun w => ∃ a ∈ w.store.sessions, r.Continues a)
    (fun w hw h => h.elim fun a ha => hw.sessions a ha.1)
    (fun w w' hw ⟨a, ha, hcont⟩ => ⟨a, by rwa [← hw.sessions], hcont⟩) ⟨r, hr, .rfl⟩
  obtain ⟨P⟩ := hc.performed he
  rcases (performed_effect P).sessions_cases with heq | ⟨b, deviceId, hd, hdev, -, -, -, hins⟩ | ⟨now, p, hp, hm⟩
  · exact absurd ⟨a, heq ▸ ha, hcont⟩ hbefore
  · rcases (hins.mem a).mp ha with hold | rfl
    · exact absurd ⟨a, hold, hcont⟩ hbefore
    · refine ⟨h₁, e, h₀, deviceId, he, ?_, hcont.deviceId.trans hdev⟩
      rw [hd, hcont.id, hcont.userId, hcont.tokenFingerprint, hcont.expiresAt]
  · obtain ⟨b, hb, rfl⟩ := (hm a).mp ha
    exact absurd ⟨b, hb, hcont.trans (revokeRow_continues now p hp b)⟩ hbefore

lemma flow_origin (hc : Run settings crypto c) {r : FlowRow} (hr : r ∈ c.state.store.flows) :
    ∃ h₁ e h₀, c.history = h₁ ++ e :: h₀ ∧ e.done = ⟨.putFlow r.stateFingerprint r.encryptedPayload
      r.redirectUri r.expiresAt, .ok ()⟩ := by
  obtain ⟨h₁, e, h₀, he, hbefore, hafter⟩ := hc.origin (I := fun w => r ∈ w.store.flows)
    (fun w hw => hw.flows r) (fun w w' hw h => by rwa [← hw.flows]) hr
  obtain ⟨P⟩ := hc.performed he
  rcases (performed_effect P).flows_cases with heq | ⟨a, hd, hins⟩ | ⟨a, now, -, -, hrem⟩
  · exact absurd (heq ▸ hafter) hbefore
  · rcases (hins.mem r).mp hafter with hold | rfl
    · exact absurd hold hbefore
    · exact ⟨h₁, e, h₀, he, hd⟩
  · exact absurd ((hrem.mem r).mp hafter).1 hbefore

lemma grant_origin (hc : Run settings crypto c) {r : GrantRow} (hr : r ∈ c.state.store.grants) :
    ∃ h₁ e h₀, c.history = h₁ ++ e :: h₀ ∧
      e.done = ⟨.putLoginGrant r.codeFingerprint r.encryptedPayload r.expiresAt, .ok ()⟩ := by
  obtain ⟨h₁, e, h₀, he, hbefore, hafter⟩ := hc.origin (I := fun w => r ∈ w.store.grants)
    (fun w hw => hw.grants r) (fun w w' hw h => by rwa [← hw.grants]) hr
  obtain ⟨P⟩ := hc.performed he
  rcases (performed_effect P).grants_cases with heq | ⟨a, hd, hins⟩ | ⟨a, now, -, -, hrem⟩
  · exact absurd (heq ▸ hafter) hbefore
  · rcases (hins.mem r).mp hafter with hold | rfl
    · exact absurd hold hbefore
    · exact ⟨h₁, e, h₀, he, hd⟩
  · exact absurd ((hrem.mem r).mp hafter).1 hbefore

lemma ticket_origin (hc : Run settings crypto c) {r : TicketRow} (hr : r ∈ c.state.store.tickets) :
    ∃ h₁ e h₀, c.history = h₁ ++ e :: h₀ ∧ e.done = ⟨.putWsTicket r.ticketFingerprint r.sessionId
      r.channel.text r.expiresAt, .ok ()⟩ := by
  obtain ⟨h₁, e, h₀, he, hbefore, hafter⟩ := hc.origin (I := fun w => r ∈ w.store.tickets)
    (fun w hw => hw.tickets r) (fun w w' hw h => by rwa [← hw.tickets]) hr
  obtain ⟨P⟩ := hc.performed he
  rcases (performed_effect P).tickets_cases with heq | ⟨a, hd, -, hins⟩ | ⟨a, now, -, -, -, hrem⟩
  · exact absurd (heq ▸ hafter) hbefore
  · rcases (hins.mem r).mp hafter with hold | rfl
    · exact absurd hold hbefore
    · exact ⟨h₁, e, h₀, he, hd⟩
  · exact absurd ((hrem.mem r).mp hafter).1 hbefore

variable {i : ℕ}

/-- The call that stored a consumed flow. -/
lemma consumed_flow_origin (hc : Run settings crypto c) {fp : String} {now : Timestamp} {flow : Flow}
    (h : Did (own i c.history) (.consumeFlow fp now) (some flow)) :
    ∃ expiresAt h₁ e h₀, now < expiresAt ∧ c.history = h₁ ++ e :: h₀ ∧
      e.done = ⟨.putFlow fp flow.encryptedPayload flow.redirectUri expiresAt, .ok ()⟩ := by
  obtain ⟨e, he, -, hd⟩ := did_own.mp h
  obtain ⟨h₁, h₀, hsplit, ⟨P⟩⟩ := hc.performed_mem he
  have heff := performed_effect P
  rw [hd, ← P.state] at heff
  obtain ⟨r, hr, rfl, hlt, rfl⟩ := heff.flow_found
  obtain ⟨h₂, e₀, h₃, horigin, hd₀⟩ := flow_origin P.reachable hr
  rw [P.history] at horigin
  exact ⟨r.expiresAt, h₁ ++ e :: h₂, e₀, h₃, hlt, by rw [hsplit, horigin]; simp, hd₀⟩

/-- The call that stored a consumed grant. -/
lemma consumed_grant_origin (hc : Run settings crypto c) {fp encrypted : String} {now : Timestamp}
    (h : Did (own i c.history) (.consumeLoginGrant fp now) (some encrypted)) :
    ∃ expiresAt h₁ e h₀, now < expiresAt ∧ c.history = h₁ ++ e :: h₀ ∧
      e.done = ⟨.putLoginGrant fp encrypted expiresAt, .ok ()⟩ := by
  obtain ⟨e, he, -, hd⟩ := did_own.mp h
  obtain ⟨h₁, h₀, hsplit, ⟨P⟩⟩ := hc.performed_mem he
  have heff := performed_effect P
  rw [hd, ← P.state] at heff
  obtain ⟨r, hr, rfl, hlt, rfl⟩ := heff.grant_found
  obtain ⟨h₂, e₀, h₃, horigin, hd₀⟩ := grant_origin P.reachable hr
  rw [P.history] at horigin
  exact ⟨r.expiresAt, h₁ ++ e :: h₂, e₀, h₃, hlt, by rw [hsplit, horigin]; simp, hd₀⟩

lemma stable_session (r : SessionRow) :
    Stable (system settings crypto) (fun w => ∃ a ∈ w.store.sessions, a.Continues r) := by
  refine stable_of_extends (I := fun s => ∃ a ∈ s.sessions, a.Continues r) fun s s' hs ⟨a, ha, hcont⟩ => ?_
  obtain ⟨a', ha', hcont'⟩ := hs.sessions a ha
  exact ⟨a', ha', hcont'.trans hcont⟩

lemma stable_device (userId deviceId : Uuid) (fp : String) :
    Stable (system settings crypto) (fun w => ∃ d ∈ w.store.devices, d.id = deviceId ∧ d.userId = userId ∧
      d.deviceKey = fp) := by
  refine stable_of_extends (I := fun s => ∃ d ∈ s.devices, d.id = deviceId ∧ d.userId = userId ∧
    d.deviceKey = fp) fun s s' hs ⟨d, hd, hid, huser, hkey⟩ => ?_
  obtain ⟨d', hd', hcont⟩ := hs.devices d hd
  exact ⟨d', hd', hcont.id.trans hid, hcont.userId.trans huser, hcont.deviceKey.trans hkey⟩

lemma stable_identity (row : IdentityRow) :
    Stable (system settings crypto) (fun w => row ∈ w.store.identities) :=
  stable_of_extends (I := fun s => row ∈ s.identities) fun _ _ hs h => hs.identities row h

/-- The session that a thread resolved its token to. -/
lemma resolved_session (hc : Run settings crypto c) {token : String} {p : Principal}
    (h : Resolved settings crypto (own i c.history) token p) :
    ∃ r ∈ c.state.store.sessions, r.tokenFingerprint = fingerprint settings crypto token ∧
      r.id = p.sessionId ∧ r.userId = p.userId ∧ r.deviceId = p.deviceId := by
  obtain ⟨h₁, e, h₀, now, hsplit, -, hsame, -, hres⟩ := resolved_at settings crypto hc h
  obtain ⟨r, hr, hfp, -, u, -, -, -, -, rfl⟩ := resolveSession_eq_some.mp hres
  obtain ⟨a, ha, hcont⟩ := hc.stable_since (stable_session r) hsplit ⟨r, by rwa [hsame], .rfl⟩
  exact ⟨a, ha, hcont.tokenFingerprint.trans hfp, hcont.id, hcont.userId, hcont.deviceId⟩

/-- The device that a thread registered. -/
lemma registered_device (hc : Run settings crypto c) {userId deviceId : Uuid} {fp platform : String}
    {now : Timestamp} (h : Did (own i c.history) (.registerDevice userId fp platform now) deviceId) :
    ∃ d ∈ c.state.store.devices, d.id = deviceId ∧ d.userId = userId ∧ d.deviceKey = fp := by
  obtain ⟨e, he, -, hd⟩ := did_own.mp h
  obtain ⟨h₁, h₀, hsplit, ⟨P⟩⟩ := hc.performed_mem he
  refine hc.stable_since (stable_device userId deviceId fp) hsplit ?_
  have heff := performed_effect P
  rw [hd] at heff
  generalize e.before.store = s at heff
  generalize e.after.store = s' at heff ⊢
  cases heff with
  | read _ _ h => cases h
  | reregisterDevice d _ _ hmem hm =>
    refine ⟨_, hm.image hmem, ?_⟩
    rw [if_pos rfl]
    exact ⟨rfl, rfl, rfl⟩
  | registerDevice d _ _ _ hi => exact ⟨d, hi.new, rfl, rfl, rfl⟩

/-- The row that holds the identity that a thread provisioned. -/
lemma provisioned_identity (hc : Run settings crypto c) {identity : Identity} {userId : Uuid}
    (h : Did (own i c.history) (.provisionIdentity identity) userId) :
    ∃ row ∈ c.state.store.identities, row.Holds identity ∧ row.userId = userId := by
  obtain ⟨e, he, -, hd⟩ := did_own.mp h
  obtain ⟨h₁, h₀, hsplit, ⟨P⟩⟩ := hc.performed_mem he
  have heff := performed_effect P
  rw [hd] at heff
  have hafter : ∃ row ∈ e.after.store.identities, row.Holds identity ∧ row.userId = userId := by
    generalize e.before.store = s at heff
    generalize e.after.store = s' at heff ⊢
    cases heff with
    | read _ _ h => cases h
    | createUser _ u row hi hu hs ho hnone husers hids => exact ⟨row, hids.new, hi, ho⟩
    | updateUser _ row hi hmem => exact ⟨row, hmem, hi.holds, rfl⟩
  obtain ⟨row, hrow, hholds, huser⟩ := hafter
  exact ⟨row, hc.stable_since (stable_identity row) hsplit hrow, hholds, huser⟩

end Pentagon5.Auth
