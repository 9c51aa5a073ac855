import Pentagon5.Auth.System

/-!
# What a call does to the store

`Effect d s s'` lists every way in which a call with its answer can change the store. Facts
about all runs are case analyses over it; nothing after this file unfolds the repository.
-/

namespace Pentagon5.Auth

open Python Relational Relational.Table Interleaving Store PostgresAuthRepository

/-- The calls that only read the store. -/
def Call.reads : Call → Bool
  | .now | .randomToken _ | .urandom _ | .resolveSession .. | .listDevices _ | .cachedMetadata
  | .cacheMetadata _ | .httpGet _ | .httpPost .. | .getUnverifiedHeader _ | .jwtDecode .. => true
  | _ => false

/-- The row has the issuer and the subject of the identity. -/
def IdentityRow.Stores (r : IdentityRow) (identity : Identity) : Prop :=
  r.issuer = identity.issuer ∧ identity.subject = (r.subject : String)

/-- The row has the issuer and the subject of the identity as its columns hold them. -/
def IdentityRow.Holds (r : IdentityRow) (identity : Identity) : Prop :=
  r.issuer.Holds identity.issuer ∧ r.subject.Holds identity.subject

lemma IdentityRow.Stores.holds {r : IdentityRow} {identity : Identity} (h : r.Stores identity) :
    r.Holds identity := by
  obtain ⟨hissuer, hsubject⟩ := h
  unfold IdentityRow.Holds
  rw [← hissuer, hsubject]
  exact ⟨r.issuer.holds_self, r.subject.holds_self⟩

/-- No row has a subject of more than 512 characters. -/
lemma not_stores_of_length {r : IdentityRow} {identity : Identity} (h : 512 < identity.subject.codes.length) :
    ¬r.Stores identity := by
  rintro ⟨-, hsubject⟩
  have hlength := r.subject.property
  rw [hsubject, Str.ofString_codes, List.length_map, String.length_toList] at h
  omega

/-- A user row as `provision_identity` writes it. -/
def UserRow.Describes (u : UserRow) (identity : Identity) : Prop :=
  u.email.Holds identity.email ∧ u.displayName.Holds identity.displayName

/-- A session as the liveness conditions of `consume_ws_ticket` see it. -/
def SessionRow.Live (r : SessionRow) (now : Timestamp) : Prop :=
  r.revokedAt = none ∧ now < r.expiresAt

inductive Effect : Done Answer PyError → Store → Store → Prop where
  | failed {s} (call : Call) (e : PyError) : Effect ⟨call, .error e⟩ s s
  | read {s} (call : Call) (a : Answer call) (h : call.reads) : Effect ⟨call, .ok a⟩ s s
  | putFlow {s flows} (r : FlowRow) (h : s.flows.Inserted r flows) :
      Effect ⟨.putFlow r.stateFingerprint r.encryptedPayload r.redirectUri r.expiresAt, .ok ()⟩
        s { s with flows }
  | consumeFlow {s flows} (r : FlowRow) (now : Timestamp) (ht : now < r.expiresAt)
      (h : s.flows.Removed r flows) :
      Effect ⟨.consumeFlow r.stateFingerprint now, .ok (some ⟨r.encryptedPayload, r.redirectUri⟩)⟩
        s { s with flows }
  | missFlow {s} (fp : String) (now : Timestamp)
      (h : ∀ r ∈ s.flows, r.stateFingerprint = fp → ¬now < r.expiresAt) :
      Effect ⟨.consumeFlow fp now, .ok none⟩ s s
  | putLoginGrant {s grants} (r : GrantRow) (h : s.grants.Inserted r grants) :
      Effect ⟨.putLoginGrant r.codeFingerprint r.encryptedPayload r.expiresAt, .ok ()⟩
        s { s with grants }
  | consumeLoginGrant {s grants} (r : GrantRow) (now : Timestamp) (ht : now < r.expiresAt)
      (h : s.grants.Removed r grants) :
      Effect ⟨.consumeLoginGrant r.codeFingerprint now, .ok (some r.encryptedPayload)⟩
        s { s with grants }
  | missGrant {s} (fp : String) (now : Timestamp)
      (h : ∀ r ∈ s.grants, r.codeFingerprint = fp → ¬now < r.expiresAt) :
      Effect ⟨.consumeLoginGrant fp now, .ok none⟩ s s
  | createUser {s users identities} (identity : Identity) (u : UserRow) (i : IdentityRow)
      (hi : i.Holds identity) (hu : u.Describes identity) (hs : u.status = .active)
      (ho : i.userId = u.id) (hnone : ∀ r ∈ s.identities, ¬r.Stores identity)
      (husers : s.users.Inserted u users) (hids : s.identities.Inserted i identities) :
      Effect ⟨.provisionIdentity identity, .ok u.id⟩ s { s with users, identities }
  | updateUser {s users} (identity : Identity) (i : IdentityRow) (hi : i.Stores identity)
      (hmem : i ∈ s.identities) (email : Varchar 320) (displayName : Varchar 120)
      (husers : s.users.Mapped (fun u => if u.id = i.userId ∧ u.status = .active then
        { u with email, displayName } else u) users)
      (hemail : email.Holds identity.email) (hname : displayName.Holds identity.displayName) :
      Effect ⟨.provisionIdentity identity, .ok i.userId⟩ s { s with users }
  | reregisterDevice {s devices} (d : DeviceRow) (platform : String) (now : Timestamp)
      (hmem : d ∈ s.devices)
      (h : s.devices.Mapped (fun r => if r.id = d.id then reregister platform now r else r) devices) :
      Effect ⟨.registerDevice d.userId d.deviceKey platform now, .ok d.id⟩ s { s with devices }
  | registerDevice {s devices} (d : DeviceRow) (now : Timestamp)
      (hnew : d.revokedAt = none) (hu : ∃ u ∈ s.users, u.id = d.userId)
      (h : s.devices.Inserted d devices) :
      Effect ⟨.registerDevice d.userId d.deviceKey d.platform now, .ok d.id⟩ s { s with devices }
  | createSession {s sessions events} (r : SessionRow) (e : EventRow) (deviceId : Uuid)
      (hd : r.deviceId = some deviceId) (hr : r.revokedAt = none)
      (he : e.sessionId = some r.id ∧ e.userId = r.userId ∧ e.eventType = "session.created")
      (hu : ∃ u ∈ s.users, u.id = r.userId) (hdev : ∃ d ∈ s.devices, d.id = deviceId)
      (h : s.sessions.Inserted r sessions) (hev : s.events.Inserted e events) :
      Effect ⟨.createSession r.userId deviceId r.tokenFingerprint r.expiresAt, .ok r.id⟩
        s { s with sessions, events }
  | revokeSession {s sessions events} (r : SessionRow) (e : EventRow) (now : Timestamp)
      (hmem : r ∈ s.sessions) (hr : r.revokedAt = none)
      (he : e.sessionId = some r.id ∧ e.userId = r.userId ∧ e.eventType = "session.revoked")
      (h : s.sessions.Mapped (fun a => if a = r then revokeRow now a else a) sessions)
      (hev : s.events.Inserted e events) :
      Effect ⟨.revokeSession r.id now, .ok ()⟩ s { s with sessions, events }
  | keepSession {s} (id : Uuid) (now : Timestamp)
      (h : ∀ r ∈ s.sessions, r.id = id → r.revokedAt ≠ none) :
      Effect ⟨.revokeSession id now, .ok ()⟩ s s
  | revokeDevice {s devices sessions} (d : DeviceRow) (now : Timestamp) (hmem : d ∈ s.devices)
      (hd : d.revokedAt = none)
      (h : s.devices.Mapped (fun a => if a = d then revokeDeviceRow now a else a) devices)
      (hs : s.sessions.Mapped (fun a => if a.deviceId = some d.id ∧ a.revokedAt = none then
        revokeRow now a else a) sessions) :
      Effect ⟨.revokeDevice d.userId d.id now, .ok true⟩ s { s with devices, sessions }
  | keepDevice {s} (userId deviceId : Uuid) (now : Timestamp)
      (h : ∀ d ∈ s.devices, d.id = deviceId → d.userId = userId → d.revokedAt ≠ none) :
      Effect ⟨.revokeDevice userId deviceId now, .ok false⟩ s s
  | putWsTicket {s tickets} (r : TicketRow) (hs : ∃ a ∈ s.sessions, a.id = r.sessionId)
      (h : s.tickets.Inserted r tickets) :
      Effect ⟨.putWsTicket r.ticketFingerprint r.sessionId r.channel.text r.expiresAt, .ok ()⟩
        s { s with tickets }
  | consumeWsTicket {s tickets} (r : TicketRow) (now : Timestamp) (ht : now < r.expiresAt)
      (hs : ∃ a ∈ s.sessions, a.id = r.sessionId ∧ a.Live now)
      (h : s.tickets.Removed r tickets) :
      Effect ⟨.consumeWsTicket r.ticketFingerprint r.channel.text now, .ok (some r.sessionId)⟩
        s { s with tickets }
  | missTicket {s} (fp channel : String) (now : Timestamp)
      (h : ∀ r ∈ s.tickets, r.ticketFingerprint = fp → r.channel.text = channel →
        now < r.expiresAt → ∀ a ∈ s.sessions, a.id = r.sessionId → ¬a.Live now) :
      Effect ⟨.consumeWsTicket fp channel now, .ok none⟩ s s

variable {uuid7 : ℕ → Uuid} {s s' : Store}

lemma putFlow_effect {fp payload uri : String} {expiresAt : Timestamp} {u : Unit}
    (h : putFlow uuid7 s fp payload uri expiresAt = .ok (u, s')) :
    Effect ⟨.putFlow fp payload uri expiresAt, .ok ()⟩ s s' := by
  obtain ⟨flows, hi, h⟩ := bind_ok h
  cases h
  exact .putFlow _ (insertRow_ok hi)

lemma consumeFlow_effect (s : Store) (fp : String) (now : Timestamp) :
    Effect ⟨.consumeFlow fp now, .ok (consumeFlow s fp now).1⟩ s (consumeFlow s fp now).2 := by
  unfold consumeFlow
  dsimp only
  cases hf : s.flows.find fun r => decide (r.stateFingerprint = fp ∧ now < r.expiresAt) with
  | none =>
    have hnone := find_eq_none.mp hf
    rw [delete_of_forall hnone]
    exact .missFlow fp now fun r hr hfp ht => by simpa [hfp, ht] using hnone r hr
  | some r =>
    obtain ⟨hr, hp⟩ := find_eq_some hf
    obtain ⟨rfl, ht⟩ : r.stateFingerprint = fp ∧ now < r.expiresAt := by simpa using hp
    refine .consumeFlow r now ht (removed_of_delete hr hp fun a _ ha => .inr ?_)
    simp only [decide_eq_true_eq] at ha
    exact ha.1

lemma putLoginGrant_effect {fp payload : String} {expiresAt : Timestamp} {u : Unit}
    (h : putLoginGrant uuid7 s fp payload expiresAt = .ok (u, s')) :
    Effect ⟨.putLoginGrant fp payload expiresAt, .ok ()⟩ s s' := by
  obtain ⟨grants, hi, h⟩ := bind_ok h
  cases h
  exact .putLoginGrant _ (insertRow_ok hi)

lemma consumeLoginGrant_effect (s : Store) (fp : String) (now : Timestamp) :
    Effect ⟨.consumeLoginGrant fp now, .ok (consumeLoginGrant s fp now).1⟩ s
      (consumeLoginGrant s fp now).2 := by
  unfold consumeLoginGrant
  dsimp only
  cases hf : s.grants.find fun r => decide (r.codeFingerprint = fp ∧ now < r.expiresAt) with
  | none =>
    have hnone := find_eq_none.mp hf
    rw [delete_of_forall hnone]
    exact .missGrant fp now fun r hr hfp ht => by simpa [hfp, ht] using hnone r hr
  | some r =>
    obtain ⟨hr, hp⟩ := find_eq_some hf
    obtain ⟨rfl, ht⟩ : r.codeFingerprint = fp ∧ now < r.expiresAt := by simpa using hp
    refine .consumeLoginGrant r now ht (removed_of_delete hr hp fun a _ ha => .inr ?_)
    simp only [decide_eq_true_eq] at ha
    exact ha.1

lemma column_holds {n : ℕ} {text : Str} {t : String} {value : Varchar n} (h : parameter text = .ok t)
    (hvalue : varchar n t = .ok value) : value.Holds text := by
  rw [parameter_ok h]
  exact varchar_eq_ok.mp hvalue

lemma insertUser_ok {users users' : Table UserRow} {id : Uuid} {identity : Identity}
    (h : insertUser users id identity = .ok users') : ∃ u : UserRow, u.id = id ∧
      u.Describes identity ∧ u.status = .active ∧ users.Inserted u users' := by
  obtain ⟨email, hemail, h⟩ := bind_ok h
  obtain ⟨displayName, hname, h⟩ := bind_ok h
  obtain ⟨emailValue, hemailValue, h⟩ := bind_ok h
  obtain ⟨nameValue, hnameValue, h⟩ := bind_ok h
  exact ⟨⟨id, emailValue, nameValue, .active⟩, rfl,
    ⟨column_holds hemail hemailValue, column_holds hname hnameValue⟩, rfl, insertRow_ok h⟩

lemma insertIdentity_ok {identities identities' : Table IdentityRow} {id userId : Uuid}
    {identity : Identity} (h : insertIdentity identities id userId identity = .ok identities') :
    ∃ i : IdentityRow, i.userId = userId ∧ i.Holds identity ∧ identities.Inserted i identities' := by
  obtain ⟨subject, hsubject, h⟩ := bind_ok h
  obtain ⟨issuerValue, hissuerValue, h⟩ := bind_ok h
  obtain ⟨subjectValue, hsubjectValue, h⟩ := bind_ok h
  exact ⟨⟨id, userId, issuerValue, subjectValue⟩, rfl,
    ⟨varchar_eq_ok.mp hissuerValue, column_holds hsubject hsubjectValue⟩, insertRow_ok h⟩

lemma updateUser_ok {users users' : Table UserRow} {id : Uuid} {identity : Identity}
    (h : updateUser users id identity = .ok users') : ∃ (email : Varchar 320) (displayName : Varchar 120),
      users.Mapped (fun u => if u.id = id ∧ u.status = .active then
        { u with email, displayName } else u) users' ∧
      email.Holds identity.email ∧ displayName.Holds identity.displayName := by
  obtain ⟨email, hemail, h⟩ := bind_ok h
  obtain ⟨displayName, hname, h⟩ := bind_ok h
  obtain ⟨emailValue, hemailValue, h⟩ := bind_ok h
  obtain ⟨nameValue, hnameValue, h⟩ := bind_ok h
  split at h
  · next hm =>
    cases h
    exact ⟨emailValue, nameValue, by simpa using mapped_tryModify hm, column_holds hemail hemailValue,
      column_holds hname hnameValue⟩
  · cases h

lemma selectIdentity_none {identities : Table IdentityRow} {identity : Identity}
    (h : selectIdentity identities identity = .ok none) :
    ∀ r ∈ identities, ¬r.Stores identity := by
  obtain ⟨subject, hsubject, h⟩ := bind_ok h
  intro r hr ⟨hissuer, hsub⟩
  have := find_eq_none.mp (Option.map_eq_none_iff.mp (Except.ok.inj h)) r hr
  rw [parameter_ok hsubject, Str.ofString_inj] at hsub
  simp [hissuer, hsub] at this

lemma selectIdentity_some {identities : Table IdentityRow} {identity : Identity} {userId : Uuid}
    (h : selectIdentity identities identity = .ok (some userId)) :
    ∃ i ∈ identities, i.Stores identity ∧ i.userId = userId := by
  obtain ⟨subject, hsubject, h⟩ := bind_ok h
  obtain ⟨i, hi, rfl⟩ := Option.map_eq_some_iff.mp (Except.ok.inj h)
  obtain ⟨hmem, hp⟩ := find_eq_some hi
  obtain ⟨hissuer, rfl⟩ : i.issuer = identity.issuer ∧ i.subject = subject := by simpa using hp
  exact ⟨i, hmem, ⟨hissuer, parameter_ok hsubject⟩, rfl⟩

lemma provisionIdentity_effect {identity : Identity} {userId : Uuid}
    (h : provisionIdentity uuid7 s identity = .ok (userId, s')) :
    Effect ⟨.provisionIdentity identity, .ok userId⟩ s s' := by
  obtain ⟨existing, hsel, h⟩ := bind_ok h
  cases existing with
  | none =>
    obtain ⟨users, hu, h⟩ := bind_ok h
    obtain ⟨identities, hi, h⟩ := bind_ok h
    cases h
    obtain ⟨u, hid, hdesc, hstatus, husers⟩ := insertUser_ok hu
    obtain ⟨i, howner, hholds, hids⟩ := insertIdentity_ok hi
    rw [← hid] at howner ⊢
    exact .createUser identity u i hholds hdesc hstatus howner (selectIdentity_none hsel) husers hids
  | some userId =>
    obtain ⟨users, hu, h⟩ := bind_ok h
    cases h
    obtain ⟨i, hmem, hstores, rfl⟩ := selectIdentity_some hsel
    obtain ⟨email, displayName, husers, hemail, hname⟩ := updateUser_ok hu
    exact .updateUser identity i hstores hmem email displayName husers hemail hname

lemma registerDevice_effect {createdAt now : Timestamp} {userId deviceId : Uuid}
    {fp platform : String}
    (h : registerDevice uuid7 createdAt s userId fp platform now = .ok (deviceId, s')) :
    Effect ⟨.registerDevice userId fp platform now, .ok deviceId⟩ s s' := by
  unfold registerDevice at h
  split at h
  · next d hd =>
    cases h
    obtain ⟨hmem, hp⟩ := find_eq_some hd
    obtain ⟨rfl, rfl⟩ : d.userId = userId ∧ d.deviceKey = fp := by simpa [registeredAs] using hp
    refine .reregisterDevice d platform now hmem
      ((mapped_modify (keepsKeys_reregister platform now)).congr fun a ha => ?_)
    have : registeredAs d.userId d.deviceKey a = true ↔ a.id = d.id := by
      constructor
      · intro hreg
        rw [eq_of_clash ha hmem (.inr (by simpa [registeredAs] using hreg))]
      · intro hid
        rw [eq_of_clash ha hmem (.inl hid)]
        exact hp
    simp only [this]
  · obtain ⟨_, hu, h⟩ := bind_ok h
    obtain ⟨devices, hi, h⟩ := bind_ok h
    cases h
    exact .registerDevice ⟨uuid7 0, userId, fp, platform, some now, none, createdAt⟩ now rfl
      (by simpa using references_ok hu) (insertRow_ok hi)

lemma event_ok {id sessionId userId : Uuid} {eventType : String}
    (h : event id s sessionId userId eventType = .ok s') : ∃ (e : EventRow) (events : Table EventRow),
      (e.sessionId = some sessionId ∧ e.userId = userId ∧ e.eventType = eventType) ∧
        s.events.Inserted e events ∧ s' = { s with events } := by
  obtain ⟨-, -, h⟩ := bind_ok h
  obtain ⟨-, -, h⟩ := bind_ok h
  obtain ⟨events, hi, h⟩ := bind_ok h
  cases h
  exact ⟨_, events, ⟨rfl, rfl, rfl⟩, insertRow_ok hi, rfl⟩

lemma createSession_effect {userId deviceId sessionId : Uuid} {fp : String} {expiresAt : Timestamp}
    (h : createSession uuid7 s userId deviceId fp expiresAt = .ok (sessionId, s')) :
    Effect ⟨.createSession userId deviceId fp expiresAt, .ok sessionId⟩ s s' := by
  obtain ⟨_, hu, h⟩ := bind_ok h
  obtain ⟨_, hd, h⟩ := bind_ok h
  obtain ⟨sessions, hi, h⟩ := bind_ok h
  obtain ⟨s₁, he, h⟩ := bind_ok h
  cases h
  obtain ⟨e, events, hprops, hev, rfl⟩ := event_ok he
  exact .createSession ⟨uuid7 0, userId, some deviceId, fp, expiresAt, none⟩ e deviceId rfl rfl hprops
    (by simpa using references_ok hu) (by simpa using references_ok hd) (insertRow_ok hi) hev

lemma revokeSession_effect {sessionId : Uuid} {now : Timestamp} {u : Unit}
    (h : revokeSession uuid7 s sessionId now = .ok (u, s')) :
    Effect ⟨.revokeSession sessionId now, .ok ()⟩ s s' := by
  unfold revokeSession at h
  dsimp only at h
  split at h
  · next hnone =>
    cases h
    exact .keepSession sessionId now fun r hr hid hrev => by
      simpa [hid, hrev] using find_eq_none.mp hnone r hr
  · next r hr =>
    obtain ⟨s₁, he, h⟩ := bind_ok h
    cases h
    obtain ⟨hmem, hp⟩ := find_eq_some hr
    obtain ⟨rfl, hrev⟩ : r.id = sessionId ∧ r.revokedAt = none := by simpa using hp
    obtain ⟨e, events, hprops, hev, rfl⟩ := event_ok he
    refine .revokeSession r e now hmem hrev hprops
      ((mapped_modify (keepsKeys_revokeRow now)).congr fun a ha => ?_) hev
    have : a.id = r.id ∧ a.revokedAt = none ↔ a = r :=
      ⟨fun h => eq_of_clash ha hmem (.inl h.1), fun h => by rw [h]; exact ⟨rfl, hrev⟩⟩
    simp only [decide_eq_true_eq, this]

lemma revokeDevice_effect (s : Store) (userId deviceId : Uuid) (now : Timestamp) :
    Effect ⟨.revokeDevice userId deviceId now, .ok (revokeDevice s userId deviceId now).1⟩ s
      (revokeDevice s userId deviceId now).2 := by
  unfold revokeDevice
  dsimp only
  split
  · next hsome =>
    obtain ⟨d, hmem, hp⟩ := find_isSome.mp hsome
    obtain ⟨rfl, rfl, hrev⟩ : d.id = deviceId ∧ d.userId = userId ∧ d.revokedAt = none := by
      simpa using hp
    refine .revokeDevice d now hmem hrev
      ((mapped_modify (keepsKeys_revokeDeviceRow now)).congr fun a ha => ?_)
      ((mapped_modify (keepsKeys_revokeRow now)).congr fun a _ => by simp)
    have : a.id = d.id ∧ a.userId = d.userId ∧ a.revokedAt = none ↔ a = d :=
      ⟨fun h => eq_of_clash ha hmem (.inl h.1), fun h => by rw [h]; exact ⟨rfl, rfl, hrev⟩⟩
    simp only [decide_eq_true_eq, this]
  · next hnone =>
    refine .keepDevice userId deviceId now fun d hd hid huser hrev => hnone ?_
    exact find_isSome.mpr ⟨d, hd, by simp [hid, huser, hrev]⟩

lemma putWsTicket_effect {fp channel : String} {sessionId : Uuid} {expiresAt : Timestamp} {u : Unit}
    (h : putWsTicket uuid7 s fp sessionId channel expiresAt = .ok (u, s')) :
    Effect ⟨.putWsTicket fp sessionId channel expiresAt, .ok ()⟩ s s' := by
  unfold putWsTicket at h
  split at h
  · cases h
  · next c hc =>
    obtain ⟨_, hs, h⟩ := bind_ok h
    obtain ⟨tickets, hi, h⟩ := bind_ok h
    cases h
    obtain rfl := Channel.ofText_eq_some.mp hc
    exact .putWsTicket ⟨uuid7 0, fp, sessionId, c, expiresAt⟩ (by simpa using references_ok hs)
      (insertRow_ok hi)

lemma consumeWsTicket_effect (s : Store) (fp channel : String) (now : Timestamp) :
    Effect ⟨.consumeWsTicket fp channel now, .ok (consumeWsTicket s fp channel now).1⟩ s
      (consumeWsTicket s fp channel now).2 := by
  have hlive : ∀ id, (s.sessions.find fun r =>
      decide (r.id = id ∧ r.revokedAt = none ∧ now < r.expiresAt)).isSome ↔
        ∃ a ∈ s.sessions, a.id = id ∧ a.Live now := by
    intro id
    simp [find_isSome, SessionRow.Live]
  unfold consumeWsTicket
  dsimp only
  cases hf : s.tickets.find fun r => decide (r.ticketFingerprint = fp ∧ r.channel.text = channel ∧
      now < r.expiresAt ∧ (s.sessions.find fun a =>
        decide (a.id = r.sessionId ∧ a.revokedAt = none ∧ now < a.expiresAt)).isSome) with
  | none =>
    have hnone := find_eq_none.mp hf
    rw [delete_of_forall hnone]
    refine .missTicket fp channel now fun r hr hfp hch ht a ha hid hl => ?_
    have := hnone r hr
    simp only [hlive, decide_eq_false_iff_not] at this
    exact this ⟨hfp, hch, ht, a, ha, hid, hl⟩
  | some r =>
    obtain ⟨hr, hp⟩ := find_eq_some hf
    simp only [hlive, decide_eq_true_eq] at hp
    obtain ⟨rfl, rfl, ht, hs⟩ := hp
    refine .consumeWsTicket r now ht hs (removed_of_delete hr (find_eq_some hf).2
      fun a _ ha => .inr ?_)
    simp only [decide_eq_true_eq] at ha
    exact ha.1

lemma transact_effect {call : Call} {w : World} {r : Except PyError (Answer call × Store)}
    (h : ∀ a s', r = .ok (a, s') → Effect ⟨call, .ok a⟩ w.store s') :
    Effect ⟨call, (w.transact r).1⟩ w.store (w.transact r).2.store := by
  cases r with
  | ok r => exact h r.1 r.2 rfl
  | error e => exact .failed call e

lemma read_effect {call : Call} {r : Except PyError (Answer call)} (h : call.reads) :
    Effect ⟨call, r⟩ s s := by
  cases r with
  | ok a => exact .read call a h
  | error e => exact .failed call e

/-- Every call has one of the listed effects. -/
theorem answer_effect (ω : Env) (w : World) (call : Call) :
    Effect ⟨call, (answer ω w call).1⟩ w.store (answer ω w call).2.store := by
  cases call with
  | putFlow => exact transact_effect fun _ _ h => putFlow_effect h
  | consumeFlow fp now => exact consumeFlow_effect w.store fp now
  | putLoginGrant => exact transact_effect fun _ _ h => putLoginGrant_effect h
  | consumeLoginGrant fp now => exact consumeLoginGrant_effect w.store fp now
  | provisionIdentity => exact transact_effect fun _ _ h => provisionIdentity_effect h
  | registerDevice => exact transact_effect fun _ _ h => registerDevice_effect h
  | createSession => exact transact_effect fun _ _ h => createSession_effect h
  | revokeSession => exact transact_effect fun _ _ h => revokeSession_effect h
  | revokeDevice userId deviceId now => exact revokeDevice_effect w.store userId deviceId now
  | putWsTicket => exact transact_effect fun _ _ h => putWsTicket_effect h
  | consumeWsTicket fp channel now => exact consumeWsTicket_effect w.store fp channel now
  | now | randomToken | urandom | resolveSession | listDevices | cachedMetadata | cacheMetadata
  | httpGet | httpPost | getUnverifiedHeader | jwtDecode => exact read_effect rfl

/-- The calls that never raise. -/
def Call.infallible : Call → Bool
  | .now | .randomToken _ | .urandom _ | .consumeFlow .. | .consumeLoginGrant ..
  | .resolveSession .. | .listDevices _ | .revokeDevice .. | .consumeWsTicket .. | .cachedMetadata
  | .cacheMetadata _ => true
  | _ => false

lemma answer_infallible {call : Call} (h : call.infallible = true) (ω : Env) (w : World) (e : PyError) :
    (answer ω w call).1 ≠ .error e := by
  cases call <;> first | exact Bool.noConfusion h | exact fun h => nomatch h

/-- The row and the user that make a token resolve. -/
lemma resolveSession_eq_some {fp : String} {now : Timestamp} {p : Principal} :
    resolveSession s fp now = some p ↔ ∃ r ∈ s.sessions, r.tokenFingerprint = fp ∧ r.Live now ∧
      ∃ u ∈ s.users, u.id = r.userId ∧ u.status = .active ∧ deviceAllows s r.deviceId = true ∧
        p = ⟨r.userId, r.id, r.deviceId, u.email, u.displayName, roleNames s r.userId,
          permissionCodes s r.userId, r.expiresAt⟩ := by
  constructor
  · intro h
    obtain ⟨r, hr, h⟩ := Option.bind_eq_some_iff.mp h
    obtain ⟨u, hu, h⟩ := Option.bind_eq_some_iff.mp h
    obtain ⟨hmem, hp⟩ := find_eq_some hr
    obtain ⟨humem, hup⟩ := find_eq_some hu
    simp only [decide_eq_true_eq] at hp hup
    split at h
    · next hdev =>
      exact ⟨r, hmem, hp.1, hp.2, u, humem, hup.1, hup.2, hdev, (Option.some.inj h).symm⟩
    · cases h
  · rintro ⟨r, hmem, rfl, ⟨hrev, ht⟩, u, humem, hid, hact, hdev, rfl⟩
    have hr := find_of_mem (t := s.sessions)
      (p := fun a => decide (a.tokenFingerprint = r.tokenFingerprint ∧ a.revokedAt = none ∧
        now < a.expiresAt)) hmem (by simp [hrev, ht]) fun a _ ha => .inr (by simp at ha; exact ha.1)
    have hu := find_of_mem (t := s.users)
      (p := fun a => decide (a.id = r.userId ∧ a.status = .active)) humem (by simp [hid, hact])
      fun a _ ha => .inl (by simp at ha; exact ha.1.trans hid.symm)
    simp only [resolveSession, hr, hu, Option.bind_eq_bind, Option.bind_some, hdev, if_true]

lemma deviceAllows_iff {deviceId : Uuid} : deviceAllows s (some deviceId) = true ↔
    ∀ d ∈ s.devices, d.id = deviceId → d.revokedAt = none := by
  unfold deviceAllows
  cases h : s.devices.find fun d => decide (d.id = deviceId) with
  | none =>
    have hnone := find_eq_none.mp h
    simp only [Option.bind_some, h, true_iff]
    intro d hd hid
    simp at hnone
    exact absurd hid (hnone d hd)
  | some d =>
    obtain ⟨hmem, hp⟩ := find_eq_some h
    obtain rfl : d.id = deviceId := by simpa using hp
    simp only [Option.bind_some, h, Option.isNone_iff_eq_none]
    exact ⟨fun hrev a ha hid => by rw [eq_of_clash ha hmem (.inl hid)]; exact hrev,
      fun hall => hall d hmem rfl⟩

/-- The row and the session that let a ticket be consumed. -/
lemma consumeWsTicket_eq_some {fp channel : String} {now : Timestamp} {sessionId : Uuid} :
    (consumeWsTicket s fp channel now).1 = some sessionId ↔ ∃ r ∈ s.tickets,
      r.ticketFingerprint = fp ∧ r.channel.text = channel ∧ now < r.expiresAt ∧
      r.sessionId = sessionId ∧ ∃ a ∈ s.sessions, a.id = sessionId ∧ a.Live now := by
  constructor
  · intro h
    have he := consumeWsTicket_effect s fp channel now
    rw [h] at he
    generalize (consumeWsTicket s fp channel now).2 = s' at he
    cases he with
    | read _ _ h => cases h
    | consumeWsTicket r _ ht hs hrem => exact ⟨r, hrem.old, rfl, rfl, ht, rfl, hs⟩
  · rintro ⟨r, hr, rfl, rfl, ht, rfl, a, ha, hid, hlive⟩
    have he := consumeWsTicket_effect s r.ticketFingerprint r.channel.text now
    generalize PostgresAuthRepository.consumeWsTicket s r.ticketFingerprint r.channel.text now = result
      at he ⊢
    obtain ⟨found, s'⟩ := result
    generalize hfp : r.ticketFingerprint = fp at he
    generalize hchannel : r.channel.text = channel at he
    cases he with
    | read _ _ h => cases h
    | consumeWsTicket b _ _ _ hrem => rw [eq_of_clash hrem.old hr (.inr hfp.symm)]
    | missTicket _ _ _ hno => exact absurd hlive (hno r hr hfp hchannel ht a ha hid)

/-- The row that a consumed flow had. -/
lemma Effect.flow_found {fp : String} {now : Timestamp} {flow : Flow}
    (h : Effect ⟨.consumeFlow fp now, .ok (some flow)⟩ s s') : ∃ r ∈ s.flows,
      r.stateFingerprint = fp ∧ now < r.expiresAt ∧ flow = ⟨r.encryptedPayload, r.redirectUri⟩ := by
  cases h with
  | read _ _ h => cases h
  | consumeFlow r _ ht hr => exact ⟨r, hr.old, rfl, ht, rfl⟩

/-- The row that a consumed grant had. -/
lemma Effect.grant_found {fp encrypted : String} {now : Timestamp}
    (h : Effect ⟨.consumeLoginGrant fp now, .ok (some encrypted)⟩ s s') : ∃ r ∈ s.grants,
      r.codeFingerprint = fp ∧ now < r.expiresAt ∧ encrypted = r.encryptedPayload := by
  cases h with
  | read _ _ h => cases h
  | consumeLoginGrant r _ ht hr => exact ⟨r, hr.old, rfl, ht, rfl⟩

namespace Effect

variable {d : Done Answer PyError}

lemma flows_cases (h : Effect d s s') : s'.flows = s.flows ∨
    (∃ r : FlowRow, d = ⟨.putFlow r.stateFingerprint r.encryptedPayload r.redirectUri r.expiresAt,
      .ok ()⟩ ∧ s.flows.Inserted r s'.flows) ∨
    ∃ (r : FlowRow) (now : Timestamp), d = ⟨.consumeFlow r.stateFingerprint now,
      .ok (some ⟨r.encryptedPayload, r.redirectUri⟩)⟩ ∧ now < r.expiresAt ∧
      s.flows.Removed r s'.flows := by
  cases h
  case putFlow r h => exact .inr (.inl ⟨r, rfl, h⟩)
  case consumeFlow r now ht h => exact .inr (.inr ⟨r, now, rfl, ht, h⟩)
  all_goals exact .inl rfl

lemma grants_cases (h : Effect d s s') : s'.grants = s.grants ∨
    (∃ r : GrantRow, d = ⟨.putLoginGrant r.codeFingerprint r.encryptedPayload r.expiresAt, .ok ()⟩ ∧
      s.grants.Inserted r s'.grants) ∨
    ∃ (r : GrantRow) (now : Timestamp), d = ⟨.consumeLoginGrant r.codeFingerprint now,
      .ok (some r.encryptedPayload)⟩ ∧ now < r.expiresAt ∧ s.grants.Removed r s'.grants := by
  cases h
  case putLoginGrant r h => exact .inr (.inl ⟨r, rfl, h⟩)
  case consumeLoginGrant r now ht h => exact .inr (.inr ⟨r, now, rfl, ht, h⟩)
  all_goals exact .inl rfl

lemma tickets_cases (h : Effect d s s') : s'.tickets = s.tickets ∨
    (∃ r : TicketRow, d = ⟨.putWsTicket r.ticketFingerprint r.sessionId r.channel.text r.expiresAt,
      .ok ()⟩ ∧ (∃ a ∈ s.sessions, a.id = r.sessionId) ∧ s.tickets.Inserted r s'.tickets) ∨
    ∃ (r : TicketRow) (now : Timestamp), d = ⟨.consumeWsTicket r.ticketFingerprint r.channel.text now,
      .ok (some r.sessionId)⟩ ∧ now < r.expiresAt ∧
      (∃ a ∈ s.sessions, a.id = r.sessionId ∧ a.Live now) ∧ s.tickets.Removed r s'.tickets := by
  cases h
  case putWsTicket r hs h => exact .inr (.inl ⟨r, rfl, hs, h⟩)
  case consumeWsTicket r now ht hs h => exact .inr (.inr ⟨r, now, rfl, ht, hs, h⟩)
  all_goals exact .inl rfl

/-- Sessions are created, and those of a set of unrevoked ones are revoked together. -/
lemma sessions_cases (h : Effect d s s') : s'.sessions = s.sessions ∨
    (∃ (r : SessionRow) (deviceId : Uuid), d = ⟨.createSession r.userId deviceId r.tokenFingerprint
      r.expiresAt, .ok r.id⟩ ∧ r.deviceId = some deviceId ∧ r.revokedAt = none ∧
      (∃ u ∈ s.users, u.id = r.userId) ∧ (∃ d ∈ s.devices, d.id = deviceId) ∧
      s.sessions.Inserted r s'.sessions) ∨
    ∃ (now : Timestamp) (p : SessionRow → Bool), (∀ a, p a = true → a.revokedAt = none) ∧
      s.sessions.Mapped (fun a => if p a = true then revokeRow now a else a) s'.sessions := by
  cases h
  case createSession r e deviceId hd hr he hu hdev h hev =>
    exact .inr (.inl ⟨r, deviceId, rfl, hd, hr, hu, hdev, h⟩)
  case revokeSession r e now hr he hmem h hev =>
    exact .inr (.inr ⟨now, fun a => a = r, by simp +contextual [hr], by simpa using h⟩)
  case revokeDevice d now hmem hd h hs =>
    exact .inr (.inr ⟨now, fun a => a.deviceId = some d.id ∧ a.revokedAt = none, by simp,
      by simpa using hs⟩)
  all_goals exact .inl rfl

lemma devices_cases (h : Effect d s s') : s'.devices = s.devices ∨
    (∃ d : DeviceRow, (∃ u ∈ s.users, u.id = d.userId) ∧ s.devices.Inserted d s'.devices) ∨
    ∃ f : DeviceRow → DeviceRow, (∀ a, (f a).id = a.id ∧ (f a).userId = a.userId ∧
      (f a).deviceKey = a.deviceKey) ∧ s.devices.Mapped f s'.devices := by
  cases h
  case registerDevice d now hnew hu h => exact .inr (.inl ⟨d, hu, h⟩)
  case reregisterDevice d platform now hmem h =>
    refine .inr (.inr ⟨_, fun a => ?_, h⟩)
    split <;> exact ⟨rfl, rfl, rfl⟩
  case revokeDevice d now hmem hd h hs =>
    refine .inr (.inr ⟨_, fun a => ?_, h⟩)
    split <;> exact ⟨rfl, rfl, rfl⟩
  all_goals exact .inl rfl

/-- Users are created, and their rows are rewritten without their id and status. -/
lemma users_cases (h : Effect d s s') : s'.users = s.users ∨
    (∃ u : UserRow, s.users.Inserted u s'.users) ∨
    ∃ f : UserRow → UserRow, (∀ u, (f u).id = u.id ∧ (f u).status = u.status) ∧
      s.users.Mapped f s'.users := by
  cases h
  case createUser identity u i hi hu hs ho hnone husers hids => exact .inr (.inl ⟨u, husers⟩)
  case updateUser identity i hi hmem email displayName husers =>
    refine .inr (.inr ⟨_, fun u => ?_, husers⟩)
    split <;> exact ⟨rfl, rfl⟩
  all_goals exact .inl rfl

lemma identities_cases (h : Effect d s s') : s'.identities = s.identities ∨
    ∃ i : IdentityRow, (∃ u ∈ s'.users, u.id = i.userId) ∧ s.identities.Inserted i s'.identities := by
  cases h
  case createUser identity u i hi hu hs ho hnone husers hids =>
    exact .inr ⟨i, ⟨u, (husers.mem u).mpr (.inr rfl), ho.symm⟩, hids⟩
  all_goals exact .inl rfl

lemma events_cases (h : Effect d s s') : s'.events = s.events ∨
    ∃ e : EventRow, s.events.Inserted e s'.events := by
  cases h
  case createSession r e deviceId hd hr he hu hdev h hev => exact .inr ⟨e, hev⟩
  case revokeSession r e now hmem hr he h hev => exact .inr ⟨e, hev⟩
  all_goals exact .inl rfl

end Effect

end Pentagon5.Auth
