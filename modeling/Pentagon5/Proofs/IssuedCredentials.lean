import Pentagon5.Auth.Evolution
import Pentagon5.Interleaving.Since

/-!
# Credentials

What the service is for, without its tables: it issues credentials, which other calls void. The
tables hold exactly the credentials that were issued and not voided, and the history of a run tells
which ones these are.
-/

namespace Pentagon5.Auth

open Python Relational Relational.Table Interleaving PostgresAuthRepository

/-- What a client can show: the state of a login, a grant code, a ticket or a session token. -/
inductive Credential where
  | flow (fp payload redirectUri : String) (expiresAt : Timestamp)
  | grant (fp payload : String) (expiresAt : Timestamp)
  | ticket (fp : String) (sessionId : Uuid) (channel : String) (expiresAt : Timestamp)
  | session (id userId deviceId : Uuid) (fp : String) (expiresAt : Timestamp)
deriving DecidableEq

/-- The credential that a call issues. -/
def issues : Done Answer PyError → Option Credential
  | ⟨.putFlow fp payload uri expiresAt, .ok _⟩ => some (.flow fp payload uri expiresAt)
  | ⟨.putLoginGrant fp payload expiresAt, .ok _⟩ => some (.grant fp payload expiresAt)
  | ⟨.putWsTicket fp sessionId channel expiresAt, .ok _⟩ => some (.ticket fp sessionId channel expiresAt)
  | ⟨.createSession userId deviceId fp expiresAt, .ok id⟩ => some (.session id userId deviceId fp expiresAt)
  | _ => none

/-- A call takes the one-time credentials with its fingerprint; it revokes its session, or those that
are bound to its device. -/
def voids : Done Answer PyError → Credential → Bool
  | ⟨.consumeFlow fp' _, .ok (some _)⟩, .flow fp _ _ _ => fp' = fp
  | ⟨.consumeLoginGrant fp' _, .ok (some _)⟩, .grant fp _ _ => fp' = fp
  | ⟨.consumeWsTicket fp' _ _, .ok (some _)⟩, .ticket fp _ _ _ => fp' = fp
  | ⟨.revokeSession id' _, .ok _⟩, .session id _ _ _ _ => id' = id
  | ⟨.revokeDevice _ deviceId' _, .ok true⟩, .session _ _ deviceId _ _ => deviceId' = deviceId
  | _, _ => false

/-- The store holds the credential. -/
def Holds (s : Store) : Credential → Prop
  | .flow fp payload uri expiresAt => ∃ r ∈ s.flows, r.stateFingerprint = fp ∧ r.encryptedPayload = payload ∧
      r.redirectUri = uri ∧ r.expiresAt = expiresAt
  | .grant fp payload expiresAt => ∃ r ∈ s.grants, r.codeFingerprint = fp ∧ r.encryptedPayload = payload ∧
      r.expiresAt = expiresAt
  | .ticket fp sessionId channel expiresAt => ∃ r ∈ s.tickets, r.ticketFingerprint = fp ∧
      r.sessionId = sessionId ∧ r.channel.text = channel ∧ r.expiresAt = expiresAt
  | .session id userId deviceId fp expiresAt => ∃ r ∈ s.sessions, r.id = id ∧ r.userId = userId ∧
      r.deviceId = some deviceId ∧ r.tokenFingerprint = fp ∧ r.expiresAt = expiresAt ∧ r.revokedAt = none

variable {d : Done Answer PyError} {s s' : Store} {k : Credential}

section

variable {ρ : Type} [Keyed ρ] {t t' : Table ρ} {r : ρ} {p : ρ → Prop}

lemma exists_inserted (h : t.Inserted r t') : (∃ a ∈ t', p a) ↔ p r ∨ ∃ a ∈ t, p a := by
  simp only [h.mem, or_and_right, exists_or, exists_eq_left]
  exact or_comm

/-- A removed row is the only one with its key. -/
lemma exists_removed {κ : Type} {f : ρ → κ} (hkey : ∀ a b, f a = f b → Keyed.Clash a b)
    (h : t.Removed r t') {x : κ} (hp : ∀ a, p a → f a = x) :
    (∃ a ∈ t', p a) ↔ (∃ a ∈ t, p a) ∧ ¬f r = x := by
  constructor
  · rintro ⟨a, ha, hpa⟩
    obtain ⟨hmem, hne⟩ := (h.mem a).mp ha
    refine ⟨⟨a, hmem, hpa⟩, fun hr => hne ?_⟩
    exact eq_of_clash hmem h.old (hkey a r ((hp a hpa).trans hr.symm))
  · rintro ⟨⟨a, ha, hpa⟩, hr⟩
    refine ⟨a, (h.mem a).mpr ⟨ha, ?_⟩, hpa⟩
    rintro rfl
    exact hr (hp a hpa)

/-- Rows that are changed so that they lose a property. -/
lemma exists_changed {g : ρ → ρ} {q : ρ → Prop} [DecidablePred q] {x : Prop}
    (h : t.Mapped (fun a => if q a then g a else a) t') (hg : ∀ a, ¬p (g a)) (hq : ∀ a ∈ t, p a → (q a ↔ x)) :
    (∃ a ∈ t', p a) ↔ (∃ a ∈ t, p a) ∧ ¬x := by
  constructor
  · rintro ⟨_, ha, hpa⟩
    obtain ⟨a, hmem, rfl⟩ := (h _).mp ha
    dsimp only at hpa
    by_cases hqa : q a
    · rw [if_pos hqa] at hpa
      exact absurd hpa (hg a)
    · rw [if_neg hqa] at hpa
      exact ⟨⟨a, hmem, hpa⟩, fun hx => hqa ((hq a hmem hpa).mpr hx)⟩
  · rintro ⟨⟨a, hmem, hpa⟩, hx⟩
    have ha := h.image hmem
    rw [if_neg fun hqa => hx ((hq a hmem hpa).mp hqa)] at ha
    exact ⟨a, ha, hpa⟩

end

lemma holds_of_unrelated (hissue : issues d ≠ some k) (hvoid : voids d k = false) (h : Holds s' k ↔ Holds s k) :
    Holds s' k ↔ issues d = some k ∨ Holds s k ∧ ¬voids d k = true := by
  simp [hissue, hvoid, h]

/-- The calls that neither issue nor void a credential. -/
def Call.inert : Call → Bool
  | .putFlow .. | .putLoginGrant .. | .putWsTicket .. | .createSession .. | .consumeFlow ..
  | .consumeLoginGrant .. | .consumeWsTicket .. | .revokeSession .. | .revokeDevice .. => false
  | _ => true

lemma issues_inert {call : Call} (h : call.inert = true) (r : Except PyError (Answer call)) :
    issues ⟨call, r⟩ = none := by
  cases call <;> first | rfl | exact Bool.noConfusion h

lemma voids_inert {call : Call} (h : call.inert = true) (r : Except PyError (Answer call)) :
    voids ⟨call, r⟩ k = false := by
  cases call <;> first | rfl | exact Bool.noConfusion h

lemma issues_error (call : Call) (e : PyError) : issues ⟨call, .error e⟩ = none := by
  cases call <;> rfl

lemma voids_error (call : Call) (e : PyError) : voids ⟨call, .error e⟩ k = false := by
  cases call <;> rfl

lemma holds_of_none (hissue : issues d = none) (hvoid : voids d k = false) (h : Holds s' k ↔ Holds s k) :
    Holds s' k ↔ issues d = some k ∨ Holds s k ∧ ¬voids d k = true :=
  holds_of_unrelated (by simp [hissue]) hvoid h

/-- What a call leaves is what it issues and what it does not void. -/
theorem Effect.holds (h : Effect d s s') (k : Credential) :
    Holds s' k ↔ issues d = some k ∨ Holds s k ∧ ¬voids d k = true := by
  cases h with
  | failed call e => exact holds_of_none (issues_error call e) (voids_error call e) Iff.rfl
  | read call a hread =>
    have hinert : call.inert = true := by cases call <;> first | rfl | exact Bool.noConfusion hread
    exact holds_of_none (issues_inert hinert _) (voids_inert hinert _) Iff.rfl
  | putFlow r hi =>
    cases k with
    | flow fp payload uri expiresAt =>
      rw [Holds, exists_inserted hi]
      simp [issues, voids, Holds]
    | _ => exact holds_of_unrelated (by simp [issues]) rfl Iff.rfl
  | putLoginGrant r hi =>
    cases k with
    | grant fp payload expiresAt =>
      rw [Holds, exists_inserted hi]
      simp [issues, voids, Holds]
    | _ => exact holds_of_unrelated (by simp [issues]) rfl Iff.rfl
  | putWsTicket r _ hi =>
    cases k with
    | ticket fp sessionId channel expiresAt =>
      rw [Holds, exists_inserted hi]
      simp [issues, voids, Holds]
    | _ => exact holds_of_unrelated (by simp [issues]) rfl Iff.rfl
  | createSession r e deviceId hd hr he hu hdev hi hev =>
    cases k with
    | session id userId deviceId' fp expiresAt =>
      rw [Holds, exists_inserted hi]
      simp [issues, voids, Holds, hd, hr, and_left_comm]
    | _ => exact holds_of_unrelated (by simp [issues]) rfl Iff.rfl
  | consumeFlow r now ht hrem =>
    cases k with
    | flow fp payload uri expiresAt =>
      refine (exists_removed (f := FlowRow.stateFingerprint) (fun _ _ => Or.inr) hrem fun a ha => ha.1).trans ?_
      simp [issues, voids, Holds]
    | _ => exact holds_of_none rfl rfl Iff.rfl
  | consumeLoginGrant r now ht hrem =>
    cases k with
    | grant fp payload expiresAt =>
      refine (exists_removed (f := GrantRow.codeFingerprint) (fun _ _ => Or.inr) hrem fun a ha => ha.1).trans ?_
      simp [issues, voids, Holds]
    | _ => exact holds_of_none rfl rfl Iff.rfl
  | consumeWsTicket r now ht hlive hrem =>
    cases k with
    | ticket fp sessionId channel expiresAt =>
      refine (exists_removed (f := TicketRow.ticketFingerprint) (fun _ _ => Or.inr) hrem fun a ha => ha.1).trans ?_
      simp [issues, voids, Holds]
    | _ => exact holds_of_none rfl rfl Iff.rfl
  | missFlow | missGrant | missTicket => exact holds_of_none rfl rfl Iff.rfl
  | createUser | updateUser | reregisterDevice | registerDevice => exact holds_of_none rfl rfl Iff.rfl
  | revokeSession r e now hmem hr he hm hev =>
    cases k with
    | session id userId deviceId fp expiresAt =>
      refine (exists_changed hm (x := r.id = id) (fun a ha => ?_) fun a ha hp => ?_).trans ?_
      · exact absurd ha.2.2.2.2.2 (Option.some_ne_none now)
      · rw [← hp.1]
        exact ⟨fun heq => by rw [heq], fun hid => eq_of_clash ha hmem (.inl hid.symm)⟩
      · simp [issues, voids, Holds]
    | _ => exact holds_of_none rfl rfl Iff.rfl
  | keepSession id now hkeep =>
    cases k with
    | session id' userId deviceId fp expiresAt =>
      simp only [issues, voids, reduceCtorEq, false_or, decide_eq_true_eq]
      refine (and_iff_left_of_imp ?_).symm
      rintro ⟨a, ha, hid, -, -, -, -, hrev⟩ rfl
      exact hkeep a ha hid hrev
    | _ => exact holds_of_none rfl rfl Iff.rfl
  | revokeDevice d now hmem hd hm hs =>
    cases k with
    | session id userId deviceId fp expiresAt =>
      refine (exists_changed hs (x := d.id = deviceId) (fun a ha => ?_) fun a ha hp => ?_).trans ?_
      · exact absurd ha.2.2.2.2.2 (Option.some_ne_none now)
      · rw [hp.2.2.1, Option.some.injEq]
        exact ⟨fun h => h.1.symm, fun h => ⟨h.symm, hp.2.2.2.2.2⟩⟩
      · simp [issues, voids, Holds]
    | _ => exact holds_of_none rfl rfl Iff.rfl
  | keepDevice => exact holds_of_none rfl (by cases k <;> rfl) Iff.rfl

/-- The device that a call registers. -/
def admits : Done Answer PyError → Option Uuid
  | ⟨.registerDevice .., .ok id⟩ => some id
  | _ => none

/-- The call revoked the device. -/
def bans (deviceId : Uuid) : Done Answer PyError → Bool
  | ⟨.revokeDevice _ id _, .ok true⟩ => id = deviceId
  | _ => false

variable {deviceId : Uuid}

variable (deviceId) in
lemma admits_reads {call : Call} (h : call.reads = true) (r : Except PyError (Answer call)) :
    admits ⟨call, r⟩ = none ∧ bans deviceId ⟨call, r⟩ = false := by
  cases call <;> first | exact ⟨rfl, rfl⟩ | exact Bool.noConfusion h

variable (deviceId) in
lemma admits_error (call : Call) (e : PyError) :
    admits ⟨call, .error e⟩ = none ∧ bans deviceId ⟨call, .error e⟩ = false := by
  cases call <;> exact ⟨rfl, rfl⟩

/-- Registering a device allows it, also when it was revoked; revoking it does not. -/
theorem Effect.allows (h : Effect d s s') : PostgresAuthRepository.deviceAllows s' (some deviceId) = true ↔
    admits d = some deviceId ∨
      PostgresAuthRepository.deviceAllows s (some deviceId) = true ∧ ¬bans deviceId d = true := by
  have hsame : ∀ {s' : Store}, s'.devices = s.devices → admits d = none → bans deviceId d = false →
      (PostgresAuthRepository.deviceAllows s' (some deviceId) = true ↔
        admits d = some deviceId ∨
          PostgresAuthRepository.deviceAllows s (some deviceId) = true ∧ ¬bans deviceId d = true) := by
    intro s' hdevices hadmits hbans
    rw [deviceAllows_iff, deviceAllows_iff, hdevices, hadmits, hbans]
    simp
  cases h with
  | failed call e => exact hsame rfl (admits_error deviceId call e).1 (admits_error deviceId call e).2
  | read call a hread => exact hsame rfl (admits_reads deviceId hread _).1 (admits_reads deviceId hread _).2
  | reregisterDevice d platform now hmem hm =>
    rw [deviceAllows_iff, deviceAllows_iff]
    simp only [admits, bans, Option.some.injEq, Bool.false_eq_true, not_false_eq_true, and_true]
    by_cases hid : d.id = deviceId
    · refine iff_of_true (fun a ha haid => ?_) (.inl hid)
      obtain ⟨b, hb, rfl⟩ := (hm a).mp ha
      dsimp only at haid ⊢
      split
      · rfl
      · next hne =>
        rw [if_neg hne] at haid
        exact absurd (haid.trans hid.symm) hne
    · rw [or_iff_right hid]
      constructor
      · intro hall a ha haid
        have hne : a.id ≠ d.id := fun heq => hid (heq.symm.trans haid)
        have := hall _ (hm.image ha)
        rw [if_neg hne] at this
        exact this haid
      · intro hall a ha haid
        obtain ⟨b, hb, rfl⟩ := (hm a).mp ha
        dsimp only at haid ⊢
        by_cases hne : b.id = d.id
        · rw [if_pos hne]
          rfl
        · rw [if_neg hne] at haid ⊢
          exact hall b hb haid
  | registerDevice d now hnew hu hi =>
    rw [deviceAllows_iff, deviceAllows_iff]
    simp only [admits, bans, Option.some.injEq, Bool.false_eq_true, not_false_eq_true, and_true]
    by_cases hid : d.id = deviceId
    · refine iff_of_true (fun a ha haid => ?_) (.inl hid)
      rcases (hi.mem a).mp ha with hold | rfl
      · exact absurd (Or.inl (haid.trans hid.symm)) (hi.fresh a hold)
      · exact hnew
    · rw [or_iff_right hid]
      refine ⟨fun hall a ha => hall a (hi.old ha), fun hall a ha haid => ?_⟩
      rcases (hi.mem a).mp ha with hold | rfl
      · exact hall a hold haid
      · exact absurd haid hid
  | revokeDevice d now hmem hd hm hs =>
    rw [deviceAllows_iff, deviceAllows_iff]
    simp only [admits, bans, decide_eq_true_eq, reduceCtorEq, false_or]
    by_cases hid : d.id = deviceId
    · refine iff_of_false (fun hall => ?_) fun h => h.2 hid
      have := hall _ (hm.image hmem)
      rw [if_pos rfl] at this
      exact absurd (this hid) (Option.some_ne_none now)
    · rw [and_iff_left hid]
      constructor
      · intro hall a ha haid
        have hne : a ≠ d := fun heq => hid (heq ▸ haid)
        have := hall _ (hm.image ha)
        rw [if_neg hne] at this
        exact this haid
      · intro hall a ha haid
        obtain ⟨b, hb, rfl⟩ := (hm a).mp ha
        dsimp only at haid ⊢
        by_cases hne : b = d
        · rw [if_pos hne, hne] at haid
          exact absurd haid hid
        · rw [if_neg hne] at haid ⊢
          exact hall b hb haid
  | _ => exact hsame rfl rfl rfl

variable {settings : AuthSettings} {crypto : Primitives} {c : State}

variable (settings crypto) in
lemma tracks_credential (k : Credential) : Tracks (system settings crypto) (fun w => Holds w.store k)
    (fun d => issues d = some k) (fun d => voids d k = true) where
  answer ω w call := (answer_effect ω w call).holds k
  environment w w' hw := by
    cases k with
    | flow => rw [Holds, Holds, hw.flows]
    | grant => rw [Holds, Holds, hw.grants]
    | ticket => rw [Holds, Holds, hw.tickets]
    | session => rw [Holds, Holds, hw.sessions]

variable (settings crypto) in
lemma tracks_device (deviceId : Uuid) : Tracks (system settings crypto)
    (fun w => deviceAllows w.store (some deviceId) = true) (fun d => admits d = some deviceId)
    (fun d => bans deviceId d = true) where
  answer ω w call := (answer_effect ω w call).allows
  environment w w' hw := by rw [deviceAllows_iff, deviceAllows_iff, hw.devices]

/-- In every run the store holds exactly the credentials that were issued and not voided since. -/
theorem holds_iff_since (hc : Run settings crypto c) (k : Credential) : Holds c.state.store k ↔
    Since (fun d => issues d = some k) (fun d => voids d k = true) c.history := by
  refine (tracks_credential settings crypto k).holds_iff (fun w hw => ?_) hc
  cases k with
  | flow => exact fun ⟨r, hr, _⟩ => hw.flows r hr
  | grant => exact fun ⟨r, hr, _⟩ => hw.grants r hr
  | ticket => exact fun ⟨r, hr, _⟩ => hw.tickets r hr
  | session => exact fun ⟨r, hr, _⟩ => hw.sessions r hr

end Pentagon5.Auth
