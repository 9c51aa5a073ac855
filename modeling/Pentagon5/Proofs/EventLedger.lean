import Pentagon5.Auth.Deployment
import Pentagon5.Auth.Evolution

/-!
# The event trail of sessions

Creating a session and revoking it each add one event. Revoking a device revokes the sessions
that are bound to it and adds no event for them, so the trail is complete exactly in the runs in
which no revoked device had a session left to revoke.
-/

namespace Pentagon5.Auth

open Relational Relational.Table Interleaving PostgresAuthRepository

section

variable {settings : AuthSettings} {crypto : Primitives} {c : State} {d : Done Answer PyError}
  {s s' : Store} {r : SessionRow} {e : EventRow} {id : Uuid}

/-- The event `e` of the given type belongs to the session `id`. -/
def EventRow.Tells (e : EventRow) (id : Uuid) (eventType : String) : Prop :=
  e.sessionId = some id ∧ e.eventType = eventType

/-- The law of the trail: one event for the creation of every session, and one for its
revocation exactly when it is revoked. -/
def Complete (s : Store) : Prop := ∀ r ∈ s.sessions,
  (∃! e, e ∈ s.events ∧ e.Tells r.id "session.created") ∧
    (r.revokedAt ≠ none ↔ ∃! e, e ∈ s.events ∧ e.Tells r.id "session.revoked")

/-- What holds of the trail in every run. -/
structure Recorded (s : Store) : Prop where
  known : ∀ e ∈ s.events, ∃ r ∈ s.sessions, e.sessionId = some r.id
  created : ∀ r ∈ s.sessions, ∃! e, e ∈ s.events ∧ e.Tells r.id "session.created"
  revoked : ∀ e ∈ s.events, ∀ r ∈ s.sessions, e.Tells r.id "session.revoked" → r.revokedAt ≠ none
  once : ∀ e ∈ s.events, ∀ e' ∈ s.events, ∀ id, e.Tells id "session.revoked" →
    e'.Tells id "session.revoked" → e = e'

/-- The session `id` is revoked, and no event says so. -/
def Silent (id : Uuid) (s : Store) : Prop :=
  (∃ a ∈ s.sessions, a.id = id ∧ a.revokedAt ≠ none) ∧ ∀ e ∈ s.events, ¬e.Tells id "session.revoked"

lemma Recorded.complete_iff (h : Recorded s) : Complete s ↔ ∀ id, ¬Silent id s := by
  constructor
  · rintro hc id ⟨⟨a, ha, rfl, hrev⟩, hno⟩
    obtain ⟨e, ⟨he, htells⟩, -⟩ := ((hc a ha).2).mp hrev
    exact hno e he htells
  · intro hno r hr
    refine ⟨h.created r hr, fun hrev => ?_, ?_⟩
    · by_contra hnone
      refine hno r.id ⟨⟨r, hr, rfl, hrev⟩, fun e he htells => hnone ?_⟩
      exact ⟨e, ⟨he, htells⟩, fun e' h' => h.once e' h'.1 e he r.id h'.2 htells⟩
    · rintro ⟨e, ⟨he, htells⟩, -⟩
      exact h.revoked e he r hr htells

/-- The trail stays as it is while sessions are revoked. -/
lemma Recorded.revoke (h : Recorded s) {now : Timestamp} {p : SessionRow → Prop} [DecidablePred p]
    (hs : s.sessions.Mapped (fun a => if p a then revokeRow now a else a) s'.sessions)
    (he : s'.events = s.events) : Recorded s' := by
  have hid : ∀ a : SessionRow, (if p a then revokeRow now a else a).id = a.id := by
    intro a
    split <;> rfl
  refine ⟨?_, ?_, ?_, ?_⟩
  · intro e hmem
    obtain ⟨r, hr, hsession⟩ := h.known e (he ▸ hmem)
    exact ⟨_, hs.image hr, by rw [hid]; exact hsession⟩
  · intro r hr
    obtain ⟨a, ha, rfl⟩ := (hs r).mp hr
    rw [he, hid]
    exact h.created a ha
  · intro e hmem r hr htells
    obtain ⟨a, ha, rfl⟩ := (hs r).mp hr
    rw [hid] at htells
    have hrev := h.revoked e (he ▸ hmem) a ha htells
    dsimp only
    split
    · simp [revokeRow]
    · exact hrev
  · rw [he]
    exact h.once

/-- A new session comes with the event of its creation. -/
lemma Recorded.create (h : Recorded s) (hs : s.sessions.Inserted r s'.sessions)
    (he : s.events.Inserted e s'.events) (htells : e.Tells r.id "session.created") : Recorded s' := by
  have hfresh : ∀ e' ∈ s.events, ∀ eventType, ¬e'.Tells r.id eventType := by
    intro e' he' eventType htells'
    obtain ⟨a, ha, hsession⟩ := h.known e' he'
    exact hs.fresh a ha (.inl (Option.some.inj (hsession.symm.trans htells'.1)))
  have hnot : ∀ id, ¬e.Tells id "session.revoked" := by
    intro id h'
    exact absurd (htells.2.symm.trans h'.2) (by decide)
  refine ⟨?_, ?_, ?_, ?_⟩
  · intro e' he'
    rcases (he.mem e').mp he' with hold | rfl
    · obtain ⟨a, ha, hsession⟩ := h.known e' hold
      exact ⟨a, hs.old ha, hsession⟩
    · exact ⟨r, hs.new, htells.1⟩
  · intro a ha
    rcases (hs.mem a).mp ha with hold | rfl
    · obtain ⟨e', ⟨he', htells'⟩, hunique⟩ := h.created a hold
      refine ⟨e', ⟨he.old he', htells'⟩, ?_⟩
      rintro e'' ⟨he'', htells''⟩
      rcases (he.mem e'').mp he'' with hold' | rfl
      · exact hunique e'' ⟨hold', htells''⟩
      · have hsame := Option.some.inj (htells.1.symm.trans htells''.1)
        exact absurd (.inl hsame.symm) (hs.fresh a hold)
    · refine ⟨e, ⟨he.new, htells⟩, ?_⟩
      rintro e'' ⟨he'', htells''⟩
      rcases (he.mem e'').mp he'' with hold' | rfl
      · exact absurd htells'' (hfresh e'' hold' _)
      · rfl
  · intro e' he' a ha htells'
    rcases (he.mem e').mp he' with hold | rfl
    · rcases (hs.mem a).mp ha with hold' | rfl
      · exact h.revoked e' hold a hold' htells'
      · exact absurd htells' (hfresh e' hold _)
    · exact absurd htells' (hnot a.id)
  · intro e₁ h₁ e₂ h₂ id ht₁ ht₂
    rcases (he.mem e₁).mp h₁ with hold₁ | rfl
    · rcases (he.mem e₂).mp h₂ with hold₂ | rfl
      · exact h.once e₁ hold₁ e₂ hold₂ id ht₁ ht₂
      · exact absurd ht₂ (hnot id)
    · exact absurd ht₁ (hnot id)

/-- The event of a revocation is the first one for its session. -/
lemma Recorded.revokeSession (h : Recorded s) (hr : r ∈ s.sessions) (hlive : r.revokedAt = none)
    {now : Timestamp} (hs : s.sessions.Mapped (fun a => if a = r then revokeRow now a else a) s'.sessions)
    (he : s.events.Inserted e s'.events) (htells : e.Tells r.id "session.revoked") : Recorded s' := by
  have hmid : Recorded { s' with events := s.events } := Recorded.revoke h hs rfl
  have hid : ∀ a ∈ s'.sessions, a.id = r.id → a.revokedAt ≠ none := by
    intro a ha haid
    obtain ⟨b, hb, rfl⟩ := (hs a).mp ha
    dsimp only at haid ⊢
    by_cases hbr : b = r
    · simp [hbr, revokeRow]
    · rw [if_neg hbr] at haid
      exact absurd (eq_of_clash hb hr (.inl haid)) hbr
  have hfirst : ∀ e' ∈ s.events, ¬e'.Tells r.id "session.revoked" := by
    intro e' he' htells'
    exact h.revoked e' he' r hr htells' hlive
  refine ⟨?_, ?_, ?_, ?_⟩
  · intro e' he'
    rcases (he.mem e').mp he' with hold | rfl
    · exact hmid.known e' hold
    · exact ⟨_, hs.image hr, by rw [if_pos rfl]; exact htells.1⟩
  · intro a ha
    obtain ⟨e', ⟨he', htells'⟩, hunique⟩ := hmid.created a ha
    refine ⟨e', ⟨he.old he', htells'⟩, ?_⟩
    rintro e'' ⟨he'', htells''⟩
    rcases (he.mem e'').mp he'' with hold' | rfl
    · exact hunique e'' ⟨hold', htells''⟩
    · exact absurd (htells.2.symm.trans htells''.2) (by decide)
  · intro e' he' a ha htells'
    rcases (he.mem e').mp he' with hold | rfl
    · exact hmid.revoked e' hold a ha htells'
    · exact hid a ha (Option.some.inj (htells'.1.symm.trans htells.1))
  · intro e₁ h₁ e₂ h₂ id ht₁ ht₂
    rcases (he.mem e₁).mp h₁ with hold₁ | rfl
    · rcases (he.mem e₂).mp h₂ with hold₂ | rfl
      · exact h.once e₁ hold₁ e₂ hold₂ id ht₁ ht₂
      · obtain rfl := Option.some.inj (htells.1.symm.trans ht₂.1)
        exact absurd ht₁ (hfirst e₁ hold₁)
    · rcases (he.mem e₂).mp h₂ with hold₂ | rfl
      · obtain rfl := Option.some.inj (htells.1.symm.trans ht₁.1)
        exact absurd ht₂ (hfirst e₂ hold₂)
      · rfl

lemma Effect.recorded (h : Effect d s s') (hr : Recorded s) : Recorded s' := by
  cases h with
  | createSession r e deviceId hd hlive he hu hdev hs hev => exact hr.create hs hev ⟨he.1, he.2.2⟩
  | revokeSession r e now hmem hlive he hs hev => exact hr.revokeSession hmem hlive hs hev ⟨he.1, he.2.2⟩
  | revokeDevice d now hmem hd h hs => exact hr.revoke hs rfl
  | _ => exact ⟨hr.known, hr.created, hr.revoked, hr.once⟩

theorem recorded (hc : Run settings crypto c) : Recorded c.state.store := by
  refine hc.invariant (I := fun w => Recorded w.store)
    (stable_of_effect (fun d s s' h => h.recorded) fun w w' hw h => ?_) fun w hw => ?_
  · obtain ⟨hknown, hcreated, hrevoked, honce⟩ := h
    refine ⟨?_, ?_, ?_, ?_⟩ <;> simpa only [hw.sessions, hw.events]
  · exact ⟨fun e he => absurd he (hw.events e), fun r hr => absurd hr (hw.sessions r),
      fun e he => absurd he (hw.events e), fun e he => absurd he (hw.events e)⟩

/-- The call revokes an unrevoked device of the user that has an unrevoked session. -/
def BulkRevokes (call : Call) (s : Store) : Prop := ∃ userId deviceId now,
  call = .revokeDevice userId deviceId now ∧
  (∃ d ∈ s.devices, d.id = deviceId ∧ d.userId = userId ∧ d.revokedAt = none) ∧
  ∃ r ∈ s.sessions, r.deviceId = some deviceId ∧ r.revokedAt = none

/-- A call makes a revocation silent only by revoking the device of an unrevoked session. -/
lemma Effect.silent (h : Effect d s s') (hbefore : ¬Silent id s) (hafter : Silent id s') :
    BulkRevokes d.call s := by
  obtain ⟨⟨a, ha, haid, hrev⟩, hno⟩ := hafter
  cases h with
  | createSession r e deviceId hd hlive he hu hdev hs hev =>
    rcases (hs.mem a).mp ha with hold | rfl
    · exact absurd ⟨⟨a, hold, haid, hrev⟩, fun e' he' => hno e' (hev.old he')⟩ hbefore
    · exact absurd hlive hrev
  | revokeSession r e now hmem hlive he hs hev =>
    obtain ⟨b, hb, rfl⟩ := (hs a).mp ha
    dsimp only at haid hrev
    by_cases hbr : b = r
    · rw [if_pos hbr, hbr] at haid
      exact absurd ⟨by rw [he.1, ← haid]; rfl, he.2.2⟩ (hno e hev.new)
    · rw [if_neg hbr] at haid hrev
      exact absurd ⟨⟨b, hb, haid, hrev⟩, fun e' he' => hno e' (hev.old he')⟩ hbefore
  | revokeDevice d now hmem hd hm hs =>
    obtain ⟨b, hb, rfl⟩ := (hs a).mp ha
    dsimp only at haid hrev
    by_cases hbd : b.deviceId = some d.id ∧ b.revokedAt = none
    · exact ⟨_, _, now, rfl, ⟨d, hmem, rfl, rfl, hd⟩, b, hb, hbd⟩
    · rw [if_neg hbd] at haid hrev
      exact absurd ⟨⟨b, hb, haid, hrev⟩, hno⟩ hbefore
  | _ => exact absurd ⟨⟨a, ha, haid, hrev⟩, hno⟩ hbefore

lemma Effect.keeps_silent (h : Effect d s s') (hs : Silent id s) : Silent id s' := by
  obtain ⟨⟨a, ha, rfl, hrev⟩, hno⟩ := hs
  obtain ⟨a', ha', hcont⟩ := h.extends.sessions a ha
  refine ⟨⟨a', ha', hcont.id, by rw [hcont.revoked hrev]; exact hrev⟩, ?_⟩
  cases h with
  | createSession r e deviceId hd hlive he hu hdev hs hev =>
    intro e' he' htells
    rcases (hev.mem e').mp he' with hold | rfl
    · exact hno e' hold htells
    · exact absurd (he.2.2.symm.trans htells.2) (by decide)
  | revokeSession r e now hmem hlive he hs hev =>
    intro e' he' htells
    rcases (hev.mem e').mp he' with hold | rfl
    · exact hno e' hold htells
    · -- the revoked session was not revoked before, so it is another one
      have hid := Option.some.inj (he.1.symm.trans htells.1)
      obtain rfl := eq_of_clash hmem ha (.inl hid)
      exact hrev hlive
  | _ => exact hno

lemma stable_silent (id : Uuid) : Stable (system settings crypto) (fun w => Silent id w.store) :=
  stable_of_effect (fun d s s' h => h.keeps_silent) fun w w' hw h => by
    unfold Silent at h ⊢
    rwa [hw.sessions, hw.events]

/-- The revocation of a device leaves its sessions with a silent revocation. -/
lemma Effect.bulk (h : Effect d s s') (hr : Recorded s) (hb : BulkRevokes d.call s)
    (hok : ∀ e, d.answer ≠ .error e) : ∃ id, Silent id s' := by
  obtain ⟨userId, deviceId, now, hcall, ⟨dev, hdev, hid, huser, hlive⟩, r, hmem, hbound, hrev⟩ := hb
  cases h with
  | failed call e => exact absurd rfl (hok e)
  | read call a hread =>
    dsimp only at hcall
    rw [hcall] at hread
    cases hread
  | keepDevice _ _ _ hno =>
    obtain ⟨rfl, rfl, -⟩ := Call.revokeDevice.inj hcall
    exact absurd hlive (hno dev hdev hid huser)
  | revokeDevice d now _ hd hm hs =>
    obtain ⟨-, rfl, -⟩ := Call.revokeDevice.inj hcall
    refine ⟨r.id, ⟨_, hs.image hmem, ?_, ?_⟩, fun e he htells => hr.revoked e he r hmem htells hrev⟩
    · rw [if_pos ⟨hbound, hrev⟩]
      rfl
    · simp [hbound, hrev, revokeRow]
  | _ => cases hcall

/-- The trail of a state that a run reaches is complete if and only if no call of the run revoked
an unrevoked device with an unrevoked session. -/
theorem trail_complete_iff (hc : Run settings crypto c) :
    Complete c.state.store ↔ ∀ e ∈ c.history, ¬BulkRevokes e.done.call e.before.store := by
  rw [(recorded hc).complete_iff]
  constructor
  · intro hno e he hbulk
    obtain ⟨h₁, h₀, hsplit, ⟨P⟩⟩ := hc.performed_mem he
    have hrecorded := recorded P.reachable
    rw [P.state] at hrecorded
    have hok : ∀ error, e.done.answer ≠ .error error := by
      intro error hans
      obtain ⟨_, _, _, hcall, -⟩ := hbulk
      have hinf : e.done.call.infallible = true := by rw [hcall]; rfl
      exact answer_infallible hinf e.env e.before error (by rw [performed_answer P rfl]; exact hans)
    obtain ⟨id, hsilent⟩ := (performed_effect P).bulk hrecorded hbulk hok
    exact hno id (hc.stable_since (stable_silent id) hsplit hsilent)
  · intro hcond id hsilent
    obtain ⟨h₁, e, h₀, hsplit, hbefore, hafter⟩ := hc.origin (I := fun w => Silent id w.store)
      (fun w hw h => h.1.elim fun a ha => hw.sessions a ha.1)
      (fun w w' hw h => by unfold Silent at h ⊢; rwa [← hw.sessions, ← hw.events]) hsilent
    obtain ⟨P⟩ := hc.performed hsplit
    exact hcond e (by simp [hsplit]) ((performed_effect P).silent hbefore hafter)

end

open Sample in
theorem complete_loggedIn : Complete loggedIn.state.store := by
  refine (trail_complete_iff run_loggedIn).mpr ?_
  have h : loggedIn.history.all (fun e => match e.done.call with
      | .revokeDevice .. => false
      | _ => true) = true := by decide +kernel
  rintro e he ⟨userId, deviceId, now, hcall, -⟩
  have := List.all_eq_true.mp h e he
  rw [hcall] at this
  cases this

open Sample in
/-- Revoking a device leaves no event for the session that it revokes. -/
theorem not_complete_deviceRevoked : ¬∀ c : State, Sampled c → Complete c.state.store := by
  intro h
  have hdone : (deviceRevoked.state.store.sessions.find fun r => r.revokedAt.isSome).isSome ∧
      deviceRevoked.state.store.events.rows.all (fun e => e.eventType ≠ "session.revoked") := by
    decide +kernel
  obtain ⟨r, hr, hrev⟩ := find_isSome.mp hdone.1
  obtain ⟨e, ⟨he, htells⟩, -⟩ := ((h _ run_deviceRevoked r hr).2).mp (Option.isSome_iff_ne_none.mp hrev)
  exact absurd htells.2 (of_decide_eq_true (List.all_eq_true.mp hdone.2 e he))

end Pentagon5.Auth
