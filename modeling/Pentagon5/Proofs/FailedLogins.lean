import Pentagon5.Auth.Deployment
import Pentagon5.Auth.Evolution
import Pentagon5.Interleaving.Ledger

/-!
# What a failed login leaves behind

Every repository call of a login commits its own transaction, so a login step that raises leaves
what its earlier calls wrote. The calls of other clients interleave with those of the step; what
the step itself changed is told by the stores before and after each of its calls.
-/

namespace Pentagon5.Auth

open Relational Relational.Table Interleaving Interleaving.Prog AuthenticationService

section

variable {settings : AuthSettings} {crypto : Primitives} {c : State} {t : Trace} {q : Request}
  {d : Done Answer PyError} {s s' : Store}

/-- The call stored a login grant. -/
def storesGrant : Done Answer PyError → Bool
  | ⟨.putLoginGrant .., .ok _⟩ => true
  | _ => false

def Ungranted (t : Trace) : Prop := ∀ d ∈ t, storesGrant d = false

@[simp] lemma ungranted_nil : Ungranted [] := by simp [Ungranted]

@[simp] lemma ungranted_cons : Ungranted (d :: t) ↔ storesGrant d = false ∧ Ungranted t := by
  simp [Ungranted]

lemma Ungranted.free {new : Trace} (ht : Ungranted t) (hnew : ∀ d ∈ new, d.call.free = true) :
    Ungranted (new ++ t) := by
  intro d hd
  rcases List.mem_append.mp hd with hd | hd
  · have hfree := hnew d hd
    obtain ⟨call, r⟩ := d
    cases call <;> first | rfl | exact Bool.noConfusion hfree
  · exact ht d hd

lemma completeLogin_ungranted (state code : String) : Meets (fun _ _ => True)
    (fun t r => ∀ e, r = .error e → Ungranted t) [] (completeLogin settings crypto state code) := by
  refine meets_require_bind.mpr ⟨fun _ => ?_, fun _ _ _ => ungranted_nil⟩
  refine meets_perform_bind.mpr ⟨trivial, fun now => ?_, fun e _ _ => by simp [storesGrant]⟩
  refine meets_perform_bind.mpr ⟨trivial, fun found => ?_, fun e _ _ => by simp [storesGrant]⟩
  cases found with
  | none => exact fun _ _ => by simp [storesGrant]
  | some flow =>
    refine meets_require_bind.mpr ⟨fun _ => ?_, fun _ _ _ => by simp [storesGrant]⟩
    refine meets_ofExcept_bind.mpr ⟨fun payload _ => ?_, fun _ _ _ _ => by simp [storesGrant]⟩
    refine meets_ofExcept_bind.mpr ⟨fun verifier _ => ?_, fun _ _ _ _ => by simp [storesGrant]⟩
    refine meets_ofExcept_bind.mpr ⟨fun nonce _ => ?_, fun _ _ _ _ => by simp [storesGrant]⟩
    refine meets_bind (((exchange_free code verifier nonce).since fun _ _ h => h).mono
      (fun _ _ _ => trivial) ?_)
    rintro _ r ⟨-, new, rfl, hnew⟩
    have ht : Ungranted (new ++ [⟨.consumeFlow (fingerprint settings crypto state) now, .ok (some flow)⟩,
      ⟨.now, .ok now⟩]) := Ungranted.free (by simp [storesGrant]) hnew
    generalize new ++ _ = t at ht
    cases r with
    | error e => exact fun _ _ => ht
    | ok claims =>
      refine meets_ofExcept_bind.mpr ⟨fun identity _ => ?_, fun _ _ _ _ => ht⟩
      refine meets_perform_bind.mpr ⟨trivial, fun userId => ?_, fun e _ _ => by simpa [storesGrant] using ht⟩
      refine meets_ofExcept_bind.mpr ⟨fun deviceKey _ => ?_, fun _ _ _ _ => by simpa [storesGrant] using ht⟩
      refine meets_ofExcept_bind.mpr ⟨fun platform _ => ?_, fun _ _ _ _ => by simpa [storesGrant] using ht⟩
      refine meets_perform_bind.mpr ⟨trivial, fun deviceId => ?_, fun e _ _ => by simpa [storesGrant] using ht⟩
      refine meets_perform_bind.mpr ⟨trivial, fun token => ?_, fun e _ _ => by simpa [storesGrant] using ht⟩
      refine meets_perform_bind.mpr ⟨trivial, fun sessionId => ?_, fun e _ _ => by simpa [storesGrant] using ht⟩
      refine meets_perform_bind.mpr ⟨trivial, fun found => ?_, fun e _ _ => by simpa [storesGrant] using ht⟩
      cases found with
      | none => exact fun _ _ => by simpa [storesGrant] using ht
      | some principal =>
        refine meets_perform_bind.mpr ⟨trivial, fun grantCode => ?_, fun e _ _ => by
          simpa [storesGrant] using ht⟩
        refine meets_bind (meets_perform_bind.mpr ⟨trivial, fun sealing => ?_, fun e _ _ => by
          simpa [storesGrant] using ht⟩)
        rw [meets_pure]
        refine meets_perform_bind.mpr ⟨trivial, fun _ => ?_, fun e _ _ => by
          simpa [storesGrant] using ht⟩
        rintro _ ⟨⟩

variable (settings crypto) in
/-- The flow of this state is deleted, and nothing else changes. -/
def TakesFlow (state : String) (s s' : Store) : Prop :=
  ∃ r : FlowRow, r.stateFingerprint = fingerprint settings crypto state ∧ s.flows.Removed r s'.flows ∧
    s' = { s with flows := s'.flows }

variable (settings crypto) in
/-- The grant of this code is deleted, and nothing else changes. -/
def TakesGrant (code : String) (s s' : Store) : Prop :=
  ∃ r : GrantRow, r.codeFingerprint = fingerprint settings crypto code ∧ s.grants.Removed r s'.grants ∧
    s' = { s with grants := s'.grants }

variable (settings crypto) in
/-- What a call of a login step that raises may change: `start_login` stores its flow,
`complete_login` deletes its flow and writes the rows of its transactions, and
`exchange_login_grant` deletes its grant. -/
inductive Residue : Request → Done Answer PyError → Store → Store → Prop where
  | unchanged (q : Request) (d : Done Answer PyError) (s : Store) : Residue q d s s
  | putFlow {deviceKey platform : String} {s flows} (r : FlowRow) (h : s.flows.Inserted r flows) :
      Residue (.startLogin deviceKey platform)
        ⟨.putFlow r.stateFingerprint r.encryptedPayload r.redirectUri r.expiresAt, .ok ()⟩ s { s with flows }
  | consumeFlow {state code : String} {s s'} (now : Timestamp) (flow : Flow)
      (h : TakesFlow settings crypto state s s') : Residue (.completeLogin state code)
        ⟨.consumeFlow (fingerprint settings crypto state) now, .ok (some flow)⟩ s s'
  | createUser {state code : String} {s users identities} (identity : Identity) (u : UserRow) (i : IdentityRow)
      (hu : u.Describes identity) (hi : i.Holds identity) (howner : i.userId = u.id)
      (husers : s.users.Inserted u users) (hids : s.identities.Inserted i identities) :
      Residue (.completeLogin state code) ⟨.provisionIdentity identity, .ok u.id⟩ s { s with users, identities }
  | updateUser {state code : String} {s users} (identity : Identity) (i : IdentityRow) (hi : i.Stores identity)
      (hmem : i ∈ s.identities) (email : Varchar 320) (displayName : Varchar 120)
      (hemail : email.Holds identity.email) (hname : displayName.Holds identity.displayName)
      (husers : s.users.Mapped (fun u => if u.id = i.userId ∧ u.status = .active then
        { u with email, displayName } else u) users) :
      Residue (.completeLogin state code) ⟨.provisionIdentity identity, .ok i.userId⟩ s { s with users }
  | reregisterDevice {state code : String} {s devices} (d : DeviceRow) (platform : String) (now : Timestamp)
      (hmem : d ∈ s.devices) (h : s.devices.Mapped (fun r => if r.id = d.id then
        PostgresAuthRepository.reregister platform now r else r) devices) :
      Residue (.completeLogin state code) ⟨.registerDevice d.userId d.deviceKey platform now, .ok d.id⟩
        s { s with devices }
  | registerDevice {state code : String} {s devices} (d : DeviceRow) (now : Timestamp)
      (h : s.devices.Inserted d devices) : Residue (.completeLogin state code)
        ⟨.registerDevice d.userId d.deviceKey d.platform now, .ok d.id⟩ s { s with devices }
  | createSession {state code : String} {s sessions events} (r : SessionRow) (e : EventRow) (deviceId : Uuid)
      (hdevice : r.deviceId = some deviceId)
      (he : e.sessionId = some r.id ∧ e.userId = r.userId ∧ e.eventType = "session.created")
      (h : s.sessions.Inserted r sessions) (hev : s.events.Inserted e events) :
      Residue (.completeLogin state code)
        ⟨.createSession r.userId deviceId r.tokenFingerprint r.expiresAt, .ok r.id⟩ s { s with sessions, events }
  | consumeLoginGrant {code : String} {s s'} (now : Timestamp) (payload : String)
      (h : TakesGrant settings crypto code s s') : Residue (.exchangeLoginGrant code)
        ⟨.consumeLoginGrant (fingerprint settings crypto code) now, .ok (some payload)⟩ s s'

/-- The steps of a login. -/
def Request.ofLogin : Request → Bool
  | .startLogin .. | .completeLogin .. | .exchangeLoginGrant _ => true
  | _ => false

lemma Effect.residue (h : Effect d s s') (hspec : CallSpec settings crypto q t d.call)
    (hlogin : q.ofLogin = true)
    (hgrant : ∀ state code, q = .completeLogin state code → storesGrant d = false) :
    Residue settings crypto q d s s' := by
  cases q with
  | startLogin deviceKey platform =>
    cases h with
    | putFlow r hr => exact .putFlow r hr
    | failed | read | missFlow | missGrant | keepSession | keepDevice | missTicket => exact .unchanged ..
    | _ => simp [CallSpec] at hspec
  | completeLogin state code =>
    cases h with
    | consumeFlow r now ht hr =>
      obtain ⟨state', code', ⟨⟩, hfp, -⟩ := hspec
      rw [hfp]
      exact .consumeFlow now _ ⟨r, hfp, hr, rfl⟩
    | createUser identity u i hi hu hs ho hnone husers hids => exact .createUser identity u i hu hi ho husers hids
    | updateUser identity i hi hmem email displayName husers hemail hname =>
      exact .updateUser identity i hi hmem email displayName hemail hname husers
    | reregisterDevice d platform now hmem hm => exact .reregisterDevice d platform now hmem hm
    | registerDevice d now hnew hu hi => exact .registerDevice d now hi
    | createSession r e deviceId hd hr he hu hdev h hev => exact .createSession r e deviceId hd he h hev
    | putLoginGrant => cases hgrant state code rfl
    | failed | read | missFlow | missGrant | keepSession | keepDevice | missTicket => exact .unchanged ..
    | _ => simp [CallSpec] at hspec
  | exchangeLoginGrant code =>
    cases h with
    | consumeLoginGrant r now ht hr =>
      obtain ⟨code', ⟨⟩, hfp, -⟩ := hspec
      rw [hfp]
      exact .consumeLoginGrant now _ ⟨r, hfp, hr, rfl⟩
    | failed | read | missFlow | missGrant | keepSession | keepDevice | missTicket => exact .unchanged ..
    | _ => simp [CallSpec] at hspec
  | _ => cases hlogin

/-- A thread stores an item only once. -/
lemma noPut_of_puts {call : Call} (h : CallSpec settings crypto q t call) (hputs : call.puts = true) :
    NoPut t := by
  cases call with
  | putFlow | putLoginGrant | putWsTicket => exact h.1
  | _ => cases hputs

/-- Only `complete_login` is asked about here. -/
lemma serve_ungranted (q : Request) : Meets (fun _ _ => True) (fun t r => ∀ state code,
    q = .completeLogin state code → ∀ e, r = .error e → Ungranted t) [] (q.serve settings crypto) := by
  cases q with
  | completeLogin state code =>
    refine meets_bind ((completeLogin_ungranted state code).mono (fun _ _ h => h) fun t r h => ?_)
    cases r with
    | ok login =>
      rintro _ _ _ e ⟨⟩
    | error e => exact fun _ _ _ _ _ => h e rfl
  | _ => exact meets_trivial (fun _ _ => trivial) (fun _ _ _ _ hq => nomatch hq) _

/-- The arguments that `start_login` accepts. -/
def Startable (deviceKey platform : String) : Prop :=
  (8 ≤ deviceKey.length ∧ deviceKey.length ≤ 200) ∧ platform ∈ platforms

/-- Only a `start_login` that accepts its arguments makes calls. -/
lemma serve_startable (q : Request) : Meets (fun _ _ => ∀ deviceKey platform,
    q = .startLogin deviceKey platform → Startable deviceKey platform) (fun _ _ => True) []
    (q.serve settings crypto) := by
  cases q with
  | startLogin deviceKey platform =>
    refine meets_bind (meets_require_bind.mpr ⟨fun hkey => ?_, fun _ => trivial⟩)
    refine meets_require_bind.mpr ⟨fun hplatform => ?_, fun _ => trivial⟩
    refine meets_trivial ?_ (fun _ r => by cases r <;> trivial) _
    rintro - - _ _ ⟨⟩
    exact ⟨hkey, hplatform⟩
  | _ => exact meets_trivial (fun _ _ _ _ hq => nomatch hq) (fun _ _ => trivial) _

/-- A login step that raised left at most the rows that its completed calls wrote: never a grant,
at most one flow, and before its identity was provisioned nothing but the deletion of its flow. -/
theorem failed_login_leaves (hc : Run settings crypto c) {i : ℕ} {error : PyError}
    (hi : c.threads i = some ⟨q, .ret (.error error)⟩) :
    (q.ofLogin = true → ∀ e ∈ c.history, e.thread = i →
      Residue settings crypto q e.done e.before.store e.after.store) ∧
    (∀ deviceKey platform, q = .startLogin deviceKey platform →
      (own i c.history).countP (fun d => d.call.puts) ≤ 1 ∧
      (¬Startable deviceKey platform → own i c.history = [])) ∧
    ∀ state code, q = .completeLogin state code →
      (∀ identity userId, ¬Did (own i c.history) (.provisionIdentity identity) userId) →
      ∀ e ∈ c.history, e.thread = i →
        e.after.store = e.before.store ∨ TakesFlow settings crypto state e.before.store e.after.store := by
  have hresidue : q.ofLogin = true → ∀ e ∈ c.history, e.thread = i →
      Residue settings crypto q e.done e.before.store e.after.store := by
    intro hlogin e he hthread
    obtain ⟨h₁, h₀, hsplit, ⟨P⟩⟩ := hc.performed_mem he
    have hspec := performed_spec P
    rw [P.request_eq (by rw [hthread]; exact hi)] at hspec
    refine (performed_effect P).residue hspec hlogin fun state code hq => ?_
    exact hc.meets serve_ungranted hi state code hq error rfl e.done (mem_own.mpr ⟨e, he, hthread, rfl⟩)
  refine ⟨hresidue, fun deviceKey platform hq => ⟨countP_le_one ?_, fun hno => ?_⟩, ?_⟩
  · intro t₁ d t₀ hown hputs b hb
    obtain ⟨h₁, e, h₀, hsplit, rfl, rfl, -, rfl⟩ := own_eq_append_cons.mp hown
    obtain ⟨P⟩ := hc.performed hsplit
    exact noPut_of_puts (performed_spec P) hputs b hb
  · by_contra hne
    obtain ⟨d, hd⟩ := List.exists_mem_of_ne_nil _ hne
    obtain ⟨e, he, hthread, -⟩ := mem_own.mp hd
    obtain ⟨h₁, h₀, hsplit, ⟨P⟩⟩ := hc.performed_mem he
    refine hno (P.meets serve_startable deviceKey platform ?_)
    exact (P.request_eq (by rw [hthread]; exact hi)).trans hq
  · rintro state code rfl hno e he hthread
    obtain ⟨h₁, h₀, hsplit, ⟨P⟩⟩ := hc.performed_mem he
    have hspec := performed_spec P
    rw [P.request_eq (by rw [hthread]; exact hi), hthread] at hspec
    have hnever : ∀ {L : Login}, L.Provisioned settings crypto (own i h₀) → False :=
      fun hL => hno _ _ (hL.user.later hsplit)
    have hleft := hresidue rfl e he hthread
    generalize e.before.store = s at hleft ⊢
    generalize e.after.store = s' at hleft ⊢
    generalize hd : e.done = d at hleft hspec
    cases hleft with
    | unchanged => exact .inl rfl
    | consumeFlow now flow htaken => exact .inr htaken
    | createUser identity u => exact absurd (did_own.mpr ⟨e, he, hthread, hd⟩) (hno identity u.id)
    | updateUser identity row => exact absurd (did_own.mpr ⟨e, he, hthread, hd⟩) (hno identity row.userId)
    | reregisterDevice | registerDevice =>
      obtain ⟨L, -, hL, -⟩ := hspec
      exact (hnever hL).elim
    | createSession =>
      obtain ⟨L, -, hL, -⟩ := hspec
      exact (hnever hL.toProvisioned).elim

/-- Nothing is left but the deletion of the one-time item of the step. -/
def Traceless (settings : AuthSettings) (crypto : Primitives) (q : Request) (s s' : Store) : Prop :=
  match q with
  | .startLogin .. => ∀ r ∈ s'.flows, r ∈ s.flows
  | .completeLogin .. => s'.users = s.users ∧ s'.identities = s.identities ∧ s'.devices = s.devices ∧
      s'.sessions = s.sessions ∧ s'.events = s.events ∧ s'.grants = s.grants
  | .exchangeLoginGrant code => s' = s ∨ TakesGrant settings crypto code s s'
  | _ => True

end

namespace Sample

/-- The provider cannot be reached while a login starts. -/
def undiscovered : State := noRequests.serve machine 0 (.startLogin "device-key-1" "linux")
  [bytes 1, bytes 2, bytes 3, bytes 4, clockAt 0, uuids 1, unused, unused]

lemma run_undiscovered : Sampled undiscovered := run_noRequests.serve 0 _ _

lemma undiscovered_failed :
    undiscovered.threads 0 = some ⟨.startLogin "device-key-1" "linux", .ret (.error .httpError)⟩ := by
  have hdone : undiscovered.result 0 = some (.error .httpError) ∧
      (undiscovered.threads 0).map Thread.request = some (.startLogin "device-key-1" "linux") := by
    decide +kernel
  exact Config.threads_of_result hdone.1 hdone.2

end Sample

open Sample in
theorem failed_login_leaves_undiscovered :
    (own 0 undiscovered.history).countP (fun d => d.call.puts) ≤ 1 :=
  ((failed_login_leaves run_undiscovered undiscovered_failed).2.1 _ _ rfl).1

open Sample in
/-- A login that could not discover the provider leaves its flow. -/
theorem not_traceless_undiscovered : ¬∀ (c : State) (i : ℕ) (q : Request) (error : PyError), Sampled c →
    c.threads i = some ⟨q, .ret (.error error)⟩ → ∀ e ∈ c.history, e.thread = i →
    Traceless Sample.settings tables.primitives q e.before.store e.after.store := by
  intro h
  have hadded : undiscovered.history.any (fun e => e.thread = 0 ∧
      (e.after.store.flows.find fun _ => true).isSome ∧
      ¬(e.before.store.flows.find fun _ => true).isSome) = true := by decide +kernel
  obtain ⟨e, he, hp⟩ := List.any_eq_true.mp hadded
  obtain ⟨hthread, hafter, hbefore⟩ := of_decide_eq_true hp
  obtain ⟨r, hr, -⟩ := find_isSome.mp hafter
  have hold := h _ _ _ _ run_undiscovered undiscovered_failed e he hthread r hr
  exact hbefore (find_isSome.mpr ⟨r, hold, rfl⟩)

end Pentagon5.Auth
