import Pentagon5.Desktop.App

/-!
# The desktop session

When the Keychain loses its token, and how the token of the window and that of the Keychain agree,
over every interleaving of the handlers.
-/

namespace Pentagon5.Desktop

open Interleaving Interleaving.Prog Python

/-- The call changed the Keychain. -/
inductive IsWrite : Done Answer JsError → Prop where
  | stored (token : String) : IsWrite ⟨.storeToken token, .ok ()⟩
  | deleted : IsWrite ⟨.deleteToken, .ok ()⟩

/-- The last of the calls of a handler, if any, did not change the Keychain. -/
def Recorded (done : List (Done Answer JsError)) : Prop := ∀ d ∈ done.head?, ¬ IsWrite d

lemma recorded_nil : Recorded [] := nofun

/-- What is known of a call that a handler makes after the calls `done`. -/
structure Asks (handler : Handler) (done : List (Done Answer JsError)) (call : Call) : Prop where
  delete : call = .deleteToken → handler = .logout ∨
    ∃ token error, done.head? = some ⟨.getSession token, .error error⟩
  record : ¬ Recorded done → ∃ update, call = .update update
  update : ∀ update, call = .update update →
    update ≠ .session .authenticated ∧ update ≠ .signedOut .authenticated

section

variable {handler : Handler} {done : List (Done Answer JsError)}

lemma asks_of_recorded {call : Call} (h : Recorded done) (hdelete : call ≠ .deleteToken)
    (hupdate : ∀ update, call ≠ .update update) : Asks handler done call where
  delete := fun heq => absurd heq hdelete
  record := fun hno => absurd h hno
  update := fun update heq => absurd heq (hupdate update)

lemma asks_update {update : Update} (hsession : update ≠ .session .authenticated)
    (hout : update ≠ .signedOut .authenticated) : Asks handler done (.update update) where
  delete := nofun
  record := fun _ => ⟨update, rfl⟩
  update := by
    rintro _ ⟨⟩
    exact ⟨hsession, hout⟩

/-- A handler ends with its last change of the Keychain recorded. -/
abbrev Ends (done : List (Done Answer JsError)) (_ : Except JsError Unit) : Prop := Recorded done

lemma recorded_cons {d : Done Answer JsError} (h : ¬ IsWrite d) : Recorded (d :: done) := by
  rintro _ ⟨⟩
  exact h

lemma meets_setState {update : Update} (hsession : update ≠ .session .authenticated)
    (hout : update ≠ .signedOut .authenticated) : Meets (Asks handler) Ends done (setState update) :=
  ⟨asks_update hsession hout, fun _ => recorded_cons (by nofun)⟩

lemma meets_authenticate (h : Recorded done) (opaqueToken : String) :
    Meets (Asks handler) Ends done (authenticate opaqueToken) := by
  refine ⟨asks_of_recorded h nofun nofun, fun r => ?_⟩
  cases r with
  | ok user => exact meets_setState nofun nofun
  | error error =>
    refine ⟨⟨fun _ => .inr ⟨_, _, rfl⟩, fun hno => absurd (recorded_cons (by nofun)) hno, nofun⟩, fun r => ?_⟩
    apply meets_setState
    · nofun
    · intro heq
      split_ifs at heq <;> cases heq

lemma meets_pure_unit (h : Recorded done) : Meets (Asks handler) Ends done (pure () : Task Unit) := h

lemma meets_startup : Meets (Asks handler) Ends [] startup := by
  refine ⟨asks_of_recorded nofun nofun nofun, fun saved => ?_⟩
  refine ⟨asks_of_recorded (recorded_cons (by nofun)) nofun nofun, fun status => ?_⟩
  refine ⟨asks_of_recorded (recorded_cons (by nofun)) nofun nofun, fun active => ?_⟩
  have hrecorded : Recorded [⟨.active, active⟩, ⟨.getStatus, status⟩, ⟨.loadToken, saved⟩] :=
    recorded_cons (by nofun)
  cases active with
  | error e => exact hrecorded
  | ok active =>
    cases active with
    | false => exact meets_pure_unit hrecorded
    | true =>
      cases saved with
      | error e => exact meets_setState nofun nofun
      | ok saved =>
        cases status with
        | error e => exact meets_setState nofun nofun
        | ok status =>
          rcases htoken : truthy saved with _ | token
          · simp only [htoken]
            exact meets_setState nofun nofun
          · simp only [htoken]
            exact meets_authenticate hrecorded token

/-- What the `try` block of a handler returns with. -/
abbrev Returns (done : List (Done Answer JsError)) (r : Except JsError Unit) : Prop :=
  ∀ u, r = .ok u → Recorded done

lemma returns_of_ends {task : Task Unit} (h : Meets (Asks handler) Ends done task) :
    Meets (Asks handler) Returns done task :=
  h.mono (fun _ _ hask => hask) fun _ _ hr _ _ => hr

/-- A `catch` block that records its outcome. -/
lemma meets_tryCatch {task : Task Unit} {update : Update} (hsession : update ≠ .session .authenticated)
    (hout : update ≠ .signedOut .authenticated)
    (h : Meets (Asks handler) Returns done task) :
    Meets (Asks handler) Ends done (tryCatch task (setState update)) := by
  apply meets_handle
  refine h.mono (fun _ _ hask => hask) ?_
  intro d r hr
  cases r with
  | ok u => exact hr u rfl
  | error e => exact meets_setState hsession hout

variable {parseAuthCallback : Str → Except JsError ParsedAuthCallback} {isBlank : String → Bool}

lemma meets_exchangeGrant (h : Recorded done) (callbackUrl : Str) :
    Meets (Asks handler) Returns done (exchangeGrant parseAuthCallback callbackUrl) := by
  apply meets_ofExcept_bind.mpr
  refine ⟨fun callback _ => ?_, fun e _ => nofun⟩
  split
  · exact returns_of_ends (meets_setState nofun nofun)
  · exact nofun
  · refine meets_perform_bind.mpr ⟨asks_of_recorded h nofun nofun, fun result => ?_, fun e => nofun⟩
    refine meets_perform_bind.mpr
      ⟨asks_of_recorded (recorded_cons (by nofun)) nofun nofun, fun _ => ?_, fun e => nofun⟩
    exact returns_of_ends (meets_setState nofun nofun)

lemma meets_handleCallback (callbackUrl : Str) :
    Meets (Asks handler) Ends done (handleCallback parseAuthCallback callbackUrl) := by
  refine meets_perform_bind.mpr ⟨asks_update nofun nofun, fun _ => ?_, fun e => recorded_cons (by nofun)⟩
  exact meets_tryCatch nofun nofun (meets_exchangeGrant (recorded_cons (by nofun)) callbackUrl)

lemma meets_launchLogin (h : Recorded done) :
    Meets (Asks handler) Returns done launchLogin := by
  refine meets_perform_bind.mpr ⟨asks_of_recorded h nofun nofun, fun deviceKey => ?_, fun e => nofun⟩
  refine meets_perform_bind.mpr
    ⟨asks_of_recorded (recorded_cons (by nofun)) nofun nofun, fun url => ?_, fun e => nofun⟩
  exact ⟨asks_of_recorded (recorded_cons (by nofun)) nofun nofun, fun _ _ _ => recorded_cons (by nofun)⟩

lemma meets_login : Meets (Asks handler) Ends done login := by
  refine meets_perform_bind.mpr ⟨asks_update nofun nofun, fun _ => ?_, fun e => recorded_cons (by nofun)⟩
  exact meets_tryCatch nofun nofun (meets_launchLogin (recorded_cons (by nofun)))

lemma meets_revoke (h : Recorded done) (token : Option String) :
    Meets (Asks handler) Ends done (revoke isBlank token) := by
  unfold revoke
  split
  · exact meets_pure_unit h
  · split_ifs
    · exact h
    · exact ⟨asks_of_recorded h nofun nofun, fun r => recorded_cons (by nofun)⟩

lemma meets_logout (h : Recorded done) : Meets (Asks .logout) Ends done (logout isBlank) := by
  refine meets_perform_bind.mpr
    ⟨asks_of_recorded h nofun nofun, fun token => ?_, fun e => recorded_cons (by nofun)⟩
  apply meets_bind
  refine (meets_revoke (recorded_cons (by nofun)) token).mono (fun _ _ hask => hask) ?_
  intro d r hr
  cases r with
  | error e => exact hr
  | ok _ =>
    refine meets_perform_bind.mpr
      ⟨⟨fun _ => .inl rfl, fun hno => absurd hr hno, nofun⟩, fun _ => ?_, fun e => recorded_cons (by nofun)⟩
    exact meets_setState nofun nofun

/-- Every handler asks only for what is allowed and records its changes. -/
lemma meets_task (handler : Handler) :
    Meets (Asks handler) Ends [] (handler.task parseAuthCallback isBlank) := by
  cases handler with
  | startup => exact meets_startup
  | login => exact meets_login
  | callback callbackUrl => exact meets_handleCallback callbackUrl
  | logout => exact meets_logout recorded_nil

end

/-- Every way in which a call changes the Keychain and the window. -/
inductive Effect : Done Answer JsError → World → World → Prop where
  | same {d w} (hwrite : ¬ IsWrite d) (hupdate : ∀ update, d.call ≠ .update update) : Effect d w w
  | stored (token w) : Effect ⟨.storeToken token, .ok ()⟩ w { w with keychain := some token }
  | deleted (w) : Effect ⟨.deleteToken, .ok ()⟩ w { w with keychain := none }
  | updated (update w) : Effect ⟨.update update, .ok ()⟩ w { w with view := update.apply w.view }

lemma effect_answer (ω : Env) (w : World) (call : Call) :
    Effect ⟨call, (answer ω w call).1⟩ w (answer ω w call).2 := by
  cases call with
  | storeToken token =>
    change Effect ⟨.storeToken token, (storeAuthToken _ w token).1⟩ w (storeAuthToken _ w token).2
    unfold storeAuthToken
    split_ifs
    · split
      · exact .stored token w
      · exact .same (by nofun) nofun
    · exact .same (by nofun) nofun
  | deleteToken =>
    change Effect ⟨.deleteToken, (deleteAuthToken _ w).1⟩ w (deleteAuthToken _ w).2
    unfold deleteAuthToken
    split
    · exact .deleted w
    · exact .same (by nofun) nofun
  | update update => exact .updated update w
  | _ => exact .same (by nofun) nofun

lemma Effect.keychain {d : Done Answer JsError} {w w' : World} (h : Effect d w w') (hwrite : ¬ IsWrite d) :
    w'.keychain = w.keychain := by
  cases h with
  | same => rfl
  | stored token => exact absurd (.stored token) hwrite
  | deleted => exact absurd .deleted hwrite
  | updated => rfl

/-- Only a call that deletes empties the Keychain. -/
lemma Effect.eq_delete {d : Done Answer JsError} {w w' : World} {token : String} (h : Effect d w w')
    (hbefore : w.keychain = some token) (hafter : w'.keychain = none) : d = ⟨.deleteToken, .ok ()⟩ := by
  cases h with
  | same =>
    rw [hbefore] at hafter
    cases hafter
  | stored => cases hafter
  | deleted => rfl
  | updated =>
    rw [show w.keychain = none from hafter] at hbefore
    cases hbefore

lemma Effect.view {d : Done Answer JsError} {w w' : World} (h : Effect d w w')
    (hupdate : ∀ update, d.call ≠ .update update) : w'.view = w.view := by
  cases h with
  | updated update => exact absurd rfl (hupdate update)
  | _ => rfl

/-- The handler `i` made the last change of the Keychain and has not gone on since. -/
def PendingOf (i : ℕ) (history : List Event) : Prop :=
  ∃ h₁ e h₀, history = h₁ ++ e :: h₀ ∧ e.thread = i ∧ IsWrite e.done ∧
    ∀ a ∈ h₁, ¬ IsWrite a.done ∧ a.thread ≠ i

def Pending (history : List Event) : Prop := ∃ i, PendingOf i history

lemma pending_of_write {e : Event} (h : IsWrite e.done) (history : List Event) : Pending (e :: history) :=
  ⟨e.thread, [], e, history, rfl, rfl, h, List.forall_mem_nil _⟩

/-- A change stays pending while other handlers go on. -/
lemma PendingOf.cons {i : ℕ} {history : List Event} (h : PendingOf i history) {e : Event}
    (hwrite : ¬ IsWrite e.done) (hother : e.thread ≠ i) : PendingOf i (e :: history) := by
  obtain ⟨h₁, w, h₀, rfl, hthread, hw, hlater⟩ := h
  exact ⟨e :: h₁, w, h₀, rfl, hthread, hw, List.forall_mem_cons.mpr ⟨⟨hwrite, hother⟩, hlater⟩⟩

/-- The last call of the handler of a pending change was that change. -/
lemma PendingOf.not_recorded {i : ℕ} {history : List Event} (h : PendingOf i history) :
    ¬ Recorded (own i history) := by
  obtain ⟨h₁, w, h₀, rfl, rfl, hw, hlater⟩ := h
  have hown : own w.thread h₁ = [] :=
    List.map_eq_nil_iff.mpr (List.filter_eq_nil_iff.mpr fun a ha => by simpa using (hlater a ha).2)
  rw [own_append, hown, List.nil_append, own_cons_self rfl]
  exact fun hrecorded => hrecorded w.done rfl hw

/-- The backend refuses the token. -/
def Refused (error : JsError) : Prop := error = .apiClientError 401 ∨ error = .apiClientError 403

/-- The handler is in the catch block of `authenticate`, which caught this error for this token. -/
def Caught (c : State) (i : ℕ) (token : String) (error : JsError) : Prop :=
  (own i c.history).head? = some ⟨.getSession token, .error error⟩

/-- What the state before a step has to meet. The catch block of `authenticate` goes on only if the
Keychain is empty, or the error is a refusal and the Keychain holds the token that was asked about. A
handler signs in only with the token of the Keychain, unless another handler has changed the Keychain and
is about to record it. -/
structure Careful (c c' : State) : Prop where
  delete : ∀ e, c'.history = e :: c.history → ∀ token error, Caught c e.thread token error →
    c.state.keychain = none ∨ Refused error ∧ c.state.keychain = some token
  signIn : ∀ e, c'.history = e :: c.history → ∀ token user, e.done.call = .update (.signedIn token user) →
    c.state.keychain = some token ∨ ∃ i, i ≠ e.thread ∧ PendingOf i c.history

/-- Every handler has ended. -/
def Idle (c : State) : Prop := ∀ i t, c.threads i = some t → ∃ r, t.program = .ret r

/-- The Keychain lost its token only to a logout or after the backend refused that token. -/
def OnlyRefusedDeleted (c : State) : Prop :=
  ∀ h₁ e h₀ token, c.history = h₁ ++ e :: h₀ → e.before.keychain = some token → e.after.keychain = none →
    (∃ p, c.threads e.thread = some ⟨.logout, p⟩) ∨
      ∃ a ∈ h₀, ∃ error, Refused error ∧ a.done = ⟨.getSession token, .error error⟩

/-- The token of an authenticated window is that of the Keychain. -/
def Agrees (c : State) : Prop :=
  c.state.view.session = .authenticated →
    ∃ token, c.state.view.token = some token ∧ c.state.keychain = some token

/-- As `Agrees`, up to changes that are not yet recorded. -/
def AgreesSoon (c : State) : Prop :=
  c.state.view.session = .authenticated →
    ∃ token, c.state.view.token = some token ∧ (c.state.keychain = some token ∨ Pending c.history)

section

variable {parseAuthCallback : Str → Except JsError ParsedAuthCallback} {isBlank : String → Bool}
  {c c' : State}

lemma asks_of_thread (hc : Reachable (app parseAuthCallback isBlank) Initial c) {i : ℕ} {handler : Handler}
    {call : Call} {next : Except JsError (Answer call) → Task Unit}
    (ht : c.threads i = some ⟨handler, .call call next⟩) : Asks handler (own i c.history) call :=
  (hc.meets meets_task ht).1

lemma onlyRefusedDeleted_step (hc : Reachable (app parseAuthCallback isBlank) Initial c)
    (hs : Step (app parseAuthCallback isBlank) c c') (hcareful : Careful c c')
    (h : OnlyRefusedDeleted c) : OnlyRefusedDeleted c' := by
  have holder : ∀ h₁ e h₀ token, c.history = h₁ ++ e :: h₀ → e.before.keychain = some token →
      e.after.keychain = none → (∃ p, c'.threads e.thread = some ⟨.logout, p⟩) ∨
        ∃ a ∈ h₀, ∃ error, Refused error ∧ a.done = ⟨.getSession token, .error error⟩ := by
    intro h₁ e h₀ token hhistory hbefore hafter
    rcases h h₁ e h₀ token hhistory hbefore hafter with ⟨p, hp⟩ | hrefused
    · exact .inl (hs.request hp)
    · exact .inr hrefused
  intro h₁ e h₀ token hhistory hbefore hafter
  cases hs with
  | arrive i q hi => exact holder h₁ e h₀ token hhistory hbefore hafter
  | environment s hs => exact hs.elim
  | perform i q call next ω ht hω =>
    cases h₁ with
    | cons a h₁ => exact holder h₁ e h₀ token (List.cons.inj hhistory).2 hbefore hafter
    | nil =>
      obtain ⟨rfl, rfl⟩ := List.cons.inj hhistory
      have hdone := (effect_answer ω c.state call).eq_delete hbefore hafter
      obtain rfl : call = .deleteToken := congrArg Done.call hdone
      rcases (asks_of_thread hc ht).delete rfl with rfl | ⟨asked, error, hhead⟩
      · exact .inl ⟨_, Config.perform_self _ c i _ _ next ω⟩
      · right
        rcases hcareful.delete _ rfl asked error hhead with hnone | ⟨hrefused, hkeychain⟩
        · rw [hnone] at hbefore
          cases hbefore
        · obtain rfl := Option.some.inj (hbefore.symm.trans hkeychain)
          obtain ⟨a, ha, -, hask⟩ := mem_own.mp (List.mem_of_mem_head? hhead)
          exact ⟨a, ha, error, hrefused, hask⟩

lemma agreesSoon_step (hc : Reachable (app parseAuthCallback isBlank) Initial c)
    (hs : Step (app parseAuthCallback isBlank) c c') (hcareful : Careful c c')
    (h : AgreesSoon c) : AgreesSoon c' := by
  cases hs with
  | arrive i q hi => exact h
  | environment s hs => exact hs.elim
  | perform i q call next ω ht hω =>
    have hasks := asks_of_thread hc ht
    have heffect := effect_answer ω c.state call
    by_cases hupdate : ∃ update, call = .update update
    · obtain ⟨update, rfl⟩ := hupdate
      obtain ⟨hsession, hout⟩ := hasks.update update rfl
      intro hauthenticated
      cases update with
      | session next => exact absurd (congrArg Update.session hauthenticated) hsession
      | signedOut next => exact absurd (congrArg Update.signedOut hauthenticated) hout
      | signedIn token user =>
        refine ⟨token, rfl, ?_⟩
        rcases hcareful.signIn _ rfl token user rfl with hkeychain | ⟨other, hother, hpending⟩
        · exact .inl hkeychain
        · exact .inr ⟨other, hpending.cons (by nofun) (Ne.symm hother)⟩
    · have hcall : ∀ update, call ≠ .update update := fun update heq => hupdate ⟨update, heq⟩
      intro hauthenticated
      rw [Config.perform_state, show (app parseAuthCallback isBlank).answer = answer from rfl,
        heffect.view hcall] at hauthenticated
      obtain ⟨token, htoken, hagree⟩ := h hauthenticated
      refine ⟨token, ?_, ?_⟩
      · rw [Config.perform_state, show (app parseAuthCallback isBlank).answer = answer from rfl,
          heffect.view hcall]
        exact htoken
      · by_cases hwrite : IsWrite ⟨call, (answer ω c.state call).1⟩
        · exact .inr (pending_of_write hwrite c.history)
        · rcases hagree with hkeychain | ⟨other, hpending⟩
          · exact .inl ((heffect.keychain hwrite).trans hkeychain)
          · right
            refine ⟨other, hpending.cons hwrite ?_⟩
            rintro rfl
            exact hupdate (hasks.record hpending.not_recorded)

/-- When every handler has ended, no change of the Keychain is pending. -/
lemma not_pending_of_idle (hc : Reachable (app parseAuthCallback isBlank) Initial c) (h : Idle c) :
    ¬ Pending c.history := by
  rintro ⟨i, hpending⟩
  obtain ⟨h₁, e, h₀, hhistory, rfl, -⟩ := id hpending
  obtain ⟨P⟩ := hc.performed hhistory
  obtain ⟨r, hr⟩ := h _ _ P.now
  have hmeets := hc.meets meets_task P.now
  rw [show P.program = .ret r from hr] at hmeets
  exact hpending.not_recorded hmeets

/-- In every run whose steps are careful, the Keychain loses its token only to a logout or after the
backend refused that token, and when every handler has ended an authenticated window has the token of
the Keychain. -/
theorem session_kept
    (hc : ReachableBy (app parseAuthCallback isBlank) Initial Careful c) :
    OnlyRefusedDeleted c ∧ (Idle c → Agrees c) := by
  have hinvariant : OnlyRefusedDeleted c ∧ AgreesSoon c := by
    induction hc with
    | start h =>
      constructor
      · intro h₁ e h₀ token hhistory
        simp at hhistory
      · intro hauthenticated
        rw [show _ = View.init from h] at hauthenticated
        cases hauthenticated
    | step hc hs hcareful ih =>
      exact ⟨onlyRefusedDeleted_step hc.reachable hs hcareful ih.1,
        agreesSoon_step hc.reachable hs hcareful ih.2⟩
  refine ⟨hinvariant.1, fun hidle hauthenticated => ?_⟩
  obtain ⟨token, htoken, hagree⟩ := hinvariant.2 hauthenticated
  exact ⟨token, htoken, hagree.resolve_right (not_pending_of_idle hc.reachable hidle)⟩

end

namespace Sample

def parse (_ : Str) : Except JsError ParsedAuthCallback := .ok ⟨some "grant", none⟩

abbrev desktop : Machine Answer JsError Env World Handler Unit := app parse fun _ => false

instance (history : List Event) (ω : Env) (call : Call) : Decidable (desktop.admissible history ω call) :=
  .isTrue trivial

def user : Client.Session := ⟨"u", "s", "user@example.test", "User", [], [], "2026-01-01T00:00:00Z"⟩

def oldToken : String := "oooooooooooooooooooooooooooooooo"

def newToken : String := "nnnnnnnnnnnnnnnnnnnnnnnnnnnnnnnn"

/-- Everything succeeds, and a login yields the new token. -/
def up : Env
  | .getStatus => .ok ()
  | .getSession _ => .ok user
  | .exchangeOidcGrant _ => .ok ⟨newToken, user⟩
  | .beginOidcLogin _ => .ok ""
  | .logout _ => .ok ()
  | .loadToken => .ok none
  | .storeToken _ => .ok ()
  | .deleteToken => .ok ()
  | .getOrCreateDeviceKey => .ok ""
  | .openOidcLogin _ => .ok ()
  | .active => .ok true
  | .token => .ok none
  | .update _ => .ok ()

/-- The connection breaks while the session is asked for. -/
def broken : Env
  | .getSession _ => .error .other
  | c => up c

/-- A window that opens over the old token. -/
def opened : State := ⟨⟨some oldToken, View.init⟩, fun _ => none, []⟩

lemma opened_reachable : Reachable desktop Initial opened := .start rfl

/-- The startup with a broken connection. -/
def transientFailure : State := opened.serve desktop 0 .startup (List.replicate 6 broken)

/-- A login that completes while the startup waits for the session of the old token. -/
def lateAnswer : State :=
  ((opened.serve desktop 0 .startup (List.replicate 3 up)).serve desktop 1 (.callback "") (List.replicate 4 up)).advance
    desktop 0 (List.replicate 2 up)

lemma transientFailure_deletes : ¬ OnlyRefusedDeleted transientFailure := by
  intro h
  rcases h [_] _ _ oldToken rfl rfl rfl with ⟨p, hp⟩ | ⟨a, ha, error, hrefused, hdone⟩
  · have hrequest := congrArg (Option.map Thread.request) hp
    change some Handler.startup = some Handler.logout at hrequest
    cases hrequest
  · have hasked : ∀ d ∈ [(⟨.getSession oldToken, .error .other⟩ : Done Answer JsError), ⟨.active, .ok true⟩,
        ⟨.getStatus, .ok ()⟩, ⟨.loadToken, .ok (some oldToken)⟩], ∀ error, Refused error →
        d ≠ ⟨.getSession oldToken, .error error⟩ := by
      simp [Refused]
    exact hasked a.done (List.mem_map_of_mem ha) error hrefused hdone

lemma lateAnswer_idle : Idle lateAnswer := by
  intro i t ht
  by_cases h0 : i = 0
  · subst h0
    obtain rfl := Option.some.inj ht
    exact ⟨_, rfl⟩
  · by_cases h1 : i = 1
    · subst h1
      obtain rfl := Option.some.inj ht
      exact ⟨_, rfl⟩
    · have hnone : lateAnswer.threads i = none := by
        rw [lateAnswer, Config.advance_other h0, Config.serve_other h1, Config.serve_other h0]
        rfl
      rw [hnone] at ht
      cases ht

/-- A broken connection discards the token of a valid session, and a late answer leaves an authenticated
window with another token than the Keychain. -/
theorem session_lost :
    (∃ c, Reachable desktop Initial c ∧ ¬ OnlyRefusedDeleted c) ∧
      ∃ c, Reachable desktop Initial c ∧ Idle c ∧ ¬ Agrees c := by
  constructor
  · exact ⟨transientFailure, opened_reachable.serve _ _ _, transientFailure_deletes⟩
  · refine ⟨lateAnswer, ?_, lateAnswer_idle, ?_⟩
    · exact ((opened_reachable.serve _ _ _).serve _ _ _).steps (Config.advance_steps _ _ _)
    · intro h
      obtain ⟨token, htoken, hkeychain⟩ := h rfl
      obtain rfl := Option.some.inj (show some oldToken = some token from htoken)
      exact absurd (show some newToken = some oldToken from hkeychain) (by decide)

lemma careful_perform {c : State} {i : ℕ} {handler : Handler} {call : Call}
    {next : Except JsError (Answer call) → Task Unit} {ω : Env}
    (hcaught : ∀ token error, ¬ Caught c i token error)
    (hsignIn : ∀ token user, call = .update (.signedIn token user) → c.state.keychain = some token) :
    Careful c (c.perform desktop i handler call next ω) where
  delete := by
    intro e he token error hcatch
    obtain rfl := (List.cons.inj he).1
    exact absurd hcatch (hcaught token error)
  signIn := by
    intro e he token user hcall
    obtain rfl := (List.cons.inj he).1
    exact .inl (hsignIn token user hcall)

/-- The startup over a valid session. -/
def restored : State := opened.serve desktop 0 .startup (List.replicate 5 up)

lemma restored_careful : ReachableBy desktop Initial Careful restored := by
  have hquiet : ∀ {c : State} {handler : Handler} {call : Call}
      {next : Except JsError (Answer call) → Task Unit}, ReachableBy desktop Initial Careful c →
      c.threads 0 = some ⟨handler, .call call next⟩ → (∀ token error, ¬ Caught c 0 token error) →
      (∀ token user, call = .update (.signedIn token user) → c.state.keychain = some token) →
      ReachableBy desktop Initial Careful (c.perform desktop 0 handler call next up) :=
    fun hc ht hcaught hsignIn => hc.step (.perform 0 _ _ _ up ht trivial) (careful_perform hcaught hsignIn)
  have hopened : ReachableBy desktop Initial Careful opened := .start rfl
  have harrive : ReachableBy desktop Initial Careful (opened.arrive desktop 0 .startup) :=
    hopened.step (.arrive 0 Handler.startup rfl) ⟨fun e he => by simp at he, fun e he => by simp at he⟩
  have hasked := hquiet (hquiet (hquiet (hquiet harrive rfl nofun nofun) rfl nofun nofun) rfl nofun nofun) rfl
    nofun nofun
  have hanswered : ∀ token error,
      ¬ Caught (opened.serve desktop 0 .startup (List.replicate 4 up)) 0 token error := by
    intro token error hcaught
    have hfailed : some true = some false :=
      congrArg (Option.map fun d : Done Answer JsError => d.answer.toBool) hcaught
    exact absurd hfailed (by decide)
  exact hquiet hasked rfl hanswered (by rintro _ _ ⟨⟩; rfl)

/-- The restored session is kept. -/
theorem session_kept_restored : OnlyRefusedDeleted restored ∧ (Idle restored → Agrees restored) :=
  session_kept restored_careful

end Sample

end Pentagon5.Desktop
