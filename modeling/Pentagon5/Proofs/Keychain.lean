import Pentagon5.Desktop.Keychain
import Pentagon5.Interleaving.Simulation
import Pentagon5.Proofs.Handoff
import Pentagon5.Python.Uuid

/-!
# The Keychain of the desktop

The application over the shell is a run of the application over an abstract Keychain. The token that is
loaded is the one stored last, and a device has one key for good, which the service accepts.
-/

namespace Pentagon5.Desktop.Shell

open Interleaving Interleaving.Prog Python

def tokenCredential : Credential := (KEYCHAIN_SERVICE, TOKEN_ACCOUNT)

def deviceCredential : Credential := (KEYCHAIN_SERVICE, DEVICE_ACCOUNT)

lemma token_ne_device : tokenCredential ≠ deviceCredential := by decide

section

variable {Store Entry KeyringError Platform : Type} {K : Crates Store Entry KeyringError Platform}
  {credential : Entry → Credential} {password : Store → Credential → Option String} {p : Platform} {k : Store}
  {token : String}

section

variable (hK : K.Documented credential password)

include hK

lemma credential_of_keychainEntry {account : String} {entry : Entry} (h : keychainEntry K p account = .ok entry) :
    credential entry = (KEYCHAIN_SERVICE, account) := by
  unfold keychainEntry at h
  cases hentry : K.newEntry p KEYCHAIN_SERVICE account with
  | error e =>
    rw [hentry] at h
    cases h
  | ok entry' =>
    rw [hentry] at h
    obtain rfl := Except.ok.inj h
    exact hK.newEntry hentry

lemma setPassword_cases (p : Platform) (k : Store) (entry : Entry) (text : String) :
    (∃ e k', K.setPassword p k entry text = (.error e, k') ∧ password k' = password k) ∨
      ∃ k', K.setPassword p k entry text = (.ok (), k') ∧
        password k' = Function.update (password k) (credential entry) (some text) := by
  rcases hset : K.setPassword p k entry text with ⟨e | u, k'⟩
  · exact .inl ⟨e, k', rfl, hK.setPassword_error hset⟩
  · exact .inr ⟨k', rfl, hK.setPassword hset⟩

/-- A token is stored, or the command fails and changes nothing. -/
lemma storeAuthToken_cases (p : Platform) (k : Store) (token : String) :
    (∃ e k', storeAuthToken K p k token = (.error e, k') ∧ password k' = password k) ∨
      isStorable token ∧ ∃ k', storeAuthToken K p k token = (.ok (), k') ∧
        password k' = Function.update (password k) tokenCredential (some token) := by
  unfold storeAuthToken
  split_ifs with hlength
  · exact .inl ⟨_, _, rfl, rfl⟩
  · split
    · exact .inl ⟨_, _, rfl, rfl⟩
    · next entry hentry =>
      rcases setPassword_cases hK p k entry token with ⟨e, k', hset, hsame⟩ | ⟨k', hset, hnew⟩
      · rw [hset]
        exact .inl ⟨_, _, rfl, hsame⟩
      · rw [hset]
        rw [credential_of_keychainEntry hK hentry] at hnew
        exact .inr ⟨⟨by omega, by omega⟩, _, rfl, hnew⟩

/-- The token is deleted, or the command fails and changes nothing. -/
lemma deleteAuthToken_cases (p : Platform) (k : Store) :
    (∃ e k', deleteAuthToken K p k = (.error e, k') ∧ password k' = password k) ∨
      ∃ k', deleteAuthToken K p k = (.ok (), k') ∧
        password k' = Function.update (password k) tokenCredential none := by
  unfold deleteAuthToken
  split
  · exact .inl ⟨_, _, rfl, rfl⟩
  · next entry hentry =>
    have hcredential := credential_of_keychainEntry hK hentry
    split
    · next k' hdelete =>
      refine .inr ⟨k', rfl, ?_⟩
      rw [hK.deleteCredential hdelete, hcredential]
      rfl
    · next error k' hdelete =>
      have hsame := hK.deleteCredential_error hdelete
      by_cases hnone : K.isNoEntry error = true
      · -- Without an entry there is no password to delete.
        have habsent := hK.deleteCredential_noEntry hdelete hnone
        rw [hcredential] at habsent
        refine .inr ⟨k', by rw [if_pos hnone], ?_⟩
        rw [hsame, ← show password k tokenCredential = none from habsent, Function.update_eq_self]
      · exact .inl ⟨_, k', by rw [if_neg hnone], hsame⟩

/-- What is loaded is what the Keychain holds. -/
lemma loadAuthToken_eq_ok {loaded : Option String} (h : loadAuthToken K p k = .ok loaded) :
    loaded = password k tokenCredential := by
  unfold loadAuthToken at h
  split at h
  · cases h
  · next entry hentry =>
    have hcredential := credential_of_keychainEntry hK hentry
    split at h
    · next token hget =>
      obtain rfl := Except.ok.inj h
      have hheld := hK.getPassword hget
      rw [hcredential] at hheld
      exact hheld.symm
    · next error hget =>
      split_ifs at h with hnone
      · obtain rfl := Except.ok.inj h
        have habsent := hK.getPassword_noEntry hget hnone
        rw [hcredential] at habsent
        exact habsent.symm

lemma createDeviceKey_cases (p : Platform) (k : Store) (entry : Entry) :
    (∃ e k', createDeviceKey K p k entry = (.error e, k') ∧ password k' = password k) ∨
      ∃ k', createDeviceKey K p k entry = (.ok (newDeviceKey K p), k') ∧
        password k' = Function.update (password k) (credential entry) (some (newDeviceKey K p)) := by
  unfold createDeviceKey
  rcases setPassword_cases hK p k entry (newDeviceKey K p) with ⟨e, k', hset, hsame⟩ | ⟨k', hset, hnew⟩
  · simp only [hset]
    exact .inl ⟨_, k', rfl, hsame⟩
  · simp only [hset]
    exact .inr ⟨k', rfl, hnew⟩

/-- A device key of good length is kept, another one is replaced; or the command fails and changes nothing. -/
lemma getOrCreateDeviceKey_cases (p : Platform) (k : Store) :
    (∃ e k', getOrCreateDeviceKey K p k = (.error e, k') ∧ password k' = password k) ∨
    (∃ deviceKey, password k deviceCredential = some deviceKey ∧ isDeviceKey deviceKey ∧
      getOrCreateDeviceKey K p k = (.ok deviceKey, k)) ∨
    (∀ deviceKey, password k deviceCredential = some deviceKey → ¬isDeviceKey deviceKey) ∧
      ∃ k', getOrCreateDeviceKey K p k = (.ok (newDeviceKey K p), k') ∧
        password k' = Function.update (password k) deviceCredential (some (newDeviceKey K p)) := by
  unfold getOrCreateDeviceKey
  split
  · exact .inl ⟨_, _, rfl, rfl⟩
  · next entry hentry =>
    have hcredential : credential entry = deviceCredential := credential_of_keychainEntry hK hentry
    have hcreate := createDeviceKey_cases hK p k entry
    rw [hcredential] at hcreate
    split
    · next deviceKey hget =>
      have hheld := hK.getPassword hget
      rw [hcredential] at hheld
      by_cases hkey : isDeviceKey deviceKey
      · exact .inr (.inl ⟨deviceKey, hheld, hkey, by rw [if_pos hkey]⟩)
      · rw [if_neg hkey]
        refine hcreate.imp id fun hnew => .inr ⟨?_, hnew⟩
        intro other hother
        rw [← Option.some.inj (hheld.symm.trans hother)]
        exact hkey
    · next error hget =>
      by_cases hnone : K.isNoEntry error = true
      · have habsent := hK.getPassword_noEntry hget hnone
        rw [hcredential] at habsent
        rw [if_pos hnone]
        refine hcreate.imp id fun hnew => .inr ⟨?_, hnew⟩
        intro other hother
        rw [habsent] at hother
        cases hother
      · rw [if_neg hnone]
        exact .inl ⟨_, _, rfl, rfl⟩

/-- A new device key is `desktop-` and the 36 characters of a UUID. -/
lemma newDeviceKey_length (p : Platform) :
    (newDeviceKey K p).utf8ByteSize = 44 ∧ (newDeviceKey K p).length = 44 := by
  obtain ⟨hbytes, hlength⟩ := hK.newV4 p
  have hdesktop : "desktop-".utf8ByteSize = 8 ∧ "desktop-".length = 8 := by decide
  rw [newDeviceKey, String.utf8ByteSize_append, String.length_append, hbytes, hlength, hdesktop.1, hdesktop.2]
  exact ⟨rfl, rfl⟩

end

/-- What the application takes the answers of the shell to be. -/
def envOf (K : Crates Store Entry KeyringError Platform) (ω : Env × Platform) (s : World Store) : Env
  | .loadToken => invoked (loadAuthToken K ω.2 s.keyring)
  | .storeToken token => invoked (storeAuthToken K ω.2 s.keyring token).1
  | .deleteToken => invoked (deleteAuthToken K ω.2 s.keyring).1
  | .getOrCreateDeviceKey => invoked (getOrCreateDeviceKey K ω.2 s.keyring).1
  | other => ω.1 other

/-- The window and its Keychain, as the application sees them. -/
def abstraction (K : Crates Store Entry KeyringError Platform) (password : Store → Credential → Option String) :
    Abstraction (Env × Platform) Env (World Store) Desktop.World where
  state s := ⟨password s.keyring tokenCredential, s.view⟩
  env := envOf K

/-- The shell does what the application takes a Keychain to do. -/
lemma answer_abstraction (hK : K.Documented credential password) (ω : Env × Platform) (s : World Store)
    (call : Call) :
    Desktop.answer ((abstraction K password).env ω s) ((abstraction K password).state s) call =
      ((answer K ω s call).1, (abstraction K password).state (answer K ω s call).2) := by
  cases call with
  | loadToken =>
    change ((invoked (loadAuthToken K ω.2 s.keyring)).map fun _ => password s.keyring tokenCredential,
      (abstraction K password).state s) = (invoked (loadAuthToken K ω.2 s.keyring), (abstraction K password).state s)
    cases hload : loadAuthToken K ω.2 s.keyring with
    | error e => rfl
    | ok loaded =>
      rw [loadAuthToken_eq_ok hK hload]
      rfl
  | storeToken token =>
    change Desktop.storeAuthToken (invoked (storeAuthToken K ω.2 s.keyring token).1)
        ((abstraction K password).state s) token =
      (invoked (storeAuthToken K ω.2 s.keyring token).1,
        ⟨password (storeAuthToken K ω.2 s.keyring token).2 tokenCredential, s.view⟩)
    rcases storeAuthToken_cases hK ω.2 s.keyring token with ⟨e, k', he, hsame⟩ | ⟨hstorable, k', he, hnew⟩
    · rw [he, hsame]
      unfold Desktop.storeAuthToken
      split_ifs <;> rfl
    · simp only [he, hnew, Function.update_self]
      exact if_pos hstorable
  | deleteToken =>
    change Desktop.deleteAuthToken (invoked (deleteAuthToken K ω.2 s.keyring).1) ((abstraction K password).state s) =
      (invoked (deleteAuthToken K ω.2 s.keyring).1,
        ⟨password (deleteAuthToken K ω.2 s.keyring).2 tokenCredential, s.view⟩)
    rcases deleteAuthToken_cases hK ω.2 s.keyring with ⟨e, k', he, hsame⟩ | ⟨k', he, hnew⟩
    · rw [he, hsame]
      rfl
    · simp only [he, hnew, Function.update_self]
      rfl
  | getOrCreateDeviceKey =>
    change (invoked (getOrCreateDeviceKey K ω.2 s.keyring).1, (abstraction K password).state s) =
      (invoked (getOrCreateDeviceKey K ω.2 s.keyring).1,
        ⟨password (getOrCreateDeviceKey K ω.2 s.keyring).2 tokenCredential, s.view⟩)
    rcases getOrCreateDeviceKey_cases hK ω.2 s.keyring with
      ⟨e, k', he, hsame⟩ | ⟨deviceKey, -, -, he⟩ | ⟨-, k', he, hnew⟩
    · rw [he, hsame]
      rfl
    · rw [he]
      rfl
    · simp only [he, hnew, Function.update_of_ne token_ne_device]
      rfl
  | _ => rfl

variable {parseAuthCallback : Str → Except JsError ParsedAuthCallback} {isBlank : String → Bool}

lemma simulates_desktop (hK : K.Documented credential password) :
    Simulates (desktop K parseAuthCallback isBlank) (app parseAuthCallback isBlank) (abstraction K password) where
  serve := rfl
  answer := answer_abstraction hK
  admissible _ _ _ _ _ := trivial
  environment _ _ h := h

/-- The token in the Keychain after a call. -/
def tokenStep (token : Option String) : Done Answer JsError → Option String
  | ⟨.storeToken stored, .ok _⟩ => some stored
  | ⟨.deleteToken, .ok _⟩ => none
  | _ => token

/-- The token that was stored last and not deleted since. -/
def tokenAfter (initial : Option String)
    (history : List (Interleaving.Entry Answer JsError (Env × Platform) (World Store))) : Option String :=
  history.foldr (fun e token => tokenStep token e.done) initial

lemma answer_token (hK : K.Documented credential password) (ω : Env × Platform) (s : World Store) (call : Call) :
    password (answer K ω s call).2.keyring tokenCredential =
      tokenStep (password s.keyring tokenCredential) ⟨call, (answer K ω s call).1⟩ := by
  cases call with
  | storeToken token =>
    change password (storeAuthToken K ω.2 s.keyring token).2 tokenCredential =
      tokenStep _ ⟨.storeToken token, invoked (storeAuthToken K ω.2 s.keyring token).1⟩
    rcases storeAuthToken_cases hK ω.2 s.keyring token with ⟨e, k', he, hsame⟩ | ⟨-, k', he, hnew⟩
    · rw [he, hsame]
      rfl
    · simp only [he, hnew, Function.update_self]
      rfl
  | deleteToken =>
    change password (deleteAuthToken K ω.2 s.keyring).2 tokenCredential =
      tokenStep _ ⟨.deleteToken, invoked (deleteAuthToken K ω.2 s.keyring).1⟩
    rcases deleteAuthToken_cases hK ω.2 s.keyring with ⟨e, k', he, hsame⟩ | ⟨k', he, hnew⟩
    · rw [he, hsame]
      rfl
    · simp only [he, hnew, Function.update_self]
      rfl
  | getOrCreateDeviceKey =>
    change password (getOrCreateDeviceKey K ω.2 s.keyring).2 tokenCredential = password s.keyring tokenCredential
    rcases getOrCreateDeviceKey_cases hK ω.2 s.keyring with
      ⟨e, k', he, hsame⟩ | ⟨deviceKey, -, -, he⟩ | ⟨-, k', he, hnew⟩
    · rw [he, hsame]
    · rw [he]
    · simp only [he, hnew, Function.update_of_ne token_ne_device]
  | _ => rfl

variable {c : Config Answer JsError (Env × Platform) (World Store) Handler Unit}

/-- A fresh window over these credentials. -/
def Opened (k : Store) (s : World Store) : Prop := s.keyring = k ∧ s.view = View.init

lemma token_of_run (hK : K.Documented credential password)
    (hc : Reachable (desktop K parseAuthCallback isBlank) (Opened k) c) :
    password c.state.keyring tokenCredential = tokenAfter (password k tokenCredential) c.history := by
  induction hc with
  | start hs => exact congrArg (password · tokenCredential) hs.1
  | step hc hs ih =>
    cases hs with
    | arrive i q hi => exact ih
    | environment s hs => exact hs.elim
    | perform i q call next ω ht hω =>
      refine (answer_token hK ω _ call).trans ?_
      rw [ih]
      rfl

/-- In every run over the shell the handlers do what they may do over an abstract Keychain; the Keychain holds
the token that was stored last and not deleted since, and this is what is loaded. -/
theorem keychain_of_run (hK : K.Documented credential password)
    (hc : Reachable (desktop K parseAuthCallback isBlank) (Opened k) c) :
    Reachable (app parseAuthCallback isBlank) Initial ((abstraction K password).config c) ∧
      password c.state.keyring tokenCredential = tokenAfter (password k tokenCredential) c.history ∧
      ∀ h₁ e h₀ loaded, c.history = h₁ ++ e :: h₀ → e.done = ⟨.loadToken, .ok loaded⟩ →
        loaded = tokenAfter (password k tokenCredential) h₀ := by
  refine ⟨(simulates_desktop hK).reachable (fun s hs => hs.2) hc, token_of_run hK hc, ?_⟩
  intro h₁ e h₀ loaded hsplit hdone
  obtain ⟨P⟩ := hc.performed hsplit
  have htoken := token_of_run hK P.reachable
  have hload : invoked (loadAuthToken K e.env.2 e.before.keyring) = .ok loaded :=
    congrArg Prod.fst (P.answer_eq hdone)
  rw [P.state, P.history] at htoken
  rw [← htoken]
  cases hcommand : loadAuthToken K e.env.2 e.before.keyring with
  | error e' =>
    rw [hcommand] at hload
    cases hload
  | ok loaded' =>
    rw [hcommand] at hload
    rw [← Except.ok.inj hload]
    exact loadAuthToken_eq_ok hK hcommand

lemma length_le_utf8ByteSize (text : String) : text.length ≤ text.utf8ByteSize := by
  have hsize : text.utf8ByteSize = (text.toList.flatMap String.utf8EncodeChar).length :=
    congrArg List.length (encode_eq text)
  rw [hsize, ← String.length_toList]
  induction text.toList with
  | nil => exact Nat.le_refl _
  | cons c cs ih =>
    have hpos := List.length_pos_iff.mpr (String.utf8EncodeChar_ne_nil (c := c))
    rw [List.flatMap_cons, List.length_append, List.length_cons]
    omega

/-- The shell handed out this device key. -/
def HandsOut (deviceKey : String) (e : Interleaving.Entry Answer JsError (Env × Platform) (World Store)) : Prop :=
  e.done = ⟨.getOrCreateDeviceKey, .ok deviceKey⟩

/-- The Keychain holds this device key for good. -/
def Holds (password : Store → Credential → Option String) (deviceKey : String) (s : World Store) : Prop :=
  isDeviceKey deviceKey ∧ password s.keyring deviceCredential = some deviceKey

/-- A device key is only replaced if its length is wrong, and by a new one. -/
lemma answer_device (hK : K.Documented credential password) (ω : Env × Platform) (s : World Store) (call : Call) :
    password (answer K ω s call).2.keyring deviceCredential = password s.keyring deviceCredential ∨
      (∀ deviceKey, password s.keyring deviceCredential = some deviceKey → ¬isDeviceKey deviceKey) ∧
        password (answer K ω s call).2.keyring deviceCredential = some (newDeviceKey K ω.2) := by
  cases call with
  | storeToken token =>
    left
    change password (storeAuthToken K ω.2 s.keyring token).2 deviceCredential = _
    rcases storeAuthToken_cases hK ω.2 s.keyring token with ⟨e, k', he, hsame⟩ | ⟨-, k', he, hnew⟩
    · rw [he, hsame]
    · simp only [he, hnew, Function.update_of_ne token_ne_device.symm]
  | deleteToken =>
    left
    change password (deleteAuthToken K ω.2 s.keyring).2 deviceCredential = _
    rcases deleteAuthToken_cases hK ω.2 s.keyring with ⟨e, k', he, hsame⟩ | ⟨k', he, hnew⟩
    · rw [he, hsame]
    · simp only [he, hnew, Function.update_of_ne token_ne_device.symm]
  | getOrCreateDeviceKey =>
    change password (getOrCreateDeviceKey K ω.2 s.keyring).2 deviceCredential = _ ∨
      _ ∧ password (getOrCreateDeviceKey K ω.2 s.keyring).2 deviceCredential = _
    rcases getOrCreateDeviceKey_cases hK ω.2 s.keyring with
      ⟨e, k', he, hsame⟩ | ⟨deviceKey, -, -, he⟩ | ⟨hnone, k', he, hnew⟩
    · rw [he, hsame]
      exact .inl rfl
    · rw [he]
      exact .inl rfl
    · simp only [he, hnew, Function.update_self]
      exact .inr ⟨hnone, trivial⟩
  | _ => exact .inl rfl

/-- No command replaces a device key of good length. -/
lemma holds_stable (hK : K.Documented credential password) (deviceKey : String) :
    Stable (desktop K parseAuthCallback isBlank) (Holds password deviceKey) where
  environment _ _ h := h.elim
  answer := by
    rintro ω s call ⟨hkey, hholds⟩
    rcases answer_device hK ω s call with hsame | ⟨hnone, -⟩
    · exact ⟨hkey, hsame.trans hholds⟩
    · exact absurd hkey (hnone deviceKey hholds)

/-- What is handed out is in the Keychain from then on. -/
lemma holds_of_handsOut (hK : K.Documented credential password)
    (hc : Reachable (desktop K parseAuthCallback isBlank) (Opened k) c)
    {e : Interleaving.Entry Answer JsError (Env × Platform) (World Store)} (he : e ∈ c.history) {deviceKey : String}
    (h : HandsOut deviceKey e) : Holds password deviceKey c.state := by
  obtain ⟨h₁, h₀, hsplit, ⟨P⟩⟩ := hc.performed_mem he
  refine hc.stable_since (holds_stable hK deviceKey) hsplit ?_
  have hanswer := P.answer_eq h
  have hkey : invoked (getOrCreateDeviceKey K e.env.2 e.before.keyring).1 = .ok deviceKey := congrArg Prod.fst hanswer
  have hafter : (⟨(getOrCreateDeviceKey K e.env.2 e.before.keyring).2, e.before.view⟩ : World Store) = e.after :=
    congrArg Prod.snd hanswer
  rw [← hafter]
  rcases getOrCreateDeviceKey_cases hK e.env.2 e.before.keyring with
    ⟨e', k', he', -⟩ | ⟨other, hother, hgood, he'⟩ | ⟨-, k', he', hnew⟩
  · rw [he'] at hkey
    cases hkey
  · rw [he'] at hkey ⊢
    obtain rfl := Except.ok.inj hkey
    exact ⟨hgood, hother⟩
  · rw [he'] at hkey ⊢
    obtain rfl := Except.ok.inj hkey
    have hlength := (newDeviceKey_length hK e.env.2).1
    refine ⟨⟨by omega, by omega⟩, ?_⟩
    change password k' deviceCredential = _
    rw [hnew, Function.update_self]

/-- The key in the Keychain has enough characters, not only bytes. -/
def Acceptable (password : Store → Credential → Option String) (s : World Store) : Prop :=
  ∀ deviceKey, password s.keyring deviceCredential = some deviceKey → 8 ≤ deviceKey.length

lemma acceptable_stable (hK : K.Documented credential password) :
    Stable (desktop K parseAuthCallback isBlank) (Acceptable password) where
  environment _ _ h := h.elim
  answer := by
    intro ω s call h deviceKey hkey
    rcases answer_device hK ω s call with hsame | ⟨-, hnew⟩
    · exact h deviceKey (hsame.symm.trans hkey)
    · rw [← Option.some.inj (hnew.symm.trans hkey), (newDeviceKey_length hK ω.2).2]
      omega

/-- A login begins with a key that the shell handed out to it. -/
def Begins (_ : Handler) (done : List (Done Answer JsError)) (call : Call) : Prop :=
  ∀ deviceKey, call = .beginOidcLogin deviceKey → ⟨.getOrCreateDeviceKey, .ok deviceKey⟩ ∈ done

lemma begins_of_ne {handler : Handler} {done : List (Done Answer JsError)} {call : Call}
    (h : ∀ deviceKey, call ≠ .beginOidcLogin deviceKey) : Begins handler done call :=
  fun deviceKey heq => absurd heq (h deviceKey)

lemma begins_login {done : List (Done Answer JsError)} :
    Meets (Begins .login) (fun _ _ => True) done login := by
  refine meets_perform_bind.mpr ⟨begins_of_ne nofun, fun _ => meets_handle ?_, fun e => trivial⟩
  refine meets_perform_bind.mpr ⟨begins_of_ne nofun, fun deviceKey => ?_, fun e => ?_⟩
  · refine meets_perform_bind.mpr ⟨?_, fun url => ?_, fun e => ?_⟩
    · rintro _ ⟨⟩
      exact List.mem_cons_self
    · refine ⟨begins_of_ne nofun, fun r => ?_⟩
      cases r with
      | ok u => exact trivial
      | error e => exact ⟨begins_of_ne nofun, fun _ => trivial⟩
    · exact ⟨begins_of_ne nofun, fun _ => trivial⟩
  · exact ⟨begins_of_ne nofun, fun _ => trivial⟩

/-- Only a login begins one. -/
lemma ne_begin_of_makes {handler : Handler} {call : Call} (h : handler.makes call = true) (hlogin : handler ≠ .login)
    (deviceKey : String) : call ≠ .beginOidcLogin deviceKey := by
  rintro rfl
  cases handler with
  | login => exact hlogin rfl
  | _ => cases h

lemma begins_task (handler : Handler) :
    Meets (Begins handler) (fun _ _ => True) [] (handler.task parseAuthCallback isBlank) := by
  by_cases hlogin : handler = .login
  · subst hlogin
    exact begins_login
  · exact (makes_task handler).mono (fun _ _ h => begins_of_ne (ne_begin_of_makes h hlogin)) fun _ _ _ => trivial

/-- In every run over the shell all logins begin with one device key, which stays in the Keychain; it has 8 to 200
bytes, and 8 to 200 characters as the service requires, unless the Keychain held a shorter one at first. -/
theorem deviceKey_of_run (hK : K.Documented credential password)
    (hc : Reachable (desktop K parseAuthCallback isBlank) (Opened k) c) :
    ∀ e ∈ c.history, ∀ deviceKey, e.done.call = .beginOidcLogin deviceKey →
      password c.state.keyring deviceCredential = some deviceKey ∧ isDeviceKey deviceKey ∧
      (∀ e' ∈ c.history, ∀ other, e'.done.call = .beginOidcLogin other → other = deviceKey) ∧
      ((∀ initial, password k deviceCredential = some initial → 8 ≤ initial.length) →
        8 ≤ deviceKey.length ∧ deviceKey.length ≤ 200) := by
  have hheld {e : Interleaving.Entry Answer JsError (Env × Platform) (World Store)} (he : e ∈ c.history)
      {deviceKey : String} (hcall : e.done.call = .beginOidcLogin deviceKey) : Holds password deviceKey c.state := by
    obtain ⟨h₁, h₀, hsplit, ⟨P⟩⟩ := hc.performed_mem he
    obtain ⟨a, ha, -, hdone⟩ := mem_own.mp (P.meets begins_task deviceKey hcall)
    refine holds_of_handsOut hK hc ?_ hdone
    rw [hsplit]
    exact List.mem_append_right _ (List.mem_cons_of_mem _ ha)
  intro e he deviceKey hcall
  obtain ⟨hkey, hholds⟩ := hheld he hcall
  refine ⟨hholds, hkey, ?_, ?_⟩
  · intro e' he' other hother
    exact Option.some.inj ((hheld he' hother).2.symm.trans hholds)
  · intro hinitial
    have hacceptable : Acceptable password c.state :=
      hc.invariant (acceptable_stable hK) fun s hs deviceKey hdevice => by
        rw [hs.1] at hdevice
        exact hinitial deviceKey hdevice
    exact ⟨hacceptable deviceKey hholds, (length_le_utf8ByteSize deviceKey).trans hkey.2⟩

end

namespace Sample

/-- The passwords of the system. -/
abbrev Passwords := Credential → Option String

inductive KeyringError where
  | noEntry
  | other (message : String)

def KeyringError.isNoEntry : KeyringError → Bool
  | noEntry => true
  | other _ => false

def KeyringError.text : KeyringError → String
  | noEntry => "No matching entry found in secure storage"
  | other message => message

/-- How the calls of one command fail, if they do, and what it draws. -/
structure Platform where
  entry : Option String
  getPassword : Option String
  setPassword : Option String
  deleteCredential : Option String
  random : BitVec 128

/-- The call fails, if it does, before it changes anything. -/
def unlessFailing (failure : Option String) (k : Passwords) (result : Except KeyringError Unit × Passwords) :
    Except KeyringError Unit × Passwords :=
  failure.elim result fun message => (.error (.other message), k)

/-- The version and the variant replace six random bits. -/
def uuidV4 (random : BitVec 128) : UUID :=
  (random &&& ~~~(0xF#128 <<< 76) &&& ~~~(0x3#128 <<< 62)) ||| (0x4#128 <<< 76) ||| (0x2#128 <<< 62)

/-- Crates over a table of passwords. -/
def crates : Crates Passwords Credential KeyringError Platform where
  newEntry p service account := p.entry.elim (.ok (service, account)) fun message => .error (.other message)
  getPassword p k entry := p.getPassword.elim ((k entry).elim (.error .noEntry) .ok) fun message =>
    .error (.other message)
  setPassword p k entry password := unlessFailing p.setPassword k (.ok (), Function.update k entry (some password))
  deleteCredential p k entry := unlessFailing p.deleteCredential k
    (if k entry = none then (.error .noEntry, k) else (.ok (), Function.update k entry none))
  isNoEntry := KeyringError.isNoEntry
  text := KeyringError.text
  newV4 p := String.ofList ((uuidV4 p.random).str.codes.map Char.ofNat)

/-- A text of ASCII characters has one byte for each. -/
lemma utf8ByteSize_of_ascii {text : String} (h : ∀ c ∈ text.toList, c.toNat < 128) :
    text.utf8ByteSize = text.length := by
  have hascii : isAscii (encode text) = true := by
    have htext := isAscii_encode_ofList h
    rwa [String.ofList_toList] at htext
  have hlength := congrArg List.length (asciiChars_encode hascii)
  rw [asciiChars, List.length_map, String.length_toList] at hlength
  exact hlength

lemma length_newV4 (p : Platform) : (crates.newV4 p).utf8ByteSize = 36 ∧ (crates.newV4 p).length = 36 := by
  have hlength : (crates.newV4 p).length = 36 := by
    change (String.ofList ((uuidV4 p.random).str.codes.map Char.ofNat)).length = 36
    rw [String.length_ofList, List.length_map, UUID.length_str]
  have hascii : ∀ c ∈ (crates.newV4 p).toList, c.toNat < 128 := by
    intro c hc
    change c ∈ (String.ofList ((uuidV4 p.random).str.codes.map Char.ofNat)).toList at hc
    rw [String.toList_ofList] at hc
    obtain ⟨n, hn, rfl⟩ := List.mem_map.mp hc
    have hcode := UUID.mem_str hn
    have hvalid : n.isValidChar := Or.inl (by omega)
    rw [Char.ofNat, dif_pos hvalid]
    change n < 128
    omega
  exact ⟨(utf8ByteSize_of_ascii hascii).trans hlength, hlength⟩

lemma documented : crates.Documented id id where
  newEntry := by
    intro p service account entry h
    cases hentry : p.entry with
    | none => simpa [crates, hentry, eq_comm] using h
    | some message => simp [crates, hentry] at h
  getPassword := by
    intro p k entry text h
    cases hget : p.getPassword with
    | none => cases hk : k entry <;> simp_all [crates]
    | some message => simp [crates, hget] at h
  getPassword_noEntry := by
    intro p k entry e h hnone
    cases hget : p.getPassword with
    | none => cases hk : k entry <;> simp_all [crates]
    | some message =>
      obtain rfl : KeyringError.other message = e := by simpa [crates, hget] using h
      cases hnone
  setPassword := by
    intro p k entry text k' h
    cases hset : p.setPassword <;> simp_all [crates, unlessFailing]
  setPassword_error := by
    intro p k entry text e k' h
    cases hset : p.setPassword <;> simp_all [crates, unlessFailing]
  deleteCredential := by
    intro p k entry k' h
    cases hdelete : p.deleteCredential <;> by_cases hk : k entry = none <;> simp_all [crates, unlessFailing]
  deleteCredential_error := by
    intro p k entry e k' h
    cases hdelete : p.deleteCredential <;> by_cases hk : k entry = none <;> simp_all [crates, unlessFailing]
  deleteCredential_noEntry := by
    intro p k entry e k' h hnone
    cases hdelete : p.deleteCredential with
    | none => by_cases hk : k entry = none <;> simp_all [crates, unlessFailing]
    | some message =>
      obtain ⟨rfl, -⟩ : KeyringError.other message = e ∧ k = k' := by simpa [crates, unlessFailing, hdelete] using h
      cases hnone
  newV4 := length_newV4

abbrev shell : Machine Answer JsError (Env × Platform) (World Passwords) Handler Unit :=
  desktop crates Desktop.Sample.parse fun _ => false

instance (history : List (Interleaving.Entry Answer JsError (Env × Platform) (World Passwords))) (ω : Env × Platform)
    (call : Call) : Decidable (shell.admissible history ω call) := .isTrue trivial

/-- Nothing fails. -/
def working : Platform := ⟨none, none, none, none, 0⟩

/-- A callback and then a login over an empty Keychain. -/
def used : Config Answer JsError (Env × Platform) (World Passwords) Handler Unit :=
  ((⟨⟨fun _ => none, View.init⟩, fun _ => none, []⟩ :
    Config Answer JsError (Env × Platform) (World Passwords) Handler Unit).serve
      shell 0 (.callback "") (List.replicate 4 (Desktop.Sample.up, working))).serve
        shell 1 .login (List.replicate 4 (Desktop.Sample.up, working))

lemma run_used : Reachable shell (Opened fun _ => none) used := by
  have hopened : Reachable shell (Opened fun _ => none) ⟨⟨fun _ => none, View.init⟩, fun _ => none, []⟩ :=
    .start ⟨rfl, rfl⟩
  exact (hopened.serve 0 _ _).serve 1 _ _

/-- The token of the callback is in the Keychain. -/
theorem keychain_of_run_used : used.state.keyring tokenCredential = tokenAfter none used.history ∧
    used.state.keyring tokenCredential = some Desktop.Sample.newToken :=
  ⟨(keychain_of_run documented run_used).2.1, by decide +kernel⟩

/-- The calls that begin a login. -/
def begun (call : Call) : Option String :=
  match call with
  | .beginOidcLogin deviceKey => some deviceKey
  | _ => none

lemma begin_of_begun {call : Call} {deviceKey : String} (h : begun call = some deviceKey) :
    call = .beginOidcLogin deviceKey := by
  unfold begun at h
  split at h
  · cases h
    rfl
  · cases h

/-- The login begins with the key that the shell created. -/
theorem deviceKey_of_run_used : 8 ≤ (newDeviceKey crates working).length ∧
    (newDeviceKey crates working).length ≤ 200 := by
  have hbegun : used.history.filterMap (fun e => begun e.done.call) = [newDeviceKey crates working] := by
    decide +kernel
  obtain ⟨e, he, hcall⟩ := List.mem_filterMap.mp (hbegun ▸ List.mem_singleton_self _)
  exact (deviceKey_of_run documented run_used e he _ (begin_of_begun hcall)).2.2.2 fun initial h => by cases h

end Sample

end Pentagon5.Desktop.Shell
