import Pentagon5.Desktop.App

/-!
# The Keychain commands of the native shell

What the shell does with the credentials of the system, any call of which may fail, and the application
over it. The shell serves one command after the other. The `keyring` and `uuid` crates are a parameter.
-/

namespace Pentagon5.Desktop.Shell

open Interleaving Python

/-- The service and the account of a credential. -/
abbrev Credential := String × String

/-- The calls of the `keyring` and `uuid` crates, for what the platform chooses. -/
structure Crates (Store Entry KeyringError Platform : Type) where
  /-- `Entry::new`. -/
  newEntry : Platform → String → String → Except KeyringError Entry
  /-- `entry.get_password()`. -/
  getPassword : Platform → Store → Entry → Except KeyringError String
  /-- `entry.set_password(password)`. -/
  setPassword : Platform → Store → Entry → String → Except KeyringError Unit × Store
  /-- `entry.delete_credential()`. -/
  deleteCredential : Platform → Store → Entry → Except KeyringError Unit × Store
  /-- Whether the error is `KeyringError::NoEntry`. -/
  isNoEntry : KeyringError → Bool
  /-- `error.to_string()`. -/
  text : KeyringError → String
  /-- The text of `Uuid::new_v4()`. -/
  newV4 : Platform → String

variable {Store Entry KeyringError Platform : Type}

/-- What the shell relies on: an entry is the credential of its service and account; a call that succeeds
reads or replaces the password of this credential alone, and one that fails replaces none; `NoEntry` says
that there is none; and the text of a UUID has 36 characters of one byte. -/
structure Crates.Documented (K : Crates Store Entry KeyringError Platform) (credential : Entry → Credential)
    (password : Store → Credential → Option String) : Prop where
  newEntry : ∀ {p service account entry}, K.newEntry p service account = .ok entry →
    credential entry = (service, account)
  getPassword : ∀ {p k entry text}, K.getPassword p k entry = .ok text → password k (credential entry) = some text
  getPassword_noEntry : ∀ {p k entry e}, K.getPassword p k entry = .error e → K.isNoEntry e = true →
    password k (credential entry) = none
  setPassword : ∀ {p k entry text k'}, K.setPassword p k entry text = (.ok (), k') →
    password k' = Function.update (password k) (credential entry) (some text)
  setPassword_error : ∀ {p k entry text e k'}, K.setPassword p k entry text = (.error e, k') →
    password k' = password k
  deleteCredential : ∀ {p k entry k'}, K.deleteCredential p k entry = (.ok (), k') →
    password k' = Function.update (password k) (credential entry) none
  deleteCredential_error : ∀ {p k entry e k'}, K.deleteCredential p k entry = (.error e, k') →
    password k' = password k
  deleteCredential_noEntry : ∀ {p k entry e k'}, K.deleteCredential p k entry = (.error e, k') →
    K.isNoEntry e = true → password k (credential entry) = none
  newV4 : ∀ p, (K.newV4 p).utf8ByteSize = 36 ∧ (K.newV4 p).length = 36

def KEYCHAIN_SERVICE : String := "com.pentagon5.desktop"

def TOKEN_ACCOUNT : String := "auth-token"

def DEVICE_ACCOUNT : String := "device-key"

section

variable (K : Crates Store Entry KeyringError Platform) (p : Platform) (k : Store)

def keychainEntry (account : String) : Except String Entry :=
  (K.newEntry p KEYCHAIN_SERVICE account).mapError K.text

def newDeviceKey : String := "desktop-" ++ K.newV4 p

def storeAuthToken (token : String) : Except String Unit × Store :=
  if token.utf8ByteSize < 32 ∨ 16384 < token.utf8ByteSize then (.error "Invalid opaque token length", k)
  else
    match keychainEntry K p TOKEN_ACCOUNT with
    | .error e => (.error e, k)
    | .ok entry => ((K.setPassword p k entry token).1.mapError K.text, (K.setPassword p k entry token).2)

def loadAuthToken : Except String (Option String) :=
  match keychainEntry K p TOKEN_ACCOUNT with
  | .error e => .error e
  | .ok entry =>
    match K.getPassword p k entry with
    | .ok token => .ok (some token)
    | .error error => if K.isNoEntry error then .ok none else .error (K.text error)

def deleteAuthToken : Except String Unit × Store :=
  match keychainEntry K p TOKEN_ACCOUNT with
  | .error e => (.error e, k)
  | .ok entry =>
    match K.deleteCredential p k entry with
    | (.ok (), k) => (.ok (), k)
    | (.error error, k) => (if K.isNoEntry error then .ok () else .error (K.text error), k)

/-- The lengths of a device key, in bytes. -/
def isDeviceKey (deviceKey : String) : Prop := 8 ≤ deviceKey.utf8ByteSize ∧ deviceKey.utf8ByteSize ≤ 200

instance (deviceKey : String) : Decidable (isDeviceKey deviceKey) := inferInstanceAs (Decidable (_ ∧ _))

/-- The part of `get_or_create_device_key` that creates a key. -/
def createDeviceKey (entry : Entry) : Except String String × Store :=
  let deviceKey := newDeviceKey K p
  match K.setPassword p k entry deviceKey with
  | (.error error, k) => (.error (K.text error), k)
  | (.ok (), k) => (.ok deviceKey, k)

def getOrCreateDeviceKey : Except String String × Store :=
  match keychainEntry K p DEVICE_ACCOUNT with
  | .error e => (.error e, k)
  | .ok entry =>
    match K.getPassword p k entry with
    | .ok deviceKey => if isDeviceKey deviceKey then (.ok deviceKey, k) else createDeviceKey K p k entry
    | .error error => if K.isNoEntry error then createDeviceKey K p k entry else (.error (K.text error), k)

end

/-- The credentials of the system and the window. -/
structure World (Store : Type) where
  keyring : Store
  view : View

/-- What `invoke` rejects with is no error of the API client. -/
def invoked {α : Type} (r : Except String α) : Except JsError α := r.mapError fun _ => .other

section

variable (K : Crates Store Entry KeyringError Platform)

/-- A call, with what the shell does for it. -/
def answer (ω : Env × Platform) (s : World Store) : (call : Call) → Except JsError (Answer call) × World Store
  | .loadToken => (invoked (loadAuthToken K ω.2 s.keyring), s)
  | .storeToken token =>
    let r := storeAuthToken K ω.2 s.keyring token
    (invoked r.1, { s with keyring := r.2 })
  | .deleteToken =>
    let r := deleteAuthToken K ω.2 s.keyring
    (invoked r.1, { s with keyring := r.2 })
  | .getOrCreateDeviceKey =>
    let r := getOrCreateDeviceKey K ω.2 s.keyring
    (invoked r.1, { s with keyring := r.2 })
  | .token => (.ok s.view.token, s)
  | .update update => (.ok (), { s with view := update.apply s.view })
  | call => (ω.1 call, s)

/-- The handlers of the application, whose calls the shell serves. -/
def desktop (parseAuthCallback : Str → Except JsError ParsedAuthCallback) (isBlank : String → Bool) :
    Machine Answer JsError (Env × Platform) (World Store) Handler Unit where
  serve := Handler.task parseAuthCallback isBlank
  answer := answer K
  admissible _ _ _ := True
  environment _ _ := False

end

end Pentagon5.Desktop.Shell
