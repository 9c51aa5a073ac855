import Pentagon5.Auth.Models
import Pentagon5.Python.Base64

/-!
# Tokens, fingerprints and sealed payloads

The cryptographic primitives are parameters. `Ideal` states what the service relies on: keyed
fingerprints do not collide, and what was sealed opens to what was sealed.
-/

namespace Pentagon5.Auth

open Python

/-- A dictionary decoded from JSON. -/
abbrev Dict := List (Str × Json)

structure Primitives where
  /-- `hmac.new(key, message, hashlib.sha256).hexdigest()` -/
  hmacSha256 : (key message : List UInt8) → String
  /-- `hashlib.sha256(data).digest()` -/
  sha256 : (data : List UInt8) → List UInt8
  /-- `AESGCM(key).encrypt(nonce, data, associated_data)` -/
  aesGcmEncrypt : (key nonce data associatedData : List UInt8) → List UInt8
  /-- `AESGCM(key).decrypt(nonce, data, associated_data)`; `none` where it raises -/
  aesGcmDecrypt : (key nonce data associatedData : List UInt8) → Option (List UInt8)
  /-- `str.lower` -/
  lower : Str → Str

structure Ideal (crypto : Primitives) : Prop where
  hmac_injective : ∀ key, Function.Injective (crypto.hmacSha256 key)
  decrypt_encrypt : ∀ key nonce data associatedData, crypto.aesGcmDecrypt key nonce
    (crypto.aesGcmEncrypt key nonce data associatedData) associatedData = some data

/-- `secrets.token_urlsafe(n)` for the random bytes it draws. -/
def tokenUrlsafe (bytes : List UInt8) : String :=
  ofChars ((Base64.encodeBytes bytes).filter (· ≠ '='))

variable (settings : AuthSettings) (crypto : Primitives)

def fingerprint (token : String) : String := crypto.hmacSha256 settings.hmacKey (encode token)

def pkceChallenge (verifier : String) : String :=
  ofChars ((Base64.encodeBytes (crypto.sha256 (encode verifier))).filter (· ≠ '='))

namespace AuthenticationService

/-- The key of `self._encryption`. -/
def encryptionKey : List UInt8 := crypto.sha256 (settings.hmacKey ++ encode ":oidc-flow")

def flowPurpose : List UInt8 := encode "p5-oidc-flow-v1"

def grantPurpose : List UInt8 := encode "p5-login-grant-v1"

/-- `_seal`, for the nonce it draws. -/
def sealed (nonce : List UInt8) (payload : List (String × String)) (associatedData : List UInt8) :
    String :=
  Base64.urlsafeB64encode (nonce ++ crypto.aesGcmEncrypt (encryptionKey settings crypto) nonce
    (encode (Json.dumps payload)) associatedData)

/-- The body of the `try` in `_open`; `json.loads` reads the bytes as UTF-8. -/
def decrypted (value : String) (associatedData : List UInt8) : Option Json := do
  let encoded ← Base64.urlsafeB64decode value
  let decoded ← crypto.aesGcmDecrypt (encryptionKey settings crypto) (encoded.take 12)
    (encoded.drop 12) associatedData
  Json.loads (← decode decoded)

/-- `_open`. -/
def opened (value : String) (associatedData : List UInt8) : Except PyError Dict :=
  match decrypted settings crypto value associatedData with
  | none => .error (.authenticationError "authorization transaction cannot be decrypted")
  | some (.dict payload) => .ok payload
  | some _ => .error (.authenticationError "authorization transaction is malformed")

/-- `_required`. A text with a lone surrogate, which `_seal` never writes, is refused here
instead of where it is first encoded. -/
def required (payload : Dict) (key : String) : Except PyError String :=
  match (Json.get? payload key).bind Json.str? with
  | none => .error (.authenticationError s!"authorization transaction is missing {key}")
  | some value =>
    if value.codes = [] then
      .error (.authenticationError s!"authorization transaction is missing {key}")
    else
      match value.encode? with
      | some text => .ok text
      | none => .error .unicodeEncodeError

/-- `_identity`. -/
def identity (claims : Dict) : Except PyError Identity :=
  match (Json.get? claims "sub").bind Json.str?, (Json.get? claims "email").bind Json.str? with
  | some subject, some email =>
    let displayName := match (Json.get? claims "name").bind Json.str? with
      | some name => if name.strip.codes = [] then email else name
      | none => email
    .ok ⟨settings.issuer, subject, crypto.lower email, displayName.strip⟩
  | _, _ => .error (.authenticationError "ID token is missing subject or email")

variable {settings crypto}

lemma fingerprint_injective (h : Ideal crypto) : Function.Injective (fingerprint settings crypto) := by
  intro a b hab
  have henc : encode a = encode b := h.hmac_injective _ hab
  have hdec : decode (encode a) = decode (encode b) := congrArg decode henc
  simpa using hdec

/-- A sealed payload opens, for the same purpose, to the payload. -/
theorem opened_sealed (h : Ideal crypto) {nonce : List UInt8} (hn : nonce.length = 12)
    {payload : List (String × String)} (hp : (payload.map Prod.fst).Nodup)
    (associatedData : List UInt8) :
    opened settings crypto (sealed settings crypto nonce payload associatedData) associatedData =
      .ok (Json.ofStrings payload) := by
  have htake : ∀ data, (nonce ++ data).take 12 = nonce := fun data => by
    rw [← hn, List.take_left]
  have hdrop : ∀ data, (nonce ++ data).drop 12 = data := fun data => by
    rw [← hn, List.drop_left]
  simp only [opened, decrypted, sealed, Base64.urlsafeB64decode_encode, Option.bind_eq_bind,
    Option.bind_some, htake, hdrop, h.decrypt_encrypt, decode_encode, Json.loads_dumps payload hp]

lemma required_ofStrings {payload : List (String × String)} {key value : String}
    (h : payload.lookup key = some value) (hne : value ≠ "") :
    required (Json.ofStrings payload) key = .ok value := by
  have hcodes : (Str.ofString value).codes ≠ [] := by
    simpa [Str.ofString] using hne
  simp only [required, Json.get?_ofStrings, h, Option.map_some, Option.bind_some, Json.str?,
    if_neg hcodes, Str.encode?_ofString]

lemma required_ofStrings_eq_ok {payload : List (String × String)} {key text : String}
    (h : required (Json.ofStrings payload) key = .ok text) : payload.lookup key = some text := by
  simp only [required, Json.get?_ofStrings] at h
  cases hl : payload.lookup key with
  | none => simp [hl] at h
  | some value =>
    simp only [hl, Option.map_some, Option.bind_some, Json.str?, Str.encode?_ofString] at h
    split at h
    · cases h
    · cases h
      rfl

end AuthenticationService

end Pentagon5.Auth
