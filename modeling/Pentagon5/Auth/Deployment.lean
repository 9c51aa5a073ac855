import Pentagon5.Auth.System

/-!
# Deployments with tabulated primitives

Any finite table of fingerprints and of ciphertexts, without collisions, extends to ideal
primitives. The table below holds what HMAC-SHA256, SHA-256 and AES-256-GCM compute for the
secrets of one deployment, so that runs of it can be evaluated.
-/

namespace Pentagon5.Auth

open Python Interleaving AuthenticationService

/-- One call of `AESGCM.encrypt` with its result. -/
structure Ciphertext where
  nonce : List UInt8
  data : List UInt8
  associatedData : List UInt8
  value : List UInt8
deriving DecidableEq

/-- The primitives at the values that a deployment computes. -/
structure Tables where
  hmacs : List (String × String)
  digests : List (List UInt8 × List UInt8)
  ciphertexts : List Ciphertext

namespace Tables

variable (T : Tables)

/-- A message outside the table is encoded after a character that no hexadecimal digest has. -/
def hmac (message : List UInt8) : String :=
  match T.hmacs.find? (fun e => encode e.1 = message) with
  | some e => e.2
  | none => ofChars ('!' :: Base64.encodeBytes message)

def encrypt (nonce data associatedData : List UInt8) : List UInt8 :=
  match T.ciphertexts.find? (fun e => e.nonce = nonce ∧ e.data = data ∧
    e.associatedData = associatedData) with
  | some e => e.value
  | none => 0 :: data

def decrypt (nonce value associatedData : List UInt8) : Option (List UInt8) :=
  match T.ciphertexts.find? (fun e => e.nonce = nonce ∧ e.value = value ∧
    e.associatedData = associatedData) with
  | some e => some e.data
  | none => value.tail?

/-- `str.lower` of ASCII text. -/
def asciiLower (s : Str) : Str := ⟨s.codes.map fun n => if 65 ≤ n ∧ n ≤ 90 then n + 32 else n⟩

def primitives : Primitives where
  hmacSha256 _ := T.hmac
  sha256 data := (T.digests.lookup data).getD []
  aesGcmEncrypt _ := T.encrypt
  aesGcmDecrypt _ := T.decrypt
  lower := asciiLower

/-- No two entries share a digest or a ciphertext, and none looks like an entry outside. -/
structure Collisionless : Prop where
  hmacs : (T.hmacs.map Prod.snd).Nodup
  hexadecimal : ∀ e ∈ T.hmacs, e.2.toList.head? ≠ some '!'
  ciphertexts : (T.ciphertexts.map Ciphertext.value).Nodup
  marked : ∀ e ∈ T.ciphertexts, e.value.head? ≠ some 0

instance : Decidable T.Collisionless :=
  decidable_of_iff ((T.hmacs.map Prod.snd).Nodup ∧ (∀ e ∈ T.hmacs, e.2.toList.head? ≠ some '!') ∧
      (T.ciphertexts.map Ciphertext.value).Nodup ∧
      ∀ e ∈ T.ciphertexts, e.value.head? ≠ some 0)
    ⟨fun ⟨a, b, c, d⟩ => ⟨a, b, c, d⟩, fun ⟨a, b, c, d⟩ => ⟨a, b, c, d⟩⟩

variable {T}

lemma hmac_cases (message : List UInt8) :
    (∃ e ∈ T.hmacs, encode e.1 = message ∧ T.hmac message = e.2) ∨
      T.hmac message = String.ofList ('!' :: Base64.encodeBytes message) := by
  unfold hmac
  cases he : T.hmacs.find? (fun e => decide (encode e.1 = message)) with
  | some e => exact .inl ⟨e, List.mem_of_find?_eq_some he, by simpa using List.find?_some he, rfl⟩
  | none => exact .inr (ofChars_eq _)

lemma Collisionless.hmac_injective (h : T.Collisionless) : Function.Injective T.hmac := by
  have outside : ∀ e ∈ T.hmacs, ∀ cs, e.2 ≠ String.ofList ('!' :: cs) := by
    intro e he cs heq
    exact h.hexadecimal e he (by rw [heq]; simp)
  intro a b hab
  rcases hmac_cases (T := T) a with ⟨x, hx, rfl, ha⟩ | ha <;>
    rcases hmac_cases (T := T) b with ⟨y, hy, rfl, hb⟩ | hb
  · rw [ha, hb] at hab
    rw [List.inj_on_of_nodup_map h.hmacs hx hy hab]
  · exact absurd (ha.symm.trans (hab.trans hb)) (outside x hx _)
  · exact absurd (hb.symm.trans (hab.symm.trans ha)) (outside y hy _)
  · have hl := String.ofList_inj.mp (ha.symm.trans (hab.trans hb))
    exact Base64.urlsafeB64encode_injective (congrArg ofChars (List.cons.inj hl).2)

lemma Collisionless.decrypt_encrypt (h : T.Collisionless) (nonce data associatedData : List UInt8) :
    T.decrypt nonce (T.encrypt nonce data associatedData) associatedData = some data := by
  unfold encrypt
  split
  · next e he =>
    have hmem := List.mem_of_find?_eq_some he
    obtain ⟨rfl, rfl, rfl⟩ : e.nonce = nonce ∧ e.data = data ∧ e.associatedData = associatedData := by
      simpa using List.find?_some he
    unfold decrypt
    split
    · next e' he' =>
      have hp : e'.nonce = e.nonce ∧ e'.value = e.value ∧ e'.associatedData = e.associatedData := by
        simpa using List.find?_some he'
      rw [List.inj_on_of_nodup_map h.ciphertexts (List.mem_of_find?_eq_some he') hmem hp.2.1]
    · next hnone =>
      simp only [List.find?_eq_none, decide_eq_true_eq] at hnone
      exact absurd ⟨rfl, rfl, rfl⟩ (hnone e hmem)
  · unfold decrypt
    split
    · next e he =>
      have hp : e.nonce = nonce ∧ e.value = 0 :: data ∧ e.associatedData = associatedData := by
        simpa using List.find?_some he
      have := h.marked e (List.mem_of_find?_eq_some he)
      simp [hp.2.1] at this
    · rfl

/-- Every table without collisions extends to ideal primitives. -/
theorem Collisionless.ideal (h : T.Collisionless) : Ideal T.primitives where
  hmac_injective _ := h.hmac_injective
  decrypt_encrypt _ := h.decrypt_encrypt

end Tables

namespace Sample

def settings : AuthSettings where
  environment := "test"
  issuer := "https://id.example"
  clientId := "desktop"
  clientSecret := "secret"
  redirectUri := "https://auth.example/callback"
  hmacKey := List.replicate 32 107
  desktopCallbackUri := "pentagon5://auth/callback"
  sessionTtlSeconds := 28800
  flowTtlSeconds := 300
  loginGrantTtlSeconds := 60
  wsTicketTtlSeconds := 30
  hmacKey_length := by decide

/-- What a call draws when every random byte is `b`. -/
def bytes (b : UInt8) : Env := { random := fun _ => b }

def token (b : UInt8) : String := tokenUrlsafe (randomBytes (bytes b) 32)

def verifier : String := tokenUrlsafe (randomBytes (bytes 3) 48)

/-- The bytes of a number. -/
def bytesOf (size n : ℕ) : List UInt8 :=
  (List.range size).map fun i => UInt8.ofNat (n / 256 ^ (size - 1 - i))

/-- `hexdigest()` of the 32 bytes that make up a number. -/
def hexdigest (n : ℕ) : String :=
  ofChars ((List.range 64).map fun i => Json.hexDigit (n / 16 ^ (63 - i) % 16))

def tables : Tables where
  hmacs := [
    (token 1, hexdigest 0xcee81492ab34e32c522b5be83562747cf87808a6bdfa4a8c042ba674dbc665db),
    ("device-key-1", hexdigest 0x9efef2f3d23fd38d8de173e1cce19255dfd6cec4495fdd91e0d7cd1a61066b84),
    (token 5, hexdigest 0x43abd4f16121054051a7679929b7afea275ef665a8909a29f7ea013254667b7a),
    (token 6, hexdigest 0x7cd46199c57bd0a195158e531150f988bf61052750b732fbc88e426ab294ada7),
    (token 8, hexdigest 0xdcbceffb65aa16dcfc7c90e2d43d57bb9bdc5289517f59e328769859b0b46767)]
  digests := [
    (List.replicate 32 107 ++ encode ":oidc-flow",
      bytesOf 32 0xf98d7c8f5a8da1a7e63611e54fe92ae47c492ba1bcb321f1114d8735c45faec5),
    (encode verifier,
      bytesOf 32 0xdfc1eaefca8a1237dae87fa8e05d47819a5b5557b1497c1deef0b671a86c0ce4)]
  ciphertexts := [
    ⟨List.replicate 12 4, encode (Json.dumps (flowPayload verifier (token 2) "device-key-1" "linux")),
      flowPurpose,
      bytesOf 32 0xc9b832b0de7ebf44dc7e7e6401f1f270224ca78956f3239b5c442e3f8efdc7c9 ++
        bytesOf 32 0x17e336de0219abed8b758e0b9fc55594e09a0b64c8f1001a889bb01af36df7b2 ++
        bytesOf 32 0x6b54686f6c12469c2cbeb01b49866598a49f66be7ce39ff6e2f201cca937861e ++
        bytesOf 32 0x79cd96f7f284523e9406cac4d266b24e8a99e0fd487eca6d21dcec6717ede464 ++
        bytesOf 32 0x2f57948ca9ab8ff468a70364c04a978f71d6a5b9e2663ea40efd3a7e7265957e ++
        bytesOf 32 0xaba4e2803283515bcd727c17e68fea0befd7891c43897e3a54d55cf7236d352c ++
        bytesOf 4 0x6a1eee49⟩,
    ⟨List.replicate 12 7, encode (Json.dumps [("session_token", token 5)]), grantPurpose,
      bytesOf 32 0x955fe067400d576c80aba573a3bc9c6bf3e372af21307cfdcad39d0dd2581af8 ++
        bytesOf 32 0xc3209212290cebbac9934d006b0b496ddbd441dace006fb14bed2a8bbf058c7f ++
        bytesOf 15 0xcb9a42849fbcb1150ac5c5338c7c57⟩]

lemma ideal : Ideal tables.primitives := Tables.Collisionless.ideal (by decide +kernel)

abbrev machine := system settings tables.primitives

def noRequests : State := ⟨default, fun _ => none, []⟩

def discovery : Response := ⟨200, some (.dict [("issuer", .str settings.issuer),
  ("authorization_endpoint", .str "https://id.example/authorize"),
  ("token_endpoint", .str "https://id.example/token"),
  ("jwks_uri", .str "https://id.example/jwks")])⟩

def tokenResponse : Response := ⟨200, some (.dict [("id_token", .str "h.p.s")])⟩

def jwks : Response := ⟨200, some (.dict [("keys", .list [.dict [("kid", .str "k1")]])])⟩

def claims : Dict := [("sub", .str "subject-1"), ("email", .str "User@example.com"),
  ("email_verified", .bool true), ("nonce", .str (token 2)), ("name", .str "User One")]

/-- What a call takes that depends on nothing outside. -/
def unused : Env := {}

def clockAt (now : Timestamp) : Env := { clock := now }

/-- What a call takes when `uuid7` counts from `n`. -/
def uuids (n : ℕ) : Env := { uuid7 := fun k => BitVec.ofNat 128 (n + k) }

def started : State := noRequests.serve machine 0 (.startLogin "device-key-1" "linux")
  [bytes 1, bytes 2, bytes 3, bytes 4, clockAt 0, uuids 1, unused, { response := .ok discovery }, unused]

/-- The answers of the provider to the exchange, up to the decoded claims. -/
def exchange : List Env := [unused, { response := .ok tokenResponse }, { response := .ok jwks },
  { header := some ⟨.str "RS256", some "k1"⟩ }, { claims := some claims }]

def loggedIn : State := started.serve machine 1 (.completeLogin (token 1) "code") <|
  [clockAt 1000000, unused] ++ exchange ++
    [uuids 10, uuids 20, bytes 5, uuids 30, unused, bytes 6, bytes 7, uuids 40]

/-- A run of this deployment reaches the configuration. -/
abbrev Sampled (c : State) : Prop := Run settings tables.primitives c

/-- The fingerprint that this deployment makes of a token. -/
abbrev print (token : String) : String := fingerprint settings tables.primitives token

def withStatus (status : UserStatus) (u : UserRow) : UserRow := { u with status }

lemma keepsKeys_withStatus (status : UserStatus) : Relational.KeepsKeys (withStatus status) :=
  fun _ _ => Iff.rfl

/-- An administrator gives every user the status. -/
def setStatus (status : UserStatus) (c : State) : State :=
  let users := c.state.store.users.modify (fun _ => true) (withStatus status)
    (keepsKeys_withStatus status)
  { c with state.store.users := users }

lemma run_setStatus {c : State} (hc : Sampled c) (status : UserStatus) : Sampled (setStatus status c) := by
  refine hc.step (.environment _ ⟨⟨fun _ => status, ?_⟩, rfl, rfl, rfl, rfl, rfl, rfl, rfl, rfl⟩)
  exact (Relational.Table.mapped_modify (keepsKeys_withStatus status)).congr fun _ _ => if_pos rfl

lemma run_noRequests : Sampled noRequests := by
  refine .start ⟨⟨?_, ?_⟩, ?_, ?_, ?_, ?_, ?_, rfl⟩ <;> exact fun _ h => absurd h List.not_mem_nil

lemma run_loggedIn : Sampled loggedIn :=
  (run_noRequests.serve 0 _ _).serve 1 _ _

/-- The device of the login is revoked. -/
def deviceRevoked : State := loggedIn.serve machine 2 (.authenticated (token 5) (.revokeDevice 20))
  [clockAt 2000000, unused, clockAt 2000000, unused]

lemma run_deviceRevoked : Sampled deviceRevoked := run_loggedIn.serve 2 _ _

end Sample

end Pentagon5.Auth
