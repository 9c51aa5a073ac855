import Pentagon5.Auth.Environment
import Pentagon5.Python.Raising

/-!
# The session key

Every base64 spelling of at least 32 bytes, given directly or in a file, is loaded as these bytes, and
a text that is no such spelling is a `ConfigurationError`.
-/

namespace Pentagon5.Auth.Environment

open Python Pentagon5.Runtime.Config

/-- The environments agree on all variables but those of the session key. -/
def Agree (environ environ' : Environ) : Prop :=
  ∀ key : Str, key ≠ ↑"P5_SESSION_HMAC_KEY" → key ≠ ↑"P5_SESSION_HMAC_KEY_FILE" →
    environ.lookup key = environ'.lookup key

/-- The settings besides the session key are valid: with some session key they load as `base`. -/
def OthersValid (P : AuthPlatform) (environ : Environ) (base : AuthSettings) : Prop :=
  ∃ environ', Agree environ environ' ∧ loadAuthSettings P environ' = .ok base

/-- The session key is given directly, or in a file whose text it is but for a final newline. -/
inductive Given (P : AuthPlatform) (environ : Environ) (text : Str) : Prop
  | direct (hvalue : environ.get "P5_SESSION_HMAC_KEY" = some text)
      (hfile : (environ.get "P5_SESSION_HMAC_KEY_FILE").getD "" = ⟨[]⟩)
  | file (path : Str) (content : List UInt8) (fileText : String)
      (hvalue : (environ.get "P5_SESSION_HMAC_KEY").getD "" = ⟨[]⟩)
      (hfile : environ.get "P5_SESSION_HMAC_KEY_FILE" = some path) (hpath : path ≠ ⟨[]⟩)
      (hregular : P.file path = .regular content) (hread : readText content = .ok fileText)
      (htext : removeNewline fileText = text)

/-- The text is not the spelling of a key. -/
inductive Malformed (text : Str) : Prop
  | short (bytes : List UInt8) (hdecode : decodeKey text = some bytes) (hlength : bytes.length < 32)
  | foreign (n : ℕ) (hmem : n ∈ text.codes)
      (hforeign : ∀ c : Char, c.toNat = n → c ≠ '=' ∧ Base64.sextet? c = none)
  | single (hpadding : '='.toNat ∉ text.codes) (hlength : text.codes.length % 4 = 1)

section

variable {P : AuthPlatform} {environ environ' : Environ} {text : Str}

lemma Agree.get (h : Agree environ environ') {name : String} (hkey : name ≠ "P5_SESSION_HMAC_KEY")
    (hfile : name ≠ "P5_SESSION_HMAC_KEY_FILE") : environ.get name = environ'.get name :=
  h name (fun he => hkey (Str.ofString_injective he)) fun he => hfile (Str.ofString_injective he)

lemma mem_keys_iff {key : Str} : key ∈ environ.map Prod.fst ↔ environ.lookup key ≠ none := by
  induction environ with
  | nil => simp
  | cons entry environ ih =>
    obtain ⟨k, v⟩ := entry
    rw [List.map_cons, List.mem_cons, List.lookup_cons]
    by_cases hk : key = k
    · simp [hk]
    · rw [beq_eq_false_iff_ne.mpr hk, ih]
      simp [hk]

lemma unknownKeys_eq_nil_iff {allowedExtra : List String} : unknownKeys environ allowedExtra = [] ↔
    ∀ key, environ.lookup key ≠ none → key.startsWith "P5_" = true →
      key ∈ (knownKeys ++ allowedExtra).map Str.ofString := by
  have hnil : unknownKeys environ allowedExtra = [] ↔ ((environ.map Prod.fst).filter fun key =>
      key.startsWith "P5_" ∧ key ∉ (knownKeys ++ allowedExtra).map Str.ofString) = [] := by
    rw [unknownKeys, ← List.length_eq_zero_iff, List.length_mergeSort, List.length_eq_zero_iff]
  rw [hnil, List.filter_eq_nil_iff]
  simp only [decide_eq_true_eq, not_and, not_not, mem_keys_iff]

lemma Agree.unknownKeys (h : Agree environ environ') (hnil : unknownKeys environ' authKeys = []) :
    Runtime.Config.unknownKeys environ authKeys = [] := by
  rw [unknownKeys_eq_nil_iff] at hnil ⊢
  intro key hlookup hprefix
  by_cases hkey : key = ↑"P5_SESSION_HMAC_KEY"
  · rw [hkey]
    exact List.mem_map_of_mem (by decide)
  · by_cases hfile : key = ↑"P5_SESSION_HMAC_KEY_FILE"
    · rw [hfile]
      exact List.mem_map_of_mem (by decide)
    · rw [h key hkey hfile] at hlookup
      exact hnil key hlookup hprefix

lemma unknownKeys_of_ok {P : ConfigPlatform} {allowedExtra : List String} {settings : RuntimeSettings}
    (h : loadRuntimeSettings P environ allowedExtra = .ok settings) : unknownKeys environ allowedExtra = [] := by
  rw [loadRuntimeSettings] at h
  by_contra hne
  rw [if_pos hne] at h
  cases h

lemma Agree.loadOidcSettings (h : Agree environ environ') {oidc : OidcSettings}
    (hok : loadOidcSettings P environ' = .ok oidc) : Environment.loadOidcSettings P environ = .ok oidc := by
  have hruntime : loadRuntimeSettings P.toConfigPlatform environ authKeys =
      loadRuntimeSettings P.toConfigPlatform environ' authKeys := by
    obtain ⟨runtime, hload, -⟩ := bind_eq_ok.mp hok
    have hnil := unknownKeys_of_ok hload
    refine loadRuntimeSettings_congr ((h.unknownKeys hnil).trans hnil.symm) fun name hname => ?_
    exact h.get (by rintro rfl; exact absurd hname (by decide)) (by rintro rfl; exact absurd hname (by decide))
  rw [← hok, Environment.loadOidcSettings, hruntime,
    h.get (show "P5_OIDC_ISSUER" ≠ _ by decide) (by decide),
    h.get (show "P5_OIDC_REDIRECT_URI" ≠ _ by decide) (by decide),
    h.get (show "P5_OIDC_CLIENT_ID" ≠ _ by decide) (by decide),
    h.get (show "P5_DESKTOP_CALLBACK_URI" ≠ _ by decide) (by decide),
    h.get (show "P5_WEB_COOKIE_MODE" ≠ _ by decide) (by decide)]
  rfl

lemma Agree.positiveInt (h : Agree environ environ') {name : String} (hkey : name ≠ "P5_SESSION_HMAC_KEY")
    (hfile : name ≠ "P5_SESSION_HMAC_KEY_FILE") (default maximum : ℕ) :
    positiveInt P environ name default maximum = Environment.positiveInt P environ' name default maximum := by
  rw [Environment.positiveInt, Auth.positiveInt, h.get hkey hfile]
  rfl

lemma Agree.loadLimitSettings (h : Agree environ environ') :
    loadLimitSettings P environ = Environment.loadLimitSettings P environ' := by
  rw [Environment.loadLimitSettings,
    secretValue_congr (h.get (show "P5_OIDC_CLIENT_SECRET" ≠ _ by decide) (by decide))
      (h.get (by decide) (by decide)),
    h.positiveInt (show "P5_WS_MAX_FRAME_BYTES" ≠ _ by decide) (by decide),
    h.positiveInt (show "P5_SESSION_TTL_SECONDS" ≠ _ by decide) (by decide),
    h.positiveInt (show "P5_OIDC_FLOW_TTL_SECONDS" ≠ _ by decide) (by decide),
    h.positiveInt (show "P5_LOGIN_GRANT_TTL_SECONDS" ≠ _ by decide) (by decide),
    h.positiveInt (show "P5_WS_TICKET_TTL_SECONDS" ≠ _ by decide) (by decide),
    h.positiveInt (show "P5_WS_MAX_SUBSCRIPTIONS" ≠ _ by decide) (by decide)]
  rfl

/-- Where the other settings are valid, the session key decides. -/
lemma loadAuthSettings_eq {base : AuthSettings} (h : OthersValid P environ base) :
    loadAuthSettings P environ = (loadHmacKey P environ).map fun hmacKey => { base with hmacKey } := by
  obtain ⟨environ', hagree, hok⟩ := h
  obtain ⟨oidc, hoidc, hok⟩ := bind_eq_ok.mp hok
  obtain ⟨hmacKey, -, hok⟩ := bind_eq_ok.mp hok
  obtain ⟨limits, hlimits, hok⟩ := bind_eq_ok.mp hok
  cases hok
  rw [loadAuthSettings, hagree.loadOidcSettings hoidc, hagree.loadLimitSettings, hlimits, except_ok_bind]
  cases loadHmacKey P environ with
  | error e => rfl
  | ok hmacKey => rfl

/-- The text of a key that is given, unless it is empty. -/
lemma Given.secretValue (h : Given P environ text) :
    secretValue P.toConfigPlatform environ "P5_SESSION_HMAC_KEY" =
      if text = ⟨[]⟩ then .error (.configurationError "P5_SESSION_HMAC_KEY is required") else .ok text := by
  have hname : "P5_SESSION_HMAC_KEY" ++ "_FILE" = "P5_SESSION_HMAC_KEY_FILE" := by decide
  cases h with
  | direct hvalue hfile =>
    rw [Runtime.Config.secretValue, hname, hvalue, hfile]
    simp only [Option.getD_some, ne_eq, not_true_eq_false, and_false, if_false, except_ok_bind]
    rfl
  | file path content fileText hvalue hfile hpath hregular hread htext =>
    rw [Runtime.Config.secretValue, hname, hvalue, hfile]
    simp only [Option.getD_some, ne_eq, not_true_eq_false, false_and, if_false, hpath, not_false_eq_true,
      if_true, hregular, hread, Except.map, htext, except_ok_bind]
    rfl

lemma loadHmacKey_eq (h : Given P environ text) (hne : text ≠ ⟨[]⟩) : loadHmacKey P environ =
    match decodeKey text with
    | none => .error (.configurationError "P5_SESSION_HMAC_KEY must be URL-safe base64")
    | some bytes =>
      if h : 32 ≤ bytes.length then .ok ⟨bytes, h⟩
      else .error (.configurationError "P5_SESSION_HMAC_KEY must decode to at least 32 bytes") := by
  rw [loadHmacKey, h.secretValue, if_neg hne]
  rfl

lemma decodeKey_ofString (value : String) : decodeKey (Str.ofString value) =
    Base64.b64decode (value ++ ofChars (Base64.padding value.length)) := by
  have hlength : (Str.ofString value).codes.length = value.length := by
    rw [Str.ofString_codes, List.length_map, String.length_toList]
  rw [decodeKey, hlength, ← Str.ofString_append, Str.encode?_ofString, Option.bind_some]

lemma b64decode_ofList {cs : List Char} (h : ∀ c ∈ cs, c.toNat < 128) :
    Base64.b64decode (String.ofList cs) = Base64.strictLoop 0 0 0 false cs := by
  rw [Base64.b64decode, if_pos (isAscii_encode_ofList h), chars_eq, String.toList_ofList]

/-- Every spelling decodes to what it spells. -/
lemma decodeKey_spell (standard padded : Bool) (bytes : List UInt8) :
    decodeKey (Str.ofString (String.ofList (Base64.spell standard padded bytes))) = some bytes := by
  have happend : String.ofList (Base64.spell standard padded bytes) ++
        ofChars (Base64.padding (String.ofList (Base64.spell standard padded bytes)).length) =
      String.ofList (Base64.spell standard padded bytes ++
        Base64.padding (Base64.spell standard padded bytes).length) := by
    rw [ofChars_eq, String.length_ofList, String.ofList_append]
  rw [decodeKey_ofString, happend, b64decode_ofList, Base64.strictLoop_spell]
  intro c hc
  rcases List.mem_append.mp hc with hc | hc
  · exact Base64.spell_ascii standard padded bytes c hc
  · rw [List.eq_of_mem_replicate hc]
    decide

/-- A character outside the alphabets is refused. -/
lemma decodeKey_of_foreign {n : ℕ} (hmem : n ∈ text.codes)
    (hforeign : ∀ c : Char, c.toNat = n → c ≠ '=' ∧ Base64.sextet? c = none) : decodeKey text = none := by
  rw [decodeKey]
  rcases hencode : (text ++ Str.ofString (ofChars (Base64.padding text.codes.length))).encode? with _ | value
  · rfl
  · rw [Str.encode?_eq_some] at hencode
    have hn : n ∈ value.toList.map Char.toNat := by
      rw [← Str.ofString_codes, ← hencode, Str.codes_append]
      exact List.mem_append_left _ hmem
    obtain ⟨c, hc, hcode⟩ := List.mem_map.mp hn
    obtain ⟨hpad, hsextet⟩ := hforeign c hcode
    rw [Option.bind_some, Base64.b64decode, chars_eq, Base64.strictLoop_of_foreign hc hpad hsextet, ite_self]

/-- One character more than whole groups is refused. -/
lemma decodeKey_of_single (hpadding : '='.toNat ∉ text.codes) (hlength : text.codes.length % 4 = 1) :
    decodeKey text = none := by
  have hlength' : Base64.padding text.codes.length = ['=', '=', '='] := by
    rw [Base64.padding, hlength]
    rfl
  rw [decodeKey]
  rcases hencode : (text ++ Str.ofString (ofChars (Base64.padding text.codes.length))).encode? with _ | value
  · rfl
  · rw [Str.encode?_eq_some] at hencode
    have hcodes : text.codes ++ ['=', '=', '='].map Char.toNat = value.toList.map Char.toNat := by
      rw [← Str.ofString_codes, ← hencode, Str.codes_append, hlength', Str.ofString_codes]
      rfl
    obtain ⟨cs, ends, hvalue, hcs, hends⟩ := List.map_eq_append_iff.mp hcodes.symm
    obtain rfl : ends = ['=', '=', '='] := List.map_injective_iff.mpr Str.toNat_injective hends
    have hpad : '=' ∉ cs := fun h => hpadding (hcs ▸ List.mem_map_of_mem h)
    have hmod : (0 + cs.length) % 4 = 1 := by
      rw [Nat.zero_add, ← List.length_map Char.toNat, hcs, hlength]
    rw [Option.bind_some, Base64.b64decode, chars_eq, hvalue,
      Base64.strictLoop_of_single hpad 0 0 0 (by decide) hmod, ite_self]

/-- The session key is the bytes that a spelling of it spells, and a text that is malformed is a
`ConfigurationError`. -/
theorem sessionKey_loaded {base : AuthSettings} (h : OthersValid P environ base) :
    (∀ (key : HmacKey) (standard padded : Bool),
      Given P environ (Str.ofString (String.ofList (Base64.spell standard padded key.bytes))) →
      loadAuthSettings P environ = .ok { base with hmacKey := key }) ∧
    ∀ text, Given P environ text → Malformed text →
      ∃ message, loadAuthSettings P environ = .error (.configurationError message) := by
  constructor
  · intro key standard padded hgiven
    have hne : Str.ofString (String.ofList (Base64.spell standard padded key.bytes)) ≠ ⟨[]⟩ := by
      intro hempty
      have hdecode := decodeKey_spell standard padded key.bytes
      rw [hempty, show decodeKey ⟨[]⟩ = some [] by decide] at hdecode
      have hlength := key.length_bytes
      rw [← Option.some.inj hdecode] at hlength
      exact absurd hlength (by decide)
    rw [loadAuthSettings_eq h, loadHmacKey_eq hgiven hne, decodeKey_spell]
    simp only [dif_pos key.length_bytes]
    rfl
  · intro text hgiven hmalformed
    rw [loadAuthSettings_eq h]
    by_cases hempty : text = ⟨[]⟩
    · rw [loadHmacKey, hgiven.secretValue, if_pos hempty]
      exact ⟨_, rfl⟩
    · rw [loadHmacKey_eq hgiven hempty]
      cases hmalformed with
      | short bytes hdecode hlength =>
        rw [hdecode]
        simp only [dif_neg (Nat.not_le.mpr hlength)]
        exact ⟨_, rfl⟩
      | foreign n hmem hforeign =>
        rw [decodeKey_of_foreign hmem hforeign]
        exact ⟨_, rfl⟩
      | single hpadding hlength =>
        rw [decodeKey_of_single hpadding hlength]
        exact ⟨_, rfl⟩

/-- A file that holds a text, with or without a final newline, gives the text. -/
lemma given_file {path : Str} {content : List UInt8} {value : String}
    (hvalue : (environ.get "P5_SESSION_HMAC_KEY").getD "" = ⟨[]⟩)
    (hfile : environ.get "P5_SESSION_HMAC_KEY_FILE" = some path) (hpath : path ≠ ⟨[]⟩)
    (hregular : P.file path = .regular content) (hreturn : '\r' ∉ value.toList)
    (hends : value.toList.getLast? ≠ some '\n')
    (hcontent : content = encode value ∨ content = encode (value ++ "\n")) :
    Given P environ (Str.ofString value) := by
  rcases hcontent with rfl | rfl
  · refine .file path _ value hvalue hfile hpath hregular (readText_encode hreturn) (removeNewline_of_ne ?_)
    rw [Str.ofString_codes, List.getLast?_map]
    intro hlast
    obtain ⟨c, hc, hcode⟩ := Option.map_eq_some_iff.mp hlast
    exact hends (Str.toNat_injective hcode ▸ hc)
  · refine .file path _ (value ++ "\n") hvalue hfile hpath hregular (readText_encode ?_) ?_
    · rw [String.toList_append, List.mem_append]
      rintro (hmem | hmem)
      · exact hreturn hmem
      · exact absurd hmem (by decide)
    · rw [Str.ofString_append, removeNewline_append]

end

namespace Sample

/-- `int` of decimal digits. -/
def intOfDigits (text : Str) : Option ℤ :=
  if text.codes ≠ [] ∧ text.codes.all (fun n => 48 ≤ n ∧ n ≤ 57) then
    some (text.codes.foldl (fun value n => 10 * value + (n - 48 : ℕ)) (0 : ℤ))
  else none

def interpreter : Interpreter where
  decimal _ := none
  int := intOfDigits
  floatRepr _ := "0.0"
  floatRepr_length _ := by decide
  containerRepr _ := []
  exhausts _ := false
  exhausts_shallow _ _ := rfl

def key : HmacKey := ⟨List.replicate 32 251, by decide⟩

def spelling (standard padded : Bool) : String := String.ofList (Base64.spell standard padded key.bytes)

/-- The values in the environment are in lower and upper case where they have to be; one file holds the
key in the standard alphabet, with a final newline. -/
def platform : AuthPlatform where
  float text := (intOfDigits text).map fun n => .finite n
  upper := id
  refused _ := false
  file path := if path = "/run/secrets/session_hmac_key" then
    .regular (encode (spelling true true ++ "\n")) else .irregular
  interpreter := interpreter
  lower := id

def others : Environ := [("P5_ENVIRONMENT", "test"), ("P5_SERVICE_NAME", "auth"),
  ("P5_DATABASE_URL", "postgresql://db/auth"), ("P5_OIDC_ISSUER", "http://oidc.test"),
  ("P5_OIDC_CLIENT_ID", "client"), ("P5_OIDC_CLIENT_SECRET", "provider-secret"),
  ("P5_OIDC_REDIRECT_URI", "http://gateway.test/callback"),
  ("P5_DESKTOP_CALLBACK_URI", "pentagon5://auth/callback")]

def direct : Environ := (Str.ofString "P5_SESSION_HMAC_KEY", Str.ofString (spelling false false)) :: others

def inFile : Environ :=
  (Str.ofString "P5_SESSION_HMAC_KEY_FILE", Str.ofString "/run/secrets/session_hmac_key") :: others

lemma agree_inFile : Agree inFile direct := by
  intro k hkey hfile
  rw [inFile, direct, List.lookup_cons, List.lookup_cons, beq_eq_false_iff_ne.mpr hkey,
    beq_eq_false_iff_ne.mpr hfile]

lemma loads_direct : (loadAuthSettings platform direct).isOk = true := by decide +kernel

lemma given_inFile : Given platform inFile (Str.ofString (spelling true true)) := by
  have hfile : inFile.get "P5_SESSION_HMAC_KEY_FILE" = some (Str.ofString "/run/secrets/session_hmac_key") := by
    decide
  exact given_file (by decide) hfile (by decide) rfl (by decide +kernel) (by decide +kernel) (Or.inr rfl)

/-- The script that makes the secret writes the standard alphabet and a newline. -/
theorem sessionKey_loaded_inFile : ∃ settings, loadAuthSettings platform inFile = .ok settings ∧
    settings.hmacKey = key := by
  have hloads := loads_direct
  rcases hbase : loadAuthSettings platform direct with e | base
  · rw [hbase] at hloads
    cases hloads
  · exact ⟨_, (sessionKey_loaded ⟨direct, agree_inFile, hbase⟩).1 key true true given_inFile, rfl⟩

end Sample

end Pentagon5.Auth.Environment
