import Pentagon5.Auth.Deployment
import Pentagon5.Auth.TokenText
import Pentagon5.Python.JsonEscapes

/-!
# Sealed payloads

What `_seal` writes, `_open` reads back for the same purpose and refuses for another one. JSON joins
the surrogates of a text that make a pair, and this is the only change a payload can suffer.
-/

namespace Pentagon5.Auth

open Python AuthenticationService

/-- A dictionary of texts, which may hold surrogates. -/
structure Payload where
  members : List (Str × Str)
  nodup : (members.map Prod.fst).Nodup
  bounded : ∀ m ∈ members, (∀ n ∈ m.1.codes, n < 0x110000) ∧ ∀ n ∈ m.2.codes, n < 0x110000

namespace Payload

def entries (payload : Payload) : Dict := payload.members.map fun m => (m.1, .str m.2)

/-- No text of the payload holds a high surrogate before a low one. -/
def Unpaired (payload : Payload) : Prop :=
  ∀ m ∈ payload.members, Json.Unpaired m.1.codes ∧ Json.Unpaired m.2.codes

lemma ofString_lt (s : String) : ∀ n ∈ (Str.ofString s).codes, n < 0x110000 := by
  intro n hn
  rw [Str.ofString_codes] at hn
  obtain ⟨c, -, rfl⟩ := List.mem_map.mp hn
  have := Json.toNat_valid c
  omega

/-- A dictionary of texts without surrogates. -/
def ofStrings (members : List (String × String)) (h : (members.map Prod.fst).Nodup) : Payload where
  members := members.map fun m => (Str.ofString m.1, Str.ofString m.2)
  nodup := by
    have hkeys : (members.map fun m => (Str.ofString m.1, Str.ofString m.2)).map Prod.fst =
        (members.map Prod.fst).map Str.ofString := by
      rw [List.map_map, List.map_map]
      rfl
    rw [hkeys]
    exact h.map Str.ofString_injective
  bounded := by
    intro m hm
    obtain ⟨member, -, rfl⟩ := List.mem_map.mp hm
    exact ⟨ofString_lt member.1, ofString_lt member.2⟩

lemma unpaired_ofString (s : String) : Json.Unpaired (Str.ofString s).codes := by
  rw [← Json.joinPairs_eq_self_iff, Str.ofString_codes]
  induction s.toList using List.twoStepInduction with
  | nil => rfl
  | singleton c => rfl
  | cons_cons c d cs _ ih =>
    have hhigh : ¬(Json.isHigh c.toNat = true ∧ Json.isLow d.toNat = true) := by
      have := Json.toNat_valid c
      simp only [Json.isHigh, decide_eq_true_eq]
      omega
    rw [List.map_cons, List.map_cons, Json.joinPairs, if_neg hhigh]
    exact congrArg (c.toNat :: ·) (ih d)

lemma unpaired_ofStrings {members : List (String × String)} (h : (members.map Prod.fst).Nodup) :
    (ofStrings members h).Unpaired := by
  intro m hm
  obtain ⟨member, -, rfl⟩ := List.mem_map.mp hm
  exact ⟨unpaired_ofString member.1, unpaired_ofString member.2⟩

end Payload

section

variable (settings : AuthSettings) (crypto : Primitives)

/-- `_seal`, for the nonce it draws. -/
def sealedPayload (nonce : List UInt8) (payload : Payload) (associatedData : List UInt8) : String :=
  Base64.urlsafeB64encode (nonce ++ crypto.aesGcmEncrypt (encryptionKey settings crypto) nonce
    (encode (Json.dumpsAscii (.dict payload.entries))) associatedData)

/-- `_open` of any text; one with a surrogate is no ASCII text. -/
def openedText (value : Str) (associatedData : List UInt8) : Except PyError Dict :=
  match value.encode? with
  | some text => opened settings crypto text associatedData
  | none => .error (.authenticationError "authorization transaction cannot be decrypted")

end

/-- A ciphertext is decrypted under its associated data and refused under any other. -/
structure Bound (crypto : Primitives) : Prop where
  decrypts : ∀ key nonce data associatedData,
    crypto.aesGcmDecrypt key nonce (crypto.aesGcmEncrypt key nonce data associatedData) associatedData = some data
  rejects : ∀ key nonce data associatedData associatedData', associatedData ≠ associatedData' →
    crypto.aesGcmDecrypt key nonce (crypto.aesGcmEncrypt key nonce data associatedData) associatedData' = none

variable {settings : AuthSettings} {crypto : Primitives} {nonce : List UInt8} {payload : Payload}

lemma readable_entries (payload : Payload) :
    Json.Readable (fun s => ∀ n ∈ s.codes, n < 0x110000) (.dict payload.entries) := by
  apply Json.Readable.dict
  · rw [Payload.entries, List.map_map]
    exact payload.nodup
  · intro e he
    obtain ⟨m, hm, rfl⟩ := List.mem_map.mp he
    exact (payload.bounded m hm).1
  · intro e he
    obtain ⟨m, hm, rfl⟩ := List.mem_map.mp he
    exact .str _ (payload.bounded m hm).2

/-- The dictionary that `_open` returns for a sealed payload. -/
def Payload.read (payload : Payload) : Dict :=
  (payload.members.map fun m => (Json.joined m.1, Json.str (Json.joined m.2))).foldl
    (fun d e => Json.setEntry d e.1 e.2) []

lemma renamed_entries : Json.renamed Json.joined (.dict payload.entries) = .dict payload.read := by
  rw [Json.renamed, Json.renamedEntries_eq, Payload.entries, List.map_map]
  rfl

lemma decrypted_sealedPayload (hn : nonce.length = 12) (a b : List UInt8) :
    decrypted settings crypto (sealedPayload settings crypto nonce payload a) b =
      (crypto.aesGcmDecrypt (encryptionKey settings crypto) nonce
        (crypto.aesGcmEncrypt (encryptionKey settings crypto) nonce
          (encode (Json.dumpsAscii (.dict payload.entries))) a) b).bind fun data =>
            (decode data).bind Json.loads := by
  have htake : ∀ data, (nonce ++ data).take 12 = nonce := fun data => by rw [← hn, List.take_left]
  have hdrop : ∀ data, (nonce ++ data).drop 12 = data := fun data => by rw [← hn, List.drop_left]
  simp only [decrypted, sealedPayload, Base64.urlsafeB64decode_encode, Option.bind_eq_bind,
    Option.bind_some, htake, hdrop]

/-- JSON changes a payload exactly when one of its texts holds a pair of surrogates. -/
lemma read_eq_entries_iff : payload.read = payload.entries ↔ payload.Unpaired := by
  have hjoined : ∀ s : Str, Json.joined s = s ↔ Json.Unpaired s.codes := by
    intro s
    rw [← Json.joinPairs_eq_self_iff]
    exact ⟨fun h => congrArg Str.codes h, fun h => congrArg Str.mk h⟩
  have hmap : (payload.members.map fun m => (Json.joined m.1, Json.str (Json.joined m.2))) = payload.entries ↔
      payload.Unpaired := by
    rw [Payload.entries, List.map_inj_left]
    refine forall₂_congr fun m _ => ?_
    rw [Prod.mk.injEq, Json.str.injEq, hjoined, hjoined]
  rw [← hmap]
  constructor
  · intro h
    have hlen : (payload.members.map fun m => (Json.joined m.1, Json.str (Json.joined m.2))).length ≤
        payload.read.length := by
      rw [h, Payload.entries, List.length_map, List.length_map]
    rw [← h, Payload.read]
    exact (Json.foldl_setEntry_of_length hlen).symm
  · intro h
    rw [Payload.read, h]
    have hnodup : ([] ++ payload.entries).map Prod.fst |>.Nodup := by
      rw [List.nil_append, Payload.entries, List.map_map]
      exact payload.nodup
    rw [Json.addEntries_eq_append hnodup, List.nil_append]

/-- `_open` for the purpose that `_seal` was given. -/
lemma opened_sealedPayload (h : Bound crypto) (hn : nonce.length = 12) (associatedData : List UInt8) :
    opened settings crypto (sealedPayload settings crypto nonce payload associatedData) associatedData =
      .ok payload.read := by
  rw [opened, decrypted_sealedPayload hn, h.decrypts, Option.bind_some, decode_encode, Option.bind_some,
    Json.loads_dumpsAscii (readable_entries payload), renamed_entries]

lemma opened_of_ne (h : Bound crypto) (hn : nonce.length = 12) {a b : List UInt8} (hab : a ≠ b) :
    opened settings crypto (sealedPayload settings crypto nonce payload a) b =
      .error (.authenticationError "authorization transaction cannot be decrypted") := by
  rw [opened, decrypted_sealedPayload hn, h.rejects _ _ _ _ _ hab]
  rfl

lemma opened_cases (value : String) (associatedData : List UInt8) :
    (∃ entries, opened settings crypto value associatedData = .ok entries) ∨
      ∃ message, opened settings crypto value associatedData = .error (.authenticationError message) := by
  rw [opened]
  split
  · exact .inr ⟨_, rfl⟩
  · exact .inl ⟨_, rfl⟩
  · exact .inr ⟨_, rfl⟩

/-- `_open` gives back exactly the payload that was sealed if and only if the purposes are the same and
no text holds a pair of surrogates; it refuses other purposes; and of any text whatsoever it makes
a dictionary or an `AuthenticationError`. -/
theorem opened_sealedPayload_iff (h : Bound crypto) (hn : nonce.length = 12) (payload : Payload)
    (a b : List UInt8) :
    (opened settings crypto (sealedPayload settings crypto nonce payload a) b = .ok payload.entries ↔
      a = b ∧ payload.Unpaired) ∧
    (a ≠ b → ∃ message, opened settings crypto (sealedPayload settings crypto nonce payload a) b =
      .error (.authenticationError message)) ∧
    ∀ value, (∃ entries, openedText settings crypto value b = .ok entries) ∨
      ∃ message, openedText settings crypto value b = .error (.authenticationError message) := by
  refine ⟨?_, fun hab => ⟨_, opened_of_ne h hn hab⟩, fun value => ?_⟩
  · by_cases hab : a = b
    · subst hab
      rw [opened_sealedPayload h hn, Except.ok.injEq, read_eq_entries_iff, and_iff_right rfl]
    · rw [opened_of_ne h hn hab]
      exact iff_of_false (by simp) fun hboth => hab hboth.1
  · rw [openedText]
    cases value.encode? with
    | none => exact .inr ⟨_, rfl⟩
    | some text => exact opened_cases text b

namespace Tables

variable {T : Tables}

/-- Associated data after its length in unary. -/
def frame (associatedData : List UInt8) : List UInt8 :=
  List.replicate associatedData.length 1 ++ 0 :: associatedData

lemma unary_inj {m n : ℕ} {x y : List UInt8}
    (h : List.replicate m 1 ++ 0 :: x = List.replicate n 1 ++ 0 :: y) : m = n ∧ x = y := by
  induction m generalizing n with
  | zero =>
    cases n with
    | zero => exact ⟨rfl, (List.cons.inj h).2⟩
    | succ n => exact absurd (List.cons.inj h).1 (by decide)
  | succ m ih =>
    cases n with
    | zero => exact absurd (List.cons.inj h).1 (by decide)
    | succ n =>
      obtain ⟨rfl, rfl⟩ := ih (List.cons.inj h).2
      exact ⟨rfl, rfl⟩

lemma frame_inj {a b s t : List UInt8} (h : frame a ++ s = frame b ++ t) : a = b := by
  rw [frame, frame, List.append_assoc, List.append_assoc] at h
  obtain ⟨hlen, happend⟩ := unary_inj h
  exact (List.append_inj happend hlen).1

variable (T) in
def boundEncrypt (nonce data associatedData : List UInt8) : List UInt8 :=
  match T.ciphertexts.find? (fun e => e.nonce = nonce ∧ e.data = data ∧
    e.associatedData = associatedData) with
  | some e => e.value
  | none => 0 :: (frame associatedData ++ data)

variable (T) in
def boundDecrypt (nonce value associatedData : List UInt8) : Option (List UInt8) :=
  match T.ciphertexts.find? (fun e => e.nonce = nonce ∧ e.value = value ∧
    e.associatedData = associatedData) with
  | some e => some e.data
  | none => if (0 :: frame associatedData).isPrefixOf value then
      some (value.drop (0 :: frame associatedData).length) else none

variable (T) in
/-- The primitives of the table; outside it a ciphertext names its associated data. -/
def boundPrimitives : Primitives where
  hmacSha256 _ := T.hmac
  sha256 data := (T.digests.lookup data).getD []
  aesGcmEncrypt _ := T.boundEncrypt
  aesGcmDecrypt _ := T.boundDecrypt
  lower := asciiLower

lemma boundEncrypt_cases (nonce data associatedData : List UInt8) :
    (∃ e ∈ T.ciphertexts, e.nonce = nonce ∧ e.data = data ∧ e.associatedData = associatedData ∧
      T.boundEncrypt nonce data associatedData = e.value) ∨
      T.boundEncrypt nonce data associatedData = 0 :: (frame associatedData ++ data) := by
  rw [boundEncrypt]
  split
  · next e he =>
    obtain ⟨hnonce, hdata, had⟩ : e.nonce = nonce ∧ e.data = data ∧ e.associatedData = associatedData := by
      simpa using List.find?_some he
    exact .inl ⟨e, List.mem_of_find?_eq_some he, hnonce, hdata, had, rfl⟩
  · exact .inr rfl

lemma Collisionless.boundDecrypt_framed (h : T.Collisionless) (nonce data a b : List UInt8) :
    T.boundDecrypt nonce (0 :: (frame a ++ data)) b = if a = b then some data else none := by
  have hnone : T.ciphertexts.find? (fun e => e.nonce = nonce ∧ e.value = 0 :: (frame a ++ data) ∧
      e.associatedData = b) = none := by
    rw [List.find?_eq_none]
    intro e he hp
    simp only [decide_eq_true_eq] at hp
    exact h.marked e he (by rw [hp.2.1]; rfl)
  rw [boundDecrypt, hnone]
  by_cases hab : a = b
  · subst hab
    have hprefix : (0 :: frame a).isPrefixOf (0 :: (frame a ++ data)) = true :=
      List.isPrefixOf_iff_prefix.mpr ⟨data, rfl⟩
    simp only [if_pos hprefix, if_true]
    rw [← List.cons_append, List.drop_left]
  · have hprefix : ¬(0 :: frame b).isPrefixOf (0 :: (frame a ++ data)) = true := by
      rw [List.isPrefixOf_iff_prefix]
      rintro ⟨tail, htail⟩
      exact hab (frame_inj (List.cons.inj htail).2).symm
    simp only [if_neg hprefix, if_neg hab]

lemma Collisionless.boundDecrypt_value (h : T.Collisionless) {e : Ciphertext} (he : e ∈ T.ciphertexts)
    (associatedData : List UInt8) : T.boundDecrypt e.nonce e.value associatedData =
      if e.associatedData = associatedData then some e.data else none := by
  rw [boundDecrypt]
  split
  · next e' he' =>
    have hp : e'.nonce = e.nonce ∧ e'.value = e.value ∧ e'.associatedData = associatedData := by
      simpa using List.find?_some he'
    obtain rfl := List.inj_on_of_nodup_map h.ciphertexts (List.mem_of_find?_eq_some he') he hp.2.1
    rw [if_pos hp.2.2]
  · next hnone =>
    simp only [List.find?_eq_none, decide_eq_true_eq] at hnone
    have hne : e.associatedData ≠ associatedData := fun heq => hnone e he ⟨rfl, rfl, heq⟩
    rw [if_neg hne, if_neg]
    rw [List.isPrefixOf_iff_prefix]
    rintro ⟨tail, htail⟩
    exact h.marked e he (by rw [← htail]; rfl)

/-- Every table without collisions extends to primitives that bind the associated data. -/
theorem Collisionless.bound (h : T.Collisionless) : Bound T.boundPrimitives where
  decrypts _ nonce data associatedData := by
    show T.boundDecrypt nonce (T.boundEncrypt nonce data associatedData) associatedData = some data
    rcases boundEncrypt_cases (T := T) nonce data associatedData with ⟨e, he, rfl, rfl, rfl, hvalue⟩ | hvalue
    · rw [hvalue, h.boundDecrypt_value he, if_pos rfl]
    · rw [hvalue, h.boundDecrypt_framed, if_pos rfl]
  rejects _ nonce data a b hab := by
    show T.boundDecrypt nonce (T.boundEncrypt nonce data a) b = none
    rcases boundEncrypt_cases (T := T) nonce data a with ⟨e, he, rfl, rfl, rfl, hvalue⟩ | hvalue
    · rw [hvalue, h.boundDecrypt_value he, if_neg hab]
    · rw [hvalue, h.boundDecrypt_framed, if_neg hab]

end Tables

namespace Sample

/-- The payload of a login grant. -/
def grantSecret : Payload := .ofStrings [("session_token", token 5)] (List.nodup_singleton _)

/-- A high surrogate before a low one. -/
def emoji : Payload where
  members := [("session_token", ⟨[0xD83D, 0xDE00]⟩)]
  nodup := List.nodup_singleton _
  bounded := by
    intro m hm
    obtain rfl := List.mem_singleton.mp hm
    exact ⟨Payload.ofString_lt _, by decide⟩

lemma bound : Bound tables.boundPrimitives := Tables.Collisionless.bound (by decide +kernel)

end Sample

open Sample in
/-- A sealed grant opens as a grant and not as a flow; a sealed pair of surrogates comes back changed. -/
theorem opened_sealedPayload_iff_grant :
    (opened Sample.settings tables.boundPrimitives
      (sealedPayload Sample.settings tables.boundPrimitives (List.replicate 12 7) grantSecret grantPurpose) grantPurpose =
        .ok grantSecret.entries ∧
    ∃ message, opened Sample.settings tables.boundPrimitives
      (sealedPayload Sample.settings tables.boundPrimitives (List.replicate 12 7) grantSecret grantPurpose) flowPurpose =
        .error (.authenticationError message)) ∧
    opened Sample.settings tables.boundPrimitives
      (sealedPayload Sample.settings tables.boundPrimitives (List.replicate 12 7) emoji grantPurpose) grantPurpose ≠
        .ok emoji.entries := by
  refine ⟨⟨(opened_sealedPayload_iff bound rfl grantSecret grantPurpose grantPurpose).1.mpr
      ⟨rfl, Payload.unpaired_ofStrings _⟩,
    (opened_sealedPayload_iff bound rfl grantSecret grantPurpose flowPurpose).2.1 (by decide)⟩, ?_⟩
  intro h
  have hunpaired := ((opened_sealedPayload_iff bound rfl emoji grantPurpose grantPurpose).1.mp h).2
  have hpair := (hunpaired _ (List.mem_singleton.mpr rfl)).2
  exact absurd (Json.joinPairs_eq_self_iff.mpr hpair) (by decide)

end Pentagon5.Auth
