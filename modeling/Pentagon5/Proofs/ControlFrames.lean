import Pentagon5.Contracts.Message
import Pentagon5.Proofs.Wire

/-!
# What a control frame can make the check do

The check of a frame is laxer than the message contract in three places, and it hashes a value of
the frame without looking at its type.
-/

namespace Pentagon5.Auth

open Python Python.Json Pentagon5.Runtime Calendar

/-- The first check of `_websocket_control`: an envelope with its two objects. -/
structure Envelope (I : Interpreter) (message metadata payload : List (Str × Json)) : Prop where
  keys : Json.keys message = envelopeKeys
  schemaVersion : isText (get? message "schemaVersion") "1.0.0" = true
  category : isText (get? message "category") "websocket" = true
  messageId : isUuid7Value I (get? message "messageId") = true
  occurredAt : isUtcZ (get? message "occurredAt") = true
  hasMetadata : get? message "metadata" = some (.dict metadata)
  metadataKeys : Json.keys metadata ⊆ {↑"correlationId", ↑"causationId"}
  correlationId : isUuid7Value I (get? metadata "correlationId") = true
  causationId : isOptionalUuid7 I (get? metadata "causationId") = true
  hasPayload : get? message "payload" = some (.dict payload)
  payloadKeys : Json.keys payload ⊆ {↑"operation", ↑"channel", ↑"subscriptionId"}

section

variable {I : Interpreter} {channel : Str}

lemma controlOfMessage_of_envelope {message metadata payload : List (Str × Json)}
    (h : Envelope I message metadata payload) :
    controlOfMessage I (.dict message) channel = controlOfPayload I metadata payload channel := by
  simp only [controlOfMessage, h.hasMetadata, h.hasPayload]
  rw [if_pos ⟨h.keys, h.schemaVersion, h.category, h.messageId, h.occurredAt, h.metadataKeys,
    h.correlationId, h.causationId, h.payloadKeys⟩]

/-- Everything but an envelope is refused at once. -/
lemma controlOfMessage_cases (message : Json) :
    (∃ entries metadata payload, message = .dict entries ∧ Envelope I entries metadata payload) ∨
      controlOfMessage I message channel = .error (.valueError "invalid WebSocket envelope") := by
  unfold controlOfMessage
  split
  · next entries =>
    split
    · next metadata payload hmetadata hpayload =>
      split_ifs with hvalid
      · obtain ⟨hkeys, hversion, hcategory, hid, htime, hmeta, hcorrelation, hcausation, hpay⟩ := hvalid
        exact Or.inl ⟨entries, metadata, payload, rfl, hkeys, hversion, hcategory, hid, htime,
          hmetadata, hmeta, hcorrelation, hcausation, hpayload, hpay⟩
      · exact Or.inr rfl
    · exact Or.inr rfl
  · exact Or.inr rfl

end

/-- The value is an array or an object, which Python cannot hash. -/
def IsContainer (value : Option Json) : Prop :=
  (∃ items, value = some (.list items)) ∨ ∃ entries, value = some (.dict entries)

/-- A control is returned or a `ValueError` raised. -/
def Settled (result : Except Raised Control) : Prop :=
  (∃ control, result = .ok control) ∨ ∃ message, result = .error (.valueError message)

section

variable {I : Interpreter} {channel : Str}

lemma operationOf_of_container {value : Option Json} (h : IsContainer value) :
    operationOf value = .error .typeError := by
  rcases h with ⟨items, rfl⟩ | ⟨entries, rfl⟩
  · rfl
  · rfl

lemma operationOf_of_not_container {value : Option Json} (h : ¬IsContainer value) :
    (∃ operation, operationOf value = .ok operation) ∨
      operationOf value = .error (.valueError "unsupported WebSocket operation") := by
  unfold operationOf
  split
  · next items => exact absurd (Or.inl ⟨items, rfl⟩) h
  · next entries => exact absurd (Or.inr ⟨entries, rfl⟩) h
  · split_ifs
    · exact Or.inl ⟨_, rfl⟩
    · exact Or.inl ⟨_, rfl⟩
    · exact Or.inl ⟨_, rfl⟩
    · exact Or.inr rfl

/-- After the membership test the checks of the payload only raise `ValueError`. -/
lemma settled_controlOfPayload_iff (metadata payload : List (Str × Json)) :
    Settled (controlOfPayload I metadata payload channel) ↔
      ¬IsContainer (get? payload "operation") := by
  unfold controlOfPayload
  constructor
  · intro hsettled hcontainer
    rw [operationOf_of_container hcontainer] at hsettled
    rcases hsettled with ⟨control, h⟩ | ⟨message, h⟩
    · cases h
    · cases h
  · intro hcontainer
    rcases operationOf_of_not_container hcontainer with ⟨operation, h⟩ | h
    · rw [h]
      dsimp only [bind, Except.bind]
      split_ifs
      · exact Or.inr ⟨_, rfl⟩
      · exact Or.inr ⟨_, rfl⟩
      · exact Or.inr ⟨_, rfl⟩
      · exact Or.inl ⟨_, rfl⟩
    · rw [h]
      exact Or.inr ⟨_, rfl⟩

lemma settled_controlOfMessage_iff (message : Json) :
    Settled (controlOfMessage I message channel) ↔
      ∀ entries metadata payload, message = .dict entries → Envelope I entries metadata payload →
        ¬IsContainer (get? payload "operation") := by
  constructor
  · rintro hsettled entries metadata payload rfl henvelope
    rw [controlOfMessage_of_envelope henvelope, settled_controlOfPayload_iff] at hsettled
    exact hsettled
  · intro h
    rcases controlOfMessage_cases message with ⟨entries, metadata, payload, rfl, henvelope⟩ | herror
    · rw [controlOfMessage_of_envelope henvelope, settled_controlOfPayload_iff]
      exact h entries metadata payload rfl henvelope
    · rw [herror]
      exact Or.inr ⟨_, rfl⟩

end

/-- On every frame and for every channel, the check returns or raises a `ValueError` exactly if
the decoder has stack enough and the operation of a valid envelope is no array or object. -/
theorem settled_iff (I : Interpreter) (text : String) (channel : Str) :
    Settled (websocketControl I text channel) ↔ I.exhausts text = false ∧
      ∀ entries metadata payload, loads text = some (.dict entries) →
        Envelope I entries metadata payload → ¬IsContainer (get? payload "operation") := by
  unfold websocketControl loadsRaising
  cases hstack : I.exhausts text with
  | true =>
    rw [if_pos rfl]
    constructor
    · rintro (⟨control, h⟩ | ⟨message, h⟩)
      · cases h
      · cases h
    · rintro ⟨h, -⟩
      cases h
  | false =>
    rw [if_neg Bool.false_ne_true]
    cases hloads : loads text with
    | none => exact ⟨fun _ => ⟨rfl, nofun⟩, fun _ => Or.inr ⟨_, rfl⟩⟩
    | some message =>
      change Settled (controlOfMessage I message channel) ↔ _
      rw [settled_controlOfMessage_iff]
      constructor
      · intro h
        refine ⟨rfl, fun entries metadata payload heq => ?_⟩
        exact h entries metadata payload (Option.some.inj heq)
      · rintro ⟨-, h⟩ entries metadata payload rfl
        exact h entries metadata payload rfl

/-- What the contract asks beyond the check: no identifier is written as `null`, and the time is
in the notation of RFC 3339. -/
structure Canonical (message : Json) : Prop where
  causationId : message.at? ["metadata", "causationId"] ≠ some .null
  subscriptionId : message.at? ["payload", "subscriptionId"] ≠ some .null
  occurredAt : ∃ (t : Stamp) (fraction : List ℕ),
    message.at? ["occurredAt"] = some (.str ⟨t.text ++ fraction ++ [90]⟩) ∧
      (t.separator = 84 ∨ t.separator = 116) ∧ Datetime.IsFraction fraction

section

variable {I : Interpreter}

/-- Only a text is written as a UUID. -/
lemma str_of_isUuid7 {value : Json} (h : isUuid7 I.decimal (value.toStr I) = true) :
    ∃ s, value = .str s := by
  obtain ⟨u, hu, -⟩ := isUuid7_iff.mp h
  have hhead : ∀ c codes, (value.toStr I).codes = c :: codes → (48 ≤ c ∧ c ≤ 57) ∨ (97 ≤ c ∧ c ≤ 102) :=
    fun c codes hcodes => UUID.head_str (hu ▸ hcodes) c List.mem_cons_self
  cases value with
  | str s => exact ⟨s, rfl⟩
  | null => exact absurd (hhead 78 _ rfl) (by decide)
  | bool b =>
    cases b with
    | false => exact absurd (hhead 70 _ rfl) (by decide)
    | true => exact absurd (hhead 84 _ rfl) (by decide)
  | int n =>
    -- the sign stands only at the front, where a UUID has a digit
    cases n with
    | ofNat n =>
      have hhyphen := UUID.hyphen_mem_str u
      rw [← hu, toStr, Str.ofString_codes, List.mem_map] at hhyphen
      obtain ⟨c, hc, hcode⟩ := hhyphen
      rw [Int.toString_eq_repr, Int.repr, Nat.toList_repr] at hc
      have hdigit : c.isDigit = true := Nat.isDigit_of_mem_toDigits (by decide) (by decide) hc
      obtain rfl : c = '-' := Str.toNat_injective hcode
      cases hdigit
    | negSucc n =>
      have hsign : (toStr I (.int (.negSucc n))).codes = 45 :: (n + 1).repr.toList.map Char.toNat := by
        rw [toStr, Str.ofString_codes, Int.toString_eq_repr, Int.repr_eq_if, if_neg (by omega),
          String.toList_append, List.map_append, Int.neg_negSucc]
        rfl
      exact absurd (hhead 45 _ hsign) (by decide)
  | float lexeme =>
    have hlength := I.floatRepr_length lexeme
    rw [show I.floatRepr lexeme = u.str from hu, UUID.length_str] at hlength
    omega
  | list items => exact absurd (hhead 91 _ rfl) (by decide)
  | dict entries => exact absurd (hhead 123 _ rfl) (by decide)

lemma uuidV7_of_isUuid7 {value : Json} (h : isUuid7 I.decimal (value.toStr I) = true) :
    Contracts.UuidV7 value := by
  obtain ⟨s, rfl⟩ := str_of_isUuid7 h
  exact ⟨s, rfl, (Uuid7.isUuid7_iff_matches I.decimal s).mp h⟩

lemma required_uuidV7 {entries : List (Str × Json)} {key : String}
    (h : isUuid7Value I (get? entries key) = true) : JsonSchema.Required entries key Contracts.UuidV7 := by
  unfold isUuid7Value at h
  cases hvalue : get? entries key with
  | none =>
    rw [hvalue] at h
    obtain ⟨text, htext, hmatch⟩ := uuidV7_of_isUuid7 h
    obtain ⟨u, hu, -⟩ := Uuid7.matches_iff.mp hmatch
    have hlength := UUID.length_str u
    rw [← hu, ← Json.str.inj htext] at hlength
    cases hlength
  | some value =>
    rw [hvalue] at h
    exact ⟨value, hvalue, uuidV7_of_isUuid7 h⟩

/-- An optional identifier that passes the check is a UUIDv7 unless it is `null`. -/
lemma optional_uuidV7_iff {entries : List (Str × Json)} {key : String}
    (h : isOptionalUuid7 I (get? entries key) = true) :
    JsonSchema.Optional entries key Contracts.UuidV7 ↔ get? entries key ≠ some .null := by
  constructor
  · intro hoptional hnull
    obtain ⟨text, htext, -⟩ := hoptional .null hnull
    cases htext
  · intro hne value hvalue
    rw [hvalue] at h hne
    apply uuidV7_of_isUuid7 (I := I)
    unfold isOptionalUuid7 at h
    split at h
    · next heq => cases heq
    · next heq => exact absurd heq hne
    · next heq => exact Option.some.inj heq ▸ h

lemma get?_of_isText {entries : List (Str × Json)} {key : String} {text : Str}
    (h : isText (get? entries key) text = true) : get? entries key = some (.str text) := by
  unfold isText at h
  split at h
  · next heq => rw [heq, of_decide_eq_true h]
  · cases h

lemma closed_of_keys {entries : List (Str × Json)} {names : List String}
    (h : Json.keys entries ⊆ (names.map Str.ofString).toFinset) : JsonSchema.Closed entries names := by
  intro e he
  have hmem : e.1 ∈ Json.keys entries := by
    rw [Json.keys, List.mem_toFinset]
    exact List.mem_map_of_mem he
  have hname := h hmem
  rw [List.mem_toFinset, List.mem_map] at hname
  obtain ⟨name, hname, heq⟩ := hname
  exact ⟨name, hname, heq.symm⟩

/-- A stamp that the check accepts has the numbers of a date and a time. -/
lemma valid_of_isUtcZ {t : Stamp} (hseparator : t.separator < 128) {fraction : List ℕ}
    (hfraction : Datetime.IsFraction fraction)
    (h : isUtcZ (some (.str ⟨t.text ++ fraction ++ [90]⟩)) = true) : t.Valid := by
  simp only [isUtcZ, List.reverse_append, List.reverse_cons, List.reverse_nil, List.nil_append,
    List.singleton_append, List.reverse_reverse, decide_eq_true_eq] at h
  by_contra hinvalid
  have hoffset := Datetime.utcoffset_stamp t hseparator hfraction
  rw [if_neg hinvalid] at hoffset
  have hsum : (⟨t.text ++ fraction⟩ ++ Str.ofString "+00:00" : Str) =
      ⟨t.text ++ fraction ++ Datetime.zeroZone⟩ := rfl
  rw [hsum, hoffset] at h
  cases h

/-- A date-time that ends in `Z` has the offset `Z`. -/
lemma offset_of_getLast {codes offset : List ℕ} (hoffset : Contracts.IsOffset offset)
    (h : (codes ++ offset).getLast? = some 90) : offset = [90] := by
  rcases hoffset with rfl | rfl | ⟨sign, hour, minute, -, -, -, rfl⟩
  · rfl
  · rw [List.getLast?_append] at h
    cases h
  · have hsplit : sign :: (padded 2 hour ++ 58 :: padded 2 minute) =
        sign :: (padded 2 hour ++ 58 :: padded 1 (minute / 10)) ++ [48 + minute % 10] := by
      simp [padded]
    rw [hsplit, ← List.append_assoc, List.getLast?_concat] at h
    have := Option.some.inj h
    omega

/-- For a time that passes the check, the contract asks for the notation of RFC 3339. -/
lemma utcTimestamp_iff {value : Json} (h : isUtcZ (some value) = true) :
    Contracts.UtcTimestamp value ↔ ∃ (t : Stamp) (fraction : List ℕ),
      value = .str ⟨t.text ++ fraction ++ [90]⟩ ∧ (t.separator = 84 ∨ t.separator = 116) ∧
        Datetime.IsFraction fraction := by
  constructor
  · rintro ⟨⟨codes⟩, rfl, ⟨t, fraction, offset, hcodes, hseparator, -, -, -, -, -, hfraction, hoffset⟩, hlast⟩
    obtain rfl : codes = t.text ++ fraction ++ offset := hcodes
    obtain rfl := offset_of_getLast hoffset hlast
    exact ⟨t, fraction, rfl, hseparator, hfraction⟩
  · rintro ⟨t, fraction, rfl, hseparator, hfraction⟩
    obtain ⟨⟨-, hmonth, hday⟩, hhour, hminute, hsecond⟩ := valid_of_isUtcZ (by omega) hfraction h
    refine ⟨_, rfl, ⟨t, fraction, [90], rfl, hseparator, hmonth, hday, hhour, hminute, hsecond.le,
      hfraction, Or.inl rfl⟩, ?_⟩
    exact List.getLast?_concat

end

section

variable {I : Interpreter} {entries metadata payload : List (Str × Json)}

lemma operation_of_ok {value : Option Json} {operation : ControlOperation}
    (h : operationOf value = .ok operation) : ∃ text ∈ ["subscribe", "unsubscribe", "heartbeat"],
      isText value (Str.ofString text) = true := by
  unfold operationOf at h
  split at h
  · cases h
  · cases h
  · split_ifs at h with hsubscribe hunsubscribe hheartbeat
    · exact ⟨_, by simp, hsubscribe⟩
    · exact ⟨_, by simp, hunsubscribe⟩
    · exact ⟨_, by simp, hheartbeat⟩

/-- What the check of the payload has established when it returns. -/
lemma webSocketPayload_iff {channel : Channel} {control : Control}
    (henvelope : Envelope I entries metadata payload)
    (h : controlOfPayload I metadata payload channel.text = .ok control) :
    Contracts.WebSocketPayload (.dict payload) ↔ get? payload "subscriptionId" ≠ some .null := by
  obtain ⟨operation, hoperation, h⟩ := bind_eq_ok.mp h
  simp only at h
  split_ifs at h with hchannel hsubscription hmissing
  rw [Bool.not_eq_false] at hchannel hsubscription
  rw [← optional_uuidV7_iff hsubscription]
  constructor
  · rintro ⟨_, heq, -, -, hoptional, -⟩
    obtain rfl := Json.dict.inj heq
    exact hoptional
  · intro hoptional
    obtain ⟨text, htext, hoperation⟩ := operation_of_ok hoperation
    refine ⟨payload, rfl, ⟨_, get?_of_isText hoperation, _, rfl, text, ?_, rfl⟩,
      ⟨_, get?_of_isText hchannel, _, rfl, ?_⟩, hoptional, closed_of_keys henvelope.payloadKeys⟩
    · simp only [List.mem_cons, List.not_mem_nil, or_false] at htext ⊢
      tauto
    · cases channel <;> simp [Channel.text]

lemma messageMetadata_iff (henvelope : Envelope I entries metadata payload) :
    Contracts.MessageMetadata (.dict metadata) ↔ get? metadata "causationId" ≠ some .null := by
  rw [← optional_uuidV7_iff henvelope.causationId]
  constructor
  · rintro ⟨_, heq, -, hoptional, -⟩
    obtain rfl := Json.dict.inj heq
    exact hoptional
  · intro hoptional
    exact ⟨metadata, rfl, required_uuidV7 henvelope.correlationId, hoptional,
      closed_of_keys henvelope.metadataKeys⟩

lemma webSocket_iff_canonical {channel : Channel} {control : Control}
    (henvelope : Envelope I entries metadata payload)
    (h : controlOfPayload I metadata payload channel.text = .ok control) :
    Contracts.WebSocket (.dict entries) ↔ Canonical (.dict entries) := by
  obtain ⟨time, htime⟩ : ∃ time, get? entries "occurredAt" = some time := by
    cases htime : get? entries "occurredAt" with
    | none => exact absurd henvelope.occurredAt (by rw [htime]; exact Bool.false_ne_true)
    | some time => exact ⟨time, rfl⟩
  have hutc := henvelope.occurredAt
  rw [htime] at hutc
  have hcausation : at? (.dict entries) ["metadata", "causationId"] = get? metadata "causationId" := by
    simp only [at?, henvelope.hasMetadata, Option.bind_some, Option.bind_fun_some]
  have hsubscription : at? (.dict entries) ["payload", "subscriptionId"] =
      get? payload "subscriptionId" := by
    simp only [at?, henvelope.hasPayload, Option.bind_some, Option.bind_fun_some]
  have hoccurred : at? (.dict entries) ["occurredAt"] = some time := by
    simp only [at?, htime, Option.bind_some]
  have hcategory := get?_of_isText henvelope.category
  constructor
  · rintro ⟨_, heq, hbase, ⟨_, hpayload, hvalid⟩, -, -⟩
    obtain rfl := Json.dict.inj heq
    obtain ⟨_, hmetadata, hvalidMetadata⟩ := hbase.metadata
    obtain ⟨_, hocc, hvalidTime⟩ := hbase.occurredAt
    obtain rfl := Option.some.inj (henvelope.hasPayload.symm.trans hpayload)
    obtain rfl := Option.some.inj (henvelope.hasMetadata.symm.trans hmetadata)
    obtain rfl := Option.some.inj (htime.symm.trans hocc)
    refine ⟨?_, ?_, ?_⟩
    · rw [hcausation]
      exact (messageMetadata_iff henvelope).mp hvalidMetadata
    · rw [hsubscription]
      exact (webSocketPayload_iff henvelope h).mp hvalid
    · rw [hoccurred]
      obtain ⟨t, fraction, rfl, hnotation⟩ := (utcTimestamp_iff hutc).mp hvalidTime
      exact ⟨t, fraction, rfl, hnotation⟩
  · rintro ⟨hnotNull, hsubscribed, t, fraction, hstamp, hnotation⟩
    rw [hcausation] at hnotNull
    rw [hsubscription] at hsubscribed
    rw [hoccurred] at hstamp
    refine ⟨entries, rfl, ⟨?_, ?_, ?_, ?_, ?_⟩, ?_, ?_, ?_⟩
    · exact ⟨_, get?_of_isText henvelope.schemaVersion, _, rfl, rfl⟩
    · exact required_uuidV7 henvelope.messageId
    · exact ⟨_, hcategory, _, rfl, trivial⟩
    · exact ⟨time, htime, (utcTimestamp_iff hutc).mpr ⟨t, fraction, Option.some.inj hstamp, hnotation⟩⟩
    · exact ⟨_, henvelope.hasMetadata, (messageMetadata_iff henvelope).mpr hnotNull⟩
    · exact ⟨_, henvelope.hasPayload, (webSocketPayload_iff henvelope h).mpr hsubscribed⟩
    · intro value hvalue
      obtain rfl := Option.some.inj (hcategory.symm.trans hvalue)
      exact ⟨_, rfl, rfl⟩
    · apply closed_of_keys
      rw [henvelope.keys]
      intro key hkey
      simpa [envelopeKeys] using hkey

end

/-- A frame that the check accepts is a valid WebSocket message exactly if it names nothing by
`null` and has its time in the notation of RFC 3339. -/
theorem accepted_valid_iff (I : Interpreter) (text : String) (channel : Channel) (control : Control)
    (h : websocketControl I text channel.text = .ok control) :
    ∃ message, loads text = some message ∧ (Contracts.WebSocket message ↔ Canonical message) := by
  obtain ⟨message, hloads, h⟩ := bind_eq_ok.mp h
  unfold loadsRaising at hloads
  split_ifs at hloads with hstack
  cases hvalue : loads text with
  | none =>
    rw [hvalue] at hloads
    cases hloads
  | some value =>
    rw [hvalue] at hloads
    obtain rfl := Except.ok.inj hloads
    rcases controlOfMessage_cases value with ⟨entries, metadata, payload, rfl, henvelope⟩ | herror
    · rw [controlOfMessage_of_envelope henvelope] at h
      exact ⟨_, rfl, webSocket_iff_canonical henvelope h⟩
    · rw [herror] at h
      cases h

namespace Frames

open Wire.Deployed (interpreter)

/-- A frame for the system health, from the JSON of the parts that vary. -/
def frame (occurredAt causation operation subscription : String) : String :=
  "\x7b\"schemaVersion\":\"1.0.0\",\"category\":\"websocket\"," ++
    "\"messageId\":\"01890a5d-ac96-774b-bcce-b302099a8057\",\"occurredAt\":\"" ++ occurredAt ++
    "\",\"metadata\":\x7b\"correlationId\":\"01890a5d-ac96-774b-bcce-b302099a8057\"" ++ causation ++
    "\x7d,\"payload\":\x7b\"operation\":" ++ operation ++ ",\"channel\":\"system.health\"" ++
    subscription ++ "\x7d\x7d"

/-- An operation that is an array. -/
def unhashable : String := frame "2026-01-01T12:00:00Z" "" "[]" ""

theorem not_settled_unhashable :
    ¬∀ text channel, Settled (websocketControl interpreter text channel) := by
  intro h
  have herror : websocketControl interpreter unhashable "system.health" = .error .typeError := by
    decide +kernel
  rcases h unhashable "system.health" with ⟨control, hok⟩ | ⟨message, hvalue⟩
  · rw [herror] at hok
    cases hok
  · rw [herror] at hvalue
    cases hvalue

def heartbeat : Control := ⟨.heartbeat, "01890a5d-ac96-774b-bcce-b302099a8057", none⟩

theorem accepted_valid_heartbeat :
    ∃ message, loads (frame "2026-01-01T12:00:00Z" "" "\"heartbeat\"" "") = some message ∧
      (Contracts.WebSocket message ↔ Canonical message) :=
  accepted_valid_iff interpreter _ .systemHealth heartbeat (by decide +kernel)

def isNull : Json → Bool
  | .null => true
  | _ => false

/-- A valid message names no causation by `null`. -/
lemma isNull_causationId {message : Json} (h : Contracts.WebSocket message) :
    (message.at? ["metadata", "causationId"]).any isNull = false := by
  obtain ⟨entries, rfl, hbase, -, -, -⟩ := h
  obtain ⟨_, hmetadata, metadata, rfl, -, hoptional, -⟩ := hbase.metadata
  simp only [at?, hmetadata, Option.bind_some, Option.bind_fun_some]
  cases hvalue : get? metadata "causationId" with
  | none => rfl
  | some value =>
    obtain ⟨id, rfl, -⟩ := hoptional value hvalue
    rfl

def nullCausation : String := frame "2026-01-01T12:00:00Z" ",\"causationId\":null" "\"heartbeat\"" ""

/-- A heartbeat whose causation is `null`. -/
theorem not_valid_nullCausation :
    ¬∀ text (channel : Channel) control, websocketControl interpreter text channel.text = .ok control →
      ∃ message, loads text = some message ∧ Contracts.WebSocket message := by
  intro h
  have haccepted : websocketControl interpreter nullCausation "system.health" = .ok heartbeat := by
    decide +kernel
  have hnull : ((loads nullCausation).bind fun message =>
      message.at? ["metadata", "causationId"]).any isNull = true := by decide +kernel
  obtain ⟨message, hloads, hvalid⟩ := h nullCausation .systemHealth heartbeat haccepted
  rw [hloads, Option.bind_some, isNull_causationId hvalid] at hnull
  cases hnull

/-- A week date with a space before the time. -/
example : websocketControl interpreter (frame "2026-W01-4 12Z" "" "\"heartbeat\"" "") "system.health" =
    .ok heartbeat := by decide +kernel

end Frames

end Pentagon5.Auth
