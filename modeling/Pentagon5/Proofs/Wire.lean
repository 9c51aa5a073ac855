import Pentagon5.Auth.Config
import Pentagon5.Client.Envelopes
import Pentagon5.Proofs.Channel
import Pentagon5.Proofs.Uuid7

/-!
# One wire format

The envelope with which the client subscribes is within every admitted frame limit and is accepted
by the server, and the client accepts every message that the server sends for an accepted frame.
-/

namespace Pentagon5.Wire

open Python Python.Json Calendar Ecma Auth Client Pentagon5.Runtime

section

variable {z : Zod} {I : Interpreter}

lemma uuidV7_of_matches {text : Str} (h : Matches uuidV7Pattern text.codes) :
    uuidV7 (.str text) = some text := by
  rw [uuidV7, if_pos h]

lemma uuidV7_of_isUuid7 {text : Str} (h : isUuid7 I.decimal text = true) :
    uuidV7 (.str text) = some text :=
  uuidV7_of_matches ((Uuid7.isUuid7_iff_matches I.decimal text).mp h)

lemma uuidV7_drawn (d : Drawn) : uuidV7 (.str d.value.str) = some d.value.str :=
  uuidV7_of_matches (Uuid7.matches_iff.mpr ⟨d.value, rfl, d.isV7⟩)

lemma utcTimestamp_utcZ (hz : z.AcceptsUtc) (now : Datetime) :
    utcTimestamp z (.str (utcZ now)) = some (utcZ now) := by
  obtain ⟨fraction, hfraction, hcodes⟩ := utcZ_eq now
  have haccept := hz now.toMoment fraction hfraction
  rw [← hcodes] at haccept
  rw [utcTimestamp, if_pos ⟨haccept, by rw [hcodes]; simp⟩]

lemma metadataSchema_eq {correlationId : Str} (h : isUuid7 I.decimal correlationId = true) :
    metadataSchema (.dict [entry "correlationId" (.str correlationId)]) = some ⟨correlationId, none⟩ := by
  rw [metadataSchema, strictObject_eq (by simp [entry])]
  simp [requiredKey, optionalKey, uuidV7_of_isUuid7 h]

/-- An envelope of the server passes the schema of its category when its payload does. -/
lemma envelopeSchema_base {α : Type} (hz : z.AcceptsUtc) {category : String} {correlationId : Str}
    {payload : List (Str × Json)} {occurredAt : Option Str} {messageId : Drawn} {now : Datetime}
    {payloadSchema : Json → Option α} {parsed : α} (hid : isUuid7 I.decimal correlationId = true)
    (htime : orText occurredAt (utcZ now) = utcZ now) (hpayload : payloadSchema (.dict payload) = some parsed) :
    envelopeSchema z category payloadSchema
        (base category correlationId payload occurredAt messageId now) =
      some ⟨messageId.value.str, utcZ now, ⟨correlationId, none⟩, parsed⟩ := by
  rw [envelopeSchema, base, strictObject_eq (by simp [entry])]
  simp [requiredKey, literal, isText, uuidV7_drawn, htime, utcTimestamp_utcZ hz, metadataSchema_eq hid,
    hpayload]

lemma utcZ_ne_nil (now : Datetime) : (utcZ now).codes ≠ [] := by
  obtain ⟨fraction, -, hcodes⟩ := utcZ_eq now
  rw [hcodes]
  simp

lemma orText_some {text : Str} (h : text.codes ≠ []) (other : Str) : orText (some text) other = text := by
  rcases text with ⟨_ | ⟨c, codes⟩⟩
  · exact absurd rfl h
  · rfl

lemma parse_base_websocket (correlationId : Str) (payload : List (Str × Json))
    (occurredAt : Option Str) (messageId : Drawn) (now : Datetime) :
    parseIncomingEnvelope z (base "websocket" correlationId payload occurredAt messageId now) =
      (websocketEnvelopeSchema z (base "websocket" correlationId payload occurredAt messageId now)).map
        .websocket := by
  simp [parseIncomingEnvelope, base, isText]

lemma parse_base_health (correlationId : Str) (payload : List (Str × Json))
    (occurredAt : Option Str) (messageId : Drawn) (now : Datetime) :
    parseIncomingEnvelope z (base "health" correlationId payload occurredAt messageId now) =
      (healthEnvelopeSchema z (base "health" correlationId payload occurredAt messageId now)).map
        .health := by
  simp [parseIncomingEnvelope, base, isText]

/-- The client accepts an acknowledgement and the answer to a heartbeat. -/
lemma parse_websocketEnvelope (hz : z.AcceptsUtc) {control : Control} (h : Genuine I control)
    {operation : String} (hop : operation = "ack" ∨ operation = "heartbeat") (channel : Channel)
    (messageId : Drawn) (now : Datetime) :
    parseIncomingEnvelope z (websocketEnvelope control.correlationId operation channel.text
        control.subscriptionId messageId now) =
      some (.websocket ⟨messageId.value.str, utcZ now, ⟨control.correlationId, none⟩,
        ⟨operation, channel.text, control.subscriptionId⟩⟩) := by
  have hchannel : channel.text = "system.health" ∨ channel.text = "session.events" := by
    cases channel <;> simp [Channel.text]
  have hsub : optionalKey (optionalField "subscriptionId" control.subscriptionId) "subscriptionId" uuidV7 =
      some control.subscriptionId := by
    rw [optionalKey, optionalField_of_isUuid7 "subscriptionId" h.subscriptionId]
    cases hid : control.subscriptionId with
    | none => rfl
    | some id => simp [uuidV7_of_isUuid7 (h.subscriptionId id hid)]
  have hkeys : ∀ e ∈ optionalField "subscriptionId" control.subscriptionId,
      e.1 = Str.ofString "subscriptionId" := by
    intro e he
    unfold optionalField at he
    split at he
    · cases he
    · rw [List.mem_singleton.mp he, entry]
    · cases he
  have hpayload : websocketPayloadSchema (.dict ([entry "operation" (.str operation),
      entry "channel" (.str channel.text)] ++ optionalField "subscriptionId" control.subscriptionId)) =
      some ⟨operation, channel.text, control.subscriptionId⟩ := by
    rw [websocketPayloadSchema, strictObject_eq]
    · simp only [optionalKey] at hsub
      simp [requiredKey, optionalKey, oneOfTexts, hop, hchannel, hsub]
    · intro e he
      rw [List.mem_append] at he
      rcases he with he | he
      · revert e
        simp [entry]
      · exact ⟨"subscriptionId", by simp, hkeys e he⟩
  rw [websocketEnvelope, parse_base_websocket, websocketEnvelopeSchema,
    envelopeSchema_base hz h.correlationId rfl hpayload]
  rfl

/-- The client accepts a health report. -/
lemma parse_healthEnvelope (hz : z.AcceptsUtc) {control : Control} (h : Genuine I control)
    {component : Str} (hcomponent : component ≠ ⟨[]⟩) (now : Datetime) (id messageId : Drawn) :
    parseIncomingEnvelope z (healthEnvelope control.correlationId component "healthy" none now id
        messageId) =
      some (.health ⟨messageId.value.str, utcZ now, ⟨control.correlationId, none⟩,
        ⟨id.value.str, component, "healthy", utcZ now, none⟩⟩) := by
  have hnonempty : component.codes ≠ [] := fun hnil => hcomponent (congrArg Str.mk hnil)
  have hpayload : backendStatusSchema z (.dict ([entry "schemaVersion" (.str "1.0.0"),
      entry "id" (.str id.value.str), entry "component" (.str component),
      entry "status" (.str "healthy"), entry "observedAt" (.str (utcZ now))] ++
      optionalField "detail" none)) =
      some ⟨id.value.str, component, "healthy", utcZ now, none⟩ := by
    rw [backendStatusSchema, strictObject_eq (by simp [entry, optionalField])]
    simp [requiredKey, optionalKey, optionalField, literal, isText, uuidV7_drawn, nonemptyText,
      hnonempty, oneOfTexts, utcTimestamp_utcZ hz]
  rw [healthEnvelope, parse_base_health, healthEnvelopeSchema,
    envelopeSchema_base hz h.correlationId (orText_some (utcZ_ne_nil now) _) hpayload]
  rfl

/-- The client accepts each reply to an accepted frame and reads the frame's identifiers from it. -/
lemma parse_replies (hz : z.AcceptsUtc) {settings : ChannelSettings}
    (hname : settings.serviceName ≠ ⟨[]⟩) {control : Control} (h : Genuine I control)
    (channel : Channel) (r : Readings) {message : Json}
    (hm : message ∈ replies settings channel.text control r) :
    ∃ e, parseIncomingEnvelope z message = some e ∧ e.correlationId = control.correlationId ∧
      (e.subscriptionId = control.subscriptionId ∨ ∃ envelope, e = .health envelope) := by
  rw [replies, List.mem_cons] at hm
  rcases hm with rfl | hm
  · by_cases hop : control.operation = .heartbeat
    · exact ⟨_, parse_websocketEnvelope hz h (by simp [hop]) channel r.ackId r.ackNow, rfl, .inl rfl⟩
    · exact ⟨_, parse_websocketEnvelope hz h (by simp [hop]) channel r.ackId r.ackNow, rfl, .inl rfl⟩
  · split_ifs at hm
    · obtain rfl := List.mem_singleton.mp hm
      exact ⟨_, parse_healthEnvelope hz h hname r.healthNow r.healthId r.healthMessageId, rfl,
        .inr ⟨_, rfl⟩⟩
    · cases hm

end

/-- Characters that a JSON string shows as they are, other than brackets. -/
def IsPlainCode (c : ℕ) : Prop := 32 ≤ c ∧ c < 127 ∧ c ≠ 34 ∧ c ≠ 92 ∧ c ≠ 91 ∧ c ≠ 123

instance (c : ℕ) : Decidable (IsPlainCode c) := inferInstanceAs (Decidable (_ ∧ _ ∧ _ ∧ _ ∧ _ ∧ _))

/-- ASCII characters, counted, with the opening brackets among them. -/
structure Measured (cs : List Char) (length brackets : ℕ) : Prop where
  ascii : ∀ c ∈ cs, c.toNat < 128
  length_eq : cs.length = length
  countP_eq : cs.countP isBracket = brackets

lemma Measured.append {cs ds : List Char} {m n b d : ℕ} (hc : Measured cs m b) (hd : Measured ds n d) :
    Measured (cs ++ ds) (m + n) (b + d) where
  ascii c h := (List.mem_append.mp h).elim (hc.ascii c) (hd.ascii c)
  length_eq := by rw [List.length_append, hc.length_eq, hd.length_eq]
  countP_eq := by rw [List.countP_append, hc.countP_eq, hd.countP_eq]

lemma Measured.cons {cs : List Char} {n b : ℕ} (h : Measured cs n b) (c : Char) (hc : c.toNat < 128) :
    Measured (c :: cs) (n + 1) (if isBracket c then b + 1 else b) where
  ascii d hd := (List.mem_cons.mp hd).elim (fun heq => heq ▸ hc) (h.ascii d)
  length_eq := by rw [List.length_cons, h.length_eq]
  countP_eq := by
    rw [List.countP_cons, h.countP_eq]
    split <;> rfl

lemma measured_nil : Measured [] 0 0 := ⟨nofun, rfl, rfl⟩

lemma measured_escapeCode {c : ℕ} (h : IsPlainCode c) : Measured (escapeCode c) 1 0 := by
  have hall : ∀ c : Fin 127, IsPlainCode c → (escapeCode c).length = 1 ∧
      (escapeCode c).countP isBracket = 0 ∧ (escapeCode c).all (fun d => d.toNat < 128) = true := by
    decide
  obtain ⟨hlength, hcount, hascii⟩ := hall ⟨c, h.2.1⟩ h
  exact ⟨by simpa using hascii, hlength, hcount⟩

/-- The text of a string without escapes. -/
lemma measured_quoteText {codes : List ℕ} (h : ∀ c ∈ codes, IsPlainCode c) {n : ℕ}
    (hn : codes.length = n) : Measured (quoteText ⟨codes⟩) (n + 2) 0 := by
  have hbody : Measured (codes.flatMap escapeCode) codes.length 0 := by
    clear hn
    induction codes with
    | nil => exact measured_nil
    | cons c codes ih =>
      have happend := (measured_escapeCode (h c List.mem_cons_self)).append
        (ih fun d hd => h d (List.mem_cons_of_mem _ hd))
      rw [List.flatMap_cons, List.length_cons, Nat.add_comm codes.length]
      exact happend
  rw [hn] at hbody
  exact (hbody.append (show Measured ['"'] 1 0 from measured_nil.cons '"' (by decide))).cons '"' (by decide)

lemma Measured.encode {cs : List Char} {n b : ℕ} (h : Measured cs n b) :
    (encode (ofChars cs)).length = n := by
  rw [ofChars_eq, encode_ofList, ← h.length_eq]
  have hascii := h.ascii
  clear h
  induction cs with
  | nil => rfl
  | cons c cs ih =>
    have hc : (String.utf8EncodeChar c).length = 1 := by
      have hle : c.toNat ≤ 127 := Nat.le_of_lt_succ (hascii c List.mem_cons_self)
      simp [String.utf8EncodeChar, hle]
    rw [List.flatMap_cons, List.length_append, hc, ih fun d hd => hascii d (List.mem_cons_of_mem _ hd),
      List.length_cons, Nat.add_comm]

/-- A text that is quoted as it is, of a known length. -/
structure Compact (text : Str) (length : ℕ) : Prop where
  plain : ∀ c ∈ text.codes, IsPlainCode c
  length_eq : text.codes.length = length

lemma Compact.measured {text : Str} {n : ℕ} (h : Compact text n) : Measured (quoteText text) (n + 2) 0 :=
  measured_quoteText h.plain h.length_eq

lemma Compact.isScalarText {text : Str} {n : ℕ} (h : Compact text n) : IsScalarText text := by
  intro c hc
  obtain ⟨-, hlt, -⟩ := h.plain c hc
  exact .inl (by omega)

lemma measured_dict {entries : List (Str × Json)} {n b : ℕ} (h : Measured (stringifyMembers entries) n b) :
    Measured (stringify (.dict entries)) (n + 2) (b + 1) := by
  rw [stringify]
  exact (h.append (show Measured ['}'] 1 0 from measured_nil.cons '}' (by decide))).cons '{' (by decide)

lemma measured_member {key : String} {k n b : ℕ} {value : Json} (hkey : Compact key k)
    (hvalue : Measured (stringify value) n b) :
    Measured (stringifyMembers [entry key value]) (k + 2 + (n + 1)) (0 + b) := by
  rw [entry, stringifyMembers]
  exact hkey.measured.append (hvalue.cons ':' (by decide))

lemma measured_members {key : String} {k n b m d : ℕ} {value : Json} {entries : List (Str × Json)}
    (hkey : Compact key k) (hvalue : Measured (stringify value) n b) (hne : entries ≠ [])
    (hrest : Measured (stringifyMembers entries) m d) :
    Measured (stringifyMembers (entry key value :: entries)) (k + 2 + (n + (m + 1) + 1)) (0 + (b + d)) := by
  rw [entry, stringifyMembers_cons, if_neg hne]
  exact hkey.measured.append ((hvalue.append (hrest.cons ',' (by decide))).cons ':' (by decide))

lemma measured_str {text : Str} {n : ℕ} (h : Compact text n) :
    Measured (stringify (.str text)) (n + 2) 0 := by
  rw [stringify]
  exact h.measured

/-- The texts of an envelope that subscribes. -/
structure CompactEnvelope (e : SubscribeEnvelope) : Prop where
  messageId : Compact e.messageId 36
  occurredAt : Compact e.occurredAt 24
  correlationId : Compact e.correlationId 36
  subscriptionId : Compact e.subscriptionId 36

lemma compact_channel (channel : Channel) : ∃ n ≤ 14, Compact channel.text n := by
  cases channel with
  | systemHealth => exact ⟨13, by decide, by decide, by decide⟩
  | sessionEvents => exact ⟨14, by decide, by decide, by decide⟩

/-- The envelope has fewer than 400 bytes and three brackets. -/
lemma CompactEnvelope.measured {e : SubscribeEnvelope} (h : CompactEnvelope e) :
    ∃ n ≤ 400, Measured (stringify e.toJson) n 3 := by
  obtain ⟨c, hc, hchannel⟩ := compact_channel e.channel
  have hpayload := measured_dict <|
    measured_members (show Compact "operation" 9 from ⟨by decide, rfl⟩)
      (measured_str (show Compact "subscribe" 9 from ⟨by decide, rfl⟩)) (by simp) <|
    measured_members (show Compact "channel" 7 from ⟨by decide, rfl⟩) (measured_str hchannel) (by simp) <|
    measured_member (show Compact "subscriptionId" 14 from ⟨by decide, rfl⟩) (measured_str h.subscriptionId)
  have hmetadata := measured_dict <|
    measured_member (show Compact "correlationId" 13 from ⟨by decide, rfl⟩) (measured_str h.correlationId)
  have henvelope := measured_dict <|
    measured_members (show Compact "schemaVersion" 13 from ⟨by decide, rfl⟩)
      (measured_str (show Compact "1.0.0" 5 from ⟨by decide, rfl⟩)) (by simp) <|
    measured_members (show Compact "messageId" 9 from ⟨by decide, rfl⟩) (measured_str h.messageId) (by simp) <|
    measured_members (show Compact "category" 8 from ⟨by decide, rfl⟩)
      (measured_str (show Compact "websocket" 9 from ⟨by decide, rfl⟩)) (by simp) <|
    measured_members (show Compact "occurredAt" 10 from ⟨by decide, rfl⟩) (measured_str h.occurredAt) (by simp) <|
    measured_members (show Compact "metadata" 8 from ⟨by decide, rfl⟩) hmetadata (by simp) <|
    measured_member (show Compact "payload" 7 from ⟨by decide, rfl⟩) hpayload
  exact ⟨_, by omega, henvelope⟩

lemma plain_str {text : Str} {n : ℕ} (h : Compact text n) : Plain (.str text) := .str h.isScalarText

/-- `JSON.stringify` of the envelope can be read back. -/
lemma CompactEnvelope.isPlain {e : SubscribeEnvelope} (h : CompactEnvelope e) : Plain e.toJson := by
  obtain ⟨c, -, hchannel⟩ := compact_channel e.channel
  have hpayload := plain_cons "operation"
      (plain_str (show Compact "subscribe" 9 from ⟨by decide, rfl⟩)) (by simp [entry]) <|
    plain_cons "channel" (plain_str hchannel) (by simp [entry]) <|
    plain_cons "subscriptionId" (plain_str h.subscriptionId) (by simp) plain_nil
  have hmetadata := plain_cons "correlationId" (plain_str h.correlationId) (by simp)
    plain_nil
  exact plain_cons _ (plain_str (show Compact "1.0.0" 5 from ⟨by decide, rfl⟩)) (by simp [entry]) <|
    plain_cons _ (plain_str h.messageId) (by simp [entry]) <|
    plain_cons _ (plain_str (show Compact "websocket" 9 from ⟨by decide, rfl⟩)) (by simp [entry]) <|
    plain_cons _ (plain_str h.occurredAt) (by simp [entry]) <|
    plain_cons _ hmetadata (by simp [entry]) <|
    plain_cons _ hpayload (by simp) plain_nil

lemma isUtcZ_toISOString (now : Date) : isUtcZ (some (.str now.toISOString)) = true := by
  have hreverse : now.toISOString.codes.reverse =
      90 :: (now.text ++ 46 :: padded 3 now.millisecond).reverse := by
    simp [Date.toISOString]
  have hoffset := Datetime.utcoffset_text now.toMoment (Datetime.isFraction_padded 2 now.millisecond)
  unfold isUtcZ
  simp only [hreverse, List.reverse_reverse]
  exact decide_eq_true hoffset

lemma compact_toISOString (now : Date) : Compact now.toISOString 24 where
  plain := by
    intro c hc
    have hcodes : c ∈ now.text ∨ c = 46 ∨ c ∈ padded 3 now.millisecond ∨ c = 90 := by
      simpa [Date.toISOString, or_assoc] using hc
    rcases hcodes with h | rfl | h | rfl
    · have := Moment.mem_text h
      unfold IsPlainCode
      omega
    · decide
    · have := mem_padded h
      unfold IsPlainCode
      omega
    · decide
  length_eq := by simp [Date.toISOString]

lemma compact_uuid (u : UUID) : Compact u.str 36 where
  plain := by
    intro c hc
    have := UUID.mem_str hc
    unfold IsPlainCode
    omega
  length_eq := by
    rw [UUID.str_eq]
    simp

/-- The check accepts an envelope whose texts are as they should be. -/
lemma controlOfMessage_toJson {I : Interpreter} {e : SubscribeEnvelope}
    (hmessage : isUuid7 I.decimal e.messageId = true)
    (hcorrelation : isUuid7 I.decimal e.correlationId = true)
    (hsubscription : isUuid7 I.decimal e.subscriptionId = true)
    (htime : isUtcZ (some (.str e.occurredAt)) = true) :
    controlOfMessage I e.toJson e.channel.text =
      .ok ⟨.subscribe, e.correlationId, some e.subscriptionId⟩ := by
  have hkeys : keys [entry "schemaVersion" (.str "1.0.0"), entry "messageId" (.str e.messageId),
      entry "category" (.str "websocket"), entry "occurredAt" (.str e.occurredAt),
      entry "metadata" (.dict [entry "correlationId" (.str e.correlationId)]),
      entry "payload" (.dict [entry "operation" (.str "subscribe"),
        entry "channel" (.str e.channel.text), entry "subscriptionId" (.str e.subscriptionId)])] =
      envelopeKeys := by
    simp [keys, entry, envelopeKeys]
  have hmetadata : keys [entry "correlationId" (.str e.correlationId)] ⊆
      {↑"correlationId", ↑"causationId"} := by
    simp [keys, entry]
  have hpayload : keys [entry "operation" (.str "subscribe"), entry "channel" (.str e.channel.text),
      entry "subscriptionId" (.str e.subscriptionId)] ⊆
      {↑"operation", ↑"channel", ↑"subscriptionId"} := by
    simp [keys, entry]
  have hoptional : isOptionalUuid7 I (some (.str e.subscriptionId)) = true := hsubscription
  rw [SubscribeEnvelope.toJson, controlOfMessage]
  simp only [get?_entry, String.reduceEq, if_false, if_true, hkeys, hmetadata, hpayload]
  simp [isText, isUuid7Value, toStr, hmessage, hcorrelation, htime, isOptionalUuid7, controlOfPayload,
    operationOf, hsubscription, subscriptionOf, bind, Except.bind]

/-- What `createWebSocketSubscribeEnvelope` builds fits 1024 bytes and is accepted. -/
lemma subscribe_accepted (I : Interpreter) (channel : Channel) (now : Date) (random : RandomBytes) :
    ∃ e, createWebSocketSubscribeEnvelope channel now random = .ok e ∧
      (encode (ofChars (stringify e.toJson))).length ≤ 1024 ∧
      websocketControl I (ofChars (stringify e.toJson)) channel.text =
        .ok ⟨.subscribe, e.correlationId, some e.subscriptionId⟩ := by
  obtain ⟨u, hu, huv7, -⟩ := Uuid7.createUuidV7_fields now.getTime random.correlationId.length_toList
  obtain ⟨v, hv, hvv7, -⟩ := Uuid7.createUuidV7_fields now.getTime random.messageId.length_toList
  obtain ⟨w, hw, hwv7, -⟩ := Uuid7.createUuidV7_fields now.getTime random.subscriptionId.length_toList
  have haccepted : ∀ {u : UUID}, IsV7 u.toNat → isUuid7 I.decimal u.str = true :=
    fun {u} h => isUuid7_iff.mpr ⟨u, rfl, h⟩
  refine ⟨⟨v.str, now.toISOString, u.str, channel, w.str⟩, ?_, ?_⟩
  · rw [createWebSocketSubscribeEnvelope, hu, hv, hw]
    rfl
  generalize he : SubscribeEnvelope.mk v.str now.toISOString u.str channel w.str = e
  have hcompact : CompactEnvelope e := by
    rw [← he]
    exact ⟨compact_uuid v, compact_toISOString now, compact_uuid u, compact_uuid w⟩
  obtain ⟨n, hn, hmeasured⟩ := hcompact.measured
  refine ⟨?_, ?_⟩
  · rw [hmeasured.encode]
    omega
  · have hshallow : I.exhausts (ofChars (stringify e.toJson)) = false := by
      apply I.exhausts_shallow
      rw [ofChars_eq, chars_eq, String.toList_ofList, hmeasured.countP_eq]
      norm_num
    have hloads : loadsRaising I (ofChars (stringify e.toJson)) = .ok e.toJson := by
      simp only [loadsRaising, hshallow, loads_stringify hcompact.isPlain]
      rfl
    have hchannel : e.channel = channel := by rw [← he]
    have hmessage : isUuid7 I.decimal e.messageId = true := by
      rw [← he]
      exact haccepted hvv7
    have hcorrelation : isUuid7 I.decimal e.correlationId = true := by
      rw [← he]
      exact haccepted huv7
    have hsubscription : isUuid7 I.decimal e.subscriptionId = true := by
      rw [← he]
      exact haccepted hwv7
    have htime : isUtcZ (some (.str e.occurredAt)) = true := by
      rw [← he]
      exact isUtcZ_toISOString now
    have hcontrol := controlOfMessage_toJson hmessage hcorrelation hsubscription htime
    rw [hchannel] at hcontrol
    rw [websocketControl, hloads]
    exact hcontrol

/-- The messages that the route sends for a frame are among its replies. -/
lemma receive_sends (settings : ChannelSettings) {channel : Str} {I : Interpreter} (c : Connection)
    {text : String} {control : Control} (h : websocketControl I text channel = .ok control) (r : Readings) :
    ∃ sent, (receive settings channel I c (.frame (some text)) r).sent = c.sent ++ sent ∧
      ∀ message, .json message ∈ sent → message ∈ replies settings channel control r := by
  have hclose : ∀ code, ∃ sent, (c.close code).sent = c.sent ++ sent ∧
      ∀ message, .json message ∈ sent → message ∈ replies settings channel control r :=
    fun code => ⟨[.close code], rfl, by simp⟩
  have hreply : ∀ subscriptions : Finset Str, ∃ sent,
      (Connection.mk subscriptions (c.sent ++ (replies settings channel control r).map .json)
        .open).sent = c.sent ++ sent ∧
      ∀ message, .json message ∈ sent → message ∈ replies settings channel control r :=
    fun subscriptions => ⟨_, rfl, by simp⟩
  by_cases hsize : settings.wsMaxFrameBytes < (encode text).length
  · simp only [receive, if_pos hsize]
    exact hclose 1009
  · simp only [receive, if_neg hsize, h, respond]
    split
    · split_ifs
      · exact hclose 1008
      · exact hreply _
    · split_ifs
      · exact hclose 1008
      · exact hreply _
    · exact hreply _
    · exact hreply _

/-- For all accepted settings and both channels. What the client sends to subscribe fits a frame
and is accepted with its identifiers. Whatever the state of the connection, the client accepts each
message that the server sends for an accepted frame and finds the identifiers of the frame in it. -/
theorem wire_formats_agree (I : Interpreter) {z : Zod} (hz : z.AcceptsUtc) {values : String → Option Str}
    {settings : ChannelSettings} (hsettings : loadChannelSettings I values = .ok settings)
    (channel : Channel) :
    (∀ (now : Date) (random : RandomBytes), ∃ e,
      createWebSocketSubscribeEnvelope channel now random = .ok e ∧
        (encode (ofChars (stringify e.toJson))).length ≤ settings.wsMaxFrameBytes ∧
        websocketControl I (ofChars (stringify e.toJson)) channel.text =
          .ok ⟨.subscribe, e.correlationId, some e.subscriptionId⟩) ∧
      ∀ (c : Connection) (text : String) (control : Control) (r : Readings),
        websocketControl I text channel.text = .ok control →
          ∃ sent, (receive settings channel.text I c (.frame (some text)) r).sent = c.sent ++ sent ∧
            ∀ message, .json message ∈ sent → ∃ e, parseIncomingEnvelope z message = some e ∧
              e.correlationId = control.correlationId ∧
              (e.subscriptionId = control.subscriptionId ∨ ∃ envelope, e = .health envelope) := by
  obtain ⟨hbytes, hname⟩ := loadChannelSettings_bounds hsettings
  constructor
  · intro now random
    obtain ⟨e, he, hsize, hcontrol⟩ := subscribe_accepted I channel now random
    exact ⟨e, he, hsize.trans hbytes, hcontrol⟩
  · intro c text control r hcontrol
    obtain ⟨sent, hsent, hmessages⟩ := receive_sends settings c hcontrol r
    refine ⟨sent, hsent, fun message hm => ?_⟩
    exact parse_replies hz hname (websocketControl_genuine hcontrol) channel r (hmessages message hm)

namespace Deployed

lemma never_exhausts (text : String) (_ : (chars text).countP isBracket ≤ 50) :
    (fun _ => false : String → Bool) text = false := rfl

lemma length_zero (lexeme : String) : ((fun _ => "0.0" : String → Str) lexeme).codes.length ≤ 24 :=
  show (Str.ofString "0.0").codes.length ≤ 24 by decide

/-- An interpreter that reads unsigned ASCII numbers. -/
def interpreter : Interpreter where
  decimal _ := none
  int text := if text.codes.all Datetime.isDigit ∧ text.codes ≠ [] then
    (Datetime.parseDigits text.codes.length text.codes).map fun r => (r.1 : ℤ) else none
  floatRepr _ := "0.0"
  floatRepr_length := length_zero
  containerRepr _ := []
  exhausts _ := false
  exhausts_shallow := never_exhausts

def expect (c : ℕ) (p : List ℕ) : Option (List ℕ) := if p.headD 0 = c then some p.tail else none

/-- The end of a date-time after its seconds. -/
def isEnd (p : List ℕ) : Bool :=
  p = [90] ∨ p.headD 0 = 46 ∧ p.getLast? = some 90 ∧ 3 ≤ p.length ∧
    p.tail.dropLast.all Datetime.isDigit = true

/-- `z.string().datetime` on four-digit years with seconds. -/
def isDatetime (text : Str) : Option Unit := do
  let (year, p) ← Datetime.parseDigits 4 text.codes
  let p ← expect 45 p
  let (month, p) ← Datetime.parseDigits 2 p
  let p ← expect 45 p
  let (day, p) ← Datetime.parseDigits 2 p
  let p ← expect 84 p
  let (hour, p) ← Datetime.parseDigits 2 p
  let p ← expect 58 p
  let (minute, p) ← Datetime.parseDigits 2 p
  let p ← expect 58 p
  let (second, p) ← Datetime.parseDigits 2 p
  if IsDate year month day ∧ IsTime hour minute second ∧ isEnd p then some () else none

def zod : Zod := ⟨fun text => (isDatetime text).isSome⟩

lemma acceptsUtc : zod.AcceptsUtc := by
  intro m fraction h
  have hday : m.day < 10 ^ 2 := by
    have : daysInMonth m.year m.month ≤ 31 := by
      unfold daysInMonth
      split_ifs <;> omega
    have := m.isDate.2.2
    omega
  have hyear : m.year < 10 ^ 4 := by
    have := m.isDate.1
    omega
  have hmonth : m.month < 10 ^ 2 := by
    have := m.isDate.2.1
    omega
  obtain ⟨hhour, hminute, hsecond⟩ := m.isTime
  have hend : isEnd (fraction ++ [90]) = true := by
    rcases h with rfl | ⟨ds, rfl, hne, hds⟩
    · rfl
    · have hlen : 1 ≤ ds.length := List.length_pos_iff.mpr hne
      simp only [isEnd, decide_eq_true_eq]
      right
      refine ⟨rfl, ?_, by simp; omega, by simpa using hds⟩
      exact List.getLast?_concat
  simp [zod, isDatetime, Moment.text, expect, Datetime.parseDigits_padded hyear,
    Datetime.parseDigits_padded hmonth, Datetime.parseDigits_padded hday,
    Datetime.parseDigits_padded (show m.hour < 10 ^ 2 by omega),
    Datetime.parseDigits_padded (show m.minute < 10 ^ 2 by omega),
    Datetime.parseDigits_padded (show m.second < 10 ^ 2 by omega), m.isDate, m.isTime, hend]

def environ (name : String) : Option Str :=
  if name = "P5_SERVICE_NAME" then some "authentication" else none

def noon : Date := ⟨⟨2026, 1, 1, 12, 0, 0, by decide, by decide⟩, 250, by decide⟩

def zeros : RandomBytes := ⟨Vector.replicate 10 0, Vector.replicate 10 0, Vector.replicate 10 0⟩

/-- The settings of this deployment meet the theorem's conditions. -/
theorem wire_formats_agree_deployed :
    ∃ e, createWebSocketSubscribeEnvelope .systemHealth noon zeros = .ok e ∧
      (encode (ofChars (stringify e.toJson))).length ≤ 16384 ∧
      websocketControl interpreter (ofChars (stringify e.toJson)) "system.health" =
        .ok ⟨.subscribe, e.correlationId, some e.subscriptionId⟩ :=
  (wire_formats_agree interpreter acceptsUtc
    (show loadChannelSettings interpreter environ = .ok ⟨16384, 1, "authentication"⟩ by rfl)
    .systemHealth).1 noon zeros

end Deployed

end Pentagon5.Wire
