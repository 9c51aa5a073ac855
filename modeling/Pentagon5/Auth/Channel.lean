import Pentagon5.Auth.Schema
import Pentagon5.Python.Interpreter
import Pentagon5.Python.JsonEscapes
import Pentagon5.Runtime.Envelopes

/-!
# The WebSocket route

What the route does with a connection after it was accepted: the check of a control frame and the
loop over the frames, with the messages that it sends.
-/

namespace Pentagon5.Auth

open Python Python.Json Pentagon5.Runtime

/-- `_is_utc_z`. -/
def isUtcZ (value : Option Json) : Bool :=
  match value with
  | some (.str text) =>
    match text.codes.reverse with
    | 90 :: body => Datetime.utcoffset (⟨body.reverse⟩ ++ Str.ofString "+00:00") = some (some 0)
    | _ => false
  | _ => false

inductive ControlOperation where
  | subscribe
  | unsubscribe
  | heartbeat
deriving DecidableEq

/-- What `_websocket_control` returns. -/
structure Control where
  operation : ControlOperation
  correlationId : Str
  subscriptionId : Option Str
deriving DecidableEq

def envelopeKeys : Finset Str :=
  {↑"schemaVersion", ↑"messageId", ↑"category", ↑"occurredAt", ↑"metadata", ↑"payload"}

section

variable (I : Interpreter)

/-- `is_uuid7(str(value))`, where a missing value is the empty text. -/
def isUuid7Value (value : Option Json) : Bool :=
  isUuid7 I.decimal ((value.getD (.str "")).toStr I)

/-- `is_uuid7(str(value))` unless the value is missing or `None`. -/
def isOptionalUuid7 (value : Option Json) : Bool :=
  match value with
  | none => true
  | some .null => true
  | some value => isUuid7 I.decimal (value.toStr I)

/-- The membership test hashes the value. -/
def operationOf (value : Option Json) : Except Raised ControlOperation :=
  match value with
  | some (.list _) => .error .typeError
  | some (.dict _) => .error .typeError
  | value =>
    if isText value "subscribe" then .ok .subscribe
    else if isText value "unsubscribe" then .ok .unsubscribe
    else if isText value "heartbeat" then .ok .heartbeat
    else .error (.valueError "unsupported WebSocket operation")

/-- `str(subscription_id)` unless it is `None`. -/
def subscriptionOf (value : Option Json) : Option Str :=
  match value with
  | none => none
  | some .null => none
  | some value => some (value.toStr I)

/-- The checks of `_websocket_control` on the payload of a well-formed envelope. -/
def controlOfPayload (metadata payload : List (Str × Json)) (expectedChannel : Str) :
    Except Raised Control := do
  let operation ← operationOf (get? payload "operation")
  if isText (get? payload "channel") expectedChannel = false then
    .error (.valueError "WebSocket channel does not match ticket")
  else if isOptionalUuid7 I (get? payload "subscriptionId") = false then
    .error (.valueError "invalid subscription ID")
  else
    let subscriptionId := subscriptionOf I (get? payload "subscriptionId")
    if operation ≠ .heartbeat ∧ subscriptionId = none then
      .error (.valueError "subscription ID is required")
    else
      .ok ⟨operation, ((get? metadata "correlationId").getD (.str "")).toStr I, subscriptionId⟩

/-- The checks of `_websocket_control` on the decoded message. -/
def controlOfMessage (message : Json) (expectedChannel : Str) : Except Raised Control :=
  match message with
  | .dict message =>
    match get? message "metadata", get? message "payload" with
    | some (.dict metadata), some (.dict payload) =>
      if keys message = envelopeKeys ∧
          isText (get? message "schemaVersion") "1.0.0" ∧
          isText (get? message "category") "websocket" ∧
          isUuid7Value I (get? message "messageId") ∧
          isUtcZ (get? message "occurredAt") ∧
          keys metadata ⊆ {↑"correlationId", ↑"causationId"} ∧
          isUuid7Value I (get? metadata "correlationId") ∧
          isOptionalUuid7 I (get? metadata "causationId") ∧
          keys payload ⊆ {↑"operation", ↑"channel", ↑"subscriptionId"} then
        controlOfPayload I metadata payload expectedChannel
      else .error (.valueError "invalid WebSocket envelope")
    | _, _ => .error (.valueError "invalid WebSocket envelope")
  | _ => .error (.valueError "invalid WebSocket envelope")

/-- `_websocket_control`. -/
def websocketControl (text : String) (expectedChannel : Str) : Except Raised Control := do
  let message ← loadsRaising I text
  controlOfMessage I message expectedChannel

/-- What is known of the identifiers of an accepted frame. -/
structure Genuine (control : Control) : Prop where
  correlationId : isUuid7 I.decimal control.correlationId = true
  subscriptionId : ∀ id, control.subscriptionId = some id → isUuid7 I.decimal id = true
  identified : control.operation ≠ .heartbeat → control.subscriptionId ≠ none

variable {I}

lemma isUuid7_subscriptionOf {value : Option Json} {id : Str} (h : isOptionalUuid7 I value = true)
    (hid : subscriptionOf I value = some id) : isUuid7 I.decimal id = true := by
  match value with
  | none => cases hid
  | some .null => cases hid
  | some (.bool b) => exact Option.some.inj hid ▸ h
  | some (.int n) => exact Option.some.inj hid ▸ h
  | some (.float f) => exact Option.some.inj hid ▸ h
  | some (.str s) => exact Option.some.inj hid ▸ h
  | some (.list l) => exact Option.some.inj hid ▸ h
  | some (.dict d) => exact Option.some.inj hid ▸ h

lemma controlOfPayload_genuine {metadata payload : List (Str × Json)} {expectedChannel : Str}
    {control : Control} (hid : isUuid7Value I (get? metadata "correlationId") = true)
    (h : controlOfPayload I metadata payload expectedChannel = .ok control) : Genuine I control := by
  obtain ⟨operation, -, h⟩ := bind_eq_ok.mp h
  simp only at h
  split_ifs at h with hchannel hsub hmissing
  obtain rfl := Except.ok.inj h
  refine ⟨hid, fun id hsome => ?_, fun hne hnone => hmissing ⟨hne, hnone⟩⟩
  exact isUuid7_subscriptionOf (Bool.eq_true_of_not_eq_false hsub) hsome

/-- An accepted frame names itself and its subscription by UUIDv7 texts. -/
lemma websocketControl_genuine {text : String} {expectedChannel : Str} {control : Control}
    (h : websocketControl I text expectedChannel = .ok control) : Genuine I control := by
  obtain ⟨message, -, h⟩ := bind_eq_ok.mp h
  unfold controlOfMessage at h
  split at h
  · split at h
    · split_ifs at h with hvalid
      exact controlOfPayload_genuine hvalid.2.2.2.2.2.2.1 h
    · cases h
  · cases h

end

/-- The settings that the route reads. -/
structure ChannelSettings where
  wsMaxFrameBytes : ℕ
  wsMaxSubscriptions : ℕ
  serviceName : Str

/-- What `websocket.receive` returns: a frame without text is binary. -/
inductive Incoming where
  | disconnect
  | frame (text : Option String)

inductive Sent where
  | json (message : Json)
  | close (code : ℕ)

/-- What the clock and the generator give while one frame is handled. -/
structure Readings where
  ackId : Drawn
  ackNow : Datetime
  healthNow : Datetime
  healthId : Drawn
  healthMessageId : Drawn

inductive Status where
  | open
  | returned
  | raised (error : Raised)
deriving DecidableEq

/-- The local state of the route with all that it sent, in order. -/
structure Connection where
  subscriptions : Finset Str
  sent : List Sent
  status : Status

def Connection.init : Connection := ⟨∅, [], .open⟩

def Connection.close (c : Connection) (code : ℕ) : Connection :=
  ⟨c.subscriptions, c.sent ++ [.close code], .returned⟩

section

variable (settings : ChannelSettings) (channel : Str)

/-- The two `send_json` calls after an accepted frame. -/
def replies (control : Control) (r : Readings) : List Json :=
  websocketEnvelope control.correlationId
      (if control.operation ≠ .heartbeat then "ack" else "heartbeat") channel
      control.subscriptionId r.ackId r.ackNow ::
    (if control.operation = .subscribe ∧ channel = "system.health" then
      [healthEnvelope control.correlationId settings.serviceName "healthy" none r.healthNow
        r.healthId r.healthMessageId]
    else [])

/-- What is sent for a frame whose control is known. -/
def respond (c : Connection) (control : Control) (r : Readings) : Connection :=
  let reply (subscriptions : Finset Str) : Connection :=
    ⟨subscriptions, c.sent ++ (replies settings channel control r).map .json, .open⟩
  match control.operation, control.subscriptionId with
  | .subscribe, some id =>
    if id ∉ c.subscriptions ∧ settings.wsMaxSubscriptions ≤ c.subscriptions.card then c.close 1008
    else reply (insert id c.subscriptions)
  | .subscribe, none =>
    if settings.wsMaxSubscriptions ≤ c.subscriptions.card then c.close 1008
    else reply c.subscriptions
  | .unsubscribe, some id => reply (c.subscriptions.erase id)
  | _, _ => reply c.subscriptions

/-- One round of the loop, with each message that is given to `send_json`. -/
def receive (I : Interpreter) (c : Connection) (incoming : Incoming) (r : Readings) : Connection :=
  match incoming with
  | .disconnect => { c with status := .returned }
  | .frame none => c.close 1003
  | .frame (some text) =>
    if settings.wsMaxFrameBytes < (encode text).length then c.close 1009
    else match websocketControl I text channel with
      | .ok control => respond settings channel c control r
      | .error (.valueError _) => c.close 1008
      | .error error => { c with status := .raised error }

/-- The route on the frames of a connection: it stops at the first `return` or exception. -/
def handle (I : Interpreter) (frames : List (Incoming × Readings)) : Connection :=
  frames.foldl (fun c f => if c.status = .open then receive settings channel I c f.1 f.2 else c)
    .init

end

/-- The text that `send_json` hands on; `none` where it has no encoding. -/
def sendJson (message : Json) : Option String := (dumpsPlain message).encode?

def Sent.encodes : Sent → Bool
  | .json message => (sendJson message).isSome
  | .close _ => true

/-- What comes on the wire: where a message has no encoding, `send_json` raises `UnicodeEncodeError`,
which leaves the loop. -/
def Connection.written (c : Connection) : Connection :=
  if c.sent.all Sent.encodes then c
  else ⟨c.subscriptions, c.sent.takeWhile Sent.encodes, .raised (.valueError "surrogates not allowed")⟩

end Pentagon5.Auth
