import Pentagon5.Auth.Schema
import Pentagon5.Client.Uuid7
import Pentagon5.Ecma.Json
import Pentagon5.Python.Datetime

/-!
# Message envelopes in the TypeScript client

The schemas of incoming envelopes, as parsers of JSON values, and the envelope that the client
sends to subscribe. `z.string().datetime` is a parameter.
-/

namespace Pentagon5.Client

open Python Python.Json Calendar Ecma Auth

/-- What the client takes from `zod` without defining it: `z.string().datetime({ offset: false })`. -/
structure Zod where
  datetime : Str → Bool

/-- `datetime` accepts UTC in seconds or any fraction of them. -/
def Zod.AcceptsUtc (z : Zod) : Prop :=
  ∀ (m : Moment) (fraction : List ℕ), Datetime.IsFraction fraction →
    z.datetime ⟨m.text ++ fraction ++ [90]⟩ = true

/-- `z.literal`. -/
def literal (text : String) (value : Json) : Option Unit :=
  if isText (some value) text then some () else none

/-- `z.enum`. -/
def oneOfTexts (options : List String) : Json → Option Str
  | .str text => if ∃ option ∈ options, text = option then some text else none
  | _ => none

/-- `z.string().min(1)`. -/
def nonemptyText : Json → Option Str
  | .str text => if text.codes = [] then none else some text
  | _ => none

/-- `uuidV7`. -/
def uuidV7 : Json → Option Str
  | .str text => if Matches uuidV7Pattern text.codes then some text else none
  | _ => none

/-- `utcTimestamp`. -/
def utcTimestamp (z : Zod) : Json → Option Str
  | .str text => if z.datetime text ∧ text.codes.getLast? = some 90 then some text else none
  | _ => none

/-- `z.strictObject`: no other keys than those of the shape. -/
def strictObject (shape : List String) : Json → Option (List (Str × Json))
  | .dict entries => if ∀ e ∈ entries, ∃ key ∈ shape, e.1 = key then some entries else none
  | _ => none

lemma strictObject_eq {shape : List String} {entries : List (Str × Json)}
    (h : ∀ e ∈ entries, ∃ key ∈ shape, e.1 = key) : strictObject shape (.dict entries) = some entries := by
  rw [strictObject, if_pos h]

variable {α : Type}

def requiredKey (entries : List (Str × Json)) (key : String) (schema : Json → Option α) : Option α :=
  (get? entries key).bind schema

/-- `schema.optional()`. -/
def optionalKey (entries : List (Str × Json)) (key : String) (schema : Json → Option α) :
    Option (Option α) :=
  match get? entries key with
  | none => some none
  | some value => (schema value).map some

structure Metadata where
  correlationId : Str
  causationId : Option Str
deriving DecidableEq

structure BackendStatus where
  id : Str
  component : Str
  status : Str
  observedAt : Str
  detail : Option Str
deriving DecidableEq

structure WebsocketPayload where
  operation : Str
  channel : Str
  subscriptionId : Option Str
deriving DecidableEq

/-- `baseEnvelopeShape` with a payload. -/
structure Envelope (Payload : Type) where
  messageId : Str
  occurredAt : Str
  metadata : Metadata
  payload : Payload
deriving DecidableEq

inductive IncomingEnvelope where
  | health (envelope : Envelope BackendStatus)
  | websocket (envelope : Envelope WebsocketPayload)
deriving DecidableEq

/-- `metadataSchema`. -/
def metadataSchema (value : Json) : Option Metadata := do
  let entries ← strictObject ["correlationId", "causationId"] value
  let correlationId ← requiredKey entries "correlationId" uuidV7
  let causationId ← optionalKey entries "causationId" uuidV7
  some ⟨correlationId, causationId⟩

/-- `backendStatusSchema`. -/
def backendStatusSchema (z : Zod) (value : Json) : Option BackendStatus := do
  let entries ←
    strictObject ["schemaVersion", "id", "component", "status", "observedAt", "detail"] value
  let _ ← requiredKey entries "schemaVersion" (literal "1.0.0")
  let id ← requiredKey entries "id" uuidV7
  let component ← requiredKey entries "component" nonemptyText
  let status ← requiredKey entries "status" (oneOfTexts ["healthy", "degraded", "unavailable"])
  let observedAt ← requiredKey entries "observedAt" (utcTimestamp z)
  let detail ← optionalKey entries "detail" nonemptyText
  some ⟨id, component, status, observedAt, detail⟩

/-- `websocketPayloadSchema`. -/
def websocketPayloadSchema (value : Json) : Option WebsocketPayload := do
  let entries ← strictObject ["operation", "channel", "subscriptionId"] value
  let operation ←
    requiredKey entries "operation" (oneOfTexts ["subscribe", "unsubscribe", "ack", "heartbeat"])
  let channel ← requiredKey entries "channel" (oneOfTexts ["system.health", "session.events"])
  let subscriptionId ← optionalKey entries "subscriptionId" uuidV7
  some ⟨operation, channel, subscriptionId⟩

/-- An envelope of one category. -/
def envelopeSchema (z : Zod) (category : String) (payloadSchema : Json → Option α)
    (value : Json) : Option (Envelope α) := do
  let entries ← strictObject
    ["schemaVersion", "messageId", "occurredAt", "metadata", "category", "payload"] value
  let _ ← requiredKey entries "schemaVersion" (literal "1.0.0")
  let messageId ← requiredKey entries "messageId" uuidV7
  let occurredAt ← requiredKey entries "occurredAt" (utcTimestamp z)
  let metadata ← requiredKey entries "metadata" metadataSchema
  let _ ← requiredKey entries "category" (literal category)
  let payload ← requiredKey entries "payload" payloadSchema
  some ⟨messageId, occurredAt, metadata, payload⟩

/-- `healthEnvelopeSchema`. -/
def healthEnvelopeSchema (z : Zod) : Json → Option (Envelope BackendStatus) :=
  envelopeSchema z "health" (backendStatusSchema z)

/-- `websocketEnvelopeSchema`. -/
def websocketEnvelopeSchema (z : Zod) : Json → Option (Envelope WebsocketPayload) :=
  envelopeSchema z "websocket" websocketPayloadSchema

/-- `parseIncomingEnvelope`: the category selects the schema; `none` where it throws. -/
def parseIncomingEnvelope (z : Zod) (value : Json) : Option IncomingEnvelope :=
  match value with
  | .dict entries =>
    if isText (get? entries "category") "health" then
      (healthEnvelopeSchema z value).map .health
    else if isText (get? entries "category") "websocket" then
      (websocketEnvelopeSchema z value).map .websocket
    else none
  | _ => none

def IncomingEnvelope.correlationId : IncomingEnvelope → Str
  | health envelope => envelope.metadata.correlationId
  | websocket envelope => envelope.metadata.correlationId

/-- The subscription that an envelope names. -/
def IncomingEnvelope.subscriptionId : IncomingEnvelope → Option Str
  | health _ => none
  | websocket envelope => envelope.payload.subscriptionId

/-- A `Date` in the years 1 to 9999. -/
structure Date extends Moment where
  millisecond : ℕ
  millisecond_lt : millisecond < 1000

def Date.getTime (now : Date) : ℤ := now.epochSecond * 1000 + now.millisecond

def Date.toISOString (now : Date) : Str := ⟨now.text ++ 46 :: padded 3 now.millisecond ++ [90]⟩

/-- What varies in the envelope that subscribes. -/
structure SubscribeEnvelope where
  messageId : Str
  occurredAt : Str
  correlationId : Str
  channel : Channel
  subscriptionId : Str

def SubscribeEnvelope.toJson (e : SubscribeEnvelope) : Json :=
  .dict [
    entry "schemaVersion" (.str "1.0.0"),
    entry "messageId" (.str e.messageId),
    entry "category" (.str "websocket"),
    entry "occurredAt" (.str e.occurredAt),
    entry "metadata" (.dict [entry "correlationId" (.str e.correlationId)]),
    entry "payload" (.dict [
      entry "operation" (.str "subscribe"),
      entry "channel" (.str e.channel.text),
      entry "subscriptionId" (.str e.subscriptionId)])]

/-- The random bytes of the three identifiers, in the order in which they are drawn. -/
structure RandomBytes where
  correlationId : Vector UInt8 10
  messageId : Vector UInt8 10
  subscriptionId : Vector UInt8 10

/-- `createWebSocketSubscribeEnvelope`. -/
def createWebSocketSubscribeEnvelope (channel : Channel) (now : Date) (random : RandomBytes) :
    Except String SubscribeEnvelope := do
  let correlationId ← createUuidV7 now.getTime random.correlationId.toList
  let messageId ← createUuidV7 now.getTime random.messageId.toList
  let subscriptionId ← createUuidV7 now.getTime random.subscriptionId.toList
  .ok ⟨messageId, now.toISOString, correlationId, channel, subscriptionId⟩

end Pentagon5.Client
