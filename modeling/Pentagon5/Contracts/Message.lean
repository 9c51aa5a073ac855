import Pentagon5.Calendar.Moment
import Pentagon5.Client.Uuid7
import Pentagon5.Contracts.Schema
import Pentagon5.Python.Datetime

/-!
# The message contract

The definitions of `common.schema.json` and `message.schema.json` that a WebSocket message is made
of, and the `date-time` format.
-/

namespace Pentagon5.Contracts

open Python Python.Json Calendar JsonSchema

/-- `time-offset` -/
def IsOffset (codes : List ℕ) : Prop :=
  codes = [90] ∨ codes = [122] ∨ ∃ sign hour minute, (sign = 43 ∨ sign = 45) ∧ hour < 24 ∧
    minute < 60 ∧ codes = sign :: (padded 2 hour ++ 58 :: padded 2 minute)

/-- `date-time` of RFC 3339. -/
def IsDateTime (codes : List ℕ) : Prop :=
  ∃ (t : Stamp) (fraction offset : List ℕ), codes = t.text ++ fraction ++ offset ∧
    (t.separator = 84 ∨ t.separator = 116) ∧ (1 ≤ t.month ∧ t.month ≤ 12) ∧
    (1 ≤ t.day ∧ t.day ≤ daysInMonth t.year t.month) ∧ t.hour < 24 ∧ t.minute < 60 ∧ t.second ≤ 60 ∧
    Datetime.IsFraction fraction ∧ IsOffset offset

def UuidV7 : Schema := pattern Client.uuidV7Pattern

/-- `format: date-time` with the pattern `Z$`. -/
def UtcTimestamp : Schema := string fun s => IsDateTime s.codes ∧ s.codes.getLast? = some 90

def MessageMetadata : Schema := object fun metadata =>
  Required metadata "correlationId" UuidV7 ∧ Optional metadata "causationId" UuidV7 ∧
    Closed metadata ["correlationId", "causationId"]

/-- `BaseMessage`, whose properties are left open. -/
structure BaseMessage (message : List (Str × Json)) : Prop where
  schemaVersion : Required message "schemaVersion" (const "1.0.0")
  messageId : Required message "messageId" UuidV7
  category : Required message "category" (string fun _ => True)
  occurredAt : Required message "occurredAt" UtcTimestamp
  metadata : Required message "metadata" MessageMetadata

def WebSocketPayload : Schema := object fun payload =>
  Required payload "operation" (enum ["subscribe", "unsubscribe", "ack", "heartbeat"]) ∧
    Required payload "channel" (string fun s => 1 ≤ s.codes.length) ∧
    Optional payload "subscriptionId" UuidV7 ∧
    Closed payload ["operation", "channel", "subscriptionId"]

/-- `#/$defs/WebSocket` -/
def WebSocket : Schema := object fun message =>
  BaseMessage message ∧ Required message "payload" WebSocketPayload ∧
    Optional message "category" (const "websocket") ∧
    Closed message ["schemaVersion", "messageId", "category", "occurredAt", "metadata", "payload"]

end Pentagon5.Contracts
