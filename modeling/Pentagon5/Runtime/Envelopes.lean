import Pentagon5.Python.Datetime
import Pentagon5.Python.Json
import Pentagon5.Runtime.Uuid7

/-!
# Builders of message envelopes

What `datetime.now` and `uuid7` return is an argument of each builder: a value of `uuid7` in some
state of the generator, which the whole process shares.
-/

namespace Pentagon5.Runtime

open Python Python.Json

/-- What some call of `uuid7` returned. -/
structure Drawn where
  value : UUID
  drawn : ∃ g timeNs randbits, (uuid7 g timeNs randbits).1 = some value

/-- `utc_z()`. -/
def utcZ (now : Datetime) : Str := now.isoformat.replace "+00:00" "Z"

/-- `text or other`, where `None` and the empty text count as false. -/
def orText (text : Option Str) (other : Str) : Str :=
  match text with
  | some ⟨[]⟩ => other
  | some text => text
  | none => other

/-- `_base`; the clock is read only without `occurredAt`. -/
def base (category : String) (correlationId : Str) (payload : List (Str × Json))
    (occurredAt : Option Str) (messageId : Drawn) (now : Datetime) : Json :=
  .dict [
    entry "schemaVersion" (.str "1.0.0"),
    entry "messageId" (.str messageId.value.str),
    entry "category" (.str category),
    entry "occurredAt" (.str (orText occurredAt (utcZ now))),
    entry "metadata" (.dict [entry "correlationId" (.str correlationId)]),
    entry "payload" (.dict payload)]

/-- A field that is added unless it is `None` or empty. -/
def optionalField (key : String) (value : Option Str) : List (Str × Json) :=
  match value with
  | some ⟨[]⟩ => []
  | some text => [entry key (.str text)]
  | none => []

/-- `error_envelope`. -/
def errorEnvelope (correlationId : Str) (code message : String) (retryable : Bool)
    (field : Option Str) (messageId : Drawn) (now : Datetime) : Json :=
  base "error" correlationId
    ([entry "code" (.str code), entry "message" (.str message), entry "retryable" (.bool retryable)] ++
      optionalField "field" field)
    none messageId now

/-- `health_envelope`; `id` is drawn before `messageId`. -/
def healthEnvelope (correlationId component : Str) (status : String) (detail : Option Str)
    (now : Datetime) (id messageId : Drawn) : Json :=
  let observedAt := utcZ now
  base "health" correlationId
    ([entry "schemaVersion" (.str "1.0.0"), entry "id" (.str id.value.str),
      entry "component" (.str component), entry "status" (.str status),
      entry "observedAt" (.str observedAt)] ++ optionalField "detail" detail)
    (some observedAt) messageId now

/-- `websocket_envelope`. -/
def websocketEnvelope (correlationId : Str) (operation : String) (channel : Str)
    (subscriptionId : Option Str) (messageId : Drawn) (now : Datetime) : Json :=
  base "websocket" correlationId
    ([entry "operation" (.str operation), entry "channel" (.str channel)] ++
      optionalField "subscriptionId" subscriptionId)
    none messageId now

/-- A drawn value is a UUIDv7. -/
lemma Drawn.isV7 (d : Drawn) : IsV7 d.value.toNat := by
  obtain ⟨g, timeNs, randbits, h⟩ := d.drawn
  have hlt := (g.next timeNs randbits).lastRandom_lt
  obtain ⟨u, hu, hn⟩ := ofInt_toNat (pack_lt (g.next timeNs randbits).lastMillisecond hlt)
  have hvalue : d.value = u := by
    simp only [uuid7, hu, Option.some.injEq] at h
    exact h.symm
  rw [hvalue, hn]
  exact (pack_fields _ hlt).1

/-- `utc_z` writes the moment, a fraction unless it is zero, and `Z`. -/
lemma utcZ_eq (now : Datetime) :
    ∃ fraction, Datetime.IsFraction fraction ∧ (utcZ now).codes = now.text ++ fraction ++ [90] := by
  generalize hf : (if now.microsecond = 0 then []
    else 46 :: Calendar.padded 6 now.microsecond) = fraction
  have hfraction : Datetime.IsFraction fraction := by
    rw [← hf]
    split_ifs
    · exact .inl rfl
    · exact Datetime.isFraction_padded 5 _
  have hplus : 43 ∉ now.text ++ fraction := by
    rw [List.mem_append]
    rintro (h | h)
    · have := Calendar.Moment.mem_text h
      omega
    · rcases hfraction with rfl | ⟨ds, rfl, -, hds⟩
      · cases h
      · rcases List.mem_cons.mp h with h | h
        · cases h
        · exact absurd (hds 43 h) (by decide)
  refine ⟨fraction, hfraction, ?_⟩
  have hold : (Str.ofString "+00:00").codes = [43, 48, 48, 58, 48, 48] := by decide
  have hnew : (Str.ofString "Z").codes = [90] := by decide
  rw [utcZ, Datetime.isoformat, hf, hold, Str.replace, hold, hnew]
  rw [Str.replaceFrom_append hplus]
  rfl

end Pentagon5.Runtime
