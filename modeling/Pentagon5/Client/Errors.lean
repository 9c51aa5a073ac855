import Pentagon5.Asgi.Routing
import Pentagon5.Client.Envelopes
import Pentagon5.Ecma.Pattern

/-!
# Errors in the TypeScript client

The schema of an error envelope, and what the client reports for a response that is not successful.
-/

namespace Pentagon5.Client

open Python Python.Json Ecma Asgi RegularExpression

def capitals : List ℕ := List.range' 65 26

def codeMembers : List ℕ := capitals ++ List.range' 48 10 ++ [95]

/-- `/^[A-Z][A-Z0-9_]*$/`. -/
def uppercaseCodePattern : RegularExpression ℕ := oneOf capitals * (oneOf codeMembers).star

/-- `z.string().regex(uppercaseCodePattern)`. -/
def uppercaseCode : Json → Option Str
  | .str text => if Matches uppercaseCodePattern text.codes then some text else none
  | _ => none

/-- `z.boolean()`. -/
def boolean : Json → Option Bool
  | .bool value => some value
  | _ => none

structure ApiErrorPayload where
  code : Str
  message : Str
  retryable : Bool
  field : Option Str
deriving DecidableEq

/-- `errorPayloadSchema`. -/
def errorPayloadSchema (value : Json) : Option ApiErrorPayload := do
  let entries ← strictObject ["code", "message", "retryable", "field"] value
  let code ← requiredKey entries "code" uppercaseCode
  let message ← requiredKey entries "message" nonemptyText
  let retryable ← requiredKey entries "retryable" boolean
  let field ← optionalKey entries "field" nonemptyText
  some ⟨code, message, retryable, field⟩

/-- `errorEnvelopeSchema`. -/
def errorEnvelopeSchema (z : Zod) : Json → Option (Envelope ApiErrorPayload) :=
  envelopeSchema z "error" errorPayloadSchema

structure ApiClientError where
  status : ℕ
  code : Str
  message : Str
  retryable : Bool
  field : Option Str
deriving DecidableEq

def ApiClientError.ofPayload (status : ℕ) (payload : ApiErrorPayload) : ApiClientError :=
  ⟨status, payload.code, payload.message, payload.retryable, payload.field⟩

/-- `parseError`; a body that is no JSON text is `undefined`. -/
def parseError (z : Zod) (body : Option Json) (status : ℕ) : ApiClientError :=
  match body.bind (errorEnvelopeSchema z) with
  | some envelope => .ofPayload status envelope.payload
  | none => .ofPayload status
    ⟨"INVALID_ERROR_ENVELOPE", s!"Backend returned an invalid error envelope ({status})", false, none⟩

/-- What `request` and `requestVoid` throw for a response that is not successful. -/
def thrown (z : Zod) (response : HttpResponse) : ApiClientError :=
  parseError z (parse response.body) response.status

lemma matches_uppercaseCodePattern {c : ℕ} {codes : List ℕ} (hc : c ∈ capitals)
    (hcodes : ∀ d ∈ codes, d ∈ codeMembers) : Matches uppercaseCodePattern (c :: codes) := by
  rw [uppercaseCodePattern, matches_mul]
  refine ⟨[c], codes, ?_, matches_oneOf_star.mpr hcodes, rfl⟩
  exact matches_oneOf.mpr ⟨c, hc, rfl⟩

end Pentagon5.Client
