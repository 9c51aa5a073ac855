import Pentagon5.Auth.App
import Pentagon5.Client.Errors
import Pentagon5.Proofs.Wire

/-!
# The error model

Every answer with an error status is an envelope that the client accepts, unless it is the
framework's own: for a path or method without a route, or for a preflight request.
-/

namespace Pentagon5.Surface

open Python Python.Json Ecma Asgi Auth Client Wire Pentagon5.Runtime

/-- A code that the client's pattern accepts and that is not the client's own. -/
structure IsCode (code : String) : Prop where
  nonempty : (Str.ofString code).codes ≠ []
  head : ∀ c ∈ (Str.ofString code).codes.head?, c ∈ capitals
  members : ∀ c ∈ (Str.ofString code).codes, c ∈ codeMembers
  ne : code ≠ "INVALID_ERROR_ENVELOPE"

lemma IsCode.matches {code : String} (h : IsCode code) :
    Matches uppercaseCodePattern (Str.ofString code).codes := by
  obtain ⟨c, codes, hcons⟩ := List.exists_cons_of_ne_nil h.nonempty
  have hhead := h.head
  have hmembers := h.members
  rw [hcons] at hhead hmembers ⊢
  apply matches_uppercaseCodePattern
  · exact hhead c rfl
  · exact fun d hd => hmembers d (List.mem_cons_of_mem _ hd)

instance (code : String) : Decidable (IsCode code) :=
  decidable_of_iff ((Str.ofString code).codes ≠ [] ∧
    (∀ c ∈ (Str.ofString code).codes.head?, c ∈ capitals) ∧
    (∀ c ∈ (Str.ofString code).codes, c ∈ codeMembers) ∧ code ≠ "INVALID_ERROR_ENVELOPE")
    ⟨fun ⟨h₁, h₂, h₃, h₄⟩ => ⟨h₁, h₂, h₃, h₄⟩, fun ⟨h₁, h₂, h₃, h₄⟩ => ⟨h₁, h₂, h₃, h₄⟩⟩

/-- A stable code with a message. -/
structure IsReport (code message : String) : Prop where
  code : IsCode code
  message : message ≠ ""

instance (code message : String) : Decidable (IsReport code message) :=
  decidable_of_iff (IsCode code ∧ message ≠ "") ⟨fun ⟨h₁, h₂⟩ => ⟨h₁, h₂⟩, fun ⟨h₁, h₂⟩ => ⟨h₁, h₂⟩⟩

/-- The body is an envelope that the client accepts, and the client reports the server's code. -/
def Reported (z : Zod) (response : HttpResponse) : Prop :=
  ∃ envelope, (parse response.body).bind (errorEnvelopeSchema z) = some envelope ∧
    thrown z response = .ofPayload response.status envelope.payload ∧
    (thrown z response).code ≠ "INVALID_ERROR_ENVELOPE"

variable {I : Interpreter} {z : Zod}

lemma isScalarText_uuid (u : UUID) : IsScalarText u.str := (compact_uuid u).isScalarText

lemma isScalarText_utcZ (now : Datetime) : IsScalarText (utcZ now) := by
  obtain ⟨fraction, hfraction, hcodes⟩ := utcZ_eq now
  intro n hn
  rw [hcodes, List.mem_append, List.mem_append] at hn
  have hsmall : n < 128 := by
    rcases hn with (hn | hn) | hn
    · have := Calendar.Moment.mem_text hn
      omega
    · rcases hfraction with rfl | ⟨ds, rfl, -, hds⟩
      · cases hn
      · rcases List.mem_cons.mp hn with rfl | hn
        · omega
        · have := of_decide_eq_true (hds n hn)
          omega
    · rw [List.mem_singleton] at hn
      omega
  exact Or.inl (by omega)

lemma isScalarText_correlationId {correlationId : Str} (h : isUuid7 I.decimal correlationId = true) :
    IsScalarText correlationId := by
  obtain ⟨u, rfl, -⟩ := isUuid7_iff.mp h
  exact isScalarText_uuid u

lemma optionalField_cases (key : String) (value : Option Str) :
    optionalField key value = [] ∨ ∃ text : Str, text.codes ≠ [] ∧ value = some text ∧
      optionalField key value = [entry key (.str text)] := by
  match value with
  | none => exact .inl rfl
  | some ⟨[]⟩ => exact .inl rfl
  | some ⟨c :: codes⟩ => exact .inr ⟨⟨c :: codes⟩, List.cons_ne_nil c codes, rfl, rfl⟩

/-- The payload of an error envelope. -/
def errorPayload (code message : String) (retryable : Bool) (field : Option Str) : List (Str × Json) :=
  [entry "code" (.str code), entry "message" (.str message), entry "retryable" (.bool retryable)] ++
    optionalField "field" field

lemma ofString_codes_ne_nil {text : String} (h : text ≠ "") : (Str.ofString text).codes ≠ [] := by
  rw [Str.ofString_codes]
  simpa using h

lemma errorPayloadSchema_eq {code message : String} (h : IsReport code message) (retryable : Bool)
    (field : Option Str) :
    ∃ reported, errorPayloadSchema (.dict (errorPayload code message retryable field)) =
      some ⟨code, message, retryable, reported⟩ := by
  have hcode : uppercaseCode (.str code) = some (code : Str) := by rw [uppercaseCode, if_pos h.code.matches]
  have hmessage : nonemptyText (.str message) = some (message : Str) := by
    rw [nonemptyText, if_neg (ofString_codes_ne_nil h.message)]
  rcases optionalField_cases "field" field with hfield | ⟨text, htext, -, hfield⟩
  · refine ⟨none, ?_⟩
    rw [errorPayload, hfield, errorPayloadSchema, strictObject_eq (by simp [entry])]
    simp [requiredKey, optionalKey, hcode, hmessage, boolean]
  · refine ⟨some text, ?_⟩
    have hpresent : nonemptyText (.str text) = some text := by rw [nonemptyText, if_neg htext]
    rw [errorPayload, hfield, errorPayloadSchema, strictObject_eq (by simp [entry])]
    simp [requiredKey, optionalKey, hcode, hmessage, hpresent, boolean]

lemma plain_errorPayload (code message : String) (retryable : Bool) {field : Option Str}
    (h : ∀ text, field = some text → IsScalarText text) :
    Plain (.dict (errorPayload code message retryable field)) := by
  have hfield : Plain (.dict (optionalField "field" field)) ∧
      ∀ e ∈ optionalField "field" field, e.1 = Str.ofString "field" := by
    rcases optionalField_cases "field" field with hnone | ⟨text, -, hsome, hone⟩
    · rw [hnone]
      exact ⟨plain_nil, nofun⟩
    · rw [hone]
      exact ⟨plain_cons _ (.str (h text hsome)) List.not_mem_nil plain_nil, by simp [entry]⟩
  have hfresh : ∀ key : String, key ≠ "field" →
      Str.ofString key ∉ (optionalField "field" field).map Prod.fst := by
    intro key hkey hmem
    obtain ⟨e, he, heq⟩ := List.mem_map.mp hmem
    rw [hfield.2 e he, Str.ofString_inj] at heq
    exact hkey heq.symm
  exact plain_cons _ (.str (isScalarText_ofString code)) (by simpa [entry] using hfresh "code" (by decide)) <|
    plain_cons _ (.str (isScalarText_ofString message))
      (by simpa [entry] using hfresh "message" (by decide)) <|
    plain_cons _ (.bool retryable) (hfresh "retryable" (by decide)) hfield.1

lemma plain_errorEnvelope {correlationId : Str} (hid : isUuid7 I.decimal correlationId = true)
    (code message : String) (retryable : Bool) {field : Option Str}
    (h : ∀ text, field = some text → IsScalarText text) (messageId : Drawn) (now : Datetime) :
    Plain (errorEnvelope correlationId code message retryable field messageId now) := by
  have hmetadata : Plain (.dict [entry "correlationId" (.str correlationId)]) :=
    plain_cons _ (.str (isScalarText_correlationId hid)) List.not_mem_nil plain_nil
  exact plain_cons _ (.str (isScalarText_ofString _)) (by simp [entry]) <|
    plain_cons _ (.str (isScalarText_uuid _)) (by simp [entry]) <|
    plain_cons _ (.str (isScalarText_ofString _)) (by simp [entry]) <|
    plain_cons _ (.str (isScalarText_utcZ now)) (by simp [entry]) <|
    plain_cons _ hmetadata (by simp [entry]) <|
    plain_cons _ (plain_errorPayload code message retryable h) List.not_mem_nil plain_nil

lemma reported_of_parse {response : HttpResponse} {content : Json} {envelope : Envelope ApiErrorPayload}
    (hparse : parse response.body = some content) (hschema : errorEnvelopeSchema z content = some envelope)
    (hcode : envelope.payload.code ≠ "INVALID_ERROR_ENVELOPE") : Reported z response := by
  have hbody : (parse response.body).bind (errorEnvelopeSchema z) = some envelope := by
    rw [hparse, Option.bind_some, hschema]
  have hthrown : thrown z response = .ofPayload response.status envelope.payload := by
    rw [thrown, parseError, hbody]
  refine ⟨envelope, hbody, hthrown, ?_⟩
  rw [hthrown]
  exact hcode

/-- The client reports what the server wrote. -/
lemma reported_errorEnvelope (hz : z.AcceptsUtc) {correlationId : Str}
    (hid : isUuid7 I.decimal correlationId = true) {code message : String} (hreport : IsReport code message)
    (retryable : Bool) {field : Option Str} (hfield : ∀ text, field = some text → IsScalarText text)
    (status : ℕ) (messageId : Drawn) (now : Datetime) :
    Reported z (jsonResponse status
      (errorEnvelope correlationId code message retryable field messageId now)) := by
  obtain ⟨reported, hpayload⟩ := errorPayloadSchema_eq hreport retryable field
  have hschema : envelopeSchema z "error" errorPayloadSchema
      (base "error" correlationId (errorPayload code message retryable field) none messageId now) =
        some ⟨messageId.value.str, utcZ now, ⟨correlationId, none⟩, ⟨code, message, retryable, reported⟩⟩ :=
    envelopeSchema_base hz hid rfl hpayload
  apply reported_of_parse
  · exact parse_stringify (plain_errorEnvelope hid code message retryable hfield messageId now)
  · exact hschema
  · exact fun heq => hreport.code.ne (Str.ofString_inj.mp heq)

lemma not_reported_of_none {response : HttpResponse}
    (h : (parse response.body).bind (errorEnvelopeSchema z) = none) : ¬ Reported z response := by
  rintro ⟨envelope, henvelope, -⟩
  rw [h] at henvelope
  cases henvelope

/-- No value starts with this letter. -/
lemma scanValue_letter (fuel : ℕ) (rest : List Char) : scanValue fuel ('D' :: rest) = none := by
  cases fuel with
  | zero => rfl
  | succ fuel =>
    rw [scanValue, if_neg (by decide), if_neg (by decide), if_neg (by decide)]
    rfl

/-- The plain-text answer to a preflight request is no JSON text. -/
lemma loads_disallowed (rest : String) : loads ("Disallowed CORS " ++ rest) = none := by
  have hchars : chars ("Disallowed CORS " ++ rest) = 'D' :: ("isallowed CORS ".toList ++ rest.toList) := by
    rw [chars_eq, String.toList_append]
    rfl
  have hspace : ∀ cs, skipSpace ('D' :: cs) = 'D' :: cs := fun _ => rfl
  rw [loads, hchars]
  simp only [hspace, scanValue_letter]

lemma not_reported_disallowed (status : ℕ) (rest : String) :
    ¬ Reported z ⟨status, "Disallowed CORS " ++ rest⟩ := by
  apply not_reported_of_none
  simp only [parse, loads_disallowed, ite_self, Option.bind_none]

/-- The client has no field `detail`. -/
lemma not_reported_httpException {error : HTTPException} (h : 400 ≤ error.statusCode) :
    ¬ Reported z (httpExceptionHandler error) := by
  have hbody : ¬ (error.statusCode < 200 ∨ error.statusCode ∈ [204, 205, 304]) := by
    simp only [List.mem_cons, List.not_mem_nil, or_false, not_or]
    omega
  have hplain : Plain (.dict [entry "detail" (.str error.detail)]) :=
    plain_cons _ (.str (isScalarText_ofString _)) List.not_mem_nil plain_nil
  apply not_reported_of_none
  rw [httpExceptionHandler, if_neg hbody, jsonResponse, parse_stringify hplain, Option.bind_some,
    errorEnvelopeSchema, envelopeSchema, strictObject, if_neg]
  · rfl
  · simp [entry]

/-- Whether the application has an answer of its own for an exception. -/
def Answerable : AppException → Prop
  | .apiError error => IsReport error.code error.message
  | .starletteHTTPException _ => False
  | _ => True

section

variable {α β : Type}

/-- What a computation returns has the property `P`, and what it raises is answerable. -/
def Outcome (P : α → Prop) (x : Except AppException α) : Prop :=
  (∀ a, x = .ok a → P a) ∧ ∀ e, x = .error e → Answerable e

variable {P : α → Prop} {Q : β → Prop}

lemma outcome_ok {a : α} (h : P a) : Outcome P (.ok a) :=
  ⟨fun _ heq => Except.ok.inj heq ▸ h, nofun⟩

lemma outcome_error {e : AppException} (h : Answerable e) : Outcome P (.error e) :=
  ⟨nofun, fun _ heq => Except.error.inj heq ▸ h⟩

/-- A sequence of statements raises what one of them raises. -/
lemma Outcome.bind {x : Except AppException β} {f : β → Except AppException α} (hx : Outcome Q x)
    (hf : ∀ b, Q b → Outcome P (f b)) : Outcome P (x >>= f) := by
  cases x with
  | ok b => exact hf b (hx.1 b rfl)
  | error e => exact outcome_error (hx.2 e rfl)

def Any : β → Prop := fun _ => True

lemma outcome_validated (result : Except (List Location) β) : Outcome Any (validated result) := by
  cases result with
  | ok b => exact outcome_ok trivial
  | error errors => exact outcome_error trivial

lemma answerable_failure (failure : Failure) : Answerable failure.toException := by
  cases failure <;> exact trivial

lemma outcome_propagate (result : Except Failure β) : Outcome Any (propagate result) := by
  cases result with
  | ok b => exact outcome_ok trivial
  | error failure => exact outcome_error (answerable_failure failure)

lemma outcome_translate (classes : List ExceptionClass) {error : ApiError}
    (h : IsReport error.code error.message) (result : Except Failure β) :
    Outcome Any (translate classes error result) := by
  cases result with
  | ok b => exact outcome_ok trivial
  | error failure =>
    rw [translate]
    split_ifs
    · exact outcome_error h
    · exact outcome_error (answerable_failure failure)

end

section

variable (F : Framework) (S : ServiceResults) (settings : AppSettings)

lemma outcome_readBody (request : HttpRequest) : Outcome Any (readBody F settings request) := by
  unfold readBody
  split
  · exact outcome_error trivial
  · split
    · exact outcome_error trivial
    · exact outcome_error trivial
    · exact outcome_ok trivial

lemma outcome_presentedToken (request : HttpRequest) : Outcome Any (presentedToken settings request) := by
  unfold presentedToken
  simp only
  split_ifs
  · split
    · exact outcome_error (show IsReport _ _ by decide)
    · split_ifs
      · exact outcome_error (show IsReport _ _ by decide)
      · exact outcome_ok trivial
  · exact outcome_ok trivial
  · exact outcome_ok trivial

lemma outcome_currentPrincipal (request : HttpRequest) :
    Outcome Any (currentPrincipal S settings request) := by
  apply (outcome_presentedToken settings request).bind
  intro token _
  exact outcome_translate _ (by decide) _

def Successful (response : HttpResponse) : Prop := response.status < 400

/-- No endpoint answers an error by itself, and each raises only what has a handler of the application
or none at all. -/
lemma outcome_run (requestId : Str) (occasion : Occasion) (request : HttpRequest) (parameter : List Char)
    (endpoint : Endpoint) :
    Outcome Successful (endpoint.run F S settings requestId occasion request parameter) := by
  have hprincipal := outcome_currentPrincipal S settings request
  have hbody := outcome_readBody F settings request
  have hjson : ∀ content, Outcome Successful (.ok (jsonResponse 200 content)) :=
    fun content => outcome_ok (show 200 < 400 by decide)
  cases endpoint with
  | openapi => exact outcome_ok (show 200 < 400 by decide)
  | docs => exact outcome_ok (show 200 < 400 by decide)
  | docsOauth2Redirect => exact outcome_ok (show 200 < 400 by decide)
  | metrics => exact outcome_ok (show 200 < 400 by decide)
  | startup => exact hjson _
  | live => exact hjson _
  | ready =>
    have havailable : Outcome Any (databaseAvailable S) := by
      unfold databaseAvailable
      split
      · exact outcome_ok trivial
      · exact outcome_propagate _
    apply havailable.bind
    intro available _
    split_ifs
    · exact hjson _
    · exact outcome_error (show IsReport _ _ by decide)
  | startLogin =>
    apply hbody.bind
    intro body _
    apply (outcome_validated _).bind
    intro body _
    apply (outcome_translate _ (by decide) _).bind
    intro url _
    exact hjson _
  | callback =>
    apply (outcome_validated _).bind
    rintro ⟨code, state⟩ _
    apply (outcome_translate _ (by decide) _).bind
    intro redirect _
    exact outcome_ok (show 303 < 400 by decide)
  | exchange =>
    apply hbody.bind
    intro body _
    apply (outcome_validated _).bind
    intro code _
    apply (outcome_translate _ (by decide) _).bind
    intro grant _
    exact hjson _
  | session =>
    apply hprincipal.bind
    intro principal _
    exact hjson _
  | logout =>
    apply hprincipal.bind
    intro principal _
    apply (outcome_propagate _).bind
    intro _ _
    exact outcome_ok (show 204 < 400 by decide)
  | devices =>
    apply hprincipal.bind
    intro principal _
    apply (outcome_propagate _).bind
    intro devices _
    exact hjson _
  | revokeDevice =>
    apply hprincipal.bind
    intro principal _
    apply (outcome_validated _).bind
    intro deviceId _
    apply (outcome_translate _ (by decide) _).bind
    intro _ _
    exact outcome_ok (show 204 < 400 by decide)
  | wsTicket =>
    apply hbody.bind
    intro body _
    apply hprincipal.bind
    intro principal _
    apply (outcome_validated _).bind
    intro channel _
    apply (outcome_translate _ (by decide) _).bind
    intro ticket _
    exact hjson _

end

section

variable {requestId : Str} {occasion : Occasion}

lemma isUuid7_correlationId (h : isUuid7 I.decimal requestId = true) :
    isUuid7 I.decimal (correlationId requestId occasion) = true := by
  obtain ⟨u, rfl, -⟩ := isUuid7_iff.mp h
  rw [correlationId, orText_some]
  · exact h
  · exact List.ne_nil_of_mem (UUID.hyphen_mem_str u)

lemma reported_errorResponse (hz : z.AcceptsUtc) (h : isUuid7 I.decimal requestId = true)
    {code message : String} (hreport : IsReport code message) (status : ℕ) (retryable : Bool)
    {field : Option Str} (hfield : ∀ text, field = some text → IsScalarText text) :
    Reported z (errorResponse requestId occasion status code message retryable field) :=
  reported_errorEnvelope hz (isUuid7_correlationId h) hreport retryable hfield status _ _

lemma isScalarText_fieldOf (errors : List Location) (text : Str) (h : fieldOf errors = some text) :
    IsScalarText text := by
  simp only [fieldOf] at h
  split_ifs at h
  rw [← Option.some.inj h]
  exact isScalarText_ofString _

/-- The handlers that the exception middleware looks among. -/
def innerHandlers (requestId : Str) (occasion : Occasion) : Handlers hierarchy HttpResponse :=
  (exceptionHandlers requestId occasion).without ExceptionClass.exception

lemma lookup_apiError (error : ApiError) :
    (innerHandlers requestId occasion).lookup (.apiError error) =
      some (apiErrorHandler requestId occasion error) := by
  have hhandler : innerHandlers requestId occasion ExceptionClass.apiError =
      some (apiErrorHandler requestId occasion) := rfl
  have hview : hierarchy.view (.apiError error) ExceptionClass.apiError = some error := rfl
  exact Handlers.lookup_of_first (List.nil_append _).symm (List.forall_mem_nil _) hhandler hview

/-- FastAPI's class comes before Starlette's. -/
lemma lookup_fastapiHTTPException (error : HTTPException) :
    (innerHandlers requestId occasion).lookup (.fastapiHTTPException error) =
      some (httpErrorHandler requestId occasion error) := by
  have hhandler : innerHandlers requestId occasion ExceptionClass.fastapiHTTPException =
      some (httpErrorHandler requestId occasion) := rfl
  have hview : hierarchy.view (.fastapiHTTPException error) ExceptionClass.fastapiHTTPException = some error := rfl
  exact Handlers.lookup_of_first (List.nil_append _).symm (List.forall_mem_nil _) hhandler hview

lemma lookup_requestValidationError (errors : List Location) :
    (innerHandlers requestId occasion).lookup (.requestValidationError errors) =
      some (validationErrorHandler requestId occasion errors) := by
  have hhandler : innerHandlers requestId occasion ExceptionClass.requestValidationError =
      some (validationErrorHandler requestId occasion) := rfl
  have hview : hierarchy.view (.requestValidationError errors) ExceptionClass.requestValidationError =
      some errors := rfl
  exact Handlers.lookup_of_first (List.nil_append _).symm (List.forall_mem_nil _) hhandler hview

/-- Starlette's class has only the handler of the framework. -/
lemma lookup_starletteHTTPException (error : HTTPException) :
    (innerHandlers requestId occasion).lookup (.starletteHTTPException error) =
      some (httpExceptionHandler error) := by
  have hhandler : innerHandlers requestId occasion ExceptionClass.starletteHTTPException =
      some (httpExceptionHandler) := rfl
  have hview : hierarchy.view (.starletteHTTPException error) ExceptionClass.starletteHTTPException =
      some error := rfl
  exact Handlers.lookup_of_first (List.nil_append _).symm (List.forall_mem_nil _) hhandler hview

/-- The other exceptions go through to `observe`. -/
lemma lookup_eq_none {e : AppException} (h : ∀ c ∈ e.mro, c ∉ [ExceptionClass.apiError,
      .starletteHTTPException, .fastapiHTTPException, .requestValidationError]) :
    (innerHandlers requestId occasion).lookup e = none := by
  apply Handlers.lookup_eq_none
  intro c hc
  have hother := h c hc
  cases c with
  | apiError => simp at hother
  | starletteHTTPException => simp at hother
  | fastapiHTTPException => simp at hother
  | requestValidationError => simp at hother
  | _ => rfl

/-- The handlers of the application answer by an envelope, or leave the exception to `observe`. -/
lemma reported_lookup (hz : z.AcceptsUtc) (h : isUuid7 I.decimal requestId = true) {e : AppException}
    (he : Answerable e) :
    (innerHandlers requestId occasion).lookup e = none ∨
      ∃ response, (innerHandlers requestId occasion).lookup e = some response ∧ Reported z response := by
  cases e with
  | apiError error =>
    exact .inr ⟨_, lookup_apiError error, reported_errorResponse hz h he _ _ nofun⟩
  | starletteHTTPException error => exact absurd he id
  | fastapiHTTPException error =>
    refine .inr ⟨_, lookup_fastapiHTTPException error, ?_⟩
    unfold httpErrorHandler
    split_ifs
    all_goals exact reported_errorResponse hz h (by decide) _ _ nofun
  | requestValidationError errors =>
    refine .inr ⟨_, lookup_requestValidationError errors, ?_⟩
    exact reported_errorResponse hz h (by decide) _ _ (isScalarText_fieldOf errors)
  | bodyTooLargeError => exact .inl (lookup_eq_none (by decide))
  | timeoutError => exact .inl (lookup_eq_none (by decide))
  | service error => exact .inl (lookup_eq_none (by cases error <;> simp [AppException.mro]))
  | other => exact .inl (lookup_eq_none (by decide))

end

section

variable {occasion : Occasion} {request : HttpRequest}

lemma isUuid7_correlationIdOf : isUuid7 I.decimal (correlationIdOf I request occasion) = true := by
  unfold correlationIdOf
  simp only
  split_ifs with h
  · exact h
  · exact isUuid7_iff.mpr ⟨_, rfl, occasion.correlationId.isV7⟩

/-- An answer that is no error, or an envelope that the client accepts. -/
def Proper (z : Zod) (response : HttpResponse) : Prop := response.status < 400 ∨ Reported z response

section

variable {settings : RuntimeSettings} {callNext : Str → Except Uncaught HttpResponse}

lemma reported_ownResponse (hz : z.AcceptsUtc) (status : ℕ) {code message : String} (retryable : Bool)
    (hreport : IsReport code message) :
    Reported z (ownResponse I occasion request status code message retryable) := by
  apply reported_errorEnvelope hz isUuid7_correlationIdOf hreport
  exact nofun

lemma reported_failureResponse (hz : z.AcceptsUtc) (failure : Uncaught) :
    Reported z (failureResponse I occasion request failure) := by
  cases failure
  all_goals exact reported_ownResponse hz _ _ (by decide)

/-- What `observe` answers by itself is an envelope. -/
lemma proper_observe (hz : z.AcceptsUtc) (h : checkContentLength I settings request ≠ .ok () ∨
      occasion.expires = true ∨ isCrossOriginOptions request ∨
      ∀ response, callNext (correlationIdOf I request occasion) = .ok response → Proper z response) :
    Proper z (observe I settings occasion callNext request) := by
  unfold observe
  split
  · next response hattempt =>
    obtain ⟨_, hcheck, hattempt⟩ := bind_eq_ok.mp hattempt
    obtain ⟨inner, hinner, hattempt⟩ := bind_eq_ok.mp hattempt
    unfold callInTime at hinner
    split_ifs at hinner hattempt with hexpires hdenied
    · rw [← Except.ok.inj hattempt]
      exact .inr (reported_ownResponse hz _ _ (by decide))
    · obtain rfl := Except.ok.inj hattempt
      rcases h with h | h | h | h
      · exact absurd hcheck h
      · exact absurd h hexpires
      · exact .inl (not_le.mp fun hstatus => hdenied ⟨h, hstatus⟩)
      · exact h inner hinner
  · exact .inr (reported_failureResponse hz _)

/-- Otherwise what the application answers goes through. -/
lemma observe_of_ok (hcheck : checkContentLength I settings request = .ok ())
    (hexpires : occasion.expires = false) (horigin : ¬ isCrossOriginOptions request)
    {response : HttpResponse} (hcall : callNext (correlationIdOf I request occasion) = .ok response) :
    observe I settings occasion callNext request = response := by
  have hinner : callInTime I occasion callNext request = .ok response := by
    rw [callInTime, hexpires, if_neg Bool.false_ne_true, hcall]
  have hattempt : attempted I settings occasion callNext request = .ok response := by
    refine bind_eq_ok.mpr ⟨(), hcheck, bind_eq_ok.mpr ⟨response, hinner, ?_⟩⟩
    rw [if_neg fun h => horigin h.1]
  rw [observe, hattempt]

end

section

variable (F : Framework) (S : ServiceResults) (settings : AppSettings)

/-- A request without a route. -/
def Unrouted (settings : AppSettings) (request : HttpRequest) : Prop :=
  route (routes settings) request.method request.path.toList ∈ [.methodNotAllowed, .notFound]

instance (settings : AppSettings) (request : HttpRequest) : Decidable (Unrouted settings request) :=
  inferInstanceAs (Decidable (_ ∈ _))

/-- The framework's own answer to a request reaches the client: `observe` lets the request through and
keeps the answer, and the request fails a check of the CORS middleware or has no route. -/
structure FrameworkAnswers (I : Interpreter) (occasion : Occasion) (request : HttpRequest) : Prop where
  contentLength : checkContentLength I settings.toRuntimeSettings request = .ok ()
  inTime : occasion.expires = false
  sameOrigin : ¬ isCrossOriginOptions request
  refused : if isPreflight settings request then
    F.preflightFailures settings.corsOrigins request ≠ [] else Unrouted settings request

variable {settings}

/-- Without a route the router raises Starlette's exception. -/
lemma dispatch_of_unrouted (h : Unrouted settings request) (occasion : Occasion) (requestId : Str) :
    ∃ error, dispatch F S settings occasion request requestId = .error (.starletteHTTPException error) ∧
      400 ≤ error.statusCode := by
  rw [Unrouted, List.mem_cons, List.mem_singleton] at h
  unfold dispatch
  rcases h with h | h
  · rw [h]
    exact ⟨_, rfl, show 400 ≤ 405 by decide⟩
  · rw [h]
    exact ⟨_, rfl, show 400 ≤ 404 by decide⟩

variable {F S}

lemma outcome_dispatch (h : ¬ Unrouted settings request) (requestId : Str) :
    Outcome Successful (dispatch F S settings occasion request requestId) := by
  unfold dispatch
  cases hroute : route (routes settings) request.method request.path.toList with
  | found endpoint parameter => exact outcome_run F S settings _ _ _ _ _
  | redirect => exact outcome_ok (show 307 < 400 by decide)
  | methodNotAllowed => exact absurd (show _ ∈ _ by rw [hroute]; exact List.mem_cons_self) h
  | notFound =>
    exact absurd (show _ ∈ _ by rw [hroute]; exact List.mem_cons_of_mem _ List.mem_cons_self) h

lemma proper_handled (hz : z.AcceptsUtc) {requestId : Str} (hid : isUuid7 I.decimal requestId = true)
    {result : Except AppException HttpResponse} (hresult : Outcome Successful result)
    {response : HttpResponse} (h : handled occasion requestId result = .ok response) :
    Proper z response := by
  cases result with
  | ok response' =>
    rw [← Except.ok.inj h]
    exact .inl (hresult.1 response' rfl)
  | error e =>
    rcases reported_lookup hz hid (hresult.2 e rfl) with hnone | ⟨found, hfound, hreported⟩
    · rw [handled, ← innerHandlers, hnone] at h
      cases h
    · rw [handled, ← innerHandlers, hfound] at h
      rw [← Except.ok.inj h]
      exact .inr hreported

/-- The framework's own answers, inside `observe`. -/
lemma foreign_inner (S : ServiceResults) (h : if isPreflight settings request then
      F.preflightFailures settings.corsOrigins request ≠ [] else Unrouted settings request)
    (occasion : Occasion) (requestId : Str) :
    ∃ response, callNext F S settings occasion request requestId = .ok response ∧ ¬ Reported z response := by
  unfold callNext corsMiddleware
  split_ifs at h ⊢
  · split
    · contradiction
    · exact ⟨_, rfl, not_reported_disallowed _ _⟩
  · obtain ⟨error, hdispatch, hstatus⟩ := dispatch_of_unrouted F S h occasion requestId
    refine ⟨httpExceptionHandler error, ?_, not_reported_httpException hstatus⟩
    rw [hdispatch, handled, ← innerHandlers, lookup_starletteHTTPException]

lemma proper_inner (hz : z.AcceptsUtc) {requestId : Str} (hid : isUuid7 I.decimal requestId = true)
    (h : ¬ if isPreflight settings request then
      F.preflightFailures settings.corsOrigins request ≠ [] else Unrouted settings request)
    {response : HttpResponse} (hinner : callNext F S settings occasion request requestId = .ok response) :
    Proper z response := by
  unfold callNext corsMiddleware at hinner
  split_ifs at h hinner
  · rw [not_not.mp h] at hinner
    rw [← Except.ok.inj hinner]
    exact .inl (show 200 < 400 by decide)
  · exact proper_handled hz hid (outcome_dispatch h requestId) hinner

lemma not_reported_of_frameworkAnswers (h : FrameworkAnswers F settings I occasion request) :
    ¬ Reported z (answer F S settings occasion I request) := by
  obtain ⟨response, hinner, hforeign⟩ :=
    foreign_inner S h.refused occasion (correlationIdOf I request occasion)
  have hanswer : answer F S settings occasion I request = response :=
    observe_of_ok h.contentLength h.inTime h.sameOrigin hinner
  rw [hanswer]
  exact hforeign

lemma proper_answer (hz : z.AcceptsUtc) (h : ¬ FrameworkAnswers F settings I occasion request) :
    Proper z (answer F S settings occasion I request) := by
  apply proper_observe hz
  by_contra! hno
  obtain ⟨hcheck, hexpires, horigin, response, hinner, himproper⟩ := hno
  refine h ⟨hcheck, Bool.eq_false_of_not_eq_true hexpires, horigin, ?_⟩
  by_contra hrefused
  exact himproper (proper_inner hz isUuid7_correlationIdOf hrefused hinner)

end

end

namespace Sample

def drawn : Drawn := ⟨0x7#128 <<< 76 ||| 0x2#128 <<< 62, Generator.init, 0, 0, by decide +kernel⟩

lemma isDate_newYear : Calendar.IsDate 2026 1 1 := by decide

lemma isTime_noon : Calendar.IsTime 12 0 0 := by decide

lemma zero_lt_million : 0 < 1000000 := by decide

def stamped : Stamped := ⟨drawn, ⟨⟨2026, 1, 1, 12, 0, 0, isDate_newYear, isTime_noon⟩, 0, zero_lt_million⟩⟩

def occasion : Occasion := ⟨drawn, drawn, drawn, stamped, stamped, false⟩

/-- A service to which no session is known. -/
def service : ServiceResults where
  authenticate _ := .error (.service (.authenticationError "session is invalid or expired"))
  startLogin _ _ := .error .other
  completeLogin _ _ := .error .other
  exchangeLoginGrant _ := .error .other
  logout _ := .ok ()
  devices _ := .ok []
  revokeDevice _ _ := .ok ()
  issueWsTicket _ _ := .error .other
  databaseIsReady := .ok true

def framework : Framework where
  page _ := ""
  preflightFailures _ _ := []
  Body := Unit
  decodeBody _ _ := .error .unreadable
  loginStart _ := .error []
  loginGrantExchange _ := .error []
  ticketRequest _ := .error []
  callbackQuery _ := .error []
  uuid _ := .error []
  datetime _ := ""

def settings : AppSettings := ⟨⟨"authentication", "production", [], 1048576⟩, false, 30⟩

def get (path : String) : HttpRequest := ⟨"GET", path, "", [], [], []⟩

end Sample

end Pentagon5.Surface
