import Pentagon5.Ecma.Dumps
import Pentagon5.Proofs.Wire

/-!
# The encoding of the route's messages

Every message of the route has a text that `JSON.parse` takes back to it, except a report under a
service name that has no encoding.
-/

namespace Pentagon5.Wire

open Python Python.Json Calendar Ecma Auth Client Pentagon5.Runtime

variable {I : Interpreter} {settings : ChannelSettings}

lemma isScalarText_of_isUuid7 {text : Str} (h : isUuid7 I.decimal text = true) : IsScalarText text := by
  obtain ⟨u, rfl, -⟩ := isUuid7_iff.mp h
  exact (compact_uuid u).isScalarText

lemma isScalarText_utcZ (now : Datetime) : IsScalarText (utcZ now) := by
  obtain ⟨fraction, hfraction, hcodes⟩ := utcZ_eq now
  intro c hc
  rw [hcodes] at hc
  apply Or.inl
  rcases List.mem_append.mp hc with hc | hc
  · rcases List.mem_append.mp hc with hc | hc
    · have := Moment.mem_text hc
      omega
    · rcases hfraction with rfl | ⟨ds, rfl, -, hds⟩
      · cases hc
      · rcases List.mem_cons.mp hc with rfl | hc
        · decide
        · have hdigit := hds c hc
          simp only [Datetime.isDigit, decide_eq_true_eq] at hdigit
          omega
  · rw [List.mem_singleton.mp hc]
    decide

lemma plain_base {category : String} {correlationId : Str} {payload : List (Str × Json)}
    {occurredAt : Option Str} {messageId : Drawn} {now : Datetime}
    (hid : isUuid7 I.decimal correlationId = true) (htime : orText occurredAt (utcZ now) = utcZ now)
    (hpayload : Plain (.dict payload)) :
    Plain (base category correlationId payload occurredAt messageId now) := by
  have hmetadata := plain_cons "correlationId" (.str (isScalarText_of_isUuid7 hid)) (by simp) plain_nil
  rw [base, htime]
  exact plain_cons _ (.str (isScalarText_ofString _)) (by simp [entry]) <|
    plain_cons _ (.str (compact_uuid messageId.value).isScalarText) (by simp [entry]) <|
    plain_cons _ (.str (isScalarText_ofString _)) (by simp [entry]) <|
    plain_cons _ (.str (isScalarText_utcZ now)) (by simp [entry]) <|
    plain_cons _ hmetadata (by simp [entry]) <|
    plain_cons _ hpayload (by simp) plain_nil

lemma plain_optionalField {key : String} {text : Option Str} (h : ∀ t, text = some t → IsScalarText t) :
    Plain (.dict (optionalField key text)) := by
  unfold optionalField
  split
  · exact plain_nil
  · next t _ => exact plain_cons _ (.str (h t rfl)) (by simp) plain_nil
  · exact plain_nil

lemma fresh_optionalField {key field : String} (hne : key ≠ field) (text : Option Str) :
    Str.ofString key ∉ (optionalField field text).map Prod.fst := by
  unfold optionalField
  split
  · exact List.not_mem_nil
  · simpa [entry, Str.ofString_inj] using hne
  · exact List.not_mem_nil

lemma plain_websocketEnvelope {control : Control} (h : Genuine I control) (operation : String)
    (channel : Channel) (messageId : Drawn) (now : Datetime) :
    Plain (websocketEnvelope control.correlationId operation channel.text control.subscriptionId
      messageId now) := by
  have hsubscription : Plain (.dict (optionalField "subscriptionId" control.subscriptionId)) :=
    plain_optionalField fun t ht => isScalarText_of_isUuid7 (h.subscriptionId t ht)
  refine plain_base h.correlationId rfl (plain_cons "operation" (.str (isScalarText_ofString _)) ?_ ?_)
  · intro hmem
    rcases List.mem_cons.mp hmem with heq | hmem
    · exact absurd (Str.ofString_inj.mp heq) (by decide)
    · exact fresh_optionalField (by decide) _ hmem
  · exact plain_cons "channel" (.str (isScalarText_ofString _)) (fresh_optionalField (by decide) _) hsubscription

lemma plain_healthEnvelope {correlationId component : Str} (hid : isUuid7 I.decimal correlationId = true)
    (hcomponent : IsScalarText component) (now : Datetime) (id messageId : Drawn) :
    Plain (healthEnvelope correlationId component "healthy" none now id messageId) := by
  refine plain_base hid (orText_some (utcZ_ne_nil now) _) ?_
  exact plain_cons _ (.str (isScalarText_ofString _)) (by simp [entry, optionalField]) <|
    plain_cons _ (.str (compact_uuid id.value).isScalarText) (by simp [entry, optionalField]) <|
    plain_cons _ (.str hcomponent) (by simp [entry, optionalField]) <|
    plain_cons _ (.str (isScalarText_ofString _)) (by simp [entry, optionalField]) <|
    plain_cons _ (.str (isScalarText_utcZ now)) (by simp [optionalField]) plain_nil

/-- A report names the service, so it has no text where the name has none. -/
lemma sendJson_healthEnvelope {correlationId component : Str} (h : ¬IsScalarText component)
    (now : Datetime) (id messageId : Drawn) :
    sendJson (healthEnvelope correlationId component "healthy" none now id messageId) = none := by
  have hcomponent : entry "component" (.str component) ∈ [entry "schemaVersion" (.str "1.0.0"),
      entry "id" (.str id.value.str), entry "component" (.str component),
      entry "status" (.str "healthy"), entry "observedAt" (.str (utcZ now))] ++
      optionalField "detail" none := by simp
  refine encode?_dumpsPlain_eq_none h ((infix_write_dict _ _ hcomponent).trans ?_)
  exact infix_write_dict _ _ (List.mem_append_right [_, _, _, _, _] (List.mem_singleton_self (entry "payload" _)))

/-- The category of a health envelope. -/
def IsReport (message : Json) : Prop := message.at? ["category"] = some (.str "health")

/-- `JSON.parse` takes the text of a reply back to it; only a report can lack a text. -/
lemma sendJson_replies {control : Control} (h : Genuine I control) (channel : Channel) {r : Readings}
    {message : Json} (hm : message ∈ replies settings channel.text control r) :
    (IsReport message → IsScalarText settings.serviceName) ∧
        (sendJson message).bind Ecma.parse = some message ∨
      (IsReport message ∧ ¬IsScalarText settings.serviceName) ∧ sendJson message = none := by
  rw [replies, List.mem_cons] at hm
  rcases hm with rfl | hm
  · refine .inl ⟨fun hreport => ?_, parse_dumpsPlain (plain_websocketEnvelope h _ channel _ _)⟩
    simp [IsReport, websocketEnvelope, base, at?, Str.ofString_inj] at hreport
  · split_ifs at hm
    · obtain rfl := List.mem_singleton.mp hm
      by_cases hname : IsScalarText settings.serviceName
      · exact .inl ⟨fun _ => hname, parse_dumpsPlain (plain_healthEnvelope h.correlationId hname _ _ _)⟩
      · refine .inr ⟨⟨?_, hname⟩, sendJson_healthEnvelope hname _ _ _⟩
        simp [IsReport, healthEnvelope, base, at?]
    · cases hm

end Pentagon5.Wire
