import Pentagon5.Proofs.Conversation

/-!
# The texts of the route's messages

`send_json` makes a text of a message, and the client applies `JSON.parse` and its schema to it. All
that is read in a message survives this, except a service name that has no encoding.
-/

namespace Pentagon5.Wire

open Python Python.Json Calendar Ecma Auth Client Pentagon5.Runtime

/-- `parseIncomingEnvelope(JSON.parse(data))`. -/
def readText (z : Zod) (data : String) : Option IncomingEnvelope :=
  (Ecma.parse data).bind (parseIncomingEnvelope z)

variable {z : Zod} {I : Interpreter} {settings : ChannelSettings}

/-- Every message of the route replies to an accepted frame. -/
lemma replies_of_receive {channel : Str} {c : Connection} {incoming : Incoming} {r : Readings}
    {message : Json} (hm : .json message ∈ (receive settings channel I c incoming r).sent) :
    .json message ∈ c.sent ∨ ∃ control, Genuine I control ∧ message ∈ replies settings channel control r := by
  have hclose : ∀ code, .json message ∈ (c.close code).sent → .json message ∈ c.sent := by
    intro code hm
    simpa [Connection.close] using hm
  cases incoming with
  | disconnect => exact .inl hm
  | frame frame =>
    cases frame with
    | none => exact .inl (hclose 1003 hm)
    | some text =>
      cases hcontrol : websocketControl I text channel with
      | ok control =>
        obtain ⟨sent, hsent, hmessages⟩ := receive_sends settings c hcontrol r
        rw [hsent, List.mem_append] at hm
        rcases hm with hm | hm
        · exact .inl hm
        · exact .inr ⟨control, websocketControl_genuine hcontrol, hmessages message hm⟩
      | error error =>
        simp only [receive, hcontrol] at hm
        split_ifs at hm
        · exact .inl (hclose 1009 hm)
        · cases error with
          | valueError => exact .inl (hclose 1008 hm)
          | typeError => exact .inl hm
          | recursionError => exact .inl hm

lemma replies_of_handle {channel : Str} {frames : List (Incoming × Readings)} {message : Json}
    (hm : .json message ∈ (handle settings channel I frames).sent) :
    ∃ control r, Genuine I control ∧ message ∈ replies settings channel control r := by
  induction frames using List.reverseRecOn with
  | nil => cases hm
  | append_singleton frames f ih =>
    rw [handle_append] at hm
    split_ifs at hm
    · rcases replies_of_receive hm with hm | ⟨control, hgenuine, hm⟩
      · exact ih hm
      · exact ⟨control, f.2, hgenuine, hm⟩
    · exact ih hm

/-- For all accepted settings, both channels, and whatever comes in on a connection: each message of
the route is one that the client accepts, and the client reads the same envelope from its text, except
for a report under a service name with a surrogate, of which `send_json` makes no text. -/
theorem readText_sent_iff (hz : z.AcceptsUtc) {values : String → Option Str}
    (hsettings : loadChannelSettings I values = .ok settings) (channel : Channel)
    {frames : List (Incoming × Readings)} {message : Json}
    (hm : .json message ∈ (handle settings channel.text I frames).sent) :
    ∃ e, parseIncomingEnvelope z message = some e ∧
      ((sendJson message).bind (readText z) = some e ↔
        (IsReport message → IsScalarText settings.serviceName)) ∧
      (IsReport message → ¬IsScalarText settings.serviceName → sendJson message = none) := by
  obtain ⟨control, r, hgenuine, hreply⟩ := replies_of_handle hm
  obtain ⟨e, he, -⟩ := parse_replies hz (loadChannelSettings_bounds hsettings).2 hgenuine channel r hreply
  refine ⟨e, he, ?_⟩
  rcases sendJson_replies hgenuine channel hreply with ⟨hname, htext⟩ | ⟨⟨hreport, hname⟩, hnone⟩
  · refine ⟨iff_of_true ?_ hname, fun hreport hno => absurd (hname hreport) hno⟩
    obtain ⟨text, hsend, hparse⟩ := Option.bind_eq_some_iff.mp htext
    rw [hsend, Option.bind_some, readText, hparse, Option.bind_some, he]
  · refine ⟨iff_of_false ?_ fun h => hname (h hreport), fun _ _ => hnone⟩
    rw [hnone]
    nofun

namespace Deployed

open Conversation.Sample in
/-- A report on the service of the sample. -/
theorem readText_sent_iff_report : ∃ frames message e,
    .json message ∈ (handle deployed "system.health" interpreter frames).sent ∧ IsReport message ∧
      (sendJson message).bind (readText zod) = some e := by
  have hsubscribe : ∃ e, Subscribes deployed interpreter e ∧ e.channel = .systemHealth ∧ _ :=
    subscription_eq (by decide) .systemHealth noon zeros
  obtain ⟨e, he, hchannel, -⟩ := hsubscribe
  have hanswer := receive_subscription (show 1 ≤ deployed.wsMaxSubscriptions by decide) he readings
  rw [hchannel] at hanswer
  have hsent : .json (healthEnvelope e.correlationId "authentication" "healthy" none answeredAt drawn drawn) ∈
      (handle deployed "system.health" interpreter [(.frame (some e.frame), readings)]).sent := by
    rw [show handle deployed "system.health" interpreter [(.frame (some e.frame), readings)] = _ from hanswer]
    exact List.mem_map_of_mem (List.mem_cons_of_mem _ List.mem_cons_self)
  obtain ⟨parsed, -, hread, -⟩ := readText_sent_iff acceptsUtc settings_deployed .systemHealth hsent
  exact ⟨_, _, parsed, hsent, rfl, hread.mpr fun _ => isScalarText_ofString "authentication"⟩

end Deployed

end Pentagon5.Wire
