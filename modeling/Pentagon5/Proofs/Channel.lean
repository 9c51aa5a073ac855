import Pentagon5.Auth.Channel

/-!
# The frames of one connection

As long as the route reads on, every frame so far was valid and found a free slot, its answers are
all that was sent, and the subscriptions are what the frames subscribed and did not unsubscribe.
The first other frame ends the connection with one close.
-/

namespace Pentagon5.Auth

open Python Python.Json Pentagon5.Runtime

/-- What a frame does to the held subscriptions. -/
def hold (held : Finset Str) (control : Control) : Finset Str :=
  match control.operation, control.subscriptionId with
  | .subscribe, some id => insert id held
  | .unsubscribe, some id => held.erase id
  | _, _ => held

def held (controls : List Control) : Finset Str := controls.foldl hold ∅

/-- A subscription to a new identifier while all `slots` are taken. -/
def Refused (slots : ℕ) (subscriptions : Finset Str) (control : Control) : Prop :=
  control.operation = .subscribe ∧ subscriptions.card = slots ∧
    ∃ id ∉ subscriptions, control.subscriptionId = some id

/-- The acknowledgement of a frame, or the answer to its heartbeat. -/
structure IsAck (channel : Str) (control : Control) (message : Json) : Prop where
  category : message.at? ["category"] = some (.str "websocket")
  operation : message.at? ["payload", "operation"] =
    some (.str (if control.operation = .heartbeat then "heartbeat" else "ack"))
  channel : message.at? ["payload", "channel"] = some (.str channel)
  correlationId : message.at? ["metadata", "correlationId"] = some (.str control.correlationId)
  subscriptionId : message.at? ["payload", "subscriptionId"] = control.subscriptionId.map .str

structure IsHealth (control : Control) (message : Json) : Prop where
  category : message.at? ["category"] = some (.str "health")
  correlationId : message.at? ["metadata", "correlationId"] = some (.str control.correlationId)

/-- One acknowledgement, and one health report after a subscription to `system.health`. -/
def Answers (channel : Str) (control : Control) (messages : List Json) : Prop :=
  ∃ ack, IsAck channel control ack ∧
    if control.operation = .subscribe ∧ channel = "system.health" then
      ∃ health, IsHealth control health ∧ messages = [ack, health]
    else messages = [ack]

section

variable (settings : ChannelSettings) (channel : Str) (I : Interpreter)

/-- A text frame within the limit that passes the check. -/
def Valid (incoming : Incoming) (control : Control) : Prop :=
  ∃ text, incoming = .frame (some text) ∧ (encode text).length ≤ settings.wsMaxFrameBytes ∧
    websocketControl I text channel = .ok control

/-- The frames that end a connection, and the code of the close. -/
inductive Rejected (subscriptions : Finset Str) : Incoming → ℕ → Prop
  | binary : Rejected subscriptions (.frame none) 1003
  | oversized {text} (h : settings.wsMaxFrameBytes < (encode text).length) :
      Rejected subscriptions (.frame (some text)) 1009
  | invalid {text message} (hsize : (encode text).length ≤ settings.wsMaxFrameBytes)
      (h : websocketControl I text channel = .error (.valueError message)) :
      Rejected subscriptions (.frame (some text)) 1008
  | refused {incoming control} (hvalid : Valid settings channel I incoming control)
      (h : Refused settings.wsMaxSubscriptions subscriptions control) :
      Rejected subscriptions incoming 1008

/-- The client left, or the check raised something other than a `ValueError`. -/
def Aborts (incoming : Incoming) : Prop :=
  incoming = .disconnect ∨ ∃ text error, incoming = .frame (some text) ∧
    websocketControl I text channel = .error error ∧ ∀ message, error ≠ .valueError message

/-- None of the controls was refused when it came. -/
def Admitted (controls : List Control) : Prop :=
  ∀ before control after, controls = before ++ control :: after →
    ¬Refused settings.wsMaxSubscriptions (held before) control

/-- A connection that reads on after the frames `incoming`. -/
structure Reading (incoming : List Incoming) (c : Connection) : Prop where
  bounded : c.subscriptions.card ≤ settings.wsMaxSubscriptions
  answered : ∃ controls answers,
    List.Forall₂ (Valid settings channel I) incoming controls ∧
      Admitted settings controls ∧ c.subscriptions = held controls ∧
      List.Forall₂ (Answers channel) controls answers ∧ c.sent = answers.flatten.map .json

end

section

variable {settings : ChannelSettings} {channel : Str} {I : Interpreter}

/-- An identifier is not empty. -/
lemma optionalField_of_isUuid7 (key : String) {id : Option Str}
    (h : ∀ v, id = some v → isUuid7 I.decimal v = true) :
    get? (optionalField key id) key = id.map .str := by
  cases id with
  | none => rfl
  | some v =>
    obtain ⟨u, rfl, -⟩ := isUuid7_iff.mp (h v rfl)
    have hne : u.str.codes ≠ [] := by
      intro hnil
      have hlen := congrArg List.length (UUID.str_eq u)
      rw [hnil] at hlen
      simp at hlen
    unfold optionalField
    split
    · next heq => exact absurd (congrArg Str.codes (Option.some.inj heq)) hne
    · next heq =>
      obtain rfl := Option.some.inj heq
      simp
    · next heq => cases heq

lemma isAck_websocketEnvelope {control : Control} (h : Genuine I control) (r : Readings) :
    IsAck channel control (websocketEnvelope control.correlationId
      (if control.operation ≠ .heartbeat then "ack" else "heartbeat") channel
      control.subscriptionId r.ackId r.ackNow) where
  category := by simp [websocketEnvelope, base, at?]
  operation := by
    by_cases hop : control.operation = .heartbeat <;> simp [websocketEnvelope, base, at?, hop]
  channel := by simp [websocketEnvelope, base, at?]
  correlationId := by simp [websocketEnvelope, base, at?]
  subscriptionId := by
    have hfield := optionalField_of_isUuid7 "subscriptionId" h.subscriptionId
    simp [websocketEnvelope, base, at?, hfield]

lemma isHealth_healthEnvelope (control : Control) (component : Str) (r : Readings) :
    IsHealth control (healthEnvelope control.correlationId component "healthy" none
      r.healthNow r.healthId r.healthMessageId) where
  category := by simp [healthEnvelope, base, at?]
  correlationId := by simp [healthEnvelope, base, at?]

lemma answers_replies {control : Control} (h : Genuine I control) (r : Readings) :
    Answers channel control (replies settings channel control r) := by
  refine ⟨_, isAck_websocketEnvelope h r, ?_⟩
  by_cases hhealth : control.operation = .subscribe ∧ channel = "system.health"
  · rw [if_pos hhealth]
    refine ⟨_, isHealth_healthEnvelope control settings.serviceName r, ?_⟩
    rw [replies, if_pos hhealth]
  · rw [if_neg hhealth, replies, if_neg hhealth]

variable (channel) in
/-- What an accepted control does. -/
lemma answer_eq (c : Connection) {control : Control} (h : Genuine I control) (r : Readings)
    (hbound : c.subscriptions.card ≤ settings.wsMaxSubscriptions) :
    (Refused settings.wsMaxSubscriptions c.subscriptions control ∧
        respond settings channel c control r = c.close 1008) ∨
      (¬Refused settings.wsMaxSubscriptions c.subscriptions control ∧
        (hold c.subscriptions control).card ≤ settings.wsMaxSubscriptions ∧
        respond settings channel c control r = ⟨hold c.subscriptions control,
          c.sent ++ (replies settings channel control r).map .json, .open⟩) := by
  rcases control with ⟨operation, correlationId, subscriptionId⟩
  have hid := h.identified
  cases operation with
  | subscribe =>
    cases subscriptionId with
    | none => exact absurd rfl (hid (by simp))
    | some id =>
      by_cases hfull : id ∉ c.subscriptions ∧ settings.wsMaxSubscriptions ≤ c.subscriptions.card
      · left
        refine ⟨⟨rfl, by omega, id, hfull.1, rfl⟩, ?_⟩
        simp only [respond, if_pos hfull]
      · right
        refine ⟨?_, ?_, ?_⟩
        · rintro ⟨-, hcard, id', hnew, heq⟩
          obtain rfl := Option.some.inj heq
          exact hfull ⟨hnew, hcard.ge⟩
        · simp only [hold]
          by_cases hmem : id ∈ c.subscriptions
          · rwa [Finset.insert_eq_of_mem hmem]
          · rw [Finset.card_insert_of_notMem hmem]
            by_contra hlt
            exact hfull ⟨hmem, by omega⟩
        · simp only [respond, if_neg hfull, hold]
  | unsubscribe =>
    right
    cases subscriptionId with
    | none => exact absurd rfl (hid (by simp))
    | some id =>
      refine ⟨fun hr => (nomatch hr.1), ?_, rfl⟩
      exact Finset.card_erase_le.trans hbound
  | heartbeat =>
    right
    refine ⟨fun hr => (nomatch hr.1), ?_, ?_⟩
    · cases subscriptionId <;> exact hbound
    · cases subscriptionId <;> rfl

lemma Valid.genuine {incoming : Incoming} {control : Control}
    (h : Valid settings channel I incoming control) : Genuine I control := by
  obtain ⟨text, -, -, hcontrol⟩ := h
  exact websocketControl_genuine hcontrol

lemma receive_of_valid {c : Connection} {incoming : Incoming} {control : Control}
    (h : Valid settings channel I incoming control) (r : Readings) :
    receive settings channel I c incoming r = respond settings channel c control r := by
  obtain ⟨text, rfl, hsize, hcontrol⟩ := h
  simp only [receive, if_neg (Nat.not_lt.mpr hsize), hcontrol]

/-- Every frame is valid, ends the connection with a close, or ends it without one. -/
lemma receive_cases (c : Connection) (incoming : Incoming) (r : Readings)
    (hbound : c.subscriptions.card ≤ settings.wsMaxSubscriptions) :
    (∃ control, Valid settings channel I incoming control ∧
        ¬Refused settings.wsMaxSubscriptions c.subscriptions control ∧
        (hold c.subscriptions control).card ≤ settings.wsMaxSubscriptions ∧
        receive settings channel I c incoming r = ⟨hold c.subscriptions control,
          c.sent ++ (replies settings channel control r).map .json, .open⟩) ∨
      (∃ code, Rejected settings channel I c.subscriptions incoming code ∧
        receive settings channel I c incoming r = c.close code) ∨
      (Aborts channel I incoming ∧ (receive settings channel I c incoming r).status ≠ .open ∧
        (receive settings channel I c incoming r).sent = c.sent) := by
  match incoming with
  | .disconnect => exact .inr (.inr ⟨.inl rfl, by simp [receive], rfl⟩)
  | .frame none => exact .inr (.inl ⟨1003, .binary, rfl⟩)
  | .frame (some text) =>
    by_cases hsize : settings.wsMaxFrameBytes < (encode text).length
    · refine .inr (.inl ⟨1009, .oversized hsize, ?_⟩)
      simp only [receive, if_pos hsize]
    · cases hcontrol : websocketControl I text channel with
      | ok control =>
        have hvalid : Valid settings channel I (.frame (some text)) control :=
          ⟨text, rfl, Nat.not_lt.mp hsize, hcontrol⟩
        rw [receive_of_valid hvalid]
        rcases answer_eq channel c hvalid.genuine r hbound with ⟨href, h⟩ | ⟨href, hcard, h⟩
        · exact .inr (.inl ⟨1008, .refused hvalid href, h⟩)
        · exact .inl ⟨control, hvalid, href, hcard, h⟩
      | error error =>
        cases error with
        | valueError message =>
          refine .inr (.inl ⟨1008, .invalid (Nat.not_lt.mp hsize) hcontrol, ?_⟩)
          simp only [receive, if_neg hsize, hcontrol]
        | typeError =>
          refine .inr (.inr ⟨.inr ⟨text, _, rfl, hcontrol, nofun⟩, ?_, ?_⟩) <;>
            simp [receive, if_neg hsize, hcontrol]
        | recursionError =>
          refine .inr (.inr ⟨.inr ⟨text, _, rfl, hcontrol, nofun⟩, ?_, ?_⟩) <;>
            simp [receive, if_neg hsize, hcontrol]

lemma handle_append (frames : List (Incoming × Readings)) (f : Incoming × Readings) :
    handle settings channel I (frames ++ [f]) =
      if (handle settings channel I frames).status = .open then
        receive settings channel I (handle settings channel I frames) f.1 f.2
      else handle settings channel I frames := by
  rw [handle, List.foldl_append]
  rfl

lemma admitted_append {controls : List Control} (h : Admitted settings controls) {control : Control}
    (hc : ¬Refused settings.wsMaxSubscriptions (held controls) control) :
    Admitted settings (controls ++ [control]) := by
  intro before control' after heq
  rcases List.eq_nil_or_concat' after with rfl | ⟨rest, last, rfl⟩
  · obtain ⟨rfl, hlast⟩ := List.append_inj' heq rfl
    obtain rfl := (List.cons.inj hlast).1
    exact hc
  · have hinit : controls ++ [control] = (before ++ control' :: rest) ++ [last] := by
      simpa using heq
    exact h before control' rest (List.append_inj' hinit rfl).1

lemma reading_init : Reading settings channel I [] .init where
  bounded := Nat.zero_le _
  answered := by
    refine ⟨[], [], .nil, ?_, rfl, .nil, rfl⟩
    intro before control after h
    simp at h

lemma Reading.append {incoming : List Incoming} {c : Connection}
    (h : Reading settings channel I incoming c) {frame : Incoming} {control : Control}
    (hvalid : Valid settings channel I frame control)
    (hnot : ¬Refused settings.wsMaxSubscriptions c.subscriptions control)
    (hcard : (hold c.subscriptions control).card ≤ settings.wsMaxSubscriptions) (r : Readings) :
    Reading settings channel I (incoming ++ [frame]) ⟨hold c.subscriptions control,
      c.sent ++ (replies settings channel control r).map .json, .open⟩ where
  bounded := hcard
  answered := by
    obtain ⟨controls, answers, hframes, hadmitted, hheld, hanswers, hsent⟩ := h.answered
    refine ⟨controls ++ [control], answers ++ [replies settings channel control r], ?_, ?_, ?_, ?_, ?_⟩
    · exact List.rel_append hframes (.cons hvalid .nil)
    · rw [hheld] at hnot
      exact admitted_append hadmitted hnot
    · rw [held, List.foldl_append, ← held, ← hheld]
      rfl
    · exact List.rel_append hanswers (.cons (answers_replies hvalid.genuine r) .nil)
    · rw [List.flatten_append, List.map_append, hsent]
      simp

/-- While the route reads on, it has answered every frame. -/
lemma reading_handle (frames : List (Incoming × Readings))
    (h : (handle settings channel I frames).status = .open) :
    Reading settings channel I (frames.map Prod.fst) (handle settings channel I frames) := by
  induction frames using List.reverseRecOn with
  | nil => exact reading_init
  | append_singleton frames f ih =>
    rw [handle_append] at h ⊢
    by_cases hopen : (handle settings channel I frames).status = .open
    · rw [if_pos hopen] at h ⊢
      have hread := ih hopen
      rcases receive_cases (handle settings channel I frames) f.1 f.2 hread.bounded with
        ⟨control, hvalid, hnot, hcard, heq⟩ | ⟨code, -, heq⟩ | ⟨-, hstatus, -⟩
      · rw [heq, List.map_append]
        exact hread.append hvalid hnot hcard f.2
      · rw [heq] at h
        cases h
      · exact absurd h hstatus
    · rw [if_neg hopen] at h
      exact absurd h hopen

/-- The frame at which the route stops, and what it still sends. -/
lemma stops_handle (frames : List (Incoming × Readings))
    (h : (handle settings channel I frames).status ≠ .open) :
    ∃ before last after, frames = before ++ last :: after ∧
      (handle settings channel I before).status = .open ∧
      ((∃ code, Rejected settings channel I (handle settings channel I before).subscriptions last.1 code ∧
          (handle settings channel I frames).sent =
            (handle settings channel I before).sent ++ [.close code]) ∨
        (Aborts channel I last.1 ∧
          (handle settings channel I frames).sent = (handle settings channel I before).sent)) := by
  induction frames using List.reverseRecOn with
  | nil => exact absurd rfl h
  | append_singleton frames f ih =>
    rw [handle_append] at h ⊢
    by_cases hopen : (handle settings channel I frames).status = .open
    · rw [if_pos hopen] at h ⊢
      refine ⟨frames, f, [], rfl, hopen, ?_⟩
      rcases receive_cases (handle settings channel I frames) f.1 f.2
        (reading_handle frames hopen).bounded with
        ⟨control, -, -, -, heq⟩ | ⟨code, hrejected, heq⟩ | ⟨haborts, -, hsent⟩
      · rw [heq] at h
        exact absurd rfl h
      · exact .inl ⟨code, hrejected, by rw [heq]; rfl⟩
      · exact .inr ⟨haborts, hsent⟩
    · rw [if_neg hopen] at h ⊢
      obtain ⟨before, last, after, rfl, hbefore, hend⟩ := ih h
      exact ⟨before, last, after ++ [f], by simp, hbefore, hend⟩

end

/-- On every sequence of frames. While the route reads on, all frames were valid and admitted, the
subscriptions are the fold of the frames and fit the slots, and the answers to the frames are all
that was sent. Otherwise the first rejected frame was answered by one close and nothing follows.
The next valid frame is refused exactly if it subscribes a new identifier while all slots are
taken. -/
theorem connection_run (settings : ChannelSettings) (channel : Str) (I : Interpreter)
    (frames : List (Incoming × Readings)) :
    let c := handle settings channel I frames
    (c.status = .open → Reading settings channel I (frames.map Prod.fst) c) ∧
      (c.status = .open → ∀ incoming control r, Valid settings channel I incoming control →
        ((receive settings channel I c incoming r).status ≠ .open ↔
          Refused settings.wsMaxSubscriptions c.subscriptions control)) ∧
      (c.status ≠ .open → ∃ before last after, frames = before ++ last :: after ∧
        (handle settings channel I before).status = .open ∧
        ((∃ code, Rejected settings channel I (handle settings channel I before).subscriptions last.1 code ∧
            c.sent = (handle settings channel I before).sent ++ [.close code]) ∨
          (Aborts channel I last.1 ∧ c.sent = (handle settings channel I before).sent))) := by
  refine ⟨reading_handle frames, fun hopen incoming control r hvalid => ?_, stops_handle frames⟩
  rw [receive_of_valid hvalid]
  rcases answer_eq channel (handle settings channel I frames) hvalid.genuine r
    (reading_handle frames hopen).bounded with ⟨href, heq⟩ | ⟨hnot, -, heq⟩
  · rw [heq]
    exact ⟨fun _ => href, fun _ => by simp [Connection.close]⟩
  · rw [heq]
    exact ⟨fun hne => absurd rfl hne, fun href => absurd href hnot⟩

end Pentagon5.Auth
