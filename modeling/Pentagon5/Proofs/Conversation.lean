import Pentagon5.Client.Conversation
import Pentagon5.Proofs.Reconnecting
import Pentagon5.Proofs.SentText
import Mathlib.Logic.Relation

/-!
# Conversations with the route

As long as the client starts at rest, every connection carries one subscription, its answers come to
the application in order, and neither side gives the other a reason to close.
-/

namespace Pentagon5.Client

open Python Python.Json Ecma Auth Pentagon5.Runtime Instance

variable {options : SocketOptions} {z : Zod} {settings : ChannelSettings} {I : Interpreter}

def Output.envelope? : Output → Option IncomingEnvelope
  | .envelope e => some e
  | _ => none

/-- The envelopes that an event brings from a socket. -/
def Entry.brings (id : ℕ) (e : Entry) : List IncomingEnvelope :=
  match e.event with
  | .message socket _ _ => if socket = id then e.outputs.filterMap Output.envelope? else []
  | _ => []

/-- All envelopes from a socket, in order. -/
def envelopes (id : ℕ) (history : List Entry) : List IncomingEnvelope :=
  history.reverse.flatMap (Entry.brings id)

lemma envelopes_cons (id : ℕ) (e : Entry) (history : List Entry) :
    envelopes id (e :: history) = envelopes id history ++ e.brings id := by
  simp [envelopes]

def SubscribeEnvelope.control (e : SubscribeEnvelope) : Control :=
  ⟨.subscribe, e.correlationId, some e.subscriptionId⟩

/-- The answers to a subscription, with what the route drew and read for them. -/
def answers (settings : ChannelSettings) (e : SubscribeEnvelope) (r : Readings) : List IncomingEnvelope :=
  .websocket ⟨r.ackId.value.str, utcZ r.ackNow, ⟨e.correlationId, none⟩,
      ⟨"ack", e.channel.text, some e.subscriptionId⟩⟩ ::
    if e.channel = .systemHealth then
      [.health ⟨r.healthMessageId.value.str, utcZ r.healthNow, ⟨e.correlationId, none⟩,
        ⟨r.healthId.value.str, settings.serviceName, "healthy", utcZ r.healthNow, none⟩⟩]
    else []

/-- An envelope whose frame the route accepts. -/
structure Subscribes (settings : ChannelSettings) (I : Interpreter) (e : SubscribeEnvelope) : Prop where
  size : (encode e.frame).length ≤ settings.wsMaxFrameBytes
  control : websocketControl I e.frame e.channel.text = .ok e.control

lemma Subscribes.genuine {e : SubscribeEnvelope} (h : Subscribes settings I e) : Genuine I e.control :=
  websocketControl_genuine h.control

lemma subscription_eq (hbytes : 1024 ≤ settings.wsMaxFrameBytes) (channel : Channel) (now : Date)
    (random : RandomBytes) :
    ∃ e, Subscribes settings I e ∧ e.channel = channel ∧
      Conversation.subscription now random channel = some e.frame := by
  obtain ⟨e, he, hsize, hcontrol⟩ := Wire.subscribe_accepted I channel now random
  have hchannel : e.channel = channel := by
    obtain ⟨_, -, h⟩ := bind_eq_ok.mp he
    obtain ⟨_, -, h⟩ := bind_eq_ok.mp h
    obtain ⟨_, -, h⟩ := bind_eq_ok.mp h
    rw [← Except.ok.inj h]
  refine ⟨e, ⟨hsize.trans hbytes, ?_⟩, hchannel, ?_⟩
  · rw [hchannel]
    exact hcontrol
  · rw [Conversation.subscription, he]

/-- The client reads the answers from the replies of the route. -/
lemma parse_replies_eq (hz : z.AcceptsUtc) (hname : settings.serviceName ≠ ⟨[]⟩) {e : SubscribeEnvelope}
    (h : Subscribes settings I e) (r : Readings) :
    (replies settings e.channel.text e.control r).map (parseIncomingEnvelope z) =
      (answers settings e r).map some := by
  have hack := Wire.parse_websocketEnvelope hz h.genuine (Or.inl rfl) e.channel r.ackId r.ackNow
  have hhealth := Wire.parse_healthEnvelope hz h.genuine hname r.healthNow r.healthId r.healthMessageId
  have hop : e.control.operation ≠ .heartbeat := by simp [SubscribeEnvelope.control]
  have htext : (e.control.operation = .subscribe ∧ (e.channel.text : Str) = "system.health") ↔
      e.channel = .systemHealth := by
    cases e.channel <;> simp [SubscribeEnvelope.control, Channel.text]
  rw [replies, answers, List.map_cons, List.map_cons, if_pos hop, hack]
  apply congrArg (_ :: ·)
  by_cases hchannel : e.channel = .systemHealth
  · rw [if_pos (htext.mpr hchannel), if_pos hchannel, List.map_singleton, hhealth]
    rfl
  · rw [if_neg (fun ht => hchannel (htext.mp ht)), if_neg hchannel]
    rfl

/-- Accepted settings leave room for a subscription. -/
lemma loadChannelSettings_slots {values : String → Option Str}
    (h : loadChannelSettings I values = .ok settings) : 1 ≤ settings.wsMaxSubscriptions := by
  obtain ⟨serviceName, -, h⟩ := bind_eq_ok.mp h
  obtain ⟨wsMaxFrameBytes, -, h⟩ := bind_eq_ok.mp h
  obtain ⟨wsMaxSubscriptions, hslots, h⟩ := bind_eq_ok.mp h
  obtain rfl := Except.ok.inj h
  unfold positiveInt at hslots
  split at hslots
  · cases hslots
  · split_ifs at hslots with hrange
    obtain rfl := Except.ok.inj hslots
    have := hrange.1
    show 1 ≤ Int.toNat _
    omega

def Serving (status : Status) : Prop := status = .open ∨ status = .returned

/-- A line waits for a subscription, carries one to the route, or carries the answers back; `got` is
what has come from it. -/
inductive Phase (settings : ChannelSettings) (I : Interpreter) : Line → List IncomingEnvelope → Prop
  | fresh (channel : Channel) : Phase settings I ⟨channel, [], 0, none, 0⟩ []
  | waiting (channel : Channel) {status} (h : Serving status) :
      Phase settings I ⟨channel, [], 0, some ⟨∅, [], status⟩, 0⟩ []
  | asked {e status} (he : Subscribes settings I e) (h : Serving status) :
      Phase settings I ⟨e.channel, [e.frame], 0, some ⟨∅, [], status⟩, 0⟩ []
  | answered {e status} (he : Subscribes settings I e) (h : Serving status) (r : Readings) (n : ℕ) :
      Phase settings I ⟨e.channel, [e.frame], 1,
        some ⟨{e.subscriptionId}, (replies settings e.channel.text e.control r).map .json, status⟩, n⟩
        ((answers settings e r).take n)

/-- The route accepts a subscription on a new connection. -/
lemma receive_subscription (hslots : 1 ≤ settings.wsMaxSubscriptions) {e : SubscribeEnvelope}
    (he : Subscribes settings I e) (r : Readings) :
    Auth.receive settings e.channel.text I ⟨∅, [], .open⟩ (.frame (some e.frame)) r =
      ⟨{e.subscriptionId}, (replies settings e.channel.text e.control r).map .json, .open⟩ := by
  have hfree : ¬(e.subscriptionId ∉ (∅ : Finset Str) ∧ settings.wsMaxSubscriptions ≤ (∅ : Finset Str).card) := by
    simp only [Finset.card_empty]
    omega
  simp only [Auth.receive, if_neg (Nat.not_lt.mpr he.size), he.control]
  rw [respond]
  simp only [SubscribeEnvelope.control, if_neg hfree]
  rfl

/-- Its answers are written, for the service name has an encoding. -/
lemma written_subscription (hslots : 1 ≤ settings.wsMaxSubscriptions) (hscalar : IsScalarText settings.serviceName)
    {e : SubscribeEnvelope} (he : Subscribes settings I e) (r : Readings) :
    (Auth.receive settings e.channel.text I ⟨∅, [], .open⟩ (.frame (some e.frame)) r).written =
      ⟨{e.subscriptionId}, (replies settings e.channel.text e.control r).map .json, .open⟩ := by
  rw [receive_subscription hslots he]
  refine if_pos (List.all_eq_true.mpr fun sent hsent => ?_)
  obtain ⟨message, hmessage, rfl⟩ := List.mem_map.mp hsent
  rcases Wire.sendJson_replies he.genuine e.channel hmessage with ⟨-, htext⟩ | ⟨⟨-, hname⟩, -⟩
  · obtain ⟨text, hsend, -⟩ := Option.bind_eq_some_iff.mp htext
    exact Option.isSome_iff_exists.mpr ⟨text, hsend⟩
  · exact absurd hscalar hname

/-- The events that make the client report `denied` although every message is an envelope. -/
def Event.Denied : Event → Prop
  | .ticketResolved _ _ thrown => ∃ error ∈ thrown, error.Denies
  | .ticketRejected _ error => error.Denies
  | .message _ _ throws => throws = true
  | .closed _ code => Denying code
  | _ => False

lemma denied_of_scheduleReconnect {s : Instance} : .state .denied ∉ (scheduleReconnect options s).2 := by
  unfold scheduleReconnect
  split_ifs <;> simp

lemma denied_of_caught {s : Instance} {error : TicketError}
    (h : .state .denied ∈ (caught options s error).2) : error.Denies := by
  unfold caught at h
  split_ifs at h with hs hdenies
  · cases h
  · exact hdenies
  · exact absurd h denied_of_scheduleReconnect

/-- The causes of a report of `denied`. -/
lemma denied_of_step {s s' : Instance} {event : Event} {outputs : List Output}
    (hstep : s.step options z event = some (s', outputs)) (h : .state .denied ∈ outputs) :
    event.Denied ∨ ∃ id data throws, event = .message id data throws ∧
      data.raw.bind (parseIncomingEnvelope z) = none := by
  cases event with
  | start =>
    obtain rfl := congrArg Prod.snd (Option.some.inj hstep)
    simp only [start] at h
    split_ifs at h <;> simp [connect] at h
  | stop =>
    obtain rfl := congrArg Prod.snd (Option.some.inj hstep)
    simp [stop] at h
  | ticketResolved k ticket thrown =>
    simp only [step] at hstep
    split_ifs at hstep
    obtain rfl := congrArg Prod.snd (Option.some.inj hstep)
    unfold resolved at h
    split_ifs at h
    · cases h
    · cases thrown with
      | some error => exact .inl ⟨error, rfl, denied_of_caught h⟩
      | none => simp at h
  | ticketRejected k error =>
    simp only [step] at hstep
    split_ifs at hstep
    obtain rfl := congrArg Prod.snd (Option.some.inj hstep)
    exact .inl (denied_of_caught h)
  | timerFired t =>
    simp only [step] at hstep
    split_ifs at hstep
    obtain rfl := congrArg Prod.snd (Option.some.inj hstep)
    simp [connect] at h
  | opened id =>
    obtain ⟨x, -, hopen⟩ := Option.bind_eq_some_iff.mp hstep
    split_ifs at hopen
    obtain rfl := congrArg Prod.snd (Option.some.inj hopen)
    simp only [onopen] at h
    split at h
    · simp at h
    · split at h <;> simp at h
  | message id data throws =>
    obtain ⟨x, -, hmessage⟩ := Option.bind_eq_some_iff.mp hstep
    split_ifs at hmessage
    obtain rfl := congrArg Prod.snd (Option.some.inj hmessage)
    by_cases hinvalid : Invalid options z data throws
    · rcases hinvalid with rfl | ⟨-, hnone | hthrows⟩
      · exact .inr ⟨id, .malformed, throws, rfl, rfl⟩
      · exact .inr ⟨id, data, throws, rfl, hnone⟩
      · exact .inl hthrows
    · obtain ⟨envelopes, hvalid⟩ := onmessage_of_valid (s := s) hinvalid
      rw [hvalid] at h
      simp at h
  | closed id code =>
    obtain ⟨x, -, hclose⟩ := Option.map_eq_some_iff.mp hstep
    obtain rfl := congrArg Prod.snd hclose
    simp only [onclose] at h
    split_ifs at h with hs hcode
    · cases h
    · exact .inl hcode
    · exact absurd h denied_of_scheduleReconnect
  | errored id =>
    obtain ⟨x, -, herror⟩ := Option.map_eq_some_iff.mp hstep
    obtain rfl := congrArg Prod.snd herror
    cases h

/-- What each step keeps while the client starts at rest. -/
structure Inv (options : SocketOptions) (z : Zod) (settings : ChannelSettings) (I : Interpreter)
    (c : Conversation) : Prop where
  run : Run options z c.history c.client
  unused : ∀ id, c.client.created ≤ id → c.lines id = none
  sockets : ∀ x ∈ c.client.sockets, ∃ line, c.lines x.id = some line ∧ line.channel = x.channel ∧
    (x.readyState = .connecting → line.frames = []) ∧ (x.readyState = .open → line.frames ≠ [])
  silent : ∀ id, c.lines id = none → envelopes id c.history = []
  phase : ∀ id line, c.lines id = some line → Phase settings I line (envelopes id c.history)
  denied : ∀ e ∈ c.history, .state .denied ∈ e.outputs → e.event.Denied
  closes : ∀ e ∈ c.history, ∀ id code, e.event = .closed id code → ¬Denying code

variable {c c' : Conversation}

lemma inv_init : Inv options z settings I .init where
  run := .init
  unused _ _ := rfl
  sockets := by simp [Conversation.init, Instance.init]
  silent _ _ := rfl
  phase _ _ h := by cases h
  denied := by simp [Conversation.init]
  closes := by simp [Conversation.init]

lemma Phase.serving {line : Line} {got : List IncomingEnvelope} (h : Phase settings I line got)
    {connection : Connection} (hconnection : line.connection = some connection) :
    Serving connection.status ∧ ∀ code, .close code ∉ connection.sent := by
  cases h with
  | fresh => cases hconnection
  | waiting _ hs =>
    obtain rfl := Option.some.inj hconnection
    exact ⟨hs, by simp⟩
  | asked _ hs =>
    obtain rfl := Option.some.inj hconnection
    exact ⟨hs, by simp⟩
  | answered _ hs r n =>
    obtain rfl := Option.some.inj hconnection
    exact ⟨hs, by simp⟩

/-- One line moves on, and whatever happened meanwhile brought nothing from another socket. -/
lemma Inv.update (h : Inv options z settings I c) {history : List Entry} {id : ℕ} {line line' : Line}
    (hline : c.lines id = some line) (hsame : line'.channel = line.channel ∧ line'.frames = line.frames)
    (hrun : Run options z history c.client)
    (hother : ∀ i ≠ id, envelopes i history = envelopes i c.history)
    (hdenied : ∀ e ∈ history, .state .denied ∈ e.outputs → e.event.Denied)
    (hcloses : ∀ e ∈ history, ∀ id code, e.event = .closed id code → ¬Denying code)
    (hphase : Phase settings I line' (envelopes id history)) :
    Inv options z settings I ⟨c.client, history, Function.update c.lines id (some line')⟩ where
  run := hrun
  unused i hi := by
    have hne : i ≠ id := by
      rintro rfl
      rw [h.unused i hi] at hline
      cases hline
    simpa [hne] using h.unused i hi
  sockets x hx := by
    obtain ⟨l, hl, hlchannel, hlframes⟩ := h.sockets x hx
    by_cases hid : x.id = id
    · rw [hid] at hl
      obtain rfl := Option.some.inj (hl.symm.trans hline)
      refine ⟨line', by simp [hid], hsame.1.trans hlchannel, ?_⟩
      rwa [hsame.2]
    · exact ⟨l, by simpa [hid] using hl, hlchannel, hlframes⟩
  silent i hi := by
    have hne : i ≠ id := by
      rintro rfl
      simp at hi
    rw [hother i hne]
    exact h.silent i (by simpa [hne] using hi)
  phase i l hl := by
    by_cases hid : i = id
    · subst hid
      obtain rfl : line' = l := by simpa using hl
      exact hphase
    · rw [hother i hid]
      exact h.phase i l (by simpa [hid] using hl)
  denied := hdenied
  closes := hcloses

/-- A step of the route alone. -/
lemma Inv.setLine (h : Inv options z settings I c) {id : ℕ} {line line' : Line}
    (hline : c.lines id = some line) (hsame : line'.channel = line.channel ∧ line'.frames = line.frames)
    (hphase : Phase settings I line' (envelopes id c.history)) :
    Inv options z settings I (c.setLine id line') :=
  h.update hline hsame h.run (fun _ _ => rfl) h.denied h.closes hphase

lemma Inv.accept (h : Inv options z settings I c) {id : ℕ} {line : Line} (hline : c.lines id = some line)
    (hnone : line.connection = none) :
    Inv options z settings I (c.setLine id { line with connection := some .init }) := by
  have hphase := h.phase id line hline
  refine h.setLine hline ⟨rfl, rfl⟩ ?_
  generalize envelopes id c.history = got at hphase
  cases hphase with
  | fresh channel => exact .waiting channel (.inl rfl)
  | waiting => cases hnone
  | asked => cases hnone
  | answered => cases hnone

lemma Inv.receive (h : Inv options z settings I c) (hslots : 1 ≤ settings.wsMaxSubscriptions)
    (hscalar : IsScalarText settings.serviceName) {id : ℕ} {r : Readings}
    (hstep : c.receive settings I id r = some c') : Inv options z settings I c' := by
  obtain ⟨line, hline, hstep⟩ := Option.bind_eq_some_iff.mp hstep
  obtain ⟨connection, hconnection, hstep⟩ := Option.bind_eq_some_iff.mp hstep
  obtain ⟨text, htext, hstep⟩ := Option.bind_eq_some_iff.mp hstep
  split_ifs at hstep with hopen
  obtain rfl := Option.some.inj hstep
  have hphase := h.phase id line hline
  refine h.setLine hline ⟨rfl, rfl⟩ ?_
  generalize envelopes id c.history = got at hphase
  cases hphase with
  | fresh => cases hconnection
  | waiting => simp at htext
  | @asked e status he =>
    obtain rfl := Option.some.inj hconnection
    obtain rfl : e.frame = text := by simpa using htext
    obtain rfl : status = .open := hopen
    simp only [written_subscription hslots hscalar he]
    exact .answered he (.inl rfl) r 0
  | answered => simp at htext

lemma Inv.disconnect (h : Inv options z settings I c) {id : ℕ} {r : Readings}
    (hstep : c.disconnect settings I id r = some c') : Inv options z settings I c' := by
  obtain ⟨line, hline, hstep⟩ := Option.bind_eq_some_iff.mp hstep
  obtain ⟨connection, hconnection, hstep⟩ := Option.bind_eq_some_iff.mp hstep
  split_ifs at hstep
  obtain rfl := Option.some.inj hstep
  have hphase := h.phase id line hline
  refine h.setLine hline ⟨rfl, rfl⟩ ?_
  generalize envelopes id c.history = got at hphase
  cases hphase with
  | fresh => cases hconnection
  | waiting channel _ =>
    obtain rfl := Option.some.inj hconnection
    exact .waiting channel (.inr rfl)
  | asked he _ =>
    obtain rfl := Option.some.inj hconnection
    exact .asked he (.inr rfl)
  | answered he _ r' n =>
    obtain rfl := Option.some.inj hconnection
    exact .answered he (.inr rfl) r' n

lemma brings_message (id socket : ℕ) (data : MessageData) (throws : Bool) (outputs : List Output)
    (s s' : Instance) : Entry.brings id ⟨s, .message socket data throws, outputs, s'⟩ =
      if socket = id then outputs.filterMap Output.envelope? else [] := rfl

/-- Only a message brings an envelope. -/
lemma envelopes_of_ne {e : Entry} (h : ∀ socket data throws, e.event ≠ .message socket data throws)
    (id : ℕ) (history : List Entry) : envelopes id (e :: history) = envelopes id history := by
  have hbrings : e.brings id = [] := by
    unfold Entry.brings
    split
    · next heq => exact absurd heq (h _ _ _)
    · rfl
  rw [envelopes_cons, hbrings, List.append_nil]

lemma advance_eq_some {event : Event} {frame : Channel → Option String}
    (hstep : c.advance options z event frame = some c') :
    ∃ s' outputs, c.client.step options z event = some (s', outputs) ∧
      c' = ⟨s', ⟨c.client, event, outputs, s'⟩ :: c.history, outputs.foldl (transmit frame) c.lines⟩ := by
  obtain ⟨⟨s', outputs⟩, hs, rfl⟩ := Option.map_eq_some_iff.mp hstep
  exact ⟨s', outputs, hs, rfl⟩

/-- An event without a message that leaves the lines as they are. -/
lemma Inv.moved (h : Inv options z settings I c) {event : Event} {s' : Instance} {outputs : List Output}
    (hstep : c.client.step options z event = some (s', outputs))
    (hmessage : ∀ socket data throws, event ≠ .message socket data throws)
    (hcloses : ∀ id code, event = .closed id code → ¬Denying code)
    (hcreated : s'.created = c.client.created)
    (hsockets : ∀ x' ∈ s'.sockets, ∃ x ∈ c.client.sockets, x.id = x'.id ∧ x.channel = x'.channel ∧
      (x'.readyState = .closing ∨ x'.readyState = x.readyState)) :
    Inv options z settings I ⟨s', ⟨c.client, event, outputs, s'⟩ :: c.history, c.lines⟩ where
  run := h.run.step hstep
  unused id hid := h.unused id (hcreated ▸ hid)
  sockets x' hx' := by
    obtain ⟨x, hx, hid, hchannel, hready⟩ := hsockets x' hx'
    obtain ⟨line, hline, hlchannel, hframes⟩ := h.sockets x hx
    refine ⟨line, hid ▸ hline, hlchannel.trans hchannel, ?_⟩
    rcases hready with hclosing | hsame
    · simp [hclosing]
    · rwa [hsame]
  silent id hid := by
    rw [envelopes_of_ne hmessage]
    exact h.silent id hid
  phase id line hline := by
    rw [envelopes_of_ne hmessage]
    exact h.phase id line hline
  denied := by
    refine List.forall_mem_cons.mpr ⟨fun hd => ?_, h.denied⟩
    rcases denied_of_step hstep hd with hdenied | ⟨id, data, throws, heq, -⟩
    · exact hdenied
    · exact absurd heq (hmessage id data throws)
  closes := List.forall_mem_cons.mpr ⟨hcloses, h.closes⟩

lemma Instance.Settles.kept {s s₀ : Instance} {event : Event} (h : Settles s event s₀) :
    s₀.created = s.created ∧ ∀ x ∈ s₀.sockets, x ∈ s.sockets := by
  cases h with
  | resolved => exact ⟨rfl, fun _ hx => hx⟩
  | rejected => exact ⟨rfl, fun _ hx => hx⟩
  | closed => exact ⟨rfl, nofun⟩

/-- A new socket gets a new line. -/
lemma Inv.created (h : Inv options z settings I c) {k : ℕ} {ticket : WsTicket} {s' : Instance}
    (hstep : c.client.step options z (.ticketResolved k ticket none) =
      some (s', [.createSocket c.client.created k ticket]))
    (hsockets : s'.sockets = [⟨c.client.created, k, ticket.channel, .connecting, false⟩])
    (hcreated : s'.created = c.client.created + 1) :
    Inv options z settings I ⟨s', ⟨c.client, .ticketResolved k ticket none,
        [.createSocket c.client.created k ticket], s'⟩ :: c.history,
      Function.update c.lines c.client.created (some (.fresh ticket.channel))⟩ := by
  have hmessage : ∀ socket data throws, Event.ticketResolved k ticket none ≠ .message socket data throws := nofun
  have hnew := h.unused c.client.created le_rfl
  refine ⟨h.run.step hstep, fun id hid => ?_, fun x hx => ?_, fun id hid => ?_, fun id line hline => ?_,
    List.forall_mem_cons.mpr ⟨by simp, h.denied⟩, List.forall_mem_cons.mpr ⟨nofun, h.closes⟩⟩
  · have hne : id ≠ c.client.created := by
      simp only [hcreated] at hid
      omega
    simp only [Function.update_of_ne hne]
    apply h.unused
    simp only [hcreated] at hid
    omega
  · simp only [hsockets, List.mem_singleton] at hx
    rw [hx]
    exact ⟨.fresh ticket.channel, by simp, rfl, fun _ => rfl, nofun⟩
  · have hne : id ≠ c.client.created := by
      rintro rfl
      simp at hid
    rw [envelopes_of_ne hmessage]
    exact h.silent id (by simpa [hne] using hid)
  · rw [envelopes_of_ne hmessage]
    by_cases hid : id = c.client.created
    · subst hid
      obtain rfl : Line.fresh ticket.channel = line := by simpa using hline
      rw [h.silent _ hnew]
      exact .fresh ticket.channel
    · exact h.phase id line (by simpa [hid] using hline)

/-- Any event but an opening and a message. -/
lemma Inv.advance (h : Inv options z settings I c) {event : Event}
    (hstep : c.advance options z event (fun _ => none) = some c') (hclean : CleanStarts c'.history)
    (hopened : ∀ id, event ≠ .opened id) (hmessage : ∀ socket data throws, event ≠ .message socket data throws)
    (hcloses : ∀ id code, event = .closed id code → ¬Denying code) : Inv options z settings I c' := by
  obtain ⟨s', outputs, hs, rfl⟩ := advance_eq_some hstep
  have hmove : Move options z c.client event outputs s' := ((h.run.step hs).move hclean).2
  have hkeep : ∀ x' ∈ c.client.sockets, ∃ x ∈ c.client.sockets, x.id = x'.id ∧ x.channel = x'.channel ∧
      (x'.readyState = .closing ∨ x'.readyState = x.readyState) :=
    fun x hx => ⟨x, hx, rfl, rfl, .inr rfl⟩
  cases hmove with
  | ignored _ => exact h.moved hs hmessage hcloses rfl hkeep
  | started _ => exact h.moved hs hmessage hcloses rfl hkeep
  | stopped =>
    refine h.moved hs hmessage hcloses rfl fun x' hx' => ?_
    obtain ⟨x, hx, rfl⟩ := List.mem_map.mp hx'
    exact ⟨x, hx, rfl, rfl, .inl rfl⟩
  | dropped hsettles _ =>
    exact h.moved hs hmessage hcloses hsettles.kept.1 fun x hx => hkeep x (hsettles.kept.2 x hx)
  | denied hsettles _ _ =>
    exact h.moved hs hmessage hcloses hsettles.kept.1 fun x hx => hkeep x (hsettles.kept.2 x hx)
  | exhausted hsettles _ _ _ =>
    exact h.moved hs hmessage hcloses hsettles.kept.1 fun x hx => hkeep x (hsettles.kept.2 x hx)
  | armed hsettles _ _ _ =>
    exact h.moved hs hmessage hcloses hsettles.kept.1 fun x hx => hkeep x (hsettles.kept.2 x hx)
  | created _ _ => exact h.created hs rfl rfl
  | fired _ => exact h.moved hs hmessage hcloses rfl hkeep
  | opened _ _ => exact absurd rfl (hopened _)
  | delivered _ _ _ _ => exact absurd rfl (hmessage _ _ _)
  | refused _ _ _ _ => exact absurd rfl (hmessage _ _ _)
  | @errored x hx =>
    refine h.moved hs hmessage hcloses rfl fun x' hx' => ?_
    obtain rfl := List.mem_singleton.mp hx'
    exact ⟨x, by simp [hx], rfl, rfl, .inl rfl⟩

/-- The socket opens and sends its subscription. -/
lemma Inv.opened (h : Inv options z settings I c) (hbytes : 1024 ≤ settings.wsMaxFrameBytes) {id : ℕ}
    {line : Line} {now : Date} {random : RandomBytes} (hline : c.lines id = some line)
    (hsome : line.connection ≠ none)
    (hstep : c.advance options z (.opened id) (Conversation.subscription now random) = some c')
    (hclean : CleanStarts c'.history) : Inv options z settings I c' := by
  obtain ⟨s', outputs, hs, rfl⟩ := advance_eq_some hstep
  have hmove : Move options z c.client (.opened id) outputs s' := ((h.run.step hs).move hclean).2
  have hmessage : ∀ socket data throws, Event.opened id ≠ .message socket data throws := nofun
  cases hmove with
  | dropped hsettles _ => cases hsettles
  | denied hsettles _ _ => cases hsettles
  | exhausted hsettles _ _ _ => cases hsettles
  | armed hsettles _ _ _ => cases hsettles
  | @opened x hx hready =>
    obtain ⟨line', hline', hchannel, hframes⟩ := h.sockets x (by simp [hx])
    obtain rfl := Option.some.inj (hline.symm.trans hline')
    have hphase := h.phase x.id line hline
    obtain ⟨e, he, hechannel, hsubscription⟩ := subscription_eq hbytes (I := I) x.channel now random
    refine ⟨h.run.step hs, fun id hid => ?_, fun y hy => ?_, fun id hid => ?_, fun id l hl => ?_,
      List.forall_mem_cons.mpr ⟨by simp, h.denied⟩, List.forall_mem_cons.mpr ⟨nofun, h.closes⟩⟩
    · have hne : id ≠ x.id := by
        rintro rfl
        rw [h.unused _ hid] at hline
        cases hline
      simpa [transmit, hne] using h.unused id hid
    · obtain rfl := List.mem_singleton.mp hy
      exact ⟨{ line with frames := line.frames ++ [e.frame] }, by simp [transmit, hline, hsubscription],
        hchannel, nofun, by simp⟩
    · have hne : id ≠ x.id := by
        rintro rfl
        simp [transmit, hline] at hid
      rw [envelopes_of_ne hmessage]
      exact h.silent id (by simpa [transmit, hne] using hid)
    · rw [envelopes_of_ne hmessage]
      by_cases hid : id = x.id
      · subst hid
        have hl' : { line with frames := line.frames ++ [e.frame] } = l := by
          simpa [transmit, hline, hsubscription] using hl
        rw [← hl']
        have hempty := hframes.1 hready
        generalize envelopes x.id c.history = got at hphase ⊢
        cases hphase with
        | fresh => exact absurd rfl hsome
        | waiting channel hserving =>
          obtain rfl : e.channel = channel := hechannel.trans hchannel.symm
          exact .asked he hserving
        | asked => cases hempty
        | answered => cases hempty
      · exact h.phase id l (by simpa [transmit, hid] using hl)

/-- What an envelope does to a client with an `onEnvelope`. -/
lemma step_message (hlistens : options.onEnvelope = true) {s s' : Instance} {outputs : List Output}
    {id : ℕ} {message : Json} {throws : Bool}
    {envelope : IncomingEnvelope} (hstep : s.step options z (.message id (.json message) throws) = some (s', outputs))
    (hparse : parseIncomingEnvelope z message = some envelope) :
    s' = s ∧ outputs.filterMap Output.envelope? = [envelope] ∧
      ∀ (frame : Channel → Option String) lines, outputs.foldl (transmit frame) lines = lines := by
  obtain ⟨x, -, hmessage⟩ := Option.bind_eq_some_iff.mp hstep
  split_ifs at hmessage
  have heq := Option.some.inj hmessage
  simp only [onmessage, hlistens, MessageData.raw, Option.bind_some, hparse, closeSocket_refused] at heq
  cases throws with
  | true =>
    obtain ⟨rfl, rfl⟩ := Prod.mk.inj heq
    exact ⟨rfl, rfl, fun _ _ => rfl⟩
  | false =>
    obtain ⟨rfl, rfl⟩ := Prod.mk.inj heq
    exact ⟨rfl, rfl, fun _ _ => rfl⟩

/-- The next answer comes to the application. -/
lemma Inv.deliver (h : Inv options z settings I c) (hlistens : options.onEnvelope = true) (hz : z.AcceptsUtc)
    (hname : settings.serviceName ≠ ⟨[]⟩) {id : ℕ} {throws : Bool} (hstep : c.deliver options z id throws = some c') :
    Inv options z settings I c' := by
  obtain ⟨line, hline, hstep⟩ := Option.bind_eq_some_iff.mp hstep
  obtain ⟨connection, hconnection, hstep⟩ := Option.bind_eq_some_iff.mp hstep
  split at hstep
  next message hsent =>
    obtain ⟨c₁, hadvance, hstep⟩ := Option.bind_eq_some_iff.mp hstep
    obtain ⟨s', outputs, hs, rfl⟩ := advance_eq_some hadvance
    obtain rfl := Option.some.inj hstep
    have hphase := h.phase id line hline
    generalize hgot : envelopes id c.history = got at hphase
    cases hphase with
    | fresh => cases hconnection
    | waiting =>
      obtain rfl := Option.some.inj hconnection
      simp at hsent
    | asked =>
      obtain rfl := Option.some.inj hconnection
      simp at hsent
    | @answered e status he hserving r n =>
      obtain rfl := Option.some.inj hconnection
      have hreply : (replies settings e.channel.text e.control r)[n]? = some message := by
        simpa using hsent
      have hanswer : (answers settings e r)[n]?.map some = some (parseIncomingEnvelope z message) := by
        rw [← List.getElem?_map, ← parse_replies_eq hz hname he r, List.getElem?_map, hreply]
        rfl
      obtain ⟨envelope, henvelope, hparse⟩ := Option.map_eq_some_iff.mp hanswer
      obtain ⟨rfl, hbrings, hlines⟩ := step_message hlistens hs hparse.symm
      have hentry : Entry.brings id ⟨c.client, .message id (.json message) throws, outputs, c.client⟩ =
          [envelope] := by
        rw [brings_message, if_pos rfl, hbrings]
      have htake : (answers settings e r).take (n + 1) = (answers settings e r).take n ++ [envelope] := by
        rw [List.take_add_one, henvelope]
        rfl
      have hphase := Phase.answered he hserving r (n + 1)
      rw [htake, ← hgot, ← hentry, ← envelopes_cons] at hphase
      simp only [Conversation.setLine, hlines]
      have hother : ∀ i ≠ id, envelopes i (⟨c.client, .message id (.json message) throws, outputs,
          c.client⟩ :: c.history) = envelopes i c.history := by
        intro i hi
        rw [envelopes_cons, brings_message, if_neg (Ne.symm hi), List.append_nil]
      have hdenied : .state .denied ∈ outputs → (Event.message id (.json message) throws).Denied := by
        intro hd
        rcases denied_of_step hs hd with hdenied | ⟨_, _, _, heq, hnone⟩
        · exact hdenied
        · obtain ⟨-, rfl, -⟩ := Event.message.inj heq
          rw [MessageData.raw, Option.bind_some, ← hparse] at hnone
          cases hnone
      exact h.update hline ⟨rfl, rfl⟩ (h.run.step hs) hother
        (List.forall_mem_cons.mpr ⟨hdenied, h.denied⟩) (List.forall_mem_cons.mpr ⟨nofun, h.closes⟩) hphase
  next => cases hstep

/-- What holds of a conversation. The route never closes a connection and raises no exception. Each
line carries at most one subscription, whose answers come in order and once. The client reports
`denied` only where a ticket request failed with 401 or 403 or the application failed on an envelope. -/
structure Sound (settings : ChannelSettings) (I : Interpreter) (c : Conversation) : Prop where
  served : ∀ id line connection, c.lines id = some line → line.connection = some connection →
    Serving connection.status ∧ ∀ code, .close code ∉ connection.sent
  answered : ∀ id line, c.lines id = some line → Phase settings I line (envelopes id c.history)
  silent : ∀ id, c.lines id = none → envelopes id c.history = []
  denied : ∀ e ∈ c.history, .state .denied ∈ e.outputs →
    (∃ request ticket error, e.event = .ticketResolved request ticket (some error) ∧ error.Denies) ∨
      (∃ request error, e.event = .ticketRejected request error ∧ error.Denies) ∨
      ∃ socket data, e.event = .message socket data true

lemma Inv.step (h : Inv options z settings I c) (hlistens : options.onEnvelope = true) (hz : z.AcceptsUtc)
    (hbytes : 1024 ≤ settings.wsMaxFrameBytes) (hslots : 1 ≤ settings.wsMaxSubscriptions)
    (hname : settings.serviceName ≠ ⟨[]⟩) (hscalar : IsScalarText settings.serviceName) {action : Action}
    (hstep : c.Step options z settings I action c') (hclean : CleanStarts c'.history) :
    Inv options z settings I c' := by
  cases hstep with
  | @client event _ hlocal hadvance =>
    refine h.advance hadvance hclean ?_ ?_ ?_
    · rintro id rfl
      cases hlocal
    · rintro socket data throws rfl
      cases hlocal
    · rintro id code rfl
      cases hlocal
  | accept hline hnone => exact h.accept hline hnone
  | opened hline hsome hadvance => exact h.opened hbytes hline hsome hadvance hclean
  | receive hreceive => exact h.receive hslots hscalar hreceive
  | disconnect hdisconnect => exact h.disconnect hdisconnect
  | deliver hdeliver => exact h.deliver hlistens hz hname hdeliver
  | @close id code _ hcloses hadvance =>
    refine h.advance hadvance hclean nofun nofun ?_
    rintro id' code' heq
    obtain ⟨rfl, rfl⟩ := Event.closed.inj heq
    rcases hcloses with hnot | ⟨line, connection, hline, hconnection, hsent⟩
    · exact hnot
    · exact absurd hsent (((h.phase id line hline).serving hconnection).2 code)

lemma history_of_step {action : Action} (hstep : c.Step options z settings I action c') :
    c'.history = c.history ∨ ∃ e, c'.history = e :: c.history := by
  cases hstep with
  | client _ hadvance =>
    obtain ⟨s', outputs, -, rfl⟩ := advance_eq_some hadvance
    exact .inr ⟨_, rfl⟩
  | accept => exact .inl rfl
  | opened _ _ hadvance =>
    obtain ⟨s', outputs, -, rfl⟩ := advance_eq_some hadvance
    exact .inr ⟨_, rfl⟩
  | receive hreceive =>
    obtain ⟨line, -, h⟩ := Option.bind_eq_some_iff.mp hreceive
    obtain ⟨connection, -, h⟩ := Option.bind_eq_some_iff.mp h
    obtain ⟨text, -, h⟩ := Option.bind_eq_some_iff.mp h
    split_ifs at h
    obtain rfl := Option.some.inj h
    exact .inl rfl
  | disconnect hdisconnect =>
    obtain ⟨line, -, h⟩ := Option.bind_eq_some_iff.mp hdisconnect
    obtain ⟨connection, -, h⟩ := Option.bind_eq_some_iff.mp h
    split_ifs at h
    obtain rfl := Option.some.inj h
    exact .inl rfl
  | deliver hdeliver =>
    obtain ⟨line, -, h⟩ := Option.bind_eq_some_iff.mp hdeliver
    obtain ⟨connection, -, h⟩ := Option.bind_eq_some_iff.mp h
    split at h
    · obtain ⟨c₁, hadvance, h⟩ := Option.bind_eq_some_iff.mp h
      obtain ⟨s', outputs, -, rfl⟩ := advance_eq_some hadvance
      obtain rfl := Option.some.inj h
      exact .inr ⟨_, rfl⟩
    · cases h
  | close _ hadvance =>
    obtain ⟨s', outputs, -, rfl⟩ := advance_eq_some hadvance
    exact .inr ⟨_, rfl⟩

lemma inv_of_reachable (hlistens : options.onEnvelope = true) (hz : z.AcceptsUtc)
    (hbytes : 1024 ≤ settings.wsMaxFrameBytes) (hslots : 1 ≤ settings.wsMaxSubscriptions)
    (hname : settings.serviceName ≠ ⟨[]⟩) (hscalar : IsScalarText settings.serviceName)
    (h : Conversation.Reachable options z settings I c) (hclean : CleanStarts c.history) :
    Inv options z settings I c := by
  induction h with
  | init => exact inv_init
  | step _ hstep ih =>
    refine (ih ?_).step hlistens hz hbytes hslots hname hscalar hstep hclean
    rcases history_of_step hstep with heq | ⟨e, heq⟩
    · rwa [heq] at hclean
    · rw [heq] at hclean
      exact fun e' he' => hclean e' (List.mem_cons_of_mem e he')

lemma Event.Denied.cause {event : Event} (h : event.Denied)
    (hcloses : ∀ id code, event = .closed id code → ¬Denying code) :
    (∃ request ticket error, event = .ticketResolved request ticket (some error) ∧ error.Denies) ∨
      (∃ request error, event = .ticketRejected request error ∧ error.Denies) ∨
      ∃ socket data, event = .message socket data true := by
  cases event with
  | start => exact h.elim
  | stop => exact h.elim
  | ticketResolved k ticket thrown =>
    obtain ⟨error, hthrown, hdenies⟩ := h
    obtain rfl : thrown = some error := hthrown
    exact .inl ⟨k, ticket, error, rfl, hdenies⟩
  | ticketRejected k error => exact .inr (.inl ⟨k, error, rfl, h⟩)
  | timerFired => exact h.elim
  | opened => exact h.elim
  | message socket data throws =>
    obtain rfl : throws = true := h
    exact .inr (.inr ⟨socket, data, rfl⟩)
  | closed socket code => exact absurd h (hcloses socket code rfl)
  | errored => exact h.elim

lemma Inv.sound (h : Inv options z settings I c) : Sound settings I c where
  served id line _ hline hconnection := (h.phase id line hline).serving hconnection
  answered := h.phase
  silent := h.silent
  denied e he hd := (h.denied e he hd).cause (h.closes e he)

/-- In every run of a client that listens to envelopes with the route, for all accepted settings whose
service name has an encoding and every interleaving of the two with the network and the application:
while each start finds the client at rest, the conversation is sound. -/
theorem sound_of_run (hlistens : options.onEnvelope = true) (hz : z.AcceptsUtc) {values : String → Option Str}
    (hsettings : loadChannelSettings I values = .ok settings) (hscalar : IsScalarText settings.serviceName)
    (h : Conversation.Reachable options z settings I c) (hclean : CleanStarts c.history) :
    Sound settings I c := by
  obtain ⟨hbytes, hname⟩ := loadChannelSettings_bounds hsettings
  have hslots := loadChannelSettings_slots hsettings
  exact (inv_of_reachable hlistens hz hbytes hslots hname hscalar h hclean).sound

/-- The line of a subscription whose first `n` answers have come. -/
def answeredLine (settings : ChannelSettings) (e : SubscribeEnvelope) (r : Readings) (status : Status)
    (n : ℕ) : Line :=
  ⟨e.channel, [e.frame], 1,
    some ⟨{e.subscriptionId}, (replies settings e.channel.text e.control r).map .json, status⟩, n⟩

lemma Conversation.Reachable.carries {id : ℕ} (h : Reachable options z settings I c)
    (hsteps : Relation.ReflTransGen (Carries options z settings I id) c c') : Reachable options z settings I c' := by
  induction hsteps with
  | refl => exact h
  | tail _ hstep ih =>
    cases hstep with
    | receive hreceive => exact ih.step (.receive hreceive)
    | deliver hdeliver => exact ih.step (.deliver hdeliver)

/-- An open socket takes the next answer. -/
lemma exists_deliver (hlistens : options.onEnvelope = true) (hsingle : Single c.client) (hz : z.AcceptsUtc)
    (hname : settings.serviceName ≠ ⟨[]⟩) {x : Socket} (hx : x ∈ c.client.sockets)
    (hopen : x.readyState = .open) {e : SubscribeEnvelope} (he : Subscribes settings I e) {r : Readings} {status : Status} {n : ℕ}
    (hline : c.lines x.id = some (answeredLine settings e r status n)) {envelope : IncomingEnvelope}
    (henvelope : (answers settings e r)[n]? = some envelope) :
    ∃ c', c.deliver options z x.id false = some c' ∧ c'.client = c.client ∧
      c'.lines x.id = some (answeredLine settings e r status (n + 1)) ∧
      envelopes x.id c'.history = envelopes x.id c.history ++ [envelope] := by
  have hfind : c.client.find x.id = some x := by
    rcases hsingle.sockets_cases with ⟨hnil, -⟩ | ⟨y, hy, -⟩
    · rw [hnil] at hx
      cases hx
    · rw [hy, List.mem_singleton] at hx
      exact find_singleton (hx ▸ hy)
  obtain ⟨message, hmessage, hparse⟩ : ∃ message,
      (replies settings e.channel.text e.control r)[n]? = some message ∧
        parseIncomingEnvelope z message = some envelope := by
    have hparsed : (replies settings e.channel.text e.control r)[n]?.map (parseIncomingEnvelope z) =
        some (some envelope) := by
      rw [← List.getElem?_map, parse_replies_eq hz hname he r, List.getElem?_map, henvelope]
      rfl
    exact Option.map_eq_some_iff.mp hparsed
  have hstep : c.client.step options z (.message x.id (.json message) false) =
      some (c.client, [.envelope envelope]) := by
    simp [step, hfind, hopen, onmessage, hlistens, MessageData.raw, hparse]
  refine ⟨Conversation.setLine ⟨c.client, ⟨c.client, .message x.id (.json message) false,
    [.envelope envelope], c.client⟩ :: c.history, c.lines⟩ x.id (answeredLine settings e r status (n + 1)), ?_, rfl,
    Function.update_self _ _ _, ?_⟩
  · simp [Conversation.deliver, hline, answeredLine, hmessage, Conversation.advance, hstep, transmit]
  · rw [Conversation.setLine, envelopes_cons]
    exact congrArg (envelopes x.id c.history ++ ·) (if_pos rfl)

lemma exists_delivered (hlistens : options.onEnvelope = true) (hz : z.AcceptsUtc)
    (hname : settings.serviceName ≠ ⟨[]⟩) (hsingle : Single c.client) {x : Socket}
    (hx : x ∈ c.client.sockets) (hopen : x.readyState = .open) {e : SubscribeEnvelope}
    (he : Subscribes settings I e) {r : Readings} {status : Status} (k n : ℕ)
    (hk : n + k = (answers settings e r).length)
    (hline : c.lines x.id = some (answeredLine settings e r status n))
    (hgot : envelopes x.id c.history = (answers settings e r).take n) :
    ∃ c', Relation.ReflTransGen (Conversation.Carries options z settings I x.id) c c' ∧ c'.client = c.client ∧
      envelopes x.id c'.history = answers settings e r := by
  induction k generalizing c n with
  | zero =>
    refine ⟨c, .refl, rfl, ?_⟩
    rw [hgot, List.take_of_length_le (by omega)]
  | succ k ih =>
    have hn : n < (answers settings e r).length := by omega
    obtain ⟨c', hdeliver, hclient, hline', hgot'⟩ :=
      exists_deliver hlistens hsingle hz hname hx hopen he hline (List.getElem?_eq_getElem hn)
    rw [hgot, List.take_concat_get' _ _ hn] at hgot'
    obtain ⟨c'', hsteps, hclient'', hall⟩ := ih (hclient ▸ hsingle) (hclient ▸ hx) (n + 1) (by omega) hline' hgot'
    exact ⟨c'', .head (.deliver hdeliver) hsteps, hclient''.trans hclient, hall⟩

/-- While a socket is open and its route runs, steps of the route that read its frames and of the network
that bring its messages lead, without any other, to a conversation in which all answers to its
subscription have come to the application. -/
theorem answered_of_open (hlistens : options.onEnvelope = true) (hz : z.AcceptsUtc) {values : String → Option Str}
    (hsettings : loadChannelSettings I values = .ok settings) (hscalar : IsScalarText settings.serviceName)
    (h : Conversation.Reachable options z settings I c) (hclean : CleanStarts c.history) {x : Socket}
    (hx : x ∈ c.client.sockets) (hopen : x.readyState = .open) {line : Line} {connection : Connection}
    (hline : c.lines x.id = some line) (hconnection : line.connection = some connection)
    (hstatus : connection.status = .open) (r : Readings) :
    ∃ c' e r, Relation.ReflTransGen (Conversation.Carries options z settings I x.id) c c' ∧ c'.client = c.client ∧
      line.frames = [e.frame] ∧ e.channel = x.channel ∧ envelopes x.id c'.history = answers settings e r := by
  obtain ⟨hbytes, hname⟩ := loadChannelSettings_bounds hsettings
  have hslots := loadChannelSettings_slots hsettings
  have hinv := inv_of_reachable hlistens hz hbytes hslots hname hscalar h hclean
  have hsingle := hinv.run.single hclean
  obtain ⟨line', hline', hchannel, -, hframes⟩ := hinv.sockets x hx
  obtain rfl := Option.some.inj (hline.symm.trans hline')
  have hasked := hframes hopen
  have hphase := hinv.phase x.id line hline
  generalize hgot : envelopes x.id c.history = got at hphase
  cases hphase with
  | fresh => exact absurd rfl hasked
  | waiting => exact absurd rfl hasked
  | @asked e status he =>
    obtain rfl := Option.some.inj hconnection
    obtain rfl : status = .open := hstatus
    have hreceive : c.receive settings I x.id r =
        some (c.setLine x.id (answeredLine settings e r .open 0)) := by
      simp [Conversation.receive, hline, written_subscription hslots hscalar he, answeredLine]
    have hread : Single (c.setLine x.id (answeredLine settings e r .open 0)).client := hsingle
    obtain ⟨c', hsteps, hclient, hall⟩ := exists_delivered hlistens hz hname hread hx hopen he
      (answers settings e r).length 0 (Nat.zero_add _) (Function.update_self _ _ _) hgot
    exact ⟨c', e, r, .head (.receive hreceive) hsteps, hclient, rfl, hchannel, hall⟩
  | @answered e status he _ r n =>
    by_cases hn : n ≤ (answers settings e r).length
    · obtain ⟨c', hsteps, hclient, hall⟩ := exists_delivered hlistens hz hname hsingle hx hopen he
        ((answers settings e r).length - n) n (by omega) hline hgot
      exact ⟨c', e, r, hsteps, hclient, rfl, hchannel, hall⟩
    · refine ⟨c, e, r, .refl, rfl, rfl, hchannel, ?_⟩
      rw [hgot, List.take_of_length_le (by omega)]

namespace Conversation.Sample

open Replay Wire.Deployed

def deployed : ChannelSettings := ⟨16384, 1, "authentication"⟩

def drawn : Drawn :=
  ⟨0x1#128 <<< 80 ||| 0x7#128 <<< 76 ||| 0x2#128 <<< 62, Generator.init, 1000000, 0, by decide +kernel⟩

def answeredAt : Datetime := ⟨noon.toMoment, 500000, by decide⟩

def readings : Readings := ⟨drawn, answeredAt, answeredAt, drawn, drawn⟩

abbrev Run (c : Conversation) : Prop := Reachable defaults Wire.Deployed.zod deployed interpreter c

lemma Run.next {c c' : Conversation} (h : Run c) (action : Action)
    (hstep : Step defaults Wire.Deployed.zod deployed interpreter c action c') : Run c' := .step h hstep

lemma isScalarText_deployed : IsScalarText deployed.serviceName := isScalarText_ofString "authentication"

lemma settings_deployed : loadChannelSettings interpreter environ = .ok deployed := rfl

/-- A socket that is open. -/
lemma run_opened : ∃ c, Run c ∧ CleanStarts c.history ∧ c.client.sockets = [⟨0, 0, .systemHealth, .open, true⟩] ∧
    ∃ line, c.lines 0 = some line ∧ line.connection = some .init := by
  have hstarted := Run.next .init (.client .start) (.client rfl rfl)
  have hcreated := hstarted.next (.client (.ticketResolved 0 ticket none)) (.client rfl rfl)
  have hopened := (hcreated.next (.accept 0) (.accept rfl rfl)).next (.opened 0 noon zeros) (.opened rfl nofun rfl)
  refine ⟨_, hopened, List.forall_iff_forall_mem.mp ⟨nofun, nofun, fun _ _ => ⟨rfl, rfl⟩⟩, rfl, _, rfl, rfl⟩

/-- The network fails after the route answered a subscription. -/
theorem sound_of_run_answered : ∃ c : Conversation, Run c ∧ c.client.attempts = 1 ∧
    Sound deployed interpreter c := by
  have hstarted := Run.next .init (.client .start) (.client rfl rfl)
  have hcreated := hstarted.next (.client (.ticketResolved 0 ticket none)) (.client rfl rfl)
  have hopened := (hcreated.next (.accept 0) (.accept rfl rfl)).next (.opened 0 noon zeros) (.opened rfl nofun rfl)
  have hanswered := hopened.next (.receive 0 readings) (.receive rfl)
  have hcut := hanswered.next (.close 0 1006) (.close (.inl (by decide)) rfl)
  refine ⟨_, hcut, rfl, sound_of_run rfl acceptsUtc settings_deployed isScalarText_deployed hcut ?_⟩
  exact List.forall_iff_forall_mem.mp ⟨nofun, nofun, nofun, fun _ _ => ⟨rfl, rfl⟩⟩

/-- From the open socket on, all answers can come. -/
theorem answered_of_open_opened : ∃ c e r, Run c ∧ e.channel = .systemHealth ∧
    envelopes 0 c.history = answers deployed e r := by
  obtain ⟨c, hrun, hclean, hsockets, line, hline, hconnection⟩ := run_opened
  have hx : (⟨0, 0, .systemHealth, .open, true⟩ : Socket) ∈ c.client.sockets := by
    rw [hsockets]
    exact List.mem_cons_self
  obtain ⟨c', e, r, hsteps, -, -, hchannel, hall⟩ :=
    answered_of_open rfl acceptsUtc settings_deployed isScalarText_deployed hrun hclean hx rfl hline hconnection
      rfl readings
  exact ⟨c', e, r, Reachable.carries hrun hsteps, hchannel, hall⟩

end Conversation.Sample

end Pentagon5.Client
