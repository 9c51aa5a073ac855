import Pentagon5.Auth.Channel
import Pentagon5.Client.ReconnectingWebSocket

/-!
# The client and the route

An instance of `ReconnectingWebSocket` with the backend behind its sockets. Each socket has a line to
one run of the WebSocket route. Frames and messages keep their order, and a line can be cut at any
moment.
-/

namespace Pentagon5.Client

open Python Python.Json Ecma Auth

/-- The connection behind a socket: the frames that were sent on it and how many of them the route
read, the route once it accepted the ticket, and how many of its messages came to the socket. -/
structure Line where
  channel : Channel
  frames : List String
  received : ℕ
  connection : Option Connection
  delivered : ℕ

/-- The line of a socket that was just created; the path of its URL ends in the channel. -/
def Line.fresh (channel : Channel) : Line := ⟨channel, [], 0, none, 0⟩

/-- The client with all lines. The history is that of the instance, its latest event first. -/
structure Conversation where
  client : Instance
  history : List Entry
  lines : ℕ → Option Line

def Conversation.init : Conversation := ⟨.init, [], fun _ => none⟩

/-- The text that is sent to subscribe. -/
def SubscribeEnvelope.frame (e : SubscribeEnvelope) : String := ofChars (stringify e.toJson)

/-- Whether an event comes from the application, a ticket request, a timer or a failing socket. -/
def Event.isLocal : Event → Bool
  | .opened _ => false
  | .message _ _ _ => false
  | .closed _ _ => false
  | _ => true

/-- The close codes that the client takes as a denial. -/
def Denying (code : ℕ) : Prop := code = 1008 ∨ code = 4401 ∨ code = 4403

instance : DecidablePred Denying := fun code => inferInstanceAs (Decidable (code = 1008 ∨ _))

/-- What happens to the client or on a line. -/
inductive Action where
  | client (event : Event)
  | accept (socket : ℕ)
  | opened (socket : ℕ) (now : Date) (random : RandomBytes)
  | receive (socket : ℕ) (r : Readings)
  | disconnect (socket : ℕ) (r : Readings)
  | deliver (socket : ℕ) (throws : Bool)
  | close (socket : ℕ) (code : ℕ)

/-- What an output does on the lines; `frame` is the text that is sent to subscribe. -/
def transmit (frame : Channel → Option String) (lines : ℕ → Option Line) : Output → ℕ → Option Line
  | .createSocket id _ ticket => Function.update lines id (some (.fresh ticket.channel))
  | .subscribe id channel => Function.update lines id
      ((lines id).map fun line => { line with frames := line.frames ++ (frame channel).toList })
  | _ => lines

namespace Conversation

variable (options : SocketOptions) (z : Zod) (settings : ChannelSettings) (I : Interpreter)

/-- An event of the instance, and what its outputs do on the lines. -/
def advance (c : Conversation) (event : Event) (frame : Channel → Option String) : Option Conversation :=
  (c.client.step options z event).map fun r =>
    ⟨r.1, ⟨c.client, event, r.2, r.1⟩ :: c.history, r.2.foldl (transmit frame) c.lines⟩

def setLine (c : Conversation) (id : ℕ) (line : Line) : Conversation :=
  { c with lines := Function.update c.lines id (some line) }

/-- The text of a new envelope for a channel. -/
def subscription (now : Date) (random : RandomBytes) (channel : Channel) : Option String :=
  match createWebSocketSubscribeEnvelope channel now random with
  | .ok e => some e.frame
  | .error _ => none

/-- The route reads the next frame, and what it sends is written. -/
def receive (c : Conversation) (id : ℕ) (r : Readings) : Option Conversation := do
  let line ← c.lines id
  let connection ← line.connection
  let text ← line.frames[line.received]?
  if connection.status = .open then
    some (c.setLine id { line with
      received := line.received + 1
      connection := some
        (Auth.receive settings line.channel.text I connection (.frame (some text)) r).written })
  else none

/-- The route learns that its client is gone. -/
def disconnect (c : Conversation) (id : ℕ) (r : Readings) : Option Conversation := do
  let line ← c.lines id
  let connection ← line.connection
  if connection.status = .open then
    some (c.setLine id { line with
      connection := some (Auth.receive settings line.channel.text I connection .disconnect r) })
  else none

/-- The next message comes to the socket. -/
def deliver (c : Conversation) (id : ℕ) (throws : Bool) : Option Conversation := do
  let line ← c.lines id
  let connection ← line.connection
  match connection.sent[line.delivered]? with
  | some (.json message) =>
    let c ← c.advance options z (.message id (.json message) throws) fun _ => none
    some (c.setLine id { line with delivered := line.delivered + 1 })
  | _ => none

/-- Whether the line can close with the code: a code that denies is one that the route sent. -/
def Closes (c : Conversation) (id code : ℕ) : Prop :=
  ¬Denying code ∨ ∃ line connection, c.lines id = some line ∧ line.connection = some connection ∧
    .close code ∈ connection.sent

/-- One step of a conversation. The route accepts at most once, and a socket opens after that. -/
inductive Step (c : Conversation) : Action → Conversation → Prop
  | client {event c'} (h : event.isLocal = true)
      (hstep : c.advance options z event (fun _ => none) = some c') : Step c (.client event) c'
  | accept {id line} (h : c.lines id = some line) (hnone : line.connection = none) :
      Step c (.accept id) (c.setLine id { line with connection := some .init })
  | opened {id line now random c'} (h : c.lines id = some line) (hsome : line.connection ≠ none)
      (hstep : c.advance options z (.opened id) (subscription now random) = some c') :
      Step c (.opened id now random) c'
  | receive {id r c'} (h : c.receive settings I id r = some c') : Step c (.receive id r) c'
  | disconnect {id r c'} (h : c.disconnect settings I id r = some c') : Step c (.disconnect id r) c'
  | deliver {id throws c'} (h : c.deliver options z id throws = some c') : Step c (.deliver id throws) c'
  | close {id code c'} (h : c.Closes id code)
      (hstep : c.advance options z (.closed id code) (fun _ => none) = some c') :
      Step c (.close id code) c'

/-- The route reads a frame of the line, or the network brings one of its messages. -/
inductive Carries (id : ℕ) (c : Conversation) : Conversation → Prop
  | receive {r c'} (h : c.receive settings I id r = some c') : Carries id c c'
  | deliver {c'} (h : c.deliver options z id false = some c') : Carries id c c'

inductive Reachable : Conversation → Prop
  | init : Reachable .init
  | step {c action c'} (h : Reachable c) (hstep : Step options z settings I c action c') : Reachable c'

end Conversation

end Pentagon5.Client
