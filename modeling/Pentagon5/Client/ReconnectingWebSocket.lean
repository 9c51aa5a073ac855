import Mathlib.Algebra.Order.Field.Rat
import Mathlib.Data.NNRat.Defs
import Pentagon5.Client.Envelopes

/-!
# `ReconnectingWebSocket`

One instance with what is in flight around it: ticket requests that have not settled, timers that
have not fired, and sockets whose close event has not come. An event runs one call or one callback
to its end; what it makes observable is listed in order.
-/

namespace Pentagon5.Client

open Python Auth

/-- `readyState` of a socket whose close event has not come. -/
inductive ReadyState where
  | connecting
  | open
  | closing
deriving DecidableEq

/-- A socket, the ticket request that it was created from, and whether its open event came. -/
structure Socket where
  id : ℕ
  request : ℕ
  channel : Channel
  readyState : ReadyState
  opened : Bool
deriving DecidableEq

/-- `close(code)`; `none` where it throws `InvalidAccessError`. -/
def Socket.close (code : Option ℕ) (x : Socket) : Option Socket :=
  if ∀ c ∈ code, c = 1000 ∨ (3000 ≤ c ∧ c ≤ 4999) then some { x with readyState := .closing }
  else none

structure WsTicket where
  ticket : Str
  channel : Channel
  websocketUrl : Str
deriving DecidableEq

/-- Why `getTicket` was rejected. -/
inductive TicketError where
  | apiClientError (status : ℕ)
  | other
deriving DecidableEq

/-- `error instanceof ApiClientError && (error.status === 401 || error.status === 403)` -/
def TicketError.Denies : TicketError → Prop
  | .apiClientError status => status = 401 ∨ status = 403
  | .other => False

instance : DecidablePred TicketError.Denies
  | .apiClientError _ => inferInstanceAs (Decidable (_ ∨ _))
  | .other => inferInstanceAs (Decidable False)

inductive WebSocketState where
  | disconnected
  | connecting
  | connected
  | reconnecting
  | denied
deriving DecidableEq

/-- `ReconnectingSocketOptions`; of the optional callback `onEnvelope`, whether it is there. -/
structure SocketOptions where
  onEnvelope : Bool
  maxAttempts : Option ℕ
  baseDelayMs : Option ℚ≥0

/-- `event.data`: the text of a JSON value, another text, or no text. -/
inductive MessageData where
  | json (value : Json)
  | malformed
  | binary

/-- `raw`, which is `undefined` for data that is no text. -/
def MessageData.raw : MessageData → Option Json
  | .json value => some value
  | _ => none

/-- The fields of the instance, then what is in flight. Identifiers count up. -/
structure Instance where
  socket : Option ℕ
  stopped : Bool
  attempts : ℕ
  timer : Option ℕ
  pending : List ℕ
  armed : List ℕ
  sockets : List Socket
  requests : ℕ
  timers : ℕ
  created : ℕ
deriving DecidableEq

def Instance.init : Instance := ⟨none, true, 0, none, [], [], [], 0, 0, 0⟩

/-- What happens to an instance. A resolved ticket comes with what `new URL` or the factory throws, a
message with whether `onEnvelope` throws. -/
inductive Event where
  | start
  | stop
  | ticketResolved (request : ℕ) (ticket : WsTicket) (thrown : Option TicketError)
  | ticketRejected (request : ℕ) (error : TicketError)
  | timerFired (timer : ℕ)
  | opened (socket : ℕ)
  | message (socket : ℕ) (data : MessageData) (throws : Bool)
  | closed (socket : ℕ) (code : ℕ)
  | errored (socket : ℕ)

/-- What an instance makes observable. -/
inductive Output where
  | state (value : WebSocketState)
  | getTicket (request : ℕ)
  | createSocket (socket : ℕ) (request : ℕ) (ticket : WsTicket)
  | subscribe (socket : ℕ) (channel : Channel)
  | envelope (value : IncomingEnvelope)
  | setTimeout (timer : ℕ) (delay : ℚ≥0)
deriving DecidableEq

namespace Instance

variable (options : SocketOptions) (z : Zod)

/-- `connect` up to its `await`. -/
def connect (s : Instance) (state : WebSocketState) : Instance × List Output :=
  ({ s with pending := s.requests :: s.pending, requests := s.requests + 1 },
    [.state state, .getTicket s.requests])

/-- The delay before the attempt after `attempts` earlier ones. With a base of zero it stays zero:
`setTimeout` takes the `NaN` of `0 * Infinity` as zero. -/
def delay (attempts : ℕ) : ℚ≥0 := min (options.baseDelayMs.getD 500 * 2 ^ attempts) 15000

def scheduleReconnect (s : Instance) : Instance × List Output :=
  if options.maxAttempts.getD 5 ≤ s.attempts then (s, [.state .disconnected])
  else
    ({ s with
        attempts := s.attempts + 1
        timer := some s.timers
        armed := s.timers :: s.armed
        timers := s.timers + 1 },
      [.state .reconnecting, .setTimeout s.timers (delay options s.attempts)])

def find (s : Instance) (id : ℕ) : Option Socket := s.sockets.find? fun x => x.id = id

def replace (s : Instance) (x : Socket) : Instance :=
  { s with sockets := s.sockets.map fun y => if y.id = x.id then x else y }

/-- `this.socket?.close(code)`; an exception ends the callback. -/
def closeSocket (s : Instance) (code : Option ℕ) : Instance :=
  match s.socket.bind s.find with
  | none => s
  | some x =>
    match x.close code with
    | none => s
    | some x => s.replace x

def start (s : Instance) : Instance × List Output :=
  if s.stopped = false then (s, [])
  else connect { s with stopped := false, attempts := 0 } .connecting

def stop (s : Instance) : Instance × List Output :=
  let s := { s with
    stopped := true
    armed := match s.timer with
      | none => s.armed
      | some timer => s.armed.erase timer }
  (s.closeSocket (some 1000), [.state .disconnected])

/-- The `catch` of `connect`. -/
def caught (s : Instance) (error : TicketError) : Instance × List Output :=
  if s.stopped then (s, [])
  else if error.Denies then (s, [.state .denied])
  else scheduleReconnect options s

/-- The continuation of `connect` with a ticket. -/
def resolved (s : Instance) (request : ℕ) (ticket : WsTicket) (thrown : Option TicketError) :
    Instance × List Output :=
  if s.stopped then (s, [])
  else match thrown with
    | some error => caught options s error
    | none =>
      ({ s with
          socket := some s.created
          sockets := ⟨s.created, request, ticket.channel, .connecting, false⟩ :: s.sockets
          created := s.created + 1 },
        [.createSocket s.created request ticket])

/-- `onopen` of the socket `x`; `send` throws on a socket that is still connecting. -/
def onopen (s : Instance) (x : Socket) : Instance × List Output :=
  let s := { s.replace { x with readyState := .open, opened := true } with attempts := 0 }
  match s.socket.bind s.find with
  | none => (s, [.state .connected])
  | some y =>
    match y.readyState with
    | .connecting => (s, [])
    | .open => (s, [.subscribe y.id x.channel, .state .connected])
    | .closing => (s, [.state .connected])

/-- `onmessage`. Without `onEnvelope` the data is parsed, but its value is not looked at. -/
def onmessage (s : Instance) (data : MessageData) (throws : Bool) : Instance × List Output :=
  match data, options.onEnvelope with
  | .malformed, _ => (s.closeSocket (some 1008), [.state .denied])
  | _, false => (s, [])
  | data, true =>
    match data.raw.bind (parseIncomingEnvelope z) with
    | some envelope =>
      if throws then (s.closeSocket (some 1008), [.envelope envelope, .state .denied])
      else (s, [.envelope envelope])
    | none => (s.closeSocket (some 1008), [.state .denied])

def onclose (s : Instance) (x : Socket) (code : ℕ) : Instance × List Output :=
  let s := { s with socket := none, sockets := s.sockets.filter fun y => y.id ≠ x.id }
  if s.stopped then (s, [])
  else if code = 1008 ∨ code = 4401 ∨ code = 4403 then (s, [.state .denied])
  else scheduleReconnect options s

/-- One event; `none` where it cannot happen. A socket opens while it connects and receives while
it is open. -/
def step (s : Instance) : Event → Option (Instance × List Output)
  | .start => some s.start
  | .stop => some s.stop
  | .ticketResolved request ticket thrown =>
    if request ∈ s.pending then
      some (resolved options { s with pending := s.pending.erase request } request ticket thrown)
    else none
  | .ticketRejected request error =>
    if request ∈ s.pending then
      some (caught options { s with pending := s.pending.erase request } error)
    else none
  | .timerFired timer =>
    if timer ∈ s.armed then some (connect { s with armed := s.armed.erase timer } .reconnecting)
    else none
  | .opened id => (s.find id).bind fun x =>
    if x.readyState = .connecting then some (s.onopen x) else none
  | .message id data throws => (s.find id).bind fun x =>
    if x.readyState = .open then some (s.onmessage options z data throws) else none
  | .closed id code => (s.find id).map fun x => s.onclose options x code
  | .errored id => (s.find id).map fun _ => (s.closeSocket none, [])

/-! As long as at most one request, timer or socket is in flight, an event does one of the following. -/

/-- At most one thing is in flight, and the fields of the instance name it. -/
structure Single (s : Instance) : Prop where
  alive : s.pending.length + s.armed.length + s.sockets.length ≤ 1
  timer : ∀ t ∈ s.armed, s.timer = some t
  socket : s.socket = s.sockets.head?.map Socket.id
  stopped : s.stopped = true → s.armed = [] ∧ ∀ x ∈ s.sockets, x.readyState = .closing

def Quiescent (s : Instance) : Prop := s.pending = [] ∧ s.sockets = []

/-- Nothing is in flight. -/
def Idle (s : Instance) : Prop := s.pending = [] ∧ s.armed = [] ∧ s.sockets = []

/-- A request or a socket is settled, which leaves nothing in flight. -/
inductive Settles (s : Instance) : Event → Instance → Prop
  | resolved {k ticket thrown} (h : s.pending = [k]) :
      Settles s (.ticketResolved k ticket thrown) { s with pending := [] }
  | rejected {k error} (h : s.pending = [k]) :
      Settles s (.ticketRejected k error) { s with pending := [] }
  | closed {x code} (h : s.sockets = [x]) :
      Settles s (.closed x.id code) { s with socket := none, sockets := [] }

/-- Whether the event is a failure that is met with another attempt. -/
def Retried : Event → Prop
  | .ticketResolved _ _ thrown => ∃ error ∈ thrown, ¬error.Denies
  | .ticketRejected _ error => ¬error.Denies
  | .closed _ code => ¬(code = 1008 ∨ code = 4401 ∨ code = 4403)
  | _ => False

/-- The message makes `onmessage` report `denied`. -/
def Invalid (data : MessageData) (throws : Bool) : Prop :=
  data = .malformed ∨
    options.onEnvelope = true ∧ (data.raw.bind (parseIncomingEnvelope z) = none ∨ throws = true)

inductive Move (s : Instance) : Event → List Output → Instance → Prop
  | ignored (hs : s.stopped = false) : Move s .start [] s
  | started (hs : s.stopped = true) :
      Move s .start [.state .connecting, .getTicket s.requests]
        { s with
          stopped := false
          attempts := 0
          pending := s.requests :: s.pending
          requests := s.requests + 1 }
  | stopped :
      Move s .stop [.state .disconnected]
        { s with
          stopped := true
          armed := []
          sockets := s.sockets.map fun x => { x with readyState := .closing } }
  | dropped {event s₀} (h : Settles s event s₀) (hs : s.stopped = true) : Move s event [] s₀
  | denied {event s₀} (h : Settles s event s₀) (hs : s.stopped = false) (hr : ¬Retried event) :
      Move s event [.state .denied] s₀
  | exhausted {event s₀} (h : Settles s event s₀) (hs : s.stopped = false) (hr : Retried event)
      (hn : options.maxAttempts.getD 5 ≤ s.attempts) : Move s event [.state .disconnected] s₀
  | armed {event s₀} (h : Settles s event s₀) (hs : s.stopped = false) (hr : Retried event)
      (hn : s.attempts < options.maxAttempts.getD 5) :
      Move s event [.state .reconnecting, .setTimeout s.timers (delay options s.attempts)]
        { s₀ with
          attempts := s.attempts + 1
          timer := some s.timers
          armed := [s.timers]
          timers := s.timers + 1 }
  | created {k ticket} (h : s.pending = [k]) (hs : s.stopped = false) :
      Move s (.ticketResolved k ticket none) [.createSocket s.created k ticket]
        { s with
          pending := []
          socket := some s.created
          sockets := [⟨s.created, k, ticket.channel, .connecting, false⟩]
          created := s.created + 1 }
  | fired {t} (h : s.armed = [t]) :
      Move s (.timerFired t) [.state .reconnecting, .getTicket s.requests]
        { s with armed := [], pending := [s.requests], requests := s.requests + 1 }
  | opened {x} (h : s.sockets = [x]) (hx : x.readyState = .connecting) :
      Move s (.opened x.id) [.subscribe x.id x.channel, .state .connected]
        { s with
          attempts := 0
          sockets := [{ x with readyState := .open, opened := true }] }
  | delivered {x data throws} (h : s.sockets = [x]) (hx : x.readyState = .open)
      (hdata : ¬Invalid options z data throws) (envelopes : List IncomingEnvelope) :
      Move s (.message x.id data throws) (envelopes.map .envelope) s
  | refused {x data throws} (h : s.sockets = [x]) (hx : x.readyState = .open)
      (hdata : Invalid options z data throws) (envelopes : List IncomingEnvelope) :
      Move s (.message x.id data throws) (envelopes.map .envelope ++ [.state .denied]) s
  | errored {x} (h : s.sockets = [x]) :
      Move s (.errored x.id) [] { s with sockets := [{ x with readyState := .closing }] }

variable {options z} {s s' s₀ : Instance} {event : Event} {outputs : List Output}

lemma Single.sockets_cases (h : Single s) :
    (s.sockets = [] ∧ s.socket = none) ∨
      ∃ x, s.sockets = [x] ∧ s.socket = some x.id ∧ s.pending = [] ∧ s.armed = [] := by
  have halive := h.alive
  have hsocket := h.socket
  rcases hl : s.sockets with _ | ⟨x, _ | ⟨y, rest⟩⟩
  · left
    rw [hl] at hsocket
    exact ⟨rfl, hsocket⟩
  · right
    rw [hl] at hsocket halive
    simp only [List.length_singleton] at halive
    exact ⟨x, rfl, hsocket, List.length_eq_zero_iff.mp (by omega), List.length_eq_zero_iff.mp (by omega)⟩
  · rw [hl] at halive
    simp only [List.length_cons] at halive
    omega

lemma Single.pending_eq (h : Single s) {k : ℕ} (hk : k ∈ s.pending) :
    s.pending = [k] ∧ s.armed = [] ∧ s.sockets = [] := by
  have halive := h.alive
  rcases hl : s.pending with _ | ⟨j, _ | ⟨j', rest⟩⟩
  · rw [hl] at hk
    cases hk
  · rw [hl] at hk halive
    simp only [List.length_singleton] at halive
    obtain rfl := List.mem_singleton.mp hk
    exact ⟨rfl, List.length_eq_zero_iff.mp (by omega), List.length_eq_zero_iff.mp (by omega)⟩
  · rw [hl] at halive
    simp only [List.length_cons] at halive
    omega

lemma Single.armed_eq (h : Single s) {t : ℕ} (ht : t ∈ s.armed) :
    s.armed = [t] ∧ s.pending = [] ∧ s.sockets = [] := by
  have halive := h.alive
  rcases hl : s.armed with _ | ⟨j, _ | ⟨j', rest⟩⟩
  · rw [hl] at ht
    cases ht
  · rw [hl] at ht halive
    simp only [List.length_singleton] at halive
    obtain rfl := List.mem_singleton.mp ht
    exact ⟨rfl, List.length_eq_zero_iff.mp (by omega), List.length_eq_zero_iff.mp (by omega)⟩
  · rw [hl] at halive
    simp only [List.length_cons] at halive
    omega

/-- A socket that is found is the only one and the current one. -/
lemma Single.find_eq (h : Single s) {id : ℕ} {x : Socket} (hx : s.find id = some x) :
    s.sockets = [x] ∧ s.socket = some x.id ∧ x.id = id ∧ s.pending = [] ∧ s.armed = [] := by
  have hid : x.id = id := by
    have hfound := List.find?_some hx
    simpa using hfound
  have hmem : x ∈ s.sockets := List.mem_of_find?_eq_some hx
  rcases h.sockets_cases with ⟨hnil, -⟩ | ⟨y, hy, hcurrent, hpending, harmed⟩
  · rw [hnil] at hmem
    cases hmem
  · rw [hy, List.mem_singleton] at hmem
    subst hmem
    exact ⟨hy, hcurrent, hid, hpending, harmed⟩

lemma find_singleton {x : Socket} (h : s.sockets = [x]) : s.find x.id = some x := by
  simp [find, h]

/-- The current socket is the only one. -/
def Current (s : Instance) : Prop :=
  (s.sockets = [] ∧ s.socket = none) ∨ ∃ x, s.sockets = [x] ∧ s.socket = some x.id

lemma Single.current (h : Single s) : Current s := by
  rcases h.sockets_cases with hnone | ⟨x, hx, hcurrent, -, -⟩
  · exact .inl hnone
  · exact .inr ⟨x, hx, hcurrent⟩

/-- Closing the only socket with a code that the browser admits. -/
lemma closeSocket_eq (h : Current s) {code : Option ℕ} (hcode : ∀ c ∈ code, c = 1000 ∨ (3000 ≤ c ∧ c ≤ 4999)) :
    s.closeSocket code =
      { s with sockets := s.sockets.map fun x => { x with readyState := .closing } } := by
  rcases h with ⟨hnil, hnone⟩ | ⟨x, hx, hcurrent⟩
  · simp only [closeSocket, hnone, hnil, Option.bind_none, List.map_nil]
    rw [← hnil, ← hnone]
  · simp only [closeSocket, hcurrent, Option.bind_some, find_singleton hx, Socket.close, if_pos hcode,
      replace, hx, List.map_cons, List.map_nil, if_true]

/-- The browser refuses the code with which an invalid message is answered. -/
lemma closeSocket_refused : s.closeSocket (some 1008) = s := by
  unfold closeSocket
  cases s.socket.bind s.find with
  | none => rfl
  | some x => simp [Socket.close]

/-- An invalid message changes nothing, for the browser refuses to close with 1008. -/
lemma onmessage_of_invalid {data : MessageData} {throws : Bool} (h : Invalid options z data throws) :
    ∃ envelopes : List IncomingEnvelope,
      s.onmessage options z data throws = (s, envelopes.map .envelope ++ [.state .denied]) := by
  unfold onmessage
  split
  · exact ⟨[], by rw [closeSocket_refused]; rfl⟩
  · next hnone hcallback =>
    rcases h with h | ⟨h, -⟩
    · exact absurd h hnone
    · rw [h] at hcallback
      cases hcallback
  · next hnone hcallback =>
    split
    · next envelope hparsed =>
      rcases h with h | ⟨-, h | h⟩
      · exact absurd h hnone
      · rw [h] at hparsed
        cases hparsed
      · exact ⟨[envelope], by rw [if_pos h, closeSocket_refused]; rfl⟩
    · exact ⟨[], by rw [closeSocket_refused]; rfl⟩

lemma onmessage_of_valid {data : MessageData} {throws : Bool} (h : ¬Invalid options z data throws) :
    ∃ envelopes : List IncomingEnvelope, s.onmessage options z data throws = (s, envelopes.map .envelope) := by
  unfold onmessage
  split
  · exact absurd (.inl rfl) h
  · exact ⟨[], rfl⟩
  · next hnone hcallback =>
    split
    · next envelope hparsed =>
      have hthrows : ¬throws = true := fun hthrows => h (.inr ⟨hcallback, .inr hthrows⟩)
      exact ⟨[envelope], if_neg hthrows⟩
    · next hparsed => exact absurd (.inr ⟨hcallback, .inl hparsed⟩) h

lemma Settles.fields (h : Settles s event s₀) :
    s₀.attempts = s.attempts ∧ s₀.timers = s.timers ∧ s₀.stopped = s.stopped ∧ s₀.armed = s.armed := by
  cases h <;> exact ⟨rfl, rfl, rfl, rfl⟩

lemma move_scheduleReconnect (h : Settles s event s₀) (hs : s.stopped = false) (hr : Retried event)
    (harmed : s.armed = []) :
    Move options z s event (scheduleReconnect options s₀).2 (scheduleReconnect options s₀).1 := by
  obtain ⟨hattempts, htimers, -, hlist⟩ := h.fields
  unfold scheduleReconnect
  rw [hattempts, htimers, hlist, harmed]
  by_cases hn : options.maxAttempts.getD 5 ≤ s.attempts
  · rw [if_pos hn]
    exact .exhausted h hs hr hn
  · rw [if_neg hn]
    exact .armed h hs hr (Nat.lt_of_not_le hn)

lemma move_caught {error : TicketError} (h : Settles s event s₀) (harmed : s.armed = [])
    (hr : Retried event ↔ ¬error.Denies) :
    Move options z s event (caught options s₀ error).2 (caught options s₀ error).1 := by
  obtain ⟨-, -, hstopped, -⟩ := h.fields
  unfold caught
  rw [hstopped]
  by_cases hs : s.stopped = true
  · rw [if_pos hs]
    exact .dropped h hs
  · rw [if_neg hs]
    have hs := Bool.eq_false_iff.mpr hs
    by_cases hdenied : error.Denies
    · rw [if_pos hdenied]
      exact .denied h hs fun hretried => hr.mp hretried hdenied
    · rw [if_neg hdenied]
      exact move_scheduleReconnect h hs (hr.mpr hdenied) harmed

lemma move_start : Move options z s .start s.start.2 s.start.1 := by
  unfold start
  by_cases hs : s.stopped = false
  · rw [if_pos hs]
    exact .ignored hs
  · rw [if_neg hs]
    exact .started (Bool.eq_true_of_not_eq_false hs)

lemma move_stop (h : Single s) : Move options z s .stop s.stop.2 s.stop.1 := by
  have harmed : (match s.timer with
      | none => s.armed
      | some timer => s.armed.erase timer) = [] := by
    rcases hl : s.armed with _ | ⟨t, rest⟩
    · cases s.timer <;> rfl
    · have ht : t ∈ s.armed := by simp [hl]
      obtain ⟨hone, -, -⟩ := h.armed_eq ht
      rw [h.timer t ht, ← hl, hone]
      simp
  have hcurrent : Current { s with stopped := true, armed := [] } := h.current
  unfold stop
  simp only [harmed]
  rw [closeSocket_eq hcurrent (by simp)]
  exact .stopped

lemma move_resolved {k : ℕ} (h : s.pending = [k]) (harmed : s.armed = []) (hsockets : s.sockets = [])
    (ticket : WsTicket) (thrown : Option TicketError) :
    Move options z s (.ticketResolved k ticket thrown)
      (resolved options { s with pending := [] } k ticket thrown).2
      (resolved options { s with pending := [] } k ticket thrown).1 := by
  have hsettles : Settles s (.ticketResolved k ticket thrown) { s with pending := [] } := .resolved h
  unfold resolved
  by_cases hs : s.stopped = true
  · rw [if_pos hs]
    exact .dropped hsettles hs
  · rw [if_neg hs]
    cases thrown with
    | some error => exact move_caught hsettles harmed (by simp [Retried])
    | none =>
      simp only [hsockets]
      exact .created h (Bool.eq_false_iff.mpr hs)

lemma move_connect {t : ℕ} (h : s.armed = [t]) (hpending : s.pending = []) :
    Move options z s (.timerFired t) (connect { s with armed := [] } .reconnecting).2
      (connect { s with armed := [] } .reconnecting).1 := by
  unfold connect
  simp only [hpending]
  exact .fired h

lemma move_onopen {x : Socket} (h : s.sockets = [x]) (hcurrent : s.socket = some x.id)
    (hx : x.readyState = .connecting) : Move options z s (.opened x.id) (s.onopen x).2 (s.onopen x).1 := by
  have hmove : Move options z s (.opened x.id) _ _ := .opened h hx
  simpa [onopen, replace, h, hcurrent, find] using hmove

lemma move_onmessage {x : Socket} (h : s.sockets = [x]) (hx : x.readyState = .open)
    (data : MessageData) (throws : Bool) :
    Move options z s (.message x.id data throws) (s.onmessage options z data throws).2
      (s.onmessage options z data throws).1 := by
  by_cases hinvalid : Invalid options z data throws
  · obtain ⟨envelopes, hmessage⟩ := onmessage_of_invalid (s := s) hinvalid
    rw [hmessage]
    exact .refused h hx hinvalid envelopes
  · obtain ⟨envelopes, hmessage⟩ := onmessage_of_valid (s := s) hinvalid
    rw [hmessage]
    exact .delivered h hx hinvalid envelopes

lemma move_onclose {x : Socket} (hx : s.sockets = [x]) (harmed : s.armed = []) (code : ℕ) :
    Move options z s (.closed x.id code) (s.onclose options x code).2 (s.onclose options x code).1 := by
  have h : Settles s (.closed x.id code) { s with socket := none, sockets := [] } := .closed hx
  have hfilter : s.sockets.filter (fun y => y.id ≠ x.id) = [] := by simp [hx]
  unfold onclose
  simp only [hfilter]
  by_cases hs : s.stopped = true
  · rw [if_pos hs]
    exact .dropped h hs
  · rw [if_neg hs]
    have hs := Bool.eq_false_iff.mpr hs
    by_cases hcode : code = 1008 ∨ code = 4401 ∨ code = 4403
    · rw [if_pos hcode]
      exact .denied h hs (not_not.mpr hcode)
    · rw [if_neg hcode]
      exact move_scheduleReconnect h hs hcode harmed

/-- What an event does while one chain is in flight. -/
lemma move_of_step (h : Single s) (hstep : s.step options z event = some (s', outputs)) :
    Move options z s event outputs s' := by
  cases event with
  | start =>
    have hmove : Move options z s .start s.start.2 s.start.1 := move_start
    rwa [Option.some.inj hstep] at hmove
  | stop =>
    have hmove : Move options z s .stop s.stop.2 s.stop.1 := move_stop h
    rwa [Option.some.inj hstep] at hmove
  | ticketResolved k ticket thrown =>
    simp only [step] at hstep
    split_ifs at hstep with hk
    obtain ⟨hpending, harmed, hsockets⟩ := h.pending_eq hk
    have herase : s.pending.erase k = [] := by simp [hpending]
    have hmove : Move options z s (.ticketResolved k ticket thrown) _ _ :=
      move_resolved hpending harmed hsockets ticket thrown
    rw [herase] at hstep
    rwa [Option.some.inj hstep] at hmove
  | ticketRejected k error =>
    simp only [step] at hstep
    split_ifs at hstep with hk
    obtain ⟨hpending, harmed, -⟩ := h.pending_eq hk
    have herase : s.pending.erase k = [] := by simp [hpending]
    have hmove : Move options z s (.ticketRejected k error) _ _ :=
      move_caught (.rejected hpending) harmed Iff.rfl
    rw [herase] at hstep
    rwa [Option.some.inj hstep] at hmove
  | timerFired t =>
    simp only [step] at hstep
    split_ifs at hstep with ht
    obtain ⟨harmed, hpending, -⟩ := h.armed_eq ht
    have herase : s.armed.erase t = [] := by simp [harmed]
    have hmove : Move options z s (.timerFired t) _ _ := move_connect harmed hpending
    rw [herase] at hstep
    rwa [Option.some.inj hstep] at hmove
  | opened id =>
    obtain ⟨x, hx, hopen⟩ := Option.bind_eq_some_iff.mp hstep
    split_ifs at hopen with hready
    obtain ⟨hsockets, hcurrent, rfl, -, -⟩ := h.find_eq hx
    have hmove : Move options z s (.opened x.id) _ _ := move_onopen hsockets hcurrent hready
    rwa [Option.some.inj hopen] at hmove
  | message id data throws =>
    obtain ⟨x, hx, hmessage⟩ := Option.bind_eq_some_iff.mp hstep
    split_ifs at hmessage with hready
    obtain ⟨hsockets, -, rfl, -, -⟩ := h.find_eq hx
    have hmove : Move options z s (.message x.id data throws) _ _ :=
      move_onmessage hsockets hready data throws
    rwa [Option.some.inj hmessage] at hmove
  | closed id code =>
    obtain ⟨x, hx, hclose⟩ := Option.map_eq_some_iff.mp hstep
    obtain ⟨hsockets, -, rfl, -, harmed⟩ := h.find_eq hx
    have hmove : Move options z s (.closed x.id code) _ _ := move_onclose hsockets harmed code
    rwa [hclose] at hmove
  | errored id =>
    obtain ⟨x, hx, herror⟩ := Option.map_eq_some_iff.mp hstep
    obtain ⟨hsockets, -, rfl, -, -⟩ := h.find_eq hx
    rw [closeSocket_eq h.current (by simp), hsockets] at herror
    obtain ⟨rfl, rfl⟩ := Prod.mk.inj herror
    exact .errored hsockets

lemma Settles.single (hsettles : Settles s event s₀) (h : Single s) :
    Single s₀ ∧ Idle s₀ ∧ s.armed = [] := by
  cases hsettles with
  | @resolved k _ _ hp =>
    obtain ⟨-, harmed, hsockets⟩ := h.pending_eq (show k ∈ s.pending by simp [hp])
    exact ⟨⟨by simp [harmed, hsockets], h.timer, h.socket, h.stopped⟩, ⟨rfl, harmed, hsockets⟩, harmed⟩
  | @rejected k _ hp =>
    obtain ⟨-, harmed, hsockets⟩ := h.pending_eq (show k ∈ s.pending by simp [hp])
    exact ⟨⟨by simp [harmed, hsockets], h.timer, h.socket, h.stopped⟩, ⟨rfl, harmed, hsockets⟩, harmed⟩
  | @closed x _ hx =>
    obtain ⟨-, -, -, hpending, harmed⟩ := h.find_eq (find_singleton hx)
    refine ⟨⟨by simp [hpending, harmed], h.timer, rfl, fun hs => ?_⟩, ⟨hpending, harmed, rfl⟩, harmed⟩
    exact ⟨harmed, nofun⟩

/-- An event leaves one chain, when no earlier one is in flight at a start. -/
lemma Move.single (m : Move options z s event outputs s') (h : Single s)
    (hstart : event = .start → s.stopped = true → Quiescent s) : Single s' := by
  cases m with
  | ignored _ => exact h
  | started hs =>
    obtain ⟨hpending, hsockets⟩ := hstart rfl hs
    obtain ⟨harmed, -⟩ := h.stopped hs
    exact ⟨by simp [hpending, hsockets, harmed], h.timer, h.socket, nofun⟩
  | stopped =>
    have halive := h.alive
    refine ⟨by simp only [List.length_nil, List.length_map]; omega, nofun, ?_, fun _ => ⟨rfl, by simp⟩⟩
    rw [h.socket, List.head?_map, Option.map_map]
    rfl
  | dropped hsettles _ => exact (hsettles.single h).1
  | denied hsettles _ _ => exact (hsettles.single h).1
  | exhausted hsettles _ _ _ => exact (hsettles.single h).1
  | armed hsettles hs _ _ =>
    obtain ⟨hsingle, ⟨hpending, -, hsockets⟩, -⟩ := hsettles.single h
    obtain ⟨-, -, hstopped, -⟩ := hsettles.fields
    have hsocket := hsingle.socket
    rw [hsockets] at hsocket
    refine ⟨by simp [hpending, hsockets], by simp, by simp [hsockets, hsocket], fun hs' => ?_⟩
    rw [hstopped, hs] at hs'
    cases hs'
  | @created k ticket hp hs =>
    obtain ⟨-, harmed, -⟩ := h.pending_eq (show k ∈ s.pending by simp [hp])
    refine ⟨by simp [harmed], h.timer, rfl, fun hs' => ?_⟩
    rw [hs] at hs'
    cases hs'
  | @fired t ht =>
    obtain ⟨-, -, hsockets⟩ := h.armed_eq (show t ∈ s.armed by simp [ht])
    refine ⟨by simp [hsockets], nofun, h.socket, fun hs => ?_⟩
    obtain ⟨harmed, -⟩ := h.stopped hs
    rw [ht] at harmed
    cases harmed
  | @opened x hx hready =>
    obtain ⟨-, hcurrent, -, hpending, harmed⟩ := h.find_eq (find_singleton hx)
    refine ⟨by simp [hpending, harmed], h.timer, hcurrent, fun hs => ?_⟩
    obtain ⟨-, hclosing⟩ := h.stopped hs
    rw [hclosing x (by simp [hx])] at hready
    cases hready
  | delivered _ _ _ => exact h
  | refused _ _ _ _ => exact h
  | @errored x hx =>
    obtain ⟨-, hcurrent, -, hpending, harmed⟩ := h.find_eq (find_singleton hx)
    exact ⟨by simp [hpending, harmed], h.timer, hcurrent, fun _ => ⟨harmed, by simp⟩⟩

lemma single_init : Single .init := ⟨by simp [Instance.init], nofun, rfl, fun _ => ⟨rfl, nofun⟩⟩

end Instance

/-- One event of a run, with the instance before and after. -/
structure Entry where
  before : Instance
  event : Event
  outputs : List Output
  after : Instance

/-- The runs of an instance, the latest event first. -/
inductive Run (options : SocketOptions) (z : Zod) : List Entry → Instance → Prop
  | init : Run options z [] .init
  | step {history s event s' outputs} (h : Run options z history s)
      (hstep : s.step options z event = some (s', outputs)) :
      Run options z (⟨s, event, outputs, s'⟩ :: history) s'

end Pentagon5.Client
