import Mathlib.Data.List.Range
import Mathlib.Tactic.Linarith
import Pentagon5.Client.ReconnectingWebSocket

/-!
# Runs of `ReconnectingWebSocket`

A run keeps one chain exactly if it never starts while a ticket request is pending or a socket is
not closed. With one chain, a stopped instance stays silent, a denied one does as long as no
message was invalid, and a failure streak counts each failure once.
-/

namespace Pentagon5.Client

open Python Instance

variable {options : SocketOptions} {z : Zod} {history : List Entry} {s : Instance}

/-- The run that the events make, started from `history` and `s`. -/
def play (options : SocketOptions) (z : Zod) :
    List Event → List Entry → Instance → Option (List Entry × Instance)
  | [], history, s => some (history, s)
  | event :: events, history, s =>
    match s.step options z event with
    | none => none
    | some (s', outputs) => play options z events (⟨s, event, outputs, s'⟩ :: history) s'

lemma run_play {events : List Event} {history' : List Entry} {s' : Instance}
    (h : Run options z history s) (hplay : play options z events history s = some (history', s')) :
    Run options z history' s' := by
  induction events generalizing history s with
  | nil =>
    obtain ⟨rfl, rfl⟩ := Prod.mk.inj (Option.some.inj hplay)
    exact h
  | cons event events ih =>
    rw [play] at hplay
    cases hstep : s.step options z event with
    | none =>
      rw [hstep] at hplay
      cases hplay
    | some r =>
      rw [hstep] at hplay
      exact ih (h.step hstep) hplay

lemma Run.last {e : Entry} (h : Run options z (e :: history) s) :
    Run options z history e.before ∧ e.before.step options z e.event = some (e.after, e.outputs) ∧
      s = e.after := by
  cases h with
  | step h hstep => exact ⟨h, hstep, rfl⟩

lemma Run.older {newer : List Entry} {e : Entry} (h : Run options z (newer ++ e :: history) s) :
    Run options z (e :: history) e.after := by
  induction newer generalizing s with
  | nil =>
    obtain ⟨hbefore, hstep, -⟩ := h.last
    exact hbefore.step hstep
  | cons newest newer ih => exact ih h.last.1

/-- Every start that takes effect finds nothing in flight. -/
def CleanStarts (history : List Entry) : Prop :=
  ∀ e ∈ history, e.event = .start → e.before.stopped = true → Quiescent e.before

lemma Run.single (h : Run options z history s) (hclean : CleanStarts history) : Single s := by
  induction h with
  | init => exact single_init
  | @step history s event s' outputs _ hstep ih =>
    have hs := ih fun e he => hclean e (List.mem_cons_of_mem _ he)
    exact (move_of_step hs hstep).single hs (hclean ⟨s, event, outputs, s'⟩ List.mem_cons_self)

/-- The latest event of a run with clean starts. -/
lemma Run.move {e : Entry} (h : Run options z (e :: history) s) (hclean : CleanStarts (e :: history)) :
    Single e.before ∧ Move options z e.before e.event e.outputs e.after := by
  obtain ⟨hbefore, hstep, -⟩ := h.last
  have hs := hbefore.single fun e' he => hclean e' (List.mem_cons_of_mem _ he)
  exact ⟨hs, move_of_step hs hstep⟩

/-- What every admitted event keeps still holds after any number of them. -/
lemma Run.keeps {P : Instance → Prop} {A : Entry → Prop}
    (hkeep : ∀ e : Entry, Single e.before → P e.before → A e →
      Move options z e.before e.event e.outputs e.after → P e.after)
    {between : List Entry} {e : Entry} (h : Run options z (between ++ e :: history) s)
    (hclean : CleanStarts (between ++ e :: history)) (hP : P e.after) (hA : ∀ m ∈ between, A m) :
    P s := by
  induction between generalizing s with
  | nil =>
    obtain ⟨-, -, rfl⟩ := h.last
    exact hP
  | cons m between ih =>
    obtain ⟨hbefore, -, rfl⟩ := h.last
    obtain ⟨hs, hmove⟩ := h.move hclean
    have hm := ih hbefore (fun e' he => hclean e' (List.mem_cons_of_mem _ he))
      fun e' he => hA e' (List.mem_cons_of_mem _ he)
    exact hkeep m hs hm (hA m List.mem_cons_self) hmove

/-- The requests that will still open a socket, the armed timers and the sockets not yet closed. -/
def Instance.live (s : Instance) : ℕ :=
  (if s.stopped then 0 else s.pending.length) + s.armed.length + s.sockets.length

/-- Nothing but reports of `disconnected`. -/
def Quiet (outputs : List Output) : Prop := ∀ o ∈ outputs, o = .state .disconnected

/-- At most one chain is alive at every moment, and after a stop nothing comes until a start. -/
structure OneChain (history : List Entry) : Prop where
  alone : ∀ e ∈ history, e.after.live ≤ 1
  silent : ∀ newer l between e older, history = newer ++ l :: (between ++ e :: older) →
    e.event = .stop → (∀ m ∈ l :: between, m.event ≠ .start) → Quiet l.outputs

lemma live_le_of_single (h : Single s) : s.live ≤ 1 := by
  have halive := h.alive
  unfold live
  split <;> omega

/-- A stopped instance stays stopped and silent. -/
lemma move_of_stopped {event : Event} {outputs : List Output} {s' : Instance} (h : Single s)
    (hs : s.stopped = true) (m : Move options z s event outputs s') (hevent : event ≠ .start) :
    s'.stopped = true ∧ Quiet outputs := by
  obtain ⟨harmed, hclosing⟩ := h.stopped hs
  cases m with
  | ignored _ => exact absurd rfl hevent
  | started _ => exact absurd rfl hevent
  | stopped => exact ⟨rfl, by simp [Quiet]⟩
  | dropped hsettles _ =>
    obtain ⟨-, -, hstopped, -⟩ := hsettles.fields
    exact ⟨hstopped.trans hs, nofun⟩
  | denied _ hnot _ => cases hs.symm.trans hnot
  | exhausted _ hnot _ _ => cases hs.symm.trans hnot
  | armed _ hnot _ _ => cases hs.symm.trans hnot
  | created _ hnot => cases hs.symm.trans hnot
  | fired ht =>
    rw [ht] at harmed
    cases harmed
  | @opened x hx hready =>
    rw [hclosing x (by simp [hx])] at hready
    cases hready
  | @delivered x _ _ hx hready _ _ =>
    rw [hclosing x (by simp [hx])] at hready
    cases hready
  | @refused x _ _ hx hready _ _ =>
    rw [hclosing x (by simp [hx])] at hready
    cases hready
  | errored _ => exact ⟨hs, nofun⟩

lemma stopped_of_stop {event : Event} {outputs : List Output} {s' : Instance}
    (m : Move options z s event outputs s') (hevent : event = .stop) : s'.stopped = true := by
  cases m with
  | stopped => rfl
  | ignored _ => cases hevent
  | started _ => cases hevent
  | dropped h _ => cases h <;> cases hevent
  | denied h _ _ => cases h <;> cases hevent
  | exhausted h _ _ _ => cases h <;> cases hevent
  | armed h _ _ _ => cases h <;> cases hevent
  | created _ _ => cases hevent
  | fired _ => cases hevent
  | opened _ _ => cases hevent
  | delivered _ _ _ _ => cases hevent
  | refused _ _ _ _ => cases hevent
  | errored _ => cases hevent

/-- A start beside something in flight leaves two chains alive. -/
lemma quiescent_of_live {e : Entry} (hstep : e.before.step options z e.event = some (e.after, e.outputs))
    (hevent : e.event = .start) (hs : e.before.stopped = true) (hlive : e.after.live ≤ 1) :
    Quiescent e.before := by
  rw [hevent] at hstep
  have hstart : e.before.start = (e.after, e.outputs) := Option.some.inj hstep
  have hafter : e.after = (connect { e.before with stopped := false, attempts := 0 } .connecting).1 := by
    have hfst : e.after = e.before.start.1 := (congrArg Prod.fst hstart).symm
    rw [hfst, start, if_neg (by simp [hs])]
  rw [hafter] at hlive
  simp only [connect, live, Bool.false_eq_true, if_false, List.length_cons] at hlive
  exact ⟨List.length_eq_zero_iff.mp (by omega), List.length_eq_zero_iff.mp (by omega)⟩

/-- A run keeps one chain exactly if each start that takes effect finds no ticket request pending
and every socket closed. -/
theorem oneChain_iff (h : Run options z history s) : OneChain history ↔ CleanStarts history := by
  constructor
  · intro hone e he hevent hs
    obtain ⟨newer, older, rfl⟩ := List.append_of_mem he
    obtain ⟨-, hstep, -⟩ := h.older.last
    exact quiescent_of_live hstep hevent hs (hone.alone e he)
  · intro hclean
    refine ⟨fun e he => ?_, ?_⟩
    · obtain ⟨newer, older, rfl⟩ := List.append_of_mem he
      have hsingle := h.older.single fun e' he' => hclean e' (List.mem_append_right newer he')
      exact live_le_of_single hsingle
    · rintro newer l between e older rfl hstop hnone
      have hcl : CleanStarts (l :: (between ++ e :: older)) :=
        fun e' he' => hclean e' (List.mem_append_right newer he')
      have hce : CleanStarts (between ++ e :: older) := fun e' he' => hcl e' (List.mem_cons_of_mem _ he')
      obtain ⟨hsingle, hmove⟩ := h.older.move hcl
      obtain ⟨hbefore, -, -⟩ := h.older.last
      obtain ⟨-, hmoveStop⟩ := hbefore.older.move fun e' he' => hce e' (List.mem_append_right between he')
      have hstopped : l.before.stopped = true := by
        refine hbefore.keeps (P := fun s => s.stopped = true) (A := fun m => m.event ≠ .start) ?_ hce
          (stopped_of_stop hmoveStop hstop) fun m hm => hnone m (List.mem_cons_of_mem _ hm)
        exact fun m hm hs hok hmove => (move_of_stopped hm hs hmove hok).1
      exact (move_of_stopped hsingle hstopped hmove (hnone l List.mem_cons_self)).2

namespace Replay

def defaults : SocketOptions := ⟨true, none, none⟩

/-- No timestamp is read in these runs. -/
def zod : Zod := ⟨fun _ => true⟩

def ticket : WsTicket := ⟨"t", .systemHealth, "wss://api.example.test/v1/ws/system.health"⟩

/-- A run of events on a fresh instance. -/
def replay (events : List Event) : List Entry :=
  ((play defaults zod events [] .init).map Prod.fst).getD []

/-- The instance after it. -/
def final (events : List Event) : Instance :=
  ((play defaults zod events [] .init).map Prod.snd).getD .init

lemma run_replay {events : List Event} (h : (play defaults zod events [] .init).isSome = true) :
    Run defaults zod (replay events) (final events) := by
  obtain ⟨⟨history, s⟩, hplay⟩ := Option.isSome_iff_exists.mp h
  have hrun : Run defaults zod history s := run_play .init hplay
  simpa [replay, final, hplay] using hrun

/-- One connection that is stopped. -/
def session : List Event :=
  [.start, .ticketResolved 0 ticket none, .opened 0, .stop, .closed 0 1000]

theorem oneChain_session : OneChain (replay session) := by
  have hrun : Run defaults zod (replay session) (final session) := run_replay rfl
  have hclean : CleanStarts (replay session) :=
    List.forall_iff_forall_mem.mp ⟨nofun, nofun, nofun, nofun, fun _ _ => ⟨rfl, rfl⟩⟩
  exact (oneChain_iff hrun).mpr hclean

/-- Stopped and started again while the first ticket request is pending. -/
def overlap : List Event :=
  [.start, .stop, .start, .ticketResolved 0 ticket none, .ticketResolved 1 ticket none]

/-- Both requests open a socket. -/
theorem not_oneChain_overlap :
    Run defaults zod (replay overlap) (final overlap) ∧ ¬OneChain (replay overlap) := by
  refine ⟨run_replay rfl, fun hone => ?_⟩
  have hlive := hone.alone _ List.mem_cons_self
  revert hlive
  decide

end Replay

/-- After `denied` comes nothing but reports of `disconnected`, until a start. -/
structure DeniedIsTerminal (history : List Entry) : Prop where
  last : ∀ e ∈ history, ∀ before after, e.outputs = before ++ .state .denied :: after → Quiet after
  silent : ∀ newer l between e older, history = newer ++ l :: (between ++ e :: older) →
    .state .denied ∈ e.outputs → (∀ m ∈ l :: between, m.event ≠ .start) → Quiet l.outputs

/-- No message is text that is not JSON, and if there is an `onEnvelope`, every message is an envelope
that it takes without an exception. -/
def Accepted (options : SocketOptions) (z : Zod) (history : List Entry) : Prop :=
  ∀ e ∈ history, ∀ socket data throws, e.event = .message socket data throws →
    ¬Invalid options z data throws

/-- With messages that are accepted, `denied` is the only output of its event and leaves nothing in
flight. -/
lemma idle_of_denied {event : Event} {outputs : List Output} {s' : Instance} (hs : Single s)
    (m : Move options z s event outputs s')
    (haccepted : ∀ socket data throws, event = .message socket data throws →
      ¬Invalid options z data throws)
    (hdenied : .state .denied ∈ outputs) : outputs = [.state .denied] ∧ Idle s' := by
  cases m with
  | denied hsettles _ _ => exact ⟨rfl, (hsettles.single hs).2.1⟩
  | refused _ _ hdata _ => exact absurd hdata (haccepted _ _ _ rfl)
  | ignored _ => simp at hdenied
  | started _ => simp at hdenied
  | stopped => simp at hdenied
  | dropped _ _ => simp at hdenied
  | exhausted _ _ _ _ => simp at hdenied
  | armed _ _ _ _ => simp at hdenied
  | created _ _ => simp at hdenied
  | fired _ => simp at hdenied
  | opened _ _ => simp at hdenied
  | delivered _ _ _ _ => simp at hdenied
  | errored _ => simp at hdenied

lemma not_settles_of_idle {event : Event} {s₀ : Instance} (h : Idle s) : ¬Settles s event s₀ := by
  obtain ⟨hpending, -, hsockets⟩ := h
  intro hsettles
  cases hsettles with
  | resolved hp => simp [hpending] at hp
  | rejected hp => simp [hpending] at hp
  | closed hx => simp [hsockets] at hx

/-- With nothing in flight nothing happens until a start. -/
lemma move_of_idle {event : Event} {outputs : List Output} {s' : Instance} (h : Idle s)
    (m : Move options z s event outputs s') (hevent : event ≠ .start) : Idle s' ∧ Quiet outputs := by
  obtain ⟨hpending, harmed, hsockets⟩ := id h
  cases m with
  | ignored _ => exact absurd rfl hevent
  | started _ => exact absurd rfl hevent
  | stopped => exact ⟨⟨hpending, rfl, by simp [hsockets]⟩, by simp [Quiet]⟩
  | dropped hsettles _ => exact absurd hsettles (not_settles_of_idle h)
  | denied hsettles _ _ => exact absurd hsettles (not_settles_of_idle h)
  | exhausted hsettles _ _ _ => exact absurd hsettles (not_settles_of_idle h)
  | armed hsettles _ _ _ => exact absurd hsettles (not_settles_of_idle h)
  | created hp _ => simp [hpending] at hp
  | fired ht => simp [harmed] at ht
  | opened hx _ => simp [hsockets] at hx
  | delivered hx _ _ _ => simp [hsockets] at hx
  | refused hx _ _ _ => simp [hsockets] at hx
  | errored hx => simp [hsockets] at hx

/-- From an instance with nothing in flight nothing happens until a start. -/
lemma Run.quiet {l e : Entry} {between older : List Entry}
    (h : Run options z (l :: (between ++ e :: older)) s)
    (hclean : CleanStarts (l :: (between ++ e :: older))) (hidle : Idle e.after)
    (hnone : ∀ m ∈ l :: between, m.event ≠ .start) : Quiet l.outputs := by
  obtain ⟨hbefore, -, -⟩ := h.last
  obtain ⟨-, hmove⟩ := h.move hclean
  have hidle' : Idle l.before := by
    refine hbefore.keeps (A := fun m => m.event ≠ .start) ?_
      (fun m hm => hclean m (List.mem_cons_of_mem _ hm)) hidle
      fun m hm => hnone m (List.mem_cons_of_mem _ hm)
    exact fun m _ hm hok hmove => (move_of_idle hm hmove hok).1
  exact (move_of_idle hidle' hmove (hnone l List.mem_cons_self)).2

/-- `denied` is terminal in a run that keeps one chain and receives no invalid message. -/
theorem deniedIsTerminal (h : Run options z history s) (hclean : CleanStarts history)
    (haccepted : Accepted options z history) : DeniedIsTerminal history := by
  have hdenied : ∀ newer e older, history = newer ++ e :: older → .state .denied ∈ e.outputs →
      e.outputs = [.state .denied] ∧ Idle e.after := by
    rintro newer e older rfl hmem
    obtain ⟨hsingle, hmove⟩ := h.older.move fun m hm => hclean m (List.mem_append_right newer hm)
    exact idle_of_denied hsingle hmove (haccepted e (by simp)) hmem
  refine ⟨fun e he before after houtputs => ?_, ?_⟩
  · obtain ⟨newer, older, hsplit⟩ := List.append_of_mem he
    obtain ⟨honly, -⟩ := hdenied newer e older hsplit (by simp [houtputs])
    rw [houtputs, List.append_eq_singleton_iff] at honly
    rcases honly with ⟨-, hcons⟩ | ⟨-, hnil⟩
    · obtain ⟨-, rfl⟩ := List.cons.inj hcons
      exact nofun
    · cases hnil
  · rintro newer l between e older rfl hmem hnone
    have hsplit : newer ++ l :: (between ++ e :: older) = (newer ++ l :: between) ++ e :: older := by
      simp
    obtain ⟨-, hidle⟩ := hdenied _ e older hsplit hmem
    exact h.older.quiet (fun m hm => hclean m (List.mem_append_right newer hm)) hidle hnone

lemma denied_of_invalid {data : MessageData} {throws : Bool} (hinvalid : Invalid options z data throws) :
    .state .denied ∈ (s.onmessage options z data throws).2 := by
  obtain ⟨envelopes, hmessage⟩ := onmessage_of_invalid (s := s) hinvalid
  rw [hmessage]
  exact List.mem_append_right _ (List.mem_singleton_self _)

lemma open_of_message {socket : ℕ} {data : MessageData} {throws : Bool} {outputs : List Output}
    {s' : Instance} (m : Move options z s (.message socket data throws) outputs s') :
    ∃ x, s'.sockets = [x] ∧ x.readyState = .open ∧ x.id = socket := by
  cases m with
  | refused hx hready _ _ => exact ⟨_, hx, hready, rfl⟩
  | delivered hx hready _ _ => exact ⟨_, hx, hready, rfl⟩
  | dropped hsettles _ => cases hsettles
  | denied hsettles _ _ => cases hsettles
  | exhausted hsettles _ _ _ => cases hsettles
  | armed hsettles _ _ _ => cases hsettles

/-- An invalid message leaves the socket open, and the next one is reported again. -/
theorem denied_again {e : Entry} {socket : ℕ} {data : MessageData} {throws : Bool}
    (h : Run options z (e :: history) s) (hclean : CleanStarts (e :: history))
    (hevent : e.event = .message socket data throws)
    (hinvalid : Invalid options z data throws) :
    ∃ l s', Run options z (l :: e :: history) s' ∧ l.event = e.event ∧
      .state .denied ∈ l.outputs := by
  obtain ⟨-, -, rfl⟩ := h.last
  obtain ⟨-, hmove⟩ := h.move hclean
  obtain ⟨before, event, outputs, s⟩ := e
  subst hevent
  obtain ⟨x, hx, hready, rfl⟩ := open_of_message hmove
  have hstep : s.step options z (.message x.id data throws) = some (s.onmessage options z data throws) := by
    simp [step, find_singleton hx, hready]
  exact ⟨_, _, h.step hstep, rfl, denied_of_invalid hinvalid⟩

namespace Replay

/-- A ticket request that is answered with 401. -/
def unauthorised : List Event := [.start, .ticketRejected 0 (.apiClientError 401), .stop]

theorem deniedIsTerminal_unauthorised : DeniedIsTerminal (replay unauthorised) := by
  have hclean : CleanStarts (replay unauthorised) :=
    List.forall_iff_forall_mem.mp ⟨nofun, nofun, fun _ _ => ⟨rfl, rfl⟩⟩
  have haccepted : Accepted defaults zod (replay unauthorised) :=
    List.forall_iff_forall_mem.mp ⟨nofun, nofun, nofun⟩
  exact deniedIsTerminal (run_replay rfl) hclean haccepted

/-- Data that is not JSON text, then a close of the peer. -/
def garbage : List Event :=
  [.start, .ticketResolved 0 ticket none, .opened 0, .message 0 .malformed false, .closed 0 1006]

/-- The instance reports `denied` and then connects again. -/
theorem not_deniedIsTerminal_garbage :
    Run defaults zod (replay garbage) (final garbage) ∧ ¬DeniedIsTerminal (replay garbage) := by
  refine ⟨run_replay rfl, fun hterminal => ?_⟩
  have hquiet := hterminal.silent [] _ [] _ _ rfl (by decide) (by simp)
  exact absurd (hquiet (.state .reconnecting) (by decide)) (by decide)

end Replay

end Pentagon5.Client
