import Mathlib.Algebra.Order.Ring.NNRat
import Mathlib.Data.List.Nodup
import Pentagon5.Proofs.Reconnecting

/-!
# Failure streaks

A run with one start. What it did since its latest open, or since its beginning, is its failure
streak. Each attempt of the run requests a ticket of its own and ends once.
-/

namespace Pentagon5.Client

open Python Instance

variable {options : SocketOptions} {z : Zod} {history : List Entry} {s s' s₀ : Instance}
variable {event : Event} {outputs : List Output}

/-- An attempt begins with the request of its ticket. -/
def Output.attempt? : Output → Option ℕ
  | .getTicket request => some request
  | _ => none

def Output.delay? : Output → Option ℚ≥0
  | .setTimeout _ delay => some delay
  | _ => none

/-- The request whose ticket a new socket uses. -/
def Output.ticket? : Output → Option ℕ
  | .createSocket _ request _ => some request
  | _ => none

def Event.isStart : Event → Bool
  | .start => true
  | _ => false

def Event.isOpened : Event → Bool
  | .opened _ => true
  | _ => false

section Collect

variable {β : Type} (f : Output → Option β)

/-- What the outputs of a run show, oldest first. -/
def collect (history : List Entry) : List β :=
  history.reverse.flatMap fun e => e.outputs.filterMap f

@[simp] lemma collect_nil : collect f [] = [] := rfl

@[simp] lemma collect_cons (e : Entry) :
    collect f (e :: history) = collect f history ++ e.outputs.filterMap f := by
  simp [collect]

end Collect

/-- The events since the latest open, or since the beginning. -/
def streak (history : List Entry) : List Entry := history.takeWhile fun e => !e.event.isOpened

lemma streak_cons (e : Entry) :
    streak (e :: history) = if e.event.isOpened then [] else e :: streak history := by
  unfold streak
  rw [List.takeWhile_cons]
  cases e.event.isOpened <;> rfl

/-- The attempt of the request `k` waits for its ticket or for its socket to open. -/
def InProgress (s : Instance) (k : ℕ) : Prop :=
  k ∈ s.pending ∨ ∃ x ∈ s.sockets, x.request = k ∧ x.opened = false

instance (s : Instance) : DecidablePred (InProgress s) := fun _ => inferInstanceAs (Decidable (_ ∨ _))

def Ends (k : ℕ) (e : Entry) : Prop := InProgress e.before k ∧ ¬InProgress e.after k

instance (k : ℕ) : DecidablePred (Ends k) := fun _ => inferInstanceAs (Decidable (_ ∧ _))

inductive Outcome where
  | liveSocket
  | armedTimer
  | terminalReport
  | abandoned

/-- How the event ends the attempt `k`. -/
def Outcome.Of (e : Entry) (k : ℕ) : Outcome → Prop
  | .liveSocket => ∃ x ∈ e.after.sockets, x.request = k ∧ x.readyState = .open
  | .armedTimer => ∃ t, e.after.armed = [t]
  | .terminalReport => .state .denied ∈ e.outputs ∨ .state .disconnected ∈ e.outputs
  | .abandoned => e.before.stopped = true

/-- What holds at every moment of a run with one start. -/
structure Bounded (options : SocketOptions) (history : List Entry) (s : Instance) : Prop where
  attempts : (collect Output.attempt? (streak history)).length ≤ options.maxAttempts.getD 5 + 1
  delays : ∃ armed ≤ options.maxAttempts.getD 5, collect Output.delay? (streak history) =
    (List.range armed).map fun i => min (options.baseDelayMs.getD 500 * 2 ^ i) 15000
  nondecreasing : (collect Output.delay? (streak history)).Pairwise (· ≤ ·)
  atMost : ∀ d ∈ collect Output.delay? (streak history), d ≤ 15000
  fresh : collect Output.attempt? history = List.range s.requests
  own : ∀ e ∈ history, ∀ socket k ticket, .createSocket socket k ticket ∈ e.outputs →
    e.event = .ticketResolved k ticket none
  unused : (collect Output.ticket? history).Nodup
  ended : ∀ k ∈ collect Output.attempt? history,
    history.countP (fun e => Ends k e) = if InProgress s k then 0 else 1
  outcome : ∀ e ∈ history, ∀ k, Ends k e → ∃! o : Outcome, o.Of e k
  exhausted : ∀ newer e older, history = newer ++ e :: older → e.before.stopped = false →
    Retried e.event →
    let armed := (collect Output.delay? (streak older)).length
    if armed < options.maxAttempts.getD 5 then
      e.outputs = [.state .reconnecting, .setTimeout e.before.timers (delay options armed)]
    else e.outputs = [.state .disconnected] ∧ ∀ l ∈ newer, Quiet l.outputs

/-- `start` is called at most once. -/
def Once (history : List Entry) : Prop := history.countP (fun e => e.event.isStart) ≤ 1

lemma ne_start_of_countP {e : Entry} (h : history.countP (fun e => e.event.isStart) = 0)
    (he : e ∈ history) : e.event ≠ .start := by
  intro hevent
  have hnot := List.countP_eq_zero.mp h e he
  simp [hevent, Event.isStart] at hnot

/-- Nothing has happened to the instance yet but stops. -/
structure Untouched (s : Instance) : Prop where
  idle : Idle s
  stopped : s.stopped = true
  attempts : s.attempts = 0
  requests : s.requests = 0

lemma untouched_of_move (m : Move options z s event outputs s') (h : Untouched s)
    (hevent : event ≠ .start) : Untouched s' ∧ Quiet outputs := by
  obtain ⟨hidle, hquiet⟩ := move_of_idle h.idle m hevent
  refine ⟨?_, hquiet⟩
  cases m with
  | ignored _ => exact h
  | started _ => exact absurd rfl hevent
  | stopped => exact ⟨hidle, rfl, h.attempts, h.requests⟩
  | dropped hsettles _ => exact absurd hsettles (not_settles_of_idle h.idle)
  | denied hsettles _ _ => exact absurd hsettles (not_settles_of_idle h.idle)
  | exhausted hsettles _ _ _ => exact absurd hsettles (not_settles_of_idle h.idle)
  | armed hsettles _ _ _ => exact absurd hsettles (not_settles_of_idle h.idle)
  | created hp _ => exact absurd hp (by simp [h.idle.1])
  | fired ht => exact absurd ht (by simp [h.idle.2.1])
  | opened hx _ => exact absurd hx (by simp [h.idle.2.2])
  | delivered _ _ _ _ => exact h
  | refused _ _ _ _ => exact h
  | errored hx => exact absurd hx (by simp [h.idle.2.2])

/-- Before its start a run has requested nothing, and it reports nothing but `disconnected`. -/
lemma Run.untouched (h : Run options z history s)
    (hnone : history.countP (fun e => e.event.isStart) = 0) :
    Untouched s ∧ ∀ e ∈ history, Quiet e.outputs := by
  have hclean : CleanStarts history := fun e he hevent =>
    absurd hevent (ne_start_of_countP hnone he)
  induction h with
  | init => exact ⟨⟨⟨rfl, rfl, rfl⟩, rfl, rfl, rfl⟩, fun e he => absurd he List.not_mem_nil⟩
  | @step history s event s' outputs h hstep ih =>
    have hevent : event ≠ .start := ne_start_of_countP hnone List.mem_cons_self
    have hcount : history.countP (fun e => e.event.isStart) = 0 := by
      rw [List.countP_cons] at hnone
      omega
    obtain ⟨hs, hquiet⟩ := ih hcount fun e he => hclean e (List.mem_cons_of_mem _ he)
    obtain ⟨-, hmove⟩ := (h.step hstep).move hclean
    obtain ⟨hs', houtputs⟩ := untouched_of_move hmove hs hevent
    refine ⟨hs', fun e he => ?_⟩
    rcases List.mem_cons.mp he with rfl | he
    · exact houtputs
    · exact hquiet e he

lemma Once.older {e : Entry} (h : Once (e :: history)) : Once history := by
  unfold Once at *
  rw [List.countP_cons] at h
  omega

/-- The run before its start has no start. -/
lemma Once.before {e : Entry} (h : Once (e :: history)) (hevent : e.event = .start) :
    history.countP (fun e => e.event.isStart) = 0 := by
  unfold Once at h
  rw [List.countP_cons, hevent] at h
  simpa [Event.isStart] using h

lemma Once.cleanStarts (honce : Once history) (h : Run options z history s) :
    CleanStarts history := by
  induction h with
  | init => exact fun e he => absurd he List.not_mem_nil
  | @step history s event s' outputs h hstep ih =>
    intro e he hevent hstopped
    rcases List.mem_cons.mp he with rfl | he
    · obtain ⟨hs, -⟩ := h.untouched (honce.before hevent)
      exact ⟨hs.idle.1, hs.idle.2.2⟩
    · exact ih honce.older e he hevent hstopped

/-- What one event adds to a streak: nothing, one timer after a failure, or the attempt of a timer. -/
inductive Adds (options : SocketOptions) (s : Instance) (outputs : List Output) (s' : Instance) : Prop
  | nothing (hattempt : outputs.filterMap Output.attempt? = [])
      (hdelay : outputs.filterMap Output.delay? = []) (hattempts : s'.attempts = s.attempts)
      (harmed : s'.armed.length ≤ s.armed.length)
  | timer (hattempt : outputs.filterMap Output.attempt? = [])
      (hdelay : outputs.filterMap Output.delay? = [delay options s.attempts])
      (hn : s.attempts < options.maxAttempts.getD 5) (hattempts : s'.attempts = s.attempts + 1)
      (hbefore : s.armed = []) (harmed : s'.armed.length = 1)
  | attempt (hattempt : outputs.filterMap Output.attempt? = [s.requests])
      (hdelay : outputs.filterMap Output.delay? = []) (hattempts : s'.attempts = s.attempts)
      (hbefore : s.armed.length = 1) (harmed : s'.armed = [])

lemma adds_of_settles (hsettles : Settles s event s₀)
    (hattempt : outputs.filterMap Output.attempt? = [])
    (hdelay : outputs.filterMap Output.delay? = []) : Adds options s outputs s₀ := by
  obtain ⟨hattempts, -, -, harmed⟩ := hsettles.fields
  exact .nothing hattempt hdelay hattempts (by rw [harmed])

lemma adds_of_move (m : Move options z s event outputs s') (h : Single s)
    (hstart : event = .start → s.stopped = false) (hopened : event.isOpened = false) :
    Adds options s outputs s' := by
  cases m with
  | ignored _ => exact .nothing rfl rfl rfl le_rfl
  | started hs => exact absurd (hs.symm.trans (hstart rfl)) (by simp)
  | stopped => exact .nothing rfl rfl rfl (Nat.zero_le _)
  | dropped hsettles _ => exact adds_of_settles hsettles rfl rfl
  | denied hsettles _ _ => exact adds_of_settles hsettles rfl rfl
  | exhausted hsettles _ _ _ => exact adds_of_settles hsettles rfl rfl
  | armed hsettles _ _ hn =>
    obtain ⟨-, -, harmed⟩ := hsettles.single h
    exact .timer rfl rfl hn rfl harmed rfl
  | created _ _ => exact .nothing rfl rfl rfl le_rfl
  | fired ht => exact .attempt rfl rfl rfl (by simp [ht]) rfl
  | opened _ _ => cases hopened
  | delivered _ _ _ envelopes =>
    refine .nothing ?_ ?_ rfl le_rfl
    · simp [List.filterMap_map, Output.attempt?]
    · simp [List.filterMap_map, Output.delay?]
  | refused _ _ _ envelopes =>
    refine .nothing ?_ ?_ rfl le_rfl
    · simp [List.filterMap_append, List.filterMap_map, Output.attempt?]
    · simp [List.filterMap_append, List.filterMap_map, Output.delay?]
  | errored _ => exact .nothing rfl rfl rfl le_rfl

/-- The counter of the instance counts the timers of the streak; every attempt but the first of the
run was made by one of them. -/
structure Counted (options : SocketOptions) (history : List Entry) (s : Instance) : Prop where
  limit : s.attempts ≤ options.maxAttempts.getD 5
  delays : collect Output.delay? (streak history) = (List.range s.attempts).map (delay options)
  attempts : (collect Output.attempt? (streak history)).length + s.armed.length ≤ s.attempts + 1

lemma Counted.step {e : Entry} (h : Counted options history e.before)
    (hadds : Adds options e.before e.outputs e.after) (hopened : e.event.isOpened = false) :
    Counted options (e :: history) e.after := by
  obtain ⟨hlimit, hdelays, hattempts⟩ := h
  have hstreak : streak (e :: history) = e :: streak history := by
    rw [streak_cons, hopened]
    rfl
  cases hadds with
  | nothing hattempt hdelay hsame harmed =>
    refine ⟨by omega, ?_, ?_⟩
    · rw [hstreak, collect_cons, hdelay, hsame, hdelays, List.append_nil]
    · rw [hstreak, collect_cons, hattempt, List.append_nil]
      omega
  | timer hattempt hdelay hn hnext hbefore harmed =>
    refine ⟨by omega, ?_, ?_⟩
    · rw [hstreak, collect_cons, hdelay, hnext, hdelays, List.range_succ, List.map_append]
      rfl
    · rw [hstreak, collect_cons, hattempt, List.append_nil]
      omega
  | attempt hattempt hdelay hsame hbefore harmed =>
    refine ⟨by omega, ?_, ?_⟩
    · rw [hstreak, collect_cons, hdelay, hsame, hdelays, List.append_nil]
    · rw [hstreak, collect_cons, hattempt, List.length_append, List.length_singleton, harmed,
        List.length_nil]
      omega

lemma collect_eq_nil {β : Type} {f : Output → Option β} (hf : f (.state .disconnected) = none)
    (h : ∀ e ∈ history, Quiet e.outputs) : collect f history = [] := by
  unfold collect
  rw [List.flatMap_eq_nil_iff]
  intro e he
  rw [List.filterMap_eq_nil_iff]
  intro o ho
  rw [h e (List.mem_reverse.mp he) o ho, hf]

lemma counted_of_started (m : Move options z s .start outputs s') (h : Untouched s)
    (hquiet : ∀ e ∈ history, Quiet e.outputs) :
    Counted options (⟨s, .start, outputs, s'⟩ :: history) s' := by
  have hquiet' : ∀ e ∈ streak history, Quiet e.outputs := fun e he =>
    hquiet e ((List.takeWhile_sublist _).subset he)
  have hstreak : ∀ e : Entry, e.event = .start → streak (e :: history) = e :: streak history := by
    intro e hevent
    rw [streak_cons, hevent]
    rfl
  cases m with
  | ignored hs => exact absurd (h.stopped.symm.trans hs) (by simp)
  | started _ =>
    refine ⟨Nat.zero_le _, ?_, ?_⟩
    · rw [hstreak _ rfl, collect_cons, collect_eq_nil rfl hquiet']
      rfl
    · rw [hstreak _ rfl, collect_cons, collect_eq_nil rfl hquiet', h.idle.2.1]
      rfl
  | dropped hsettles _ => cases hsettles
  | denied hsettles _ _ => cases hsettles
  | exhausted hsettles _ _ _ => cases hsettles
  | armed hsettles _ _ _ => cases hsettles

lemma counted_of_opened {id : ℕ} (m : Move options z s (.opened id) outputs s') (h : Single s) :
    Counted options (⟨s, .opened id, outputs, s'⟩ :: history) s' := by
  have hstreak : streak (⟨s, .opened id, outputs, s'⟩ :: history) = [] := streak_cons _
  have hafter : s'.attempts = 0 ∧ s'.armed = [] := by
    cases m with
    | opened hx _ =>
      obtain ⟨-, -, -, -, harmed⟩ := h.find_eq (find_singleton hx)
      exact ⟨rfl, harmed⟩
    | dropped hsettles _ => cases hsettles
    | denied hsettles _ _ => cases hsettles
    | exhausted hsettles _ _ _ => cases hsettles
    | armed hsettles _ _ _ => cases hsettles
  refine ⟨by simp [hafter], ?_, ?_⟩
  · rw [hstreak, hafter.1]
    rfl
  · rw [hstreak, hafter.2]
    exact Nat.zero_le _

lemma Run.counted (h : Run options z history s) (honce : Once history) :
    Counted options history s := by
  induction h with
  | init => exact ⟨Nat.zero_le _, rfl, Nat.zero_le _⟩
  | @step history s event s' outputs h hstep ih =>
    obtain ⟨hsingle, hmove⟩ := (h.step hstep).move (honce.cleanStarts (h.step hstep))
    by_cases hstart : event = .start
    · subst hstart
      obtain ⟨hs, hquiet⟩ := h.untouched (honce.before rfl)
      exact counted_of_started hmove hs hquiet
    · cases hopened : event.isOpened with
      | true =>
        cases event with
        | opened id => exact counted_of_opened hmove hsingle
        | _ => cases hopened
      | false =>
        have hadds := adds_of_move hmove hsingle (fun hevent => absurd hevent hstart) hopened
        exact (ih honce.older).step hadds hopened

lemma inProgress_of_settles {k : ℕ} (hsettles : Settles s event s₀) (h : InProgress s₀ k) :
    InProgress s k := by
  cases hsettles with
  | resolved _ => exact h.imp_left fun hk => absurd hk List.not_mem_nil
  | rejected _ => exact h.imp_left fun hk => absurd hk List.not_mem_nil
  | closed _ => exact h.imp_right fun ⟨_, hx, _⟩ => absurd hx List.not_mem_nil

/-- An event requests no ticket and begins no attempt, or it requests one and begins its attempt. -/
inductive Begins (s : Instance) (outputs : List Output) (s' : Instance) : Prop
  | none (hattempt : outputs.filterMap Output.attempt? = []) (hrequests : s'.requests = s.requests)
      (hsub : ∀ k, InProgress s' k → InProgress s k)
  | one (hattempt : outputs.filterMap Output.attempt? = [s.requests])
      (hrequests : s'.requests = s.requests + 1) (hnew : InProgress s' s.requests)
      (hsub : ∀ k, InProgress s' k → InProgress s k ∨ k = s.requests)

lemma begins_of_settles (hsettles : Settles s event s₀)
    (hattempt : outputs.filterMap Output.attempt? = []) : Begins s outputs s₀ := by
  have hrequests : s₀.requests = s.requests := by cases hsettles <;> rfl
  exact .none hattempt hrequests fun k hk => inProgress_of_settles hsettles hk

lemma begins_of_move (m : Move options z s event outputs s') : Begins s outputs s' := by
  cases m with
  | ignored _ => exact .none rfl rfl fun _ hk => hk
  | started _ =>
    refine .one rfl rfl (.inl List.mem_cons_self) fun k hk => ?_
    rcases hk with hk | hk
    · rcases List.mem_cons.mp hk with rfl | hk
      · exact .inr rfl
      · exact .inl (.inl hk)
    · exact .inl (.inr hk)
  | stopped =>
    refine .none rfl rfl fun k hk => hk.imp_right ?_
    rintro ⟨x, hx, hk⟩
    obtain ⟨y, hy, rfl⟩ := List.mem_map.mp hx
    exact ⟨y, hy, hk⟩
  | dropped hsettles _ => exact begins_of_settles hsettles rfl
  | denied hsettles _ _ => exact begins_of_settles hsettles rfl
  | exhausted hsettles _ _ _ => exact begins_of_settles hsettles rfl
  | @armed _ s₀ hsettles _ _ _ =>
    have hrequests : s₀.requests = s.requests := by cases hsettles <;> rfl
    exact .none rfl hrequests fun k hk => inProgress_of_settles hsettles hk
  | @created k ticket hp _ =>
    refine .none rfl rfl fun j hj => ?_
    rcases hj with hj | ⟨x, hx, rfl, -⟩
    · exact absurd hj List.not_mem_nil
    · obtain rfl := List.mem_singleton.mp hx
      exact .inl (by simp [hp])
  | fired _ =>
    refine .one rfl rfl (.inl List.mem_cons_self) fun k hk => ?_
    rcases hk with hk | hk
    · exact .inr (List.mem_singleton.mp hk)
    · exact .inl (.inr hk)
  | opened _ _ =>
    refine .none rfl rfl fun k hk => hk.imp_right ?_
    rintro ⟨x, hx, -, hopened⟩
    obtain rfl := List.mem_singleton.mp hx
    cases hopened
  | delivered _ _ _ envelopes =>
    refine .none ?_ rfl fun _ hk => hk
    simp [List.filterMap_map, Output.attempt?]
  | refused _ _ _ envelopes =>
    refine .none ?_ rfl fun _ hk => hk
    simp [List.filterMap_append, List.filterMap_map, Output.attempt?]
  | @errored x hx =>
    refine .none rfl rfl fun k hk => hk.imp_right ?_
    rintro ⟨y, hy, hk⟩
    obtain rfl := List.mem_singleton.mp hy
    exact ⟨x, by simp [hx], hk⟩

/-- The attempts of a run are numbered from zero, and one that is not in progress ended once. -/
structure Numbered (history : List Entry) (s : Instance) : Prop where
  fresh : collect Output.attempt? history = List.range s.requests
  below : ∀ k, InProgress s k → k < s.requests
  ended : ∀ k, history.countP (fun e => Ends k e) =
    if k < s.requests ∧ ¬InProgress s k then 1 else 0

lemma Numbered.step {e : Entry} (h : Numbered history e.before)
    (hbegins : Begins e.before e.outputs e.after) : Numbered (e :: history) e.after := by
  obtain ⟨hfresh, hbelow, hended⟩ := h
  cases hbegins with
  | none hattempt hrequests hsub =>
    refine ⟨by rw [collect_cons, hattempt, hrequests, hfresh, List.append_nil], fun k hk => ?_,
      fun k => ?_⟩
    · rw [hrequests]
      exact hbelow k (hsub k hk)
    · have hk := hsub k
      have hk' := hbelow k
      rw [List.countP_cons, hended, hrequests]
      by_cases hbefore : InProgress e.before k
      · by_cases hafter : InProgress e.after k <;> simp [Ends, hbefore, hafter, hk' hbefore]
      · have hafter : ¬InProgress e.after k := fun hafter => hbefore (hk hafter)
        simp [Ends, hbefore, hafter]
  | one hattempt hrequests hnew hsub =>
    refine ⟨by rw [collect_cons, hattempt, hrequests, hfresh, List.range_succ], fun k hk => ?_,
      fun k => ?_⟩
    · rcases hsub k hk with hk | rfl
      · have hlt := hbelow k hk
        omega
      · omega
    · have hk := hsub k
      have hk' := hbelow k
      rw [List.countP_cons, hended, hrequests]
      rcases Nat.lt_trichotomy k e.before.requests with hlt | rfl | hgt
      · by_cases hbefore : InProgress e.before k
        · by_cases hafter : InProgress e.after k <;>
            simp [Ends, hbefore, hafter, hlt, Nat.lt_succ_of_lt hlt]
        · have hafter : ¬InProgress e.after k := fun hafter =>
            (hk hafter).elim hbefore hlt.ne
          simp [Ends, hbefore, hafter, hlt, Nat.lt_succ_of_lt hlt]
      · simp [Ends, hnew]
      · have hnone : ¬k < e.before.requests + 1 := by omega
        have hbefore : ¬InProgress e.before k := fun hbefore => absurd (hk' hbefore) (by omega)
        simp [Ends, hbefore, hnone, Nat.not_lt.mpr hgt.le]

lemma Run.numbered (h : Run options z history s) (hclean : CleanStarts history) :
    Numbered history s := by
  induction h with
  | init =>
    refine ⟨rfl, fun k hk => ?_, fun k => rfl⟩
    rcases hk with hk | ⟨x, hx, -⟩
    · exact absurd hk List.not_mem_nil
    · exact absurd hx List.not_mem_nil
  | @step history s event s' outputs h hstep ih =>
    obtain ⟨-, hmove⟩ := (h.step hstep).move hclean
    exact (ih fun e he => hclean e (List.mem_cons_of_mem _ he)).step (begins_of_move hmove)

/-- An event uses no ticket, or the one that its request was resolved with. -/
inductive Serves (s : Instance) (outputs : List Output) (s' : Instance) : Prop
  | none (hticket : outputs.filterMap Output.ticket? = []) (hrequests : s.requests ≤ s'.requests)
      (hsub : ∀ k ∈ s'.pending, k ∈ s.pending ∨ k = s.requests)
  | one {k} (hticket : outputs.filterMap Output.ticket? = [k]) (hk : k ∈ s.pending)
      (hrequests : s'.requests = s.requests) (hpending : s'.pending = [])

lemma serves_of_settles (hsettles : Settles s event s₀)
    (hticket : outputs.filterMap Output.ticket? = []) : Serves s outputs s₀ := by
  cases hsettles with
  | resolved _ => exact .none hticket le_rfl fun k hk => absurd hk List.not_mem_nil
  | rejected _ => exact .none hticket le_rfl fun k hk => absurd hk List.not_mem_nil
  | closed _ => exact .none hticket le_rfl fun k hk => .inl hk

lemma serves_of_move (m : Move options z s event outputs s') : Serves s outputs s' := by
  cases m with
  | ignored _ => exact .none rfl le_rfl fun k hk => .inl hk
  | started _ =>
    exact .none rfl (Nat.le_succ _) fun k hk => (List.mem_cons.mp hk).symm
  | stopped => exact .none rfl le_rfl fun k hk => .inl hk
  | dropped hsettles _ => exact serves_of_settles hsettles rfl
  | denied hsettles _ _ => exact serves_of_settles hsettles rfl
  | exhausted hsettles _ _ _ => exact serves_of_settles hsettles rfl
  | armed hsettles _ _ _ =>
    cases hsettles with
    | resolved _ => exact .none rfl le_rfl fun k hk => absurd hk List.not_mem_nil
    | rejected _ => exact .none rfl le_rfl fun k hk => absurd hk List.not_mem_nil
    | closed _ => exact .none rfl le_rfl fun k hk => .inl hk
  | created hp _ => exact .one rfl (by simp [hp]) rfl rfl
  | fired _ => exact .none rfl (Nat.le_succ _) fun k hk => .inr (List.mem_singleton.mp hk)
  | opened _ _ => exact .none rfl le_rfl fun k hk => .inl hk
  | delivered _ _ _ envelopes =>
    refine .none ?_ le_rfl fun k hk => .inl hk
    simp [List.filterMap_map, Output.ticket?]
  | refused _ _ _ envelopes =>
    refine .none ?_ le_rfl fun k hk => .inl hk
    simp [List.filterMap_append, List.filterMap_map, Output.ticket?]
  | errored _ => exact .none rfl le_rfl fun k hk => .inl hk

/-- No ticket serves two sockets: one that served is not pending any more. -/
structure Served (history : List Entry) (s : Instance) : Prop where
  unused : (collect Output.ticket? history).Nodup
  gone : ∀ k ∈ collect Output.ticket? history, k < s.requests ∧ k ∉ s.pending

lemma Served.step {e : Entry} (h : Served history e.before)
    (hbelow : ∀ k ∈ e.before.pending, k < e.before.requests)
    (hserves : Serves e.before e.outputs e.after) : Served (e :: history) e.after := by
  obtain ⟨hunused, hgone⟩ := h
  cases hserves with
  | none hticket hrequests hsub =>
    refine ⟨by rwa [collect_cons, hticket, List.append_nil], fun k hk => ?_⟩
    rw [collect_cons, hticket, List.append_nil] at hk
    obtain ⟨hlt, hpending⟩ := hgone k hk
    refine ⟨by omega, fun hk' => ?_⟩
    rcases hsub k hk' with hk' | rfl
    · exact hpending hk'
    · omega
  | @one j hticket hj hrequests hpending =>
    have hnew : j ∉ collect Output.ticket? history := fun hmem => (hgone j hmem).2 hj
    refine ⟨?_, fun k hk => ?_⟩
    · rw [collect_cons, hticket]
      exact hunused.append (List.nodup_singleton j) (List.disjoint_singleton.mpr hnew)
    · rw [collect_cons, hticket, List.mem_append, List.mem_singleton] at hk
      rw [hrequests, hpending]
      rcases hk with hk | rfl
      · exact ⟨(hgone k hk).1, List.not_mem_nil⟩
      · exact ⟨hbelow k hj, List.not_mem_nil⟩

lemma Run.served (h : Run options z history s) (hclean : CleanStarts history) :
    Served history s := by
  induction h with
  | init => exact ⟨List.nodup_nil, fun k hk => absurd hk List.not_mem_nil⟩
  | @step history s event s' outputs h hstep ih =>
    have hclean' : CleanStarts history := fun e he => hclean e (List.mem_cons_of_mem _ he)
    obtain ⟨-, hmove⟩ := (h.step hstep).move hclean
    exact (ih hclean').step (fun k hk => (h.numbered hclean').below k (.inl hk))
      (serves_of_move hmove)

lemma ticketResolved_of_createSocket {socket k : ℕ} {ticket : WsTicket}
    (m : Move options z s event outputs s') (h : .createSocket socket k ticket ∈ outputs) :
    event = .ticketResolved k ticket none := by
  cases m with
  | created _ _ =>
    obtain ⟨-, rfl, rfl⟩ : socket = s.created ∧ _ := by simpa using h
    rfl
  | ignored _ => simp at h
  | started _ => simp at h
  | stopped => simp at h
  | dropped _ _ => simp at h
  | denied _ _ _ => simp at h
  | exhausted _ _ _ _ => simp at h
  | armed _ _ _ _ => simp at h
  | fired _ => simp at h
  | opened _ _ => simp at h
  | delivered _ _ _ _ => simp at h
  | refused _ _ _ _ => simp at h
  | errored _ => simp at h

/-- With nothing in flight after it, an event ends the attempt by a report or by nothing. -/
lemma outcome_of_idle {e : Entry} {k : ℕ} (hidle : Idle e.after)
    (hreport : (.state .denied ∈ e.outputs ∨ .state .disconnected ∈ e.outputs) ↔
      e.before.stopped = false) : ∃! o : Outcome, o.Of e k := by
  obtain ⟨-, harmed, hsockets⟩ := hidle
  have hlive : ¬Outcome.liveSocket.Of e k := by simp [Outcome.Of, hsockets]
  have htimer : ¬Outcome.armedTimer.Of e k := by simp [Outcome.Of, harmed]
  cases hs : e.before.stopped with
  | true =>
    refine ⟨.abandoned, hs, fun o ho => ?_⟩
    cases o with
    | liveSocket => exact absurd ho hlive
    | armedTimer => exact absurd ho htimer
    | terminalReport => exact absurd (hs.symm.trans (hreport.mp ho)) (by simp)
    | abandoned => rfl
  | false =>
    refine ⟨.terminalReport, hreport.mpr hs, fun o ho => ?_⟩
    cases o with
    | liveSocket => exact absurd ho hlive
    | armedTimer => exact absurd ho htimer
    | terminalReport => rfl
    | abandoned => exact absurd (hs.symm.trans ho) (by simp)

lemma outcome_of_armed {e : Entry} {k t : ℕ} {d : ℚ≥0} (hsockets : e.after.sockets = [])
    (harmed : e.after.armed = [t]) (houtputs : e.outputs = [.state .reconnecting, .setTimeout t d])
    (hs : e.before.stopped = false) : ∃! o : Outcome, o.Of e k := by
  refine ⟨.armedTimer, ⟨t, harmed⟩, fun o ho => ?_⟩
  cases o with
  | liveSocket => simp [Outcome.Of, hsockets] at ho
  | armedTimer => rfl
  | terminalReport => simp [Outcome.Of, houtputs] at ho
  | abandoned => exact absurd (ho.symm.trans hs) (by simp)

lemma outcome_of_opened {e : Entry} {x : Socket}
    (hsockets : e.after.sockets = [{ x with readyState := .open, opened := true }])
    (harmed : e.after.armed = [])
    (houtputs : e.outputs = [.subscribe x.id x.channel, .state .connected])
    (hs : e.before.stopped = false) : ∃! o : Outcome, o.Of e x.request := by
  have hmem : { x with readyState := .open, opened := true } ∈ e.after.sockets := by
    rw [hsockets]
    exact List.mem_cons_self
  refine ⟨.liveSocket, ⟨_, hmem, rfl, rfl⟩, fun o ho => ?_⟩
  cases o with
  | liveSocket => rfl
  | armedTimer => simp [Outcome.Of, harmed] at ho
  | terminalReport => simp [Outcome.Of, houtputs] at ho
  | abandoned => exact absurd (ho.symm.trans hs) (by simp)

/-- An event leaves an attempt in progress or ends it in exactly one way. -/
lemma outcome_of_move {k : ℕ} (m : Move options z s event outputs s') (h : Single s)
    (hk : InProgress s k) :
    InProgress s' k ∨ ∃! o : Outcome, o.Of ⟨s, event, outputs, s'⟩ k := by
  cases m with
  | dropped hsettles hs => exact .inr (outcome_of_idle (hsettles.single h).2.1 (by simp [hs]))
  | denied hsettles hs _ => exact .inr (outcome_of_idle (hsettles.single h).2.1 (by simp [hs]))
  | exhausted hsettles hs _ _ =>
    exact .inr (outcome_of_idle (hsettles.single h).2.1 (by simp [hs]))
  | armed hsettles hs _ _ =>
    obtain ⟨-, ⟨-, -, hsockets⟩, -⟩ := hsettles.single h
    exact .inr (outcome_of_armed hsockets rfl rfl hs)
  | @opened x hx hready =>
    obtain ⟨-, -, -, hpending, harmed⟩ := h.find_eq (find_singleton hx)
    have hrequest : x.request = k := by
      rcases hk with hk | ⟨y, hy, hk, -⟩
      · simp [hpending] at hk
      · rw [hx, List.mem_singleton] at hy
        rwa [← hy]
    have hs : s.stopped = false := by
      rw [Bool.eq_false_iff]
      intro hstopped
      have hclosing := (h.stopped hstopped).2 x (by simp [hx])
      rw [hclosing] at hready
      cases hready
    rw [← hrequest]
    exact .inr (outcome_of_opened rfl harmed rfl hs)
  | @created j ticket hp _ =>
    obtain ⟨-, -, hsockets⟩ := h.pending_eq (show j ∈ s.pending by simp [hp])
    rcases hk with hk | ⟨x, hx, -⟩
    · rw [hp, List.mem_singleton] at hk
      subst hk
      exact .inl (.inr ⟨_, List.mem_cons_self, rfl, rfl⟩)
    · simp [hsockets] at hx
  | @fired t ht =>
    obtain ⟨-, hpending, hsockets⟩ := h.armed_eq (show t ∈ s.armed by simp [ht])
    rcases hk with hk | ⟨x, hx, -⟩
    · simp [hpending] at hk
    · simp [hsockets] at hx
  | started _ => exact .inl (hk.imp_left (List.mem_cons_of_mem _))
  | stopped =>
    refine .inl (hk.imp_right ?_)
    rintro ⟨x, hx, hk⟩
    exact ⟨_, List.mem_map_of_mem hx, hk⟩
  | @errored x hx =>
    refine .inl (hk.imp_right ?_)
    rintro ⟨y, hy, hk⟩
    rw [hx, List.mem_singleton] at hy
    subst hy
    exact ⟨_, List.mem_cons_self, hk⟩
  | ignored _ => exact .inl hk
  | delivered _ _ _ _ => exact .inl hk
  | refused _ _ _ _ => exact .inl hk

lemma retried_of_move (m : Move options z s event outputs s') (h : Single s)
    (hs : s.stopped = false) (hretried : Retried event) :
    (s.attempts < options.maxAttempts.getD 5 ∧
      outputs = [.state .reconnecting, .setTimeout s.timers (delay options s.attempts)]) ∨
    (options.maxAttempts.getD 5 ≤ s.attempts ∧ outputs = [.state .disconnected] ∧ Idle s') := by
  cases m with
  | armed _ _ _ hn => exact .inl ⟨hn, rfl⟩
  | exhausted hsettles _ _ hn => exact .inr ⟨hn, rfl, (hsettles.single h).2.1⟩
  | dropped _ hstopped => exact absurd (hs.symm.trans hstopped) (by simp)
  | denied _ _ hnot => exact absurd hretried hnot
  | created _ _ => simp [Retried] at hretried
  | ignored _ => exact hretried.elim
  | started _ => exact hretried.elim
  | stopped => exact hretried.elim
  | fired _ => exact hretried.elim
  | opened _ _ => exact hretried.elim
  | delivered _ _ _ _ => exact hretried.elim
  | refused _ _ _ _ => exact hretried.elim
  | errored _ => exact hretried.elim

lemma delay_le {i j : ℕ} (hij : i ≤ j) : delay options i ≤ delay options j := by
  have hpow : (2 : ℚ≥0) ^ i ≤ 2 ^ j := pow_le_pow_right₀ one_le_two hij
  unfold delay
  gcongr

lemma length_collect_delay (h : Counted options history s) :
    (collect Output.delay? (streak history)).length = s.attempts := by
  rw [h.delays, List.length_map, List.length_range]

lemma Once.suffix {newer : List Entry} (h : Once (newer ++ history)) : Once history := by
  unfold Once at *
  rw [List.countP_append] at h
  omega

/-- What a retried failure of a started instance does, and what comes after the last one. -/
lemma exhausted_of_run {newer older : List Entry} {e : Entry}
    (h : Run options z (newer ++ e :: older) s) (honce : Once (newer ++ e :: older))
    (hs : e.before.stopped = false) (hretried : Retried e.event) :
    let armed := (collect Output.delay? (streak older)).length
    if armed < options.maxAttempts.getD 5 then
      e.outputs = [.state .reconnecting, .setTimeout e.before.timers (delay options armed)]
    else e.outputs = [.state .disconnected] ∧ ∀ l ∈ newer, Quiet l.outputs := by
  have hclean := honce.cleanStarts h
  have holder : Run options z older e.before := h.older.last.1
  have honce' : Once older := honce.suffix.older
  obtain ⟨hsingle, hmove⟩ := h.older.move fun m hm => hclean m (List.mem_append_right newer hm)
  have hcount := length_collect_delay (holder.counted honce')
  simp only [hcount]
  rcases retried_of_move hmove hsingle hs hretried with ⟨hn, houtputs⟩ | ⟨hn, houtputs, hidle⟩
  · rw [if_pos hn]
    exact houtputs
  · rw [if_neg (Nat.not_lt.mpr hn)]
    refine ⟨houtputs, fun l hl => ?_⟩
    -- The one start came before, for the instance was started.
    have hstarted : older.countP (fun e => e.event.isStart) ≠ 0 := by
      intro hnone
      obtain ⟨huntouched, -⟩ := holder.untouched hnone
      exact absurd (huntouched.stopped.symm.trans hs) (by simp)
    have hnone : newer.countP (fun e => e.event.isStart) = 0 := by
      unfold Once at honce
      rw [List.countP_append, List.countP_cons] at honce
      omega
    obtain ⟨newest, between, rfl⟩ := List.append_of_mem hl
    rw [List.append_assoc, List.cons_append] at h hclean
    refine h.older.quiet (fun m hm => hclean m (List.mem_append_right newest hm)) hidle fun m hm => ?_
    exact ne_start_of_countP hnone (List.mem_append_right newest hm)

/-- A run with one start: at most one attempt more than `maxAttempts` between two opens, delays that
double up to fifteen seconds, a ticket of its own and one end for each attempt, and nothing after
the last one. -/
theorem bounded_of_once (h : Run options z history s) (honce : Once history) :
    Bounded options history s := by
  have hclean := honce.cleanStarts h
  have hcounted := h.counted honce
  have hnumbered := h.numbered hclean
  have hentry : ∀ e ∈ history, Single e.before ∧ Move options z e.before e.event e.outputs e.after := by
    intro e he
    obtain ⟨newer, older, rfl⟩ := List.append_of_mem he
    exact h.older.move fun m hm => hclean m (List.mem_append_right newer hm)
  constructor
  case attempts =>
    have hlimit := hcounted.limit
    have hattempts := hcounted.attempts
    omega
  case delays => exact ⟨s.attempts, hcounted.limit, hcounted.delays⟩
  case nondecreasing =>
    rw [hcounted.delays, List.pairwise_map]
    exact List.pairwise_le_range.imp delay_le
  case atMost =>
    intro d hd
    rw [hcounted.delays] at hd
    obtain ⟨i, -, rfl⟩ := List.mem_map.mp hd
    exact min_le_right _ _
  case fresh => exact hnumbered.fresh
  case own =>
    intro e he socket k ticket hcreated
    exact ticketResolved_of_createSocket (hentry e he).2 hcreated
  case unused => exact (h.served hclean).unused
  case ended =>
    intro k hk
    rw [hnumbered.fresh, List.mem_range] at hk
    rw [hnumbered.ended]
    by_cases hprogress : InProgress s k <;> simp [hprogress, hk]
  case outcome =>
    intro e he k hends
    obtain ⟨hsingle, hmove⟩ := hentry e he
    exact (outcome_of_move hmove hsingle hends.1).resolve_left hends.2
  case exhausted =>
    rintro newer e older rfl hs hretried
    exact exhausted_of_run h honce hs hretried

namespace Replay

/-- An attempt that is retried, and one that opens a socket. -/
def retry : List Event :=
  [.start, .ticketRejected 0 .other, .timerFired 0, .ticketResolved 1 ticket none, .opened 0]

theorem bounded_retry : Bounded defaults (replay retry) (final retry) :=
  bounded_of_once (run_replay rfl) (show List.countP _ (replay retry) ≤ 1 by decide)

end Replay

end Pentagon5.Client
