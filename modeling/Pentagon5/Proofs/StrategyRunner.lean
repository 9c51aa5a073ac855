import Mathlib.Data.List.Forall2
import Pentagon5.Strategy.Runner

/-!
# The runner submits the strategy's signals

The run of a recorded strategy and a recorded broker keeps the requests in step with the buy and
sell signals, whatever the two components do.
-/

namespace Pentagon5.Trading

open Python Broker StrategyRunner

section Signals

variable {signal : TradingSignal}

/-- The request that a signal is submitted as. -/
structure Submits (signal : TradingSignal) (request : OrderRequest) : Prop where
  symbol : request.symbol = signal.symbol
  side : request.side = .buy ∧ signal.signalType = .buy ∨ request.side = .sell ∧ signal.signalType = .sell
  orderType : request.orderType = .market
  quantity : request.quantity = signal.quantity
  requestedAt : request.requestedAt = signal.generatedAt
  limitPrice : request.limitPrice = none

/-- What the check of a signal admits, the check of an order admits. -/
lemma positive_of_signal (h : signal.signalType ≠ .hold) : signal.quantity.Positive := by
  have hside : signal.signalType = .buy ∨ signal.signalType = .sell := by
    cases hs : signal.signalType with
    | buy => exact Or.inl rfl
    | sell => exact Or.inr rfl
    | hold => exact absurd hs h
  have hv := signal.valid
  rw [validateSignal, if_pos hside] at hv
  rw [← Decimal.le_zero_eq_false]
  rcases hle : signal.quantity.le (.finite 0) with e | _ | _
  · rw [hle] at hv
    cases hv
  · rfl
  · rw [hle] at hv
    cases hv

lemma new_eq_ok (h : signal.signalType ≠ .hold) :
    ∃ request, Submits signal request ∧
      OrderRequest.new signal.symbol (if signal.signalType = .buy then .buy else .sell) .market
        signal.quantity signal.generatedAt none = .ok request := by
  refine ⟨_, ?_, OrderRequest.new_eq_ok (validateOrder_market (positive_of_signal h))⟩
  refine ⟨rfl, ?_, rfl, rfl, rfl, rfl⟩
  cases hs : signal.signalType with
  | buy => exact Or.inl ⟨rfl, rfl⟩
  | sell => exact Or.inr ⟨rfl, rfl⟩
  | hold => exact absurd hs h

end Signals

section Steps

variable {σ β ε Quote OHLCV : Type} (strategy : Strategy σ ε Quote OHLCV) (broker : BrokerProvider β ε)

/-- A signal is dropped, or one request for it reaches the broker. -/
lemma submitSignal_cases (signal : Option TradingSignal) (p : σ × β) :
    ((∀ s ∈ signal, s.signalType = .hold) ∧ submitSignal broker signal p = .ok none p) ∨
      ∃ s request, signal = some s ∧ s.signalType ≠ .hold ∧ Submits s request ∧
        submitSignal broker signal p =
          (callBroker (broker.placeOrder request) >>= fun order => pure (some order)) p := by
  rcases signal with _ | s
  · exact Or.inl ⟨by simp, rfl⟩
  · by_cases hs : s.signalType = .hold
    · refine Or.inl ⟨by simpa using hs, ?_⟩
      simp only [submitSignal, hs, if_true]
      rfl
    · obtain ⟨request, hr, hnew⟩ := new_eq_ok hs
      refine Or.inr ⟨s, request, rfl, hs, hr, ?_⟩
      simp only [submitSignal, if_neg hs, hnew]
      rfl

lemma requireRunning_of {s : σ} (b : β) (h : (strategy.state s).status = .running) :
    (requireRunning strategy : Method σ β ε Unit) (s, b) = .ok () (s, b) := by
  refine (bind_of_ok rfl).trans ?_
  rw [if_neg (not_not.mpr h)]
  rfl

lemma requireRunning_of_not {s : σ} (b : β) (h : (strategy.state s).status ≠ .running) :
    (requireRunning strategy : Method σ β ε Unit) (s, b) =
      .error (.valueError "strategy must be running to process events") (s, b) := by
  refine (bind_of_ok rfl).trans ?_
  rw [if_pos h]
  rfl

lemma callStrategy_ok {α : Type} {method : EStateM ε σ α} {s s' : σ} {a : α} (b : β)
    (h : method s = .ok a s') :
    (callStrategy method : Method σ β ε α) (s, b) = .ok a (s', b) := by
  simp only [callStrategy, h]

lemma callStrategy_error {α : Type} {method : EStateM ε σ α} {s s' : σ} {e : ε} (b : β)
    (h : method s = .error e s') :
    (callStrategy method : Method σ β ε α) (s, b) = .error (.raised e) (s', b) := by
  simp only [callStrategy, h]

lemma callBroker_ok {α : Type} {method : EStateM ε β α} {b b' : β} {a : α} (s : σ)
    (h : method b = .ok a b') : (callBroker method : Method σ β ε α) (s, b) = .ok a (s, b') := by
  simp only [callBroker, h]

lemma callBroker_error {α : Type} {method : EStateM ε β α} {b b' : β} {e : ε} (s : σ)
    (h : method b = .error e b') :
    (callBroker method : Method σ β ε α) (s, b) = .error (.raised e) (s, b') := by
  simp only [callBroker, h]

variable {strategy broker}

/-- How a market event fails: the strategy is not running, or it raises, or the broker does. -/
lemma process_eq_error {method : EStateM ε σ (Option TradingSignal)} {s : σ} {b : β} {error : RunnerError ε}
    {p' : σ × β} (h : process strategy broker method (s, b) = .error error p') :
    (∃ message, error = .valueError message ∧ p' = (s, b)) ∨
      (∃ e s', error = .raised e ∧ p' = (s', b)) ∨
      ∃ e s' b' request, broker.placeOrder request b = .error e b' ∧ error = .raised e ∧ p' = (s', b') := by
  by_cases hrun : (strategy.state s).status = .running
  · right
    rw [process, bind_of_ok (requireRunning_of strategy b hrun)] at h
    rcases hm : method s with ⟨signal, s'⟩ | ⟨e, s'⟩
    · rw [bind_of_ok (callStrategy_ok b hm)] at h
      rcases submitSignal_cases broker signal (s', b) with ⟨-, hs⟩ | ⟨_, request, -, -, -, hs⟩
      · rw [hs] at h
        cases h
      · rw [hs] at h
        rcases hplace : broker.placeOrder request b with ⟨order, b'⟩ | ⟨e, b'⟩
        · rw [bind_of_ok (callBroker_ok s' hplace)] at h
          cases h
        · rw [bind_of_error (callBroker_error s' hplace)] at h
          cases h
          exact .inr ⟨e, s', b', request, hplace, rfl, rfl⟩
    · rw [bind_of_error (callStrategy_error b hm)] at h
      cases h
      exact .inl ⟨e, s', rfl, rfl⟩
  · rw [process, bind_of_error (requireRunning_of_not strategy b hrun)] at h
    cases h
    exact .inl ⟨_, rfl, rfl⟩

/-- How a call fails. -/
lemma perform_eq_error {call : Call Quote OHLCV} {s : σ} {b : β} {error : RunnerError ε} {p' : σ × β}
    (h : perform strategy broker call (s, b) = .error error p') :
    (∃ message, error = .valueError message ∧ p' = (s, b)) ∨
      (∃ e s', error = .raised e ∧ p' = (s', b)) ∨
      ∃ e s' b' request, broker.placeOrder request b = .error e b' ∧ error = .raised e ∧ p' = (s', b') := by
  have hcall : ∀ method : EStateM ε σ Unit,
      (do callStrategy method; return none : Method σ β ε (Option Order)) (s, b) = .error error p' →
        ∃ e s', error = .raised e ∧ p' = (s', b) := by
    intro method h
    rcases hm : method s with ⟨u, s'⟩ | ⟨e, s'⟩
    · rw [bind_of_ok (callStrategy_ok b hm)] at h
      cases h
    · rw [bind_of_error (callStrategy_error b hm)] at h
      cases h
      exact ⟨e, s', rfl, rfl⟩
  cases call with
  | start => exact .inr (.inl (hcall strategy.start h))
  | stop => exact .inr (.inl (hcall strategy.stop h))
  | onQuote quote => exact process_eq_error h
  | onBar bar => exact process_eq_error h

/-- No model rejects what it is built from. -/
lemma perform_ne_model (call : Call Quote OHLCV) (p p' : σ × β) (error : BrokerError) :
    perform strategy broker call p ≠ .error (.model error) p' := by
  intro h
  rcases perform_eq_error h with ⟨_, he, -⟩ | ⟨_, _, he, -⟩ | ⟨_, _, _, _, -, he, -⟩ <;> cases he

/-- What holds of the broker, and of it after each order that fails, holds after a call that raises. -/
lemma perform_error {P : β → Prop} {call : Call Quote OHLCV} {s : σ} {b : β} {error : RunnerError ε} {p' : σ × β}
    (hb : P b) (horder : ∀ request e b', broker.placeOrder request b = .error e b' → P b')
    (h : perform strategy broker call (s, b) = .error error p') : P p'.2 := by
  rcases perform_eq_error h with ⟨_, -, rfl⟩ | ⟨_, _, -, rfl⟩ | ⟨e, _, b', request, hplace, -, rfl⟩
  · exact hb
  · exact hb
  · exact horder request e b' hplace

end Steps

section Recorded

variable {σ β ε Quote OHLCV : Type} {strategy : Strategy σ ε Quote OHLCV}
  {broker : BrokerProvider β ε} {h : Heard σ Quote OHLCV} {b : β}

/-- A call of a running or stopped strategy's market event that is not let through. -/
lemma process_of_not_running (method : EStateM ε σ (Option TradingSignal)) {s : σ} (b : β)
    (hrun : (strategy.state s).status ≠ .running) :
    process strategy broker method (s, b) =
      .error (.valueError "strategy must be running to process events") (s, b) :=
  bind_of_error (requireRunning_of_not strategy b hrun)

/-- The state that a method of a component leaves, whether it raises or not. -/
def left {α : Type} : EStateM.Result ε β α → β
  | .ok _ b => b
  | .error _ b => b

/-- What holds of the signals so far and of the broker, if nothing but the order of a buy or sell signal
reaches the broker. -/
structure SignalInvariant (broker : BrokerProvider β ε) (I : List TradingSignal → β → Prop) : Prop where
  hold : ∀ {signals s b}, I signals b → s.signalType = .hold → I (signals ++ [s]) b
  placed : ∀ {signals s request b}, I signals b → s.signalType ≠ .hold → Submits s request →
    I (signals ++ [s]) (left (broker.placeOrder request b))

def Holds (I : List TradingSignal → β → Prop) (p : Heard σ Quote OHLCV × β) : Prop := I p.1.signals p.2

namespace SignalInvariant

variable {I : List TradingSignal → β → Prop}

lemma process (hI : SignalInvariant broker I) (event : Event Quote OHLCV)
    (method : EStateM ε σ (Option TradingSignal)) (hp : Holds I (h, b)) :
    Holds I (after (process strategy.recording broker (hear event method)) (h, b)) := by
  by_cases hrun : (strategy.recording.state h).status = .running
  · rw [after, StrategyRunner.process, bind_of_ok (requireRunning_of strategy.recording b hrun)]
    rcases hm : method h.state with ⟨signal, s'⟩ | ⟨e, s'⟩
    · have hheard : hear event method h =
          .ok signal ⟨s', h.events ++ [event], h.signals ++ signal.toList⟩ := by
        simp only [hear, hm]
      rw [bind_of_ok (callStrategy_ok b hheard)]
      rcases submitSignal_cases broker signal
        ((⟨s', h.events ++ [event], h.signals ++ signal.toList⟩ : Heard σ Quote OHLCV), b) with
        ⟨hhold, hs⟩ | ⟨s, request, rfl, hne, hsub, hs⟩
      · rw [hs]
        cases signal with
        | none =>
          show I (h.signals ++ []) b
          rw [List.append_nil]
          exact hp
        | some s => exact hI.hold hp (hhold s rfl)
      · rw [hs]
        have hnext := hI.placed hp hne hsub
        rcases hb : broker.placeOrder request b with ⟨order, b'⟩ | ⟨e, b'⟩
        · rw [hb] at hnext
          rw [bind_of_ok (callBroker_ok _ hb)]
          exact hnext
        · rw [hb] at hnext
          rw [bind_of_error (callBroker_error _ hb)]
          exact hnext
    · have hheard : hear event method h = .error e ⟨s', h.events ++ [event], h.signals⟩ := by
        simp only [hear, hm]
      rw [bind_of_error (callStrategy_error b hheard)]
      exact hp
  · rw [after, process_of_not_running _ b hrun]
    exact hp

lemma perform (hI : SignalInvariant broker I) (call : Call Quote OHLCV) (hp : Holds I (h, b)) :
    Holds I (after (perform strategy.recording broker call) (h, b)) := by
  have hcall : ∀ method : EStateM ε σ Unit,
      Holds I (after (do
        callStrategy (withState method)
        return none : Method (Heard σ Quote OHLCV) β ε (Option Order)) (h, b)) := by
    intro method
    rw [after]
    rcases hm : method h.state with ⟨u, s'⟩ | ⟨e, s'⟩
    · have hw : withState method h = .ok u { h with state := s' } := by
        simp only [withState, hm]
      rw [bind_of_ok (callStrategy_ok b hw)]
      exact hp
    · have hw : withState method h = .error e { h with state := s' } := by
        simp only [withState, hm]
      rw [bind_of_error (callStrategy_error b hw)]
      exact hp
  cases call with
  | start => exact hcall strategy.start
  | stop => exact hcall strategy.stop
  | onQuote quote => exact hI.process (.inl quote) (strategy.onQuote quote) hp
  | onBar bar => exact hI.process (.inr bar) (strategy.onBar bar) hp

/-- It holds after all calls. -/
lemma run (hI : SignalInvariant broker I) (calls : List (Call Quote OHLCV))
    (p : Heard σ Quote OHLCV × β) (hp : Holds I p) :
    Holds I (StrategyRunner.run strategy.recording broker calls p) := by
  induction calls generalizing p with
  | nil => exact hp
  | cons call calls ih => exact ih _ (hI.perform call hp)

end SignalInvariant

/-- One request for each buy and sell signal, in order. -/
def InStep (p : Heard σ Quote OHLCV × Asked β) : Prop :=
  List.Forall₂ Submits (p.1.signals.filter (·.signalType ≠ .hold)) p.2.requests

lemma left_recording (request : OrderRequest) (a : Asked β) :
    left (broker.recording.placeOrder request a) =
      ⟨left (broker.placeOrder request a.state), a.requests ++ [request]⟩ := by
  rcases hb : broker.placeOrder request a.state with ⟨order, b'⟩ | ⟨e, b'⟩ <;>
    simp only [BrokerProvider.recording, hb, left]

lemma signalInvariant_submits : SignalInvariant broker.recording fun signals a =>
    List.Forall₂ Submits (signals.filter (·.signalType ≠ .hold)) a.requests where
  hold hp hs := by
    rw [List.filter_append, List.filter_cons_of_neg (by simpa using hs), List.filter_nil, List.append_nil]
    exact hp
  placed hp hne hsub := by
    rw [left_recording, List.filter_append, List.filter_cons_of_pos (by simpa using hne), List.filter_nil]
    exact List.rel_append hp (List.Forall₂.cons hsub List.Forall₂.nil)

lemma inStep_run (calls : List (Call Quote OHLCV)) (p : Heard σ Quote OHLCV × Asked β)
    (hp : InStep p) : InStep (StrategyRunner.run strategy.recording broker.recording calls p) :=
  signalInvariant_submits.run calls p hp

/-- The states without the records. -/
def forget (p : Heard σ Quote OHLCV × Asked β) : σ × β := (p.1.state, p.2.state)

def forgetResult {α : Type} : EStateM.Result (RunnerError ε) (Heard σ Quote OHLCV × Asked β) α →
    EStateM.Result (RunnerError ε) (σ × β) α
  | .ok a p => .ok a (forget p)
  | .error e p => .error e (forget p)

/-- A method of the recorded runner that does what a method of the runner does. -/
def Mirrors {α : Type} (m : Method (Heard σ Quote OHLCV) (Asked β) ε α) (m' : Method σ β ε α) :
    Prop :=
  ∀ p, forgetResult (m p) = m' (forget p)

lemma Mirrors.bind {α γ : Type} {m : Method (Heard σ Quote OHLCV) (Asked β) ε α}
    {m' : Method σ β ε α} {f : α → Method (Heard σ Quote OHLCV) (Asked β) ε γ}
    {f' : α → Method σ β ε γ} (hm : Mirrors m m') (hf : ∀ a, Mirrors (f a) (f' a)) :
    Mirrors (m >>= f) (m' >>= f') := by
  intro p
  have hp := hm p
  rcases hr : m p with ⟨a, q⟩ | ⟨e, q⟩
  · rw [hr] at hp
    rw [bind_of_ok hr, bind_of_ok hp.symm]
    exact hf a q
  · rw [hr] at hp
    rw [bind_of_error hr, bind_of_error hp.symm]
    rfl

lemma mirrors_pure {α : Type} (a : α) :
    Mirrors (pure a : Method (Heard σ Quote OHLCV) (Asked β) ε α) (pure a) := fun _ => rfl

lemma mirrors_hear (event : Event Quote OHLCV) (method : EStateM ε σ (Option TradingSignal)) :
    Mirrors (callStrategy (hear event method) : Method (Heard σ Quote OHLCV) (Asked β) ε _)
      (callStrategy method) := by
  rintro ⟨h, a⟩
  rcases hm : method h.state with ⟨signal, s'⟩ | ⟨e, s'⟩ <;>
    simp only [callStrategy, hear, hm, forgetResult, forget]

lemma mirrors_withState (method : EStateM ε σ Unit) :
    Mirrors (callStrategy (withState method) : Method (Heard σ Quote OHLCV) (Asked β) ε _)
      (callStrategy method) := by
  rintro ⟨h, a⟩
  rcases hm : method h.state with ⟨u, s'⟩ | ⟨e, s'⟩ <;>
    simp only [callStrategy, withState, hm, forgetResult, forget]

lemma mirrors_placeOrder (request : OrderRequest) :
    Mirrors (callBroker (broker.recording.placeOrder request) :
      Method (Heard σ Quote OHLCV) (Asked β) ε _) (callBroker (broker.placeOrder request)) := by
  rintro ⟨h, a⟩
  rcases hb : broker.placeOrder request a.state with ⟨order, b'⟩ | ⟨e, b'⟩ <;>
    simp only [callBroker, BrokerProvider.recording, hb, forgetResult, forget]

lemma mirrors_submitSignal (signal : Option TradingSignal) :
    Mirrors (submitSignal broker.recording signal : Method (Heard σ Quote OHLCV) (Asked β) ε _)
      (submitSignal broker signal) := by
  rcases signal with _ | s
  · exact mirrors_pure none
  · by_cases hs : s.signalType = .hold
    · simp only [submitSignal, hs, if_true]
      exact mirrors_pure none
    · obtain ⟨request, -, hnew⟩ := new_eq_ok hs
      simp only [submitSignal, if_neg hs, hnew]
      exact (mirrors_placeOrder request).bind fun order => mirrors_pure _

lemma mirrors_process (event : Event Quote OHLCV) (method : EStateM ε σ (Option TradingSignal)) :
    Mirrors (process strategy.recording broker.recording (hear event method))
      (process strategy broker method) := by
  refine Mirrors.bind ?_ fun _ => (mirrors_hear event method).bind mirrors_submitSignal
  rintro ⟨h, a⟩
  by_cases hrun : (strategy.state h.state).status = .running
  · rw [requireRunning_of strategy.recording a hrun, forget, requireRunning_of strategy a.state hrun]
    rfl
  · rw [requireRunning_of_not strategy.recording a hrun, forget,
      requireRunning_of_not strategy a.state hrun]
    rfl

lemma mirrors_perform (call : Call Quote OHLCV) :
    Mirrors (perform strategy.recording broker.recording call) (perform strategy broker call) := by
  cases call with
  | start => exact (mirrors_withState strategy.start).bind fun _ => mirrors_pure none
  | stop => exact (mirrors_withState strategy.stop).bind fun _ => mirrors_pure none
  | onQuote quote => exact mirrors_process (.inl quote) (strategy.onQuote quote)
  | onBar bar => exact mirrors_process (.inr bar) (strategy.onBar bar)

lemma forget_run (calls : List (Call Quote OHLCV)) (p : Heard σ Quote OHLCV × Asked β) :
    forget (StrategyRunner.run strategy.recording broker.recording calls p) =
      StrategyRunner.run strategy broker calls (forget p) := by
  induction calls generalizing p with
  | nil => rfl
  | cons call calls ih =>
    have hstep : forget (after (perform strategy.recording broker.recording call) p) =
        after (perform strategy broker call) (forget p) := by
      rw [after, after, ← mirrors_perform call p]
      rcases perform strategy.recording broker.recording call p with ⟨a, q⟩ | ⟨e, q⟩ <;> rfl
    rw [StrategyRunner.run, List.foldl_cons, ← StrategyRunner.run, ih, hstep]
    rfl

end Recorded

/-- For any strategy and broker and any calls: recording changes nothing, the requests handed to
the broker are the buy and sell signals that the strategy returned, an event while the strategy is
not running changes and records nothing, and no call fails while it builds an order. -/
theorem submitted_run {σ β ε Quote OHLCV : Type} (strategy : Strategy σ ε Quote OHLCV)
    (broker : BrokerProvider β ε) (s : σ) (b : β) (calls : List (Call Quote OHLCV)) :
    let p := StrategyRunner.run strategy.recording broker.recording calls (⟨s, [], []⟩, ⟨b, []⟩)
    (p.1.state, p.2.state) = StrategyRunner.run strategy broker calls (s, b) ∧
      List.Forall₂ Submits (p.1.signals.filter (·.signalType ≠ .hold)) p.2.requests ∧
      ((strategy.state p.1.state).status ≠ .running → ∀ quote bar,
        perform strategy.recording broker.recording (.onQuote quote) p =
            .error (.valueError "strategy must be running to process events") p ∧
          perform strategy.recording broker.recording (.onBar bar) p =
            .error (.valueError "strategy must be running to process events") p) ∧
      ∀ call error p', perform strategy broker call (p.1.state, p.2.state) ≠
        .error (.model error) p' := by
  refine ⟨forget_run calls _, inStep_run calls _ List.Forall₂.nil, fun hrun quote bar => ⟨?_, ?_⟩,
    fun call error p' => perform_ne_model call _ p' error⟩
  · exact process_of_not_running _ _ hrun
  · exact process_of_not_running _ _ hrun

end Pentagon5.Trading
