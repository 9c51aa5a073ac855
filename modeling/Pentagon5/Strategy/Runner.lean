import Pentagon5.Broker.Models
import Pentagon5.Python.Raising

/-!
# The strategy runner

`StrategyRunner` hands market data to a strategy and its signals to a broker. Both are
interfaces: a strategy and a broker are state machines over states of their own, whose methods
may raise any exception of a type `ε`. Quotes and bars are passed on unread.
-/

namespace Pentagon5.Trading

open Python Broker

inductive StrategyStatus
  | stopped
  | running
  | error
deriving DecidableEq

inductive SignalType
  | buy
  | sell
  | hold
deriving DecidableEq

/-- `__post_init__` of a signal. -/
def validateSignal (signalType : SignalType) (quantity : Decimal) : Except BrokerError Unit := do
  if signalType = .buy ∨ signalType = .sell then
    if ← arith (quantity.le (.finite 0)) then
      throw (.valueError "quantity must be positive for buy and sell signals")
  else if ← arith (quantity.lt (.finite 0)) then
    throw (.valueError "quantity cannot be negative for hold signals")

structure TradingSignal where
  symbol : Str
  signalType : SignalType
  generatedAt : Broker.Datetime
  quantity : Decimal
  reason : Str
  valid : validateSignal signalType quantity = .ok ()

structure StrategyState where
  status : StrategyStatus
  updatedAt : Broker.Datetime
  lastSignal : Option TradingSignal
  errorMessage : Option Str

/-- The methods of a strategy over its own state `σ`. -/
structure Strategy (σ ε Quote OHLCV : Type) where
  state : σ → StrategyState
  start : EStateM ε σ Unit
  stop : EStateM ε σ Unit
  onQuote : Quote → EStateM ε σ (Option TradingSignal)
  onBar : OHLCV → EStateM ε σ (Option TradingSignal)

/-- The method of a broker that the runner uses, over the broker's own state `β`. -/
structure BrokerProvider (β ε : Type) where
  placeOrder : OrderRequest → EStateM ε β Order

/-- What the runner may raise: its own error, that of a model, or what a component raised. -/
inductive RunnerError (ε : Type)
  | valueError (message : Str)
  | model (error : BrokerError)
  | raised (exception : ε)

namespace StrategyRunner

variable {σ β ε Quote OHLCV : Type}

/-- A method of the runner, over the states of its strategy and its broker. -/
abbrev Method (σ β ε : Type) := EStateM (RunnerError ε) (σ × β)

def callStrategy {α : Type} (method : EStateM ε σ α) : Method σ β ε α := fun (s, b) =>
  match method s with
  | .ok a s => .ok a (s, b)
  | .error e s => .error (.raised e) (s, b)

def callBroker {α : Type} (method : EStateM ε β α) : Method σ β ε α := fun (s, b) =>
  match method b with
  | .ok a b => .ok a (s, b)
  | .error e b => .error (.raised e) (s, b)

variable (strategy : Strategy σ ε Quote OHLCV) (broker : BrokerProvider β ε)

def requireRunning : Method σ β ε Unit := do
  if (strategy.state (← get).1).status ≠ .running then
    throw (.valueError "strategy must be running to process events")

/-- `_submit_signal`. -/
def submitSignal (signal : Option TradingSignal) : Method σ β ε (Option Order) := do
  match signal with
  | none => return none
  | some signal =>
    if signal.signalType = .hold then
      return none
    let side : OrderSide := if signal.signalType = .buy then .buy else .sell
    let request ← attempt ((OrderRequest.new signal.symbol side .market signal.quantity
      signal.generatedAt none).mapError .model)
    return some (← callBroker (broker.placeOrder request))

/-- The common body of `on_quote` and `on_bar`. -/
def process (method : EStateM ε σ (Option TradingSignal)) : Method σ β ε (Option Order) := do
  requireRunning strategy
  submitSignal broker (← callStrategy method)

def onQuote (quote : Quote) : Method σ β ε (Option Order) :=
  process strategy broker (strategy.onQuote quote)

def onBar (bar : OHLCV) : Method σ β ε (Option Order) :=
  process strategy broker (strategy.onBar bar)

/-- A call of the runner. -/
inductive Call (Quote OHLCV : Type)
  | start
  | stop
  | onQuote (quote : Quote)
  | onBar (bar : OHLCV)

def perform : Call Quote OHLCV → Method σ β ε (Option Order)
  | .start => do
    callStrategy strategy.start
    return none
  | .stop => do
    callStrategy strategy.stop
    return none
  | .onQuote quote => onQuote strategy broker quote
  | .onBar bar => onBar strategy broker bar

/-- The state that a method leaves, whether it raises or not. -/
def after {α : Type} (method : Method σ β ε α) (p : σ × β) : σ × β :=
  match method p with
  | .ok _ p => p
  | .error _ p => p

def run (calls : List (Call Quote OHLCV)) (p : σ × β) : σ × β :=
  calls.foldl (fun p call => after (perform strategy broker call) p) p

end StrategyRunner

section Recording

variable {σ β ε Quote OHLCV α : Type}

/-- A market event. -/
abbrev Event (Quote OHLCV : Type) := Quote ⊕ OHLCV

/-- A strategy with a list of the events that reached it and of the signals it returned. -/
structure Heard (σ Quote OHLCV : Type) where
  state : σ
  events : List (Event Quote OHLCV)
  signals : List TradingSignal

def hear (event : Event Quote OHLCV) (method : EStateM ε σ (Option TradingSignal)) :
    EStateM ε (Heard σ Quote OHLCV) (Option TradingSignal) := fun h =>
  match method h.state with
  | .ok signal s => .ok signal ⟨s, h.events ++ [event], h.signals ++ signal.toList⟩
  | .error e s => .error e ⟨s, h.events ++ [event], h.signals⟩

def withState (method : EStateM ε σ α) : EStateM ε (Heard σ Quote OHLCV) α := fun h =>
  match method h.state with
  | .ok a s => .ok a { h with state := s }
  | .error e s => .error e { h with state := s }

/-- The strategy, recording what it hears and answers. -/
def Strategy.recording (strategy : Strategy σ ε Quote OHLCV) :
    Strategy (Heard σ Quote OHLCV) ε Quote OHLCV where
  state := fun h => strategy.state h.state
  start := withState strategy.start
  stop := withState strategy.stop
  onQuote := fun quote => hear (.inl quote) (strategy.onQuote quote)
  onBar := fun bar => hear (.inr bar) (strategy.onBar bar)

/-- A broker with a list of the requests it was handed, accepted or not. -/
structure Asked (β : Type) where
  state : β
  requests : List OrderRequest

def BrokerProvider.recording (broker : BrokerProvider β ε) : BrokerProvider (Asked β) ε where
  placeOrder := fun request a =>
    match broker.placeOrder request a.state with
    | .ok order b => .ok order ⟨b, a.requests ++ [request]⟩
    | .error e b => .error e ⟨b, a.requests ++ [request]⟩

end Recording

end Pentagon5.Trading
