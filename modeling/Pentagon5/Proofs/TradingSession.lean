import Pentagon5.Finance.Portfolio
import Pentagon5.Proofs.BrokerLedger
import Pentagon5.Proofs.StrategyRunner

/-!
# A strategy on the mock broker

The runner with `MockBrokerProvider` behind it, under exact arithmetic. Whatever the strategy does, the
account is the portfolio that results from its signals, and the execution log lists the signals that
the portfolio afforded.
-/

namespace Pentagon5.Trading

open Python Broker MockBrokerProvider StrategyRunner Finance

/-- The identifiers that a call of `place_order` draws, and its clock reading. -/
structure Draw where
  orderId : Str
  executionId : Str
  now : Broker.Datetime

/-- The mock broker, with the number of its calls so far. -/
def mockBroker {ε : Type} (draws : ℕ → Draw) :
    BrokerProvider (MockBrokerProvider × ℕ) (BrokerError ⊕ ε) where
  placeOrder := fun request b =>
    match MockBrokerProvider.placeOrder .exact request (draws b.2).orderId (draws b.2).executionId
      (draws b.2).now b.1 with
    | .ok order p => .ok order (p, b.2 + 1)
    | .error e p => .error (.inl e) (p, b.2 + 1)

/-- The provider after its `connect`. -/
def opened (accountId : Str) (created : Broker.Datetime) : MockBrokerProvider :=
  { init accountId created with connected := true }

/-- The change that a signal asks for; an infinite quantity is never afforded. -/
def TradingSignal.change (signal : TradingSignal) : Option ℚ :=
  match signal.signalType, signal.quantity with
  | .buy, .finite q => some q
  | .sell, .finite q => some (-q)
  | _, _ => none

/-- A portfolio with the signals that made it. -/
structure Book where
  portfolio : Portfolio Str
  made : List TradingSignal

namespace Book

def start : Book := ⟨⟨startingCash, fun _ => 0⟩, []⟩

/-- A signal that the portfolio does not afford passes without effect. -/
def follow (book : Book) (signal : TradingSignal) : Book :=
  match signal.change with
  | some change =>
    if book.portfolio.Affords marketPrice signal.symbol change then
      ⟨book.portfolio.after marketPrice signal.symbol change, book.made ++ [signal]⟩
    else book
  | none => book

end Book

/-- The execution of a signal. -/
structure Executes (signal : TradingSignal) (execution : Execution) : Prop where
  symbol : execution.symbol = signal.symbol
  side : execution.side = .buy ∧ signal.signalType = .buy ∨ execution.side = .sell ∧ signal.signalType = .sell
  quantity : execution.quantity = signal.quantity
  price : execution.price = .finite marketPrice

/-- What a provider holds. -/
def portfolio (p : MockBrokerProvider) : Portfolio Str := ⟨p.cash, p.held⟩

lemma solvent_of_sound {p : MockBrokerProvider} (hs : p.Sound) : (portfolio p).Solvent :=
  ⟨hs.cash_nonneg, hs.held_nonneg⟩

/-- The provider is where the signals lead. -/
structure Agrees (signals : List TradingSignal) (p : MockBrokerProvider) : Prop where
  connected : p.connected = true
  exact : p.Exact
  follows : portfolio p = (signals.foldl Book.follow .start).portfolio
  executions : List.Forall₂ Executes (signals.foldl Book.follow .start).made p.executions

variable {signals : List TradingSignal} {signal : TradingSignal} {request : OrderRequest}
  {p p' : MockBrokerProvider} {q : ℚ}

lemma change_of_finite (h : Submits signal request) (hq : request.quantity = .finite q) :
    signal.change = some (request.side.signed q) := by
  have hquantity : signal.quantity = .finite q := h.quantity.symm.trans hq
  rcases h.side with ⟨hside, htype⟩ | ⟨hside, htype⟩
  · simp only [TradingSignal.change, htype, hquantity, hside, OrderSide.signed]
  · simp only [TradingSignal.change, htype, hquantity, hside, OrderSide.signed]

lemma change_of_infinite (h : Submits signal request) {sign : Bool}
    (hq : request.quantity = .infinite sign) : signal.change = none := by
  have hquantity : signal.quantity = .infinite sign := h.quantity.symm.trans hq
  rcases h.side with ⟨-, htype⟩ | ⟨-, htype⟩
  · simp only [TradingSignal.change, htype, hquantity]
  · simp only [TradingSignal.change, htype, hquantity]

/-- The broker's conditions are those of the portfolio. -/
lemma covers_iff (hs : p.Sound) (hq : 0 < q) (side : OrderSide) (symbol : Str) :
    p.Covers side symbol q ↔ (portfolio p).Affords marketPrice symbol (side.signed q) := by
  cases side with
  | buy => exact ((solvent_of_sound hs).affords_purchase hq.le).symm
  | sell => exact ((solvent_of_sound hs).affords_sale (by norm_num [marketPrice]) hq.le).symm

lemma portfolio_filled {orderId executionId : Str} {now : Broker.Datetime}
    (hf : Filled p request orderId executionId now q p') :
    portfolio p' = (portfolio p).after marketPrice request.symbol (request.side.signed q) := by
  rw [portfolio, Portfolio.after, hf.cash_eq]
  congr 1
  funext symbol
  by_cases h : symbol = request.symbol
  · rw [h, Function.update_self, hf.held_self]
    rfl
  · rw [Function.update_of_ne h, hf.held_of_ne h]
    rfl

lemma foldl_follow_snoc (signals : List TradingSignal) (signal : TradingSignal) :
    (signals ++ [signal]).foldl Book.follow .start = (signals.foldl Book.follow .start).follow signal :=
  List.foldl_append

/-- A signal without effect leaves the provider as it was. -/
lemma Agrees.skipped (h : Agrees signals p)
    (hsame : (signals.foldl Book.follow .start).follow signal = signals.foldl Book.follow .start) :
    Agrees (signals ++ [signal]) p := by
  refine ⟨h.connected, h.exact, ?_, ?_⟩
  · rw [foldl_follow_snoc, hsame]
    exact h.follows
  · rw [foldl_follow_snoc, hsame]
    exact h.executions

/-- A filled order makes the signal's trade. -/
lemma Agrees.filled (h : Agrees signals p) (hsub : Submits signal request) {orderId executionId : Str}
    {now : Broker.Datetime} (hf : Filled p request orderId executionId now q p')
    (hequity : p'.account.equity = .finite (p'.cash + worth p'.positions)) :
    Agrees (signals ++ [signal]) p' := by
  have hs := h.exact.sound
  have hafford := (covers_iff hs hf.positive request.side request.symbol).mp hf.covers
  rw [hsub.symbol, h.follows] at hafford
  have hmade : (signals.foldl Book.follow .start).follow signal =
      ⟨(signals.foldl Book.follow .start).portfolio.after marketPrice signal.symbol (request.side.signed q),
        (signals.foldl Book.follow .start).made ++ [signal]⟩ := by
    simp only [Book.follow, change_of_finite hsub hf.quantity, if_pos hafford]
  refine ⟨hf.connected.trans h.connected, ⟨hf.sound hs, hf.settled h.exact.settled, hequity⟩, ?_, ?_⟩
  · rw [foldl_follow_snoc, hmade, portfolio_filled hf, h.follows, hsub.symbol]
  · rw [foldl_follow_snoc, hmade, hf.executions]
    exact List.rel_append h.executions (.cons ⟨hsub.symbol, hsub.side, hsub.quantity, rfl⟩ .nil)

/-- The order of a signal does to the provider what the signal does to the portfolio. -/
lemma Agrees.placeOrder (h : Agrees signals p) (hsub : Submits signal request)
    (orderId executionId : Str) (now : Broker.Datetime) :
    Agrees (signals ++ [signal])
      (left (MockBrokerProvider.placeOrder .exact request orderId executionId now p)) := by
  have hs := h.exact.sound
  have hpos := positive_of_validateOrder request.valid
  rcases placeOrder_exact request orderId executionId now hs with ⟨e, -, he⟩ | ⟨q, p', he, hf, hequity⟩
  · rw [he]
    apply h.skipped
    rcases hq : request.quantity with q | sign | _
    · have hafford : ¬(signals.foldl Book.follow .start).portfolio.Affords marketPrice signal.symbol
          (request.side.signed q) := by
        rw [hq] at hpos
        rw [← h.follows, ← hsub.symbol, ← covers_iff hs hpos]
        intro hcov
        -- a covered order is not refused
        obtain ⟨p', hplace, -⟩ := placeOrder_covered orderId executionId now hs h.connected
          hsub.orderType hq hcov
        rw [hplace] at he
        cases he
      simp only [Book.follow, change_of_finite hsub hq, if_neg hafford]
    · simp only [Book.follow, change_of_infinite hsub hq]
    · rw [hq] at hpos
      exact hpos.elim
  · rw [he]
    exact h.filled hsub hf hequity

lemma agrees_opened (accountId : Str) (created : Broker.Datetime) :
    Agrees [] (opened accountId created) where
  connected := rfl
  exact := ⟨(sound_init accountId created).setConnected true, (exact_init accountId created).settled,
    (exact_init accountId created).equity⟩
  follows := rfl
  executions := .nil

lemma follow_hold (book : Book) (h : signal.signalType = .hold) : book.follow signal = book := by
  have hchange : signal.change = none := by simp only [TradingSignal.change, h]
  simp only [Book.follow, hchange]

lemma left_mockBroker {ε : Type} (draws : ℕ → Draw) (request : OrderRequest) (b : MockBrokerProvider × ℕ) :
    (left ((mockBroker draws : BrokerProvider _ (BrokerError ⊕ ε)).placeOrder request b)).1 =
      left (MockBrokerProvider.placeOrder .exact request (draws b.2).orderId (draws b.2).executionId
        (draws b.2).now b.1) := by
  rcases hplace : MockBrokerProvider.placeOrder .exact request (draws b.2).orderId
    (draws b.2).executionId (draws b.2).now b.1 with ⟨order, p⟩ | ⟨e, p⟩
  · simp only [mockBroker, hplace, left]
  · simp only [mockBroker, hplace, left]

lemma signalInvariant_agrees {ε : Type} (draws : ℕ → Draw) :
    SignalInvariant (mockBroker draws : BrokerProvider _ (BrokerError ⊕ ε)).recording
      fun signals a => Agrees signals a.state.1 where
  hold h hs := h.skipped (follow_hold _ hs)
  placed h _ hsub := by
    rw [left_recording, left_mockBroker]
    exact h.placeOrder hsub _ _ _

/-- An order that the broker refuses leaves the provider as it was. -/
lemma provider_of_refused {ε : Type} {draws : ℕ → Draw} {b b' : MockBrokerProvider × ℕ} {e : BrokerError ⊕ ε}
    (hs : b.1.Sound) (h : (mockBroker draws).placeOrder request b = .error e b') : b'.1 = b.1 := by
  have hplaced := placeOrder_exact request (draws b.2).orderId (draws b.2).executionId (draws b.2).now hs
  rcases hplaced with ⟨refusal, -, hplace⟩ | ⟨q, p', hplace, -⟩
  · simp only [mockBroker, hplace] at h
    cases h
    rfl
  · simp only [mockBroker, hplace] at h
    cases h

/-- The account of a provider, in terms of a portfolio. -/
structure Reports (p : MockBrokerProvider) (f : Portfolio Str) : Prop where
  cash : p.account.cashBalance = .finite f.cash
  absent : ∀ symbol, p.positions.get symbol = none ↔ f.held symbol = 0
  present : ∀ symbol position, p.positions.get symbol = some position →
    position.quantity = .finite (f.held symbol)

lemma Agrees.reports (h : Agrees signals p) : Reports p (signals.foldl Book.follow .start).portfolio := by
  have hs := h.exact.sound
  rw [← h.follows]
  refine ⟨hs.cash_eq, fun symbol => ?_, fun symbol position hget => (hs.priced symbol position hget).quantity_eq⟩
  have hheld := hs.held_ne_zero_iff symbol
  rw [Option.isSome_iff_ne_none] at hheld
  exact (not_iff_not.mp hheld).symm

/-- For any strategy, any draws of the broker and any calls of the runner, with exact arithmetic: the
broker's account is the portfolio that follows the signals of the strategy, the account balances, and
the executions are the signals that the portfolio afforded, in order. A call that raises then, because the
strategy does or because the broker refuses its order, leaves the whole provider as it was. -/
theorem reports_run {σ ε Quote OHLCV : Type} (strategy : Strategy σ (BrokerError ⊕ ε) Quote OHLCV) (s : σ)
    (draws : ℕ → Draw) (accountId : Str) (created : Broker.Datetime)
    (calls : List (StrategyRunner.Call Quote OHLCV)) :
    let b := (opened accountId created, 0)
    let p := StrategyRunner.run strategy.recording (mockBroker draws).recording calls
      (⟨s, [], []⟩, ⟨b, []⟩)
    let book := p.1.signals.foldl Book.follow .start
    (p.1.state, p.2.state) = StrategyRunner.run strategy (mockBroker draws) calls (s, b) ∧
      Reports p.2.state.1 book.portfolio ∧ Balanced p.2.state.1 ∧
      List.Forall₂ Executes book.made p.2.state.1.executions ∧
      ∀ call error left, StrategyRunner.perform strategy (mockBroker draws) call (p.1.state, p.2.state) =
        .error error left → left.2.1 = p.2.state.1 := by
  intro b p book
  have hagrees : Agrees p.1.signals p.2.state.1 :=
    (signalInvariant_agrees draws).run calls _ (agrees_opened accountId created)
  refine ⟨forget_run calls _, hagrees.reports, hagrees.exact.balanced, hagrees.executions, ?_⟩
  intro call error left hraised
  exact perform_error (P := fun b => b.1 = p.2.state.1) rfl
    (fun request e b' hrefused => provider_of_refused hagrees.exact.sound hrefused) hraised

end Pentagon5.Trading
