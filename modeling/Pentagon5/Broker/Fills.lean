import Pentagon5.Broker.Provider

/-!
# What a fill does

A provider is `Sound` when its amounts are finite, its positions are held at the market price
and cash and positions are worth the starting cash together. From a sound provider a market
order is either refused, and changes nothing, or filled, and then `Filled` lists everything it
changes; the context enters only through the results of the roundings.
-/

namespace Pentagon5.Broker

open Python MockBrokerProvider

lemma arith_ok {α : Type} (a : α) : arith (.ok a) = .ok a := rfl

namespace MockBrokerProvider

variable {p p' : MockBrokerProvider}

lemma requireConnected_of (h : p.connected = true) : requireConnected p = .ok () p := by
  refine (bind_of_ok rfl).trans ?_
  rw [if_neg (not_not.mpr h)]
  rfl

lemma requireConnected_of_not (h : p.connected = false) :
    requireConnected p = .error (.valueError "broker provider is disconnected") p := by
  refine (bind_of_ok rfl).trans ?_
  rw [if_pos (by simp [h])]
  rfl

lemma getPositions_of (h : p.connected = true) :
    getPositions p = .ok p.positions.sortedValues p := bind_of_ok (requireConnected_of h)

/-- The number of the cash balance. -/
def cash (p : MockBrokerProvider) : ℚ := p.account.cashBalance.toRat

/-- The number held of a symbol. -/
def held (p : MockBrokerProvider) (symbol : Str) : ℚ :=
  Dict.contribution (fun position : Position => position.quantity.toRat) (p.positions.get symbol)

/-- The positions at the market price. -/
def worth (positions : Dict Str Position) : ℚ :=
  (positions.values.map fun position => position.quantity.toRat * marketPrice).sum

/-- A position of a symbol as a fill at the market price leaves it. -/
structure PricedAt (symbol : Str) (quantity : ℚ) (position : Position) : Prop where
  symbol_eq : position.symbol = symbol
  quantity_eq : position.quantity = .finite quantity
  averagePrice : position.averagePrice = .finite marketPrice
  positive : 0 < quantity

structure Sound (p : MockBrokerProvider) : Prop where
  cash_eq : p.account.cashBalance = .finite p.cash
  cash_nonneg : 0 ≤ p.cash
  buyingPower : p.account.buyingPower = p.account.cashBalance
  priced : ∀ symbol position, p.positions.get symbol = some position →
    PricedAt symbol (p.held symbol) position
  listed : p.account.positions = p.positions.sortedValues
  conserved : p.cash + worth p.positions = startingCash

lemma held_of_none {symbol : Str} (h : p.positions.get symbol = none) : p.held symbol = 0 := by
  rw [held, h, Dict.contribution_none]

namespace Sound

variable (hs : p.Sound) (symbol : Str)

include hs

lemma held_nonneg : 0 ≤ p.held symbol := by
  rcases h : p.positions.get symbol with _ | position
  · rw [held_of_none h]
  · exact (hs.priced symbol position h).positive.le

lemma held_ne_zero_iff : p.held symbol ≠ 0 ↔ (p.positions.get symbol).isSome := by
  rcases h : p.positions.get symbol with _ | position
  · simp [held_of_none h]
  · simpa using (hs.priced symbol position h).positive.ne'

lemma values_nonneg : ∀ position ∈ p.positions.values, 0 ≤ position.quantity.toRat * marketPrice := by
  intro position hm
  obtain ⟨symbol, h⟩ := Dict.mem_values.mp hm
  have hp := hs.priced symbol position h
  rw [hp.quantity_eq, Decimal.toRat_finite]
  exact mul_nonneg hp.positive.le (by norm_num [marketPrice])

lemma worth_nonneg : 0 ≤ worth p.positions := by
  apply List.sum_nonneg
  simpa using hs.values_nonneg

lemma held_le_worth : p.held symbol * marketPrice ≤ worth p.positions := by
  rcases h : p.positions.get symbol with _ | position
  · rw [held_of_none h, zero_mul]
    exact hs.worth_nonneg
  · have hp := hs.priced symbol position h
    have hm : position ∈ p.positions.values := Dict.mem_values.mpr ⟨symbol, h⟩
    have hle : position.quantity.toRat * marketPrice ≤ worth p.positions := by
      apply List.single_le_sum
      · simpa using hs.values_nonneg
      · exact List.mem_map_of_mem hm
    rwa [hp.quantity_eq, Decimal.toRat_finite] at hle

lemma held_le : p.held symbol * marketPrice ≤ startingCash := by
  have := hs.held_le_worth symbol
  have := hs.cash_nonneg
  have := hs.conserved
  linarith

end Sound

end MockBrokerProvider

/-- What a side does to the number held. -/
def OrderSide.signed (side : OrderSide) (quantity : ℚ) : ℚ :=
  match side with
  | .buy => quantity
  | .sell => -quantity

namespace MockBrokerProvider

/-- The cash covers a purchase, the position covers a sale. -/
def Covers (p : MockBrokerProvider) (side : OrderSide) (symbol : Str) (quantity : ℚ) : Prop :=
  match side with
  | .buy => quantity * marketPrice ≤ p.cash
  | .sell => quantity ≤ p.held symbol

/-- The positions after `symbol` is brought to `quantity`. -/
def Moves (positions : Dict Str Position) (symbol : Str) (quantity : ℚ) (now : Datetime)
    (positions' : Dict Str Position) : Prop :=
  (quantity = 0 ∧ positions' = positions.erase symbol) ∨
    ∃ position, PricedAt symbol quantity position ∧ position.updatedAt = now ∧
      positions' = positions.set symbol position

/-- The provider after `_apply_fill` wrote these positions and this cash balance. -/
def settle (p : MockBrokerProvider) (positions : Dict Str Position) (cash : ℚ) (now : Datetime) :
    MockBrokerProvider :=
  { p with
    positions := positions
    account :=
      { id := p.account.id
        cashBalance := .finite cash
        equity := p.account.equity
        buyingPower := .finite cash
        updatedAt := now
        positions := positions.sortedValues } }

/-- The roundings of a fill at the market price deliver the exact cash, quantity and price. -/
def Keeps (ctx : Context) (p : MockBrokerProvider) (side : OrderSide) (symbol : Str)
    (quantity : ℚ) : Prop :=
  match side with
  | .buy =>
    ctx.round (quantity * marketPrice) = .ok (quantity * marketPrice) ∧
    ctx.round (p.held symbol * marketPrice) = .ok (p.held symbol * marketPrice) ∧
    ctx.round (p.held symbol + quantity) = .ok (p.held symbol + quantity) ∧
    ctx.round (p.held symbol * marketPrice + quantity * marketPrice) =
      .ok (p.held symbol * marketPrice + quantity * marketPrice) ∧
    ctx.round marketPrice = .ok marketPrice ∧
    ctx.round (p.cash - quantity * marketPrice) = .ok (p.cash - quantity * marketPrice)
  | .sell =>
    ctx.round (p.held symbol - quantity) = .ok (p.held symbol - quantity) ∧
    ∃ notional, ctx.round (quantity * marketPrice) = .ok notional ∧
      ctx.round (p.cash + notional) = .ok (p.cash + quantity * marketPrice)

variable {p p' : MockBrokerProvider} {ctx : Context} {execution : Execution} {q : ℚ}

lemma applyBuy_of_keeps (hs : p.Sound) (hq : execution.quantity = .finite q) (hpos : 0 < q)
    (hcov : p.Covers .buy execution.symbol q) (hk : p.Keeps ctx .buy execution.symbol q) :
    ∃ position, PricedAt execution.symbol (p.held execution.symbol + q) position ∧
      position.updatedAt = execution.executedAt ∧
      applyBuy ctx execution (p.positions.get execution.symbol) (.finite (q * marketPrice)) p =
        .ok (.finite (p.cash - q * marketPrice))
          { p with positions := p.positions.set execution.symbol position } := by
  obtain ⟨-, hcost, hsum, htotal, hprice, hcash⟩ := hk
  have hheld := hs.held_nonneg execution.symbol
  have hp := hs.priced execution.symbol
  have hnone : p.positions.get execution.symbol = none → p.held execution.symbol = 0 := held_of_none
  generalize p.held execution.symbol = h at *
  have hne : h + q ≠ 0 := by linarith
  have hvalid : validatePositive (.finite (h + q)) "quantity" = .ok () :=
    validatePositive_eq_ok.mpr (by simp only [Decimal.Positive]; linarith)
  have hvalid' : validatePositive (.finite marketPrice) "average price" = .ok () :=
    validatePositive_eq_ok.mpr (by norm_num [Decimal.Positive, marketPrice])
  have hdiv : (h * marketPrice + q * marketPrice) / (h + q) = marketPrice := by
    rw [← add_mul, mul_div_assoc, mul_comm, div_mul_cancel₀ _ hne]
  have hlt : p.account.cashBalance.lt (.finite (q * marketPrice)) = .ok false := by
    rw [hs.cash_eq, Decimal.finite_lt, decide_eq_false (not_lt.mpr hcov)]
  have hcash' : p.account.cashBalance.sub ctx (.finite (q * marketPrice)) =
      .ok (.finite (p.cash - q * marketPrice)) := by
    rw [hs.cash_eq, Decimal.finite_sub, hcash]
    rfl
  have hnew := Position.new_eq_ok execution.symbol execution.executedAt hvalid hvalid'
  refine ⟨⟨execution.symbol, .finite (h + q), .finite marketPrice, execution.executedAt, hvalid,
    hvalid'⟩, ⟨rfl, rfl, rfl, by linarith⟩, rfl, ?_⟩
  rcases he : p.positions.get execution.symbol with _ | position
  · obtain rfl := hnone he
    rw [zero_mul] at htotal hdiv
    simp only [applyBuy, get_bind, hlt, arith_ok, attempt_ok_bind, Bool.false_eq_true, if_false, hq,
      pure_bind_apply, Decimal.finite_add, hsum, htotal, Except.map, Decimal.finite_div _ _ _ hne,
      hdiv, hprice, hnew, modify_bind, hcash', attempt_ok]
  · have hp := hp position he
    simp only [applyBuy, get_bind, hlt, arith_ok, attempt_ok_bind, Bool.false_eq_true, if_false, hq,
      hp.quantity_eq, hp.averagePrice, Decimal.finite_mul, hcost, Decimal.finite_add, hsum, htotal,
      Except.map, Decimal.finite_div _ _ _ hne, hdiv, hprice, hnew, modify_bind, hcash', attempt_ok]

lemma applySell_of_keeps (hs : p.Sound) (hq : execution.quantity = .finite q) (hpos : 0 < q)
    (hcov : p.Covers .sell execution.symbol q)
    (hround : ctx.round (p.held execution.symbol - q) = .ok (p.held execution.symbol - q))
    {notional : ℚ} (hcash : ctx.round (p.cash + notional) = .ok (p.cash + q * marketPrice)) :
    ∃ positions', Moves p.positions execution.symbol (p.held execution.symbol - q)
        execution.executedAt positions' ∧
      applySell ctx execution (p.positions.get execution.symbol) (.finite notional) p =
        .ok (.finite (p.cash + q * marketPrice)) { p with positions := positions' } := by
  have hcov' : q ≤ p.held execution.symbol := hcov
  obtain ⟨position, he⟩ : ∃ position, p.positions.get execution.symbol = some position := by
    rw [← Option.isSome_iff_exists, ← hs.held_ne_zero_iff]
    exact (hpos.trans_le hcov').ne'
  have hp := hs.priced _ _ he
  generalize p.held execution.symbol = h at *
  have hlt : position.quantity.lt execution.quantity = .ok false := by
    rw [hp.quantity_eq, hq, Decimal.finite_lt, decide_eq_false (not_lt.mpr hcov')]
  have hsub : position.quantity.sub ctx execution.quantity = .ok (.finite (h - q)) := by
    rw [hp.quantity_eq, hq, Decimal.finite_sub, hround]
    rfl
  have hcash' : p.account.cashBalance.add ctx (.finite notional) =
      .ok (.finite (p.cash + q * marketPrice)) := by
    rw [hs.cash_eq, Decimal.finite_add, hcash]
    rfl
  by_cases hz : h - q = 0
  · refine ⟨p.positions.erase execution.symbol, Or.inl ⟨hz, rfl⟩, ?_⟩
    simp only [applySell, he, hlt, arith_ok, attempt_ok_bind, Bool.false_eq_true, if_false, hsub,
      Decimal.finite_eq, hz, decide_true, if_true, modify_bind, get_bind, hcash', attempt_ok]
  · have hrest : 0 < h - q := lt_of_le_of_ne (by linarith) (Ne.symm hz)
    have hvalid : validatePositive (.finite (h - q)) "quantity" = .ok () :=
      validatePositive_eq_ok.mpr hrest
    have hnew := Position.new_eq_ok position.symbol execution.executedAt hvalid position.valid.2
    refine ⟨_, Or.inr ⟨⟨position.symbol, .finite (h - q), position.averagePrice,
      execution.executedAt, hvalid, position.valid.2⟩,
      ⟨hp.symbol_eq, rfl, hp.averagePrice, hrest⟩, rfl, rfl⟩, ?_⟩
    simp only [applySell, he, hlt, arith_ok, attempt_ok_bind, Bool.false_eq_true, if_false, hsub,
      Decimal.finite_eq, hz, decide_false, hnew, modify_bind, get_bind, hcash', attempt_ok]

/-- A covered fill whose roundings are exact moves the position and the cash by its quantity. -/
lemma applyFill_of_keeps (hs : p.Sound) (hconn : p.connected = true)
    (hprice : execution.price = .finite marketPrice) (hq : execution.quantity = .finite q)
    (hpos : 0 < q) (hcov : p.Covers execution.side execution.symbol q)
    (hk : p.Keeps ctx execution.side execution.symbol q) :
    ∃ positions', Moves p.positions execution.symbol
        (p.held execution.symbol + execution.side.signed q) execution.executedAt positions' ∧
      applyFill ctx execution p = .ok () (p.settle positions'
        (p.cash - execution.side.signed q * marketPrice) execution.executedAt) := by
  cases hside : execution.side with
  | buy =>
    rw [hside] at hcov hk
    obtain ⟨position, hp, hu, hfill⟩ := applyBuy_of_keeps hs hq hpos hcov hk
    refine ⟨_, Or.inr ⟨position, hp, hu, rfl⟩, ?_⟩
    have hmul : execution.quantity.mul ctx execution.price = .ok (.finite (q * marketPrice)) := by
      rw [hq, hprice, Decimal.finite_mul, hk.1]
      rfl
    simp only [applyFill, get_bind, hmul, arith_ok, attempt_ok_bind, hside]
    rw [bind_of_ok hfill, bind_of_ok (getPositions_of (by exact hconn))]
    rfl
  | sell =>
    rw [hside] at hcov hk
    obtain ⟨hround, notional, hn, hcash⟩ := hk
    obtain ⟨positions', hm, hfill⟩ := applySell_of_keeps hs hq hpos hcov hround hcash
    have hmul : execution.quantity.mul ctx execution.price = .ok (.finite notional) := by
      rw [hq, hprice, Decimal.finite_mul, hn]
      rfl
    have hsigned : p.cash - OrderSide.sell.signed q * marketPrice = p.cash + q * marketPrice := by
      rw [OrderSide.signed, neg_mul, sub_neg_eq_add]
    refine ⟨positions', by rwa [OrderSide.signed, ← sub_eq_add_neg], ?_⟩
    rw [hsigned]
    simp only [applyFill, get_bind, hmul, arith_ok, attempt_ok_bind, hside]
    rw [bind_of_ok hfill, bind_of_ok (getPositions_of (by exact hconn))]
    rfl

/-- What the two checks of `_apply_fill` find lacking. -/
def Lacks (ctx : Context) (p : MockBrokerProvider) (side : OrderSide) (symbol : Str)
    (quantity : Decimal) : Prop :=
  match side with
  | .buy => ∀ notional, quantity.mul ctx (.finite marketPrice) = .ok notional →
      p.account.cashBalance.lt notional = .ok true
  | .sell => ∀ position, p.positions.get symbol = some position →
      position.quantity.lt quantity = .ok true

def insufficient : OrderSide → BrokerError
  | .buy => .valueError "insufficient cash"
  | .sell => .valueError "insufficient position"

/-- A fill that is not covered is refused before anything is written. -/
lemma applyFill_of_lacks (hprice : execution.price = .finite marketPrice)
    (hl : p.Lacks ctx execution.side execution.symbol execution.quantity) :
    ∃ e, applyFill ctx execution p = .error e p ∧
      (e = insufficient execution.side ∨
        ∃ signal, execution.quantity.mul ctx (.finite marketPrice) = .error signal ∧
          e = .decimal signal) := by
  rcases hmul : execution.quantity.mul ctx (.finite marketPrice) with signal | notional
  · refine ⟨.decimal signal, ?_, Or.inr ⟨signal, rfl, rfl⟩⟩
    simp only [applyFill, get_bind, hprice, hmul]
    rfl
  · refine ⟨insufficient execution.side, ?_, Or.inl rfl⟩
    cases hside : execution.side with
    | buy =>
      rw [hside] at hl
      simp only [applyFill, get_bind, hprice, hmul, arith_ok, attempt_ok_bind, hside]
      apply bind_of_error
      simp only [applyBuy, get_bind, hl notional hmul, arith_ok, attempt_ok_bind, if_true, throw_bind]
      rfl
    | sell =>
      rw [hside] at hl
      simp only [applyFill, get_bind, hprice, hmul, arith_ok, attempt_ok_bind, hside]
      apply bind_of_error
      rcases hget : p.positions.get execution.symbol with _ | position
      · rfl
      · simp only [applySell, hl position hget, arith_ok, attempt_ok_bind, if_true, throw_bind]
        rfl

end MockBrokerProvider

/-- The order that a filled request is stored as. -/
def OrderRequest.order (request : OrderRequest) (orderId : Str) (now : Datetime) : Order where
  id := orderId
  symbol := request.symbol
  side := request.side
  orderType := .market
  quantity := request.quantity
  status := .filled
  createdAt := now
  updatedAt := now
  limitPrice := none
  valid := validateOrder_market (positive_of_validateOrder request.valid)

def OrderRequest.execution (request : OrderRequest) (orderId executionId : Str) (now : Datetime) :
    Execution where
  id := executionId
  orderId := orderId
  symbol := request.symbol
  side := request.side
  quantity := request.quantity
  price := .finite marketPrice
  executedAt := now
  valid := ⟨validatePositive_eq_ok.mpr (positive_of_validateOrder request.valid),
    validatePositive_eq_ok.mpr (by norm_num [Decimal.Positive, marketPrice])⟩

namespace MockBrokerProvider

/-- Everything that filling a request for `q` changes. -/
structure Filled (p : MockBrokerProvider) (request : OrderRequest) (orderId executionId : Str)
    (now : Datetime) (q : ℚ) (p' : MockBrokerProvider) : Prop where
  connected : p'.connected = p.connected
  orders : p'.orders = p.orders.set orderId (request.order orderId now)
  executions : p'.executions = p.executions ++ [request.execution orderId executionId now]
  quantity : request.quantity = .finite q
  positive : 0 < q
  covers : p.Covers request.side request.symbol q
  moves : Moves p.positions request.symbol (p.held request.symbol + request.side.signed q) now
    p'.positions
  cash : p'.account.cashBalance = .finite (p.cash - request.side.signed q * marketPrice)
  buyingPower : p'.account.buyingPower = p'.account.cashBalance
  listed : p'.account.positions = p'.positions.sortedValues

variable {p p' : MockBrokerProvider} {ctx : Context} {q : ℚ} {request : OrderRequest}
  {orderId executionId : Str} {now : Datetime}

lemma refreshAccount_of (hconn : p.connected = true) {value equity : Decimal}
    (hv : marketValue ctx p.positions.values (.finite 0) = .ok value)
    (he : p.account.cashBalance.add ctx value = .ok equity) :
    refreshAccount ctx now p = .ok () { p with account :=
      { id := p.account.id
        cashBalance := p.account.cashBalance
        equity := equity
        buyingPower := p.account.cashBalance
        updatedAt := now
        positions := p.positions.sortedValues } } := by
  simp only [refreshAccount, get_bind, hv, attempt_ok_bind, he, arith_ok]
  rw [bind_of_ok (getPositions_of hconn)]
  rfl

/-- What remains of `place_order` once the checks before the fill have passed. -/
lemma placeOrder_eq (hconn : p.connected = true) (hm : request.orderType = .market) :
    placeOrder ctx request orderId executionId now p =
      (do
        applyFill ctx (request.execution orderId executionId now)
        modify fun p => { p with orders := p.orders.set orderId (request.order orderId now) }
        modify fun p =>
          { p with executions := p.executions ++ [request.execution orderId executionId now] }
        refreshAccount ctx now
        return request.order orderId now : Method Order) p := by
  have horder : Order.new orderId request.symbol request.side .market request.quantity .filled now
      now none = .ok (request.order orderId now) :=
    Order.new_eq_ok (request.order orderId now).valid
  have hexec : Execution.new executionId (request.order orderId now).id
      (request.order orderId now).symbol (request.order orderId now).side
      (request.order orderId now).quantity (.finite marketPrice) now =
      .ok (request.execution orderId executionId now) :=
    Execution.new_eq_ok (request.execution orderId executionId now).valid.1
      (request.execution orderId executionId now).valid.2
  unfold placeOrder
  rw [bind_of_ok (requireConnected_of hconn)]
  simp only [hm, reduceCtorEq, if_false, horder, hexec, attempt_ok_bind]
  rfl

/-- A covered request whose roundings are exact is filled, if the refreshed equity is defined. -/
lemma placeOrder_of_keeps (ctx : Context) (orderId executionId : Str) (now : Datetime) (hs : p.Sound)
    (hconn : p.connected = true) (hm : request.orderType = .market) (hq : request.quantity = .finite q)
    (hcov : p.Covers request.side request.symbol q)
    (hk : p.Keeps ctx request.side request.symbol q)
    (hrefresh : ∀ positions', Moves p.positions request.symbol
      (p.held request.symbol + request.side.signed q) now positions' →
      ∃ value equity, marketValue ctx positions'.values (.finite 0) = .ok value ∧
        (Decimal.finite (p.cash - request.side.signed q * marketPrice)).add ctx value = .ok equity) :
    ∃ p', placeOrder ctx request orderId executionId now p = .ok (request.order orderId now) p' ∧
      Filled p request orderId executionId now q p' ∧
      ∃ value, marketValue ctx p'.positions.values (.finite 0) = .ok value ∧
        p'.account.cashBalance.add ctx value = .ok p'.account.equity := by
  have hpos : 0 < q := by
    have := positive_of_validateOrder request.valid
    rwa [hq] at this
  obtain ⟨positions', hmoves, hfill⟩ :=
    applyFill_of_keeps hs hconn (show (request.execution orderId executionId now).price = _ from rfl)
      hq hpos hcov hk
  obtain ⟨value, equity, hv, he⟩ := hrefresh positions' hmoves
  rw [placeOrder_eq hconn hm, bind_of_ok hfill]
  simp only [modify_bind]
  rw [bind_of_ok (refreshAccount_of (by exact hconn) hv he)]
  exact ⟨_, rfl, ⟨rfl, rfl, rfl, hq, hpos, hcov, hmoves, rfl, rfl, rfl⟩, value, hv, he⟩

lemma placeOrder_of_lacks (ctx : Context) (orderId executionId : Str) (now : Datetime)
    (hconn : p.connected = true) (hm : request.orderType = .market)
    (hl : p.Lacks ctx request.side request.symbol request.quantity) :
    ∃ e, placeOrder ctx request orderId executionId now p = .error e p ∧
      (e = insufficient request.side ∨
        ∃ signal, request.quantity.mul ctx (.finite marketPrice) = .error signal ∧
          e = .decimal signal) := by
  obtain ⟨e, hfill, he⟩ := applyFill_of_lacks
    (show (request.execution orderId executionId now).price = _ from rfl) hl
  exact ⟨e, by rw [placeOrder_eq hconn hm, bind_of_error hfill], he⟩

/-- A disconnected provider and a limit order are refused before the fill. -/
lemma placeOrder_of_unready (orderId executionId : Str) (now : Datetime)
    (h : p.connected = true → request.orderType ≠ .market) :
    ∃ e, (e = .valueError "broker provider is disconnected" ∨
        e = .notImplementedError "MockBrokerProvider supports market orders only") ∧
      ∀ ctx, placeOrder ctx request orderId executionId now p = .error e p := by
  rcases hconn : p.connected with _ | _
  · exact ⟨_, Or.inl rfl, fun ctx => bind_of_error (requireConnected_of_not hconn)⟩
  · refine ⟨_, Or.inr rfl, fun ctx => ?_⟩
    have hlimit : request.orderType = .limit := by
      cases hm : request.orderType with
      | market => exact absurd hm (h hconn)
      | limit => rfl
    unfold placeOrder
    rw [bind_of_ok (requireConnected_of hconn)]
    simp only [hlimit, if_true, throw_bind]

lemma worth_of_moves {positions positions' : Dict Str Position} {symbol : Str} {h h' : ℚ}
    (hh : Dict.contribution (fun position : Position => position.quantity.toRat)
      (positions.get symbol) = h) (hm : Moves positions symbol h' now positions') :
    worth positions' = worth positions + (h' - h) * marketPrice := by
  have hold : Dict.contribution (fun position : Position => position.quantity.toRat * marketPrice)
      (positions.get symbol) = h * marketPrice := by
    rw [← hh]
    cases positions.get symbol <;> simp
  rcases hm with ⟨rfl, rfl⟩ | ⟨position, hp, -, rfl⟩
  · rw [worth, Dict.sum_erase, hold, worth]
    ring
  · rw [worth, Dict.sum_set, hold, hp.quantity_eq, worth, Decimal.toRat_finite]
    ring

lemma get_of_moves {positions positions' : Dict Str Position} {symbol a : Str} {h' : ℚ}
    (hm : Moves positions symbol h' now positions') (ha : a ≠ symbol) :
    positions'.get a = positions.get a := by
  rcases hm with ⟨-, rfl⟩ | ⟨position, -, -, rfl⟩
  · exact Dict.get_erase_of_ne _ ha
  · exact Dict.get_set_of_ne _ _ ha

lemma finite_of_moves (hs : p.Sound) {symbol : Str} {h' : ℚ} {positions' : Dict Str Position}
    (hm : Moves p.positions symbol h' now positions') :
    ∀ position ∈ positions'.values,
      position.quantity = .finite position.quantity.toRat ∧ 0 ≤ position.quantity.toRat := by
  have hpriced : ∀ {a : Str} {h : ℚ} {position : Position}, PricedAt a h position →
      position.quantity = .finite position.quantity.toRat ∧ 0 ≤ position.quantity.toRat := by
    intro a h position hp
    rw [hp.quantity_eq]
    exact ⟨rfl, hp.positive.le⟩
  intro position hv
  obtain ⟨a, ha⟩ := Dict.mem_values.mp hv
  by_cases hsym : a = symbol
  · rw [hsym] at ha
    rcases hm with ⟨-, he⟩ | ⟨position', hp, -, he⟩
    · rw [he, Dict.get_erase_self] at ha
      cases ha
    · rw [he, Dict.get_set_self] at ha
      exact hpriced (Option.some.inj ha ▸ hp)
  · rw [get_of_moves hm hsym] at ha
    exact hpriced (hs.priced a position ha)

lemma Sound.cash_after_nonneg (hs : p.Sound) {side : OrderSide} {symbol : Str} (h0 : 0 ≤ q)
    (hcov : p.Covers side symbol q) : 0 ≤ p.cash - side.signed q * marketPrice := by
  cases side with
  | buy =>
    have hcov' : q * marketPrice ≤ p.cash := hcov
    rw [OrderSide.signed]
    linarith
  | sell =>
    have := hs.cash_nonneg
    have : 0 ≤ q * marketPrice := mul_nonneg h0 (by norm_num [marketPrice])
    rw [OrderSide.signed]
    linarith

namespace Filled

variable (hf : Filled p request orderId executionId now q p')

include hf

lemma cash_eq : p'.cash = p.cash - request.side.signed q * marketPrice := by
  rw [MockBrokerProvider.cash, hf.cash, Decimal.toRat_finite]

lemma held_self : p'.held request.symbol = p.held request.symbol + request.side.signed q := by
  rcases hf.moves with ⟨hz, he⟩ | ⟨position, hp, -, he⟩
  · rw [held_of_none (by rw [he, Dict.get_erase_self]), hz]
  · rw [held, he, Dict.get_set_self, Dict.contribution_some, hp.quantity_eq, Decimal.toRat_finite]

lemma held_of_ne {symbol : Str} (h : symbol ≠ request.symbol) : p'.held symbol = p.held symbol := by
  rw [held, held, get_of_moves hf.moves h]

lemma sound (hs : p.Sound) : p'.Sound where
  cash_eq := by rw [hf.cash_eq, hf.cash]
  cash_nonneg := by
    rw [hf.cash_eq]
    exact hs.cash_after_nonneg hf.positive.le hf.covers
  buyingPower := hf.buyingPower
  priced := by
    intro symbol position h
    by_cases hsym : symbol = request.symbol
    · rw [hsym, hf.held_self]
      rw [hsym] at h
      rcases hf.moves with ⟨-, he⟩ | ⟨position', hp, -, he⟩
      · rw [he, Dict.get_erase_self] at h
        cases h
      · rw [he, Dict.get_set_self] at h
        exact Option.some.inj h ▸ hp
    · rw [hf.held_of_ne hsym]
      rw [get_of_moves hf.moves hsym] at h
      exact hs.priced symbol position h
  listed := hf.listed
  conserved := by
    rw [hf.cash_eq, worth_of_moves rfl hf.moves, ← held]
    have := hs.conserved
    linarith

end Filled

/-- Every stored order is filled. -/
def Settled (p : MockBrokerProvider) : Prop :=
  ∀ orderId order, p.orders.get orderId = some order → order.status = .filled

lemma Filled.settled (hf : Filled p request orderId executionId now q p') (h : p.Settled) :
    p'.Settled := by
  intro id order ho
  rw [hf.orders] at ho
  by_cases hid : id = orderId
  · rw [hid, Dict.get_set_self] at ho
    rw [← Option.some.inj ho]
    rfl
  · rw [Dict.get_set_of_ne _ _ hid] at ho
    exact h id order ho

lemma getOrder_of_some {orderId : Str} {order : Order} (hconn : p.connected = true)
    (ho : p.orders.get orderId = some order) : getOrder orderId p = .ok order p := by
  unfold getOrder
  rw [bind_of_ok (requireConnected_of hconn)]
  simp only [get_bind, ho]
  rfl

lemma getOrder_of_none {orderId : Str} (hconn : p.connected = true)
    (ho : p.orders.get orderId = none) :
    getOrder orderId p = .error (.valueError (("unknown order: " : Str) ++ orderId)) p := by
  unfold getOrder
  rw [bind_of_ok (requireConnected_of hconn)]
  simp only [get_bind, ho]
  rfl

/-- No stored order can be cancelled. -/
lemma cancelOrder_of (h : p.Settled) (orderId : Str) (now : Datetime) :
    ∃ message, cancelOrder orderId now p = .error (.valueError message) p := by
  rcases hc : p.connected with _ | _
  · exact ⟨_, bind_of_error (requireConnected_of_not hc)⟩
  · unfold cancelOrder
    rw [bind_of_ok (requireConnected_of hc)]
    rcases ho : p.orders.get orderId with _ | order
    · exact ⟨_, bind_of_error (getOrder_of_none hc ho)⟩
    · refine ⟨"only pending orders can be cancelled", ?_⟩
      rw [bind_of_ok (getOrder_of_some hc ho)]
      simp only [h orderId order ho, ne_eq, reduceCtorEq, not_false_eq_true, if_true, throw_bind]

lemma reads_requireConnected : Reads requireConnected := by
  intro p
  rcases h : p.connected with _ | _
  · exact Or.inr ⟨_, requireConnected_of_not h⟩
  · exact Or.inl ⟨(), requireConnected_of h⟩

lemma reads_getOrder (orderId : Str) : Reads (getOrder orderId) := by
  refine reads_requireConnected.bind fun _ => reads_get.bind fun p => ?_
  split
  · exact reads_pure _
  · exact reads_throw _

lemma reads_getExecutions (orderId : Option Str) : Reads (getExecutions orderId) := by
  refine reads_requireConnected.bind fun _ => ?_
  split
  · exact reads_get.bind fun p => reads_pure _
  · exact reads_get.bind fun p => reads_pure _

lemma reads_getPositions : Reads getPositions :=
  reads_requireConnected.bind fun _ => reads_get.bind fun _ => reads_pure _

lemma reads_getAccount : Reads getAccount :=
  reads_requireConnected.bind fun _ => reads_get.bind fun _ => reads_pure _

end MockBrokerProvider

namespace Call

variable {p p' : MockBrokerProvider} {ctx : Context} {call : Call}

lemma outcome_of_reads {α : Type} {x : Method α} (h : Reads x) (p : MockBrokerProvider) :
    (outcome (x p)).2 = p := by
  rcases h p with ⟨a, ha⟩ | ⟨e, he⟩
  · rw [ha]
    rfl
  · rw [he]
    rfl

/-- The connection flag after a call. -/
def connects : Call → Bool → Bool
  | .connect, _ => true
  | .disconnect, _ => false
  | _, connected => connected

/-- A call that is no order changes the connection flag at most. -/
lemma perform_of_not_placeOrder (ctx : Context) (h : p.Settled)
    (hcall : ∀ request orderId executionId now, call ≠ .placeOrder request orderId executionId now) :
    (call.perform ctx p).2 = { p with connected := call.connects p.connected } := by
  cases call with
  | placeOrder request orderId executionId now => exact absurd rfl (hcall _ _ _ _)
  | connect => rfl
  | disconnect => rfl
  | isConnected => rfl
  | cancelOrder orderId now =>
    obtain ⟨message, he⟩ := cancelOrder_of h orderId now
    rw [perform, he]
    rfl
  | getOrder orderId => exact outcome_of_reads (reads_getOrder orderId) p
  | getExecutions orderId => exact outcome_of_reads (reads_getExecutions orderId) p
  | getPositions => exact outcome_of_reads reads_getPositions p
  | getAccount => exact outcome_of_reads reads_getAccount p

end Call

end Pentagon5.Broker
