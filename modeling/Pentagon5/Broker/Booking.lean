import Pentagon5.Broker.Fills

/-!
# Checks before writes

Either branch of `_apply_fill` first computes the positions it will hold, and may raise, then
writes them, then computes the new cash and writes the account.
-/

namespace Pentagon5.Broker

open Python MockBrokerProvider

namespace MockBrokerProvider

variable (ctx : Context)

/-- The position of a purchase that passes its checks. -/
def boughtPosition (cashBalance : Decimal) (existing : Option Position) (execution : Execution)
    (notional : Decimal) : Except BrokerError Position := do
  if ← arith (cashBalance.lt notional) then
    throw (.valueError "insufficient cash")
  let previousQuantity := match existing with
    | some position => position.quantity
    | none => .finite 0
  let previousCost ← match existing with
    | some position => arith (position.quantity.mul ctx position.averagePrice)
    | none => pure (.finite 0)
  let quantity ← arith (previousQuantity.add ctx execution.quantity)
  let cost ← arith (previousCost.add ctx notional)
  let averagePrice ← arith (cost.div ctx quantity)
  Position.new execution.symbol quantity averagePrice execution.executedAt

/-- What remains of a position after a sale that passes its checks, `none` if it is closed. -/
def remainingPosition (existing : Option Position) (execution : Execution) :
    Except BrokerError (Option Position) :=
  match existing with
  | none => throw (.valueError "insufficient position")
  | some position => do
    if ← arith (position.quantity.lt execution.quantity) then
      throw (.valueError "insufficient position")
    let quantity ← arith (position.quantity.sub ctx execution.quantity)
    if quantity.eq (.finite 0) then
      return none
    else
      some <$> Position.new position.symbol quantity position.averagePrice execution.executedAt

/-- The positions that `_apply_fill` writes once the checks have passed. -/
def booked (p : MockBrokerProvider) (execution : Execution) (notional : Decimal) :
    Except BrokerError (Dict Str Position) :=
  match execution.side with
  | .buy => do
    let position ← boughtPosition ctx p.account.cashBalance (p.positions.get execution.symbol)
      execution notional
    return p.positions.set execution.symbol position
  | .sell => do
    match ← remainingPosition ctx (p.positions.get execution.symbol) execution with
    | none => return p.positions.erase execution.symbol
    | some position => return p.positions.set execution.symbol position

/-- The cash balance after a fill. -/
def balance (side : OrderSide) (cashBalance notional : Decimal) : Except DecimalSignal Decimal :=
  match side with
  | .buy => cashBalance.sub ctx notional
  | .sell => cashBalance.add ctx notional

variable {ctx} {p : MockBrokerProvider} {execution : Execution} {notional : Decimal}

/-- Either branch of `_apply_fill`: the checks, the write, the new cash. -/
def book (ctx : Context) (execution : Execution) (notional : Decimal) : Method Decimal := do
  let p ← get
  let positions ← attempt (booked ctx p execution notional)
  modify fun p => { p with positions := positions }
  attempt (arith (balance ctx execution.side p.account.cashBalance notional))

lemma applyBuy_eq (hside : execution.side = .buy) :
    applyBuy ctx execution (p.positions.get execution.symbol) notional p =
      book ctx execution notional p := by
  simp only [applyBuy, book, get_bind, booked, hside, boughtPosition, attempt_bind, bind_assoc]
  rcases arith (p.account.cashBalance.lt notional) with e | _ | _
  · rfl
  · cases p.positions.get execution.symbol with
    | none =>
      simp only [attempt_ok_bind, Bool.false_eq_true, if_false, attempt_bind, attempt_pure,
        bind_assoc, pure_bind, balance]
      apply attempt_bind_congr; intro quantity
      apply attempt_bind_congr; intro cost
      apply attempt_bind_congr; intro averagePrice
      apply attempt_bind_congr; intro position
      rfl
    | some position =>
      simp only [attempt_ok_bind, Bool.false_eq_true, if_false, attempt_bind, attempt_pure,
        bind_assoc, pure_bind, balance]
      apply attempt_bind_congr; intro previousCost
      apply attempt_bind_congr; intro quantity
      apply attempt_bind_congr; intro cost
      apply attempt_bind_congr; intro averagePrice
      apply attempt_bind_congr; intro position
      rfl
  · rfl

lemma applySell_eq (hside : execution.side = .sell) :
    applySell ctx execution (p.positions.get execution.symbol) notional p =
      book ctx execution notional p := by
  simp only [applySell, book, get_bind, booked, hside, remainingPosition, attempt_bind, bind_assoc]
  rcases p.positions.get execution.symbol with _ | position
  · rfl
  · simp only [attempt_bind, bind_assoc]
    rcases arith (position.quantity.lt execution.quantity) with e | _ | _
    · rfl
    · simp only [attempt_ok_bind, Bool.false_eq_true, if_false, attempt_bind, bind_assoc]
      rcases arith (position.quantity.sub ctx execution.quantity) with e | quantity
      · rfl
      · simp only [attempt_ok_bind]
        split
        · rfl
        · rcases Position.new position.symbol quantity position.averagePrice execution.executedAt
            with e | rest
          · rfl
          · rfl
    · rfl

/-- The account that `_apply_fill` writes. -/
def charge (execution : Execution) (cashBalance : Decimal) : Method Unit := do
  let positions ← getPositions
  modify fun p => { p with account :=
    { id := p.account.id
      cashBalance := cashBalance
      equity := p.account.equity
      buyingPower := cashBalance
      updatedAt := execution.executedAt
      positions := positions } }

lemma applyFill_eq :
    applyFill ctx execution p =
      (do
        let notional ← attempt (arith (execution.quantity.mul ctx execution.price))
        let cashBalance ← book ctx execution notional
        charge execution cashBalance : Method Unit) p := by
  simp only [applyFill, get_bind]
  rcases arith (execution.quantity.mul ctx execution.price) with e | notional
  · rfl
  · simp only [attempt_ok_bind]
    cases hside : execution.side with
    | buy => simp only [bind_congr_left (applyBuy_eq hside)]; rfl
    | sell => simp only [bind_congr_left (applySell_eq hside)]; rfl

variable {positions : Dict Str Position} {cashBalance : Decimal} {e : BrokerError}

lemma charge_of (hconn : p.connected = true) :
    charge execution cashBalance p = .ok () { p with account :=
      { id := p.account.id
        cashBalance := cashBalance
        equity := p.account.equity
        buyingPower := cashBalance
        updatedAt := execution.executedAt
        positions := p.positions.sortedValues } } := by
  unfold charge
  rw [bind_of_ok (getPositions_of hconn)]
  rfl

lemma book_of_ok (h : booked ctx p execution notional = .ok positions) :
    book ctx execution notional p =
      attempt (arith (balance ctx execution.side p.account.cashBalance notional))
        { p with positions := positions } := by
  simp only [book, get_bind, h, attempt_ok_bind, modify_bind]

lemma book_of_error (h : booked ctx p execution notional = .error e) :
    book ctx execution notional p = .error e p := by
  simp only [book, get_bind, h]
  rfl

/-- The provider once `_apply_fill` has written the positions and the account. -/
def charged (p : MockBrokerProvider) (positions : Dict Str Position) (cashBalance : Decimal)
    (now : Datetime) : MockBrokerProvider :=
  { p with
    positions := positions
    account :=
      { id := p.account.id
        cashBalance := cashBalance
        equity := p.account.equity
        buyingPower := cashBalance
        updatedAt := now
        positions := positions.sortedValues } }

section Fill

variable (hmul : arith (execution.quantity.mul ctx execution.price) = .ok notional)

include hmul

lemma applyFill_of_refused (hb : booked ctx p execution notional = .error e) :
    applyFill ctx execution p = .error e p := by
  rw [applyFill_eq, hmul, attempt_ok_bind, bind_of_error (book_of_error hb)]

variable (hb : booked ctx p execution notional = .ok positions)

include hb

/-- A signal of the new cash balance comes after the positions have been written. -/
lemma applyFill_of_balance_error {signal : DecimalSignal}
    (hs : balance ctx execution.side p.account.cashBalance notional = .error signal) :
    applyFill ctx execution p = .error (.decimal signal) { p with positions := positions } := by
  have hbook : book ctx execution notional p =
      .error (.decimal signal) { p with positions := positions } := by
    rw [book_of_ok hb, hs]
    rfl
  rw [applyFill_eq, hmul, attempt_ok_bind, bind_of_error hbook]

lemma applyFill_of_balance (hconn : p.connected = true)
    (hs : balance ctx execution.side p.account.cashBalance notional = .ok cashBalance) :
    applyFill ctx execution p =
      .ok () (p.charged positions cashBalance execution.executedAt) := by
  have hbook : book ctx execution notional p = .ok cashBalance { p with positions := positions } := by
    rw [book_of_ok hb, hs]
    rfl
  rw [applyFill_eq, hmul, attempt_ok_bind, bind_of_ok hbook, charge_of (by exact hconn)]
  rfl

end Fill

section Numbers

variable {cash : Decimal} {existing : Option Position} {h a q n cost quantity total average : ℚ}

/-- A purchase from the roundings of its four results. -/
lemma boughtPosition_eq (hlt : cash.lt (.finite n) = .ok false) (hq : execution.quantity = .finite q)
    (hnone : existing = none → h = 0 ∧ cost = 0)
    (hsome : ∀ position, existing = some position → position.quantity = .finite h ∧
      position.averagePrice = .finite a ∧ ctx.round (h * a) = .ok cost)
    (hsum : ctx.round (h + q) = .ok quantity) (htotal : ctx.round (cost + n) = .ok total)
    (hdiv : ctx.round (total / quantity) = .ok average) (hpos : 0 < quantity) (hpos' : 0 < average) :
    boughtPosition ctx cash existing execution (.finite n) =
      .ok ⟨execution.symbol, .finite quantity, .finite average, execution.executedAt,
        validatePositive_eq_ok.mpr hpos, validatePositive_eq_ok.mpr hpos'⟩ := by
  have hquantity : validatePositive (.finite quantity) "quantity" = .ok () :=
    validatePositive_eq_ok.mpr hpos
  have haverage : validatePositive (.finite average) "average price" = .ok () :=
    validatePositive_eq_ok.mpr hpos'
  have hnew := Position.new_eq_ok execution.symbol execution.executedAt hquantity haverage
  cases existing with
  | none =>
    obtain ⟨rfl, rfl⟩ := hnone rfl
    simp only [boughtPosition, hlt, arith_ok, except_ok_bind, Bool.false_eq_true, if_false, pure_bind,
      hq, Decimal.finite_add, hsum, htotal, Except.map, Decimal.finite_div _ _ _ hpos.ne', hdiv, hnew]
  | some position =>
    obtain ⟨hh, ha, hcost⟩ := hsome position rfl
    simp only [boughtPosition, hlt, arith_ok, except_ok_bind, Bool.false_eq_true, if_false, hq, hh, ha,
      Decimal.finite_mul, hcost, Decimal.finite_add, hsum, htotal, Except.map,
      Decimal.finite_div _ _ _ hpos.ne', hdiv, hnew]

end Numbers

end MockBrokerProvider

end Pentagon5.Broker
