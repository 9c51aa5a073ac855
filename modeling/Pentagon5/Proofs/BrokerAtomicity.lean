import Pentagon5.Broker.Booking

/-!
# What a refused call of the mock broker leaves behind

`place_order` checks, writes the position, computes the new cash, writes the account, the order and
the execution, and values the positions last. A call that raises changes nothing exactly when no
arithmetic after the first write signals.
-/

namespace Pentagon5.Broker

open Python MockBrokerProvider

namespace MockBrokerProvider

variable {ctx : Context} {p : MockBrokerProvider} {execution : Execution} {notional : Decimal}

/-- What follows the write of `positions` goes through: the new cash balance is a decimal, and so
are the market value and the equity; without a cash balance the write was none. -/
def Completes (ctx : Context) (p : MockBrokerProvider) (positions : Dict Str Position) :
    Except DecimalSignal Decimal → Prop
  | .error _ => positions = p.positions
  | .ok cashBalance => ∃ value equity, marketValue ctx positions.values (.finite 0) = .ok value ∧
      cashBalance.add ctx value = .ok equity

/-- Once an execution has passed the checks, what follows them goes through. -/
def Settles (ctx : Context) (p : MockBrokerProvider) (execution : Execution) : Prop :=
  ∀ notional positions, arith (execution.quantity.mul ctx execution.price) = .ok notional →
    booked ctx p execution notional = .ok positions →
    Completes ctx p positions (balance ctx execution.side p.account.cashBalance notional)

variable {p' : MockBrokerProvider} {e : BrokerError} {request : OrderRequest}
  {orderId executionId : Str} {now : Datetime} {positions : Dict Str Position}
  {cashBalance : Decimal}

lemma refreshAccount_error (h : ∀ value equity, marketValue ctx p.positions.values (.finite 0) =
      .ok value → p.account.cashBalance.add ctx value ≠ .ok equity) :
    ∃ e, refreshAccount ctx now p = .error e p := by
  simp only [refreshAccount, get_bind]
  rcases hv : marketValue ctx p.positions.values (.finite 0) with e | value
  · exact ⟨e, rfl⟩
  · simp only [attempt_ok_bind]
    rcases he : p.account.cashBalance.add ctx value with signal | equity
    · exact ⟨_, rfl⟩
    · exact absurd he (h value equity hv)

/-- The provider when the account, the order and the execution have been written. -/
def entered (p : MockBrokerProvider) (request : OrderRequest) (orderId executionId : Str)
    (now : Datetime) (positions : Dict Str Position) (cashBalance : Decimal) : MockBrokerProvider where
  connected := p.connected
  orders := p.orders.set orderId (request.order orderId now)
  executions := p.executions ++ [request.execution orderId executionId now]
  positions := positions
  account :=
    { id := p.account.id
      cashBalance := cashBalance
      equity := p.account.equity
      buyingPower := cashBalance
      updatedAt := now
      positions := positions.sortedValues }

section Place

variable (hconn : p.connected = true) (hm : request.orderType = .market)

include hconn hm

lemma placeOrder_of_mul_error
    (hmul : arith (request.quantity.mul ctx (.finite marketPrice)) = .error e) :
    placeOrder ctx request orderId executionId now p = .error e p := by
  rw [placeOrder_eq hconn hm]
  apply bind_of_error
  rw [applyFill_eq]
  change (attempt (arith (request.quantity.mul ctx (.finite marketPrice))) >>= _) p = _
  rw [hmul, attempt_error_bind]

variable (hmul : arith (request.quantity.mul ctx (.finite marketPrice)) = .ok notional)

include hmul

lemma placeOrder_of_refused
    (hb : booked ctx p (request.execution orderId executionId now) notional = .error e) :
    placeOrder ctx request orderId executionId now p = .error e p := by
  rw [placeOrder_eq hconn hm]
  exact bind_of_error (applyFill_of_refused hmul hb)

variable (hb : booked ctx p (request.execution orderId executionId now) notional = .ok positions)

include hb

lemma placeOrder_of_balance_error {signal : DecimalSignal}
    (hs : balance ctx request.side p.account.cashBalance notional = .error signal) :
    placeOrder ctx request orderId executionId now p =
      .error (.decimal signal) { p with positions := positions } := by
  rw [placeOrder_eq hconn hm]
  exact bind_of_error (applyFill_of_balance_error hmul hb hs)

/-- The valuation comes after everything else has been written. -/
lemma placeOrder_of_balance
    (hs : balance ctx request.side p.account.cashBalance notional = .ok cashBalance) :
    placeOrder ctx request orderId executionId now p =
      (do
        refreshAccount ctx now
        return request.order orderId now : Method Order)
        (p.entered request orderId executionId now positions cashBalance) := by
  rw [placeOrder_eq hconn hm, bind_of_ok (applyFill_of_balance hmul hb hconn hs)]
  rfl

end Place

lemma entered_ne (request : OrderRequest) (orderId executionId : Str) (now : Datetime)
    (positions : Dict Str Position) (cashBalance : Decimal) :
    p.entered request orderId executionId now positions cashBalance ≠ p := by
  intro h
  have hlen := congrArg (fun p => p.executions.length) h
  simp [entered] at hlen

lemma settles_iff (hmul : arith (execution.quantity.mul ctx execution.price) = .ok notional)
    (hb : booked ctx p execution notional = .ok positions) :
    Settles ctx p execution ↔
      Completes ctx p positions (balance ctx execution.side p.account.cashBalance notional) := by
  constructor
  · intro h
    exact h _ _ hmul hb
  · intro h notional' positions' hmul' hb'
    obtain rfl : notional = notional' := Except.ok.inj (hmul.symm.trans hmul')
    obtain rfl : positions = positions' := Except.ok.inj (hb.symm.trans hb')
    exact h

/-- An order that raises leaves the provider as it was exactly when its execution settles. -/
lemma placeOrder_unchanged_iff (orderId executionId : Str) (now : Datetime)
    (hconn : p.connected = true) (hm : request.orderType = .market) :
    (∀ e p', placeOrder ctx request orderId executionId now p = .error e p' → p' = p) ↔
      Settles ctx p (request.execution orderId executionId now) := by
  rcases hmul : arith (request.quantity.mul ctx (.finite marketPrice)) with e | notional
  · rw [placeOrder_of_mul_error hconn hm hmul]
    constructor
    · intro _ notional positions hn
      cases hmul.symm.trans hn
    · intro _ e p' h
      cases h
      rfl
  rcases hb : booked ctx p (request.execution orderId executionId now) notional with e | positions
  · rw [placeOrder_of_refused hconn hm hmul hb]
    constructor
    · intro _ notional' positions hn hp
      obtain rfl : notional = notional' := Except.ok.inj (hmul.symm.trans hn)
      cases hb.symm.trans hp
    · intro _ e p' h
      cases h
      rfl
  rw [settles_iff hmul hb]
  change _ ↔ Completes ctx p positions (balance ctx request.side p.account.cashBalance notional)
  rcases hs : balance ctx request.side p.account.cashBalance notional with signal | cashBalance
  · rw [placeOrder_of_balance_error hconn hm hmul hb hs]
    constructor
    · intro h
      exact congrArg MockBrokerProvider.positions (h _ _ rfl)
    · intro h e p' hr
      cases hr
      rw [show positions = p.positions from h]
  · rw [placeOrder_of_balance hconn hm hmul hb hs]
    constructor
    · intro h
      by_contra hno
      have herr : ∃ e, refreshAccount ctx now
          (p.entered request orderId executionId now positions cashBalance) = .error e _ :=
        refreshAccount_error fun value equity hv heq => hno ⟨value, equity, hv, heq⟩
      obtain ⟨e, he⟩ := herr
      exact entered_ne _ _ _ _ _ _ (h _ _ (bind_of_error he))
    · rintro ⟨value, equity, hv, heq⟩ e p' hr
      rw [bind_of_ok (refreshAccount_of (by exact hconn) hv heq)] at hr
      cases hr

/-- `cancel_order` writes after everything that may raise. -/
lemma restores_cancelOrder (orderId : Str) (now : Datetime) : Restores (cancelOrder orderId now) := by
  unfold cancelOrder
  apply reads_requireConnected.bind_restores
  intro _
  apply (reads_getOrder orderId).bind_restores
  intro order
  split
  · exact (reads_throw _).bind_restores fun _ => (reads_attempt _).bind_restores fun _ => restores_modify _ _
  · exact (reads_attempt _).bind_restores fun _ => restores_modify _ _

lemma restores_placeOrder_of_unready (orderId executionId : Str) (now : Datetime)
    (h : p.connected = true → request.orderType ≠ .market)
    (hr : placeOrder ctx request orderId executionId now p = .error e p') : p' = p := by
  obtain ⟨_, _, he⟩ := placeOrder_of_unready (p := p) orderId executionId now h
  cases (he ctx).symm.trans hr
  rfl

end MockBrokerProvider

namespace Call

variable {α : Type} {ctx : Context} {p : MockBrokerProvider} {x : Method α}

/-- A call that raises leaves the connection, the orders, the executions, the positions and the
account as they were. -/
def Unchanged (ctx : Context) (p : MockBrokerProvider) (call : Call) : Prop :=
  (call.perform ctx p).1.isOk = false → (call.perform ctx p).2 = p

/-- The condition on the state before a call: a market order that passes its checks settles. -/
def Settles (ctx : Context) (p : MockBrokerProvider) : Call → Prop
  | .placeOrder request orderId executionId now =>
    p.connected = true → request.orderType = .market →
      MockBrokerProvider.Settles ctx p (request.execution orderId executionId now)
  | _ => True

lemma outcome_unchanged_iff :
    ((outcome (x p)).1.isOk = false → (outcome (x p)).2 = p) ↔
      ∀ e p', x p = .error e p' → p' = p := by
  rcases x p with ⟨a, q⟩ | ⟨e, q⟩
  · constructor
    · intro _ e p' h
      cases h
    · intro _ h
      cases h
  · constructor
    · intro h e' p' he
      cases he
      exact h rfl
    · intro h _
      exact h e q rfl

lemma unchanged_of_restores (h : Restores x) :
    ((outcome (x p)).1.isOk = false → (outcome (x p)).2 = p) ↔ True :=
  iff_true_intro (outcome_unchanged_iff.mpr fun _ _ => h)

/-- In any state, for any context. -/
lemma unchanged_iff (ctx : Context) (p : MockBrokerProvider) (call : Call) :
    call.Unchanged ctx p ↔ call.Settles ctx p := by
  cases call with
  | placeOrder request orderId executionId now =>
    refine outcome_unchanged_iff.trans ?_
    by_cases hready : p.connected = true ∧ request.orderType = .market
    · obtain ⟨hconn, hm⟩ := hready
      rw [placeOrder_unchanged_iff orderId executionId now hconn hm]
      exact ⟨fun h _ _ => h, fun h => h hconn hm⟩
    · have hnot : p.connected = true → request.orderType ≠ .market := fun hc hm => hready ⟨hc, hm⟩
      constructor
      · intro _ hc hm
        exact absurd hm (hnot hc)
      · intro _ e p' hr
        exact restores_placeOrder_of_unready orderId executionId now hnot hr
  | connect => exact iff_true_intro fun h => nomatch h
  | disconnect => exact iff_true_intro fun h => nomatch h
  | isConnected => exact iff_true_intro fun h => nomatch h
  | cancelOrder orderId now => exact unchanged_of_restores (restores_cancelOrder orderId now)
  | getOrder orderId => exact unchanged_of_restores (reads_getOrder orderId).restores
  | getExecutions orderId => exact unchanged_of_restores (reads_getExecutions orderId).restores
  | getPositions => exact unchanged_of_restores reads_getPositions.restores
  | getAccount => exact unchanged_of_restores reads_getAccount.restores

end Call

/-- After any calls, whatever they raised, a call that raises changes nothing exactly when the
order it places, if it places one, settles. -/
theorem unchanged_iff_settles (ctx : Context) (accountId : Str) (created : Datetime)
    (calls : List Call) (call : Call) :
    call.Unchanged ctx (run ctx calls (init accountId created)) ↔
      call.Settles ctx (run ctx calls (init accountId created)) :=
  Call.unchanged_iff ctx _ call

/-! A purchase too small to change the rounded cash is free. A hoarder buys such lots thirteen times,
sells them together for one unit in the last place, and starts again. -/

namespace Hoard

lemma representable {n : ℤ} {e : ℤ} (hn : |n| < 10 ^ 28) (h0 : -1000026 ≤ e) (h1 : e ≤ 999972) :
    Format.default.Representable (n * 10 ^ e) := by
  refine ⟨?_, n, e, hn, by norm_num [Format.etiny, Format.default]; omega, rfl⟩
  have hn' : |(n : ℚ)| < 10 ^ 28 := by exact_mod_cast hn
  have hz : (0 : ℚ) < 10 ^ e := zpow_pos (by norm_num) _
  calc |(n : ℚ) * 10 ^ e| = |(n : ℚ)| * 10 ^ e := by rw [abs_mul, abs_of_pos hz]
    _ < 10 ^ 28 * 10 ^ e := mul_lt_mul_of_pos_right hn' hz
    _ = 10 ^ (28 + e) := by rw [zpow_add₀ (by norm_num)]; norm_num
    _ ≤ 10 ^ (Format.default.emax + 1) :=
      zpow_le_zpow_right₀ (by norm_num) (by norm_num [Format.default]; omega)

lemma round_representable {n : ℤ} {e : ℤ} (hn : |n| < 10 ^ 28) (h0 : -1000026 ≤ e)
    (h1 : e ≤ 999972) : Context.default.round (n * 10 ^ e) = .ok (n * 10 ^ e) :=
  Format.round_self_iff.mpr (representable hn h0 h1)

/-- The quantity of one lot, for cash counted in units of `10 ^ e`. -/
def lot (e : ℤ) : ℚ := 4 * 10 ^ (e - 4)

lemma zpow_shift (e : ℤ) (k : ℕ) : (10 : ℚ) ^ e = 10 ^ (e - k) * 10 ^ k := by
  rw [← zpow_natCast, ← zpow_add₀ (by norm_num)]
  congr 1
  omega

/-- What a hoarder has after `k` purchases. -/
structure Stage (p : MockBrokerProvider) (m : ℕ) (e : ℤ) (k : ℕ) : Prop where
  connected : p.connected = true
  cash : p.account.cashBalance = .finite (m * 10 ^ e)
  lots : (k = 0 ∧ p.positions = .empty) ∨
    ∃ position, PricedAt "AAPL" (k * lot e) position ∧ 
      p.positions = Dict.empty.set ("AAPL" : Str) position

variable {p : MockBrokerProvider} {m k : ℕ} {e : ℤ}

lemma round_lots (he : -22 ≤ e ∧ e ≤ 999972) (hk : k ≤ 13) :
    Context.default.round (k * lot e) = .ok (k * lot e) := by
  have hn : |((4 * k : ℕ) : ℤ)| < 10 ^ 28 := by
    rw [abs_of_nonneg (by positivity)]
    omega
  have h := round_representable (e := e - 4) hn (by omega) (by omega)
  have heq : (((4 * k : ℕ) : ℤ) : ℚ) * 10 ^ (e - 4) = k * lot e := by
    rw [lot]
    push_cast
    ring
  rwa [heq] at h

lemma lot_mul_marketPrice (e : ℤ) : lot e * marketPrice = 4 * 10 ^ (e - 2) := by
  rw [lot, marketPrice, zpow_shift (e - 2) 2, show e - 2 - ((2 : ℕ) : ℤ) = e - 4 by omega]
  ring

lemma round_cost (he : -22 ≤ e ∧ e ≤ 999972) (hk : k ≤ 13) :
    Context.default.round (k * lot e * marketPrice) = .ok (k * lot e * marketPrice) := by
  have hn : |((4 * k : ℕ) : ℤ)| < 10 ^ 28 := by
    rw [abs_of_nonneg (by positivity)]
    omega
  have h := round_representable (e := e - 2) hn (by omega) (by omega)
  have heq : (((4 * k : ℕ) : ℤ) : ℚ) * 10 ^ (e - 2) = k * lot e * marketPrice := by
    rw [mul_assoc, lot_mul_marketPrice]
    push_cast
    ring
  rwa [heq] at h

/-- The last digit of the cash, and the digits before it. -/
lemma zpow_cash (hm : 10 ^ 27 ≤ m) : (10 : ℚ) ^ (e + 27) ≤ m * 10 ^ e := by
  have hm' : (10 : ℚ) ^ 27 ≤ m := by exact_mod_cast hm
  rw [zpow_add₀ (by norm_num), mul_comm]
  exact mul_le_mul_of_nonneg_right hm' (zpow_pos (by norm_num) _).le

lemma cost_eq (e : ℤ) (k : ℕ) : k * lot e * marketPrice = k * (4 / 100) * 10 ^ e := by
  rw [mul_assoc, lot_mul_marketPrice, zpow_shift e 2]
  push_cast
  ring

/-- Rounding delivers the number of units that is closest. -/
lemma nearest_units {x : ℚ} {n : ℤ} (hn : |n| ≤ 10 ^ 28) (hlow : -1000026 ≤ e)
    (hx : 10 ^ (e + 27) ≤ |x|) (hclose : 2 * |n * 10 ^ e - x| < 10 ^ e) :
    Format.default.nearest x = n * 10 ^ e := by
  refine Format.nearest_eq_of_close (d := e) ?_ ⟨n, rfl⟩ ?_ hclose
  · rw [← Format.digits_iff]
    rcases hn.lt_or_eq with hlt | heq
    · exact ⟨n, e, hlt, by norm_num [Format.etiny, Format.default]; omega, rfl⟩
    · refine ⟨n.sign, e + 28, ?_, by norm_num [Format.etiny, Format.default]; omega, ?_⟩
      · have hone : |n.sign| ≤ 1 := by rcases Int.sign_trichotomy n with h | h | h <;> simp [h]
        exact hone.trans_lt (by norm_num [Format.default])
      · have hs : (n : ℚ) = n.sign * 10 ^ 28 := by
          conv_lhs => rw [← Int.sign_mul_abs n, heq]
          push_cast
          rfl
        rw [hs, zpow_add₀ (by norm_num)]
        norm_num
        ring
  · simpa [Format.default] using hx

section Amounts

variable (hm : 10 ^ 27 ≤ m) (hm' : m < 10 ^ 28) (he : -22 ≤ e ∧ e ≤ 999972)

include hm hm' he

/-- Twelve lots do not reach the last digit of the equity. -/
lemma nearest_equity (hk : k ≤ 12) :
    Format.default.nearest (m * 10 ^ e + k * lot e * marketPrice) = m * 10 ^ e := by
  have hz : (0 : ℚ) < 10 ^ e := zpow_pos (by norm_num) _
  have hcash := zpow_cash (e := e) hm
  have hk' : (k : ℚ) ≤ 12 := by exact_mod_cast hk
  have hk0 : (0 : ℚ) ≤ k := by positivity
  have hcost0 : 0 ≤ (k : ℚ) * (4 / 100) * 10 ^ e := by positivity
  have hcost : (k : ℚ) * (4 / 100) * 10 ^ e ≤ 12 * (4 / 100) * 10 ^ e :=
    mul_le_mul_of_nonneg_right (by linarith) hz.le
  rw [cost_eq]
  have h := nearest_units (e := e) (n := (m : ℤ)) (x := m * 10 ^ e + k * (4 / 100) * 10 ^ e)
    (by rw [abs_of_nonneg (by positivity)]; omega) (by omega) (le_trans (by linarith) (le_abs_self _))
    (by rw [Int.cast_natCast, sub_add_cancel_left, abs_neg, abs_of_nonneg hcost0]; linarith)
  exact_mod_cast h

/-- Thirteen lots add one unit. -/
lemma nearest_credit :
    Format.default.nearest (m * 10 ^ e + (13 : ℕ) * lot e * marketPrice) = (m + 1 : ℕ) * 10 ^ e := by
  have hz : (0 : ℚ) < 10 ^ e := zpow_pos (by norm_num) _
  have hcash := zpow_cash (e := e) hm
  rw [cost_eq]
  have h := nearest_units (e := e) (n := ((m + 1 : ℕ) : ℤ))
    (x := m * 10 ^ e + (13 : ℕ) * (4 / 100) * 10 ^ e)
    (by rw [abs_of_nonneg (by positivity)]; omega) (by omega)
    (le_trans (by push_cast; linarith) (le_abs_self _))
    (by
      have : ((m + 1 : ℕ) : ℤ) * 10 ^ e - (m * 10 ^ e + (13 : ℕ) * (4 / 100) * 10 ^ e) =
          (48 / 100 : ℚ) * 10 ^ e := by push_cast; ring
      rw [this, abs_of_pos (by positivity)]
      linarith)
  exact_mod_cast h

/-- One lot is paid with nothing. -/
lemma round_payment :
    Context.default.round (m * 10 ^ e - lot e * marketPrice) = .ok (m * 10 ^ e) := by
  have hz : (0 : ℚ) < 10 ^ e := zpow_pos (by norm_num) _
  have hcash := zpow_cash (e := e) hm
  have hcost : lot e * marketPrice = 4 / 100 * 10 ^ e := by simpa using cost_eq e 1
  have hten : (10 : ℚ) ^ e = 10 ^ (e - 1) * 10 := by simpa using zpow_shift e 1
  have hrep : Format.default.Representable (m * 10 ^ e) := by
    have := representable (n := m) (e := e)
      (by rw [abs_of_nonneg (by positivity)]; exact_mod_cast hm') (by omega) he.2
    exact_mod_cast this
  have hwide : (10 : ℚ) ^ (e - 1 + 27) ≤ m * 10 ^ e - 4 / 100 * 10 ^ e := by
    have hlow : (10 : ℚ) ^ (e - 1 + 27) * 10 = 10 ^ (e + 27) := by
      rw [show e - 1 + 27 = e + 26 by omega, zpow_shift (e + 27) 1]
      push_cast
      rw [show e + 27 - 1 = e + 26 by omega, pow_one]
    have hge : (10 : ℚ) ^ e ≤ 10 ^ (e + 27) := zpow_le_zpow_right₀ (by norm_num) (by omega)
    linarith
  have h : Format.default.nearest (m * 10 ^ e - lot e * marketPrice) = m * 10 ^ e := by
    rw [hcost]
    refine Format.nearest_eq_of_close (d := e - 1) hrep.onGrid ⟨m * 10, ?_⟩ ?_ ?_
    · rw [hten]
      push_cast
      ring
    · rw [abs_of_nonneg]
      · simpa [Format.default] using hwide
      · exact (zpow_pos (by norm_num) _).le.trans hwide
    · rw [sub_sub_cancel, abs_of_pos (by positivity), hten]
      have : (0 : ℚ) < 10 ^ (e - 1) := zpow_pos (by norm_num) _
      linarith
  refine Format.round_eq_ok.mpr ⟨?_, h⟩
  rw [h]
  exact hrep.1

end Amounts

def noon : Datetime := ⟨43200000000, some 0⟩

lemma lot_pos (e : ℤ) : 0 < lot e := mul_pos (by norm_num) (zpow_pos (by norm_num) _)

def buy (e : ℤ) : OrderRequest :=
  ⟨"AAPL", .buy, .market, .finite (lot e), noon, none, validateOrder_market (lot_pos e)⟩

def sell (e : ℤ) : OrderRequest :=
  ⟨"AAPL", .sell, .market, .finite ((13 : ℕ) * lot e), noon, none,
    validateOrder_market (mul_pos (by norm_num) (lot_pos e))⟩

section Steps

variable {orderId executionId : Str} (hm : 10 ^ 27 ≤ m) (hm' : m < 10 ^ 28)
  (he : -22 ≤ e ∧ e ≤ 999972)

lemma round_price : Context.default.round marketPrice = .ok marketPrice := by
  have h := round_representable (n := 100) (e := 0) (by norm_num) (by norm_num) (by norm_num)
  rw [zpow_zero, mul_one] at h
  exact_mod_cast h

include hm he

variable (orderId executionId) in
lemma booked_buy (hs : Stage p m e k) (hk : k ≤ 12) :
    ∃ position, PricedAt "AAPL" ((k + 1 : ℕ) * lot e) position ∧
      booked .default p ((buy e).execution orderId executionId noon)
        (.finite (lot e * marketPrice)) = .ok (Dict.empty.set ("AAPL" : Str) position) := by
  have hz : (0 : ℚ) < 10 ^ e := zpow_pos (by norm_num) _
  have hlot := lot_pos e
  have hq : 0 < ((k + 1 : ℕ) : ℚ) * lot e := by positivity
  have hquantity : ((k + 1 : ℕ) : ℚ) * lot e = k * lot e + lot e := by push_cast; ring
  have hcost := round_cost (k := k) he (by omega)
  have hsum : Context.default.round (k * lot e + lot e) = .ok ((k + 1 : ℕ) * lot e) := by
    rw [← hquantity]
    exact round_lots he (by omega)
  have htotal : Context.default.round (k * lot e * marketPrice + lot e * marketPrice) =
      .ok ((k + 1 : ℕ) * lot e * marketPrice) := by
    rw [← add_mul, ← hquantity]
    exact round_cost he (by omega)
  have hdiv : ((k + 1 : ℕ) : ℚ) * lot e * marketPrice / (((k + 1 : ℕ) : ℚ) * lot e) = marketPrice :=
    mul_div_cancel_left₀ _ hq.ne'
  have hlt : p.account.cashBalance.lt (.finite (lot e * marketPrice)) = .ok false := by
    have hcash := zpow_cash (e := e) hm
    have hge : (10 : ℚ) ^ e ≤ 10 ^ (e + 27) := zpow_le_zpow_right₀ (by norm_num) (by omega)
    have hcost1 : lot e * marketPrice = 4 / 100 * 10 ^ e := by simpa using cost_eq e 1
    rw [hs.cash, Decimal.finite_lt, decide_eq_false]
    rw [hcost1]
    linarith
  have hprice : (0 : ℚ) < marketPrice := by norm_num [marketPrice]
  have hround : Context.default.round (((k + 1 : ℕ) : ℚ) * lot e * marketPrice /
      (((k + 1 : ℕ) : ℚ) * lot e)) = .ok marketPrice := by rw [hdiv, round_price]
  have hnone : p.positions.get ("AAPL" : Str) = none →
      k * lot e = 0 ∧ k * lot e * marketPrice = 0 := by
    intro hget
    rcases hs.lots with ⟨hzero, -⟩ | ⟨position, -, hp⟩
    · simp [hzero]
    · rw [hp, Dict.get_set_self] at hget
      cases hget
  have hsome : ∀ position, p.positions.get ("AAPL" : Str) = some position →
      position.quantity = .finite (k * lot e) ∧ position.averagePrice = .finite marketPrice ∧
        Context.default.round (k * lot e * marketPrice) = .ok (k * lot e * marketPrice) := by
    intro position hget
    rcases hs.lots with ⟨-, hp⟩ | ⟨position', hpos, hp⟩
    · rw [hp] at hget
      cases hget
    · rw [hp, Dict.get_set_self] at hget
      cases hget
      exact ⟨hpos.quantity_eq, hpos.averagePrice, hcost⟩
  have hbought := boughtPosition_eq hlt
    (show ((buy e).execution orderId executionId noon).quantity = .finite (lot e) from rfl)
    hnone hsome hsum htotal hround hq hprice
  refine ⟨⟨"AAPL", .finite ((k + 1 : ℕ) * lot e), .finite marketPrice, noon,
    validatePositive_eq_ok.mpr hq, validatePositive_eq_ok.mpr hprice⟩, ⟨rfl, rfl, rfl, hq⟩, ?_⟩
  change (do
    let position ← boughtPosition .default p.account.cashBalance (p.positions.get ("AAPL" : Str))
      ((buy e).execution orderId executionId noon) (.finite (lot e * marketPrice))
    return p.positions.set ("AAPL" : Str) position) = _
  rw [hbought]
  rcases hs.lots with ⟨-, hp⟩ | ⟨position, -, hp⟩
  · rw [hp]
    rfl
  · rw [hp]
    rfl

omit hm in
lemma marketValue_lots {position : Position} (hk : k ≤ 13)
    (hp : PricedAt "AAPL" (k * lot e) position) :
    marketValue .default [position] (.finite 0) = .ok (.finite (k * lot e * marketPrice)) := by
  have hcost := round_cost he hk
  simp only [marketValue, hp.quantity_eq, Decimal.finite_mul, hcost, Except.map, arith_ok,
    except_ok_bind, Decimal.finite_add, zero_add]

include hm'

lemma round_equity (hk : k ≤ 12) :
    Context.default.round (m * 10 ^ e + k * lot e * marketPrice) = .ok (m * 10 ^ e) := by
  have h := nearest_equity hm hm' he hk
  refine Format.round_eq_ok.mpr ⟨?_, h⟩
  have hrep := representable (n := m) (e := e)
    (by rw [abs_of_nonneg (by positivity)]; exact_mod_cast hm') (by omega) he.2
  rw [h]
  exact_mod_cast hrep.1

lemma round_credit (hroom : ((m + 1 : ℕ) : ℚ) * 10 ^ e < 10 ^ (1000000 : ℤ)) :
    Context.default.round (m * 10 ^ e + (13 : ℕ) * lot e * marketPrice) =
      .ok ((m + 1 : ℕ) * 10 ^ e) := by
  have h := nearest_credit hm hm' he
  refine Format.round_eq_ok.mpr ⟨?_, h⟩
  rw [h, abs_of_nonneg (mul_nonneg (by positivity) (zpow_pos (by norm_num) _).le)]
  exact hroom

omit hm hm' in
lemma mul_lot : arith ((buy e).quantity.mul .default (.finite marketPrice)) =
    .ok (.finite (lot e * marketPrice)) := by
  have h := round_cost (k := 1) he (by omega)
  rw [Nat.cast_one, one_mul] at h
  simp only [buy, Decimal.finite_mul, h, Except.map, arith_ok]

lemma balance_buy (hs : Stage p m e k) :
    balance .default (buy e).side p.account.cashBalance (.finite (lot e * marketPrice)) =
      .ok (.finite (m * 10 ^ e)) := by
  simp only [balance, buy, hs.cash, Decimal.finite_sub, round_payment hm hm' he, Except.map]

/-- A purchase of one lot costs nothing. -/
lemma stage_buy (hs : Stage p m e k) (hk : k ≤ 12)
    (hroom : k + 1 ≤ 12 ∨ ((m + 1 : ℕ) : ℚ) * 10 ^ e < 10 ^ (1000000 : ℤ)) :
    ∃ p', placeOrder .default (buy e) orderId executionId noon p =
        .ok ((buy e).order orderId noon) p' ∧ Stage p' m e (k + 1) := by
  obtain ⟨position, hp, hb⟩ := booked_buy orderId executionId hm he hs hk
  have hequity : ∃ equity, Context.default.round
      (m * 10 ^ e + (k + 1 : ℕ) * lot e * marketPrice) = .ok equity := by
    rcases Nat.lt_or_ge k 12 with hlt | hge
    · exact ⟨_, round_equity hm hm' he hlt⟩
    · obtain rfl : k = 12 := by omega
      exact ⟨_, round_credit hm hm' he (hroom.resolve_left (by omega))⟩
  obtain ⟨equity, hequity⟩ := hequity
  rw [placeOrder_of_balance hs.connected rfl (mul_lot he) hb (balance_buy hm hm' he hs)]
  have heq : (Decimal.finite (m * 10 ^ e)).add .default
      (.finite ((k + 1 : ℕ) * lot e * marketPrice)) = .ok (.finite equity) := by
    rw [Decimal.finite_add, hequity]
    rfl
  rw [bind_of_ok (refreshAccount_of (by exact hs.connected) (marketValue_lots he (by omega) hp) heq)]
  exact ⟨_, rfl, hs.connected, rfl, Or.inr ⟨position, hp, rfl⟩⟩

omit hm hm' in
lemma booked_sell (hs : Stage p m e 13) (notional : Decimal) :
    booked .default p ((sell e).execution orderId executionId noon) notional = .ok .empty := by
  obtain ⟨h, -⟩ | ⟨position, hpos, hp⟩ := hs.lots
  · cases h
  have hzero := round_lots (k := 0) he (by omega)
  rw [Nat.cast_zero, zero_mul] at hzero
  have herase : (Dict.empty.set ("AAPL" : Str) position).erase ("AAPL" : Str) = .empty := rfl
  simp only [booked, remainingPosition, sell, OrderRequest.execution, hp, Dict.get_set_self,
    hpos.quantity_eq, Decimal.finite_lt, lt_irrefl, decide_false, arith_ok, except_ok_bind,
    Bool.false_eq_true, if_false, Decimal.finite_sub, sub_self, hzero, Except.map, Decimal.finite_eq,
    decide_true, if_true, pure_bind, herase]
  rfl

/-- The sale of thirteen lots brings one unit. -/
lemma stage_sell (hs : Stage p m e 13)
    (hroom : ((m + 1 : ℕ) : ℚ) * 10 ^ e < 10 ^ (1000000 : ℤ)) :
    ∃ p', placeOrder .default (sell e) orderId executionId noon p =
        .ok ((sell e).order orderId noon) p' ∧ Stage p' (m + 1) e 0 := by
  have hcredit := round_credit hm hm' he hroom
  have hself : Context.default.round (((m + 1 : ℕ) : ℚ) * 10 ^ e) = .ok ((m + 1 : ℕ) * 10 ^ e) :=
    Format.round_self_iff.mpr (Format.representable_of_round hcredit)
  have hmul : arith ((sell e).quantity.mul .default (.finite marketPrice)) =
      .ok (.finite ((13 : ℕ) * lot e * marketPrice)) := by
    simp only [sell, Decimal.finite_mul, round_cost he le_rfl, Except.map, arith_ok]
  have hbalance : balance .default (sell e).side p.account.cashBalance
      (.finite ((13 : ℕ) * lot e * marketPrice)) = .ok (.finite ((m + 1 : ℕ) * 10 ^ e)) := by
    simp only [balance, sell, hs.cash, Decimal.finite_add, hcredit, Except.map]
  have heq : (Decimal.finite ((m + 1 : ℕ) * 10 ^ e)).add .default (.finite 0) =
      .ok (.finite ((m + 1 : ℕ) * 10 ^ e)) := by
    rw [Decimal.finite_add, add_zero, hself]
    rfl
  rw [placeOrder_of_balance hs.connected rfl hmul (booked_sell he hs _) hbalance]
  rw [bind_of_ok (refreshAccount_of (by exact hs.connected) rfl heq)]
  exact ⟨_, rfl, hs.connected, rfl, Or.inl ⟨rfl, rfl⟩⟩

end Steps

def name (n : ℕ) : Str := ⟨List.replicate n 'o'.toNat⟩

lemma name_injective : Function.Injective name := by
  intro a b h
  simpa [name] using congrArg (fun s : Str => s.codes.length) h

/-- The orders of a plan, with new identifiers for each. -/
def calls (plan : List OrderRequest) : List Call :=
  .connect :: plan.mapIdx fun n request =>
    .placeOrder request (name (2 * n)) (name (2 * n + 1)) noon

def Reached (p : MockBrokerProvider) : Prop :=
  ∃ plan, run .default (calls plan) (init "account" noon) = p

lemma calls_snoc (plan : List OrderRequest) (request : OrderRequest) :
    calls (plan ++ [request]) = calls plan ++
      [.placeOrder request (name (2 * plan.length)) (name (2 * plan.length + 1)) noon] := by
  simp [calls, List.mapIdx_append]

lemma draws_calls (plan : List OrderRequest) :
    (calls plan).flatMap Call.draws = (List.range (2 * plan.length)).map name := by
  induction plan using List.reverseRecOn with
  | nil => rfl
  | append_singleton plan request ih =>
    rw [calls_snoc, List.flatMap_append, ih, List.length_append, List.length_singleton, mul_add,
      mul_one, List.range_succ, List.range_succ]
    simp [Call.draws]

lemma fresh_calls (plan : List OrderRequest) : Fresh (calls plan) := by
  rw [Fresh, draws_calls]
  exact List.nodup_range.map name_injective

lemma Reached.place {request : OrderRequest} {order : Str → Order} (hp : Reached p)
    (h : ∀ orderId executionId, ∃ p', placeOrder .default request orderId executionId noon p =
      .ok (order orderId) p' ∧ Stage p' m e k) : ∃ p', Reached p' ∧ Stage p' m e k := by
  obtain ⟨plan, rfl⟩ := hp
  obtain ⟨p', hp', hs⟩ := h (name (2 * plan.length)) (name (2 * plan.length + 1))
  refine ⟨p', ⟨plan ++ [request], ?_⟩, hs⟩
  rw [calls_snoc, run_snoc, Call.perform, hp']
  rfl

section Climb

variable (hm : 10 ^ 27 ≤ m) (hm' : m < 10 ^ 28) (he : -22 ≤ e ∧ e ≤ 999972)

include hm hm' he

lemma reached_lots (h : ∃ p, Reached p ∧ Stage p m e 0)
    (hk : k ≤ 12 ∨ k ≤ 13 ∧ ((m + 1 : ℕ) : ℚ) * 10 ^ e < 10 ^ (1000000 : ℤ)) :
    ∃ p, Reached p ∧ Stage p m e k := by
  induction k with
  | zero => exact h
  | succ k ih =>
    obtain ⟨p, hr, hs⟩ := ih (by omega)
    apply hr.place
    intro orderId executionId
    exact stage_buy hm hm' he hs (by omega) (hk.imp_right And.right)

/-- Cash can grow by one unit in the last place. -/
lemma reached_succ (h : ∃ p, Reached p ∧ Stage p m e 0)
    (hroom : ((m + 1 : ℕ) : ℚ) * 10 ^ e < 10 ^ (1000000 : ℤ)) :
    ∃ p, Reached p ∧ Stage p (m + 1) e 0 := by
  obtain ⟨p, hr, hs⟩ := reached_lots (k := 13) hm hm' he h (Or.inr ⟨le_rfl, hroom⟩)
  apply hr.place
  intro orderId executionId
  exact stage_sell hm hm' he hs hroom

end Climb

lemma units_lt {n : ℕ} (hn : n ≤ 10 ^ 28) (he : e < 999972 ∨ n < 10 ^ 28 ∧ e ≤ 999972) :
    (n : ℚ) * 10 ^ e < 10 ^ (1000000 : ℤ) := by
  have hz : (0 : ℚ) < 10 ^ e := zpow_pos (by norm_num) _
  have hsum : (10 : ℚ) ^ 28 * 10 ^ e = 10 ^ (28 + e) := by
    rw [zpow_add₀ (by norm_num)]
    norm_num
  rcases he with he | ⟨hlt, he⟩
  · have hn' : (n : ℚ) ≤ 10 ^ 28 := by exact_mod_cast hn
    calc (n : ℚ) * 10 ^ e ≤ 10 ^ 28 * 10 ^ e := mul_le_mul_of_nonneg_right hn' hz.le
      _ = 10 ^ (28 + e) := hsum
      _ < 10 ^ (1000000 : ℤ) := zpow_lt_zpow_right₀ (by norm_num) (by omega)
  · have hn' : (n : ℚ) < 10 ^ 28 := by exact_mod_cast hlt
    calc (n : ℚ) * 10 ^ e < 10 ^ 28 * 10 ^ e := mul_lt_mul_of_pos_right hn' hz
      _ = 10 ^ (28 + e) := hsum
      _ ≤ 10 ^ (1000000 : ℤ) := zpow_le_zpow_right₀ (by norm_num) (by omega)

/-- From the smallest number with these digits to any other. -/
lemma reached_units (h : ∃ p, Reached p ∧ Stage p (10 ^ 27) e 0) (he : -22 ≤ e) (hm : 10 ^ 27 ≤ m)
    (hm' : m ≤ 10 ^ 28) (htop : e < 999972 ∨ m < 10 ^ 28 ∧ e ≤ 999972) :
    ∃ p, Reached p ∧ Stage p m e 0 := by
  induction m, hm using Nat.le_induction with
  | base => exact h
  | succ m hm ih =>
    have hbelow := ih (by omega) (by omega)
    exact reached_succ hm (by omega) ⟨he, by omega⟩ hbelow (units_lt hm' htop)

/-- Ten times as many units are the same cash in the next unit. -/
lemma Stage.carry (hs : Stage p (10 ^ 28) e 0) : Stage p (10 ^ 27) (e + 1) 0 where
  connected := hs.connected
  cash := by
    rw [hs.cash, zpow_add₀ (by norm_num)]
    congr 1
    push_cast
    ring
  lots := by
    rcases hs.lots with h | ⟨position, hp, -⟩
    · exact Or.inl h
    · exact absurd hp.positive (by simp)

lemma reached_exponent (j : ℕ) (hj : j ≤ 999994) :
    ∃ p, Reached p ∧ Stage p (10 ^ 27) (-22 + j) 0 := by
  induction j with
  | zero =>
    refine ⟨_, ⟨[], rfl⟩, rfl, ?_, Or.inl ⟨rfl, rfl⟩⟩
    change Decimal.finite startingCash = _
    congr 1
    norm_num [startingCash]
  | succ j ih =>
    obtain ⟨p, hr, hs⟩ := reached_units (m := 10 ^ 28) (ih (by omega)) (by omega) (by norm_num) le_rfl
      (Or.inl (by omega))
    refine ⟨p, hr, ?_⟩
    have := hs.carry
    rwa [show -22 + (j : ℤ) + 1 = -22 + ((j + 1 : ℕ) : ℤ) by push_cast; ring] at this

/-- Twelve free lots at the largest cash there is. -/
lemma reached_top : ∃ p, Reached p ∧ Stage p (10 ^ 28 - 1) 999972 12 := by
  have hstart := reached_exponent 999994 le_rfl
  rw [show -22 + ((999994 : ℕ) : ℤ) = 999972 by norm_num] at hstart
  have htop := reached_units (m := 10 ^ 28 - 1) hstart (by norm_num) (by norm_num) (by norm_num)
    (Or.inr (by norm_num))
  exact reached_lots (by norm_num) (by norm_num) (by norm_num) htop (Or.inl le_rfl)

lemma round_top : Context.default.round
    ((10 ^ 28 - 1 : ℕ) * 10 ^ (999972 : ℤ) + (13 : ℕ) * lot 999972 * marketPrice) =
      .error .overflow := by
  have hn := nearest_credit (m := 10 ^ 28 - 1) (e := 999972) (by norm_num) (by norm_num) (by norm_num)
  have hlimit : ((10 ^ 28 - 1 + 1 : ℕ) : ℚ) * 10 ^ (999972 : ℤ) = 10 ^ (Format.default.emax + 1) := by
    have hsplit : (10 : ℚ) ^ (Format.default.emax + 1) = 10 ^ (28 : ℤ) * 10 ^ (999972 : ℤ) := by
      rw [← zpow_add₀ (by norm_num)]
      congr 1
    rw [hsplit]
    congr 1
  have hpos : (0 : ℚ) < 10 ^ (Format.default.emax + 1) := zpow_pos (by norm_num) _
  change Format.default.round _ = _
  rw [Format.round, if_pos]
  rw [hn, hlimit, abs_of_pos hpos]

/-- One more lot, and the equity is too large. -/
lemma not_settles_top (hs : Stage p (10 ^ 28 - 1) 999972 12) (orderId executionId : Str) :
    ¬(Call.placeOrder (buy 999972) orderId executionId noon).Settles .default p := by
  intro h
  have he : -22 ≤ (999972 : ℤ) ∧ (999972 : ℤ) ≤ 999972 := by norm_num
  obtain ⟨position, hp, hb⟩ := booked_buy orderId executionId
    (by norm_num) he hs le_rfl
  have hc := (settles_iff (mul_lot he) hb).mp (h hs.connected rfl)
  rw [show ((buy 999972).execution orderId executionId noon).side = (buy 999972).side from rfl,
    balance_buy (by norm_num) (by norm_num) he hs] at hc
  obtain ⟨value, equity, hv, heq⟩ := hc
  cases (marketValue_lots he le_rfl hp).symm.trans hv
  rw [Decimal.finite_add, round_top] at heq
  cases heq

/-- Under the default context, after enough orders with identifiers of their own. -/
theorem not_unchanged_overflow :
    ∃ calls call, Fresh (calls ++ [call]) ∧
      ¬call.Unchanged .default (run .default calls (init "account" noon)) := by
  obtain ⟨p, ⟨plan, rfl⟩, hs⟩ := reached_top
  refine ⟨calls plan, _, calls_snoc plan (buy 999972) ▸ fresh_calls _, ?_⟩
  rw [Call.unchanged_iff]
  exact not_settles_top hs _ _

/-- A context whose largest exponent is four: the first purchase is booked, and then its equity of
`1E+5` overflows. -/
example :
    let ctx : Context := ⟨(Format.mk 28 (-999999) 4 (by norm_num)).round⟩
    let p := run ctx [.connect] (init "account" noon)
    let result := (Call.placeOrder (buy 6) "o" "e" noon).perform ctx p
    result.1 = .error (.decimal .overflow) ∧ result.2.executions.length = 1 := by
  decide +kernel

end Hoard

end Pentagon5.Broker
