import Mathlib.Algebra.Order.Field.Basic
import Pentagon5.Broker.Booking
import Pentagon5.Proofs.BrokerLedger

/-!
# The cost basis of a position

Executions of any quantities and prices go through `_apply_fill` with exact arithmetic. The average
price of a position is then its cost basis by its quantity, and the cash is what the accepted
executions left of the starting cash.
-/

namespace Pentagon5.Broker

open Python MockBrokerProvider

/-- An accepted execution, with the provider before and after it. -/
structure Fill where
  execution : Execution
  before : MockBrokerProvider
  after : MockBrokerProvider

/-- A provider and the fills it has accepted. -/
structure Book where
  provider : MockBrokerProvider
  fills : List Fill

namespace Book

/-- `_apply_fill`; an execution that it refuses is skipped. -/
def apply (book : Book) (execution : Execution) : Book :=
  match applyFill .exact execution book.provider with
  | .ok _ p => ⟨p, book.fills ++ [⟨execution, book.provider, p⟩]⟩
  | .error _ p => ⟨p, book.fills⟩

/-- A fresh provider after `connect`, with a log of executions applied to it. -/
def replay (accountId : Str) (created : Datetime) (log : List Execution) : Book :=
  log.foldl apply ⟨{ init accountId created with connected := true }, []⟩

def accepted (book : Book) : List Execution := book.fills.map Fill.execution

end Book

namespace MockBrokerProvider

/-- The average price of a symbol, zero if none of it is held. -/
def average (p : MockBrokerProvider) (symbol : Str) : ℚ :=
  Dict.contribution (fun position : Position => position.averagePrice.toRat) (p.positions.get symbol)

end MockBrokerProvider

namespace Fill

/-- The fills of a symbol since its position was last opened. -/
def extend (symbol : Str) (fills : List Fill) (fill : Fill) : List Fill :=
  if fill.execution.symbol = symbol then
    if fill.before.positions.get symbol = none then [fill] else fills ++ [fill]
  else fills

/-- What a fill adds to the cost basis: its notional, or its quantity at the average price of that
moment. -/
def cost (fill : Fill) : ℚ :=
  match fill.execution.side with
  | .buy => fill.execution.quantity.toRat * fill.execution.price.toRat
  | .sell => -(fill.execution.quantity.toRat * fill.before.average fill.execution.symbol)

end Fill

namespace Book

def sinceOpened (book : Book) (symbol : Str) : List Fill := book.fills.foldl (Fill.extend symbol) []

def costBasis (book : Book) (symbol : Str) : ℚ := ((book.sinceOpened symbol).map Fill.cost).sum

def buyPrices (book : Book) (symbol : Str) : List ℚ :=
  ((book.sinceOpened symbol).filter fun fill => fill.execution.side = .buy).map
    fun fill => fill.execution.price.toRat

end Book

/-- Cash, cost basis and average price after a log. -/
structure Accounts (book : Book) : Prop where
  cash : ∃ cash, book.provider.account.cashBalance = .finite cash ∧ 0 ≤ cash ∧
    cash = startingCash - notionals .buy book.accepted + notionals .sell book.accepted
  basis : ∀ symbol position, book.provider.positions.get symbol = some position →
    ∃ q a, position.quantity = .finite q ∧ position.averagePrice = .finite a ∧ 0 < q ∧
      q * a = book.costBasis symbol ∧
      ∃ low high, (book.buyPrices symbol).min? = some low ∧
        (book.buyPrices symbol).max? = some high ∧ low ≤ a ∧ a ≤ high
  kept : ∀ fill ∈ book.fills, fill.execution.side = .sell →
    ∀ symbol position', fill.after.positions.get symbol = some position' →
      ∃ position, fill.before.positions.get symbol = some position ∧
        position'.averagePrice = position.averagePrice

namespace MockBrokerProvider

/-- A connected provider whose amounts are numbers. -/
structure Numeric (p : MockBrokerProvider) : Prop where
  connected : p.connected = true
  cash_eq : p.account.cashBalance = .finite p.cash
  cash_nonneg : 0 ≤ p.cash
  quantity : ∀ symbol position, p.positions.get symbol = some position →
    position.quantity = .finite (p.held symbol) ∧ 0 < p.held symbol
  averagePrice : ∀ symbol position, p.positions.get symbol = some position →
    position.averagePrice = .finite (p.average symbol) ∧ 0 < p.average symbol

/-- The positions after an execution of `q` at the price `x`. -/
inductive Trades (p : MockBrokerProvider) (execution : Execution) (q x : ℚ) :
    Dict Str Position → Prop
  | bought (position : Position) (side : execution.side = .buy) (covered : q * x ≤ p.cash)
      (quantity : position.quantity = .finite (p.held execution.symbol + q))
      (averagePrice : position.averagePrice = .finite
        ((p.held execution.symbol * p.average execution.symbol + q * x) /
          (p.held execution.symbol + q))) :
      Trades p execution q x (p.positions.set execution.symbol position)
  | reduced (position rest : Position) (side : execution.side = .sell)
      (held : p.positions.get execution.symbol = some position)
      (quantity : rest.quantity = .finite (p.held execution.symbol - q))
      (averagePrice : rest.averagePrice = position.averagePrice) :
      Trades p execution q x (p.positions.set execution.symbol rest)
  | closed (side : execution.side = .sell) :
      Trades p execution q x (p.positions.erase execution.symbol)

variable {p : MockBrokerProvider} {execution : Execution} {q x : ℚ}

lemma average_of_some {symbol : Str} {position : Position}
    (h : p.positions.get symbol = some position) :
    p.average symbol = position.averagePrice.toRat := by
  rw [average, h, Dict.contribution_some]

lemma held_of_some {symbol : Str} {position : Position}
    (h : p.positions.get symbol = some position) : p.held symbol = position.quantity.toRat := by
  rw [held, h, Dict.contribution_some]

/-- A covered purchase at exact arithmetic. -/
lemma booked_of_covered (hp : p.Numeric) (hside : execution.side = .buy)
    (hq : execution.quantity = .finite q) (hpos : 0 < q) (hx : 0 < x) (hcov : q * x ≤ p.cash) :
    ∃ positions, booked .exact p execution (.finite (q * x)) = .ok positions ∧
      Trades p execution q x positions := by
  have hlt : p.account.cashBalance.lt (.finite (q * x)) = .ok false := by
    rw [hp.cash_eq, Decimal.finite_lt, decide_eq_false (not_lt.mpr hcov)]
  have hheld : 0 ≤ p.held execution.symbol ∧
      0 ≤ p.held execution.symbol * p.average execution.symbol := by
    rcases hget : p.positions.get execution.symbol with _ | position
    · rw [held_of_none hget, zero_mul]
      exact ⟨le_rfl, le_rfl⟩
    · have h := (hp.quantity _ _ hget).2
      exact ⟨h.le, mul_nonneg h.le (hp.averagePrice _ _ hget).2.le⟩
  have hquantity : 0 < p.held execution.symbol + q := by linarith
  have haverage : 0 < (p.held execution.symbol * p.average execution.symbol + q * x) /
      (p.held execution.symbol + q) := by
    have := mul_pos hpos hx
    exact div_pos (by linarith) hquantity
  have hbought := boughtPosition_eq (a := p.average execution.symbol) hlt hq
    (fun hget : p.positions.get execution.symbol = none => ⟨held_of_none hget, by rw [held_of_none hget, zero_mul]⟩)
    (fun position hget => ⟨(hp.quantity _ _ hget).1, (hp.averagePrice _ _ hget).1, rfl⟩)
    (Context.exact_round _) rfl rfl hquantity haverage
  refine ⟨_, ?_, Trades.bought ⟨execution.symbol, .finite _, .finite _, execution.executedAt,
    validatePositive_eq_ok.mpr hquantity, validatePositive_eq_ok.mpr haverage⟩ hside hcov rfl rfl⟩
  simp only [booked, hside, hbought, except_ok_bind]
  rfl

lemma booked_of_not_covered (hp : p.Numeric) (hside : execution.side = .buy)
    (hcov : p.cash < q * x) :
    booked .exact p execution (.finite (q * x)) = .error (.valueError "insufficient cash") := by
  have hlt : p.account.cashBalance.lt (.finite (q * x)) = .ok true := by
    rw [hp.cash_eq, Decimal.finite_lt, decide_eq_true hcov]
  simp only [booked, hside, boughtPosition, hlt, arith_ok, except_ok_bind, if_true]
  rfl

/-- A sale at exact arithmetic is refused or leaves what is not sold. -/
lemma booked_sell (hp : p.Numeric) (hside : execution.side = .sell)
    (hq : execution.quantity = .finite q) (notional : Decimal) :
    (∃ e, booked .exact p execution notional = .error e) ∨
      ∃ positions, booked .exact p execution notional = .ok positions ∧
        Trades p execution q x positions := by
  rcases hget : p.positions.get execution.symbol with _ | position
  · refine Or.inl ⟨.valueError "insufficient position", ?_⟩
    simp only [booked, hside, hget, remainingPosition]
    rfl
  · obtain ⟨hh, -⟩ := hp.quantity _ _ hget
    by_cases hlt : p.held execution.symbol < q
    · refine Or.inl ⟨.valueError "insufficient position", ?_⟩
      simp only [booked, hside, hget, remainingPosition, hh, hq, Decimal.finite_lt, hlt, decide_true,
        arith_ok, except_ok_bind, if_true]
      rfl
    · refine Or.inr ?_
      by_cases hz : p.held execution.symbol - q = 0
      · refine ⟨_, ?_, Trades.closed hside⟩
        simp only [booked, hside, hget, remainingPosition, hh, hq, Decimal.finite_lt, hlt,
          decide_false, arith_ok, except_ok_bind, Bool.false_eq_true, if_false, Decimal.finite_sub,
          Context.exact_round, Except.map, Decimal.finite_eq, hz, decide_true, if_true, pure_bind]
        rfl
      · have hrest : 0 < p.held execution.symbol - q :=
          lt_of_le_of_ne (sub_nonneg.mpr (not_lt.mp hlt)) (Ne.symm hz)
        have hquantity : validatePositive (.finite (p.held execution.symbol - q)) "quantity" =
            .ok () := validatePositive_eq_ok.mpr hrest
        have hnew := Position.new_eq_ok position.symbol execution.executedAt hquantity
          position.valid.2
        refine ⟨_, ?_, Trades.reduced position ⟨position.symbol, .finite _, position.averagePrice,
          execution.executedAt, hquantity, position.valid.2⟩ hside hget rfl rfl⟩
        simp only [booked, hside, hget, remainingPosition, hh, hq, Decimal.finite_lt, hlt,
          decide_false, arith_ok, except_ok_bind, Bool.false_eq_true, if_false, Decimal.finite_sub,
          Context.exact_round, Except.map, Decimal.finite_eq, hz, hnew]
        rfl

/-- No cash covers an infinite notional. -/
lemma booked_buy_of_infinite (hp : p.Numeric) (hside : execution.side = .buy) :
    booked .exact p execution (.infinite false) = .error (.valueError "insufficient cash") := by
  have hlt : p.account.cashBalance.lt (.infinite false) = .ok true := by
    rw [hp.cash_eq]
    rfl
  simp only [booked, hside, boughtPosition, hlt, arith_ok, except_ok_bind, if_true]
  rfl

lemma booked_of_infinite (hp : p.Numeric) (hq : execution.quantity = .infinite false) :
    ∃ e, booked .exact p execution (.infinite false) = .error e := by
  cases hside : execution.side with
  | buy => exact ⟨_, booked_buy_of_infinite hp hside⟩
  | sell =>
    refine ⟨.valueError "insufficient position", ?_⟩
    rcases hget : p.positions.get execution.symbol with _ | position
    · simp only [booked, hside, hget, remainingPosition]
      rfl
    · have hlt : position.quantity.lt (.infinite false) = .ok true := by
        rw [(hp.quantity _ _ hget).1]
        rfl
      simp only [booked, hside, hget, remainingPosition, hq, hlt, arith_ok, except_ok_bind, if_true]
      rfl

/-- What an execution at a finite price does: it is refused, or it trades. -/
lemma applyFill_exact (hp : p.Numeric) (hx : execution.price = .finite x) :
    (∃ e, applyFill .exact execution p = .error e p) ∨
      ∃ q positions, execution.quantity = .finite q ∧ 0 < q ∧ 0 < x ∧
        Trades p execution q x positions ∧
        applyFill .exact execution p = .ok () (p.charged positions
          (.finite (p.cash - execution.side.signed q * x)) execution.executedAt) := by
  have hpos : execution.quantity.Positive := validatePositive_eq_ok.mp execution.valid.1
  have hxpos : 0 < x := by
    have := validatePositive_eq_ok.mp execution.valid.2
    rwa [hx] at this
  cases hq : execution.quantity with
  | nan =>
    rw [hq] at hpos
    exact absurd hpos id
  | infinite negative =>
    rw [hq] at hpos
    obtain rfl : negative = false := hpos
    have hmul : arith (execution.quantity.mul .exact execution.price) = .ok (.infinite false) := by
      rw [hq, hx, Decimal.infinite_mul _ _ hxpos, arith_ok]
    obtain ⟨e, hb⟩ := booked_of_infinite hp hq
    exact Or.inl ⟨e, applyFill_of_refused hmul hb⟩
  | finite q =>
    rw [hq] at hpos
    have hmul : arith (execution.quantity.mul .exact execution.price) = .ok (.finite (q * x)) := by
      rw [hq, hx]
      rfl
    have hbalance : balance .exact execution.side p.account.cashBalance (.finite (q * x)) =
        .ok (.finite (p.cash - execution.side.signed q * x)) := by
      rw [hp.cash_eq]
      cases execution.side with
      | buy => simp [balance, OrderSide.signed, Except.map]
      | sell => simp [balance, OrderSide.signed, Except.map]
    have hbooked : (∃ e, booked .exact p execution (.finite (q * x)) = .error e) ∨
        ∃ positions, booked .exact p execution (.finite (q * x)) = .ok positions ∧
          Trades p execution q x positions := by
      cases hside : execution.side with
      | buy =>
        by_cases hcov : q * x ≤ p.cash
        · exact Or.inr (booked_of_covered hp hside hq hpos hxpos hcov)
        · exact Or.inl ⟨_, booked_of_not_covered hp hside (not_le.mp hcov)⟩
      | sell => exact booked_sell hp hside hq _
    rcases hbooked with ⟨e, hb⟩ | ⟨positions, hb, ht⟩
    · exact Or.inl ⟨e, applyFill_of_refused hmul hb⟩
    · exact Or.inr ⟨q, positions, rfl, hpos, hxpos, ht,
        applyFill_of_balance hmul hb hp.connected hbalance⟩

lemma applyFill_buy_of_infinite (hp : p.Numeric) (hside : execution.side = .buy)
    (hprice : execution.price = .infinite false) :
    ∃ e, applyFill .exact execution p = .error e p := by
  have hmul : arith (execution.quantity.mul .exact execution.price) = .ok (.infinite false) := by
    rw [hprice, Decimal.mul_infinite _ (validatePositive_eq_ok.mp execution.valid.1), arith_ok]
  exact ⟨_, applyFill_of_refused hmul (booked_buy_of_infinite hp hside)⟩

namespace Trades

variable {positions : Dict Str Position} {now : Datetime}

/-- Other symbols are left alone. -/
lemma get_of_ne (ht : Trades p execution q x positions) {symbol : Str}
    (h : symbol ≠ execution.symbol) : positions.get symbol = p.positions.get symbol := by
  cases ht with
  | bought position => exact Dict.get_set_of_ne _ _ h
  | reduced position rest => exact Dict.get_set_of_ne _ _ h
  | closed => exact Dict.get_erase_of_ne _ h

/-- The position that is held after a trade: a purchase raises the quantity and mixes the prices, a
sale lowers the quantity. -/
lemma holds (ht : Trades p execution q x positions) {position : Position}
    (h : positions.get execution.symbol = some position) :
    position.quantity = .finite (p.held execution.symbol + execution.side.signed q) ∧
      match execution.side with
      | .buy => q * x ≤ p.cash ∧ position.averagePrice = .finite
          ((p.held execution.symbol * p.average execution.symbol + q * x) /
            (p.held execution.symbol + q))
      | .sell => ∃ before, p.positions.get execution.symbol = some before ∧
          position.averagePrice = before.averagePrice := by
  cases ht with
  | bought position' hside hcov hquantity haverage =>
    rw [Dict.get_set_self] at h
    cases h
    rw [hside]
    exact ⟨hquantity, hcov, haverage⟩
  | reduced before rest hside hheld hquantity haverage =>
    rw [Dict.get_set_self] at h
    cases h
    rw [hside, OrderSide.signed, ← sub_eq_add_neg]
    exact ⟨hquantity, before, hheld, haverage⟩
  | closed hside =>
    rw [Dict.get_erase_self] at h
    cases h

lemma cash_nonneg (ht : Trades p execution q x positions) (hp : p.Numeric) (hpos : 0 < q)
    (hx : 0 < x) : 0 ≤ p.cash - execution.side.signed q * x := by
  have hcash := hp.cash_nonneg
  have hnotional := mul_pos hpos hx
  cases ht with
  | bought position hside hcov =>
    rw [hside, OrderSide.signed]
    linarith
  | reduced before rest hside =>
    rw [hside, OrderSide.signed]
    linarith
  | closed hside =>
    rw [hside, OrderSide.signed]
    linarith

lemma finite (ht : Trades p execution q x positions) (hp : p.Numeric) {symbol : Str}
    {position : Position} (h : positions.get symbol = some position) :
    (∃ y, position.quantity = .finite y) ∧ ∃ y, position.averagePrice = .finite y := by
  by_cases hsym : symbol = execution.symbol
  · rw [hsym] at h
    obtain ⟨hquantity, haverage⟩ := ht.holds h
    refine ⟨⟨_, hquantity⟩, ?_⟩
    cases hside : execution.side with
    | buy =>
      rw [hside] at haverage
      exact ⟨_, haverage.2⟩
    | sell =>
      rw [hside] at haverage
      obtain ⟨before, hget, heq⟩ := haverage
      exact ⟨_, heq.trans (hp.averagePrice _ _ hget).1⟩
  · rw [ht.get_of_ne hsym] at h
    exact ⟨⟨_, (hp.quantity _ _ h).1⟩, ⟨_, (hp.averagePrice _ _ h).1⟩⟩

/-- A trade leaves numbers. -/
lemma numeric (ht : Trades p execution q x positions) (hp : p.Numeric) (hpos : 0 < q) (hx : 0 < x) :
    (p.charged positions (.finite (p.cash - execution.side.signed q * x)) now).Numeric where
  connected := hp.connected
  cash_eq := rfl
  cash_nonneg := ht.cash_nonneg hp hpos hx
  quantity := by
    intro symbol position h
    obtain ⟨⟨y, hy⟩, -⟩ := ht.finite hp h
    have hpositive := validatePositive_eq_ok.mp position.valid.1
    have hheld : (p.charged positions (.finite (p.cash - execution.side.signed q * x)) now).held
        symbol = y := by
      rw [held_of_some h, hy, Decimal.toRat_finite]
    rw [hheld]
    rw [hy] at hpositive
    exact ⟨hy, hpositive⟩
  averagePrice := by
    intro symbol position h
    obtain ⟨-, y, hy⟩ := ht.finite hp h
    have hpositive := validatePositive_eq_ok.mp position.valid.2
    have haverage : (p.charged positions (.finite (p.cash - execution.side.signed q * x)) now).average
        symbol = y := by
      rw [average_of_some h, hy, Decimal.toRat_finite]
    rw [haverage]
    rw [hy] at hpositive
    exact ⟨hy, hpositive⟩

end Trades

end MockBrokerProvider

namespace Book

/-- What holds of a book after every execution. -/
structure Tracked (book : Book) : Prop where
  numeric : book.provider.Numeric
  cash : book.provider.cash =
    startingCash - (notionals .buy book.accepted - notionals .sell book.accepted)
  basis : ∀ symbol position, book.provider.positions.get symbol = some position →
    book.provider.held symbol * book.provider.average symbol = book.costBasis symbol
  between : ∀ symbol position, book.provider.positions.get symbol = some position →
    (∃ y ∈ book.buyPrices symbol, y ≤ book.provider.average symbol) ∧
      ∃ y ∈ book.buyPrices symbol, book.provider.average symbol ≤ y
  kept : ∀ fill ∈ book.fills, fill.execution.side = .sell →
    ∀ symbol position', fill.after.positions.get symbol = some position' →
      ∃ position, fill.before.positions.get symbol = some position ∧
        position'.averagePrice = position.averagePrice

variable {book : Book} {execution : Execution} {positions : Dict Str Position} {q x : ℚ}
  {p p' : MockBrokerProvider} {symbol : Str}

/-- The book with one more fill. -/
def fill (book : Book) (execution : Execution) (p' : MockBrokerProvider) : Book :=
  ⟨p', book.fills ++ [⟨execution, book.provider, p'⟩]⟩

lemma sinceOpened_fill (book : Book) (execution : Execution) (p' : MockBrokerProvider)
    (symbol : Str) : (book.fill execution p').sinceOpened symbol =
      Fill.extend symbol (book.sinceOpened symbol) ⟨execution, book.provider, p'⟩ := by
  rw [sinceOpened, fill, List.foldl_append]
  rfl

lemma sinceOpened_fill_of_ne (h : symbol ≠ execution.symbol) :
    (book.fill execution p').sinceOpened symbol = book.sinceOpened symbol := by
  rw [sinceOpened_fill, Fill.extend, if_neg (by exact Ne.symm h)]

/-- What a trade adds to the cost basis of its symbol, which starts again with a new position. -/
lemma costBasis_fill (hb : book.Tracked) :
    (book.fill execution p').costBasis execution.symbol =
      book.provider.held execution.symbol * book.provider.average execution.symbol +
        Fill.cost ⟨execution, book.provider, p'⟩ := by
  rw [costBasis, sinceOpened_fill, Fill.extend, if_pos rfl]
  rcases hget : book.provider.positions.get execution.symbol with _ | position
  · rw [if_pos rfl, held_of_none hget, List.map_singleton, List.sum_singleton, zero_mul,
      zero_add]
  · rw [if_neg (by simp), List.map_append, List.sum_append, List.map_singleton,
      List.sum_singleton, hb.basis _ _ hget]
    rfl

/-- The purchases since the position was opened. -/
lemma mem_buyPrices_fill (hside : execution.side = .buy) :
    execution.price.toRat ∈ (book.fill execution p').buyPrices execution.symbol := by
  rw [buyPrices, sinceOpened_fill, Fill.extend, if_pos rfl]
  split
  · simp [hside]
  · simp [hside]

lemma mem_buyPrices_fill_of_held {position : Position}
    (hget : book.provider.positions.get execution.symbol = some position) {y : ℚ}
    (hy : y ∈ book.buyPrices execution.symbol) :
    y ∈ (book.fill execution p').buyPrices execution.symbol := by
  rw [buyPrices, sinceOpened_fill, Fill.extend, if_pos rfl, if_neg (by simp [hget]),
    List.filter_append, List.map_append, List.mem_append]
  exact Or.inl hy

end Book

/-- A mixture lies between what is mixed. -/
lemma le_mixture {c h a q x : ℚ} (hh : 0 ≤ h) (hq : 0 < q) (ha : c ≤ a) (hx : c ≤ x) :
    c ≤ (h * a + q * x) / (h + q) := by
  rw [le_div_iff₀ (by linarith)]
  have h1 := mul_le_mul_of_nonneg_left ha hh
  have h2 := mul_le_mul_of_nonneg_left hx hq.le
  linarith

lemma mixture_le {c h a q x : ℚ} (hh : 0 ≤ h) (hq : 0 < q) (ha : a ≤ c) (hx : x ≤ c) :
    (h * a + q * x) / (h + q) ≤ c := by
  rw [div_le_iff₀ (by linarith)]
  have h1 := mul_le_mul_of_nonneg_left ha hh
  have h2 := mul_le_mul_of_nonneg_left hx hq.le
  linarith

namespace Book.Tracked

variable {book : Book} {execution : Execution} {positions : Dict Str Position} {q x : ℚ}
  {now : Datetime}

section Fill

variable (hb : book.Tracked) (ht : Trades book.provider execution q x positions) (hpos : 0 < q)
  (hx : 0 < x) (hq : execution.quantity = .finite q) (hprice : execution.price = .finite x)

include hb ht

omit hb in
/-- The average price of the traded symbol: mixed by a purchase, kept by a sale. -/
lemma average_after {position : Position} (h : positions.get execution.symbol = some position) :
    position.averagePrice.toRat =
      match execution.side with
      | .buy => (book.provider.held execution.symbol * book.provider.average execution.symbol + q * x) /
          (book.provider.held execution.symbol + q)
      | .sell => book.provider.average execution.symbol := by
  obtain ⟨-, haverage⟩ := ht.holds h
  cases hside : execution.side with
  | buy =>
    rw [hside] at haverage
    rw [haverage.2, Decimal.toRat_finite]
  | sell =>
    rw [hside] at haverage
    obtain ⟨before, hget, heq⟩ := haverage
    rw [heq, average_of_some hget]

omit ht in
lemma held_nonneg (symbol : Str) : 0 ≤ book.provider.held symbol := by
  rcases hget : book.provider.positions.get symbol with _ | position
  · rw [held_of_none hget]
  · exact (hb.numeric.quantity _ _ hget).2.le

/-- The average price stays between prices that were paid. -/
lemma between_after (hpos : 0 < q) (hx : execution.price.toRat = x) {p' : MockBrokerProvider}
    {position : Position} (h : positions.get execution.symbol = some position) :
    (∃ y ∈ (book.fill execution p').buyPrices execution.symbol, y ≤ position.averagePrice.toRat) ∧
      ∃ y ∈ (book.fill execution p').buyPrices execution.symbol,
        position.averagePrice.toRat ≤ y := by
  have hheld := hb.held_nonneg execution.symbol
  rw [average_after ht h]
  cases hside : execution.side with
  | buy =>
    have hmem : execution.price.toRat ∈ (book.fill execution p').buyPrices execution.symbol :=
      mem_buyPrices_fill hside
    rw [hx] at hmem
    rcases hget : book.provider.positions.get execution.symbol with _ | before
    · have hfirst : (book.provider.held execution.symbol * book.provider.average execution.symbol +
          q * x) / (book.provider.held execution.symbol + q) = x := by
        rw [held_of_none hget, zero_mul, zero_add, zero_add, mul_div_cancel_left₀ _ hpos.ne']
      exact ⟨⟨x, hmem, hfirst.ge⟩, ⟨x, hmem, hfirst.le⟩⟩
    · obtain ⟨⟨low, hlow, hle⟩, high, hhigh, hge⟩ := hb.between _ _ hget
      have hkept : ∀ y ∈ book.buyPrices execution.symbol,
          y ∈ (book.fill execution p').buyPrices execution.symbol :=
        fun y hy => mem_buyPrices_fill_of_held hget hy
      have hlow' := hkept low hlow
      have hhigh' := hkept high hhigh
      rcases le_total x (book.provider.average execution.symbol) with hxa | hax
      · exact ⟨⟨x, hmem, le_mixture hheld hpos hxa le_rfl⟩,
          ⟨high, hhigh', mixture_le hheld hpos hge (hxa.trans hge)⟩⟩
      · exact ⟨⟨low, hlow', le_mixture hheld hpos hle (hle.trans hax)⟩,
          ⟨x, hmem, mixture_le hheld hpos hax le_rfl⟩⟩
  | sell =>
    obtain ⟨-, haverage⟩ := ht.holds h
    rw [hside] at haverage
    obtain ⟨before, hget, -⟩ := haverage
    obtain ⟨⟨low, hlow, hle⟩, high, hhigh, hge⟩ := hb.between _ _ hget
    exact ⟨⟨low, mem_buyPrices_fill_of_held hget hlow, hle⟩,
      ⟨high, mem_buyPrices_fill_of_held hget hhigh, hge⟩⟩

omit hb in
/-- A sale leaves the average price of every position that stays open. -/
lemma kept_after (hside : execution.side = .sell) {symbol : Str} {position' : Position}
    (h : positions.get symbol = some position') :
    ∃ position, book.provider.positions.get symbol = some position ∧
      position'.averagePrice = position.averagePrice := by
  by_cases hsym : symbol = execution.symbol
  · rw [hsym] at h ⊢
    obtain ⟨-, haverage⟩ := ht.holds h
    rwa [hside] at haverage
  · rw [ht.get_of_ne hsym] at h
    exact ⟨position', h, rfl⟩

include hpos hx hq hprice

/-- One accepted execution keeps the accounts. -/
lemma fill : (book.fill execution
    (book.provider.charged positions (.finite (book.provider.cash - execution.side.signed q * x)) now)
    ).Tracked := by
  have hq' : execution.quantity.toRat = q := by rw [hq, Decimal.toRat_finite]
  have hx' : execution.price.toRat = x := by rw [hprice, Decimal.toRat_finite]
  have hheld := hb.held_nonneg execution.symbol
  constructor
  case numeric => exact ht.numeric hb.numeric hpos hx
  case cash =>
    have haccepted : (book.fill execution (book.provider.charged positions
        (.finite (book.provider.cash - execution.side.signed q * x)) now)).accepted =
          book.accepted ++ [execution] := by simp [accepted, Book.fill]
    rw [haccepted, notionals_snoc, hq', hx']
    change book.provider.cash - _ = _
    rw [hb.cash]
    ring
  case basis =>
    intro symbol position h
    rw [held_of_some h, average_of_some h]
    by_cases hsym : symbol = execution.symbol
    · subst hsym
      rw [costBasis_fill hb, average_after ht h, (ht.holds h).1, Decimal.toRat_finite]
      cases hside : execution.side with
      | buy =>
        simp only [OrderSide.signed, Fill.cost, hside, hq', hx']
        rw [mul_div_cancel₀ _ (by linarith)]
      | sell =>
        simp only [OrderSide.signed, Fill.cost, hside, hq']
        ring
    · rw [costBasis, sinceOpened_fill_of_ne hsym]
      have h' := h
      change positions.get symbol = _ at h'
      rw [ht.get_of_ne hsym] at h'
      rw [← held_of_some h', ← average_of_some h', hb.basis _ _ h']
      rfl
  case between =>
    intro symbol position h
    rw [average_of_some h]
    by_cases hsym : symbol = execution.symbol
    · rw [hsym] at h ⊢
      exact between_after hb ht hpos hx' h
    · rw [buyPrices, sinceOpened_fill_of_ne hsym]
      have h' := h
      change positions.get symbol = _ at h'
      rw [ht.get_of_ne hsym] at h'
      rw [← average_of_some h']
      exact hb.between _ _ h'
  case kept =>
    intro fill hmem hside symbol position' h
    rw [Book.fill, List.mem_append, List.mem_singleton] at hmem
    rcases hmem with hmem | rfl
    · exact hb.kept fill hmem hside symbol position' h
    · exact kept_after ht hside h

end Fill

/-- One execution, accepted or refused. -/
lemma apply (hb : book.Tracked) (hprice : execution.side = .sell → ∃ x, execution.price = .finite x) :
    (book.apply execution).Tracked := by
  have hrefused : (∃ e, applyFill .exact execution book.provider = .error e book.provider) →
      (book.apply execution).Tracked := by
    rintro ⟨e, he⟩
    rw [Book.apply, he]
    exact hb
  have hpositive := validatePositive_eq_ok.mp execution.valid.2
  cases hx : execution.price with
  | finite x =>
    rcases applyFill_exact hb.numeric hx with he | ⟨q, positions, hq, hpos, hxpos, ht, hf⟩
    · exact hrefused he
    · rw [Book.apply, hf]
      exact hb.fill ht hpos hxpos hq hx
  | infinite negative =>
    rw [hx] at hpositive
    obtain rfl : negative = false := hpositive
    cases hside : execution.side with
    | buy => exact hrefused (applyFill_buy_of_infinite hb.numeric hside hx)
    | sell =>
      obtain ⟨x, hfinite⟩ := hprice hside
      cases hx.symm.trans hfinite
  | nan =>
    rw [hx] at hpositive
    exact absurd hpositive id

lemma accounts (hb : book.Tracked) : Accounts book where
  cash := by
    refine ⟨book.provider.cash, hb.numeric.cash_eq, hb.numeric.cash_nonneg, ?_⟩
    rw [hb.cash]
    ring
  basis := by
    intro symbol position h
    obtain ⟨hquantity, hpos⟩ := hb.numeric.quantity _ _ h
    obtain ⟨⟨y, hy, hle⟩, z, hz, hge⟩ := hb.between _ _ h
    obtain ⟨low, hlow⟩ := List.isSome_min?_of_mem hy |> Option.isSome_iff_exists.mp
    obtain ⟨high, hhigh⟩ := List.isSome_max?_of_mem hz |> Option.isSome_iff_exists.mp
    refine ⟨_, _, hquantity, (hb.numeric.averagePrice _ _ h).1, hpos, hb.basis _ _ h, low, high,
      hlow, hhigh, ?_, ?_⟩
    · exact ((List.min?_eq_some_iff.mp hlow).2 y hy).trans hle
    · exact hge.trans ((List.max?_eq_some_iff.mp hhigh).2 z hz)
  kept := hb.kept

end Book.Tracked

lemma tracked_init (accountId : Str) (created : Datetime) :
    (Book.replay accountId created []).Tracked where
  numeric :=
    { connected := rfl
      cash_eq := rfl
      cash_nonneg := by norm_num [cash, Book.replay, init, startingCash]
      quantity := fun _ _ h => nomatch h
      averagePrice := fun _ _ h => nomatch h }
  cash := by simp [Book.replay, Book.accepted, notionals, cash, init]
  basis := fun _ _ h => nomatch h
  between := fun _ _ h => nomatch h
  kept := fun _ h => nomatch h

lemma tracked_replay (accountId : Str) (created : Datetime) (log : List Execution)
    (h : ∀ execution ∈ log, execution.side = .sell → ∃ x, execution.price = .finite x) :
    (Book.replay accountId created log).Tracked := by
  induction log using List.reverseRecOn with
  | nil => exact tracked_init accountId created
  | append_singleton log execution ih =>
    have hbefore := ih fun e he => h e (List.mem_append_left _ he)
    rw [Book.replay, List.foldl_append]
    exact hbefore.apply (h execution (by simp))

/-- For every log of executions, refused ones skipped: the cash, the cost basis of each position and
its average price. A sale has a finite price. -/
theorem accounts_replay (accountId : Str) (created : Datetime) (log : List Execution)
    (h : ∀ execution ∈ log, execution.side = .sell → ∃ x, execution.price = .finite x) :
    Accounts (Book.replay accountId created log) := (tracked_replay accountId created log h).accounts

namespace Trading

def noon : Datetime := ⟨43200000000, some 0⟩

/-- An execution of some AAPL. -/
def trade (side : OrderSide) (q x : ℚ) (hq : 0 < q) (hx : 0 < x) : Execution :=
  ⟨"e", "o", "AAPL", side, .finite q, .finite x, noon, validatePositive_eq_ok.mpr hq,
    validatePositive_eq_ok.mpr hx⟩

/-- Two purchases, a partial sale, a sale that is too large, the rest and a purchase. -/
def log : List Execution :=
  [trade .buy 10 120 (by norm_num) (by norm_num), trade .buy 5 90 (by norm_num) (by norm_num),
    trade .sell 3 150 (by norm_num) (by norm_num), trade .sell 20 150 (by norm_num) (by norm_num),
    trade .sell 12 80 (by norm_num) (by norm_num), trade .buy 1 70 (by norm_num) (by norm_num)]

theorem accounts_replay_log :
    (Book.replay "account" noon log).fills.length = 5 ∧ Accounts (Book.replay "account" noon log) := by
  refine ⟨by decide +kernel, accounts_replay "account" noon log ?_⟩
  intro execution hmem _
  simp only [log, List.mem_cons, List.not_mem_nil, or_false] at hmem
  rcases hmem with rfl | rfl | rfl | rfl | rfl | rfl <;> exact ⟨_, rfl⟩

end Trading

end Pentagon5.Broker
