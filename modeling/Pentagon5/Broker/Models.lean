import Pentagon5.Python.Decimal
import Pentagon5.Python.Text

/-!
# Broker models

Each frozen dataclass of `broker.models` is a structure whose last field records that its
`__post_init__` raised nothing, and a constructor `new` that raises where it does.
-/

namespace Pentagon5.Broker

open Python

/-- A `datetime` by its local time in microseconds and its UTC offset, `none` when naive. -/
structure Datetime where
  wall : ℤ
  utcoffset : Option ℤ
deriving DecidableEq

inductive OrderSide
  | buy
  | sell
deriving DecidableEq

inductive OrderType
  | market
  | limit
deriving DecidableEq

inductive OrderStatus
  | pending
  | filled
  | cancelled
  | rejected
deriving DecidableEq

/-- What a broker method may raise. -/
inductive BrokerError
  | valueError (message : Str)
  | notImplementedError (message : Str)
  | decimal (signal : DecimalSignal)
deriving DecidableEq

/-- An arithmetic operation or a comparison, with its signals as exceptions. -/
def arith {α : Type} (x : Except DecimalSignal α) : Except BrokerError α := x.mapError .decimal

def validatePositive (value : Decimal) (name : String) : Except BrokerError Unit := do
  if ← arith (value.le (.finite 0)) then
    throw (.valueError (name ++ " must be positive" : String))

def validateLimitOrder (orderType : OrderType) (limitPrice : Option Decimal) :
    Except BrokerError Unit := do
  if orderType = .limit ∧ limitPrice = none then
    throw (.valueError "limit orders require a limit price")
  match limitPrice with
  | some price => validatePositive price "limit price"
  | none => pure ()

/-- `__post_init__` of an order request and of an order. -/
def validateOrder (quantity : Decimal) (orderType : OrderType) (limitPrice : Option Decimal) :
    Except BrokerError Unit := do
  validatePositive quantity "quantity"
  validateLimitOrder orderType limitPrice

lemma validatePositive_eq_ok {value : Decimal} {name : String} :
    validatePositive value name = .ok () ↔ value.Positive := by
  rw [← Decimal.le_zero_eq_false]
  rcases h : value.le (.finite 0) with signal | _ | _ <;>
    simp [validatePositive, h, arith, Except.mapError, bind, Except.bind, pure, Except.pure, throw,
      throwThe, MonadExceptOf.throw]

lemma validateOrder_market {quantity : Decimal} (h : quantity.Positive) :
    validateOrder quantity .market none = .ok () := by
  rw [validateOrder, validatePositive_eq_ok.mpr h]
  rfl

lemma positive_of_validateOrder {quantity : Decimal} {orderType : OrderType}
    {limitPrice : Option Decimal} (h : validateOrder quantity orderType limitPrice = .ok ()) :
    quantity.Positive := by
  rcases hp : validatePositive quantity "quantity" with e | _
  · rw [validateOrder, hp] at h
    cases h
  · exact validatePositive_eq_ok.mp hp

@[ext] structure OrderRequest where
  symbol : Str
  side : OrderSide
  orderType : OrderType
  quantity : Decimal
  requestedAt : Datetime
  limitPrice : Option Decimal
  valid : validateOrder quantity orderType limitPrice = .ok ()

def OrderRequest.new (symbol : Str) (side : OrderSide) (orderType : OrderType) (quantity : Decimal)
    (requestedAt : Datetime) (limitPrice : Option Decimal) : Except BrokerError OrderRequest :=
  match h : validateOrder quantity orderType limitPrice with
  | .ok () => .ok ⟨symbol, side, orderType, quantity, requestedAt, limitPrice, h⟩
  | .error e => .error e

@[ext] structure Order where
  id : Str
  symbol : Str
  side : OrderSide
  orderType : OrderType
  quantity : Decimal
  status : OrderStatus
  createdAt : Datetime
  updatedAt : Datetime
  limitPrice : Option Decimal
  valid : validateOrder quantity orderType limitPrice = .ok ()

def Order.new (id symbol : Str) (side : OrderSide) (orderType : OrderType) (quantity : Decimal)
    (status : OrderStatus) (createdAt updatedAt : Datetime) (limitPrice : Option Decimal) :
    Except BrokerError Order :=
  match h : validateOrder quantity orderType limitPrice with
  | .ok () => .ok ⟨id, symbol, side, orderType, quantity, status, createdAt, updatedAt, limitPrice, h⟩
  | .error e => .error e

@[ext] structure Execution where
  id : Str
  orderId : Str
  symbol : Str
  side : OrderSide
  quantity : Decimal
  price : Decimal
  executedAt : Datetime
  valid : validatePositive quantity "quantity" = .ok () ∧ validatePositive price "price" = .ok ()

def Execution.new (id orderId symbol : Str) (side : OrderSide) (quantity price : Decimal)
    (executedAt : Datetime) : Except BrokerError Execution :=
  match hq : validatePositive quantity "quantity" with
  | .error e => .error e
  | .ok () =>
    match hp : validatePositive price "price" with
    | .error e => .error e
    | .ok () => .ok ⟨id, orderId, symbol, side, quantity, price, executedAt, hq, hp⟩

@[ext] structure Position where
  symbol : Str
  quantity : Decimal
  averagePrice : Decimal
  updatedAt : Datetime
  valid : validatePositive quantity "quantity" = .ok () ∧
    validatePositive averagePrice "average price" = .ok ()

def Position.new (symbol : Str) (quantity averagePrice : Decimal) (updatedAt : Datetime) :
    Except BrokerError Position :=
  match hq : validatePositive quantity "quantity" with
  | .error e => .error e
  | .ok () =>
    match hp : validatePositive averagePrice "average price" with
    | .error e => .error e
    | .ok () => .ok ⟨symbol, quantity, averagePrice, updatedAt, hq, hp⟩

structure Account where
  id : Str
  cashBalance : Decimal
  equity : Decimal
  buyingPower : Decimal
  updatedAt : Datetime
  positions : List Position

section New

variable {id orderId symbol : Str} {side : OrderSide} {orderType : OrderType}
  {quantity price averagePrice : Decimal} {status : OrderStatus}
  {requestedAt createdAt updatedAt executedAt : Datetime} {limitPrice : Option Decimal}

/-- A constructor succeeds exactly when its checks do. -/
lemma OrderRequest.new_eq_ok (h : validateOrder quantity orderType limitPrice = .ok ()) :
    OrderRequest.new symbol side orderType quantity requestedAt limitPrice =
      .ok ⟨symbol, side, orderType, quantity, requestedAt, limitPrice, h⟩ := by
  unfold OrderRequest.new
  split
  · rfl
  · next e he => exact absurd (h.symm.trans he) (by simp)

lemma Order.new_eq_ok (h : validateOrder quantity orderType limitPrice = .ok ()) :
    Order.new id symbol side orderType quantity status createdAt updatedAt limitPrice =
      .ok ⟨id, symbol, side, orderType, quantity, status, createdAt, updatedAt, limitPrice, h⟩ := by
  unfold Order.new
  split
  · rfl
  · next e he => exact absurd (h.symm.trans he) (by simp)

lemma Execution.new_eq_ok (hq : validatePositive quantity "quantity" = .ok ())
    (hp : validatePositive price "price" = .ok ()) :
    Execution.new id orderId symbol side quantity price executedAt =
      .ok ⟨id, orderId, symbol, side, quantity, price, executedAt, hq, hp⟩ := by
  unfold Execution.new
  split
  · next e he => exact absurd (hq.symm.trans he) (by simp)
  · split
    · next e he => exact absurd (hp.symm.trans he) (by simp)
    · rfl

lemma Position.new_eq_ok (symbol : Str) (updatedAt : Datetime)
    (hq : validatePositive quantity "quantity" = .ok ())
    (hp : validatePositive averagePrice "average price" = .ok ()) :
    Position.new symbol quantity averagePrice updatedAt =
      .ok ⟨symbol, quantity, averagePrice, updatedAt, hq, hp⟩ := by
  unfold Position.new
  split
  · next e he => exact absurd (hq.symm.trans he) (by simp)
  · split
    · next e he => exact absurd (hp.symm.trans he) (by simp)
    · rfl

end New

end Pentagon5.Broker
