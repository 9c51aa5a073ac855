import Pentagon5.Broker.Models
import Pentagon5.Python.Dict
import Pentagon5.Python.Raising

/-!
# The mock broker

`MockBrokerProvider` with its methods as state-passing functions: a method that raises leaves
what it had written by then. Clock readings and the identifiers that `uuid4` draws are
arguments, and so is the decimal context of the thread.
-/

namespace Pentagon5.Broker

open Python

structure MockBrokerProvider where
  connected : Bool
  orders : Dict Str Order
  executions : List Execution
  positions : Dict Str Position
  account : Account

abbrev Method := EStateM BrokerError MockBrokerProvider

namespace MockBrokerProvider

def marketPrice : ℚ := 100

def startingCash : ℚ := 100000

/-- `__init__`. -/
def init (accountId : Str) (now : Datetime) : MockBrokerProvider where
  connected := false
  orders := .empty
  executions := []
  positions := .empty
  account :=
    { id := accountId
      cashBalance := .finite startingCash
      equity := .finite startingCash
      buyingPower := .finite startingCash
      updatedAt := now
      positions := [] }

def connect : Method Unit := modify fun p => { p with connected := true }

def disconnect : Method Unit := modify fun p => { p with connected := false }

def isConnected : Method Bool := return (← get).connected

def requireConnected : Method Unit := do
  if ¬(← get).connected then
    throw (.valueError "broker provider is disconnected")

def getOrder (orderId : Str) : Method Order := do
  requireConnected
  match (← get).orders.get orderId with
  | some order => return order
  | none => throw (.valueError (("unknown order: " : Str) ++ orderId))

def getExecutions (orderId : Option Str) : Method (List Execution) := do
  requireConnected
  match orderId with
  | none => return (← get).executions
  | some orderId => return (← get).executions.filter (·.orderId = orderId)

def getPositions : Method (List Position) := do
  requireConnected
  return (← get).positions.sortedValues

def getAccount : Method Account := do
  requireConnected
  return (← get).account

variable (ctx : Context)

/-- The BUY branch of `_apply_fill`; returns the new cash balance. -/
def applyBuy (execution : Execution) (existing : Option Position) (notional : Decimal) :
    Method Decimal := do
  let cashBalance := (← get).account.cashBalance
  if ← attempt (arith (cashBalance.lt notional)) then
    throw (.valueError "insufficient cash")
  let previousQuantity := match existing with
    | some position => position.quantity
    | none => .finite 0
  let previousCost ← match existing with
    | some position => attempt (arith (position.quantity.mul ctx position.averagePrice))
    | none => pure (.finite 0)
  let quantity ← attempt (arith (previousQuantity.add ctx execution.quantity))
  let cost ← attempt (arith (previousCost.add ctx notional))
  let averagePrice ← attempt (arith (cost.div ctx quantity))
  let position ← attempt (Position.new execution.symbol quantity averagePrice execution.executedAt)
  modify fun p => { p with positions := p.positions.set execution.symbol position }
  attempt (arith (cashBalance.sub ctx notional))

/-- The SELL branch of `_apply_fill`. -/
def applySell (execution : Execution) (existing : Option Position) (notional : Decimal) :
    Method Decimal := do
  match existing with
  | none => throw (.valueError "insufficient position")
  | some position =>
    if ← attempt (arith (position.quantity.lt execution.quantity)) then
      throw (.valueError "insufficient position")
    let quantity ← attempt (arith (position.quantity.sub ctx execution.quantity))
    if quantity.eq (.finite 0) then
      modify fun p => { p with positions := p.positions.erase execution.symbol }
    else
      let rest ← attempt
        (Position.new position.symbol quantity position.averagePrice execution.executedAt)
      modify fun p => { p with positions := p.positions.set execution.symbol rest }
    attempt (arith ((← get).account.cashBalance.add ctx notional))

/-- `_apply_fill`. -/
def applyFill (execution : Execution) : Method Unit := do
  let existing := (← get).positions.get execution.symbol
  let notional ← attempt (arith (execution.quantity.mul ctx execution.price))
  let cashBalance ← match execution.side with
    | .buy => applyBuy ctx execution existing notional
    | .sell => applySell ctx execution existing notional
  let positions ← getPositions
  modify fun p => { p with account :=
    { id := p.account.id
      cashBalance := cashBalance
      equity := p.account.equity
      buyingPower := cashBalance
      updatedAt := execution.executedAt
      positions := positions } }

/-- `sum((position.quantity * self.MARKET_PRICE for position in positions), start=total)`. -/
def marketValue : List Position → Decimal → Except BrokerError Decimal
  | [], total => .ok total
  | position :: positions, total => do
    let value ← arith (position.quantity.mul ctx (.finite marketPrice))
    marketValue positions (← arith (total.add ctx value))

/-- `_refresh_account`. -/
def refreshAccount (updatedAt : Datetime) : Method Unit := do
  let p ← get
  let value ← attempt (marketValue ctx p.positions.values (.finite 0))
  let equity ← attempt (arith (p.account.cashBalance.add ctx value))
  let positions ← getPositions
  modify fun p => { p with account :=
    { id := p.account.id
      cashBalance := p.account.cashBalance
      equity := equity
      buyingPower := p.account.cashBalance
      updatedAt := updatedAt
      positions := positions } }

/-- `place_order`, with the two identifiers it draws and its clock reading. -/
def placeOrder (request : OrderRequest) (orderId executionId : Str) (now : Datetime) :
    Method Order := do
  requireConnected
  if request.orderType = .limit then
    throw (.notImplementedError "MockBrokerProvider supports market orders only")
  let order ← attempt (Order.new orderId request.symbol request.side request.orderType
    request.quantity .filled now now none)
  let execution ← attempt (Execution.new executionId order.id order.symbol order.side
    order.quantity (.finite marketPrice) now)
  applyFill ctx execution
  modify fun p => { p with orders := p.orders.set order.id order }
  modify fun p => { p with executions := p.executions ++ [execution] }
  refreshAccount ctx now
  return order

def cancelOrder (orderId : Str) (now : Datetime) : Method Order := do
  requireConnected
  let order ← getOrder orderId
  if order.status ≠ .pending then
    throw (.valueError "only pending orders can be cancelled")
  let cancelled ← attempt (Order.new order.id order.symbol order.side order.orderType
    order.quantity .cancelled order.createdAt now order.limitPrice)
  modify fun p => { p with orders := p.orders.set orderId cancelled }
  return cancelled

end MockBrokerProvider

/-- A call of a public operation. -/
inductive Call
  | connect
  | disconnect
  | isConnected
  | placeOrder (request : OrderRequest) (orderId executionId : Str) (now : Datetime)
  | cancelOrder (orderId : Str) (now : Datetime)
  | getOrder (orderId : Str)
  | getExecutions (orderId : Option Str)
  | getPositions
  | getAccount

namespace Call

/-- The identifiers that a call draws. -/
def draws : Call → List Str
  | .placeOrder _ orderId executionId _ => [orderId, executionId]
  | _ => []

/-- What a method raised, if it did, and the provider it left. -/
def outcome {α : Type} : EStateM.Result BrokerError MockBrokerProvider α →
    Except BrokerError Unit × MockBrokerProvider
  | .ok _ p => (.ok (), p)
  | .error e p => (.error e, p)

def perform (ctx : Context) (call : Call) (p : MockBrokerProvider) :
    Except BrokerError Unit × MockBrokerProvider :=
  match call with
  | .connect => outcome (MockBrokerProvider.connect p)
  | .disconnect => outcome (MockBrokerProvider.disconnect p)
  | .isConnected => outcome (MockBrokerProvider.isConnected p)
  | .placeOrder request orderId executionId now =>
    outcome (MockBrokerProvider.placeOrder ctx request orderId executionId now p)
  | .cancelOrder orderId now => outcome (MockBrokerProvider.cancelOrder orderId now p)
  | .getOrder orderId => outcome (MockBrokerProvider.getOrder orderId p)
  | .getExecutions orderId => outcome (MockBrokerProvider.getExecutions orderId p)
  | .getPositions => outcome (MockBrokerProvider.getPositions p)
  | .getAccount => outcome (MockBrokerProvider.getAccount p)

end Call

/-- The provider after a sequence of calls, whatever they raise. -/
def run (ctx : Context) (calls : List Call) (p : MockBrokerProvider) : MockBrokerProvider :=
  calls.foldl (fun p call => (call.perform ctx p).2) p

lemma run_append (ctx : Context) (before after : List Call) (p : MockBrokerProvider) :
    run ctx (before ++ after) p = run ctx after (run ctx before p) := List.foldl_append

lemma run_snoc (ctx : Context) (calls : List Call) (call : Call) (p : MockBrokerProvider) :
    run ctx (calls ++ [call]) p = (call.perform ctx (run ctx calls p)).2 := by
  rw [run_append]
  rfl

/-- No identifier is drawn twice. -/
def Fresh (calls : List Call) : Prop := (calls.flatMap Call.draws).Nodup

end Pentagon5.Broker
