import Pentagon5.Python.Float
import Pentagon5.Python.Text

/-!
# The Yahoo Finance provider

`YahooFinanceMarketDataProvider` reads a quote or the latest candle from a JSON document of any shape.
The HTTP client is a parameter.
-/

namespace Pentagon5.MarketData

open Python

/-- What `response.json()` returns. -/
inductive Payload
  | null
  | bool (value : Bool)
  | number (value : Number)
  | str (value : Str)
  | list (items : List Payload)
  | dict (entries : List (Str × Payload))

/-- The exceptions of the provider, of the client and of the operations on a payload. -/
inductive Raised
  | marketDataProviderError (message : Str)
  | httpError
  | invalidUrl
  | recursionError
  | valueError
  | unicodeEncodeError
  | indexError
  | keyError
  | typeError
  | overflowError
  | osError
deriving DecidableEq

namespace Raised

/-- `except (httpx.HTTPError, ValueError)`; a `UnicodeEncodeError` is a `ValueError`. -/
def isRequestError (e : Raised) : Bool := e ∈ [httpError, valueError, unicodeEncodeError]

/-- `except (IndexError, KeyError, TypeError, ValueError)`. -/
def isDataError (e : Raised) : Bool := e ∈ [indexError, keyError, typeError, valueError, unicodeEncodeError]

def ofTimestamp : TimestampError → Raised
  | .overflowError => overflowError
  | .osError => osError
  | .valueError => valueError

end Raised

namespace Payload

/-- `value[key]` for a text. -/
def getItem (value : Payload) (key : String) : Except Raised Payload :=
  match value with
  | dict entries =>
    match entries.lookup (Str.ofString key) with
    | some item => .ok item
    | none => .error .keyError
  | _ => .error .typeError

/-- `value[index]` for a natural number. -/
def getIndex (value : Payload) (index : ℕ) : Except Raised Payload :=
  match value with
  | list items =>
    match items[index]? with
    | some item => .ok item
    | none => .error .indexError
  | str text =>
    match text.codes[index]? with
    | some c => .ok (str ⟨[c]⟩)
    | none => .error .indexError
  | dict _ => .error .keyError
  | _ => .error .typeError

/-- A number that is no boolean, as `float`. -/
def toFloat (value : Payload) : Except Raised PyFloat :=
  match value with
  | number n =>
    match PyFloat.ofNumber n with
    | some x => .ok x
    | none => .error .overflowError
  | _ => .error .typeError

/-- `_timestamp`. -/
def timestamp (value : Payload) : Except Raised Instant :=
  match value with
  | number n => (Instant.fromtimestamp n).mapError .ofTimestamp
  | _ => .error .typeError

end Payload

structure Quote where
  symbol : Str
  bid : PyFloat
  ask : PyFloat
  lastPrice : PyFloat
  volume : PyFloat
  timestamp : Instant
deriving DecidableEq

structure OHLCV where
  symbol : Str
  openPrice : PyFloat
  high : PyFloat
  low : PyFloat
  close : PyFloat
  volume : PyFloat
  timestamp : Instant
  interval : Str
deriving DecidableEq

/-- A response: its status, and `response.json()`. -/
structure Response where
  status : ℕ
  json : Except Raised Payload

/-- `httpx.Client` and `str.upper`. -/
structure Platform where
  get : Str → List (String × Str) → Except Raised Response
  upper : Str → Str

/-- `response.raise_for_status()`. -/
def Response.raiseForStatus (response : Response) : Except Raised Unit :=
  if 200 ≤ response.status ∧ response.status ≤ 299 then .ok () else .error .httpError

/-- `urllib.parse.quote(text, safe="")` of one byte. -/
def quoteByte (b : UInt8) : List Char :=
  let c := Char.ofNat b.toNat
  if c.isAlphanum ∨ c ∈ ['_', '.', '-', '~'] then [c]
  else ['%', upperHexDigit (b.toNat / 16), upperHexDigit (b.toNat % 16)]

/-- `urllib.parse.quote(text, safe="")`. -/
def urlQuote (text : Str) : Except Raised Str :=
  match text.encode? with
  | some text => .ok (Str.ofString (ofChars ((encode text).flatMap quoteByte)))
  | none => .error .unicodeEncodeError

namespace YahooFinanceMarketDataProvider

variable (P : Platform)

/-- `_symbol`. -/
def symbol (symbol : Str) : Except Raised Str :=
  let normalized := P.upper symbol.strip
  if normalized = ⟨[]⟩ then .error .valueError else .ok normalized

/-- `client.get`, `raise_for_status` and `json` in sequence. -/
def exchange (path : Str) (params : List (String × Str)) : Except Raised Payload := do
  let response ← P.get path params
  response.raiseForStatus
  response.json

/-- `_get_json`. -/
def getJson (path : Str) (params : List (String × Str)) : Except Raised Payload :=
  match exchange P path params with
  | .ok (.dict entries) => .ok (.dict entries)
  | .ok _ => .error (.marketDataProviderError "Yahoo Finance returned a malformed response")
  | .error e =>
    if e.isRequestError then .error (.marketDataProviderError "Yahoo Finance request failed")
    else .error e

/-- `_number`. -/
def number (values : Payload) (key : String) : Except Raised PyFloat := do
  let value ← values.getItem key
  value.toFloat

/-- `_array_number`. -/
def arrayNumber (values : Payload) (key : String) (index : ℕ) : Except Raised PyFloat := do
  let items ← values.getItem key
  match items with
  | .list _ => do
    let value ← items.getIndex index
    value.toFloat
  | _ => .error .typeError

def seriesKeys : List String := ["open", "high", "low", "close", "volume"]

/-- Whether each series has an entry at the index that is not `None`. -/
def isComplete (entries : List (Str × Payload)) (index : ℕ) : Bool :=
  seriesKeys.all fun key =>
    match entries.lookup (Str.ofString key) with
    | some (.list items) =>
      match items[index]? with
      | some .null => false
      | some _ => true
      | none => false
    | _ => false

/-- The scan of `_latest_complete_index` below an index. -/
def latestBelow (entries : List (Str × Payload)) : ℕ → Except Raised ℕ
  | 0 => .error .valueError
  | index + 1 => if isComplete entries index then .ok index else latestBelow entries index

/-- `_latest_complete_index`. -/
def latestCompleteIndex (timestamps values : Payload) : Except Raised ℕ :=
  match timestamps, values with
  | .list items, .dict entries => latestBelow entries items.length
  | _, _ => .error .typeError

/-- The `except` clause around the reading of a payload. -/
def wrapDataError {α : Type} (message : Str) (result : Except Raised α) : Except Raised α :=
  match result with
  | .ok a => .ok a
  | .error e => if e.isDataError then .error (.marketDataProviderError message) else .error e

/-- The result of a quote response. -/
def quoteResult (payload : Payload) : Except Raised Payload := do
  let response ← payload.getItem "quoteResponse"
  let results ← response.getItem "result"
  results.getIndex 0

def readQuote (normalized : Str) (payload : Payload) : Except Raised Quote := do
  let result ← quoteResult payload
  let bid ← number result "bid"
  let ask ← number result "ask"
  let lastPrice ← number result "regularMarketPrice"
  let volume ← number result "regularMarketVolume"
  let time ← result.getItem "regularMarketTime"
  let timestamp ← time.timestamp
  return ⟨normalized, bid, ask, lastPrice, volume, timestamp⟩

def quoteParams (normalized : Str) : List (String × Str) := [("symbols", normalized)]

def getQuote (symbol : Str) : Except Raised Quote := do
  let normalized ← YahooFinanceMarketDataProvider.symbol P symbol
  let payload ← getJson P "/v7/finance/quote" (quoteParams normalized)
  wrapDataError (("Yahoo Finance returned invalid quote data for " : Str) ++ normalized)
    (readQuote normalized payload)

/-- The timestamps and the series of a chart response. -/
def chartSeries (payload : Payload) : Except Raised (Payload × Payload) := do
  let chart ← payload.getItem "chart"
  let results ← chart.getItem "result"
  let result ← results.getIndex 0
  let timestamps ← result.getItem "timestamp"
  let indicators ← result.getItem "indicators"
  let quotes ← indicators.getItem "quote"
  let values ← quotes.getIndex 0
  return (timestamps, values)

def readCandle (normalized : Str) (timestamps values : Payload) (index : ℕ) :
    Except Raised OHLCV := do
  let openPrice ← arrayNumber values "open" index
  let high ← arrayNumber values "high" index
  let low ← arrayNumber values "low" index
  let close ← arrayNumber values "close" index
  let volume ← arrayNumber values "volume" index
  let time ← timestamps.getIndex index
  let timestamp ← time.timestamp
  return ⟨normalized, openPrice, high, low, close, volume, timestamp, "1m"⟩

def readChart (normalized : Str) (payload : Payload) : Except Raised OHLCV := do
  let (timestamps, values) ← chartSeries payload
  let index ← latestCompleteIndex timestamps values
  readCandle normalized timestamps values index

def chartParams : List (String × Str) := [("range", "1d"), ("interval", "1m")]

def getOhlcv (symbol : Str) : Except Raised OHLCV := do
  let normalized ← YahooFinanceMarketDataProvider.symbol P symbol
  let quoted ← urlQuote normalized
  let payload ← getJson P (("/v8/finance/chart/" : Str) ++ quoted) chartParams
  wrapDataError (("Yahoo Finance returned invalid OHLCV data for " : Str) ++ normalized)
    (readChart normalized payload)

end YahooFinanceMarketDataProvider

end Pentagon5.MarketData
