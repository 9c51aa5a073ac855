import Pentagon5.MarketData.Provider
import Pentagon5.Python.Raising

/-!
# The errors of the market data provider

The two requests either return or raise `MarketDataProviderError`, except for the exceptions that no
`except` clause lists: those of converting numbers, and those of the client that are no `HTTPError`.
-/

namespace Pentagon5.MarketData

open Python YahooFinanceMarketDataProvider

variable {α β : Type}

/-- The result is a value or a `MarketDataProviderError`. -/
def Contained (result : Except Raised α) : Prop :=
  ∀ e, result = .error e → ∃ message, e = .marketDataProviderError message

/-- What is raised is listed in the `except` clause around the reading of a payload. -/
def Caught (result : Except Raised α) : Prop :=
  ∀ e, result = .error e → e.isDataError = true ∨ ∃ message, e = .marketDataProviderError message

/-- An integer that no float can hold. -/
def Oversized : Payload → Prop
  | .number (.int n) => PyFloat.limit ≤ |n|
  | _ => False

/-- A float, or an integer that a float can hold. -/
def Convertible : Payload → Prop
  | .number (.int n) => |n| < PyFloat.limit
  | .number (.float _) => True
  | _ => False

/-- A timestamp for which the platform has no date at all. -/
def OutOfRange : Payload → Prop
  | .number (.int n) => Instant.fitsTime n = false ∨ Instant.fitsYear n = false
  | .number (.float (.finite x)) => Instant.fitsTime (Instant.truncate x) = false ∨
      Instant.fitsYear (Instant.floatMicros x / 1000000) = false
  | .number (.float (.infinite _)) => True
  | _ => False

/-- The member of a dictionary. -/
def field (value : Payload) (key : String) : Option Payload :=
  match value with
  | .dict entries => entries.lookup (Str.ofString key)
  | _ => none

/-- An entry of a series. -/
def entryAt (values : Payload) (key : String) (index : ℕ) : Option Payload :=
  match field values key with
  | some (.list items) => items[index]?
  | _ => none

/-- No value is too large, up to the first that is missing or no number; `last` if there is none. -/
def ConvertsInOrder : List (Option Payload) → Prop → Prop
  | [], last => last
  | value :: rest, last =>
    ∀ p, value = some p → ¬Oversized p ∧ (Convertible p → ConvertsInOrder rest last)

/-- A quote of the payload can be converted up to what is missing or no number. -/
def QuoteConverts (payload : Payload) : Prop :=
  ∀ result, quoteResult payload = .ok result →
    ConvertsInOrder [field result "bid", field result "ask", field result "regularMarketPrice",
        field result "regularMarketVolume"]
      (∀ p, field result "regularMarketTime" = some p → ¬OutOfRange p)

/-- So can the latest complete candle. -/
def CandleConverts (payload : Payload) : Prop :=
  ∀ timestamps values index, chartSeries payload = .ok (timestamps, values) →
    latestCompleteIndex timestamps values = .ok index →
    ConvertsInOrder (seriesKeys.map fun key => entryAt values key index)
      (∀ p, timestamps.getIndex index = .ok p → ¬OutOfRange p)

/-- A request fails with an `httpx.HTTPError` or a `ValueError`, or its payload converts. -/
def Meets (exchanged : Except Raised Payload) (converts : Payload → Prop) : Prop :=
  match exchanged with
  | .error e => e.isRequestError = true ∨ ∃ message, e = .marketDataProviderError message
  | .ok (.dict entries) => converts (.dict entries)
  | .ok _ => True

lemma caught_ok (a : α) : Caught (.ok a) := nofun

lemma caught_error {e : Raised} (h : e.isDataError = true) : Caught (.error e : Except Raised α) := by
  rintro _ ⟨⟩
  exact Or.inl h

lemma caught_bind_iff {x : Except Raised α} {f : α → Except Raised β} :
    Caught (x >>= f) ↔ Caught x ∧ ∀ a, x = .ok a → Caught (f a) := by
  cases x with
  | error e =>
    constructor
    · intro h
      exact ⟨fun e' he => h e' (by cases he; rfl), nofun⟩
    · intro h e' he
      cases he
      exact h.1 e rfl
  | ok a =>
    constructor
    · intro h
      exact ⟨nofun, fun b hb => by cases hb; exact h⟩
    · intro h
      exact h.2 a rfl

lemma caught_getItem (value : Payload) (key : String) : Caught (value.getItem key) := by
  unfold Payload.getItem
  split
  · split
    · exact caught_ok _
    · exact caught_error rfl
  · exact caught_error rfl

lemma caught_getIndex (value : Payload) (index : ℕ) : Caught (value.getIndex index) := by
  unfold Payload.getIndex
  split
  · split
    · exact caught_ok _
    · exact caught_error rfl
  · split
    · exact caught_ok _
    · exact caught_error rfl
  · exact caught_error rfl
  · exact caught_error rfl

/-- `float` fails on an integer that is too large, and on what is no number. -/
lemma toFloat_cases (value : Payload) :
    (Oversized value ∧ value.toFloat = .error .overflowError) ∨
      (¬Oversized value ∧ Convertible value ∧ ∃ x, value.toFloat = .ok x) ∨
      (¬Oversized value ∧ ¬Convertible value ∧ value.toFloat = .error .typeError) := by
  cases value with
  | number n =>
    cases n with
    | int n =>
      by_cases h : PyFloat.limit ≤ |n|
      · refine Or.inl ⟨h, ?_⟩
        simp only [Payload.toFloat, PyFloat.ofNumber, PyFloat.ofInt, if_pos h]
      · refine Or.inr (Or.inl ⟨h, not_le.mp h, .finite (nearestDouble n), ?_⟩)
        simp only [Payload.toFloat, PyFloat.ofNumber, PyFloat.ofInt, if_neg h]
    | float x => exact Or.inr (Or.inl ⟨id, trivial, x, rfl⟩)
  | null => exact Or.inr (Or.inr ⟨id, id, rfl⟩)
  | bool value => exact Or.inr (Or.inr ⟨id, id, rfl⟩)
  | str value => exact Or.inr (Or.inr ⟨id, id, rfl⟩)
  | list items => exact Or.inr (Or.inr ⟨id, id, rfl⟩)
  | dict entries => exact Or.inr (Or.inr ⟨id, id, rfl⟩)

lemma not_caught_overflowError : ¬Caught (.error .overflowError : Except Raised α) := by
  intro h
  rcases h _ rfl with h | ⟨message, h⟩
  · cases h
  · cases h

lemma not_caught_osError : ¬Caught (.error .osError : Except Raised α) := by
  intro h
  rcases h _ rfl with h | ⟨message, h⟩
  · cases h
  · cases h

/-- A conversion followed by statements that do not depend on its result. -/
lemma caught_toFloat_bind_iff {value : Payload} {f : PyFloat → Except Raised β} {C : Prop}
    (hf : ∀ x, Caught (f x) ↔ C) :
    Caught (value.toFloat >>= f) ↔ ¬Oversized value ∧ (Convertible value → C) := by
  rcases toFloat_cases value with ⟨hover, h⟩ | ⟨hover, hconv, x, h⟩ | ⟨hover, hconv, h⟩
  · rw [h]
    constructor
    · intro hc
      exact absurd hc not_caught_overflowError
    · intro hc
      exact absurd hover hc.1
  · rw [h]
    refine (hf x).trans ⟨fun hc => ⟨hover, fun _ => hc⟩, fun hc => hc.2 hconv⟩
  · rw [h]
    refine ⟨fun _ => ⟨hover, fun hc => absurd hc hconv⟩, fun _ => caught_error rfl⟩

lemma getItem_eq (value : Payload) (key : String) :
    (∃ p, field value key = some p ∧ value.getItem key = .ok p) ∨
      (field value key = none ∧ ∃ e, value.getItem key = .error e) := by
  cases value with
  | dict entries =>
    rcases h : entries.lookup (Str.ofString key) with _ | p
    · exact Or.inr ⟨h, .keyError, by simp only [Payload.getItem, h]⟩
    · exact Or.inl ⟨p, h, by simp only [Payload.getItem, h]⟩
  | null => exact Or.inr ⟨rfl, _, rfl⟩
  | bool value => exact Or.inr ⟨rfl, _, rfl⟩
  | number value => exact Or.inr ⟨rfl, _, rfl⟩
  | str value => exact Or.inr ⟨rfl, _, rfl⟩
  | list items => exact Or.inr ⟨rfl, _, rfl⟩

lemma caught_error_bind {e : Raised} (h : Caught (.error e : Except Raised α)) (f : α → Except Raised β) :
    Caught (.error e >>= f) := caught_bind_iff.mpr ⟨h, nofun⟩

/-- One read of a quote. -/
lemma caught_number_bind_iff {values : Payload} {key : String} {f : PyFloat → Except Raised β}
    {C : Prop} (hf : ∀ x, Caught (f x) ↔ C) :
    Caught (number values key >>= f) ↔
      ∀ p, field values key = some p → ¬Oversized p ∧ (Convertible p → C) := by
  have hcaught := caught_getItem values key
  rw [number, bind_assoc]
  rcases getItem_eq values key with ⟨p, hfield, hget⟩ | ⟨hfield, e, hget⟩
  · rw [hget, except_ok_bind, caught_toFloat_bind_iff hf, hfield]
    simp
  · rw [hget] at hcaught ⊢
    rw [hfield]
    exact iff_of_true (caught_error_bind hcaught _) nofun

/-- One read of a candle. -/
lemma caught_arrayNumber_bind_iff {values : Payload} {key : String} {index : ℕ}
    {f : PyFloat → Except Raised β} {C : Prop} (hf : ∀ x, Caught (f x) ↔ C) :
    Caught (arrayNumber values key index >>= f) ↔
      ∀ p, entryAt values key index = some p → ¬Oversized p ∧ (Convertible p → C) := by
  have hcaught := caught_getItem values key
  rw [arrayNumber, bind_assoc]
  rcases getItem_eq values key with ⟨items, hfield, hget⟩ | ⟨hfield, e, hget⟩
  · rw [hget, except_ok_bind, entryAt, hfield]
    cases items with
    | list items =>
      rcases hentry : items[index]? with _ | p
      · simp only [Payload.getIndex, hentry]
        exact iff_of_true (caught_error rfl) nofun
      · simp only [Payload.getIndex, hentry, except_ok_bind]
        rw [caught_toFloat_bind_iff hf]
        simp
    | null => exact iff_of_true (caught_error rfl) nofun
    | bool value => exact iff_of_true (caught_error rfl) nofun
    | number value => exact iff_of_true (caught_error rfl) nofun
    | str value => exact iff_of_true (caught_error rfl) nofun
    | dict entries => exact iff_of_true (caught_error rfl) nofun
  · rw [hget] at hcaught ⊢
    rw [entryAt, hfield]
    exact iff_of_true (caught_error_bind hcaught _) nofun

lemma caught_ofMicros_iff (micros : ℤ) :
    Caught ((Instant.ofMicros micros).mapError Raised.ofTimestamp) ↔
      Instant.fitsYear (micros / 1000000) = true := by
  by_cases hyear : Instant.fitsYear (micros / 1000000) = true
  · refine iff_of_true ?_ hyear
    rw [Instant.ofMicros, if_neg (not_not.mpr hyear)]
    split
    · exact caught_ok _
    · exact caught_error rfl
  · refine iff_of_false ?_ hyear
    rw [Instant.ofMicros, if_pos hyear]
    intro h
    rcases h _ rfl with h | ⟨message, h⟩
    · cases h
    · cases h

lemma caught_fromtimestamp_iff (fits : Bool) (micros : ℤ) :
    Caught ((if fits then Instant.ofMicros micros else .error .overflowError).mapError
      Raised.ofTimestamp) ↔ ¬(fits = false ∨ Instant.fitsYear (micros / 1000000) = false) := by
  cases fits with
  | false => exact iff_of_false not_caught_overflowError (by simp)
  | true =>
    rw [if_pos rfl, caught_ofMicros_iff]
    simp

lemma caught_timestamp_iff (value : Payload) : Caught value.timestamp ↔ ¬OutOfRange value := by
  cases value with
  | number n =>
    cases n with
    | int n =>
      have h := caught_fromtimestamp_iff (Instant.fitsTime n) (n * 1000000)
      rwa [Int.mul_ediv_cancel _ (by norm_num)] at h
    | float x =>
      cases x with
      | finite x =>
        by_cases hlimit : Instant.truncate x = 2 ^ 63
        · have hfits : Instant.fitsTime (Instant.truncate x) = false := by
            rw [hlimit]
            decide
          rw [Payload.timestamp, Instant.fromtimestamp, if_pos hlimit]
          exact iff_of_false not_caught_osError (not_not.mpr (.inl hfits))
        · rw [Payload.timestamp, Instant.fromtimestamp, if_neg hlimit]
          exact caught_fromtimestamp_iff _ _
      | infinite negative => exact iff_of_false not_caught_overflowError (not_not.mpr trivial)
      | nan => exact iff_of_true (caught_error rfl) id
  | null => exact iff_of_true (caught_error rfl) id
  | bool value => exact iff_of_true (caught_error rfl) id
  | str value => exact iff_of_true (caught_error rfl) id
  | list items => exact iff_of_true (caught_error rfl) id
  | dict entries => exact iff_of_true (caught_error rfl) id

/-- The last read is followed by nothing that fails. -/
lemma caught_timestamp_bind_iff {value : Payload} {f : Instant → α} :
    Caught (value.timestamp >>= fun timestamp => pure (f timestamp)) ↔ ¬OutOfRange value := by
  rw [← caught_timestamp_iff, caught_bind_iff]
  exact and_iff_left fun _ _ => caught_ok _

lemma caught_getItem_bind_iff {value : Payload} {key : String} {f : Payload → Except Raised α}
    {D : Payload → Prop} (hf : ∀ p, Caught (f p) ↔ D p) :
    Caught (value.getItem key >>= f) ↔ ∀ p, field value key = some p → D p := by
  have hcaught := caught_getItem value key
  rcases getItem_eq value key with ⟨p, hfield, hget⟩ | ⟨hfield, e, hget⟩
  · rw [hget, except_ok_bind, hf, hfield]
    simp
  · rw [hget] at hcaught ⊢
    rw [hfield]
    exact iff_of_true (caught_error_bind hcaught _) nofun

lemma caught_quoteResult (payload : Payload) : Caught (quoteResult payload) := by
  refine caught_bind_iff.mpr ⟨caught_getItem _ _, fun response _ => ?_⟩
  exact caught_bind_iff.mpr ⟨caught_getItem _ _, fun results _ => caught_getIndex _ _⟩

lemma caught_readQuote_iff (normalized : Str) (payload : Payload) :
    Caught (readQuote normalized payload) ↔ QuoteConverts payload := by
  rw [readQuote, caught_bind_iff]
  refine (and_iff_right (caught_quoteResult payload)).trans (forall₂_congr fun result _ => ?_)
  refine caught_number_bind_iff fun bid => ?_
  refine caught_number_bind_iff fun ask => ?_
  refine caught_number_bind_iff fun lastPrice => ?_
  refine caught_number_bind_iff fun volume => ?_
  exact caught_getItem_bind_iff fun time => caught_timestamp_bind_iff

lemma caught_chartSeries (payload : Payload) : Caught (chartSeries payload) := by
  refine caught_bind_iff.mpr ⟨caught_getItem _ _, fun chart _ => ?_⟩
  refine caught_bind_iff.mpr ⟨caught_getItem _ _, fun results _ => ?_⟩
  refine caught_bind_iff.mpr ⟨caught_getIndex _ _, fun result _ => ?_⟩
  refine caught_bind_iff.mpr ⟨caught_getItem _ _, fun timestamps _ => ?_⟩
  refine caught_bind_iff.mpr ⟨caught_getItem _ _, fun indicators _ => ?_⟩
  refine caught_bind_iff.mpr ⟨caught_getItem _ _, fun quotes _ => ?_⟩
  exact caught_bind_iff.mpr ⟨caught_getIndex _ _, fun values _ => caught_ok _⟩

lemma caught_latestBelow (entries : List (Str × Payload)) (bound : ℕ) :
    Caught (latestBelow entries bound) := by
  induction bound with
  | zero => exact caught_error rfl
  | succ index ih =>
    rw [latestBelow]
    split
    · exact caught_ok _
    · exact ih

lemma caught_latestCompleteIndex (timestamps values : Payload) :
    Caught (latestCompleteIndex timestamps values) := by
  unfold latestCompleteIndex
  split
  · exact caught_latestBelow _ _
  · exact caught_error rfl

lemma caught_readCandle_iff (normalized : Str) (timestamps values : Payload) (index : ℕ) :
    Caught (readCandle normalized timestamps values index) ↔
      ConvertsInOrder (seriesKeys.map fun key => entryAt values key index)
        (∀ p, timestamps.getIndex index = .ok p → ¬OutOfRange p) := by
  refine caught_arrayNumber_bind_iff fun openPrice => ?_
  refine caught_arrayNumber_bind_iff fun high => ?_
  refine caught_arrayNumber_bind_iff fun low => ?_
  refine caught_arrayNumber_bind_iff fun close => ?_
  refine caught_arrayNumber_bind_iff fun volume => ?_
  refine caught_bind_iff.trans ?_
  refine (and_iff_right (caught_getIndex _ _)).trans (forall₂_congr fun time _ => ?_)
  exact caught_timestamp_bind_iff

lemma caught_readChart_iff (normalized : Str) (payload : Payload) :
    Caught (readChart normalized payload) ↔ CandleConverts payload := by
  rw [readChart, caught_bind_iff]
  refine (and_iff_right (caught_chartSeries payload)).trans ?_
  constructor
  · intro h timestamps values index hseries hindex
    have hread := (caught_bind_iff.mp (h _ hseries)).2 index hindex
    exact (caught_readCandle_iff _ _ _ _).mp hread
  · rintro h ⟨timestamps, values⟩ hseries
    refine caught_bind_iff.mpr ⟨caught_latestCompleteIndex _ _, fun index hindex => ?_⟩
    exact (caught_readCandle_iff _ _ _ _).mpr (h _ _ _ hseries hindex)

lemma contained_wrapDataError_iff (message : Str) (result : Except Raised α) :
    Contained (wrapDataError message result) ↔ Caught result := by
  cases result with
  | ok a => exact iff_of_true nofun (caught_ok a)
  | error e =>
    by_cases h : e.isDataError = true
    · refine iff_of_true ?_ (caught_error h)
      rw [wrapDataError, if_pos h]
      rintro _ ⟨⟩
      exact ⟨message, rfl⟩
    · rw [wrapDataError, if_neg h]
      constructor
      · intro hc e' he
        exact Or.inr (hc e' he)
      · intro hc e' he
        cases he
        exact (hc e rfl).resolve_left h

lemma getJson_of_error {P : Platform} {path : Str} {params : List (String × Str)} {e : Raised}
    (h : exchange P path params = .error e) :
    getJson P path params = if e.isRequestError then
      .error (.marketDataProviderError "Yahoo Finance request failed") else .error e := by
  rw [getJson, h]

/-- A request and the reading of its payload. -/
lemma contained_request_iff {P : Platform} {path : Str} {params : List (String × Str)} {message : Str}
    {read : Payload → Except Raised α} {converts : Payload → Prop}
    (hread : ∀ payload, Caught (read payload) ↔ converts payload) :
    Contained (getJson P path params >>= fun payload => wrapDataError message (read payload)) ↔
      Meets (exchange P path params) converts := by
  rcases hex : exchange P path params with e | payload
  · rw [getJson_of_error hex]
    by_cases h : e.isRequestError = true
    · rw [if_pos h]
      refine iff_of_true ?_ (Or.inl h)
      rintro _ ⟨⟩
      exact ⟨_, rfl⟩
    · rw [if_neg h]
      constructor
      · intro hc
        exact Or.inr (hc e rfl)
      · rintro hm _ ⟨⟩
        exact hm.resolve_left h
  · have hmalformed : Contained (.error
        (.marketDataProviderError "Yahoo Finance returned a malformed response") >>= fun payload =>
          wrapDataError message (read payload)) := by
      rintro _ ⟨⟩
      exact ⟨_, rfl⟩
    rw [getJson, hex]
    cases payload with
    | dict entries => exact (contained_wrapDataError_iff _ _).trans (hread _)
    | null => exact iff_of_true hmalformed trivial
    | bool value => exact iff_of_true hmalformed trivial
    | number value => exact iff_of_true hmalformed trivial
    | str value => exact iff_of_true hmalformed trivial
    | list items => exact iff_of_true hmalformed trivial

variable (P : Platform)

/-- `get_quote` raises nothing but `MarketDataProviderError` exactly when its request and its quote
allow it. -/
def QuoteMeets (normalized : Str) : Prop :=
  Meets (exchange P "/v7/finance/quote" (quoteParams normalized)) QuoteConverts

/-- `get_ohlcv`: the symbol can be encoded, too. -/
def CandleMeets (normalized : Str) : Prop :=
  ∃ quoted, urlQuote normalized = .ok quoted ∧
    Meets (exchange P (("/v8/finance/chart/" : Str) ++ quoted) chartParams) CandleConverts

lemma symbol_of_ne {s : Str} (h : P.upper s.strip ≠ ⟨[]⟩) :
    YahooFinanceMarketDataProvider.symbol P s = .ok (P.upper s.strip) := if_neg h

lemma urlQuote_cases (s : Str) :
    (∃ quoted, urlQuote s = .ok quoted) ∨ urlQuote s = .error .unicodeEncodeError := by
  unfold urlQuote
  split
  · exact Or.inl ⟨_, rfl⟩
  · exact Or.inr rfl

/-- For every symbol that is not blank and every answer to the request. -/
theorem contained_iff_meets (symbol : Str) (h : P.upper symbol.strip ≠ ⟨[]⟩) :
    (Contained (getQuote P symbol) ↔ QuoteMeets P (P.upper symbol.strip)) ∧
      (Contained (getOhlcv P symbol) ↔ CandleMeets P (P.upper symbol.strip)) := by
  constructor
  · rw [getQuote, symbol_of_ne P h, except_ok_bind]
    exact contained_request_iff (caught_readQuote_iff _)
  · rw [getOhlcv, symbol_of_ne P h, except_ok_bind, CandleMeets]
    rcases urlQuote_cases (P.upper symbol.strip) with ⟨quoted, hquoted⟩ | hquoted
    · rw [hquoted, except_ok_bind, contained_request_iff (caught_readChart_iff _)]
      simp
    · rw [hquoted]
      refine iff_of_false ?_ (by simp)
      intro hc
      obtain ⟨message, he⟩ := hc _ rfl
      cases he

namespace Sample

/-- A client that answers every request with this document, and symbols in upper case. -/
def answering (payload : Payload) : Platform := ⟨fun _ _ => .ok ⟨200, .ok payload⟩, id⟩

def document (members : List (String × Payload)) : Payload :=
  .dict (members.map fun member => (Str.ofString member.1, member.2))

/-- A quote with this bid. -/
def quote (bid : ℤ) : Payload :=
  document [("quoteResponse", document [("result", .list [document
    [("bid", .number (.int bid)), ("ask", .number (.int 101)),
      ("regularMarketPrice", .number (.int 100)), ("regularMarketVolume", .number (.int 5000)),
      ("regularMarketTime", .number (.int 1735732800))]])])]

lemma contained_of_isOk {result : Except Raised α} (h : result.isOk = true) : Contained result := by
  rintro e rfl
  cases h

lemma contained_quote : Contained (getQuote (answering (quote 99)) (Str.ofString "AAPL")) :=
  contained_of_isOk (by decide +kernel)

theorem contained_iff_meets_quote :
    QuoteMeets (answering (quote 99)) (Str.ofString "AAPL").strip :=
  (contained_iff_meets (answering (quote 99)) (Str.ofString "AAPL") (by decide)).1.mp contained_quote

/-- A bid of 400 digits: `float` raises `OverflowError`, and no clause lists it. -/
theorem not_contained_huge :
    ¬Contained (getQuote (answering (quote (10 ^ 400))) (Str.ofString "AAPL")) := by
  have herror : getQuote (answering (quote (10 ^ 400))) (Str.ofString "AAPL") =
      .error .overflowError := by decide +kernel
  intro h
  obtain ⟨message, he⟩ := h _ herror
  cases he

end Sample

end Pentagon5.MarketData
