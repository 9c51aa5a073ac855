import Mathlib.Order.Bounds.Basic
import Pentagon5.Proofs.MarketDataErrors
import Pentagon5.Python.Interpreter

/-!
# The candle that is returned

For series of any lengths and entries, `get_ohlcv` returns the candle of the greatest index at which
every series has an entry, if these and the timestamp are numbers, and raises
`MarketDataProviderError` otherwise.
-/

namespace Pentagon5.MarketData

open Python YahooFinanceMarketDataProvider

/-- A chart with these timestamps and, by name, these series. -/
def Chart (payload : Payload) (timestamps : List Payload) (series : String → List Payload) : Prop :=
  ∃ entries, chartSeries payload = .ok (.list timestamps, .dict entries) ∧
    ∀ key ∈ seriesKeys, entries.lookup (Str.ofString key) = some (.list (series key))

/-- Every series has an entry at the index that is not null. -/
def CompleteAt (timestamps : List Payload) (series : String → List Payload) (index : ℕ) : Prop :=
  index < timestamps.length ∧ ∀ key ∈ seriesKeys, ∃ v, (series key)[index]? = some v ∧ v ≠ .null

/-- The entries at an index are these numbers, and so is the timestamp. -/
structure NumbersAt (timestamps : List Payload) (series : String → List Payload) (index : ℕ)
    (numbers : List Number) (time : Number) : Prop where
  entries : (seriesKeys.map fun key => (series key)[index]?) = numbers.map fun n => some (.number n)
  time : timestamps[index]? = some (.number time)

/-- The integers of the series fit a float, and the timestamps are dates. -/
structure InRange (timestamps : List Payload) (series : String → List Payload) : Prop where
  floats : ∀ key ∈ seriesKeys, ∀ v ∈ series key, ¬Oversized v
  dates : ∀ n, .number n ∈ timestamps → ∃ date, Instant.fromtimestamp n = .ok date

/-- The five values of a candle. -/
def OHLCV.values (candle : OHLCV) : List PyFloat :=
  [candle.openPrice, candle.high, candle.low, candle.close, candle.volume]

/-- The value of a candle is the entry, unless this is an integer of more than 53 bits. -/
def Exactly : Number → PyFloat → Prop
  | .int n, x => |n| < 2 ^ 53 → x = .finite n
  | .float y, x => x = y

section Scan

variable {entries : List (Str × Payload)} {series : String → List Payload}

lemma isComplete_iff (h : ∀ key ∈ seriesKeys, entries.lookup (Str.ofString key) = some (.list (series key)))
    (index : ℕ) : isComplete entries index = true ↔
      ∀ key ∈ seriesKeys, ∃ v, (series key)[index]? = some v ∧ v ≠ .null := by
  rw [isComplete, List.all_eq_true]
  refine forall₂_congr fun key hkey => ?_
  rw [h key hkey]
  rcases hentry : (series key)[index]? with _ | v
  · simp [hentry]
  · cases v <;> simp [hentry]

/-- The scan from the end finds the greatest complete index. -/
lemma latestBelow_eq_ok {bound index : ℕ} : latestBelow entries bound = .ok index ↔
    IsGreatest {i | i < bound ∧ isComplete entries i = true} index := by
  induction bound with
  | zero => exact iff_of_false nofun fun h => absurd h.1.1 (Nat.not_lt_zero _)
  | succ bound ih =>
    rw [latestBelow]
    by_cases hc : isComplete entries bound = true
    · rw [if_pos hc]
      constructor
      · rintro ⟨⟩
        exact ⟨⟨Nat.lt_succ_self _, hc⟩, fun i hi => Nat.lt_succ_iff.mp hi.1⟩
      · intro h
        have hle : bound ≤ index := h.2 ⟨Nat.lt_succ_self _, hc⟩
        have hlt := h.1.1
        rw [show index = bound by omega]
    · rw [if_neg hc, ih]
      have hset : {i | i < bound ∧ isComplete entries i = true} =
          {i | i < bound + 1 ∧ isComplete entries i = true} := by
        ext i
        simp only [Set.mem_ofPred_eq]
        refine ⟨fun hi => ⟨by omega, hi.2⟩, fun hi => ⟨?_, hi.2⟩⟩
        have hne : i ≠ bound := fun he => hc (he ▸ hi.2)
        omega
      rw [hset]

end Scan

lemma toFloat_number (n : Number) : (Payload.number n).toFloat =
    match PyFloat.ofNumber n with
    | some x => .ok x
    | none => .error .overflowError := rfl

lemma toFloat_eq_ok {value : Payload} {x : PyFloat} (h : value.toFloat = .ok x) :
    ∃ n, value = .number n ∧ PyFloat.ofNumber n = some x := by
  cases value with
  | number n =>
    rw [toFloat_number] at h
    rcases hx : PyFloat.ofNumber n with _ | y
    · rw [hx] at h
      cases h
    · rw [hx] at h
      cases h
      exact ⟨n, rfl, hx⟩
  | null => cases h
  | bool value => cases h
  | str value => cases h
  | list items => cases h
  | dict entries => cases h

lemma timestamp_eq_ok {value : Payload} {date : Instant} (h : value.timestamp = .ok date) :
    ∃ n, value = .number n ∧ Instant.fromtimestamp n = .ok date := by
  cases value with
  | number n =>
    rw [Payload.timestamp] at h
    rcases hd : Instant.fromtimestamp n with e | d
    · rw [hd] at h
      cases h
    · rw [hd] at h
      cases h
      exact ⟨n, rfl, hd⟩
  | null => cases h
  | bool value => cases h
  | str value => cases h
  | list items => cases h
  | dict entries => cases h

section Read

variable {timestamps : List Payload} {entries : List (Str × Payload)} {series : String → List Payload}
  {index : ℕ} {normalized : Str}
  (hseries : ∀ key ∈ seriesKeys, entries.lookup (Str.ofString key) = some (.list (series key)))

include hseries

lemma arrayNumber_eq {key : String} (hkey : key ∈ seriesKeys) :
    arrayNumber (.dict entries) key index =
      match (series key)[index]? with
      | some v => v.toFloat
      | none => .error .indexError := by
  simp only [arrayNumber, Payload.getItem, hseries key hkey, except_ok_bind, Payload.getIndex]
  rcases (series key)[index]? with _ | v
  · rfl
  · rfl

lemma arrayNumber_eq_ok {key : String} (hkey : key ∈ seriesKeys) {x : PyFloat} :
    arrayNumber (.dict entries) key index = .ok x ↔
      ∃ n, (series key)[index]? = some (.number n) ∧ PyFloat.ofNumber n = some x := by
  rw [arrayNumber_eq hseries hkey]
  constructor
  · intro h
    rcases hentry : (series key)[index]? with _ | v
    · rw [hentry] at h
      cases h
    · rw [hentry] at h
      obtain ⟨n, rfl, hx⟩ := toFloat_eq_ok h
      exact ⟨n, rfl, hx⟩
  · rintro ⟨n, hentry, hx⟩
    simp only [hentry, toFloat_number, hx]

omit hseries in
lemma exists_of_length_five {α : Type} {xs : List α} (h : xs.length = 5) :
    ∃ a b c d e, xs = [a, b, c, d, e] := by
  obtain ⟨a, ys, rfl⟩ := List.exists_cons_of_length_eq_add_one h
  obtain ⟨b, c, d, e, rfl⟩ := List.length_eq_four.mp (Nat.succ.inj h)
  exact ⟨a, b, c, d, e, rfl⟩

omit hseries in
lemma getIndex_eq_ok {items : List Payload} {value : Payload} :
    (Payload.list items).getIndex index = .ok value ↔ items[index]? = some value := by
  rw [Payload.getIndex]
  rcases items[index]? with _ | v
  · simp
  · simp

/-- What it takes to read a candle. -/
lemma readCandle_eq_ok {candle : OHLCV} :
    readCandle normalized (.list timestamps) (.dict entries) index = .ok candle ↔
      candle.symbol = normalized ∧ candle.interval = Str.ofString "1m" ∧
        ∃ numbers time, NumbersAt timestamps series index numbers time ∧
          numbers.map PyFloat.ofNumber = candle.values.map some ∧
          Instant.fromtimestamp time = .ok candle.timestamp := by
  have hread : ∀ key ∈ seriesKeys, ∀ x, arrayNumber (.dict entries) key index = .ok x ↔ _ :=
    fun key hkey x => arrayNumber_eq_ok hseries hkey
  simp only [seriesKeys, List.forall_mem_cons, List.not_mem_nil, false_implies, implies_true,
    and_true] at hread
  obtain ⟨hopen, hhigh, hlow, hclose, hvolume⟩ := hread
  simp only [readCandle, bind_eq_ok, hopen, hhigh, hlow, hclose, hvolume, getIndex_eq_ok]
  constructor
  · rintro ⟨openPrice, ⟨a, ha, ha'⟩, high, ⟨b, hb, hb'⟩, low, ⟨c, hc, hc'⟩, close, ⟨d, hd, hd'⟩,
      volume, ⟨e, he, he'⟩, value, hvalue, date, hdate, hcandle⟩
    cases hcandle
    obtain ⟨time, rfl, htime⟩ := timestamp_eq_ok hdate
    refine ⟨rfl, rfl, [a, b, c, d, e], time, ⟨?_, hvalue⟩, ?_, htime⟩
    · simp only [seriesKeys, List.map_cons, List.map_nil, ha, hb, hc, hd, he]
    · simp only [OHLCV.values, List.map_cons, List.map_nil, ha', hb', hc', hd', he']
  · rintro ⟨hsymbol, hinterval, numbers, time, hat, hvalues, htime⟩
    obtain ⟨a, b, c, d, e, rfl⟩ : ∃ a b c d e, numbers = [a, b, c, d, e] := by
      have hlen := congrArg List.length hat.entries
      simp only [seriesKeys, List.length_map, List.length_cons, List.length_nil] at hlen
      exact exists_of_length_five hlen.symm
    have hentries := hat.entries
    simp only [seriesKeys, List.map_cons, List.map_nil, List.cons.injEq, and_true] at hentries
    simp only [OHLCV.values, List.map_cons, List.map_nil, List.cons.injEq, and_true] at hvalues
    obtain ⟨ha, hb, hc, hd, he⟩ := hentries
    obtain ⟨ha', hb', hc', hd', he'⟩ := hvalues
    refine ⟨_, ⟨a, ha, ha'⟩, _, ⟨b, hb, hb'⟩, _, ⟨c, hc, hc'⟩, _, ⟨d, hd, hd'⟩, _, ⟨e, he, he'⟩,
      _, hat.time, candle.timestamp, ?_, ?_⟩
    · rw [Payload.timestamp, htime]
      rfl
    · rw [← hsymbol, ← hinterval]
      rfl

end Read

lemma wrapDataError_eq_ok {α : Type} {message : Str} {result : Except Raised α} {a : α} :
    wrapDataError message result = .ok a ↔ result = .ok a := by
  cases result with
  | ok b => rfl
  | error e =>
    rw [wrapDataError]
    split
    · simp
    · simp

/-- Values that fit are read up to the last. -/
lemma convertsInOrder_of {last : Prop} (hlast : last) {values : List (Option Payload)}
    (h : ∀ p, some p ∈ values → ¬Oversized p) : ConvertsInOrder values last := by
  induction values with
  | nil => exact hlast
  | cons value values ih =>
    intro p hp
    exact ⟨h p (hp ▸ List.mem_cons_self), fun _ => ih fun q hq => h q (List.mem_cons_of_mem _ hq)⟩

lemma chart_dict {payload : Payload} {timestamps : List Payload} {series : String → List Payload}
    (h : Chart payload timestamps series) : ∃ entries, payload = .dict entries := by
  obtain ⟨_, hseries, -⟩ := h
  cases payload with
  | dict entries => exact ⟨entries, rfl⟩
  | null => cases hseries
  | bool value => cases hseries
  | number value => cases hseries
  | str value => cases hseries
  | list items => cases hseries

section Request

variable {P : Platform} {symbol quoted normalized : Str} {payload : Payload}
  {timestamps : List Payload} {series : String → List Payload}

lemma readChart_eq_ok (hchart : Chart payload timestamps series) {candle : OHLCV} :
    readChart normalized payload = .ok candle ↔
      ∃ index, IsGreatest {i | CompleteAt timestamps series i} index ∧
        candle.symbol = normalized ∧ candle.interval = Str.ofString "1m" ∧
          ∃ numbers time, NumbersAt timestamps series index numbers time ∧
            numbers.map PyFloat.ofNumber = candle.values.map some ∧
            Instant.fromtimestamp time = .ok candle.timestamp := by
  obtain ⟨entries, hpayload, hseries⟩ := hchart
  rw [readChart, hpayload, except_ok_bind, bind_eq_ok]
  refine exists_congr fun index => and_congr ?_ (readCandle_eq_ok hseries)
  rw [latestCompleteIndex, latestBelow_eq_ok]
  simp only [isComplete_iff hseries]
  rfl

lemma NumbersAt.not_oversized {index : ℕ} {numbers : List Number} {time : Number}
    (hat : NumbersAt timestamps series index numbers time) (hrange : InRange timestamps series) :
    ∀ n ∈ numbers, ¬Oversized (.number n) := by
  intro n hn
  have hmem : some (.number n) ∈ seriesKeys.map fun key => (series key)[index]? := by
    rw [hat.entries]
    exact List.mem_map_of_mem hn
  obtain ⟨key, hkey, hentry⟩ := List.mem_map.mp hmem
  exact hrange.floats key hkey _ (List.mem_of_getElem? hentry)

/-- Nothing else than a `MarketDataProviderError` comes from a chart in range. -/
lemma candleConverts_of_inRange (hchart : Chart payload timestamps series)
    (hrange : InRange timestamps series) : CandleConverts payload := by
  obtain ⟨entries, hpayload, hseries⟩ := hchart
  intro timestamps' values index hseries' _
  cases hpayload.symm.trans hseries'
  refine convertsInOrder_of ?_ ?_
  · intro p hp
    rw [getIndex_eq_ok] at hp
    rw [← caught_timestamp_iff]
    cases p with
    | number n =>
      obtain ⟨date, hdate⟩ := hrange.dates n (List.mem_of_getElem? hp)
      rw [Payload.timestamp, hdate]
      exact caught_ok date
    | null => exact caught_error rfl
    | bool value => exact caught_error rfl
    | str value => exact caught_error rfl
    | list items => exact caught_error rfl
    | dict entries => exact caught_error rfl
  · intro p hp
    obtain ⟨key, hkey, hentry⟩ := List.mem_map.mp hp
    rw [entryAt, field, hseries key hkey] at hentry
    exact hrange.floats key hkey p (List.mem_of_getElem? hentry)

lemma exactly_of_ofNumber {n : Number} {x : PyFloat} (h : PyFloat.ofNumber n = some x) :
    Exactly n x := by
  cases n with
  | int n =>
    intro hn
    exact (Option.some.inj ((PyFloat.ofInt_of_abs_lt hn).symm.trans h)).symm
  | float y => exact (Option.some.inj h).symm

lemma exists_floats {numbers : List Number} (h : ∀ n ∈ numbers, ¬Oversized (.number n)) :
    ∃ floats, numbers.map PyFloat.ofNumber = floats.map some ∧
      List.Forall₂ Exactly numbers floats := by
  induction numbers with
  | nil => exact ⟨[], rfl, .nil⟩
  | cons n numbers ih =>
    obtain ⟨floats, hfloats, hexact⟩ := ih fun m hm => h m (List.mem_cons_of_mem _ hm)
    obtain ⟨x, hx⟩ : ∃ x, PyFloat.ofNumber n = some x := by
      rcases toFloat_cases (.number n) with ⟨hover, -⟩ | ⟨-, -, x, hx⟩ | ⟨-, hconv, -⟩
      · exact absurd hover (h n List.mem_cons_self)
      · obtain ⟨m, hm, hx⟩ := toFloat_eq_ok hx
        cases hm
        exact ⟨x, hx⟩
      · cases n with
        | int n => exact absurd (not_le.mp (h (.int n) List.mem_cons_self)) hconv
        | float x => exact absurd trivial hconv
    exact ⟨x :: floats, by rw [List.map_cons, hx, hfloats, List.map_cons],
      .cons (exactly_of_ofNumber hx) hexact⟩

/-- For a chart in range: the candle of the greatest complete index if it consists of numbers, each
converted by `float`, and a `MarketDataProviderError` otherwise. -/
theorem latest_candle (hsymbol : P.upper symbol.strip ≠ ⟨[]⟩)
    (hquoted : urlQuote (P.upper symbol.strip) = .ok quoted)
    (hexchange : exchange P (("/v8/finance/chart/" : Str) ++ quoted) chartParams = .ok payload)
    (hchart : Chart payload timestamps series) (hrange : InRange timestamps series) :
    (∀ index numbers time, IsGreatest {i | CompleteAt timestamps series i} index →
      NumbersAt timestamps series index numbers time →
      ∃ candle, getOhlcv P symbol = .ok candle ∧ candle.symbol = P.upper symbol.strip ∧
        candle.interval = Str.ofString "1m" ∧
        numbers.map PyFloat.ofNumber = candle.values.map some ∧
        List.Forall₂ Exactly numbers candle.values ∧
        Instant.fromtimestamp time = .ok candle.timestamp) ∧
    ((¬∃ index numbers time, IsGreatest {i | CompleteAt timestamps series i} index ∧
        NumbersAt timestamps series index numbers time) →
      ∃ message, getOhlcv P symbol = .error (.marketDataProviderError message)) := by
  obtain ⟨entries, rfl⟩ := chart_dict hchart
  have hohlcv : getOhlcv P symbol =
      wrapDataError (("Yahoo Finance returned invalid OHLCV data for " : Str) ++ P.upper symbol.strip)
        (readChart (P.upper symbol.strip) (.dict entries)) := by
    rw [getOhlcv, symbol_of_ne P hsymbol, except_ok_bind, hquoted, except_ok_bind, getJson, hexchange]
    rfl
  have hcontained : Contained (getOhlcv P symbol) := by
    rw [hohlcv, contained_wrapDataError_iff, caught_readChart_iff]
    exact candleConverts_of_inRange hchart hrange
  constructor
  · intro index numbers time hindex hat
    obtain ⟨date, hdate⟩ := hrange.dates time (List.mem_of_getElem? hat.time)
    obtain ⟨floats, hfloats, hexact⟩ := exists_floats (hat.not_oversized hrange)
    obtain ⟨a, b, c, d, e, rfl⟩ : ∃ a b c d e, floats = [a, b, c, d, e] := by
      have hlen := (congrArg List.length hat.entries).trans
        ((List.length_map _).trans hexact.length_eq)
      exact exists_of_length_five hlen.symm
    refine ⟨⟨P.upper symbol.strip, a, b, c, d, e, date, "1m"⟩, ?_, rfl, rfl, hfloats, hexact, hdate⟩
    rw [hohlcv, wrapDataError_eq_ok, readChart_eq_ok hchart]
    exact ⟨index, hindex, rfl, rfl, numbers, time, hat, hfloats, hdate⟩
  · intro hnone
    rcases hresult : getOhlcv P symbol with e | candle
    · obtain ⟨message, rfl⟩ := hcontained e hresult
      exact ⟨message, rfl⟩
    · rw [hohlcv, wrapDataError_eq_ok, readChart_eq_ok hchart] at hresult
      obtain ⟨index, hindex, -, -, numbers, time, hat, -⟩ := hresult
      exact absurd ⟨index, numbers, time, hindex, hat⟩ hnone

end Request

namespace Sample

/-- The series of a chart with these volumes; the other entries are all 100. -/
def series (volumes : List Payload) (key : String) : List Payload :=
  if key = "volume" then volumes else [.number (.int 100), .number (.int 100)]

def minutes : List Payload := [.number (.int 1735732800), .number (.int 1735732860)]

/-- A chart of two minutes. -/
def chart (volumes : List Payload) : Payload :=
  document [("chart", document [("result", .list [document [("timestamp", .list minutes),
    ("indicators", document [("quote", .list [document
      (seriesKeys.map fun key => (key, .list (series volumes key)))])])]])])]

lemma chart_chart (volumes : List Payload) : Chart (chart volumes) minutes (series volumes) := by
  refine ⟨_, rfl, ?_⟩
  simp only [seriesKeys, List.forall_mem_cons, List.not_mem_nil, false_implies, implies_true, and_true]
  exact ⟨rfl, rfl, rfl, rfl, rfl⟩

/-- The newer minute has no volume. -/
def halfFilled (volume : ℤ) : List Payload := [.number (.int volume), .null]

lemma inRange_halfFilled {volume : ℤ} (h : |volume| < PyFloat.limit) :
    InRange minutes (series (halfFilled volume)) := by
  constructor
  · have hsmall : ∀ n ∈ [Payload.number (.int 100), .number (.int 100)], ¬Oversized n := by
      simp only [List.forall_mem_cons, List.not_mem_nil, false_implies, implies_true, and_true]
      have hnot : ¬PyFloat.limit ≤ |(100 : ℤ)| := by decide +kernel
      exact ⟨hnot, hnot⟩
    have hvolume : ∀ n ∈ halfFilled volume, ¬Oversized n := by
      simp only [halfFilled, List.forall_mem_cons, List.not_mem_nil, false_implies, implies_true,
        and_true]
      exact ⟨not_le.mpr h, id⟩
    simp only [seriesKeys, List.forall_mem_cons, List.not_mem_nil, false_implies, implies_true,
      and_true]
    exact ⟨hsmall, hsmall, hsmall, hsmall, hvolume⟩
  · intro n hn
    have hdates : ∀ m ∈ [Number.int 1735732800, .int 1735732860],
        (Instant.fromtimestamp m).isOk = true := by decide +kernel
    have hmem : n ∈ [Number.int 1735732800, .int 1735732860] := by
      simpa [minutes] using hn
    have hok := hdates n hmem
    rcases hdate : Instant.fromtimestamp n with e | date
    · rw [hdate] at hok
      cases hok
    · exact ⟨date, rfl⟩

lemma isGreatest_halfFilled (volume : ℤ) :
    IsGreatest {i | CompleteAt minutes (series (halfFilled volume)) i} 0 := by
  constructor
  · refine ⟨by decide, ?_⟩
    simp only [seriesKeys, List.forall_mem_cons, List.not_mem_nil, false_implies, implies_true,
      and_true]
    exact ⟨⟨_, rfl, nofun⟩, ⟨_, rfl, nofun⟩, ⟨_, rfl, nofun⟩, ⟨_, rfl, nofun⟩, ⟨_, rfl, nofun⟩⟩
  · rintro index ⟨hlt, hall⟩
    obtain ⟨v, hv, hne⟩ := hall "volume" (by decide)
    match index, hlt with
    | 0, _ => exact le_rfl
    | 1, _ => exact absurd (Option.some.inj hv).symm hne

lemma numbersAt_halfFilled (volume : ℤ) : NumbersAt minutes (series (halfFilled volume)) 0
    [.int 100, .int 100, .int 100, .int 100, .int volume] (.int 1735732800) := ⟨rfl, rfl⟩

theorem latest_candle_halfFilled :
    ∃ candle, getOhlcv (answering (chart (halfFilled 5000))) (Str.ofString "AAPL") = .ok candle ∧
      List.Forall₂ Exactly [.int 100, .int 100, .int 100, .int 100, .int 5000] candle.values := by
  have hquoted : urlQuote ((answering (chart (halfFilled 5000))).upper (Str.ofString "AAPL").strip) =
      .ok (Str.ofString "AAPL") := by decide
  obtain ⟨candle, hcandle, -, -, -, hexact, -⟩ :=
    (latest_candle (by decide) hquoted rfl (chart_chart (halfFilled 5000))
      (inRange_halfFilled (by decide +kernel))).1 _ _ _ (isGreatest_halfFilled 5000) (numbersAt_halfFilled 5000)
  exact ⟨candle, hcandle, hexact⟩

/-- A volume of 54 bits is rounded. -/
theorem volume_ne_entry :
    Chart (chart (halfFilled (2 ^ 53 + 1))) minutes (series (halfFilled (2 ^ 53 + 1))) ∧
      InRange minutes (series (halfFilled (2 ^ 53 + 1))) ∧
      IsGreatest {i | CompleteAt minutes (series (halfFilled (2 ^ 53 + 1))) i} 0 ∧
      NumbersAt minutes (series (halfFilled (2 ^ 53 + 1))) 0
        [.int 100, .int 100, .int 100, .int 100, .int (2 ^ 53 + 1)] (.int 1735732800) ∧
      ∀ candle, getOhlcv (answering (chart (halfFilled (2 ^ 53 + 1)))) (Str.ofString "AAPL") =
        .ok candle → candle.volume ≠ .finite (2 ^ 53 + 1) := by
  refine ⟨chart_chart _, inRange_halfFilled (by decide +kernel), isGreatest_halfFilled _,
    numbersAt_halfFilled _, ?_⟩
  have hrounded : (getOhlcv (answering (chart (halfFilled (2 ^ 53 + 1)))) (Str.ofString "AAPL")).map
      (fun candle => candle.volume) = .ok (.finite (2 ^ 53)) := by decide +kernel
  intro candle hcandle
  rw [hcandle] at hrounded
  rw [show candle.volume = .finite (2 ^ 53) from Except.ok.inj hrounded]
  decide +kernel

end Sample

end Pentagon5.MarketData
