import Pentagon5.Python.Decimal

/-!
# Python floats

A `float` is a binary64 number, an infinity or a NaN. `float` of an integer rounds to the nearest
number and raises `OverflowError` beyond the largest, and `datetime.fromtimestamp` reads a number of
seconds since the epoch.
-/

namespace Pentagon5.Python

/-- The sign of zero is not observable below. -/
inductive PyFloat
  | finite (value : ℚ)
  | infinite (negative : Bool)
  | nan
deriving DecidableEq

/-- An `int` or a `float`. -/
inductive Number
  | int (value : ℤ)
  | float (value : PyFloat)
deriving DecidableEq

/-- The exponent of the last bit that a binary64 number keeps of `x`. -/
def lastBit (x : ℚ) : ℤ := max (Int.log 2 |x| - 52) (-1074)

/-- The nearest binary64 number, half to even, for an unbounded largest exponent. -/
def nearestDouble (x : ℚ) : ℚ := roundHalfEven (x / 2 ^ lastBit x) * 2 ^ lastBit x

namespace PyFloat

/-- Integers from here on round beyond the largest float. -/
def limit : ℤ := 2 ^ 1024 - 2 ^ 970

/-- `float(n)`; `none` where it raises `OverflowError`. -/
def ofInt (n : ℤ) : Option PyFloat := if limit ≤ |n| then none else some (finite (nearestDouble n))

/-- `float(value)`. -/
def ofNumber : Number → Option PyFloat
  | .int n => ofInt n
  | .float x => some x

/-- An integer of 53 bits is a float. -/
lemma ofInt_of_abs_lt {n : ℤ} (h : |n| < 2 ^ 53) : ofInt n = some (finite n) := by
  have hlimit : ¬limit ≤ |n| := by
    rw [limit]
    omega
  have hz : (2 : ℚ) ^ lastBit n ≠ 0 := (zpow_pos (by norm_num) _).ne'
  obtain ⟨k, hk⟩ : ∃ k : ℕ, lastBit n = -k := by
    have hlog : Int.log 2 |(n : ℚ)| < 53 := by
      by_cases hzero : n = 0
      · simp [hzero]
      · refine (Int.lt_zpow_iff_log_lt (b := 2) (by norm_num) (by positivity)).mp ?_
        exact_mod_cast h
    refine ⟨(-lastBit n).toNat, ?_⟩
    rw [lastBit]
    omega
  have hdiv : (n : ℚ) / 2 ^ lastBit n = ((n * 2 ^ k : ℤ) : ℚ) := by
    rw [hk, zpow_neg, zpow_natCast, div_inv_eq_mul]
    push_cast
    ring
  have hnearest : nearestDouble n = n := by
    rw [nearestDouble, hdiv, roundHalfEven_intCast, ← hdiv, div_mul_cancel₀ _ hz]
  rw [ofInt, if_neg hlimit, hnearest]

end PyFloat

/-- Why `fromtimestamp` fails: the seconds do not fit `time_t`, `gmtime` fails, or the year is none. -/
inductive TimestampError
  | overflowError
  | osError
  | valueError
deriving DecidableEq

/-- A UTC date with a year from 1 to 9999, in microseconds since the epoch. -/
structure Instant where
  micros : ℤ
  valid : -62135596800 * 1000000 ≤ micros ∧ micros < 253402300800 * 1000000
deriving DecidableEq

namespace Instant

/-- `time_t`. -/
def fitsTime (seconds : ℤ) : Bool := -2 ^ 63 ≤ seconds ∧ seconds < 2 ^ 63

/-- The years that `gmtime` counts in an `int`. -/
def fitsYear (seconds : ℤ) : Bool := -67768040609740800 ≤ seconds ∧ seconds ≤ 67768036191676799

/-- The date of a number of microseconds whose seconds fit `time_t`. -/
def ofMicros (micros : ℤ) : Except TimestampError Instant :=
  if ¬fitsYear (micros / 1000000) then .error .osError
  else if h : -62135596800 * 1000000 ≤ micros ∧ micros < 253402300800 * 1000000 then .ok ⟨micros, h⟩
  else .error .valueError

/-- The part of a number before its point. -/
def truncate (x : ℚ) : ℤ := if 0 ≤ x then ⌊x⌋ else ⌈x⌉

/-- The microseconds of a float: the fraction is scaled as a float and rounded half to even. -/
def floatMicros (x : ℚ) : ℤ :=
  truncate x * 1000000 + roundHalfEven (nearestDouble ((x - truncate x) * 1000000))

/-- `datetime.fromtimestamp(value, tz=UTC)`. -/
def fromtimestamp : Number → Except TimestampError Instant
  | .int n => if fitsTime n then ofMicros (n * 1000000) else .error .overflowError
  | .float (.finite x) =>
    -- As a float the limit of `time_t` passes the check of the range, and `gmtime` fails.
    if truncate x = 2 ^ 63 then .error .osError
    else if fitsTime (truncate x) then ofMicros (floatMicros x) else .error .overflowError
  | .float (.infinite _) => .error .overflowError
  | .float .nan => .error .valueError

end Instant

end Pentagon5.Python
