import Mathlib.Algebra.Order.Field.Power
import Mathlib.Algebra.Order.Floor.Ring
import Mathlib.Data.Int.Log
import Mathlib.Data.Rat.Floor
import Mathlib.Tactic.FieldSimp
import Mathlib.Tactic.Linarith
import Mathlib.Tactic.Positivity
import Mathlib.Tactic.Ring

/-!
# Python decimals

A finite `Decimal` is modelled by the number it denotes; trailing zeros and the sign of zero
are not observable through the operations below. An arithmetic operation computes its exact
result and hands it to the context, which rounds it or signals. The default context keeps 28
significant digits, rounds half to even and traps invalid operations, division by zero and
overflow; comparison is exact and never consults it.
-/

namespace Pentagon5.Python

/-- The trapped signals of the `decimal` module. -/
inductive DecimalSignal
  | invalidOperation
  | divisionByZero
  | overflow
deriving DecidableEq

inductive Decimal
  | finite (value : ℚ)
  | infinite (negative : Bool)
  | nan
deriving DecidableEq

/-- A context by what it makes of the exact result of an operation. -/
structure Context where
  round : ℚ → Except DecimalSignal ℚ

/-- Arithmetic without a limit on digits or exponents. -/
def Context.exact : Context := ⟨Except.ok⟩

@[simp] lemma Context.exact_round (x : ℚ) : Context.exact.round x = .ok x := rfl

def roundHalfEven (x : ℚ) : ℤ :=
  if Int.fract x < 1 / 2 then ⌊x⌋
  else if 1 / 2 < Int.fract x then ⌊x⌋ + 1
  else if Even ⌊x⌋ then ⌊x⌋
  else ⌊x⌋ + 1

@[simp] lemma roundHalfEven_intCast (n : ℤ) : roundHalfEven n = n := by
  simp [roundHalfEven]

lemma abs_roundHalfEven_sub_le (x : ℚ) : |(roundHalfEven x : ℚ) - x| ≤ 1 / 2 := by
  have hf : (⌊x⌋ : ℚ) + Int.fract x = x := Int.floor_add_fract x
  have h0 := Int.fract_nonneg x
  have h1 := Int.fract_lt_one x
  unfold roundHalfEven
  rw [abs_le]
  split_ifs
  · constructor <;> linarith
  · push_cast
    constructor <;> linarith
  · constructor <;> linarith
  · push_cast
    constructor <;> linarith

/-- No integer is closer. -/
lemma abs_roundHalfEven_sub_le_abs (x : ℚ) (n : ℤ) :
    |(roundHalfEven x : ℚ) - x| ≤ |(n : ℚ) - x| := by
  have hhalf := abs_roundHalfEven_sub_le x
  by_cases he : n = roundHalfEven x
  · rw [he]
  · have hone : (1 : ℚ) ≤ |(n : ℚ) - roundHalfEven x| := by
      have : (1 : ℤ) ≤ |n - roundHalfEven x| := Int.one_le_abs (sub_ne_zero.mpr he)
      exact_mod_cast this
    have htri := abs_sub_le (n : ℚ) x (roundHalfEven x)
    rw [abs_sub_comm x] at htri
    linarith

/-- `OnGrid e x`: `x` has no digit below the power `e` of ten. -/
def OnGrid (e : ℤ) (x : ℚ) : Prop := ∃ n : ℤ, x = n * 10 ^ e

lemma OnGrid.mono {d e : ℤ} {x : ℚ} (h : OnGrid e x) (hde : d ≤ e) : OnGrid d x := by
  obtain ⟨n, rfl⟩ := h
  refine ⟨n * 10 ^ (e - d).toNat, ?_⟩
  have hz : (10 : ℚ) ^ e = 10 ^ (e - d).toNat * 10 ^ d := by
    rw [← zpow_natCast, ← zpow_add₀ (by norm_num)]
    congr 1
    omega
  rw [hz]
  push_cast
  ring

lemma onGrid_zpow (n : ℤ) (e : ℤ) (k : ℕ) : OnGrid e (n * 10 ^ (e + k)) :=
  OnGrid.mono (e := e + k) ⟨n, rfl⟩ (by omega)

/-- A number format: significant digits and the range of the leading exponent. -/
structure Format where
  precision : ℕ
  emin : ℤ
  emax : ℤ
  positive : 0 < precision

namespace Format

variable (f : Format)

/-- The exponent of the last digit a subnormal number keeps. -/
def etiny : ℤ := f.emin - (f.precision - 1)

/-- The exponent of the last digit that the format keeps of `x`. -/
def quantum (x : ℚ) : ℤ := if x = 0 then f.etiny else max (Int.log 10 |x| - (f.precision - 1)) f.etiny

/-- The number of the format nearest to `x`, half to even, for an unbounded largest exponent. -/
def nearest (x : ℚ) : ℚ := roundHalfEven (x / 10 ^ f.quantum x) * 10 ^ f.quantum x

def round (x : ℚ) : Except DecimalSignal ℚ :=
  if 10 ^ (f.emax + 1) ≤ |f.nearest x| then .error .overflow else .ok (f.nearest x)

/-- `x` has at most `precision` significant digits, none of them below `etiny`, and is not too large. -/
def Representable (x : ℚ) : Prop :=
  |x| < 10 ^ (f.emax + 1) ∧
    ∃ (coefficient : ℤ) (exponent : ℤ), |coefficient| < 10 ^ f.precision ∧ f.etiny ≤ exponent ∧
      x = coefficient * 10 ^ exponent

variable {f} {x y : ℚ}

lemma etiny_le_quantum (x : ℚ) : f.etiny ≤ f.quantum x := by
  unfold quantum
  split
  · exact le_rfl
  · exact le_max_right _ _

/-- The digits kept of a number reach up to its first one. -/
lemma abs_lt_zpow_quantum (x : ℚ) : |x| < 10 ^ (f.quantum x + f.precision) := by
  by_cases hx : x = 0
  · rw [hx, abs_zero]
    exact zpow_pos (by norm_num) _
  · have hlog : |x| < (10 : ℚ) ^ (Int.log 10 |x| + 1) := by
      exact_mod_cast Int.lt_zpow_succ_log_self (b := 10) (by norm_num) |x|
    refine hlog.trans_le (zpow_le_zpow_right₀ (by norm_num) ?_)
    rw [quantum, if_neg hx]
    omega

lemma quantum_le_of_abs_lt {e : ℤ} (he : f.etiny ≤ e) (h : |x| < 10 ^ (e + f.precision)) :
    f.quantum x ≤ e := by
  by_cases hx : x = 0
  · rwa [quantum, if_pos hx]
  · rw [quantum, if_neg hx]
    have hlog : (10 : ℚ) ^ Int.log 10 |x| ≤ |x| := by
      exact_mod_cast Int.zpow_log_le_self (b := 10) (by norm_num) (abs_pos.mpr hx)
    have hlt := (zpow_lt_zpow_iff_right₀ (by norm_num : (1 : ℚ) < 10)).mp (hlog.trans_lt h)
    omega

/-- A number has few digits when it lies on the grid that rounding it would use. -/
lemma digits_iff : (∃ coefficient exponent : ℤ, |coefficient| < 10 ^ f.precision ∧
    f.etiny ≤ exponent ∧ x = coefficient * 10 ^ exponent) ↔ OnGrid (f.quantum x) x := by
  constructor
  · rintro ⟨c, e, hc, he, rfl⟩
    refine OnGrid.mono ⟨c, rfl⟩ (quantum_le_of_abs_lt he ?_)
    have hc' : |(c : ℚ)| < 10 ^ f.precision := by exact_mod_cast hc
    rw [abs_mul, abs_of_pos (a := (10 : ℚ) ^ e) (by positivity), zpow_add₀ (by norm_num), mul_comm,
      zpow_natCast]
    exact mul_lt_mul_of_pos_left hc' (by positivity)
  · rintro ⟨n, hn⟩
    refine ⟨n, f.quantum x, ?_, etiny_le_quantum x, hn⟩
    have hlt := f.abs_lt_zpow_quantum x
    rw [hn, abs_mul, abs_of_pos (a := (10 : ℚ) ^ f.quantum _) (by positivity), ← hn,
      zpow_add₀ (by norm_num), mul_comm, zpow_natCast] at hlt
    have : |(n : ℚ)| < 10 ^ f.precision := lt_of_mul_lt_mul_left hlt (by positivity)
    exact_mod_cast this

lemma representable_iff : f.Representable x ↔ |x| < 10 ^ (f.emax + 1) ∧ OnGrid (f.quantum x) x := by
  rw [Representable, digits_iff]

lemma onGrid_nearest (x : ℚ) : OnGrid (f.quantum x) (f.nearest x) := ⟨_, rfl⟩

lemma nearest_of_onGrid (h : OnGrid (f.quantum x) x) : f.nearest x = x := by
  obtain ⟨n, hn⟩ := h
  have hz : (10 : ℚ) ^ f.quantum x ≠ 0 := (zpow_pos (by norm_num) _).ne'
  have hq : x / 10 ^ f.quantum x = n := by
    rw [div_eq_iff hz]
    exact hn
  rw [nearest, hq, roundHalfEven_intCast]
  exact hn.symm

/-- Nothing on the grid used for `x` is closer to `x`. -/
lemma abs_nearest_sub_le_of_grid (h : OnGrid (f.quantum x) y) : |f.nearest x - x| ≤ |y - x| := by
  obtain ⟨n, rfl⟩ := h
  have hz : (0 : ℚ) < 10 ^ f.quantum x := zpow_pos (by norm_num) _
  have hx : x = x / 10 ^ f.quantum x * 10 ^ f.quantum x := (div_mul_cancel₀ x hz.ne').symm
  have hle := abs_roundHalfEven_sub_le_abs (x / 10 ^ f.quantum x) n
  calc |f.nearest x - x|
      = |(roundHalfEven (x / 10 ^ f.quantum x) : ℚ) - x / 10 ^ f.quantum x| * 10 ^ f.quantum x := by
        rw [← abs_of_pos hz, ← abs_mul, abs_of_pos hz, sub_mul, ← hx, nearest]
    _ ≤ |(n : ℚ) - x / 10 ^ f.quantum x| * 10 ^ f.quantum x := mul_le_mul_of_nonneg_right hle hz.le
    _ = |(n : ℚ) * 10 ^ f.quantum x - x| := by
        rw [← abs_of_pos hz, ← abs_mul, abs_of_pos hz, sub_mul, ← hx]

lemma abs_nearest_le (x : ℚ) : |f.nearest x| ≤ 10 ^ (f.quantum x + f.precision) := by
  have hlt := abs_lt.mp (f.abs_lt_zpow_quantum x)
  have h1 := f.abs_nearest_sub_le_of_grid (onGrid_zpow 1 (f.quantum x) f.precision)
  have h2 := f.abs_nearest_sub_le_of_grid (onGrid_zpow (-1) (f.quantum x) f.precision)
  generalize (10 : ℚ) ^ (f.quantum x + f.precision) = b at hlt h1 h2
  have h1' : |((1 : ℤ) : ℚ) * b - x| = b - x := by
    rw [Int.cast_one, one_mul, abs_of_nonneg]
    linarith
  have h2' : |((-1 : ℤ) : ℚ) * b - x| = x + b := by
    rw [Int.cast_neg, Int.cast_one, neg_one_mul, abs_of_nonpos] <;> linarith
  rw [h1', abs_le] at h1
  rw [h2', abs_le] at h2
  rw [abs_le]
  constructor <;> linarith

/-- The carry of a rounding up costs no digit: what rounding delivers has few digits again. -/
lemma onGrid_quantum_nearest (x : ℚ) : OnGrid (f.quantum (f.nearest x)) (f.nearest x) := by
  rw [← digits_iff]
  obtain ⟨n, hn⟩ := f.onGrid_nearest x
  have hz : (0 : ℚ) < 10 ^ f.quantum x := zpow_pos (by norm_num) _
  have hle := f.abs_nearest_le x
  rw [hn, abs_mul, abs_of_pos hz, zpow_add₀ (by norm_num), mul_comm, zpow_natCast] at hle
  have hle' : |n| ≤ 10 ^ f.precision := by
    have : |(n : ℚ)| ≤ 10 ^ f.precision := le_of_mul_le_mul_left hle hz
    exact_mod_cast this
  rcases hle'.lt_or_eq with hlt | heq
  · exact ⟨n, _, hlt, etiny_le_quantum x, hn⟩
  · refine ⟨n.sign, f.quantum x + f.precision, ?_, (etiny_le_quantum x).trans (by omega), ?_⟩
    · have hone : |n.sign| ≤ 1 := by rcases Int.sign_trichotomy n with h | h | h <;> simp [h]
      exact hone.trans_lt (one_lt_pow₀ (by norm_num) f.positive.ne')
    · have hs : (n : ℚ) = n.sign * 10 ^ f.precision := by
        conv_lhs => rw [← Int.sign_mul_abs n, heq]
        push_cast
        rfl
      rw [hn, hs, zpow_add₀ (by norm_num), zpow_natCast]
      ring

/-- The result of rounding is as close to `x` as any number of the format. -/
lemma abs_nearest_sub_le (h : OnGrid (f.quantum y) y) : |f.nearest x - x| ≤ |y - x| := by
  by_cases hq : f.quantum x ≤ f.quantum y
  · exact abs_nearest_sub_le_of_grid (h.mono hq)
  · -- `y` is then below the leading digit of `x`, which is itself on the grid.
    have hx0 : x ≠ 0 := by
      intro h0
      rw [h0, quantum, if_pos rfl] at hq
      exact hq (etiny_le_quantum y)
    have hlog : f.quantum x = Int.log 10 |x| - (f.precision - 1) := by
      have hy := f.etiny_le_quantum y
      rw [quantum, if_neg hx0] at hq ⊢
      omega
    have hp := f.positive
    obtain ⟨k, hk⟩ : ∃ k : ℕ, Int.log 10 |x| = f.quantum x + k := ⟨f.precision - 1, by omega⟩
    have hlead : (10 : ℚ) ^ (f.quantum x + k) ≤ |x| := by
      rw [← hk]
      exact_mod_cast Int.zpow_log_le_self (b := 10) (by norm_num) (abs_pos.mpr hx0)
    have hsmall : |y| < 10 ^ (f.quantum x + k) := by
      refine (f.abs_lt_zpow_quantum y).trans_le (zpow_le_zpow_right₀ (by norm_num) ?_)
      omega
    have hnear := fun s : ℤ => f.abs_nearest_sub_le_of_grid (onGrid_zpow s (f.quantum x) k)
    generalize (10 : ℚ) ^ (f.quantum x + k) = b at hlead hsmall hnear
    obtain ⟨hy1, hy2⟩ := abs_lt.mp hsmall
    rcases le_or_gt 0 x with hx | hx
    · rw [abs_of_nonneg hx] at hlead
      have h1 := hnear 1
      rw [Int.cast_one, one_mul, abs_sub_comm b, abs_of_nonneg (a := x - b) (by linarith)] at h1
      rw [abs_sub_comm y, abs_of_nonneg (a := x - y) (by linarith)]
      linarith
    · rw [abs_of_neg hx] at hlead
      have h1 := hnear (-1)
      rw [Int.cast_neg, Int.cast_one, neg_one_mul, abs_of_nonneg (a := -b - x) (by linarith)] at h1
      rw [abs_of_nonneg (a := y - x) (by linarith)]
      linarith

lemma nearest_le_of_le (hy : OnGrid (f.quantum y) y) (h : x ≤ y) : f.nearest x ≤ y := by
  have hn := f.abs_nearest_sub_le (x := x) hy
  rw [abs_of_nonneg (a := y - x) (by linarith)] at hn
  have := le_abs_self (f.nearest x - x)
  linarith

lemma le_nearest_of_le (hy : OnGrid (f.quantum y) y) (h : y ≤ x) : y ≤ f.nearest x := by
  have hn := f.abs_nearest_sub_le (x := x) hy
  rw [abs_of_nonpos (a := y - x) (by linarith)] at hn
  have := neg_abs_le (f.nearest x - x)
  linarith

/-- A number of the format that is closer than half a digit is the result of rounding. -/
lemma nearest_eq_of_close {d : ℤ} (hy : OnGrid (f.quantum y) y) (hd : OnGrid d y)
    (hx : 10 ^ (d + (f.precision - 1)) ≤ |x|) (hclose : 2 * |y - x| < 10 ^ d) :
    f.nearest x = y := by
  have hpos : 0 < |x| := (zpow_pos (by norm_num) _).trans_le hx
  have hlog : d + (f.precision - 1) ≤ Int.log 10 |x| :=
    (Int.zpow_le_iff_le_log (b := 10) (by norm_num) hpos).mp (by exact_mod_cast hx)
  have hq : d ≤ f.quantum x := by
    rw [quantum, if_neg (abs_pos.mp hpos)]
    omega
  obtain ⟨a, ha⟩ := (f.onGrid_nearest x).mono hq
  obtain ⟨b, hb⟩ := hd
  have hz : (0 : ℚ) < 10 ^ d := zpow_pos (by norm_num) _
  have hdist : |f.nearest x - y| < 10 ^ d := by
    have hn := f.abs_nearest_sub_le (x := x) hy
    have htri := abs_sub_le (f.nearest x) x y
    rw [abs_sub_comm x y] at htri
    linarith
  have hab : |a - b| < 1 := by
    rw [ha, hb, ← sub_mul, abs_mul, abs_of_pos hz] at hdist
    have : |(a : ℚ) - b| < 1 := by
      by_contra hge
      have := mul_le_mul_of_nonneg_right (not_lt.mp hge) hz.le
      linarith
    exact_mod_cast this
  obtain rfl : a = b := by
    rw [Int.abs_lt_one_iff] at hab
    omega
  rw [ha, hb]

end Format

/-- The numbers of `decimal.DefaultContext`. -/
def Format.default : Format := ⟨28, -999999, 999999, by norm_num⟩

def Context.default : Context := ⟨Format.default.round⟩

lemma Format.round_eq_ok {f : Format} {x y : ℚ} :
    f.round x = .ok y ↔ |f.nearest x| < 10 ^ (f.emax + 1) ∧ f.nearest x = y := by
  unfold Format.round
  split
  · next h => simp [h.not_gt]
  · next h => simp [not_le.mp h]

/-- A number is kept as it is exactly when it has few digits. -/
lemma Format.round_self_iff {f : Format} {x : ℚ} : f.round x = .ok x ↔ f.Representable x := by
  rw [round_eq_ok, representable_iff]
  constructor
  · rintro ⟨hlt, he⟩
    rw [he] at hlt
    exact ⟨hlt, he ▸ f.onGrid_quantum_nearest x⟩
  · rintro ⟨hlt, hg⟩
    rw [nearest_of_onGrid hg]
    exact ⟨hlt, rfl⟩

lemma Format.representable_of_round {f : Format} {x y : ℚ} (h : f.round x = .ok y) :
    f.Representable y := by
  obtain ⟨hlt, rfl⟩ := round_eq_ok.mp h
  exact representable_iff.mpr ⟨hlt, f.onGrid_quantum_nearest x⟩

lemma Format.Representable.onGrid {f : Format} {x : ℚ} (h : f.Representable x) :
    OnGrid (f.quantum x) x := (representable_iff.mp h).2

/-- Shifting the exponent up keeps the digits. -/
lemma Format.Representable.mul_zpow {f : Format} {x : ℚ} (h : f.Representable x) (k : ℕ)
    (hlt : |x * 10 ^ k| < 10 ^ (f.emax + 1)) : f.Representable (x * 10 ^ k) := by
  obtain ⟨-, c, e, hc, he, rfl⟩ := h
  refine ⟨hlt, c, e + k, hc, by omega, ?_⟩
  rw [zpow_add₀ (by norm_num), zpow_natCast, mul_assoc]

namespace Format.Default

variable {x y : ℚ}

lemma lt_limit (h : |x| ≤ 10 ^ 9) : |x| < 10 ^ (Format.default.emax + 1) := by
  refine h.trans_lt ?_
  rw [← zpow_natCast]
  exact zpow_lt_zpow_right₀ (by norm_num) (by norm_num [Format.default])

lemma representable_of_digits (coefficient exponent : ℤ) (hc : |coefficient| < 10 ^ 28)
    (he : -1000026 ≤ exponent) (hx : |(coefficient : ℚ) * 10 ^ exponent| ≤ 10 ^ 9) :
    Format.default.Representable (coefficient * 10 ^ exponent) :=
  ⟨lt_limit hx, coefficient, exponent, hc, by norm_num [Format.etiny, Format.default]; omega, rfl⟩

lemma representable_zero : Format.default.Representable 0 := by
  simpa using representable_of_digits 0 0 (by norm_num) (by norm_num)
    (by norm_num)

lemma representable_ten_pow {k : ℕ} (hk : k ≤ 9) : Format.default.Representable (10 ^ k) := by
  have := representable_of_digits 1 k (by norm_num) (by omega) (by
    rw [Int.cast_one, one_mul, zpow_natCast, abs_of_pos (by positivity)]
    exact pow_le_pow_right₀ (by norm_num) hk)
  simpa using this

lemma abs_nearest_le {k : ℕ} (hk : k ≤ 9) (h : |x| ≤ 10 ^ k) :
    |Format.default.nearest x| ≤ 10 ^ k := by
  have hg := (representable_ten_pow hk).onGrid
  obtain ⟨h1, h2⟩ := abs_le.mp h
  have hneg : Format.default.Representable (-10 ^ k) := by
    have := representable_of_digits (-1) k (by norm_num) (by omega) (by
      rw [Int.cast_neg, Int.cast_one, neg_one_mul, zpow_natCast, abs_neg, abs_of_pos (by positivity)]
      exact pow_le_pow_right₀ (by norm_num) hk)
    simpa using this
  exact abs_le.mpr ⟨le_nearest_of_le hneg.onGrid h1, nearest_le_of_le hg h2⟩

/-- No amount of moderate size overflows. -/
lemma round_eq (h : |x| ≤ 10 ^ 9) : Format.default.round x = .ok (Format.default.nearest x) :=
  round_eq_ok.mpr ⟨lt_limit (abs_nearest_le le_rfl h), rfl⟩

lemma nearest_nonneg (h : 0 ≤ x) : 0 ≤ Format.default.nearest x :=
  le_nearest_of_le representable_zero.onGrid h

/-- Adding to a number of the format overshoots by the summand at most. -/
lemma nearest_add_le (hx : Format.default.Representable x) (hy : 0 ≤ y) :
    Format.default.nearest (x + y) ≤ x + 2 * y := by
  have hn := Format.default.abs_nearest_sub_le (x := x + y) hx.onGrid
  rw [show x - (x + y) = -y by ring, abs_neg, abs_of_nonneg hy] at hn
  have := le_abs_self (Format.default.nearest (x + y) - (x + y))
  linarith

end Format.Default

namespace Decimal

variable (ctx : Context)

def add : Decimal → Decimal → Except DecimalSignal Decimal
  | .nan, _ => .ok .nan
  | _, .nan => .ok .nan
  | .infinite s, .infinite t => if s = t then .ok (.infinite s) else .error .invalidOperation
  | .infinite s, .finite _ => .ok (.infinite s)
  | .finite _, .infinite s => .ok (.infinite s)
  | .finite x, .finite y => (ctx.round (x + y)).map .finite

def copyNegate : Decimal → Decimal
  | .finite x => .finite (-x)
  | .infinite s => .infinite !s
  | .nan => .nan

def sub (a b : Decimal) : Except DecimalSignal Decimal := a.add ctx b.copyNegate

def isNegative : Decimal → Bool
  | .finite x => x < 0
  | .infinite s => s
  | .nan => false

def mul : Decimal → Decimal → Except DecimalSignal Decimal
  | .nan, _ => .ok .nan
  | _, .nan => .ok .nan
  | .finite x, .finite y => (ctx.round (x * y)).map .finite
  | a, b =>
    if a = .finite 0 ∨ b = .finite 0 then .error .invalidOperation
    else .ok (.infinite (a.isNegative != b.isNegative))

def div : Decimal → Decimal → Except DecimalSignal Decimal
  | .nan, _ => .ok .nan
  | _, .nan => .ok .nan
  | .infinite _, .infinite _ => .error .invalidOperation
  | .infinite s, .finite y => .ok (.infinite (s != decide (y < 0)))
  | .finite _, .infinite _ => .ok (.finite 0)
  | .finite x, .finite y =>
    if y = 0 then .error (if x = 0 then .invalidOperation else .divisionByZero)
    else (ctx.round (x / y)).map .finite

/-- `a < b`; a comparison with a NaN signals. -/
def lt : Decimal → Decimal → Except DecimalSignal Bool
  | .nan, _ => .error .invalidOperation
  | _, .nan => .error .invalidOperation
  | .finite x, .finite y => .ok (x < y)
  | .infinite s, .finite _ => .ok s
  | .finite _, .infinite s => .ok !s
  | .infinite s, .infinite t => .ok (s && !t)

/-- `a <= b`. -/
def le (a b : Decimal) : Except DecimalSignal Bool := (b.lt a).map not

/-- `a == b`. -/
def eq : Decimal → Decimal → Bool
  | .nan, _ => false
  | a, b => a = b

/-- The number that a finite decimal denotes. -/
def toRat : Decimal → ℚ
  | .finite x => x
  | _ => 0

def Positive : Decimal → Prop
  | .finite x => 0 < x
  | .infinite s => s = false
  | .nan => False

lemma le_zero_eq_false {a : Decimal} : a.le (.finite 0) = .ok false ↔ a.Positive := by
  rcases a with x | s | _
  · simp [le, lt, Positive, Except.map]
  · cases s <;> simp [le, lt, Positive, Except.map]
  · simp [le, lt, Positive, Except.map]

variable (x y : ℚ)

@[simp] lemma toRat_finite : (finite x).toRat = x := rfl

@[simp] lemma finite_add : (finite x).add ctx (.finite y) = (ctx.round (x + y)).map .finite := rfl

@[simp] lemma finite_sub : (finite x).sub ctx (.finite y) = (ctx.round (x - y)).map .finite := by
  rw [sub_eq_add_neg]
  rfl

@[simp] lemma finite_mul : (finite x).mul ctx (.finite y) = (ctx.round (x * y)).map .finite := rfl

lemma infinite_mul (h : 0 < y) : (infinite false).mul ctx (.finite y) = .ok (.infinite false) := by
  have hneg : ¬y < 0 := h.not_gt
  simp [mul, isNegative, h.ne', hneg]

/-- The product of positive decimals, one of them infinite. -/
lemma mul_infinite {a : Decimal} (h : a.Positive) : a.mul ctx (.infinite false) = .ok (.infinite false) := by
  cases a with
  | finite x =>
    have hx : 0 < x := h
    have hneg : ¬x < 0 := hx.not_gt
    simp [mul, isNegative, hx.ne', hneg]
  | infinite s =>
    obtain rfl : s = false := h
    rfl
  | nan => exact absurd h id

@[simp] lemma finite_div (h : y ≠ 0) :
    (finite x).div ctx (.finite y) = (ctx.round (x / y)).map .finite := if_neg h

@[simp] lemma finite_lt : (finite x).lt (.finite y) = .ok (decide (x < y)) := rfl

@[simp] lemma finite_eq : (finite x).eq (.finite y) = decide (x = y) := by
  simp [eq]

end Decimal

end Pentagon5.Python
