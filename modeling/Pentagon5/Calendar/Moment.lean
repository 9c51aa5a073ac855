import Mathlib.Algebra.Order.Ring.Nat
import Mathlib.Data.List.Basic

/-!
# Moments of the Gregorian calendar

A moment is a second of UTC in the years 1 to 9999. Its text `YYYY-MM-DDTHH:MM:SS` is what both
runtimes write before the fraction.
-/

namespace Pentagon5.Calendar

def isLeap (year : ℕ) : Bool := year % 4 = 0 ∧ (year % 100 ≠ 0 ∨ year % 400 = 0)

def daysInMonth (year month : ℕ) : ℕ :=
  if month = 2 then if isLeap year then 29 else 28
  else if month = 4 ∨ month = 6 ∨ month = 9 ∨ month = 11 then 30 else 31

def IsDate (year month day : ℕ) : Prop :=
  (1 ≤ year ∧ year ≤ 9999) ∧ (1 ≤ month ∧ month ≤ 12) ∧ 1 ≤ day ∧ day ≤ daysInMonth year month

instance (year month day : ℕ) : Decidable (IsDate year month day) :=
  inferInstanceAs (Decidable (_ ∧ _ ∧ _ ∧ _))

def IsTime (hour minute second : ℕ) : Prop := hour < 24 ∧ minute < 60 ∧ second < 60

instance (hour minute second : ℕ) : Decidable (IsTime hour minute second) :=
  inferInstanceAs (Decidable (_ ∧ _ ∧ _))

structure Moment where
  year : ℕ
  month : ℕ
  day : ℕ
  hour : ℕ
  minute : ℕ
  second : ℕ
  isDate : IsDate year month day
  isTime : IsTime hour minute second

/-- The days of the years before `year`, counted from the year 1. -/
def daysBeforeYear (year : ℕ) : ℕ :=
  let past := year - 1
  past * 365 + past / 4 - past / 100 + past / 400

def daysBeforeMonth (year month : ℕ) : ℕ :=
  ((List.range (month - 1)).map fun i => daysInMonth year (i + 1)).sum

/-- Days since 1970-01-01. -/
def epochDay (year month day : ℕ) : ℤ :=
  daysBeforeYear year + daysBeforeMonth year month + day - 719163

namespace Moment

/-- Seconds since 1970-01-01T00:00:00Z. -/
def epochSecond (m : Moment) : ℤ :=
  epochDay m.year m.month m.day * 86400 + (m.hour * 3600 + m.minute * 60 + m.second)

example : epochDay 1970 1 1 = 0 ∧ epochDay 2000 3 1 = 11017 ∧ epochDay 1 1 1 = -719162 := by decide

end Moment

/-- The last `width` decimal digits, as code points. -/
def padded : ℕ → ℕ → List ℕ
  | 0, _ => []
  | width + 1, n => padded width (n / 10) ++ [48 + n % 10]

@[simp] lemma length_padded (width n : ℕ) : (padded width n).length = width := by
  induction width generalizing n with
  | zero => rfl
  | succ width ih => rw [padded, List.length_append, ih, List.length_singleton]

lemma mem_padded {width n c : ℕ} (h : c ∈ padded width n) : 48 ≤ c ∧ c ≤ 57 := by
  induction width generalizing n with
  | zero => cases h
  | succ width ih =>
    rw [padded, List.mem_append, List.mem_singleton] at h
    rcases h with h | rfl
    · exact ih h
    · omega

/-- `YYYY-MM-DDTHH:MM:SS`. -/
def Moment.text (m : Moment) : List ℕ :=
  padded 4 m.year ++ 45 :: (padded 2 m.month ++ 45 :: (padded 2 m.day ++ 84 ::
    (padded 2 m.hour ++ 58 :: (padded 2 m.minute ++ 58 :: padded 2 m.second))))

/-- Six numbers of as many digits as a moment has, and the character between date and time. -/
structure Stamp where
  year : ℕ
  month : ℕ
  day : ℕ
  separator : ℕ
  hour : ℕ
  minute : ℕ
  second : ℕ
  year_lt : year < 10 ^ 4
  month_lt : month < 10 ^ 2
  day_lt : day < 10 ^ 2
  hour_lt : hour < 10 ^ 2
  minute_lt : minute < 10 ^ 2
  second_lt : second < 10 ^ 2

namespace Stamp

def text (t : Stamp) : List ℕ :=
  padded 4 t.year ++ 45 :: (padded 2 t.month ++ 45 :: (padded 2 t.day ++ t.separator ::
    (padded 2 t.hour ++ 58 :: (padded 2 t.minute ++ 58 :: padded 2 t.second))))

/-- The numbers are a date of the years 1 to 9999 and a time of day. -/
def Valid (t : Stamp) : Prop := IsDate t.year t.month t.day ∧ IsTime t.hour t.minute t.second

instance (t : Stamp) : Decidable t.Valid := inferInstanceAs (Decidable (_ ∧ _))

@[simp] lemma length_text (t : Stamp) : t.text.length = 19 := by simp [text]

lemma mem_text {t : Stamp} {c : ℕ} (h : c ∈ t.text) :
    (48 ≤ c ∧ c ≤ 58) ∨ c = 45 ∨ c = t.separator := by
  have hdigit : ∀ {w n}, c ∈ padded w n → 48 ≤ c ∧ c ≤ 58 := fun hc => by
    have := mem_padded hc
    omega
  simp only [text, List.mem_append, List.mem_cons] at h
  rcases h with h | rfl | h | rfl | h | rfl | h | rfl | h | rfl | h
  all_goals first
    | exact .inl (hdigit h)
    | omega

end Stamp

lemma daysInMonth_le (year month : ℕ) : daysInMonth year month ≤ 31 := by
  unfold daysInMonth
  split_ifs <;> omega

def Moment.toStamp (m : Moment) : Stamp where
  year := m.year
  month := m.month
  day := m.day
  separator := 84
  hour := m.hour
  minute := m.minute
  second := m.second
  year_lt := Nat.lt_succ_of_le m.isDate.1.2
  month_lt := Nat.lt_of_le_of_lt m.isDate.2.1.2 (by decide)
  day_lt := Nat.lt_of_le_of_lt (m.isDate.2.2.2.trans (daysInMonth_le m.year m.month)) (by decide)
  hour_lt := Nat.lt_trans m.isTime.1 (by decide)
  minute_lt := Nat.lt_trans m.isTime.2.1 (by decide)
  second_lt := Nat.lt_trans m.isTime.2.2 (by decide)

namespace Moment

@[simp] lemma length_text (m : Moment) : m.text.length = 19 := m.toStamp.length_text

/-- Digits, `-`, `:` and `T`. -/
lemma mem_text {m : Moment} {c : ℕ} (h : c ∈ m.text) : (48 ≤ c ∧ c ≤ 58) ∨ c = 45 ∨ c = 84 :=
  Stamp.mem_text (show c ∈ m.toStamp.text from h)

end Moment

end Pentagon5.Calendar
