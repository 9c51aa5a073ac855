import Mathlib.Algebra.Order.Field.Basic
import Mathlib.Data.Nat.Digits.Lemmas
import Mathlib.Data.Rat.Cast.Order
import Mathlib.Tactic.FieldSimp
import Mathlib.Tactic.Linarith
import Mathlib.Tactic.Positivity

/-!
# Numerals in base ten

The digits before and after the point of a number that is not negative. Without a zero in front
and a zero at the end they are determined by the number, and every number with a finite expansion
has such digits.
-/

namespace Pentagon5.Notation

def IsDigits (ds : List ℕ) : Prop := ∀ d ∈ ds, d < 10

/-- The number before the point, first digit first. -/
def wholeValue (ds : List ℕ) : ℕ := Nat.ofDigits 10 ds.reverse

/-- The number behind the point. -/
def fractionValue : List ℕ → ℚ
  | [] => 0
  | d :: ds => (d + fractionValue ds) / 10

/-- A number with a finite expansion in base ten. -/
def IsFinite (x : ℚ) : Prop := ∃ (n : ℤ) (k : ℕ), x = n / 10 ^ k

variable {ds es : List ℕ}

lemma wholeValue_inj (hds : IsDigits ds) (hes : IsDigits es) (hd : ds.head? ≠ some 0)
    (he : es.head? ≠ some 0) (h : wholeValue ds = wholeValue es) : ds = es := by
  have key : ∀ ds, IsDigits ds → ds.head? ≠ some 0 → Nat.digits 10 (wholeValue ds) = ds.reverse := by
    intro ds hds hhead
    apply Nat.digits_ofDigits 10 (by norm_num)
    · intro d hd
      exact hds d (List.mem_reverse.mp hd)
    · intro hne hzero
      rw [List.getLast_reverse] at hzero
      rw [List.head?_eq_some_head (List.reverse_ne_nil_iff.mp hne), hzero] at hhead
      exact hhead rfl
  have heq := key ds hds hd
  rw [h, key es hes he] at heq
  exact (List.reverse_injective heq).symm

lemma exists_wholeValue (n : ℕ) : ∃ ds, IsDigits ds ∧ ds.head? ≠ some 0 ∧ wholeValue ds = n := by
  refine ⟨(Nat.digits 10 n).reverse, ?_, ?_, ?_⟩
  · intro d hd
    exact Nat.digits_lt_base (by norm_num) (List.mem_reverse.mp hd)
  · rw [List.head?_reverse]
    intro hlast
    have hne : Nat.digits 10 n ≠ [] := by
      rintro hnil
      rw [hnil] at hlast
      cases hlast
    rw [List.getLast?_eq_some_getLast hne] at hlast
    apply Nat.getLast_digit_ne_zero 10 _ (Option.some.inj hlast)
    rwa [Nat.digits_ne_nil_iff_ne_zero] at hne
  · rw [wholeValue, List.reverse_reverse, Nat.ofDigits_digits]

lemma fractionValue_nonneg (ds : List ℕ) : 0 ≤ fractionValue ds := by
  induction ds with
  | nil => exact le_rfl
  | cons d ds ih =>
    rw [fractionValue]
    positivity

lemma fractionValue_lt_one (h : IsDigits ds) : fractionValue ds < 1 := by
  induction ds with
  | nil => norm_num [fractionValue]
  | cons d ds ih =>
    have hd : (d : ℚ) + 1 ≤ 10 := by exact_mod_cast h d List.mem_cons_self
    have hds := ih fun x hx => h x (List.mem_cons_of_mem _ hx)
    rw [fractionValue, div_lt_one (by norm_num)]
    linarith

lemma getLast_tail {d : ℕ} (h : (d :: ds).getLast? ≠ some 0) : ds.getLast? ≠ some 0 := by
  cases ds with
  | nil => simp
  | cons e ds => rwa [List.getLast?_cons_cons] at h

/-- Digits that make zero end in one. -/
lemma eq_nil_of_fractionValue (hlast : ds.getLast? ≠ some 0) (h : fractionValue ds = 0) : ds = [] := by
  induction ds with
  | nil => rfl
  | cons d ds ih =>
    have hds := fractionValue_nonneg ds
    have hsum : (d : ℚ) + fractionValue ds = 0 := by
      rw [fractionValue] at h
      linarith
    have hd : (d : ℚ) = 0 := by
      have : (0 : ℚ) ≤ d := Nat.cast_nonneg d
      linarith
    obtain rfl : d = 0 := by exact_mod_cast hd
    obtain rfl := ih (getLast_tail hlast) (by linarith)
    exact absurd rfl hlast

lemma fractionValue_inj (hds : IsDigits ds) (hes : IsDigits es) (hd : ds.getLast? ≠ some 0)
    (he : es.getLast? ≠ some 0) (h : fractionValue ds = fractionValue es) : ds = es := by
  induction ds generalizing es with
  | nil => exact (eq_nil_of_fractionValue he h.symm).symm
  | cons d ds ih =>
    cases es with
    | nil => exact eq_nil_of_fractionValue hd h
    | cons e es =>
      have hds' : IsDigits ds := fun x hx => hds x (List.mem_cons_of_mem _ hx)
      have hes' : IsDigits es := fun x hx => hes x (List.mem_cons_of_mem _ hx)
      have hsum : (d : ℚ) + fractionValue ds = e + fractionValue es := by
        rw [fractionValue, fractionValue] at h
        linarith
      have h1 := fractionValue_nonneg ds
      have h2 := fractionValue_nonneg es
      have h3 := fractionValue_lt_one hds'
      have h4 := fractionValue_lt_one hes'
      -- both are the floor of the sum
      have hle : (d : ℚ) < e + 1 := by linarith
      have hge : (e : ℚ) < d + 1 := by linarith
      obtain rfl : d = e := by
        have : d < e + 1 := by exact_mod_cast hle
        have : e < d + 1 := by exact_mod_cast hge
        omega
      rw [ih hds' hes' (getLast_tail hd) (getLast_tail he) (by linarith)]

lemma exists_fractionValue (k : ℕ) {r : ℕ} (h : r < 10 ^ k) :
    ∃ ds, IsDigits ds ∧ ds.getLast? ≠ some 0 ∧ fractionValue ds = r / 10 ^ k := by
  induction k generalizing r with
  | zero =>
    obtain rfl : r = 0 := by simpa using h
    exact ⟨[], by simp [IsDigits], by simp, by simp [fractionValue]⟩
  | succ k ih =>
    have hpow : 0 < 10 ^ k := by positivity
    obtain ⟨ds, hds, hlast, hvalue⟩ := ih (Nat.mod_lt r hpow)
    have hdigit : r / 10 ^ k < 10 := by
      rw [Nat.div_lt_iff_lt_mul hpow, ← pow_succ']
      exact h
    have hsum : ((r / 10 ^ k : ℕ) : ℚ) + ((r % 10 ^ k : ℕ) : ℚ) / 10 ^ k = r / 10 ^ k := by
      have hdiv : ((10 ^ k * (r / 10 ^ k) + r % 10 ^ k : ℕ) : ℚ) = r := by rw [Nat.div_add_mod]
      push_cast at hdiv
      field_simp
      linarith
    have hcons : fractionValue (r / 10 ^ k :: ds) = r / 10 ^ (k + 1) := by
      rw [fractionValue, hvalue, hsum, pow_succ, div_div]
    by_cases hzero : ds = [] ∧ r / 10 ^ k = 0
    · obtain ⟨rfl, hz⟩ := hzero
      refine ⟨[], hds, hlast, ?_⟩
      rw [← hcons, hz]
      simp [fractionValue]
    · refine ⟨r / 10 ^ k :: ds, ?_, ?_, hcons⟩
      · intro d hd
        rcases List.mem_cons.mp hd with rfl | hd
        · exact hdigit
        · exact hds d hd
      · cases ds with
        | nil =>
          intro hlast
          exact hzero ⟨rfl, Option.some.inj hlast⟩
        | cons d ds => rwa [List.getLast?_cons_cons]

lemma isFinite_fractionValue (ds : List ℕ) : ∃ n : ℕ, fractionValue ds = n / 10 ^ ds.length := by
  induction ds with
  | nil => exact ⟨0, by simp [fractionValue]⟩
  | cons d ds ih =>
    obtain ⟨n, hn⟩ := ih
    refine ⟨d * 10 ^ ds.length + n, ?_⟩
    rw [fractionValue, hn, List.length_cons, pow_succ]
    push_cast
    field_simp

/-- The digits of a number without any that could be left out. -/
@[ext]
structure Numeral where
  whole : List ℕ
  fraction : List ℕ
  isDigits_whole : IsDigits whole
  isDigits_fraction : IsDigits fraction
  head_whole : whole.head? ≠ some 0
  last_fraction : fraction.getLast? ≠ some 0

namespace Numeral

def value (m : Numeral) : ℚ := wholeValue m.whole + fractionValue m.fraction

lemma value_nonneg (m : Numeral) : 0 ≤ m.value :=
  add_nonneg (Nat.cast_nonneg _) (fractionValue_nonneg _)

lemma value_injective : Function.Injective value := by
  intro m n h
  unfold value at h
  have hm := fractionValue_nonneg m.fraction
  have hn := fractionValue_nonneg n.fraction
  have hm' := fractionValue_lt_one m.isDigits_fraction
  have hn' := fractionValue_lt_one n.isDigits_fraction
  have hle : (wholeValue m.whole : ℚ) < wholeValue n.whole + 1 := by linarith
  have hge : (wholeValue n.whole : ℚ) < wholeValue m.whole + 1 := by linarith
  have hwhole : wholeValue m.whole = wholeValue n.whole := by
    have : wholeValue m.whole < wholeValue n.whole + 1 := by exact_mod_cast hle
    have : wholeValue n.whole < wholeValue m.whole + 1 := by exact_mod_cast hge
    omega
  rw [hwhole] at h
  apply Numeral.ext
  · exact wholeValue_inj m.isDigits_whole n.isDigits_whole m.head_whole n.head_whole hwhole
  · exact fractionValue_inj m.isDigits_fraction n.isDigits_fraction m.last_fraction n.last_fraction
      (by linarith)

/-- Every finite number that is not negative has a numeral. -/
lemma exists_value_eq {x : ℚ} (hfinite : IsFinite x) (h : 0 ≤ x) : ∃ m : Numeral, m.value = x := by
  obtain ⟨n, k, rfl⟩ := hfinite
  have hpow : (0 : ℚ) < 10 ^ k := by positivity
  have hn : 0 ≤ n := by
    have : (0 : ℚ) ≤ n := by
      by_contra hneg
      exact absurd (div_neg_of_neg_of_pos (not_le.mp hneg) hpow) (not_lt.mpr h)
    exact_mod_cast this
  lift n to ℕ using hn
  obtain ⟨whole, hwhole, hhead, hvalue⟩ := exists_wholeValue (n / 10 ^ k)
  obtain ⟨fraction, hfraction, hlast, hrest⟩ := exists_fractionValue k (Nat.mod_lt n (by positivity))
  refine ⟨⟨whole, fraction, hwhole, hfraction, hhead, hlast⟩, ?_⟩
  have hdiv : ((10 ^ k * (n / 10 ^ k) + n % 10 ^ k : ℕ) : ℚ) = n := by rw [Nat.div_add_mod]
  push_cast at hdiv
  rw [value, hvalue, hrest]
  field_simp
  push_cast
  linarith

lemma isFinite_value (m : Numeral) : IsFinite m.value := by
  obtain ⟨n, hn⟩ := isFinite_fractionValue m.fraction
  refine ⟨wholeValue m.whole * 10 ^ m.fraction.length + n, m.fraction.length, ?_⟩
  rw [value, hn]
  push_cast
  field_simp

lemma value_eq_zero {m : Numeral} : m.value = 0 ↔ m.whole = [] ∧ m.fraction = [] := by
  constructor
  · intro h
    have hzero : m = ⟨[], [], by simp [IsDigits], by simp [IsDigits], by simp, by simp⟩ := by
      apply value_injective
      rw [h]
      simp [value, wholeValue, fractionValue]
    rw [hzero]
    exact ⟨rfl, rfl⟩
  · rintro ⟨hwhole, hfraction⟩
    simp [value, hwhole, hfraction, wholeValue, fractionValue]

/-- The text of a numeral by its ASCII codes: a zero stands for no digits before the point. -/
def text (m : Numeral) : List ℕ :=
  (if m.whole = [] then [48] else m.whole.map (48 + ·)) ++
    if m.fraction = [] then [] else 46 :: m.fraction.map (48 + ·)

lemma mem_text {m : Numeral} {c : ℕ} (h : c ∈ m.text) : (48 ≤ c ∧ c ≤ 57) ∨ c = 46 := by
  have hdigit : ∀ {ds : List ℕ}, IsDigits ds → c ∈ ds.map (48 + ·) → 48 ≤ c ∧ c ≤ 57 := by
    intro ds hds hc
    obtain ⟨d, hd, rfl⟩ := List.mem_map.mp hc
    have := hds d hd
    omega
  rw [text, List.mem_append] at h
  rcases h with h | h
  · split_ifs at h
    · obtain rfl := List.mem_singleton.mp h
      exact Or.inl (by decide)
    · exact Or.inl (hdigit m.isDigits_whole h)
  · split_ifs at h
    · cases h
    · rcases List.mem_cons.mp h with rfl | h
      · exact Or.inr rfl
      · exact Or.inl (hdigit m.isDigits_fraction h)

end Numeral

end Pentagon5.Notation
