import Pentagon5.Contracts.Decimal

/-!
# The decimal grammar is canonical

The patterns accept the texts of numerals, with a sign in front of those that are not zero. A text
of a numeral denotes its value, so each finite number has one accepted text.
-/

namespace Pentagon5.Contracts

open Python Ecma Notation

variable {codes : List ℕ}

lemma mem_digits {c : ℕ} : c ∈ (Str.ofString "0123456789").codes ↔ 48 ≤ c ∧ c ≤ 57 := by
  have hclass : (Str.ofString "0123456789").codes = List.range' 48 10 := by decide
  rw [hclass, List.mem_range'_1]
  omega

lemma mem_nonzeroDigits {c : ℕ} : c ∈ (Str.ofString "123456789").codes ↔ 49 ≤ c ∧ c ≤ 57 := by
  have hclass : (Str.ofString "123456789").codes = List.range' 49 9 := by decide
  rw [hclass, List.mem_range'_1]
  omega

lemma matches_digits : Matches digit.star codes ↔ ∃ ds, IsDigits ds ∧ codes = ds.map (48 + ·) := by
  rw [digit, matches_oneOf_star]
  simp only [mem_digits]
  constructor
  · intro h
    refine ⟨codes.map (· - 48), ?_, ?_⟩
    · intro d hd
      obtain ⟨c, hc, rfl⟩ := List.mem_map.mp hd
      have := h c hc
      omega
    · have hback : ∀ c ∈ codes, ((48 + ·) ∘ (· - 48)) c = id c := by
        intro c hc
        have := h c hc
        simp only [Function.comp, id]
        omega
      rw [List.map_map, List.map_congr_left hback, List.map_id]
  · rintro ⟨ds, hds, rfl⟩ c hc
    obtain ⟨d, hd, rfl⟩ := List.mem_map.mp hc
    have := hds d hd
    omega

lemma matches_nonzeroDigit :
    Matches nonzeroDigit codes ↔ ∃ d, d < 10 ∧ d ≠ 0 ∧ codes = [48 + d] := by
  rw [nonzeroDigit, matches_oneOf]
  simp only [mem_nonzeroDigits]
  constructor
  · rintro ⟨c, hc, rfl⟩
    refine ⟨c - 48, by omega, by omega, ?_⟩
    rw [Nat.add_sub_cancel' (by omega)]
  · rintro ⟨d, hlt, hne, rfl⟩
    exact ⟨48 + d, by omega, rfl⟩

lemma matches_fraction : Matches fractionPattern codes ↔
    ∃ ds, IsDigits ds ∧ ds ≠ [] ∧ ds.getLast? ≠ some 0 ∧ codes = 46 :: ds.map (48 + ·) := by
  simp only [fractionPattern, matches_mul, matches_char, matches_digits, matches_nonzeroDigit]
  constructor
  · rintro ⟨_, _, rfl, ⟨_, _, ⟨ds, hds, rfl⟩, ⟨d, hlt, hne, rfl⟩, rfl⟩, rfl⟩
    refine ⟨ds ++ [d], ?_, by simp, by simpa using hne, by simp⟩
    intro x hx
    rcases List.mem_append.mp hx with hx | hx
    · exact hds x hx
    · rwa [List.mem_singleton.mp hx]
  · rintro ⟨ds, hds, hne, hlast, rfl⟩
    obtain ⟨init, d, rfl⟩ : ∃ init d, ds = init ++ [d] := (List.eq_nil_or_concat' ds).resolve_left hne
    refine ⟨[46], _, rfl, ⟨init.map (48 + ·), [48 + d], ⟨init, ?_, rfl⟩, ⟨d, ?_, ?_, rfl⟩, rfl⟩, ?_⟩
    · intro x hx
      exact hds x (List.mem_append_left _ hx)
    · exact hds d (by simp)
    · simpa using hlast
    · simp

/-- An optional fraction, as the digits that it may leave out. -/
lemma matches_optional_fraction : Matches (optional fractionPattern) codes ↔ ∃ ds, IsDigits ds ∧
    ds.getLast? ≠ some 0 ∧ codes = if ds = [] then [] else 46 :: ds.map (48 + ·) := by
  rw [matches_optional, matches_fraction]
  constructor
  · rintro (⟨ds, hds, hne, hlast, rfl⟩ | rfl)
    · exact ⟨ds, hds, hlast, by rw [if_neg hne]⟩
    · exact ⟨[], nofun, nofun, rfl⟩
  · rintro ⟨ds, hds, hlast, rfl⟩
    split_ifs with hnil
    · exact Or.inr rfl
    · exact Or.inl ⟨ds, hds, hnil, hlast, rfl⟩

lemma matches_nonzero : Matches nonzeroPattern codes ↔ ∃ m : Numeral, m.value ≠ 0 ∧ codes = m.text := by
  simp only [nonzeroPattern, matches_add, matches_mul, matches_char, matches_digits,
    matches_nonzeroDigit, matches_fraction, matches_optional_fraction, ne_eq, Numeral.value_eq_zero]
  constructor
  · rintro (⟨_, _, rfl, ⟨ds, hds, hne, hlast, rfl⟩, rfl⟩ |
      ⟨_, _, ⟨d, hlt, hzero, rfl⟩, ⟨_, _, ⟨ds, hds, rfl⟩, ⟨es, hes, hlast, rfl⟩, rfl⟩, rfl⟩)
    · refine ⟨⟨[], ds, by simp [IsDigits], hds, by simp, hlast⟩, fun h => hne h.2, ?_⟩
      rw [Numeral.text, if_pos rfl, if_neg hne]
    · refine ⟨⟨d :: ds, es, ?_, hes, by simpa using hzero, hlast⟩, fun h => absurd h.1 (List.cons_ne_nil _ _), ?_⟩
      · intro x hx
        rcases List.mem_cons.mp hx with rfl | hx
        · exact hlt
        · exact hds x hx
      · rw [Numeral.text, if_neg (List.cons_ne_nil d ds)]
        simp
  · rintro ⟨m, hne, rfl⟩
    rcases hwhole : m.whole with _ | ⟨d, ds⟩
    · have hfraction : m.fraction ≠ [] := fun h => hne ⟨hwhole, h⟩
      refine Or.inl ⟨[48], _, rfl, ⟨m.fraction, m.isDigits_fraction, hfraction, m.last_fraction, rfl⟩, ?_⟩
      rw [Numeral.text, if_pos hwhole, if_neg hfraction]
    · have hdigits := m.isDigits_whole
      have hhead := m.head_whole
      rw [hwhole] at hdigits hhead
      refine Or.inr ⟨[48 + d], _, ⟨d, hdigits d List.mem_cons_self, ?_, rfl⟩, ⟨ds.map (48 + ·), _,
        ⟨ds, fun x hx => hdigits x (List.mem_cons_of_mem _ hx), rfl⟩,
        ⟨m.fraction, m.isDigits_fraction, m.last_fraction, rfl⟩, rfl⟩, ?_⟩
      · simpa using hhead
      · rw [Numeral.text, hwhole, if_neg (List.cons_ne_nil d ds)]
        simp

lemma text_of_value_eq_zero {m : Numeral} (h : m.value = 0) : m.text = [48] := by
  obtain ⟨hwhole, hfraction⟩ := Numeral.value_eq_zero.mp h
  rw [Numeral.text, if_pos hwhole, if_pos hfraction]
  rfl

lemma matches_nonNegativeDecimal :
    Matches nonNegativeDecimalPattern codes ↔ ∃ m : Numeral, codes = m.text := by
  rw [nonNegativeDecimalPattern, matches_add, matches_char, matches_nonzero]
  constructor
  · rintro (rfl | ⟨m, -, rfl⟩)
    · exact ⟨⟨[], [], nofun, nofun, nofun, nofun⟩, rfl⟩
    · exact ⟨m, rfl⟩
  · rintro ⟨m, rfl⟩
    by_cases h : m.value = 0
    · exact Or.inl (text_of_value_eq_zero h)
    · exact Or.inr ⟨m, h, rfl⟩

lemma matches_decimal : Matches decimalPattern codes ↔
    (∃ m : Numeral, codes = m.text) ∨ ∃ m : Numeral, m.value ≠ 0 ∧ codes = 45 :: m.text := by
  rw [← matches_nonNegativeDecimal, nonNegativeDecimalPattern, decimalPattern, matches_add, matches_add,
    matches_mul]
  simp only [matches_optional, matches_char, matches_nonzero]
  constructor
  · rintro (rfl | ⟨_, _, rfl | rfl, ⟨m, hne, rfl⟩, rfl⟩)
    · exact Or.inl (Or.inl rfl)
    · exact Or.inr ⟨m, hne, rfl⟩
    · exact Or.inl (Or.inr ⟨m, hne, rfl⟩)
  · rintro ((rfl | ⟨m, hne, rfl⟩) | ⟨m, hne, rfl⟩)
    · exact Or.inl rfl
    · exact Or.inr ⟨[], _, Or.inr rfl, ⟨m, hne, rfl⟩, rfl⟩
    · exact Or.inr ⟨[45], _, Or.inl rfl, ⟨m, hne, rfl⟩, rfl⟩

lemma digitValues_map {ds : List ℕ} : digitValues (ds.map (48 + ·)) = ds := by
  rw [digitValues, List.map_map]
  have hback : ((· - 48) ∘ (48 + ·) : ℕ → ℕ) = id := by
    funext d
    exact Nat.add_sub_cancel_left 48 d
  rw [hback, List.map_id]

/-- Cutting a text at its point. -/
lemma magnitude_append {whole : List ℕ} (h : ∀ c ∈ whole, c ≠ 46) (fraction : List ℕ) :
    magnitude (whole ++ if fraction = [] then [] else 46 :: fraction.map (48 + ·)) =
      wholeValue (digitValues whole) + fractionValue fraction := by
  have hbefore : ∀ c ∈ whole, decide (c ≠ 46) = true := fun c hc => decide_eq_true (h c hc)
  rw [magnitude, List.takeWhile_append_of_pos hbefore, List.dropWhile_append_of_pos hbefore]
  by_cases hnil : fraction = []
  · rw [if_pos hnil, hnil]
    simp [digitValues]
  · rw [if_neg hnil, List.takeWhile_cons_of_neg (by simp), List.dropWhile_cons_of_neg (by simp),
      List.append_nil, List.tail_cons, digitValues_map]

lemma magnitude_text (m : Numeral) : magnitude m.text = m.value := by
  rw [Numeral.text, Numeral.value]
  by_cases hnil : m.whole = []
  · rw [if_pos hnil, magnitude_append (by simp), hnil]
    rfl
  · have hwhole : ∀ c ∈ m.whole.map (48 + ·), c ≠ 46 := by
      intro c hc
      obtain ⟨d, -, rfl⟩ := List.mem_map.mp hc
      omega
    rw [if_neg hnil, magnitude_append hwhole, digitValues_map]

/-- A text starts with a digit. -/
lemma head_text (m : Numeral) : ∃ d, m.text.head? = some (48 + d) := by
  rw [Numeral.text]
  rcases hwhole : m.whole with _ | ⟨d, ds⟩
  · exact ⟨0, rfl⟩
  · exact ⟨d, rfl⟩

lemma unsigned_text (m : Numeral) : m.text.head? ≠ some 45 ∧ unsigned m.text = m.text := by
  have hhead : m.text.head? ≠ some 45 := by
    obtain ⟨d, hd⟩ := head_text m
    rw [hd]
    intro h
    have := Option.some.inj h
    omega
  exact ⟨hhead, by rw [unsigned, if_neg hhead]⟩

lemma unsigned_neg_text (m : Numeral) : unsigned (45 :: m.text) = m.text := by
  rw [unsigned, if_pos List.head?_cons, List.tail_cons]

lemma denoted_text (m : Numeral) : denoted m.text = m.value := by
  rw [denoted, if_neg (unsigned_text m).1, (unsigned_text m).2, magnitude_text]

lemma denoted_neg_text (m : Numeral) : denoted (45 :: m.text) = -m.value := by
  rw [denoted, if_pos List.head?_cons, unsigned_neg_text, magnitude_text]

/-- An accepted text denotes the value of its numeral, with its sign. -/
lemma denoted_cases (h : Matches decimalPattern codes) : ∃ m : Numeral,
    (codes = m.text ∧ denoted codes = m.value) ∨
      (m.value ≠ 0 ∧ codes = 45 :: m.text ∧ denoted codes = -m.value) := by
  rcases matches_decimal.mp h with ⟨m, rfl⟩ | ⟨m, hne, rfl⟩
  · exact ⟨m, Or.inl ⟨rfl, denoted_text m⟩⟩
  · exact ⟨m, Or.inr ⟨hne, rfl, denoted_neg_text m⟩⟩

lemma isFinite_denoted (h : Matches decimalPattern codes) : IsFinite (denoted codes) := by
  obtain ⟨m, ⟨-, hvalue⟩ | ⟨-, -, hvalue⟩⟩ := denoted_cases h
  · rw [hvalue]
    exact m.isFinite_value
  · obtain ⟨n, k, hn⟩ := m.isFinite_value
    refine ⟨-n, k, ?_⟩
    rw [hvalue, hn]
    push_cast
    ring

lemma denoted_injective {a b : List ℕ} (ha : Matches decimalPattern a) (hb : Matches decimalPattern b)
    (h : denoted a = denoted b) : a = b := by
  obtain ⟨m, ⟨rfl, hm⟩ | ⟨hm0, rfl, hm⟩⟩ := denoted_cases ha
  · obtain ⟨n, ⟨rfl, hn⟩ | ⟨hn0, rfl, hn⟩⟩ := denoted_cases hb
    · rw [Numeral.value_injective (hm.symm.trans (h.trans hn))]
    · have hsum : m.value = -n.value := hm.symm.trans (h.trans hn)
      have := m.value_nonneg
      have := n.value_nonneg
      exact absurd (by linarith) hn0
  · obtain ⟨n, ⟨rfl, hn⟩ | ⟨hn0, rfl, hn⟩⟩ := denoted_cases hb
    · have hsum : -m.value = n.value := hm.symm.trans (h.trans hn)
      have := m.value_nonneg
      have := n.value_nonneg
      exact absurd (by linarith) hm0
    · have hsum : -m.value = -n.value := hm.symm.trans (h.trans hn)
      rw [Numeral.value_injective (neg_injective hsum)]

/-- Every number with a finite expansion is denoted by some accepted text. -/
lemma exists_denoted {x : ℚ} (h : IsFinite x) : ∃ codes, Matches decimalPattern codes ∧ denoted codes = x := by
  rcases le_or_gt 0 x with hx | hx
  · obtain ⟨m, rfl⟩ := Numeral.exists_value_eq h hx
    exact ⟨m.text, matches_decimal.mpr (Or.inl ⟨m, rfl⟩), denoted_text m⟩
  · obtain ⟨n, k, hn⟩ := h
    have hneg : IsFinite (-x) := ⟨-n, k, by rw [hn]; push_cast; ring⟩
    obtain ⟨m, hm⟩ := Numeral.exists_value_eq hneg (by linarith)
    refine ⟨45 :: m.text, matches_decimal.mpr (Or.inr ⟨m, ?_, rfl⟩), ?_⟩
    · rw [hm]
      linarith
    · rw [denoted_neg_text, hm, neg_neg]

/-- A fraction ends the text. -/
lemma getLast_text {m : Numeral} (h : m.fraction ≠ []) :
    ∃ d, d ≠ 0 ∧ m.text.getLast? = some (48 + d) := by
  obtain ⟨init, d, hfraction⟩ := (List.eq_nil_or_concat' m.fraction).resolve_left h
  have hlast := m.last_fraction
  rw [hfraction, List.getLast?_concat] at hlast
  refine ⟨d, fun hd => hlast (congrArg some hd), ?_⟩
  rw [Numeral.text, if_neg h, hfraction, List.map_append, ← List.cons_append, ← List.append_assoc]
  exact List.getLast?_concat

/-- Without a fraction there is no point. -/
lemma point_notMem_text {m : Numeral} (h : m.fraction = []) : 46 ∉ m.text := by
  rw [Numeral.text, if_pos h, List.append_nil]
  split_ifs
  · decide
  · intro hmem
    obtain ⟨d, -, hd⟩ := List.mem_map.mp hmem
    omega

lemma leadingZero_text {m : Numeral} {c : ℕ} {rest : List ℕ} (h : m.text = 48 :: c :: rest) : c = 46 := by
  rw [Numeral.text] at h
  rcases hwhole : m.whole with _ | ⟨d, ds⟩
  · rw [hwhole, if_pos rfl] at h
    have htail := (List.cons.inj h).2
    split_ifs at htail
    · cases htail
    · exact (List.cons.inj htail).1.symm
  · rw [hwhole, if_neg (List.cons_ne_nil d ds)] at h
    have hd : 48 + d = 48 := (List.cons.inj h).1
    obtain rfl : d = 0 := by omega
    exact absurd (congrArg List.head? hwhole) m.head_whole

lemma getLast_text_ne_point (m : Numeral) : m.text.getLast? ≠ some 46 := by
  intro h
  by_cases hnil : m.fraction = []
  · exact point_notMem_text hnil (List.mem_of_getLast? h)
  · obtain ⟨d, -, hlast⟩ := getLast_text hnil
    have hd : 48 + d = 46 := Option.some.inj (hlast.symm.trans h)
    omega

lemma trailingZero_text {m : Numeral} (hpoint : 46 ∈ m.text) : m.text.getLast? ≠ some 48 := by
  intro h
  by_cases hnil : m.fraction = []
  · exact point_notMem_text hnil hpoint
  · obtain ⟨d, hne, hlast⟩ := getLast_text hnil
    have hd : 48 + d = 48 := Option.some.inj (hlast.symm.trans h)
    omega

lemma head_text_ne_point (m : Numeral) : m.text.head? ≠ some 46 := by
  obtain ⟨d, hd⟩ := head_text m
  rw [hd]
  intro h
  have := Option.some.inj h
  omega

lemma isPlain_text (m : Numeral) : IsPlain m.text := by
  have hunsigned := (unsigned_text m).2
  refine ⟨?_, ?_, trailingZero_text, getLast_text_ne_point m, ?_⟩
  · intro c hc
    have := Numeral.mem_text hc
    omega
  · intro c rest h
    rw [hunsigned] at h
    exact leadingZero_text h
  · rw [hunsigned]
    exact head_text_ne_point m

lemma isPlain_neg_text (m : Numeral) : IsPlain (45 :: m.text) := by
  have hunsigned := unsigned_neg_text m
  have hlast : (45 :: m.text).getLast? = m.text.getLast? := by
    obtain ⟨d, hd⟩ := head_text m
    rcases htext : m.text with _ | ⟨c, codes⟩
    · rw [htext] at hd
      cases hd
    · rw [List.getLast?_cons_cons]
  refine ⟨?_, ?_, ?_, ?_, ?_⟩
  · intro c hc
    rcases List.mem_cons.mp hc with rfl | hc
    · exact Or.inr (Or.inl rfl)
    · have := Numeral.mem_text hc
      omega
  · intro c rest h
    rw [hunsigned] at h
    exact leadingZero_text h
  · intro hpoint
    rw [hlast]
    exact trailingZero_text (by simpa using hpoint)
  · rw [hlast]
    exact getLast_text_ne_point m
  · rw [hunsigned]
    exact head_text_ne_point m

/-- Under the pattern each number with a finite expansion has exactly one text, each text denotes
such a number and is plain, equal texts are equal numbers, zero is `0`, and the pattern of the
numbers that are not negative accepts the texts of those. -/
theorem decimal_canonical :
    (∀ x : ℚ, IsFinite x → ∃! codes, Matches decimalPattern codes ∧ denoted codes = x) ∧
      (∀ codes, Matches decimalPattern codes → IsFinite (denoted codes) ∧ IsPlain codes) ∧
      (∀ a b, Matches decimalPattern a → Matches decimalPattern b →
        (a = b ↔ denoted a = denoted b)) ∧
      (∀ codes, Matches decimalPattern codes → (denoted codes = 0 ↔ codes = (Str.ofString "0").codes)) ∧
      ∀ codes, Matches nonNegativeDecimalPattern codes ↔
        Matches decimalPattern codes ∧ 0 ≤ denoted codes := by
  have hzero : Matches decimalPattern (Str.ofString "0").codes := by decide +kernel
  refine ⟨?_, fun codes h => ⟨isFinite_denoted h, ?_⟩, ?_, ?_, ?_⟩
  · intro x hx
    obtain ⟨codes, hmatch, hvalue⟩ := exists_denoted hx
    refine ⟨codes, ⟨hmatch, hvalue⟩, ?_⟩
    rintro other ⟨hother, hsame⟩
    exact denoted_injective hother hmatch (hsame.trans hvalue.symm)
  · obtain ⟨m, ⟨rfl, -⟩ | ⟨-, rfl, -⟩⟩ := denoted_cases h
    · exact isPlain_text m
    · exact isPlain_neg_text m
  · intro a b ha hb
    exact ⟨congrArg denoted, denoted_injective ha hb⟩
  · intro codes h
    have hvalue : denoted (Str.ofString "0").codes = 0 := by decide +kernel
    constructor
    · intro hdenoted
      exact denoted_injective h hzero (hdenoted.trans hvalue.symm)
    · rintro rfl
      exact hvalue
  · intro codes
    rw [matches_nonNegativeDecimal]
    constructor
    · rintro ⟨m, rfl⟩
      refine ⟨matches_decimal.mpr (Or.inl ⟨m, rfl⟩), ?_⟩
      rw [denoted_text]
      exact m.value_nonneg
    · rintro ⟨hmatch, hnonneg⟩
      obtain ⟨m, ⟨rfl, -⟩ | ⟨hne, rfl, hvalue⟩⟩ := denoted_cases hmatch
      · exact ⟨m, rfl⟩
      · have := m.value_nonneg
        exact absurd (by linarith) hne

example : Matches decimalPattern (Str.ofString "-0.25").codes ∧
    ¬Matches decimalPattern (Str.ofString "10.0").codes ∧
    ¬Matches decimalPattern (Str.ofString "-0").codes := by decide +kernel

end Pentagon5.Contracts
