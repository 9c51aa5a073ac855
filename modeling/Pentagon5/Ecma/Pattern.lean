import Mathlib.Computability.RegularExpressions

/-!
# Anchored patterns

A pattern `/^…$/` without flags matches a whole string, so it is a regular expression over code
units whose language the string belongs to. `oneOf` is a character class, `P ^ n` the quantifier
`{n}`, `P.star` the quantifier `*` and `optional P` the quantifier `?`.
-/

namespace Pentagon5.Ecma

open RegularExpression

/-- A character class by its members. -/
def oneOf (members : List ℕ) : RegularExpression ℕ :=
  members.foldr (fun c P => char c + P) 0

def optional (P : RegularExpression ℕ) : RegularExpression ℕ := P + 1

def Matches (P : RegularExpression ℕ) (codes : List ℕ) : Prop := codes ∈ P.matches'

instance (P : RegularExpression ℕ) : DecidablePred (Matches P) :=
  fun codes => decidable_of_iff (P.rmatch codes = true) (rmatch_iff_matches' P codes)

variable {P Q : RegularExpression ℕ} {codes members : List ℕ}

lemma matches_mul : Matches (P * Q) codes ↔ ∃ a b, Matches P a ∧ Matches Q b ∧ codes = a ++ b := by
  unfold Matches
  rw [matches'_mul, Language.mem_mul]
  constructor
  · rintro ⟨a, ha, b, hb, rfl⟩
    exact ⟨a, b, ha, hb, rfl⟩
  · rintro ⟨a, b, ha, hb, rfl⟩
    exact ⟨a, ha, b, hb, rfl⟩

lemma matches_add : Matches (P + Q) codes ↔ Matches P codes ∨ Matches Q codes := by
  unfold Matches
  rw [matches'_add, Language.mem_add]

lemma matches_optional : Matches (optional P) codes ↔ Matches P codes ∨ codes = [] := by
  rw [optional, matches_add]
  exact Iff.rfl

lemma matches_char {c : ℕ} : Matches (char c) codes ↔ codes = [c] := by
  unfold Matches
  rw [matches'_char]
  exact Set.mem_singleton_iff

lemma matches_oneOf : Matches (oneOf members) codes ↔ ∃ c ∈ members, codes = [c] := by
  induction members with
  | nil =>
    change codes ∈ (0 : RegularExpression ℕ).matches' ↔ _
    rw [matches'_zero]
    simp [Language.notMem_zero]
  | cons c members ih =>
    change codes ∈ (char c + oneOf members).matches' ↔ _
    rw [matches'_add, Language.mem_add, matches'_char]
    rw [Matches] at ih
    rw [ih]
    simp only [List.mem_cons, exists_eq_or_imp]
    exact Iff.rfl

/-- A class repeated any number of times matches the strings of members. -/
lemma matches_oneOf_star : Matches (oneOf members).star codes ↔ ∀ c ∈ codes, c ∈ members := by
  have hone : ∀ codes, codes ∈ (oneOf members).matches' ↔ ∃ c ∈ members, codes = [c] :=
    fun codes => matches_oneOf
  unfold Matches
  rw [matches'_star, Language.mem_kstar]
  constructor
  · rintro ⟨parts, rfl, hparts⟩ c hc
    obtain ⟨part, hpart, hc⟩ := List.mem_flatten.mp hc
    obtain ⟨d, hd, rfl⟩ := (hone part).mp (hparts part hpart)
    rwa [List.mem_singleton.mp hc]
  · intro h
    refine ⟨codes.map fun c => [c], (List.flatMap_singleton' codes).symm, ?_⟩
    intro part hpart
    obtain ⟨c, hc, rfl⟩ := List.mem_map.mp hpart
    exact (hone [c]).mpr ⟨c, h c hc, rfl⟩

/-- A class repeated `n` times matches the strings of `n` members. -/
lemma matches_oneOf_pow (n : ℕ) :
    Matches (oneOf members ^ n) codes ↔ codes.length = n ∧ ∀ c ∈ codes, c ∈ members := by
  induction n generalizing codes with
  | zero =>
    unfold Matches
    rw [matches'_pow, pow_zero, Language.mem_one]
    constructor
    · rintro rfl
      simp
    · rintro ⟨h, -⟩
      exact List.eq_nil_of_length_eq_zero h
  | succ n ih =>
    have hsucc : Matches (oneOf members ^ (n + 1)) codes ↔
        Matches (oneOf members * oneOf members ^ n) codes := by
      unfold Matches
      rw [matches'_pow, matches'_mul, matches'_pow, pow_succ']
    rw [hsucc, matches_mul]
    constructor
    · rintro ⟨a, b, ha, hb, rfl⟩
      obtain ⟨c, hc, rfl⟩ := matches_oneOf.mp ha
      obtain ⟨hlen, hall⟩ := ih.mp hb
      refine ⟨by simp [hlen], ?_⟩
      intro x hx
      rcases List.mem_cons.mp hx with rfl | hx
      · exact hc
      · exact hall x hx
    · rintro ⟨hlen, hall⟩
      rcases codes with _ | ⟨c, codes⟩
      · simp at hlen
      · refine ⟨[c], codes, matches_oneOf.mpr ⟨c, hall c List.mem_cons_self, rfl⟩, ?_, rfl⟩
        exact ih.mpr ⟨by simpa using hlen, fun x hx => hall x (List.mem_cons_of_mem _ hx)⟩

end Pentagon5.Ecma
