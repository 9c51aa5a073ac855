import Pentagon5.Auth.Evolution

/-!
# The texts of tokens

A token has four characters for every three random bytes and is spelled in the URL-safe alphabet.
-/

namespace Pentagon5.Auth

open Python Interleaving

variable {settings : AuthSettings} {crypto : Primitives} {c : State}

def isTokenChar (c : Char) : Bool := c.isAlphanum ∨ c = '-' ∨ c = '_'

lemma isTokenChar_symbol : ∀ n < 64, isTokenChar (Base64.symbol n) = true := by decide +kernel

lemma filter_encodeBytes (bytes : List UInt8) :
    ((Base64.encodeBytes bytes).filter (· ≠ '=')).length = (4 * bytes.length + 2) / 3 ∧
      ∀ c ∈ (Base64.encodeBytes bytes).filter (· ≠ '='), isTokenChar c = true := by
  fun_induction Base64.encodeBytes bytes with
  | case1 => exact ⟨rfl, by simp⟩
  | case2 a =>
    have ha := a.toNat_lt
    rw [Base64.filter_symbol (by omega), Base64.filter_symbol (by omega)]
    simp [isTokenChar_symbol _ (show a.toNat / 4 < 64 by omega),
      isTokenChar_symbol _ (show a.toNat % 4 * 16 < 64 by omega)]
  | case3 a b =>
    have ha := a.toNat_lt
    have hb := b.toNat_lt
    rw [Base64.filter_symbol (by omega), Base64.filter_symbol (by omega), Base64.filter_symbol (by omega)]
    simp [isTokenChar_symbol _ (show a.toNat / 4 < 64 by omega),
      isTokenChar_symbol _ (show a.toNat % 4 * 16 + b.toNat / 16 < 64 by omega),
      isTokenChar_symbol _ (show b.toNat % 16 * 4 < 64 by omega)]
  | case4 a b d rest ih =>
    have ha := a.toNat_lt
    have hb := b.toNat_lt
    have hd := d.toNat_lt
    rw [Base64.filter_symbol (by omega), Base64.filter_symbol (by omega), Base64.filter_symbol (by omega),
      Base64.filter_symbol (by omega)]
    simp only [List.length_cons, ih.1, List.forall_mem_cons]
    refine ⟨by omega, isTokenChar_symbol _ (by omega), isTokenChar_symbol _ (by omega),
      isTokenChar_symbol _ (by omega), isTokenChar_symbol _ (by omega), ih.2⟩

lemma length_tokenUrlsafe (bytes : List UInt8) : (tokenUrlsafe bytes).length = (4 * bytes.length + 2) / 3 := by
  rw [tokenUrlsafe, ofChars_eq, String.length_ofList]
  exact (filter_encodeBytes bytes).1

lemma isTokenChar_tokenUrlsafe (bytes : List UInt8) : ∀ c ∈ (tokenUrlsafe bytes).toList, isTokenChar c = true := by
  rw [tokenUrlsafe, ofChars_eq, String.toList_ofList]
  exact (filter_encodeBytes bytes).2

/-- What a run drew as a token of `n` bytes. -/
lemma drawn_text (hc : Run settings crypto c) {i n : ℕ} {token : String}
    (h : Did (own i c.history) (.randomToken n) token) :
    token.length = (4 * n + 2) / 3 ∧ ∀ c ∈ token.toList, isTokenChar c = true := by
  obtain ⟨e, he, -, hd⟩ := did_own.mp h
  obtain ⟨h₁, h₀, -, ⟨P⟩⟩ := hc.performed_mem he
  obtain rfl := Except.ok.inj (congrArg Prod.fst (performed_answer P hd))
  refine ⟨?_, isTokenChar_tokenUrlsafe _⟩
  rw [length_tokenUrlsafe, randomBytes, List.length_map, List.length_range]

lemma drawn_ne_empty (hc : Run settings crypto c) {i n : ℕ} (hn : 0 < n) {token : String}
    (h : Did (own i c.history) (.randomToken n) token) : token ≠ "" := by
  rintro rfl
  have hlen := (drawn_text hc h).1
  rw [String.length_empty] at hlen
  omega

end Pentagon5.Auth
