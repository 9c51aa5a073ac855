import Pentagon5.Python.Text
import Pentagon5.Web.Form

/-!
# Python's form encoding is read back

The parser of form-encoded text undoes `urlencode`: every character of every name and value comes
back, whatever it is.
-/

namespace Pentagon5.Python

open Web

/-- The bytes of what `quote_plus` writes for a byte. -/
def spellByte (b : UInt8) : List UInt8 := (quoteByte b).flatMap String.utf8EncodeChar

lemma encode_eq (text : String) : encode text = text.toList.flatMap String.utf8EncodeChar := by
  rw [← encode_ofList, String.ofList_toList]

lemma encode_append (a b : String) : encode (a ++ b) = encode a ++ encode b := by
  rw [encode_eq, encode_eq, encode_eq, String.toList_append, List.flatMap_append]

lemma encode_quotePlus (text : String) : encode (quotePlus text) = (encode text).flatMap spellByte := by
  rw [quotePlus, ofChars_eq, encode_ofList, List.flatMap_assoc]
  rfl

lemma upperHexDigit_spelled : ∀ k < 16, ∃ digit, String.utf8EncodeChar (upperHexDigit k) = [digit] ∧
    Form.hexValue digit = some k := by
  intro k hk
  have hall : ∀ k < 16, (String.utf8EncodeChar (upperHexDigit k)).length = 1 ∧
      (String.utf8EncodeChar (upperHexDigit k)).head?.bind Form.hexValue = some k := by decide
  obtain ⟨hlength, hvalue⟩ := hall k hk
  obtain ⟨digit, hdigit⟩ := List.length_eq_one_iff.mp hlength
  rw [hdigit] at hvalue
  exact ⟨digit, hdigit, hvalue⟩

lemma spelled_plainByte : ∀ n < 256,
    ((Char.ofNat n).isAlphanum ∨ Char.ofNat n ∈ ['_', '.', '-', '~']) →
      String.utf8EncodeChar (Char.ofNat n) = [UInt8.ofNat n] ∧
        UInt8.ofNat n ∉ [Form.ampersand, Form.equals, Form.plus, Form.percent] := by
  decide +kernel

lemma eq_space : ∀ n < 256, Char.ofNat n = ' ' → UInt8.ofNat n = Form.space := by decide +kernel

/-- `quote_plus` spells each byte in a way that is read back. -/
lemma spells_spellByte (b : UInt8) : Form.Spells b (spellByte b) := by
  have hlt : b.toNat < 256 := b.toNat_lt
  unfold spellByte quoteByte
  dsimp only
  split
  · next hplain =>
    obtain ⟨hspelled, hnot⟩ := spelled_plainByte b.toNat hlt hplain
    rw [UInt8.ofNat_toNat] at hspelled hnot
    rw [List.flatMap_singleton, hspelled]
    exact .byte hnot
  split
  · next hspace =>
    have hb := eq_space b.toNat hlt hspace
    rw [UInt8.ofNat_toNat] at hb
    exact .plus hb
  · obtain ⟨high, hhigh, hx⟩ := upperHexDigit_spelled (b.toNat / 16) (by omega)
    obtain ⟨low, hlow, hy⟩ := upperHexDigit_spelled (b.toNat % 16) (by omega)
    rw [List.flatMap_cons, List.flatMap_cons, List.flatMap_singleton, hhigh, hlow]
    refine .percent hx hy ?_
    rw [Nat.div_add_mod', UInt8.ofNat_toNat]

lemma encode_pair (key value : String) :
    encode (quotePlus key ++ "=" ++ quotePlus value) =
      Form.spelledPair spellByte (key.toList, value.toList) := by
  rw [encode_append, encode_append, encode_quotePlus, encode_quotePlus, encode_eq key, encode_eq value,
    List.append_assoc]
  rfl

lemma encode_urlencode (query : List (String × String)) :
    encode (urlencode query) = [Form.ampersand].intercalate
      ((query.map fun (key, value) => (key.toList, value.toList)).map (Form.spelledPair spellByte)) := by
  rw [urlencode]
  induction query with
  | nil => rfl
  | cons pair query ih =>
    cases query with
    | nil =>
      simp only [List.map_cons, List.map_nil, String.intercalate_singleton, List.intercalate_singleton]
      exact encode_pair pair.1 pair.2
    | cons next query =>
      simp only [List.map_cons] at ih ⊢
      rw [String.intercalate_cons_cons, encode_append, encode_append, ih, encode_pair,
        List.intercalate_cons_cons]
      rfl

lemma encode_urlencode_cons (name value : String) (pair : String × String)
    (others : List (String × String)) :
    encode (urlencode ((name, value) :: pair :: others)) =
      Form.spelledPair spellByte (name.toList, value.toList) ++
        Form.ampersand :: encode (urlencode (pair :: others)) := by
  simp only [encode_urlencode, List.map_cons, List.intercalate_cons_cons, List.append_assoc,
    List.singleton_append]

/-- The characters that `urlencode` writes. -/
def isFormChar (c : Char) : Bool := c.isAlphanum ∨ c ∈ ['_', '.', '-', '~', '+', '%', '&', '=']

lemma isFormChar_quoteByte (b : UInt8) : ∀ c ∈ quoteByte b, isFormChar c = true := by
  have hall : ∀ n < 256, (quoteByte (UInt8.ofNat n)).all isFormChar = true := by decide +kernel
  have hb := hall b.toNat b.toNat_lt
  rwa [UInt8.ofNat_toNat, List.all_eq_true] at hb

lemma isFormChar_quotePlus (text : String) : ∀ c ∈ (quotePlus text).toList, isFormChar c = true := by
  intro c hc
  rw [quotePlus, ofChars_eq, String.toList_ofList, List.mem_flatMap] at hc
  obtain ⟨b, -, hc⟩ := hc
  exact isFormChar_quoteByte b c hc

lemma isFormChar_urlencode (query : List (String × String)) :
    ∀ c ∈ (urlencode query).toList, isFormChar c = true := by
  have hpair (pair : String × String) :
      ∀ c ∈ (quotePlus pair.1 ++ "=" ++ quotePlus pair.2).toList, isFormChar c = true := by
    intro c hc
    simp only [String.toList_append, List.mem_append] at hc
    rcases hc with (hc | hc) | hc
    · exact isFormChar_quotePlus _ c hc
    · rw [List.mem_singleton.mp hc]
      decide
    · exact isFormChar_quotePlus _ c hc
  rw [urlencode]
  induction query with
  | nil => exact nofun
  | cons pair query ih =>
    cases query with
    | nil =>
      rw [List.map_singleton, String.intercalate_singleton]
      exact hpair pair
    | cons next query =>
      intro c hc
      rw [List.map_cons, List.map_cons, String.intercalate_cons_cons, String.toList_append,
        String.toList_append, List.mem_append, List.mem_append] at hc
      rcases hc with (hc | hc) | hc
      · exact hpair pair c hc
      · rw [List.mem_singleton.mp hc]
        decide
      · exact ih c hc

/-- What `urlencode` writes is parsed to the names and the values. -/
theorem parse_urlencode (query : List (String × String)) :
    Form.parse (encode (urlencode query)) =
      query.map fun (key, value) => (key.toList, value.toList) := by
  rw [encode_urlencode, Form.parse_spelled spells_spellByte]

end Pentagon5.Python
