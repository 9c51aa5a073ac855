import Mathlib.Data.List.Basic
import Mathlib.Data.List.Lex
import Mathlib.Data.Nat.Notation

/-!
# Python text

A Python `str` is a sequence of code points that may hold surrogates, and a Lean `String` is
one that holds none. Text from a request or from the database is a `String`; only values that
a JSON document spells with escapes need the wider type `Str`.
-/

namespace Pentagon5.Python

/-- `text.encode()`. -/
def encode (text : String) : List UInt8 := text.toByteArray.data.toList

def isAscii (data : List UInt8) : Bool := data.all (fun b => b.toNat < 128)

def asciiChars (data : List UInt8) : List Char := data.map fun b => Char.ofNat b.toNat

/-- The text with these characters. -/
def ofChars (cs : List Char) : String :=
  ⟨⟨⟨cs.flatMap String.utf8EncodeChar⟩⟩, ⟨cs, by simp [ByteArray.ext_iff, List.utf8Encode]⟩⟩

@[simp] lemma ofChars_eq (cs : List Char) : ofChars cs = String.ofList cs := by
  simp [← String.toByteArray_inj, ofChars, ByteArray.ext_iff, List.utf8Encode]

/-- `data.decode()`; `none` where it raises `UnicodeDecodeError`. -/
def decode (data : List UInt8) : Option String :=
  if isAscii data then some (ofChars (asciiChars data)) else String.fromUTF8? ⟨data.toArray⟩

/-- The characters of a text: its bytes, where these are ASCII. -/
def chars (text : String) : List Char :=
  if isAscii (encode text) then asciiChars (encode text) else text.toList

lemma encode_ofList (cs : List Char) :
    encode (String.ofList cs) = cs.flatMap String.utf8EncodeChar := by
  simp [encode, List.utf8Encode]

lemma utf8EncodeChar_ascii {c : Char} (h : ∀ b ∈ String.utf8EncodeChar c, b.toNat < 128) :
    asciiChars (String.utf8EncodeChar c) = [c] := by
  by_cases hc : c.toNat ≤ 127
  · have hmod : c.toNat % 256 = c.toNat := Nat.mod_eq_of_lt (by omega)
    simp [String.utf8EncodeChar, hc, asciiChars, hmod]
  · unfold String.utf8EncodeChar at h
    rw [Char.toNat_val, if_neg hc] at h
    split at h
    · simp at h
      omega
    · split at h <;> (simp at h; omega)

lemma isAscii_encode_ofList {cs : List Char} (h : ∀ c ∈ cs, c.toNat < 128) :
    isAscii (encode (String.ofList cs)) = true := by
  simp only [encode_ofList, isAscii, List.all_eq_true, List.mem_flatMap, decide_eq_true_eq]
  rintro b ⟨c, hc, hb⟩
  have hlt := h c hc
  have hle : c.toNat ≤ 127 := by omega
  have hmod : c.toNat % 256 = c.toNat := Nat.mod_eq_of_lt (by omega)
  simp only [String.utf8EncodeChar, Char.toNat_val, if_pos hle, List.mem_singleton] at hb
  rw [hb, UInt8.toNat_ofNat', hmod]
  exact hlt

lemma asciiChars_encode {text : String} (h : isAscii (encode text) = true) :
    asciiChars (encode text) = text.toList := by
  rw [← String.ofList_toList (s := text), encode_ofList] at h ⊢
  rw [String.toList_ofList]
  generalize text.toList = cs at h
  induction cs with
  | nil => rfl
  | cons c cs ih =>
    simp only [isAscii, List.flatMap_cons, List.all_append, Bool.and_eq_true, List.all_eq_true,
      decide_eq_true_eq] at h
    have hcs : asciiChars (cs.flatMap String.utf8EncodeChar) = cs :=
      ih (by simpa only [isAscii, List.all_eq_true, decide_eq_true_eq] using h.2)
    have hc := utf8EncodeChar_ascii h.1
    simp only [asciiChars, List.flatMap_cons, List.map_append] at hcs hc ⊢
    rw [hc, hcs]
    rfl

@[simp] lemma chars_eq (text : String) : chars text = text.toList := by
  unfold chars
  split
  · next h => exact asciiChars_encode h
  · rfl

@[simp] lemma decode_encode (text : String) : decode (encode text) = some text := by
  unfold decode
  split
  · next h => rw [ofChars_eq, asciiChars_encode h, String.ofList_toList]
  · have hvalid : text.toByteArray.IsValidUTF8 := text.isValidUTF8
    exact dif_pos hvalid

/-- A `str` by its code points. -/
structure Str where
  codes : List ℕ
deriving DecidableEq

namespace Str

def ofString (s : String) : Str := ⟨(chars s).map Char.toNat⟩

instance : Coe String Str := ⟨ofString⟩

@[simp] lemma ofString_codes (s : String) : (ofString s).codes = s.toList.map Char.toNat := by
  simp [ofString]

instance : Append Str := ⟨fun a b => ⟨a.codes ++ b.codes⟩⟩

@[simp] lemma codes_append (a b : Str) : (a ++ b).codes = a.codes ++ b.codes := rfl

lemma ofString_append (a b : String) : ofString (a ++ b) = ofString a ++ ofString b := by
  have hcodes : (ofString (a ++ b)).codes = (ofString a ++ ofString b).codes := by
    rw [codes_append, ofString_codes, ofString_codes, ofString_codes, String.toList_append,
      List.map_append]
  exact congrArg mk hcodes

lemma toNat_injective : Function.Injective Char.toNat := by
  intro a b h
  rw [← Char.ofNat_toNat a, ← Char.ofNat_toNat b, h]

lemma ofString_injective : Function.Injective ofString := by
  intro a b h
  have hl : a.toList.map Char.toNat = b.toList.map Char.toNat := by
    simpa using congrArg codes h
  exact String.toList_inj.mp (List.map_injective_iff.mpr toNat_injective hl)

/-- Texts are ordered by their code points. -/
instance : LinearOrder Str := LinearOrder.lift' codes fun ⟨_⟩ ⟨_⟩ h => by simpa using h

@[simp] lemma ofString_inj {a b : String} : ofString a = ofString b ↔ a = b :=
  ofString_injective.eq_iff

/-- The text as a `String`; `none` where `str.encode` raises `UnicodeEncodeError`. -/
def encode? (s : Str) : Option String :=
  if s.codes.all (fun n => n.isValidChar) then some (ofChars (s.codes.map Char.ofNat))
  else none

@[simp] lemma encode?_ofString (s : String) : (ofString s).encode? = some s := by
  have hvalid : (s.toList.map Char.toNat).all (fun n => n.isValidChar) = true := by
    simp only [List.all_map, List.all_eq_true]
    intro c _
    exact decide_eq_true c.valid
  have hback : (s.toList.map Char.toNat).map Char.ofNat = s.toList := by
    rw [List.map_map, show Char.ofNat ∘ Char.toNat = id from funext Char.ofNat_toNat, List.map_id]
  simp only [encode?, ofString_codes, hvalid, if_true, hback, ofChars_eq, String.ofList_toList]

lemma encode?_eq_some {s : Str} {t : String} : s.encode? = some t ↔ s = t := by
  refine ⟨fun h => ?_, fun h => by rw [h, encode?_ofString]⟩
  unfold encode? at h
  split at h
  · next hvalid =>
    obtain rfl := Option.some.inj h
    have hcode : ∀ n ∈ s.codes, (Char.ofNat n).toNat = n := by
      intro n hn
      have hv : n.isValidChar := by simpa using List.all_eq_true.mp hvalid n hn
      rw [Char.ofNat, dif_pos hv]
      rfl
    have hback : (s.codes.map Char.ofNat).map Char.toNat = s.codes := by
      rw [List.map_map]
      exact (List.map_congr_left hcode).trans (List.map_id _)
    cases s
    simp only [ofString, ofChars_eq, chars_eq, String.toList_ofList, hback]
  · cases h

lemma map_utf8EncodeChar {n : ℕ} (h : n < 128) :
    (String.utf8EncodeChar (Char.ofNat n)).map UInt8.toNat = [n] := by
  have hall : ∀ n : Fin 128, (String.utf8EncodeChar (Char.ofNat n)).map UInt8.toNat = [n.val] := by
    decide
  exact hall ⟨n, h⟩

/-- ASCII text is encoded byte by byte. -/
lemma encode?_of_ascii {codes : List ℕ} (h : ∀ c ∈ codes, c < 128) :
    ∃ text, encode? ⟨codes⟩ = some text ∧ (encode text).map UInt8.toNat = codes := by
  have hvalid : codes.all (fun n => n.isValidChar) = true := by
    rw [List.all_eq_true]
    intro c hc
    have := h c hc
    exact decide_eq_true (Or.inl (by omega))
  refine ⟨String.ofList (codes.map Char.ofNat), ?_, ?_⟩
  · rw [encode?, if_pos hvalid, ofChars_eq]
  · rw [encode_ofList]
    clear hvalid
    induction codes with
    | nil => rfl
    | cons c codes ih =>
      rw [List.map_cons, List.flatMap_cons, List.map_append, map_utf8EncodeChar (h c List.mem_cons_self),
        ih fun x hx => h x (List.mem_cons_of_mem _ hx)]
      rfl

/-- `value.startswith(prefix)`. -/
def startsWith (s : Str) (start : String) : Bool :=
  (ofString start).codes.isPrefixOf s.codes

/-- `text.replace(old, new)`, with `skip` characters of an occurrence still to drop. -/
def replaceFrom (old new : List ℕ) : ℕ → List ℕ → List ℕ
  | _, [] => []
  | skip + 1, _ :: rest => replaceFrom old new skip rest
  | 0, c :: rest =>
    if old.isPrefixOf (c :: rest) then new ++ replaceFrom old new (old.length - 1) rest
    else c :: replaceFrom old new 0 rest

/-- `text.replace(old, new)`. -/
def replace (text : Str) (old new : String) : Str :=
  ⟨replaceFrom (ofString old).codes (ofString new).codes 0 text.codes⟩

lemma replaceFrom_append {c : ℕ} {old : List ℕ} {codes : List ℕ} (h : c ∉ codes)
    (new rest : List ℕ) :
    replaceFrom (c :: old) new 0 (codes ++ rest) = codes ++ replaceFrom (c :: old) new 0 rest := by
  induction codes with
  | nil => rfl
  | cons d codes ih =>
    have hd : ¬(c :: old).isPrefixOf (d :: (codes ++ rest)) = true := by
      rw [List.isPrefixOf_cons_cons, Bool.and_eq_true, beq_iff_eq]
      rintro ⟨rfl, -⟩
      exact h List.mem_cons_self
    rw [List.cons_append, replaceFrom, if_neg hd, ih fun hc => h (List.mem_cons_of_mem _ hc)]
    rfl

/-- The code points that `str.isspace` accepts. -/
def isSpace (n : ℕ) : Bool :=
  (9 ≤ n ∧ n ≤ 13) ∨ (28 ≤ n ∧ n ≤ 32) ∨ n = 0x85 ∨ n = 0xA0 ∨ n = 0x1680 ∨
    (0x2000 ≤ n ∧ n ≤ 0x200A) ∨ n = 0x2028 ∨ n = 0x2029 ∨ n = 0x202F ∨ n = 0x205F ∨ n = 0x3000

/-- `value.strip()`. -/
def strip (s : Str) : Str :=
  ⟨((s.codes.dropWhile isSpace).reverse.dropWhile isSpace).reverse⟩

end Str

def upperHexDigit (n : ℕ) : Char := Char.ofNat (if n < 10 then n + 48 else n + 55)

/-- `quote_plus` of one byte. -/
def quoteByte (b : UInt8) : List Char :=
  let c := Char.ofNat b.toNat
  if c.isAlphanum ∨ c ∈ ['_', '.', '-', '~'] then [c]
  else if c = ' ' then ['+']
  else ['%', upperHexDigit (b.toNat / 16), upperHexDigit (b.toNat % 16)]

def quotePlus (text : String) : String := ofChars ((encode text).flatMap quoteByte)

/-- `urllib.parse.urlencode` of a dictionary of strings. -/
def urlencode (query : List (String × String)) : String :=
  "&".intercalate (query.map fun (key, value) => quotePlus key ++ "=" ++ quotePlus value)

end Pentagon5.Python
