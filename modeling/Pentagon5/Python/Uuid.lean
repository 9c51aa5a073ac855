import Mathlib.Data.BitVec
import Mathlib.Tactic.Ring
import Pentagon5.Python.Text

/-!
# Python UUIDs

`uuid.UUID` parses leniently and prints canonically. A value is its 128-bit integer, and its text
is the 32 hexadecimal digits of that integer, most significant first, with four hyphens.
-/

namespace Pentagon5.Python

/-- The code point of a lowercase hexadecimal digit. -/
def hexCode (d : ℕ) : ℕ := if d < 10 then 48 + d else 87 + d

/-- The last `w` hexadecimal digits of `n`. -/
def nibbles : ℕ → ℕ → List ℕ
  | 0, _ => []
  | w + 1, n => nibbles w (n / 16) ++ [n % 16]

def ofNibbles (ds : List ℕ) : ℕ := ds.foldl (fun n d => 16 * n + d) 0

@[simp] lemma length_nibbles (w n : ℕ) : (nibbles w n).length = w := by
  induction w generalizing n with
  | zero => rfl
  | succ w ih => simp [nibbles, ih]

lemma lt_of_mem_nibbles {w n d : ℕ} (h : d ∈ nibbles w n) : d < 16 := by
  induction w generalizing n with
  | zero => cases h
  | succ w ih =>
    rw [nibbles, List.mem_append, List.mem_singleton] at h
    rcases h with h | rfl
    · exact ih h
    · omega

lemma ofNibbles_append (ds es : List ℕ) :
    ofNibbles (ds ++ es) = ofNibbles ds * 16 ^ es.length + ofNibbles es := by
  have key : ∀ (es : List ℕ) (n : ℕ), es.foldl (fun n d => 16 * n + d) n =
      n * 16 ^ es.length + ofNibbles es := by
    intro es
    induction es with
    | nil => intro n; simp [ofNibbles]
    | cons e es ih =>
      intro n
      have he : ofNibbles (e :: es) = (16 * 0 + e) * 16 ^ es.length + ofNibbles es := ih _
      rw [List.foldl_cons, ih, he, List.length_cons, pow_succ]
      ring
  rw [ofNibbles, List.foldl_append, key]
  rfl

lemma ofNibbles_lt {ds : List ℕ} (h : ∀ d ∈ ds, d < 16) : ofNibbles ds < 16 ^ ds.length := by
  induction ds using List.reverseRecOn with
  | nil => simp [ofNibbles]
  | append_singleton ds d ih =>
    have hd := h d (by simp)
    have hds := ih fun x hx => h x (List.mem_append_left _ hx)
    rw [ofNibbles_append, List.length_append, List.length_singleton, pow_succ]
    simp only [ofNibbles, List.foldl_cons, List.foldl_nil]
    simp only [ofNibbles] at hds
    omega

lemma ofNibbles_nibbles (w n : ℕ) : ofNibbles (nibbles w n) = n % 16 ^ w := by
  induction w generalizing n with
  | zero => simp [nibbles, ofNibbles, Nat.mod_one]
  | succ w ih =>
    rw [nibbles, ofNibbles_append, ih, pow_succ', Nat.mod_mul]
    simp only [List.length_singleton, ofNibbles, List.foldl_cons, List.foldl_nil]
    ring

lemma nibbles_ofNibbles {ds : List ℕ} (h : ∀ d ∈ ds, d < 16) :
    nibbles ds.length (ofNibbles ds) = ds := by
  induction ds using List.reverseRecOn with
  | nil => rfl
  | append_singleton ds d ih =>
    have hd := h d (by simp)
    have hlast : ofNibbles (ds ++ [d]) = 16 * ofNibbles ds + d := by
      simp [ofNibbles]
    rw [List.length_append, List.length_singleton, nibbles, hlast,
      show (16 * ofNibbles ds + d) / 16 = ofNibbles ds by omega,
      show (16 * ofNibbles ds + d) % 16 = d by omega,
      ih fun x hx => h x (List.mem_append_left _ hx)]

lemma nibbles_add (a b n : ℕ) : nibbles (a + b) n = nibbles a (n / 16 ^ b) ++ nibbles b n := by
  induction b generalizing n with
  | zero => simp [nibbles]
  | succ b ih =>
    rw [← Nat.add_assoc, nibbles, ih, nibbles, Nat.div_div_eq_div_mul, ← pow_succ',
      List.append_assoc]

/-- The decimal digits and the blanks of Unicode as ASCII; `decimal` is the value of a digit. -/
def toAscii (decimal : ℕ → Option ℕ) (c : ℕ) : ℕ :=
  if c < 128 then c
  else match decimal c with
    | some d => 48 + d
    | none => if Str.isSpace c then 32 else 63

def hexValue (c : ℕ) : Option ℕ :=
  if 48 ≤ c ∧ c ≤ 57 then some (c - 48)
  else if 97 ≤ c ∧ c ≤ 102 then some (c - 87)
  else if 65 ≤ c ∧ c ≤ 70 then some (c - 55)
  else none

/-- The digits after a first one, with single underscores between them. -/
def hexDigitsFrom : ℕ → List ℕ → Option ℕ
  | n, [] => some n
  | _, [95] => none
  | n, 95 :: c :: rest => (hexValue c).bind fun d => hexDigitsFrom (16 * n + d) rest
  | n, c :: rest => (hexValue c).bind fun d => hexDigitsFrom (16 * n + d) rest

def hexDigits : List ℕ → Option ℕ
  | [] => none
  | c :: rest => (hexValue c).bind fun d => hexDigitsFrom d rest

/-- A magnitude with an optional prefix `0x` or `0X`. -/
def hexMagnitude : List ℕ → Option ℕ
  | 48 :: x :: rest =>
    if x = 120 ∨ x = 88 then
      match rest with
      | 95 :: rest => hexDigits rest
      | rest => hexDigits rest
    else hexDigits (48 :: x :: rest)
  | codes => hexDigits codes

def isAsciiSpace (c : ℕ) : Bool := (9 ≤ c ∧ c ≤ 13) ∨ c = 32

/-- `int(text, 16)`; `none` where it raises `ValueError`. -/
def intBase16 (decimal : ℕ → Option ℕ) (codes : List ℕ) : Option ℤ :=
  let codes := ((codes.map (toAscii decimal)).dropWhile isAsciiSpace).reverse.dropWhile isAsciiSpace
  match codes.reverse with
  | 43 :: rest => (hexMagnitude rest).map fun n => (n : ℤ)
  | 45 :: rest => (hexMagnitude rest).map fun n => -(n : ℤ)
  | codes => (hexMagnitude codes).map fun n => (n : ℤ)

abbrev UUID := BitVec 128

namespace UUID

/-- `UUID(int=n)`; `none` where it raises `ValueError`. -/
def ofInt (n : ℤ) : Option UUID :=
  if 0 ≤ n ∧ n < 2 ^ 128 then some (BitVec.ofNat 128 n.toNat) else none

/-- `text.replace(pattern, "")`, with `skip` characters of an occurrence still to drop. -/
def remove (pattern : List ℕ) : ℕ → List ℕ → List ℕ
  | _, [] => []
  | skip + 1, _ :: rest => remove pattern skip rest
  | 0, c :: rest =>
    if pattern.isPrefixOf (c :: rest) then remove pattern (pattern.length - 1) rest
    else c :: remove pattern 0 rest

def isBrace (c : ℕ) : Bool := c = 123 ∨ c = 125

/-- `UUID(text)`. -/
def parse (decimal : ℕ → Option ℕ) (text : Str) : Option UUID :=
  let hex := remove (Str.ofString "uuid:").codes 0 (remove (Str.ofString "urn:").codes 0 text.codes)
  let hex := ((hex.dropWhile isBrace).reverse.dropWhile isBrace).reverse.filter (· ≠ 45)
  if hex.length ≠ 32 then none else (intBase16 decimal hex).bind ofInt

/-- Four hyphens between the digits. -/
def hyphenate (hex : List ℕ) : List ℕ :=
  hex.take 8 ++ 45 :: ((hex.drop 8).take 4 ++ 45 :: ((hex.drop 12).take 4 ++
    45 :: ((hex.drop 16).take 4 ++ 45 :: hex.drop 20)))

/-- `str(uuid)`. -/
def str (u : UUID) : Str := ⟨hyphenate ((nibbles 32 u.toNat).map hexCode)⟩

/-- `uuid.variant == uuid.RFC_4122`. -/
def isRfc4122 (u : UUID) : Bool := u.getLsbD 63 && !u.getLsbD 62

/-- `uuid.version`. -/
def version (u : UUID) : Option ℕ :=
  if u.isRfc4122 then some ((u.toNat >>> 76) % 16) else none

end UUID

lemma hexCode_cases {d : ℕ} (h : d < 16) :
    (48 ≤ hexCode d ∧ hexCode d ≤ 57) ∨ (97 ≤ hexCode d ∧ hexCode d ≤ 102) := by
  unfold hexCode
  split <;> omega

lemma hexValue_hexCode {d : ℕ} (h : d < 16) : hexValue (hexCode d) = some d := by
  unfold hexValue hexCode
  by_cases hd : d < 10
  · rw [if_pos hd, if_pos (by omega)]
    congr 1
    omega
  · rw [if_neg hd, if_neg (by omega), if_pos (by omega)]
    congr 1
    omega

/-- Lowercase hexadecimal digits. -/
def IsHex (codes : List ℕ) : Prop := ∀ c ∈ codes, (48 ≤ c ∧ c ≤ 57) ∨ (97 ≤ c ∧ c ≤ 102)

lemma isHex_map {ds : List ℕ} (h : ∀ d ∈ ds, d < 16) : IsHex (ds.map hexCode) := by
  intro c hc
  obtain ⟨d, hd, rfl⟩ := List.mem_map.mp hc
  exact hexCode_cases (h d hd)

lemma hexDigitsFrom_map {ds : List ℕ} (h : ∀ d ∈ ds, d < 16) (n : ℕ) :
    hexDigitsFrom n (ds.map hexCode) = some (ds.foldl (fun n d => 16 * n + d) n) := by
  induction ds generalizing n with
  | nil => rfl
  | cons d ds ih =>
    have hd := h d List.mem_cons_self
    have hne : hexCode d ≠ 95 := by
      have := hexCode_cases hd
      omega
    have hstep : hexDigitsFrom n (hexCode d :: ds.map hexCode) =
        (hexValue (hexCode d)).bind fun d => hexDigitsFrom (16 * n + d) (ds.map hexCode) := by
      rcases hrest : ds.map hexCode with _ | ⟨c, rest⟩ <;> simp [hexDigitsFrom, hne]
    rw [List.map_cons, hstep, hexValue_hexCode hd, Option.bind_some,
      ih (fun x hx => h x (List.mem_cons_of_mem _ hx)), List.foldl_cons]

lemma hexDigits_map {ds : List ℕ} (h : ∀ d ∈ ds, d < 16) (hne : ds ≠ []) :
    hexDigits (ds.map hexCode) = some (ofNibbles ds) := by
  rcases ds with _ | ⟨d, ds⟩
  · exact absurd rfl hne
  · rw [List.map_cons, hexDigits, hexValue_hexCode (h d List.mem_cons_self), Option.bind_some,
      hexDigitsFrom_map fun x hx => h x (List.mem_cons_of_mem _ hx)]
    simp [ofNibbles]

/-- A plain number has no prefix: its second digit is no `x`. -/
lemma hexMagnitude_of_isHex {codes : List ℕ} (h : IsHex codes) :
    hexMagnitude codes = hexDigits codes := by
  unfold hexMagnitude
  split
  · next x rest =>
    have hx := h x (by simp)
    rw [if_neg (by omega)]
  · rfl

lemma dropWhile_of_none {p : ℕ → Bool} {codes : List ℕ} (h : ∀ c ∈ codes, p c = false) :
    codes.dropWhile p = codes := by
  rcases codes with _ | ⟨c, codes⟩
  · rfl
  · rw [List.dropWhile_cons_of_neg (by simp [h c List.mem_cons_self])]

/-- `int(digits, 16)` of lowercase digits is their value. -/
lemma intBase16_map (decimal : ℕ → Option ℕ) (ds : List ℕ) (h : ∀ d ∈ ds, d < 16) (hne : ds ≠ []) :
    intBase16 decimal (ds.map hexCode) = some (ofNibbles ds : ℤ) := by
  have hhex := isHex_map h
  have hascii : (ds.map hexCode).map (toAscii decimal) = ds.map hexCode := by
    refine (List.map_congr_left fun c hc => ?_).trans (List.map_id _)
    have := hhex c hc
    rw [toAscii, if_pos (by omega), id]
  have hspace : ∀ c ∈ ds.map hexCode, isAsciiSpace c = false := by
    intro c hc
    have := hhex c hc
    simp only [isAsciiSpace, decide_eq_false_iff_not]
    omega
  have hstrip : (((ds.map hexCode).dropWhile isAsciiSpace).reverse.dropWhile isAsciiSpace).reverse =
      ds.map hexCode := by
    rw [dropWhile_of_none hspace, dropWhile_of_none (by simpa using hspace), List.reverse_reverse]
  have hvalue : hexMagnitude (ds.map hexCode) = some (ofNibbles ds) := by
    rw [hexMagnitude_of_isHex hhex, hexDigits_map h hne]
  simp only [intBase16, hascii, hstrip]
  split
  · next rest he => exact absurd (hhex 43 (by simp [he])) (by omega)
  · next rest he => exact absurd (hhex 45 (by simp [he])) (by omega)
  · rw [hvalue]
    rfl

namespace UUID

lemma remove_of_not_mem {u : ℕ} {pattern codes : List ℕ} (h : u ∉ codes) :
    remove (u :: pattern) 0 codes = codes := by
  induction codes with
  | nil => rfl
  | cons c codes ih =>
    have hc : (u == c) = false := by
      simpa using fun he : u = c => h (he ▸ List.mem_cons_self)
    rw [remove, List.isPrefixOf, hc, Bool.false_and, if_neg (by simp),
      ih fun hm => h (List.mem_cons_of_mem _ hm)]

lemma hyphenate_eq {a b c d e : List ℕ} (ha : a.length = 8) (hb : b.length = 4) (hc : c.length = 4)
    (hd : d.length = 4) :
    hyphenate (a ++ b ++ c ++ d ++ e) = a ++ 45 :: (b ++ 45 :: (c ++ 45 :: (d ++ 45 :: e))) := by
  simp [hyphenate, List.drop_append, ha, hb, hc, hd, List.drop_of_length_le]

/-- The groups of digits of a 128-bit number. -/
lemma nibbles_groups (n : ℕ) : nibbles 32 n =
    nibbles 8 (n / 16 ^ 24) ++ nibbles 4 (n / 16 ^ 20) ++ nibbles 4 (n / 16 ^ 16) ++
      nibbles 4 (n / 16 ^ 12) ++ nibbles 12 n := by
  rw [show 32 = 20 + 12 from rfl, nibbles_add, show 20 = 16 + 4 from rfl, nibbles_add,
    show 16 = 12 + 4 from rfl, nibbles_add, show 12 = 8 + 4 from rfl, nibbles_add]
  simp only [Nat.div_div_eq_div_mul, ← pow_add]

lemma str_eq (u : UUID) : u.str.codes =
    (nibbles 8 (u.toNat / 16 ^ 24)).map hexCode ++ 45 ::
      ((nibbles 4 (u.toNat / 16 ^ 20)).map hexCode ++ 45 ::
        ((nibbles 4 (u.toNat / 16 ^ 16)).map hexCode ++ 45 ::
          ((nibbles 4 (u.toNat / 16 ^ 12)).map hexCode ++ 45 :: (nibbles 12 u.toNat).map hexCode))) := by
  rw [str, nibbles_groups, List.map_append, List.map_append, List.map_append, List.map_append]
  apply hyphenate_eq <;> rw [List.length_map, length_nibbles]

lemma isHex_nibbles (w n : ℕ) : IsHex ((nibbles w n).map hexCode) :=
  isHex_map fun _ hd => lt_of_mem_nibbles hd

lemma filter_isHex {codes : List ℕ} (h : IsHex codes) : codes.filter (· ≠ 45) = codes := by
  rw [List.filter_eq_self]
  intro c hc
  have : c ≠ 45 := by
    have := h c hc
    omega
  simpa using this

lemma filter_str (u : UUID) : u.str.codes.filter (· ≠ 45) = (nibbles 32 u.toNat).map hexCode := by
  have hhyphen : ∀ rest : List ℕ, (45 :: rest).filter (· ≠ 45) = rest.filter (· ≠ 45) :=
    fun rest => List.filter_cons_of_neg (by simp)
  rw [str_eq, nibbles_groups]
  simp only [List.filter_append, hhyphen, filter_isHex (isHex_nibbles _ _), List.map_append, List.append_assoc]

lemma mem_str {u : UUID} {c : ℕ} (h : c ∈ u.str.codes) :
    c = 45 ∨ (48 ≤ c ∧ c ≤ 57) ∨ (97 ≤ c ∧ c ≤ 102) := by
  by_cases hc : c = 45
  · exact Or.inl hc
  · right
    have hm : c ∈ u.str.codes.filter (· ≠ 45) := List.mem_filter.mpr ⟨h, by simpa using hc⟩
    rw [filter_str] at hm
    exact isHex_nibbles 32 u.toNat c hm

@[simp] lemma length_str (u : UUID) : u.str.codes.length = 36 := by simp [str_eq]

lemma hyphen_mem_str (u : UUID) : 45 ∈ u.str.codes := by simp [str_eq]

/-- The text starts with a digit. -/
lemma head_str {u : UUID} {c : ℕ} {codes : List ℕ} (h : u.str.codes = c :: codes) : IsHex [c] := by
  have hdigits := isHex_nibbles 8 (u.toNat / 16 ^ 24)
  have hlength : ((nibbles 8 (u.toNat / 16 ^ 24)).map hexCode).length = 8 := by simp
  rw [str_eq] at h
  generalize (nibbles 8 (u.toNat / 16 ^ 24)).map hexCode = a at h hdigits hlength
  cases a with
  | nil => cases hlength
  | cons d a =>
    obtain rfl := (List.cons.inj h).1
    intro x hx
    exact hdigits x (List.mem_cons.mpr (Or.inl (List.mem_singleton.mp hx)))

/-- Parsing the text of a value gives the value back. -/
lemma parse_str (decimal : ℕ → Option ℕ) (u : UUID) : parse decimal u.str = some u := by
  have hu : 117 ∉ u.str.codes := by
    intro h
    have := mem_str h
    omega
  have hbrace : ∀ c ∈ u.str.codes, isBrace c = false := by
    intro c hc
    have := mem_str hc
    simp only [isBrace, decide_eq_false_iff_not]
    omega
  have hurn : remove (Str.ofString "urn:").codes 0 u.str.codes = u.str.codes := remove_of_not_mem hu
  have huuid : remove (Str.ofString "uuid:").codes 0 u.str.codes = u.str.codes :=
    remove_of_not_mem hu
  have hstrip : ((u.str.codes.dropWhile isBrace).reverse.dropWhile isBrace).reverse = u.str.codes := by
    rw [dropWhile_of_none hbrace, dropWhile_of_none (by simpa using hbrace), List.reverse_reverse]
  have hint := intBase16_map decimal (nibbles 32 u.toNat) (fun _ hd => lt_of_mem_nibbles hd)
    (List.ne_nil_of_length_eq_add_one (length_nibbles 32 u.toNat))
  have hlt : u.toNat < 2 ^ 128 := u.isLt
  have hof : ofInt (u.toNat : ℤ) = some u := by
    rw [ofInt, if_pos (by omega), Int.toNat_natCast, BitVec.ofNat_toNat, BitVec.setWidth_eq]
  simp only [parse, hurn, huuid, hstrip, filter_str]
  rw [if_neg (by simp), hint, Option.bind_some, ofNibbles_nibbles, Nat.mod_eq_of_lt (by omega), hof]

end UUID

end Pentagon5.Python
