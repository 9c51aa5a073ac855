import Pentagon5.Web.Utf8

/-!
# Form-encoded text

The parser of `application/x-www-form-urlencoded`: pieces between `&`, a name and a value on the two
sides of the first `=`, `+` for a space, percent-encoded bytes, and UTF-8 with replacement. Any
encoder that spells each byte in one of the ways the parser reads is undone by it.
-/

namespace Pentagon5.Web.Form

def ampersand : UInt8 := 38
def equals : UInt8 := 61
def plus : UInt8 := 43
def percent : UInt8 := 37
def space : UInt8 := 32

def hexValue (b : UInt8) : Option ℕ :=
  if 48 ≤ b.toNat ∧ b.toNat ≤ 57 then some (b.toNat - 48)
  else if 65 ≤ b.toNat ∧ b.toNat ≤ 70 then some (b.toNat - 55)
  else if 97 ≤ b.toNat ∧ b.toNat ≤ 102 then some (b.toNat - 87)
  else none

/-- A percent sign that no two hexadecimal digits follow stands for itself. -/
def percentDecode : List UInt8 → List UInt8
  | b :: high :: low :: rest =>
    if b = percent then
      match hexValue high, hexValue low with
      | some x, some y => UInt8.ofNat (x * 16 + y) :: percentDecode rest
      | _, _ => b :: percentDecode (high :: low :: rest)
    else b :: percentDecode (high :: low :: rest)
  | short => short

def plusToSpace (b : UInt8) : UInt8 := if b = plus then space else b

/-- The bytes that a part of a piece stands for. -/
def decodeBytes (text : List UInt8) : List UInt8 := percentDecode (text.map plusToSpace)

def decodePart (text : List UInt8) : List Char := Utf8.decode (decodeBytes text)

/-- The name and the value of a piece. -/
def parsePiece (piece : List UInt8) : List Char × List Char :=
  (decodePart (piece.takeWhile (· ≠ equals)), decodePart (piece.dropWhile (· ≠ equals)).tail)

def pieces (text : List UInt8) : List (List UInt8) := (text.splitOn ampersand).filter (· ≠ [])

def parse (text : List UInt8) : List (List Char × List Char) := (pieces text).map parsePiece

/-- An ampersand separates what stands before it from what follows. -/
theorem parse_append (text rest : List UInt8) :
    parse (text ++ ampersand :: rest) = parse text ++ parse rest := by
  rw [parse, pieces, List.splitOn_append_cons_self, List.filter_append, List.map_append]
  rfl

lemma parse_of_notMem {piece : List UInt8} (h : ampersand ∉ piece) (hne : piece ≠ []) :
    parse piece = [parsePiece piece] := by
  rw [parse, pieces, List.splitOn_eq_singleton h, List.filter_cons_of_pos (by simpa using hne)]
  rfl

lemma parsePiece_of_notMem {name : List UInt8} (h : equals ∉ name) (value : List UInt8) :
    parsePiece (name ++ equals :: value) = (decodePart name, decodePart value) := by
  have hall : ∀ b ∈ name, decide (b ≠ equals) = true := fun b hb => decide_eq_true fun he => h (he ▸ hb)
  rw [parsePiece, List.takeWhile_append_of_pos hall, List.dropWhile_append_of_pos hall,
    List.takeWhile_cons_of_neg (by simp), List.dropWhile_cons_of_neg (by simp), List.append_nil,
    List.tail_cons]

/-- The ways to spell a byte within a part: itself, a plus sign for a space, or a percent sign and
two hexadecimal digits. -/
inductive Spells (b : UInt8) : List UInt8 → Prop where
  | byte (h : b ∉ [ampersand, equals, plus, percent]) : Spells b [b]
  | plus (h : b = space) : Spells b [plus]
  | percent {high low : UInt8} {x y : ℕ} (hhigh : hexValue high = some x) (hlow : hexValue low = some y)
      (h : b = UInt8.ofNat (x * 16 + y)) : Spells b [percent, high, low]

section

variable {b : UInt8} {spelled : List UInt8}

lemma hexValue_ne {digit : UInt8} {x : ℕ} (h : hexValue digit = some x) :
    digit ∉ [ampersand, equals, plus, percent] := by
  intro hmem
  simp only [List.mem_cons, List.not_mem_nil, or_false] at hmem
  rcases hmem with rfl | rfl | rfl | rfl <;> cases h

lemma plusToSpace_of_hexValue {digit : UInt8} {x : ℕ} (h : hexValue digit = some x) :
    plusToSpace digit = digit := if_neg fun he => hexValue_ne h (by simp [he])

lemma percentDecode_cons_of_ne (h : b ≠ percent) (rest : List UInt8) :
    percentDecode (b :: rest) = b :: percentDecode rest := by
  rcases rest with - | ⟨high, - | ⟨low, rest⟩⟩
  · rfl
  · rfl
  · rw [percentDecode, if_neg h]

lemma percentDecode_spelled (h : Spells b spelled) (rest : List UInt8) :
    percentDecode (spelled.map plusToSpace ++ rest) = b :: percentDecode rest := by
  cases h with
  | byte hb =>
    have hplus : plusToSpace b = b := if_neg fun he => hb (by simp [he])
    rw [List.map_singleton, hplus, List.singleton_append,
      percentDecode_cons_of_ne fun he => hb (by simp [he])]
  | plus hb =>
    rw [hb]
    exact percentDecode_cons_of_ne (by decide) rest
  | percent hhigh hlow hb =>
    rw [List.map_cons, List.map_cons, List.map_singleton, plusToSpace_of_hexValue hhigh,
      plusToSpace_of_hexValue hlow, hb]
    have hsign : plusToSpace Form.percent = Form.percent := by decide
    rw [hsign, List.cons_append, List.cons_append, List.singleton_append, percentDecode, if_pos rfl]
    simp only [hhigh, hlow]

lemma notMem_of_spells (h : Spells b spelled) : ampersand ∉ spelled ∧ equals ∉ spelled := by
  have hpercent : percent ≠ ampersand ∧ percent ≠ equals := by decide
  cases h with
  | byte hb =>
    simp only [List.mem_cons, List.not_mem_nil, or_false, not_or] at hb
    simp only [List.mem_singleton]
    exact ⟨fun he => hb.1 he.symm, fun he => hb.2.1 he.symm⟩
  | plus hb => decide
  | percent hhigh hlow hb =>
    have h1 := hexValue_ne hhigh
    have h2 := hexValue_ne hlow
    simp only [List.mem_cons, List.not_mem_nil, or_false, not_or] at h1 h2 ⊢
    exact ⟨⟨hpercent.1.symm, Ne.symm h1.1, Ne.symm h2.1⟩,
      ⟨hpercent.2.symm, Ne.symm h1.2.1, Ne.symm h2.2.1⟩⟩

end

section

variable {spell : UInt8 → List UInt8} (hspell : ∀ b, Spells b (spell b))
include hspell

lemma decodeBytes_flatMap (data : List UInt8) : decodeBytes (data.flatMap spell) = data := by
  rw [decodeBytes]
  induction data with
  | nil => rfl
  | cons b data ih => rw [List.flatMap_cons, List.map_append, percentDecode_spelled (hspell b), ih]

lemma notMem_flatMap (data : List UInt8) :
    ampersand ∉ data.flatMap spell ∧ equals ∉ data.flatMap spell := by
  simp only [List.mem_flatMap, not_exists, not_and]
  exact ⟨fun b _ => (notMem_of_spells (hspell b)).1, fun b _ => (notMem_of_spells (hspell b)).2⟩

/-- A name and a value, spelled byte by byte. -/
def spelledPair (spell : UInt8 → List UInt8) (pair : List Char × List Char) : List UInt8 :=
  (pair.1.flatMap String.utf8EncodeChar).flatMap spell ++ equals ::
    (pair.2.flatMap String.utf8EncodeChar).flatMap spell

omit hspell in
lemma spelledPair_ne_nil (pair : List Char × List Char) : spelledPair spell pair ≠ [] :=
  List.append_ne_nil_of_right_ne_nil _ (List.cons_ne_nil _ _)

lemma notMem_spelledPair (pair : List Char × List Char) : ampersand ∉ spelledPair spell pair := by
  have hequals : ampersand ≠ equals := by decide
  rw [spelledPair, List.mem_append, List.mem_cons, not_or, not_or]
  exact ⟨(notMem_flatMap hspell _).1, hequals, (notMem_flatMap hspell _).1⟩

lemma parsePiece_spelledPair (pair : List Char × List Char) :
    parsePiece (spelledPair spell pair) = pair := by
  rw [spelledPair, parsePiece_of_notMem (notMem_flatMap hspell _).2, decodePart, decodePart,
    decodeBytes_flatMap hspell, decodeBytes_flatMap hspell, Utf8.decode_encode, Utf8.decode_encode]

/-- What was encoded is parsed. -/
theorem parse_spelled (pairs : List (List Char × List Char)) :
    parse ([ampersand].intercalate (pairs.map (spelledPair spell))) = pairs := by
  induction pairs with
  | nil => rfl
  | cons pair pairs ih =>
    have hpair : parse (spelledPair spell pair) = [pair] := by
      rw [parse_of_notMem (notMem_spelledPair hspell pair) (spelledPair_ne_nil pair),
        parsePiece_spelledPair hspell]
    cases pairs with
    | nil => rw [List.map_singleton, List.intercalate_singleton, hpair]
    | cons next pairs =>
      rw [List.map_cons, List.map_cons, List.intercalate_cons_cons, List.append_assoc,
        List.singleton_append, parse_append, hpair, ← List.map_cons, ih]
      rfl

end

section

variable {b : UInt8}

/-- A byte that cannot belong to an escape stays. -/
lemma mem_percentDecode (hhex : hexValue b = none) (hpercent : b ≠ percent) {text : List UInt8}
    (h : b ∈ text) : b ∈ percentDecode text := by
  have hdigit {digit : UInt8} {x : ℕ} (hx : hexValue digit = some x) : b ≠ digit := by
    rintro rfl
    rw [hhex] at hx
    cases hx
  induction text using percentDecode.induct with
  | case1 high low text x y hx hy ih =>
    rw [percentDecode, if_pos rfl]
    simp only [hx, hy]
    rcases List.mem_cons.mp h with hb | h
    · exact absurd hb hpercent
    rcases List.mem_cons.mp h with hb | h
    · exact absurd hb (hdigit hy)
    rcases List.mem_cons.mp h with hb | h
    · exact absurd hb (hdigit hx)
    · exact List.mem_cons_of_mem _ (ih h)
  | case2 high low text hnot ih =>
    rw [percentDecode, if_pos rfl]
    split
    · next hx hy => exact absurd hy (hnot _ _ hx)
    · exact List.mem_cons_of_mem _ (ih ((List.mem_cons.mp h).resolve_left hpercent))
  | case3 c high low text hc ih =>
    rw [percentDecode, if_neg hc]
    rcases List.mem_cons.mp h with rfl | h
    · exact List.mem_cons_self
    · exact List.mem_cons_of_mem _ (ih h)
  | case4 short hshort =>
    rw [percentDecode]
    · exact h
    · exact hshort

/-- An ASCII byte without a meaning of its own is decoded wherever it stands. -/
theorem mem_decodePart (hascii : b.toNat ≤ 0x7F) (hhex : hexValue b = none) (hpercent : b ≠ percent)
    (hplus : b ≠ plus) {text : List UInt8} (h : b ∈ text) : Char.ofNat b.toNat ∈ decodePart text := by
  apply Utf8.mem_decode hascii
  apply mem_percentDecode hhex hpercent
  exact List.mem_map.mpr ⟨b, h, if_neg hplus⟩

/-- Such a byte of a piece is decoded in its name or in its value. -/
lemma mem_parsePiece (hascii : b.toNat ≤ 0x7F) (hhex : hexValue b = none)
    (hsign : b ∉ [equals, plus, percent]) {piece : List UInt8} (h : b ∈ piece) :
    Char.ofNat b.toNat ∈ (parsePiece piece).1 ∨ Char.ofNat b.toNat ∈ (parsePiece piece).2 := by
  simp only [List.mem_cons, List.not_mem_nil, or_false, not_or] at hsign
  obtain ⟨hequals, hplus, hpercent⟩ := hsign
  rw [← List.takeWhile_append_dropWhile (p := (· ≠ equals)) (l := piece), List.mem_append] at h
  rcases h with h | h
  · exact Or.inl (mem_decodePart hascii hhex hpercent hplus h)
  · right
    apply mem_decodePart hascii hhex hpercent hplus
    have hhead := List.head?_dropWhile_not (· ≠ equals) piece
    cases hrest : piece.dropWhile (· ≠ equals) with
    | nil =>
      rw [hrest] at h
      cases h
    | cons c rest =>
      rw [hrest] at h hhead
      have hc : c = equals := by simpa using hhead
      rcases List.mem_cons.mp h with hb | h
      · exact absurd (hb.trans hc) hequals
      · exact h

/-- The last piece of a text begins after its last ampersand. -/
lemma exists_lastPiece (text : List UInt8) :
    ∃ front : List (List Char × List Char), ∃ last, ampersand ∉ last ∧
      ∀ rest, ampersand ∉ rest → last ++ rest ≠ [] →
        parse (text ++ rest) = front ++ [parsePiece (last ++ rest)] := by
  by_cases h : ampersand ∈ text
  · obtain ⟨last, front, htext, hnot⟩ := List.eq_append_cons_of_mem (List.mem_reverse.mpr h)
    have hsplit : text = front.reverse ++ ampersand :: last.reverse := by
      rw [← List.reverse_reverse text, htext, List.reverse_append, List.reverse_cons, List.append_assoc,
        List.singleton_append]
    refine ⟨parse front.reverse, last.reverse, by rwa [List.mem_reverse], fun rest hrest hne => ?_⟩
    rw [hsplit, List.append_assoc, List.cons_append, parse_append, parse_of_notMem (by simp [hnot, hrest]) hne]
  · refine ⟨[], text, h, fun rest hrest hne => ?_⟩
    exact parse_of_notMem (by simp [h, hrest]) hne

end

end Pentagon5.Web.Form
