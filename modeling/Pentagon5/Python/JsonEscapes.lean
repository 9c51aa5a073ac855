import Pentagon5.Python.JsonText

/-!
# Escapes in JSON texts

`json.dumps` with and without `ensure_ascii`. With it the text is one of ASCII characters, and the
decoder joins a high surrogate with a low one behind it; without it the text may hold surrogates.
-/

namespace Pentagon5.Python.Json

/-- A code point under `ensure_ascii`; a lone surrogate keeps its number. -/
def asciiEscape (n : ℕ) : List Char :=
  if n.isValidChar then escapeChar (Char.ofNat n) else unicodeEscape n

/-- A code point without `ensure_ascii`. -/
def plainEscape {α : Type} (lit : Char → α) (code : ℕ → α) (n : ℕ) : List α :=
  match shortEscapes.lookup (Char.ofNat n) with
  | some e => [lit '\\', lit e]
  | none => if n < 0x20 then (unicodeEscape n).map lit else [code n]

/-- `json.dumps(value, separators=(",", ":"))`. -/
def dumpsAscii (value : Json) : String := ofChars (write id asciiEscape value)

/-- `json.dumps(value, separators=(",", ":"), ensure_ascii=False)`. -/
def dumpsPlain (value : Json) : Str := ⟨write Char.toNat (plainEscape Char.toNat id) value⟩

variable {rest : List Char} {esc : ℕ → List Char}

lemma length_le_flatMap {codes : List ℕ} (hhead : ∀ n ∈ codes, ∃ c cs, esc n = c :: cs ∧ c ≠ '"') :
    codes.length ≤ (codes.flatMap esc).length := by
  induction codes with
  | nil => exact Nat.zero_le _
  | cons n codes ih =>
    obtain ⟨c, cs, hcs, -⟩ := hhead n List.mem_cons_self
    have hrest := ih fun m hm => hhead m (List.mem_cons_of_mem _ hm)
    rw [List.flatMap_cons, hcs, List.length_append, List.length_cons, List.length_cons]
    omega

lemma toNat_ofNat {n : ℕ} (h : n.isValidChar) : (Char.ofNat n).toNat = n := by
  rw [Char.ofNat, dif_pos h]
  rfl

def isHigh (n : ℕ) : Bool := 0xD800 ≤ n ∧ n ≤ 0xDBFF

def isLow (n : ℕ) : Bool := 0xDC00 ≤ n ∧ n ≤ 0xDFFF

/-- The text in which every high surrogate is joined with a low one behind it. -/
def joinPairs : List ℕ → List ℕ
  | high :: low :: rest =>
    if isHigh high ∧ isLow low then (0x10000 + (high - 0xD800) * 0x400 + (low - 0xDC00)) :: joinPairs rest
    else high :: joinPairs (low :: rest)
  | codes => codes

def joined (s : Str) : Str := ⟨joinPairs s.codes⟩

lemma joinSurrogates_of_not_high {n : ℕ} (h : isHigh n = false) (rest : List Char) :
    joinSurrogates n rest = (n, rest) := by
  rw [joinSurrogates.eq_def, if_neg (by simpa [isHigh] using h)]

lemma joinSurrogates_unicodeEscape {n m : ℕ} (hm : m < 0x10000) (h : isHigh n = true) (rest : List Char) :
    joinSurrogates n (unicodeEscape m ++ rest) =
      if isLow m then (0x10000 + (n - 0xD800) * 0x400 + (m - 0xDC00), rest)
      else (n, unicodeEscape m ++ rest) := by
  have hlow : (0xDC00 ≤ m ∧ m ≤ 0xDFFF) ↔ isLow m = true := by simp [isLow]
  rw [joinSurrogates.eq_def, if_pos (by simpa [isHigh] using h)]
  simp only [unicodeEscape, List.cons_append, List.nil_append, scanHex4_hexDigits hm, hlow]

/-- What is no escape with a number does not continue a high surrogate. -/
lemma joinSurrogates_of_ne {n : ℕ} {rest : List Char} (h : ∀ low, rest ≠ '\\' :: 'u' :: low) :
    joinSurrogates n rest = (n, rest) := by
  rw [joinSurrogates.eq_def]
  split_ifs
  · split
    · next low => exact absurd rfl (h low)
    · rfl
  · rfl

/-- Only the escape of a low surrogate continues a high one. -/
lemma joinSurrogates_asciiEscape {n m : ℕ} (hm : m < 0x110000) (h : isHigh n = true) (rest : List Char) :
    joinSurrogates n (asciiEscape m ++ rest) =
      if isLow m then (0x10000 + (n - 0xD800) * 0x400 + (m - 0xDC00), rest)
      else (n, asciiEscape m ++ rest) := by
  by_cases hvalid : m.isValidChar
  · have hlow : isLow m = false := by
      rcases hvalid with hvalid | hvalid <;> simp [isLow] <;> omega
    rw [hlow, if_neg (by decide), asciiEscape, if_pos hvalid, escapeChar]
    cases hshort : shortEscapes.lookup (Char.ofNat m) with
    | some e =>
      obtain ⟨hu, -, -⟩ := shortEscapes_inverse hshort
      apply joinSurrogates_of_ne
      rintro low heq
      exact hu (List.cons.inj (List.cons.inj heq).2).1
    | none =>
      simp only [toNat_ofNat hvalid]
      by_cases hprint : ' ' ≤ Char.ofNat m ∧ Char.ofNat m ≤ '~'
      · rw [if_pos hprint]
        apply joinSurrogates_of_ne
        rintro low heq
        rw [(List.cons.inj heq).1] at hshort
        cases hshort
      · rw [if_neg hprint]
        by_cases hsmall : m < 0x10000
        · rw [if_pos hsmall, joinSurrogates_unicodeEscape hsmall h, hlow, if_neg (by decide)]
        · rw [if_neg hsmall, List.append_assoc, joinSurrogates_unicodeEscape (by omega) h, if_neg]
          simp only [isLow, decide_eq_true_eq]
          omega
  · have hrange : 0xD800 ≤ m ∧ m ≤ 0xDFFF := by
      simp only [Nat.isValidChar, not_or] at hvalid
      omega
    rw [asciiEscape, if_neg hvalid, joinSurrogates_unicodeEscape (by omega) h]

/-- The decoder reads a code point that is no high surrogate as it was written. -/
lemma scanChar_asciiEscape {n : ℕ} (hn : n < 0x110000) (h : isHigh n = false) (rest : List Char) :
    scanChar (asciiEscape n ++ rest) = some (n, rest) := by
  by_cases hvalid : n.isValidChar
  · rw [asciiEscape, if_pos hvalid, scanChar_escapeChar, toNat_ofNat hvalid]
  · have hrange : 0xD800 ≤ n ∧ n ≤ 0xDFFF := by
      simp only [Nat.isValidChar, not_or] at hvalid
      omega
    rw [asciiEscape, if_neg hvalid]
    simp only [unicodeEscape, List.cons_append, List.nil_append, scanChar, if_true, scanEscape,
      scanHex4_hexDigits (show n < 0x10000 by omega), Option.map_some, joinSurrogates_of_not_high h]

lemma scanChar_high {n : ℕ} (h : isHigh n = true) (rest : List Char) :
    scanChar (asciiEscape n ++ rest) = some (joinSurrogates n rest) := by
  have hrange : 0xD800 ≤ n ∧ n ≤ 0xDBFF := by simpa [isHigh] using h
  have hvalid : ¬n.isValidChar := by
    simp only [Nat.isValidChar, not_or]
    omega
  rw [asciiEscape, if_neg hvalid]
  simp only [unicodeEscape, List.cons_append, List.nil_append, scanChar, if_true, scanEscape,
    scanHex4_hexDigits (show n < 0x10000 by omega), Option.map_some]

lemma exists_asciiEscape (n : ℕ) : ∃ c cs, asciiEscape n = c :: cs ∧ c ≠ '"' := by
  by_cases hvalid : n.isValidChar
  · rw [asciiEscape, if_pos hvalid]
    exact escapeChar_head _
  · rw [asciiEscape, if_neg hvalid]
    exact ⟨'\\', _, rfl, by decide⟩

/-- One step of the decoder through the spelling of a text. -/
lemma scanString_step {n m : ℕ} {text after : List Char} {fuel : ℕ}
    (h : scanChar (asciiEscape n ++ text) = some (m, after)) :
    scanString (fuel + 1) (asciiEscape n ++ text) =
      (scanString fuel after).map fun r => (m :: r.1, r.2) := by
  obtain ⟨c, cs, hcs, hquote⟩ := exists_asciiEscape n
  rw [hcs] at h ⊢
  rw [List.cons_append] at h ⊢
  simp only [scanString, if_neg hquote, h, Option.bind_eq_bind, Option.bind_some]
  cases scanString fuel after <;> rfl

lemma scanString_nil (rest : List Char) {fuel : ℕ} (hfuel : 0 < fuel) :
    scanString fuel ('"' :: rest) = some ([], rest) := by
  obtain ⟨fuel, rfl⟩ := Nat.exists_eq_succ_of_ne_zero hfuel.ne'
  rw [scanString, if_pos rfl]

lemma scanString_ascii {codes : List ℕ} (h : ∀ n ∈ codes, n < 0x110000) (rest : List Char) {fuel : ℕ}
    (hfuel : codes.length < fuel) :
    scanString fuel (codes.flatMap asciiEscape ++ '"' :: rest) = some (joinPairs codes, rest) := by
  induction codes using joinPairs.induct generalizing fuel with
  | case1 high low codes hpair ih =>
    obtain ⟨fuel, rfl⟩ := Nat.exists_eq_succ_of_ne_zero (Nat.ne_zero_of_lt hfuel)
    have hchar := scanChar_high hpair.1 (asciiEscape low ++ (codes.flatMap asciiEscape ++ '"' :: rest))
    rw [joinSurrogates_asciiEscape (h low (by simp)) hpair.1, if_pos hpair.2] at hchar
    have hlength : codes.length < fuel := by
      simp only [List.length_cons] at hfuel
      omega
    have hrest := ih (fun n hn => h n (by simp [hn])) hlength
    rw [List.flatMap_cons, List.flatMap_cons, List.append_assoc, List.append_assoc, scanString_step hchar, hrest,
      joinPairs, if_pos hpair]
    rfl
  | case2 high low codes hpair ih =>
    obtain ⟨fuel, rfl⟩ := Nat.exists_eq_succ_of_ne_zero (Nat.ne_zero_of_lt hfuel)
    have hchar : scanChar (asciiEscape high ++ ((low :: codes).flatMap asciiEscape ++ '"' :: rest)) =
        some (high, (low :: codes).flatMap asciiEscape ++ '"' :: rest) := by
      by_cases hhigh : isHigh high
      · have hlow : ¬isLow low = true := fun hlow => hpair ⟨hhigh, hlow⟩
        rw [scanChar_high hhigh, List.flatMap_cons, List.append_assoc,
          joinSurrogates_asciiEscape (h low (by simp)) hhigh, if_neg hlow]
      · exact scanChar_asciiEscape (h high List.mem_cons_self) (by simpa using hhigh) _
    have hrest := ih (fun n hn => h n (List.mem_cons_of_mem _ hn)) (Nat.lt_of_succ_lt_succ hfuel)
    rw [List.flatMap_cons, List.append_assoc, scanString_step hchar, hrest, joinPairs, if_neg hpair]
    rfl
  | case3 codes hshort =>
    rcases codes with _ | ⟨n, _ | ⟨m, codes⟩⟩
    · exact scanString_nil rest (Nat.zero_lt_of_lt hfuel)
    · obtain ⟨fuel, rfl⟩ := Nat.exists_eq_succ_of_ne_zero (Nat.ne_zero_of_lt hfuel)
      have hchar : scanChar (asciiEscape n ++ '"' :: rest) = some (n, '"' :: rest) := by
        by_cases hhigh : isHigh n
        · rw [scanChar_high hhigh, joinSurrogates_of_ne]
          intro low heq
          cases heq
        · exact scanChar_asciiEscape (h n List.mem_cons_self) (by simpa using hhigh) _
      rw [List.flatMap_cons, List.flatMap_nil, List.append_nil, scanString_step hchar,
        scanString_nil rest (Nat.lt_of_succ_lt_succ hfuel)]
      rfl
    · exact absurd rfl (hshort n m codes)

/-- Under `ensure_ascii` every text is read back up to its surrogate pairs. -/
lemma readsAs_ascii {s : Str} (h : ∀ n ∈ s.codes, n < 0x110000) : ReadsAs asciiEscape joined s := by
  intro rest
  apply scanString_ascii h
  have hlen : s.codes.length ≤ (s.codes.flatMap asciiEscape).length :=
    length_le_flatMap fun n _ => exists_asciiEscape n
  rw [List.length_append, List.length_cons]
  omega

/-- A text with no high surrogate before a low one. -/
def Unpaired (codes : List ℕ) : Prop := codes.IsChain fun high low => ¬(isHigh high = true ∧ isLow low = true)

/-- A text is read back as it was exactly when no surrogates in it make a pair. -/
lemma joinPairs_eq_self_iff {codes : List ℕ} : joinPairs codes = codes ↔ Unpaired codes := by
  induction codes using joinPairs.induct with
  | case1 high low codes hpair ih =>
    have hlow : low ≤ 0xDFFF := (of_decide_eq_true hpair.2).2
    have hne : joinPairs (high :: low :: codes) ≠ high :: low :: codes := by
      rw [joinPairs, if_pos hpair]
      intro heq
      have hhigh : high ≤ 0xDBFF := (of_decide_eq_true hpair.1).2
      have := (List.cons.inj heq).1
      omega
    exact iff_of_false hne fun hchain => (List.isChain_cons_cons.mp hchain).1 hpair
  | case2 high low codes hpair ih =>
    rw [joinPairs, if_neg hpair, List.cons.injEq, and_iff_right rfl, ih, Unpaired, Unpaired, List.isChain_cons_cons,
      and_iff_right hpair]
  | case3 codes hshort =>
    rcases codes with _ | ⟨n, _ | ⟨m, codes⟩⟩
    · exact iff_of_true rfl List.IsChain.nil
    · exact iff_of_true rfl (List.IsChain.singleton n)
    · exact absurd rfl (hshort n m codes)

/-- Decoding what `json.dumps` wrote gives the value back up to its surrogate pairs. -/
theorem loads_dumpsAscii {value : Json} (h : Readable (fun s => ∀ n ∈ s.codes, n < 0x110000) value) :
    loads (dumpsAscii value) = some (renamed joined value) :=
  loads_write (fun _ => readsAs_ascii) h

end Pentagon5.Python.Json
