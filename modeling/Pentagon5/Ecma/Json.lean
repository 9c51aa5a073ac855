import Pentagon5.Python.Json

/-!
# The `JSON` object

The text that the client writes for a value, and that both decoders read the value back from it.
-/

namespace Pentagon5.Ecma

open Python Python.Json

/-- One code point of a string literal; surrogates are escaped. -/
def escapeCode (n : ℕ) : List Char :=
  match shortEscapes.lookup (Char.ofNat n) with
  | some e => ['\\', e]
  | none => if n < 0x20 ∨ (0xD800 ≤ n ∧ n ≤ 0xDFFF) then unicodeEscape n else [Char.ofNat n]

def quoteText (text : Str) : List Char := '"' :: (text.codes.flatMap escapeCode ++ ['"'])

mutual

/-- `JSON.stringify(value)`. -/
def stringify : Json → List Char
  | .null => "null".toList
  | .bool true => "true".toList
  | .bool false => "false".toList
  | .int value => (toString value).toList
  | .float lexeme => lexeme.toList
  | .str value => quoteText value
  | .list items => '[' :: (stringifyItems items ++ [']'])
  | .dict entries => '{' :: (stringifyMembers entries ++ ['}'])

def stringifyItems : List Json → List Char
  | [] => []
  | [item] => stringify item
  | item :: next :: items => stringify item ++ ',' :: stringifyItems (next :: items)

def stringifyMembers : List (Str × Json) → List Char
  | [] => []
  | [(key, value)] => quoteText key ++ ':' :: stringify value
  | (key, value) :: next :: entries =>
    quoteText key ++ ':' :: (stringify value ++ ',' :: stringifyMembers (next :: entries))

end

def IsScalarText (text : Str) : Prop := ∀ n ∈ text.codes, n.isValidChar

/-- Values made of booleans, of texts without surrogates and of objects with distinct keys. -/
inductive Plain : Json → Prop
  | bool (value : Bool) : Plain (.bool value)
  | str {text} (h : IsScalarText text) : Plain (.str text)
  | dict {entries : List (Str × Json)} (hnodup : (entries.map Prod.fst).Nodup)
      (hkeys : ∀ e ∈ entries, IsScalarText e.1) (hvalues : ∀ e ∈ entries, Plain e.2) :
      Plain (.dict entries)

lemma isScalarText_ofString (text : String) : IsScalarText text := by
  intro n hn
  rw [Str.ofString_codes, List.mem_map] at hn
  obtain ⟨c, -, rfl⟩ := hn
  exact c.valid

lemma plain_nil : Plain (.dict []) := .dict List.nodup_nil nofun nofun

lemma plain_cons (key : String) {value : Json} {entries : List (Str × Json)} (hvalue : Plain value)
    (hfresh : Str.ofString key ∉ entries.map Prod.fst) (h : Plain (.dict entries)) :
    Plain (.dict (entry key value :: entries)) := by
  cases h with
  | dict hnodup hkeys hvalues =>
    refine .dict (List.nodup_cons.mpr ⟨hfresh, hnodup⟩) ?_ ?_
    · intro e he
      rcases List.mem_cons.mp he with rfl | he
      · exact isScalarText_ofString key
      · exact hkeys e he
    · intro e he
      rcases List.mem_cons.mp he with rfl | he
      · exact hvalue
      · exact hvalues e he

lemma toNat_ofNat {n : ℕ} (h : n.isValidChar) : (Char.ofNat n).toNat = n := by
  rw [Char.ofNat, dif_pos h]
  rfl

/-- The decoder reads back one code point as `JSON.stringify` wrote it. -/
lemma scanChar_escapeCode {n : ℕ} (h : n.isValidChar) (rest : List Char) :
    scanChar (escapeCode n ++ rest) = some (n, rest) := by
  have hvalid : n < 0xD800 ∨ 0xDFFF < n ∧ n < 0x110000 := h
  unfold escapeCode
  cases hshort : shortEscapes.lookup (Char.ofNat n) with
  | some e =>
    obtain ⟨hu, hs, he⟩ := shortEscapes_inverse hshort
    simp [scanChar, scanEscape, hu, hs, he, toNat_ofNat h]
  | none =>
    by_cases hcontrol : n < 0x20 ∨ (0xD800 ≤ n ∧ n ≤ 0xDFFF)
    · simp only [if_pos hcontrol]
      exact scanChar_unicodeEscape (by omega) (by omega) rest
    · have hbackslash : Char.ofNat n ≠ '\\' := by
        intro heq
        rw [heq] at hshort
        cases hshort
      simp only [if_neg hcontrol, List.singleton_append, scanChar, if_neg hbackslash,
        toNat_ofNat h, if_neg (show ¬n < 0x20 by omega)]

lemma escapeCode_head (n : ℕ) : ∃ d ds, escapeCode n = d :: ds ∧ d ≠ '"' := by
  unfold escapeCode
  cases hshort : shortEscapes.lookup (Char.ofNat n) with
  | some e => exact ⟨'\\', [e], rfl, by decide⟩
  | none =>
    by_cases hcontrol : n < 0x20 ∨ (0xD800 ≤ n ∧ n ≤ 0xDFFF)
    · simp only [if_pos hcontrol]
      exact ⟨'\\', _, rfl, by decide⟩
    · simp only [if_neg hcontrol]
      refine ⟨Char.ofNat n, [], rfl, fun heq => ?_⟩
      rw [heq] at hshort
      cases hshort

lemma scanString_escaped {codes : List ℕ} (h : ∀ n ∈ codes, n.isValidChar) (rest : List Char)
    {fuel : ℕ} (hf : codes.length < fuel) :
    scanString fuel (codes.flatMap escapeCode ++ '"' :: rest) = some (codes, rest) := by
  induction codes generalizing fuel with
  | nil =>
    obtain ⟨fuel, rfl⟩ := Nat.exists_eq_succ_of_ne_zero (Nat.pos_iff_ne_zero.mp hf)
    simp [scanString]
  | cons n codes ih =>
    obtain ⟨fuel, rfl⟩ := Nat.exists_eq_succ_of_ne_zero (Nat.ne_zero_of_lt hf)
    obtain ⟨d, ds, hd, hq⟩ := escapeCode_head n
    have hn := scanChar_escapeCode (h n List.mem_cons_self) (codes.flatMap escapeCode ++ '"' :: rest)
    have hs := ih (fun m hm => h m (List.mem_cons_of_mem _ hm)) (Nat.lt_of_succ_lt_succ hf)
    rw [hd] at hn
    simp only [List.flatMap_cons, hd, List.cons_append, List.append_assoc] at hn ⊢
    simp only [scanString, if_neg hq, hn, Option.bind_eq_bind, Option.bind_some, hs]

lemma length_le_escaped (codes : List ℕ) : codes.length ≤ (codes.flatMap escapeCode).length := by
  induction codes with
  | nil => exact le_rfl
  | cons n codes ih =>
    obtain ⟨d, ds, hd, -⟩ := escapeCode_head n
    simp only [List.flatMap_cons, hd, List.length_append, List.length_cons]
    omega

lemma quoteText_append (text : Str) (rest : List Char) :
    quoteText text ++ rest = '"' :: (text.codes.flatMap escapeCode ++ '"' :: rest) := by
  simp [quoteText]

lemma scanString_quoteText {text : Str} (h : IsScalarText text) (rest : List Char) :
    scanString ((text.codes.flatMap escapeCode ++ '"' :: rest).length + 1)
      (text.codes.flatMap escapeCode ++ '"' :: rest) = some (text.codes, rest) := by
  apply scanString_escaped h
  have hle := length_le_escaped text.codes
  rw [List.length_append, List.length_cons]
  omega

lemma skipSpace_quoteText (text : Str) (rest : List Char) :
    skipSpace (quoteText text ++ rest) = quoteText text ++ rest := by
  rw [quoteText_append]
  simp [skipSpace]

lemma skipSpace_stringify {value : Json} (h : Plain value) (rest : List Char) :
    skipSpace (stringify value ++ rest) = stringify value ++ rest := by
  cases h with
  | bool value => cases value <;> simp [stringify, skipSpace]
  | str _ =>
    rw [stringify]
    exact skipSpace_quoteText _ rest
  | dict _ _ _ => simp [stringify, skipSpace]

lemma stringifyMembers_cons (key : Str) (value : Json) (entries : List (Str × Json)) :
    stringifyMembers ((key, value) :: entries) = quoteText key ++ ':' :: (stringify value ++
      (if entries = [] then [] else ',' :: stringifyMembers entries)) := by
  cases entries with
  | nil => simp [stringifyMembers]
  | cons next entries => rw [stringifyMembers, if_neg (List.cons_ne_nil _ _)]

lemma skipSpace_stringifyMembers {entries : List (Str × Json)} (h : entries ≠ []) (rest : List Char) :
    skipSpace (stringifyMembers entries ++ rest) = stringifyMembers entries ++ rest := by
  obtain ⟨⟨key, value⟩, entries, rfl⟩ := List.exists_cons_of_ne_nil h
  rw [stringifyMembers_cons, List.append_assoc]
  exact skipSpace_quoteText key _

/-- What follows a member. -/
def scanAfterMember (fuel : ℕ) (entries : List (Str × Json)) (rest : List Char) : Option (Json × List Char) :=
  match skipSpace rest with
  | '}' :: rest => some (.dict entries, rest)
  | ',' :: rest => scanMembers fuel entries (skipSpace rest)
  | _ => none

/-- One member and what follows it. -/
lemma scanMembers_member {key : Str} {value : Json} {fuel : ℕ} (hkey : IsScalarText key)
    (hvalue : Plain value) (rest : List Char) (entries : List (Str × Json))
    (h : scanValue fuel (stringify value ++ rest) = some (value, rest)) :
    scanMembers (fuel + 1) entries (quoteText key ++ ':' :: (stringify value ++ rest)) =
      scanAfterMember fuel (setEntry entries key value) rest := by
  have hcolon : ∀ r, skipSpace (':' :: r) = ':' :: r := fun r => by simp [skipSpace]
  rw [quoteText_append, scanMembers]
  simp only [if_true, scanString_quoteText hkey, Option.bind_eq_bind, Option.bind_some, hcolon,
    skipSpace_stringify hvalue, h]
  rfl

/-- The members of an object, when each value is read back. -/
lemma scanMembers_stringifyMembers {entries : List (Str × Json)} (hne : entries ≠ [])
    (hkeys : ∀ e ∈ entries, IsScalarText e.1) (hvalues : ∀ e ∈ entries, Plain e.2)
    (hread : ∀ e ∈ entries, ∀ rest fuel, (stringify e.2).length ≤ fuel →
      scanValue fuel (stringify e.2 ++ rest) = some (e.2, rest))
    (before : List (Str × Json)) (rest : List Char) {fuel : ℕ}
    (hnodup : (before.map Prod.fst ++ entries.map Prod.fst).Nodup)
    (hf : (stringifyMembers entries).length < fuel) :
    scanMembers fuel before (stringifyMembers entries ++ '}' :: rest) =
      some (.dict (before ++ entries), rest) := by
  induction entries generalizing before fuel with
  | nil => exact absurd rfl hne
  | cons e entries ih =>
    obtain ⟨key, value⟩ := e
    obtain ⟨fuel, rfl⟩ := Nat.exists_eq_succ_of_ne_zero (Nat.ne_zero_of_lt hf)
    have hfresh : ∀ e ∈ before, e.1 ≠ key := by
      intro e he heq
      exact (List.nodup_append.mp hnodup).2.2 e.1 (List.mem_map_of_mem he) key (by simp) heq
    have hkey := hkeys (key, value) List.mem_cons_self
    have hvalue := hvalues (key, value) List.mem_cons_self
    rw [stringifyMembers_cons] at hf ⊢
    simp only [List.length_append, List.length_cons] at hf
    have hscan : ∀ rest, scanValue fuel (stringify value ++ rest) = some (value, rest) := by
      intro rest
      apply hread (key, value) List.mem_cons_self
      simp only
      omega
    rw [List.append_assoc, List.cons_append, List.append_assoc,
      scanMembers_member hkey hvalue _ _ (hscan _), setEntry_fresh hfresh, scanAfterMember]
    by_cases hlast : entries = []
    · subst hlast
      simp [skipSpace]
    · have hcomma : ∀ r, skipSpace (',' :: r) = ',' :: r := fun r => by simp [skipSpace]
      rw [if_neg hlast] at hf ⊢
      rw [List.length_cons] at hf
      rw [List.cons_append, hcomma]
      simp only
      rw [skipSpace_stringifyMembers hlast, ih hlast
        (fun e he => hkeys e (List.mem_cons_of_mem _ he))
        (fun e he => hvalues e (List.mem_cons_of_mem _ he))
        (fun e he => hread e (List.mem_cons_of_mem _ he)) _ (by simpa using hnodup) (by omega),
        List.append_assoc, List.singleton_append]

lemma scanValue_stringify {value : Json} (h : Plain value) (rest : List Char) (fuel : ℕ)
    (hf : (stringify value).length ≤ fuel) :
    scanValue fuel (stringify value ++ rest) = some (value, rest) := by
  induction h generalizing rest fuel with
  | bool value =>
    have hpos : 0 < fuel := lt_of_lt_of_le (by cases value <;> simp [stringify]) hf
    obtain ⟨fuel, rfl⟩ := Nat.exists_eq_succ_of_ne_zero (Nat.pos_iff_ne_zero.mp hpos)
    cases value
    · simp [stringify, scanValue, scanScalar, scanLiteral]
      rfl
    · simp [stringify, scanValue, scanScalar, scanLiteral]
      rfl
  | @str text htext =>
    have hpos : 0 < fuel := lt_of_lt_of_le (by simp [stringify, quoteText]) hf
    obtain ⟨fuel, rfl⟩ := Nat.exists_eq_succ_of_ne_zero (Nat.pos_iff_ne_zero.mp hpos)
    rw [stringify, quoteText_append, scanValue, if_pos rfl, scanString_quoteText htext]
    rfl
  | @dict entries hnodup hkeys hvalues ih =>
    have hpos : 0 < fuel := lt_of_lt_of_le (by simp [stringify]) hf
    obtain ⟨fuel, rfl⟩ := Nat.exists_eq_succ_of_ne_zero (Nat.pos_iff_ne_zero.mp hpos)
    rw [stringify] at hf ⊢
    simp only [List.length_cons, List.length_append] at hf
    rw [List.cons_append, List.append_assoc, List.singleton_append, scanValue,
      if_neg (by decide), if_pos rfl]
    by_cases hempty : entries = []
    · subst hempty
      simp [stringifyMembers, skipSpace]
    · have hscan := scanMembers_stringifyMembers hempty hkeys hvalues ih [] rest hnodup
        (show (stringifyMembers entries).length < fuel by omega)
      have hspace := skipSpace_stringifyMembers hempty ('}' :: rest)
      obtain ⟨⟨key, value⟩, entries, rfl⟩ := List.exists_cons_of_ne_nil hempty
      rw [stringifyMembers_cons, List.append_assoc, quoteText_append] at hscan hspace ⊢
      rw [hspace]
      exact hscan

/-- Python reads back what `JSON.stringify` wrote. -/
theorem loads_stringify {value : Json} (h : Plain value) :
    loads (ofChars (stringify value)) = some value := by
  have hspace := skipSpace_stringify h []
  rw [List.append_nil] at hspace
  have hscan := scanValue_stringify h [] (2 * (stringify value).length + 1) (by omega)
  rw [List.append_nil] at hscan
  simp only [loads, ofChars_eq, chars_eq, String.toList_ofList, hspace, hscan]
  rfl

/-- Where a reader of a document stands: outside its string literals, in one, or after a backslash. -/
inductive Place where
  | outside
  | literal
  | escape

/-- The characters of a document outside its string literals. -/
def outsideStrings : Place → List Char → List Char
  | _, [] => []
  | .outside, c :: cs =>
    if c = '"' then outsideStrings .literal cs else c :: outsideStrings .outside cs
  | .literal, c :: cs =>
    outsideStrings (if c = '\\' then .escape else if c = '"' then .outside else .literal) cs
  | .escape, _ :: cs => outsideStrings .literal cs

/-- `JSON.parse`, for integers of at most 4300 digits: Python also reads `NaN`, `Infinity` and
`-Infinity`, whose capitals no other literal has. -/
def parse (text : String) : Option Json :=
  let cs := outsideStrings .outside (chars text)
  if 'N' ∈ cs ∨ 'I' ∈ cs then none else loads text

lemma outsideStrings_escapeCode (n : ℕ) (rest : List Char) :
    outsideStrings .literal (escapeCode n ++ rest) = outsideStrings .literal rest := by
  unfold escapeCode
  split
  · simp [outsideStrings]
  · next hshort =>
    have hquote : Char.ofNat n ≠ '"' := by
      intro heq
      simp [heq, shortEscapes] at hshort
    have hslash : Char.ofNat n ≠ '\\' := by
      intro heq
      simp [heq, shortEscapes] at hshort
    split_ifs
    · have hdigit : ∀ m < 16, hexDigit m ≠ '"' ∧ hexDigit m ≠ '\\' := by decide
      have hmod : ∀ m : ℕ, hexDigit (m % 16) ≠ '"' ∧ hexDigit (m % 16) ≠ '\\' :=
        fun m => hdigit _ (Nat.mod_lt _ (by omega))
      simp [unicodeEscape, outsideStrings, hmod]
    · simp [outsideStrings, hquote, hslash]

lemma outsideStrings_quoteText (text : Str) (rest : List Char) :
    outsideStrings .outside (quoteText text ++ rest) = outsideStrings .outside rest := by
  have hcodes : ∀ codes : List ℕ,
      outsideStrings .literal (codes.flatMap escapeCode ++ '"' :: rest) =
        outsideStrings .outside rest := by
    intro codes
    induction codes with
    | nil => simp [outsideStrings]
    | cons n codes ih => rw [List.flatMap_cons, List.append_assoc, outsideStrings_escapeCode, ih]
  rw [quoteText_append, outsideStrings, if_pos rfl, hcodes]

/-- What `JSON.stringify` writes outside the string literals of a plain value. -/
def marks : List Char := ['t', 'r', 'u', 'e', 'f', 'a', 'l', 's', '{', '}', ':', ',']

lemma outsideStrings_marks {before : List Char} (h : ∀ d ∈ before, d ∈ marks) (rest : List Char) :
    outsideStrings .outside (before ++ rest) = before ++ outsideStrings .outside rest := by
  induction before with
  | nil => rfl
  | cons d before ih =>
    have hd : d ≠ '"' := by
      rintro rfl
      exact absurd (h _ List.mem_cons_self) (by decide)
    rw [List.cons_append, outsideStrings, if_neg hd, ih fun x hx => h x (List.mem_cons_of_mem _ hx)]
    rfl

lemma mem_outsideStrings_marks {c d : Char} (hc : c ∉ marks) (hd : d ∈ marks) (rest : List Char) :
    c ∈ outsideStrings .outside (d :: rest) ↔ c ∈ outsideStrings .outside rest := by
  have hsplit : outsideStrings .outside ([d] ++ rest) = _ := outsideStrings_marks (by simpa using hd) rest
  rw [List.singleton_append, List.singleton_append] at hsplit
  rw [hsplit, List.mem_cons, or_iff_right]
  rintro rfl
  exact hc hd

lemma mem_outsideStrings_stringify {value : Json} (h : Plain value) {c : Char} (hc : c ∉ marks)
    (rest : List Char) :
    c ∈ outsideStrings .outside (stringify value ++ rest) ↔ c ∈ outsideStrings .outside rest := by
  induction h generalizing rest with
  | bool value =>
    have hword : ∀ d ∈ stringify (.bool value), d ∈ marks := by
      cases value <;> simp [stringify, marks]
    rw [outsideStrings_marks hword, List.mem_append, or_iff_right fun hmem => hc (hword c hmem)]
  | str _ => rw [stringify, outsideStrings_quoteText]
  | @dict entries _ _ _ ih =>
    have hmembers : ∀ entries : List (Str × Json), (∀ e ∈ entries, ∀ rest,
        c ∈ outsideStrings .outside (stringify e.2 ++ rest) ↔ c ∈ outsideStrings .outside rest) → ∀ rest,
        (c ∈ outsideStrings .outside (stringifyMembers entries ++ rest) ↔
          c ∈ outsideStrings .outside rest) := by
      intro entries
      induction entries with
      | nil =>
        intro _ rest
        rfl
      | cons e entries ihmembers =>
        intro hread rest
        have hnext := ihmembers (fun e he => hread e (List.mem_cons_of_mem _ he)) rest
        rw [stringifyMembers_cons, List.append_assoc, outsideStrings_quoteText, List.cons_append,
          mem_outsideStrings_marks hc (by decide), List.append_assoc, hread e List.mem_cons_self]
        split_ifs
        · rfl
        · rw [List.cons_append, mem_outsideStrings_marks hc (by decide), hnext]
    rw [stringify, List.cons_append, mem_outsideStrings_marks hc (by decide), List.append_assoc,
      hmembers entries ih, List.singleton_append, mem_outsideStrings_marks hc (by decide)]

/-- `JSON.parse` reads back what `JSON.stringify` wrote. -/
theorem parse_stringify {value : Json} (h : Plain value) :
    parse (ofChars (stringify value)) = some value := by
  have hnone : ∀ c, c ∉ marks → c ∉ outsideStrings .outside (chars (ofChars (stringify value))) := by
    intro c hc
    have hmem := mem_outsideStrings_stringify h hc []
    rw [List.append_nil] at hmem
    rw [ofChars_eq, chars_eq, String.toList_ofList, hmem]
    exact List.not_mem_nil
  rw [parse, if_neg, loads_stringify h]
  rintro (hN | hI)
  · exact hnone 'N' (by decide) hN
  · exact hnone 'I' (by decide) hI

end Pentagon5.Ecma
