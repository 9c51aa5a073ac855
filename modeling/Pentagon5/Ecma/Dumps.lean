import Pentagon5.Ecma.Json
import Pentagon5.Python.JsonEscapes

/-!
# Python writes what `JSON.stringify` writes

`json.dumps` with compact separators and without `ensure_ascii`, on the plain values: the text is the
one that `JSON.stringify` gives, so `JSON.parse` reads it back. A surrogate in a string is written as
it is, and such a text has no encoding.
-/

namespace Pentagon5.Ecma

open Python Python.Json

lemma plainEscape_eq {n : ℕ} (h : n.isValidChar) :
    plainEscape Char.toNat id n = (escapeCode n).map Char.toNat := by
  have hvalid : n < 0xD800 ∨ 0xDFFF < n ∧ n < 0x110000 := h
  rw [plainEscape, escapeCode]
  cases shortEscapes.lookup (Char.ofNat n) with
  | some e => rfl
  | none =>
    by_cases hcontrol : n < 0x20
    · simp only [if_pos hcontrol, if_pos (Or.inl hcontrol)]
    · have hplain : ¬(n < 0x20 ∨ (0xD800 ≤ n ∧ n ≤ 0xDFFF)) := by omega
      simp only [if_neg hcontrol, if_neg hplain, List.map_singleton, toNat_ofNat h, id]

lemma writeString_eq {text : Str} (h : IsScalarText text) :
    writeString Char.toNat (plainEscape Char.toNat id) text = (quoteText text).map Char.toNat := by
  have hcodes : text.codes.flatMap (plainEscape Char.toNat id) =
      (text.codes.flatMap escapeCode).map Char.toNat := by
    rw [List.map_flatMap]
    exact List.flatMap_congr fun n hn => plainEscape_eq (h n hn)
  rw [writeString, quoteText, hcodes]
  simp

lemma separated_writeEntries {entries : List (Str × Json)} (hkeys : ∀ e ∈ entries, IsScalarText e.1)
    (hvalues : ∀ e ∈ entries, write Char.toNat (plainEscape Char.toNat id) e.2 =
      (stringify e.2).map Char.toNat) :
    separated Char.toNat (writeEntries Char.toNat (plainEscape Char.toNat id) entries) =
      (stringifyMembers entries).map Char.toNat := by
  induction entries with
  | nil => rfl
  | cons e entries ih =>
    obtain ⟨key, value⟩ := e
    have hkey := writeString_eq (hkeys (key, value) List.mem_cons_self)
    have hvalue := hvalues (key, value) List.mem_cons_self
    have hrest := ih (fun e he => hkeys e (List.mem_cons_of_mem _ he))
      (fun e he => hvalues e (List.mem_cons_of_mem _ he))
    rw [stringifyMembers_cons]
    cases entries with
    | nil =>
      rw [if_pos rfl, writeEntries, writeEntries, separated, List.intercalate_singleton, hkey, hvalue]
      simp
    | cons next entries =>
      rw [if_neg (List.cons_ne_nil _ _), writeEntries, writeEntries, separated_cons, ← writeEntries,
        hrest, hkey, hvalue]
      simp

/-- The two encoders agree. -/
theorem dumpsPlain_eq {value : Json} (h : Plain value) :
    dumpsPlain value = Str.ofString (ofChars (stringify value)) := by
  have hwrite : write Char.toNat (plainEscape Char.toNat id) value = (stringify value).map Char.toNat := by
    induction h with
    | bool value => cases value <;> rfl
    | str htext => rw [write, stringify, writeString_eq htext]
    | dict _ hkeys _ ih =>
      rw [write, stringify, separated_writeEntries hkeys ih]
      simp
  rw [dumpsPlain, hwrite, Str.ofString, chars_eq, ofChars_eq, String.toList_ofList]

theorem parse_dumpsPlain {value : Json} (h : Plain value) :
    (dumpsPlain value).encode?.bind parse = some value := by
  rw [dumpsPlain_eq h, Str.encode?_ofString, Option.bind_some, parse_stringify h]

section

variable {α : Type} (lit : Char → α) (esc : ℕ → List α)

lemma infix_separated {piece : List α} {pieces : List (List α)} (h : piece ∈ pieces) :
    piece <:+: separated lit pieces := by
  induction pieces with
  | nil => cases h
  | cons first pieces ih =>
    rcases List.mem_cons.mp h with rfl | h
    · obtain ⟨tail, htail⟩ := exists_separated lit piece pieces
      rw [htail]
      exact (List.prefix_append _ _).isInfix
    · cases pieces with
      | nil => cases h
      | cons next pieces =>
        rw [separated_cons]
        exact (ih h).trans ((List.suffix_cons _ _).trans (List.suffix_append _ _)).isInfix

/-- The text of an object holds the texts of its values. -/
lemma infix_write_dict {entries : List (Str × Json)} {e : Str × Json} (he : e ∈ entries) :
    write lit esc e.2 <:+: write lit esc (.dict entries) := by
  have hpiece := infix_separated lit (List.mem_map_of_mem
    (f := fun e => writeString lit esc e.1 ++ lit ':' :: write lit esc e.2) he)
  rw [← writeEntries_eq] at hpiece
  have hvalue : write lit esc e.2 <:+: writeString lit esc e.1 ++ lit ':' :: write lit esc e.2 :=
    ((List.suffix_cons _ _).trans (List.suffix_append _ _)).isInfix
  refine (hvalue.trans hpiece).trans ⟨[lit '{'], [lit '}'], ?_⟩
  rw [write]
  simp

end

lemma mem_plainEscape {n : ℕ} (h : ¬n.isValidChar) : n ∈ plainEscape Char.toNat id n := by
  have hinvalid : ¬(n < 0xD800 ∨ 0xDFFF < n ∧ n < 0x110000) := h
  have hchar : Char.ofNat n = '\x00' := dif_neg h
  have hshort : shortEscapes.lookup (Char.ofNat n) = none := by
    rw [hchar]
    decide
  rw [plainEscape, hshort]
  simp only [if_neg (show ¬n < 0x20 by omega), id, List.mem_singleton]

/-- No encoding of a value that writes a text with a surrogate. -/
theorem encode?_dumpsPlain_eq_none {value : Json} {text : Str} (h : ¬IsScalarText text)
    (hpart : write Char.toNat (plainEscape Char.toNat id) (.str text) <:+:
      write Char.toNat (plainEscape Char.toNat id) value) : (dumpsPlain value).encode? = none := by
  obtain ⟨n, hn, hinvalid⟩ : ∃ n ∈ text.codes, ¬n.isValidChar := by
    simpa [IsScalarText] using h
  have hmem : n ∈ (dumpsPlain value).codes := by
    apply hpart.subset
    rw [write, writeString]
    exact List.mem_cons_of_mem _ (List.mem_append_left _
      (List.mem_flatMap.mpr ⟨n, hn, mem_plainEscape hinvalid⟩))
  cases hencode : (dumpsPlain value).encode? with
  | none => rfl
  | some written =>
    rw [Str.encode?_eq_some.mp hencode] at hmem
    exact absurd (isScalarText_ofString written n hmem) hinvalid

end Pentagon5.Ecma
