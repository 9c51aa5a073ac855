import Mathlib.Data.List.TakeDrop
import Mathlib.Data.List.TakeWhile
import Mathlib.Data.List.Induction
import Pentagon5.Python.Json

/-!
# JSON texts

What `json.dumps` writes with compact separators, over any alphabet: the punctuation is spelled by
`lit` and a code point of a string by `esc`. The decoder reads back a value whose strings it reads,
up to what it makes of these strings.
-/

namespace Pentagon5.Python.Json

section

variable {α : Type} (lit : Char → α) (esc : ℕ → List α)

def word (text : String) : List α := text.toList.map lit

def writeString (s : Str) : List α := lit '"' :: (s.codes.flatMap esc ++ [lit '"'])

def separated (pieces : List (List α)) : List α := [lit ','].intercalate pieces

mutual

def write : Json → List α
  | null => word lit "null"
  | bool true => word lit "true"
  | bool false => word lit "false"
  | int value => word lit (toString value)
  | float lexeme => word lit lexeme
  | str value => writeString lit esc value
  | list items => lit '[' :: (separated lit (writeItems items) ++ [lit ']'])
  | dict entries => lit '{' :: (separated lit (writeEntries entries) ++ [lit '}'])

def writeItems : List Json → List (List α)
  | [] => []
  | item :: items => write item :: writeItems items

def writeEntries : List (Str × Json) → List (List α)
  | [] => []
  | (key, value) :: entries =>
    (writeString lit esc key ++ lit ':' :: write value) :: writeEntries entries

end

lemma writeEntries_eq (entries : List (Str × Json)) : writeEntries lit esc entries =
    entries.map fun e => writeString lit esc e.1 ++ lit ':' :: write lit esc e.2 := by
  induction entries with
  | nil => rfl
  | cons e entries ih => rw [writeEntries, ih, List.map_cons]

lemma separated_cons (piece next : List α) (pieces : List (List α)) :
    separated lit (piece :: next :: pieces) = piece ++ lit ',' :: separated lit (next :: pieces) := by
  rw [separated, separated, List.intercalate_cons_cons, List.append_assoc]
  rfl

lemma exists_separated (piece : List α) (pieces : List (List α)) :
    ∃ tail, separated lit (piece :: pieces) = piece ++ tail := by
  cases pieces with
  | nil => exact ⟨[], by rw [separated, List.intercalate_singleton, List.append_nil]⟩
  | cons next pieces => exact ⟨_, separated_cons lit piece next pieces⟩

end

/-- What follows a value in a text, if anything does. -/
def Ends (rest : List Char) : Prop := ∀ c ∈ rest.head?, c ∈ [',', ']', '}']

/-- The decoder reads the spelling of `s` as `norm s`. -/
def ReadsAs (esc : ℕ → List Char) (norm : Str → Str) (s : Str) : Prop :=
  ∀ rest, scanString ((s.codes.flatMap esc ++ '"' :: rest).length + 1)
    (s.codes.flatMap esc ++ '"' :: rest) = some ((norm s).codes, rest)

mutual

/-- The value with its strings replaced. In a dictionary the later of two keys that become one wins. -/
def renamed (norm : Str → Str) : Json → Json
  | null => null
  | bool value => bool value
  | int value => int value
  | float lexeme => float lexeme
  | str value => str (norm value)
  | list items => list (renamedItems norm items)
  | dict entries => dict ((renamedEntries norm entries).foldl (fun d e => setEntry d e.1 e.2) [])

def renamedItems (norm : Str → Str) : List Json → List Json
  | [] => []
  | item :: items => renamed norm item :: renamedItems norm items

def renamedEntries (norm : Str → Str) : List (Str × Json) → List (Str × Json)
  | [] => []
  | (key, value) :: entries => (norm key, renamed norm value) :: renamedEntries norm entries

end

/-- Values whose strings `reads` and whose numbers are within the limits of the decoder. -/
inductive Readable (reads : Str → Prop) : Json → Prop
  | null : Readable reads null
  | bool (value : Bool) : Readable reads (bool value)
  | int (value : ℤ) (h : (Nat.toDigits 10 value.natAbs).length ≤ 4300) : Readable reads (int value)
  | float (lexeme : String) (h : scanScalar lexeme.toList = some (float lexeme, [])) :
      Readable reads (float lexeme)
  | str (value : Str) (h : reads value) : Readable reads (str value)
  | list (items : List Json) (h : ∀ item ∈ items, Readable reads item) : Readable reads (list items)
  | dict (entries : List (Str × Json)) (hnodup : (entries.map Prod.fst).Nodup)
      (hkeys : ∀ e ∈ entries, reads e.1) (h : ∀ e ∈ entries, Readable reads e.2) :
      Readable reads (dict entries)

lemma Ends.not_isDigit {c : Char} {rest : List Char} (h : Ends (c :: rest)) : c.isDigit = false := by
  have hc : c ∈ [',', ']', '}'] := h c rfl
  simp only [List.mem_cons, List.not_mem_nil, or_false] at hc
  rcases hc with rfl | rfl | rfl <;> rfl

lemma Ends.ne {c d : Char} {rest : List Char} (h : Ends (c :: rest)) (hd : d ∉ [',', ']', '}']) : c ≠ d :=
  fun hc => hd (hc ▸ h c rfl)

lemma ends_cons {c : Char} (h : c ∈ [',', ']', '}']) (rest : List Char) : Ends (c :: rest) := by
  intro d hd
  obtain rfl := Option.some.inj hd
  exact h

lemma ends_nil : Ends [] := fun _ h => by cases h

variable {rest : List Char}

lemma digits_append (hrest : Ends rest) (ds : List Char) :
    digits (ds ++ rest) = ((digits ds).1, (digits ds).2 ++ rest) := by
  rw [digits, digits, List.span_eq_takeWhile_dropWhile, List.span_eq_takeWhile_dropWhile]
  induction ds with
  | nil =>
    cases rest with
    | nil => rfl
    | cons c rest => simp [hrest.not_isDigit]
  | cons d ds ih =>
    by_cases hd : d.isDigit
    · simp only [List.cons_append, List.takeWhile_cons_of_pos hd, List.dropWhile_cons_of_pos hd,
        Prod.mk.injEq] at ih ⊢
      exact ⟨by rw [ih.1], ih.2⟩
    · simp [hd]

/-- The fraction at the start of a text. -/
def fraction (cs : List Char) : List Char × List Char :=
  match cs with
  | '.' :: rest => match digits rest with
    | ([], _) => ([], cs)
    | (f, rest) => ('.' :: f, rest)
  | _ => ([], cs)

def sign (cs : List Char) : List Char × List Char :=
  match cs with
  | '+' :: rest => (['+'], rest)
  | '-' :: rest => (['-'], rest)
  | _ => ([], cs)

/-- The exponent at the start of a text. -/
def exponent (cs : List Char) : List Char × List Char :=
  match cs with
  | e :: rest =>
    if e = 'e' ∨ e = 'E' then
      let (sign, rest) := sign rest
      match digits rest with
      | ([], _) => ([], cs)
      | (x, rest) => (e :: (sign ++ x), rest)
    else ([], cs)
  | [] => ([], cs)

lemma scanFraction_eq (negative : Bool) (ds cs : List Char) : scanFraction negative ds cs =
    if (fraction cs).1 = [] ∧ (exponent (fraction cs).2).1 = [] then
      (intOfDigits negative ds).map (·, (exponent (fraction cs).2).2)
    else some (.float (String.ofList ((if negative then ['-'] else []) ++ ds ++ (fraction cs).1 ++
      (exponent (fraction cs).2).1)), (exponent (fraction cs).2).2) := by
  have hparts : scanFraction negative ds cs = (match fraction cs with
      | (f, cs) => match exponent cs with
        | (x, cs) => if f = [] ∧ x = [] then (intOfDigits negative ds).map (·, cs)
          else some (.float (String.ofList ((if negative then ['-'] else []) ++ ds ++ f ++ x)), cs)) := rfl
  rw [hparts]

lemma sign_append (hrest : Ends rest) (cs : List Char) :
    sign (cs ++ rest) = ((sign cs).1, (sign cs).2 ++ rest) := by
  cases cs with
  | nil =>
    cases rest with
    | nil => rfl
    | cons c rest =>
      have hplus : c ≠ '+' := hrest.ne (by decide)
      have hminus : c ≠ '-' := hrest.ne (by decide)
      simp [sign, hplus, hminus]
  | cons d cs =>
    by_cases hplus : d = '+'
    · subst hplus
      rfl
    · by_cases hminus : d = '-'
      · subst hminus
        rfl
      · simp [sign, hplus, hminus]

lemma fraction_append (hrest : Ends rest) (cs : List Char) :
    fraction (cs ++ rest) = ((fraction cs).1, (fraction cs).2 ++ rest) := by
  cases cs with
  | nil =>
    cases rest with
    | nil => rfl
    | cons c rest =>
      have hpoint : c ≠ '.' := hrest.ne (by decide)
      simp [fraction, hpoint]
  | cons d cs =>
    by_cases hpoint : d = '.'
    · subst hpoint
      simp only [List.cons_append, fraction, digits_append hrest]
      rcases digits cs with ⟨_ | ⟨x, f⟩, tail⟩ <;> rfl
    · simp [fraction, hpoint]

lemma exponent_append (hrest : Ends rest) (cs : List Char) :
    exponent (cs ++ rest) = ((exponent cs).1, (exponent cs).2 ++ rest) := by
  cases cs with
  | nil =>
    cases rest with
    | nil => rfl
    | cons c rest =>
      have hlower : c ≠ 'e' := hrest.ne (by decide)
      have hupper : c ≠ 'E' := hrest.ne (by decide)
      simp [exponent, hlower, hupper]
  | cons d cs =>
    rw [List.cons_append, exponent, exponent]
    by_cases he : d = 'e' ∨ d = 'E'
    · simp only [if_pos he, sign_append hrest, digits_append hrest]
      rcases digits (sign cs).2 with ⟨_ | ⟨x, f⟩, tail⟩ <;> rfl
    · simp only [if_neg he, List.cons_append]

lemma scanFraction_append (hrest : Ends rest) (negative : Bool) (ds cs : List Char) :
    scanFraction negative ds (cs ++ rest) =
      (scanFraction negative ds cs).map fun r => (r.1, r.2 ++ rest) := by
  simp only [scanFraction_eq, fraction_append hrest, exponent_append hrest]
  by_cases h : (fraction cs).1 = [] ∧ (exponent (fraction cs).2).1 = []
  · rw [if_pos h, if_pos h, Option.map_map]
    rfl
  · rw [if_neg h, if_neg h]
    rfl

lemma scanUnsigned_append (hrest : Ends rest) (negative : Bool) {cs : List Char} (hcs : cs ≠ []) :
    scanUnsigned negative (cs ++ rest) = (scanUnsigned negative cs).map fun r => (r.1, r.2 ++ rest) := by
  obtain ⟨d, cs, rfl⟩ := List.exists_cons_of_ne_nil hcs
  by_cases hzero : d = '0'
  · subst hzero
    exact scanFraction_append hrest negative ['0'] cs
  · simp only [List.cons_append, scanUnsigned, digits_append hrest]
    split_ifs
    · exact scanFraction_append hrest negative _ _
    · rfl

/-- A character that no text begins with after a value. -/
def isInner (c : Char) : Bool := c ∉ [',', ']', '}']

lemma isPrefixOf_append (hrest : Ends rest) {w : List Char} (hw : w.all isInner = true) (cs : List Char) :
    w.isPrefixOf (cs ++ rest) = w.isPrefixOf cs := by
  induction w generalizing cs with
  | nil => simp
  | cons d w ih =>
    rw [List.all_cons, Bool.and_eq_true] at hw
    cases cs with
    | nil =>
      cases rest with
      | nil => rfl
      | cons c rest =>
        have hne : c ≠ d := hrest.ne (of_decide_eq_true hw.1)
        simp [List.isPrefixOf, hne.symm]
    | cons c cs => rw [List.cons_append, List.isPrefixOf, List.isPrefixOf, ih hw.2]

lemma scanLiteral_append (hrest : Ends rest) {w : String} (hw : w.toList.all isInner = true)
    (value : Json) (cs : List Char) :
    scanLiteral w value (cs ++ rest) = (scanLiteral w value cs).map fun r => (r.1, r.2 ++ rest) := by
  rw [scanLiteral, scanLiteral, isPrefixOf_append hrest hw]
  by_cases h : w.toList.isPrefixOf cs
  · have hlen : w.length ≤ cs.length := by
      rw [← String.length_toList]
      exact (List.isPrefixOf_iff_prefix.mp h).length_le
    rw [if_pos h, if_pos h, List.drop_append_of_le_length hlen]
    rfl
  · rw [if_neg h, if_neg h]
    rfl

/-- The numbers among the scalars. -/
def scanNumber (cs : List Char) : Option (Json × List Char) :=
  match cs with
  | '-' :: rest => scanUnsigned true rest
  | _ => scanUnsigned false cs

lemma scanScalar_eq (cs : List Char) : scanScalar cs =
    ((scanLiteral "null" .null cs).or <| (scanLiteral "true" (.bool true) cs).or <|
    (scanLiteral "false" (.bool false) cs).or <| (scanLiteral "NaN" (.float "NaN") cs).or <|
    (scanLiteral "Infinity" (.float "Infinity") cs).or <|
    (scanLiteral "-Infinity" (.float "-Infinity") cs).or (scanNumber cs)) := rfl

lemma scanNumber_append (hrest : Ends rest) {cs : List Char} (hcs : cs ≠ []) (hsign : cs ≠ ['-']) :
    scanNumber (cs ++ rest) = (scanNumber cs).map fun r => (r.1, r.2 ++ rest) := by
  obtain ⟨d, ds, rfl⟩ := List.exists_cons_of_ne_nil hcs
  by_cases hminus : d = '-'
  · subst hminus
    have hds : ds ≠ [] := fun h => hsign (by rw [h])
    exact scanUnsigned_append hrest true hds
  · have hnumber : ∀ tail, scanNumber (d :: tail) = scanUnsigned false (d :: tail) := fun tail => by
      simp [scanNumber, hminus]
    rw [List.cons_append, hnumber, hnumber]
    exact scanUnsigned_append hrest false (List.cons_ne_nil d ds)

/-- A number or a literal ends where the text after it begins. -/
lemma scanScalar_append (hrest : Ends rest) {cs : List Char} (hcs : cs ≠ []) (hsign : cs ≠ ['-']) :
    scanScalar (cs ++ rest) = (scanScalar cs).map fun r => (r.1, r.2 ++ rest) := by
  have hword : ∀ w ∈ ["null", "true", "false", "NaN", "Infinity", "-Infinity"], ∀ value,
      scanLiteral w value (cs ++ rest) = (scanLiteral w value cs).map fun r => (r.1, r.2 ++ rest) := by
    intro w hw value
    refine scanLiteral_append hrest ?_ value cs
    have hall : ["null", "true", "false", "NaN", "Infinity", "-Infinity"].all
        (fun w => w.toList.all isInner) = true := by decide
    exact List.all_eq_true.mp hall w hw
  simp only [scanScalar_eq, Option.map_or, hword "null" (by simp), hword "true" (by simp),
    hword "false" (by simp), hword "NaN" (by simp), hword "Infinity" (by simp),
    hword "-Infinity" (by simp), scanNumber_append hrest hcs hsign]

lemma digits_eq_self {ds : List Char} (h : ∀ d ∈ ds, d.isDigit = true) : digits ds = (ds, []) := by
  rw [digits, List.span_eq_takeWhile_dropWhile, List.takeWhile_eq_self_iff.mpr h,
    List.dropWhile_eq_nil_iff.mpr h]

/-- The digits of a positive number do not begin with a zero. -/
lemma exists_toDigits {n : ℕ} (hn : 0 < n) :
    ∃ d ds, Nat.toDigits 10 n = d :: ds ∧ '1' ≤ d ∧ d ≤ '9' := by
  induction n using Nat.strong_induction_on with
  | _ n ih =>
    by_cases hlt : n < 10
    · have hdigit : ∀ n < 10, 0 < n → '1' ≤ n.digitChar ∧ n.digitChar ≤ '9' := by decide
      exact ⟨n.digitChar, [], Nat.toDigits_of_lt_base hlt, hdigit n hlt hn⟩
    · obtain ⟨d, ds, hds, hd⟩ := ih (n / 10) (by omega) (by omega)
      refine ⟨d, ds ++ [(n % 10).digitChar], ?_, hd⟩
      rw [Nat.toDigits_of_base_le (by decide) (by omega), hds]
      rfl

/-- What the decoder makes of the decimal digits of a number. -/
lemma scanUnsigned_toDigits (negative : Bool) {n : ℕ} (hn : (Nat.toDigits 10 n).length ≤ 4300) :
    scanUnsigned negative (Nat.toDigits 10 n) =
      some (.int (if negative then -(n : ℤ) else n), []) := by
  have hvalue : (Nat.toDigits 10 n).foldl (fun m d => 10 * m + (d.toNat - '0'.toNat)) 0 = n := by
    rw [← Nat.ofDigitChars_eq_foldl, Nat.ofDigitChars_ten_toDigits]
  have hscan : scanFraction negative (Nat.toDigits 10 n) [] =
      some (.int (if negative then -(n : ℤ) else n), []) := by
    rw [scanFraction_eq]
    simp only [fraction, exponent, intOfDigits, if_pos hn, hvalue, and_self, if_true, Option.map_some]
  rcases Nat.eq_zero_or_pos n with rfl | hpos
  · rw [Nat.toDigits_zero] at hscan ⊢
    exact hscan
  · obtain ⟨d, ds, hds, hlow, hhigh⟩ := exists_toDigits hpos
    have hzero : d ≠ '0' := by
      rintro rfl
      exact absurd hlow (by decide)
    have htail : ∀ x ∈ ds, x.isDigit = true := fun x hx =>
      Nat.isDigit_of_mem_toDigits (by decide) (by decide) (hds ▸ List.mem_cons_of_mem d hx)
    rw [hds] at hscan ⊢
    simp only [scanUnsigned, if_pos (And.intro hlow hhigh), digits_eq_self htail]
    exact hscan

lemma scanLiteral_of_head {w : String} {c d : Char} {ds cs : List Char} (hw : w.toList = c :: ds) (hne : c ≠ d)
    (value : Json) : scanLiteral w value (d :: cs) = none := by
  rw [scanLiteral, hw, if_neg (by simp [hne])]

/-- A digit starts no literal. -/
lemma scanScalar_of_digit {d : Char} (hd : d.isDigit = true) (ds : List Char) :
    scanScalar (d :: ds) = scanUnsigned false (d :: ds) := by
  have hne : ∀ c : Char, c.isDigit = false → c ≠ d := by
    rintro c hc rfl
    rw [hd] at hc
    cases hc
  have hminus : d ≠ '-' := (hne '-' rfl).symm
  rw [scanScalar_eq, scanLiteral_of_head (c := 'n') rfl (hne _ rfl), scanLiteral_of_head (c := 't') rfl (hne _ rfl),
    scanLiteral_of_head (c := 'f') rfl (hne _ rfl), scanLiteral_of_head (c := 'N') rfl (hne _ rfl),
    scanLiteral_of_head (c := 'I') rfl (hne _ rfl), scanLiteral_of_head (c := '-') rfl (hne _ rfl)]
  simp [scanNumber, hminus]

lemma scanScalar_of_minus {d : Char} (hd : d.isDigit = true) (ds : List Char) :
    scanScalar ('-' :: d :: ds) = scanUnsigned true (d :: ds) := by
  have hd : 'I' ≠ d := by
    rintro rfl
    cases hd
  have hinfinity : scanLiteral "-Infinity" (.float "-Infinity") ('-' :: d :: ds) = none := by
    rw [scanLiteral, if_neg (by simp [hd])]
  rw [scanScalar_eq, scanLiteral_of_head (c := 'n') rfl (by decide), scanLiteral_of_head (c := 't') rfl (by decide),
    scanLiteral_of_head (c := 'f') rfl (by decide), scanLiteral_of_head (c := 'N') rfl (by decide),
    scanLiteral_of_head (c := 'I') rfl (by decide), hinfinity]
  rfl

lemma scanScalar_toString {value : ℤ} (h : (Nat.toDigits 10 value.natAbs).length ≤ 4300) :
    scanScalar (toString value).toList = some (.int value, []) := by
  obtain ⟨d, ds, hds⟩ := List.exists_cons_of_ne_nil (Nat.toDigits_ne_nil (n := value.natAbs) (b := 10))
  have hd : d.isDigit = true :=
    Nat.isDigit_of_mem_toDigits (by decide) (by decide) (hds ▸ List.mem_cons_self)
  rw [Int.toString_eq_repr, Int.repr_eq_if]
  by_cases hsign : 0 ≤ value
  · have habs : value.toNat = value.natAbs := by omega
    have hvalue : ((value.natAbs : ℕ) : ℤ) = value := by omega
    rw [if_pos hsign, habs, Nat.toList_repr, hds, scanScalar_of_digit hd, ← hds, scanUnsigned_toDigits false h]
    simp [hvalue]
  · have habs : (-value).toNat = value.natAbs := by omega
    have hvalue : -((value.natAbs : ℕ) : ℤ) = value := by omega
    have htext : ("-" ++ value.natAbs.repr).toList = '-' :: Nat.toDigits 10 value.natAbs := by
      rw [String.toList_append, Nat.toList_repr]
      rfl
    rw [if_neg hsign, habs, htext, hds, scanScalar_of_minus hd, ← hds, scanUnsigned_toDigits true h, if_pos rfl,
      hvalue]

/-- A character that begins no value and that no decoder skips. -/
def isOpening (c : Char) : Bool := c ∉ ['"', '{', '[', ']', '}', ' ', '\t', '\n', '\r']

lemma isOpening_of_scanScalar {c : Char} {cs : List Char} (h : scanScalar (c :: cs) ≠ none) :
    isOpening c = true := by
  by_contra hc
  apply h
  have hmem : c ∈ ['"', '{', '[', ']', '}', ' ', '\t', '\n', '\r'] := by
    by_contra hnot
    exact hc (decide_eq_true hnot)
  simp only [List.mem_cons, List.not_mem_nil, or_false] at hmem
  rcases hmem with rfl | rfl | rfl | rfl | rfl | rfl | rfl | rfl | rfl <;>
    simp [scanScalar, scanLiteral, scanUnsigned]

lemma skipSpace_of_head {c : Char} (h : c ∉ [' ', '\t', '\n', '\r']) (cs : List Char) :
    skipSpace (c :: cs) = c :: cs := by
  rw [skipSpace, List.dropWhile_cons_of_neg]
  simpa using h

lemma skipSpace_of_ends (hrest : Ends rest) : skipSpace rest = rest := by
  cases rest with
  | nil => rfl
  | cons c rest =>
    apply skipSpace_of_head
    have hc : c ∈ [',', ']', '}'] := hrest c rfl
    simp only [List.mem_cons, List.not_mem_nil, or_false] at hc
    rcases hc with rfl | rfl | rfl <;> decide

variable {esc : ℕ → List Char} {norm : Str → Str} {reads : Str → Prop}

/-- A scalar that is read alone is read before the end of a value. -/
lemma scanValue_scalar {cs : List Char} {value : Json} (h : scanScalar cs = some (value, []))
    (hrest : Ends rest) {fuel : ℕ} (hfuel : 0 < fuel) : scanValue fuel (cs ++ rest) = some (value, rest) := by
  obtain ⟨fuel, rfl⟩ := Nat.exists_eq_succ_of_ne_zero hfuel.ne'
  have hcs : cs ≠ [] := by
    rintro rfl
    cases h
  have hsign : cs ≠ ['-'] := by
    rintro rfl
    cases h
  have hscan : scanScalar (cs ++ rest) = some (value, rest) := by
    rw [scanScalar_append hrest hcs hsign, h]
    rfl
  obtain ⟨c, cs, rfl⟩ := List.exists_cons_of_ne_nil hcs
  have hc : isOpening c = true := isOpening_of_scanScalar (by rw [h]; simp)
  simp only [isOpening, decide_eq_true_eq, List.mem_cons, not_or] at hc
  rw [List.cons_append, scanValue, if_neg hc.1, if_neg hc.2.1, if_neg hc.2.2.1]
  exact hscan

/-- The first character of a value is not skipped, and closes nothing. -/
lemma exists_write {value : Json} (h : Readable reads value) :
    ∃ c cs, write id esc value = c :: cs ∧ c ∉ [']', '}', ' ', '\t', '\n', '\r'] := by
  have hscalar : ∀ {cs : List Char} {value : Json}, scanScalar cs = some (value, []) →
      ∃ c tail, cs = c :: tail ∧ c ∉ [']', '}', ' ', '\t', '\n', '\r'] := by
    intro cs value h
    cases cs with
    | nil => cases h
    | cons c tail =>
      have hc : isOpening c = true := isOpening_of_scanScalar (by rw [h]; simp)
      simp only [isOpening, decide_eq_true_eq, List.mem_cons, not_or] at hc
      refine ⟨c, tail, rfl, ?_⟩
      simp only [List.mem_cons, not_or]
      exact ⟨hc.2.2.2.1, hc.2.2.2.2.1, hc.2.2.2.2.2⟩
  cases h with
  | null => exact ⟨'n', _, rfl, by decide⟩
  | bool value =>
    cases value with
    | false => exact ⟨'f', _, rfl, by decide⟩
    | true => exact ⟨'t', _, rfl, by decide⟩
  | int value h =>
    rw [write, word, List.map_id]
    exact hscalar (scanScalar_toString h)
  | float lexeme h =>
    rw [write, word, List.map_id]
    exact hscalar h
  | str value h => exact ⟨'"', _, rfl, by decide⟩
  | list items h => exact ⟨'[', _, rfl, by decide⟩
  | dict entries hnodup hkeys h => exact ⟨'{', _, rfl, by decide⟩

variable (esc) in
lemma skipSpace_write {value : Json} (h : Readable reads value) (tail : List Char) :
    skipSpace (write id esc value ++ tail) = write id esc value ++ tail := by
  obtain ⟨c, cs, hcs, hc⟩ := exists_write h
  rw [hcs]
  exact skipSpace_of_head (fun hmem => hc (List.mem_cons_of_mem _ (List.mem_cons_of_mem _ hmem))) _

variable (esc norm) in
/-- A value that the decoder reads back, whatever ends it. -/
def Reads (value : Json) : Prop := ∀ fuel rest, (write id esc value).length ≤ fuel → Ends rest →
  scanValue fuel (write id esc value ++ rest) = some (renamed norm value, rest)

lemma scanItems_write {items : List Json} (hne : items ≠ []) (hreadable : ∀ item ∈ items, Readable reads item)
    (h : ∀ item ∈ items, Reads esc norm item) (before : List Json) (rest : List Char) {fuel : ℕ}
    (hfuel : (separated id (writeItems id esc items)).length < fuel) :
    scanItems fuel before (separated id (writeItems id esc items) ++ ']' :: rest) =
      some (.list (before.reverse ++ renamedItems norm items), rest) := by
  induction items generalizing before fuel with
  | nil => exact absurd rfl hne
  | cons item items ih =>
    obtain ⟨fuel, rfl⟩ := Nat.exists_eq_succ_of_ne_zero (Nat.ne_zero_of_lt hfuel)
    have hitem := h item List.mem_cons_self
    cases items with
    | nil =>
      have hlast : separated id (writeItems id esc [item]) = write id esc item := by
        rw [writeItems, writeItems, separated, List.intercalate_singleton]
      rw [hlast] at hfuel ⊢
      rw [scanItems, hitem fuel _ (by omega) (ends_cons (by decide) rest)]
      simp [skipSpace_of_ends (ends_cons (c := ']') (by decide) rest), renamedItems]
    | cons next items =>
      have hmore : separated id (writeItems id esc (item :: next :: items)) =
          write id esc item ++ ',' :: separated id (writeItems id esc (next :: items)) := by
        rw [writeItems, writeItems, separated_cons]
        rfl
      have hspace : skipSpace (separated id (writeItems id esc (next :: items)) ++ ']' :: rest) =
          separated id (writeItems id esc (next :: items)) ++ ']' :: rest := by
        obtain ⟨tail, htail⟩ := exists_separated id (write id esc next) (writeItems id esc items)
        rw [writeItems, htail, List.append_assoc]
        exact skipSpace_write esc (hreadable next (by simp)) _
      rw [hmore, List.length_append, List.length_cons] at hfuel
      have hlength : (separated id (writeItems id esc (next :: items))).length < fuel := by omega
      have hnext := ih (List.cons_ne_nil _ _) (fun i hi => hreadable i (List.mem_cons_of_mem _ hi))
        (fun i hi => h i (List.mem_cons_of_mem _ hi)) (renamed norm item :: before) hlength
      rw [hmore, List.append_assoc, List.cons_append, scanItems,
        hitem fuel _ (by omega) (ends_cons (by decide) _)]
      simp only [Option.bind_eq_bind, Option.bind_some,
        skipSpace_of_ends (ends_cons (c := ',') (by decide) _), hspace, hnext]
      simp [renamedItems]

/-- What the members of an object leave in the dictionary. -/
def addEntries (norm : Str → Str) (before entries : List (Str × Json)) : List (Str × Json) :=
  (renamedEntries norm entries).foldl (fun d e => setEntry d e.1 e.2) before

lemma addEntries_cons (before : List (Str × Json)) (e : Str × Json) (entries : List (Str × Json)) :
    addEntries norm before (e :: entries) =
      addEntries norm (setEntry before (norm e.1) (renamed norm e.2)) entries := by
  rw [addEntries, renamedEntries, List.foldl_cons]
  rfl

lemma scanMembers_write {entries : List (Str × Json)} (hne : entries ≠ [])
    (hkeys : ∀ e ∈ entries, ReadsAs esc norm e.1) (hreadable : ∀ e ∈ entries, Readable reads e.2)
    (h : ∀ e ∈ entries, Reads esc norm e.2) (before : List (Str × Json)) (rest : List Char) {fuel : ℕ}
    (hfuel : (separated id (writeEntries id esc entries)).length < fuel) :
    scanMembers fuel before (separated id (writeEntries id esc entries) ++ '}' :: rest) =
      some (.dict (addEntries norm before entries), rest) := by
  induction entries generalizing before fuel with
  | nil => exact absurd rfl hne
  | cons e entries ih =>
    obtain ⟨fuel, rfl⟩ := Nat.exists_eq_succ_of_ne_zero (Nat.ne_zero_of_lt hfuel)
    obtain ⟨key, value⟩ := e
    have hkey : ReadsAs esc norm key := hkeys (key, value) List.mem_cons_self
    have hvalue : Reads esc norm value := h (key, value) List.mem_cons_self
    have hspace := skipSpace_write esc (hreadable (key, value) List.mem_cons_self)
    cases entries with
    | nil =>
      have hlast : separated id (writeEntries id esc [(key, value)]) =
          '"' :: (key.codes.flatMap esc ++ '"' :: ':' :: write id esc value) := by
        simp [writeEntries, separated, writeString]
      rw [hlast] at hfuel ⊢
      simp only [List.length_cons, List.length_append] at hfuel
      simp only [List.cons_append, List.append_assoc]
      rw [scanMembers, if_pos rfl, hkey]
      simp only [Option.bind_eq_bind, Option.bind_some, skipSpace_of_head (c := ':') (by decide), hspace]
      rw [hvalue fuel _ (by omega) (ends_cons (by decide) rest)]
      simp [skipSpace_of_ends (ends_cons (c := '}') (by decide) rest), addEntries, renamedEntries]
    | cons next entries =>
      have hmore : separated id (writeEntries id esc ((key, value) :: next :: entries)) =
          '"' :: (key.codes.flatMap esc ++ '"' :: ':' :: (write id esc value ++
            ',' :: separated id (writeEntries id esc (next :: entries)))) := by
        rw [writeEntries, writeEntries, separated_cons]
        simp [writeString]
      have hquote : ∀ tail, skipSpace (separated id (writeEntries id esc (next :: entries)) ++ tail) =
          separated id (writeEntries id esc (next :: entries)) ++ tail := by
        intro tail
        obtain ⟨more, hmore⟩ := exists_separated id
          (writeString id esc next.1 ++ ':' :: write id esc next.2) (writeEntries id esc entries)
        rw [writeEntries, show id ':' = ':' from rfl, hmore, writeString]
        exact skipSpace_of_head (by decide) _
      rw [hmore] at hfuel
      simp only [List.length_cons, List.length_append] at hfuel
      have hlength : (separated id (writeEntries id esc (next :: entries))).length < fuel := by omega
      have hnext := ih (List.cons_ne_nil _ _) (fun i hi => hkeys i (List.mem_cons_of_mem _ hi))
        (fun i hi => hreadable i (List.mem_cons_of_mem _ hi)) (fun i hi => h i (List.mem_cons_of_mem _ hi))
        (setEntry before (norm key) (renamed norm value)) hlength
      rw [hmore]
      simp only [List.cons_append, List.append_assoc]
      rw [scanMembers, if_pos rfl, hkey]
      simp only [Option.bind_eq_bind, Option.bind_some, skipSpace_of_head (c := ':') (by decide), hspace]
      rw [hvalue fuel _ (by omega) (ends_cons (by decide) _)]
      simp only [Option.bind_some, skipSpace_of_ends (ends_cons (c := ',') (by decide) _), hquote, hnext,
        addEntries_cons]

variable (esc) in
lemma length_write_pos {value : Json} (h : Readable reads value) : 0 < (write id esc value).length := by
  obtain ⟨c, cs, hcs, -⟩ := exists_write h
  rw [hcs]
  exact Nat.succ_pos _

/-- A value that the decoder can read at all is read back, whatever ends it. -/
theorem reads_of_readable (hreads : ∀ s, reads s → ReadsAs esc norm s) {value : Json}
    (h : Readable reads value) : Reads esc norm value := by
  induction h with
  | null => exact fun fuel rest hfuel hrest => scanValue_scalar rfl hrest (Nat.zero_lt_of_lt hfuel)
  | bool value =>
    intro fuel rest hfuel hrest
    have hreadable : Readable reads (.bool value) := .bool value
    have hpos := length_write_pos esc hreadable
    cases value with
    | false => exact scanValue_scalar rfl hrest (hpos.trans_le hfuel)
    | true => exact scanValue_scalar rfl hrest (hpos.trans_le hfuel)
  | int value h =>
    intro fuel rest hfuel hrest
    have hreadable : Readable reads (.int value) := .int value h
    have hpos := length_write_pos esc hreadable
    have hscan : scanScalar (write id esc (.int value)) = some (.int value, []) := by
      rw [write, word, List.map_id]
      exact scanScalar_toString h
    exact scanValue_scalar hscan hrest (hpos.trans_le hfuel)
  | float lexeme h =>
    intro fuel rest hfuel hrest
    have hreadable : Readable reads (.float lexeme) := .float lexeme h
    have hpos := length_write_pos esc hreadable
    have hscan : scanScalar (write id esc (.float lexeme)) = some (.float lexeme, []) := by
      rw [write, word, List.map_id]
      exact h
    exact scanValue_scalar hscan hrest (hpos.trans_le hfuel)
  | str value h =>
    intro fuel rest hfuel hrest
    obtain ⟨fuel, rfl⟩ := Nat.exists_eq_succ_of_ne_zero (Nat.ne_zero_of_lt
      ((length_write_pos esc (Readable.str value h)).trans_le hfuel))
    rw [write, writeString, List.cons_append, List.append_assoc]
    simp only [scanValue, id_eq, if_true, List.singleton_append, hreads value h rest, Option.map_some]
    rfl
  | list items h ih =>
    intro fuel rest hfuel hrest
    simp only [write, List.length_cons, List.length_append, List.length_nil] at hfuel
    obtain ⟨fuel, rfl⟩ := Nat.exists_eq_succ_of_ne_zero (Nat.ne_zero_of_lt hfuel)
    simp only [write, id_eq, List.cons_append, List.append_assoc]
    rw [scanValue, if_neg (by decide), if_neg (by decide), if_pos rfl]
    cases items with
    | nil => rfl
    | cons item items =>
      obtain ⟨c, cs, hcs, hc⟩ := exists_write (h item List.mem_cons_self)
      obtain ⟨tail, htail⟩ := exists_separated id (write id esc item) (writeItems id esc items)
      have hclose : c ≠ ']' := fun he => hc (by simp [he])
      have hlength : (separated id (writeItems id esc (item :: items))).length < fuel := by omega
      have hitems := scanItems_write (List.cons_ne_nil item items) h ih [] rest hlength
      rw [writeItems, htail, hcs] at hitems ⊢
      simp only [List.cons_append, List.append_assoc, List.nil_append] at hitems ⊢
      rw [skipSpace_of_head fun hmem => hc (List.mem_cons_of_mem _ (List.mem_cons_of_mem _ hmem))]
      split
      · next heq => exact absurd (List.cons.inj heq).1 hclose
      · exact hitems
  | dict entries hnodup hkeys h ih =>
    intro fuel rest hfuel hrest
    simp only [write, List.length_cons, List.length_append, List.length_nil] at hfuel
    obtain ⟨fuel, rfl⟩ := Nat.exists_eq_succ_of_ne_zero (Nat.ne_zero_of_lt hfuel)
    simp only [write, id_eq, List.cons_append, List.append_assoc]
    rw [scanValue, if_neg (by decide), if_pos rfl]
    cases entries with
    | nil => rfl
    | cons e entries =>
      obtain ⟨tail, htail⟩ := exists_separated id (writeString id esc e.1 ++ ':' :: write id esc e.2)
        (writeEntries id esc entries)
      have hlength : (separated id (writeEntries id esc (e :: entries))).length < fuel := by omega
      have hmembers := scanMembers_write (List.cons_ne_nil e entries) (fun i hi => hreads i.1 (hkeys i hi)) h ih
        [] rest hlength
      rw [writeEntries, id_eq, htail, writeString] at hmembers ⊢
      simp only [List.cons_append, List.append_assoc, List.nil_append, id_eq] at hmembers ⊢
      rw [skipSpace_of_head (by decide)]
      exact hmembers

theorem loads_write (hreads : ∀ s, reads s → ReadsAs esc norm s) {value : Json} (h : Readable reads value) :
    loads (ofChars (write id esc value)) = some (renamed norm value) := by
  have hvalue : scanValue (2 * (write id esc value).length + 1) (write id esc value) =
      some (renamed norm value, []) := by
    have hall := reads_of_readable hreads h (2 * (write id esc value).length + 1) [] (by omega) ends_nil
    rwa [List.append_nil] at hall
  have hspace := skipSpace_write esc h []
  rw [List.append_nil] at hspace
  simp only [loads, ofChars_eq, chars_eq, String.toList_ofList, hspace, hvalue]
  rfl

lemma renamedEntries_eq (entries : List (Str × Json)) :
    renamedEntries norm entries = entries.map fun e => (norm e.1, renamed norm e.2) := by
  induction entries with
  | nil => rfl
  | cons e entries ih => rw [renamedEntries, ih, List.map_cons]

lemma addEntries_eq_append {before entries : List (Str × Json)} (h : (before ++ entries).map Prod.fst |>.Nodup) :
    entries.foldl (fun d e => setEntry d e.1 e.2) before = before ++ entries := by
  induction entries generalizing before with
  | nil => rw [List.foldl_nil, List.append_nil]
  | cons e entries ih =>
    rw [List.foldl_cons, setEntry_fresh, ih]
    · rw [List.append_assoc]
      rfl
    · rwa [List.append_assoc]
    · intro d hd heq
      rw [List.map_append, List.nodup_append] at h
      exact h.2.2 d.1 (List.mem_map_of_mem hd) e.1 (by simp) heq

lemma length_setEntry (entries : List (Str × Json)) (key : Str) (value : Json) :
    (setEntry entries key value).length =
      if key ∈ entries.map Prod.fst then entries.length else entries.length + 1 := by
  induction entries with
  | nil => rfl
  | cons e entries ih =>
    by_cases he : e.1 = key
    · rw [setEntry, if_pos he, if_pos (by simp [he])]
      rfl
    · have hmem : key ∈ (e :: entries).map Prod.fst ↔ key ∈ entries.map Prod.fst := by
        rw [List.map_cons, List.mem_cons, or_iff_right (Ne.symm he)]
      rw [setEntry, if_neg he, List.length_cons, ih, List.length_cons]
      simp only [hmem]
      split_ifs <;> rfl

/-- A dictionary that keeps as many entries as were set has these entries. -/
lemma foldl_setEntry_of_length {entries : List (Str × Json)}
    (h : entries.length ≤ (entries.foldl (fun d e => setEntry d e.1 e.2) []).length) :
    entries.foldl (fun d e => setEntry d e.1 e.2) [] = entries := by
  have hle : ∀ entries : List (Str × Json),
      (entries.foldl (fun d e => setEntry d e.1 e.2) []).length ≤ entries.length := by
    intro entries
    induction entries using List.reverseRecOn with
    | nil => exact le_rfl
    | append_singleton entries e ih =>
      rw [List.foldl_append, List.foldl_cons, List.foldl_nil, length_setEntry, List.length_append]
      split_ifs <;> simp <;> omega
  induction entries using List.reverseRecOn with
  | nil => rfl
  | append_singleton entries e ih =>
    have hentries := hle entries
    rw [List.foldl_append, List.foldl_cons, List.foldl_nil, length_setEntry, List.length_append,
      List.length_singleton] at h
    have hfresh : e.1 ∉ (entries.foldl (fun d e => setEntry d e.1 e.2) []).map Prod.fst := by
      intro hmem
      rw [if_pos hmem] at h
      omega
    rw [if_neg hfresh] at h
    have heq := ih (by omega)
    rw [List.foldl_append, List.foldl_cons, List.foldl_nil, heq, setEntry_fresh]
    intro d hd hkey
    rw [heq] at hfresh
    exact hfresh (List.mem_map.mpr ⟨d, hd, hkey⟩)

end Pentagon5.Python.Json
