import Pentagon5.Python.Text
import Mathlib.Data.Int.Notation
import Mathlib.Data.List.Nodup

/-!
# Python's `json` module

Values, the compact encoder for dictionaries of strings and the decoder. The decoder joins
escaped surrogate pairs and keeps a lone surrogate. A float keeps its source text, since
`float` is applied by the reader of it.
-/

namespace Pentagon5.Python

inductive Json where
  | null
  | bool (value : Bool)
  | int (value : ℤ)
  | float (lexeme : String)
  | str (value : Str)
  | list (items : List Json)
  | dict (entries : List (Str × Json))

namespace Json

/-- `dict[key] = value`: a repeated key keeps its position and takes the new value. -/
def setEntry (entries : List (Str × Json)) (key : Str) (value : Json) :
    List (Str × Json) :=
  match entries with
  | [] => [(key, value)]
  | (k, v) :: rest => if k = key then (k, value) :: rest else (k, v) :: setEntry rest key value

/-- An entry of a dictionary display. -/
def entry (key : String) (value : Json) : Str × Json := (↑key, value)

/-- `dict.get(key)`. -/
def get? (entries : List (Str × Json)) (key : String) : Option Json :=
  entries.lookup (Str.ofString key)

@[simp] lemma get?_nil (key : String) : get? [] key = none := rfl

@[simp] lemma get?_entry (k : String) (value : Json) (entries : List (Str × Json)) (key : String) :
    get? (entry k value :: entries) key = if k = key then some value else get? entries key := by
  have hkey : (Str.ofString key == Str.ofString k) = decide (k = key) := by
    rw [Bool.eq_iff_iff, beq_iff_eq, Str.ofString_inj, decide_eq_true_eq, eq_comm]
  rw [get?, entry, List.lookup_cons, hkey]
  by_cases h : k = key
  · rw [decide_eq_true h, if_pos h]
  · rw [decide_eq_false h, if_neg h, get?]

/-- What stands at a path of keys. -/
def at? : Json → List String → Option Json
  | value, [] => some value
  | dict entries, key :: path => (get? entries key).bind fun value => at? value path
  | _, _ :: _ => none

/-- The text of a `str`; `none` where `isinstance(value, str)` is false. -/
def str? : Json → Option Str
  | str value => some value
  | _ => none

/-- Whether a value that `dict.get` returned equals a text. -/
def isText (value : Option Json) (text : Str) : Bool :=
  match value with
  | some (str v) => v = text
  | _ => false

def hexDigit (n : ℕ) : Char := Char.ofNat (if n < 10 then n + 48 else n + 87)

/-- `'\\u{0:04x}'.format(n)`. -/
def unicodeEscape (n : ℕ) : List Char :=
  ['\\', 'u', hexDigit (n / 4096 % 16), hexDigit (n / 256 % 16), hexDigit (n / 16 % 16),
    hexDigit (n % 16)]

/-- The two-character escapes. -/
def shortEscapes : List (Char × Char) :=
  [('"', '"'), ('\\', '\\'), ('\n', 'n'), ('\r', 'r'), ('\t', 't'), ('\x0c', 'f'), ('\x08', 'b')]

/-- One character as `ensure_ascii` writes it. -/
def escapeChar (c : Char) : List Char :=
  match shortEscapes.lookup c with
  | some e => ['\\', e]
  | none =>
    if ' ' ≤ c ∧ c ≤ '~' then [c]
    else if c.toNat < 0x10000 then unicodeEscape c.toNat
    else unicodeEscape (0xD800 + (c.toNat - 0x10000) / 0x400) ++
      unicodeEscape (0xDC00 + (c.toNat - 0x10000) % 0x400)

def quote (s : List Char) : List Char := '"' :: (s.flatMap escapeChar ++ ['"'])

def dumpsMember (member : String × String) : List Char :=
  quote (chars member.1) ++ ':' :: quote (chars member.2)

def dumpsMembers : List (String × String) → List Char
  | [] => []
  | [m] => dumpsMember m
  | m :: ms => dumpsMember m ++ ',' :: dumpsMembers ms

/-- `json.dumps(payload, separators=(",", ":"))` for a dictionary of strings. -/
def dumps (payload : List (String × String)) : String :=
  ofChars ('{' :: (dumpsMembers payload ++ ['}']))

def hexValue? (c : Char) : Option ℕ :=
  if '0' ≤ c ∧ c ≤ '9' then some (c.toNat - '0'.toNat)
  else if 'a' ≤ c ∧ c ≤ 'f' then some (c.toNat - 'a'.toNat + 10)
  else if 'A' ≤ c ∧ c ≤ 'F' then some (c.toNat - 'A'.toNat + 10)
  else none

/-- Four hexadecimal digits. -/
def scanHex4 : List Char → Option (ℕ × List Char)
  | a :: b :: c :: d :: rest => do
    let a ← hexValue? a
    let b ← hexValue? b
    let c ← hexValue? c
    let d ← hexValue? d
    some (a * 4096 + b * 256 + c * 16 + d, rest)
  | _ => none

/-- The code point of an escape whose digits are `n`: the high half of a surrogate pair is
joined with the low half when that follows. -/
def joinSurrogates (n : ℕ) (rest : List Char) : ℕ × List Char :=
  if 0xD800 ≤ n ∧ n ≤ 0xDBFF then
    match rest with
    | '\\' :: 'u' :: low =>
      match scanHex4 low with
      | some (m, low) =>
        if 0xDC00 ≤ m ∧ m ≤ 0xDFFF then (0x10000 + (n - 0xD800) * 0x400 + (m - 0xDC00), low)
        else (n, rest)
      | none => (n, rest)
    | _ => (n, rest)
  else (n, rest)

/-- What follows a backslash. -/
def scanEscape : List Char → Option (ℕ × List Char)
  | [] => none
  | e :: rest =>
    if e = 'u' then (scanHex4 rest).map fun (n, rest) => joinSurrogates n rest
    else if e = '/' then some ('/'.toNat, rest)
    else ((shortEscapes.map Prod.swap).lookup e).map fun c => (c.toNat, rest)

/-- One code point of a string literal; control characters have to be escaped. -/
def scanChar : List Char → Option (ℕ × List Char)
  | [] => none
  | c :: rest =>
    if c = '\\' then scanEscape rest
    else if c.toNat < 0x20 then none
    else some (c.toNat, rest)

/-- The rest of a string literal after its opening quote. -/
def scanString : ℕ → List Char → Option (List ℕ × List Char)
  | 0, _ => none
  | _ + 1, [] => none
  | fuel + 1, c :: rest =>
    if c = '"' then some ([], rest)
    else do
      let (n, rest) ← scanChar (c :: rest)
      let (s, rest) ← scanString fuel rest
      some (n :: s, rest)

def skipSpace (cs : List Char) : List Char :=
  cs.dropWhile (fun c => c = ' ' ∨ c = '\t' ∨ c = '\n' ∨ c = '\r')

def digits (cs : List Char) : List Char × List Char := cs.span Char.isDigit

/-- `int` refuses more digits than `sys.int_info.default_max_str_digits`. -/
def intOfDigits (negative : Bool) (ds : List Char) : Option Json :=
  if ds.length ≤ 4300 then
    let n := ds.foldl (fun n d => 10 * n + (d.toNat - '0'.toNat)) 0
    some (.int (if negative then -(n : ℤ) else n))
  else none

/-- The fraction and the exponent of a number whose integer part is `ds`. -/
def scanFraction (negative : Bool) (ds : List Char) (cs : List Char) :
    Option (Json × List Char) :=
  let (fraction, cs) := match cs with
    | '.' :: rest => match digits rest with
      | ([], _) => ([], cs)
      | (f, rest) => ('.' :: f, rest)
    | _ => ([], cs)
  let (exponent, cs) := match cs with
    | e :: rest =>
      if e = 'e' ∨ e = 'E' then
        let (sign, rest) := match rest with
          | '+' :: rest => (['+'], rest)
          | '-' :: rest => (['-'], rest)
          | _ => ([], rest)
        match digits rest with
        | ([], _) => ([], cs)
        | (x, rest) => (e :: (sign ++ x), rest)
      else ([], cs)
    | [] => ([], cs)
  if fraction = [] ∧ exponent = [] then (intOfDigits negative ds).map (·, cs)
  else some (.float (String.ofList
    ((if negative then ['-'] else []) ++ ds ++ fraction ++ exponent)), cs)

/-- A number whose sign has been read. -/
def scanUnsigned (negative : Bool) : List Char → Option (Json × List Char)
  | '0' :: rest => scanFraction negative ['0'] rest
  | d :: rest =>
    if '1' ≤ d ∧ d ≤ '9' then
      let (ds, rest) := digits rest
      scanFraction negative (d :: ds) rest
    else none
  | [] => none

def scanLiteral (word : String) (value : Json) (cs : List Char) : Option (Json × List Char) :=
  if word.toList.isPrefixOf cs then some (value, cs.drop word.length) else none

/-- `null`, the booleans, the three non-finite floats and the numbers. -/
def scanScalar (cs : List Char) : Option (Json × List Char) :=
  (scanLiteral "null" .null cs).or <| (scanLiteral "true" (.bool true) cs).or <|
  (scanLiteral "false" (.bool false) cs).or <| (scanLiteral "NaN" (.float "NaN") cs).or <|
  (scanLiteral "Infinity" (.float "Infinity") cs).or <|
  (scanLiteral "-Infinity" (.float "-Infinity") cs).or <|
  match cs with
  | '-' :: rest => scanUnsigned true rest
  | _ => scanUnsigned false cs

mutual

/-- The first value of a text, which starts at its first character. -/
def scanValue : ℕ → List Char → Option (Json × List Char)
  | 0, _ => none
  | _ + 1, [] => none
  | fuel + 1, c :: rest =>
    if c = '"' then
      (scanString (rest.length + 1) rest).map fun (s, rest) => (.str ⟨s⟩, rest)
    else if c = '{' then
      match skipSpace rest with
      | '}' :: rest => some (.dict [], rest)
      | rest => scanMembers fuel [] rest
    else if c = '[' then
      match skipSpace rest with
      | ']' :: rest => some (.list [], rest)
      | rest => scanItems fuel [] rest
    else scanScalar (c :: rest)

/-- The members of an object after the `entries` read so far. -/
def scanMembers : ℕ → List (Str × Json) → List Char → Option (Json × List Char)
  | 0, _, _ => none
  | _ + 1, _, [] => none
  | fuel + 1, entries, c :: rest =>
    if c = '"' then do
      let (key, rest) ← scanString (rest.length + 1) rest
      match skipSpace rest with
      | ':' :: rest =>
        let (value, rest) ← scanValue fuel (skipSpace rest)
        let entries := setEntry entries ⟨key⟩ value
        match skipSpace rest with
        | '}' :: rest => some (.dict entries, rest)
        | ',' :: rest => scanMembers fuel entries (skipSpace rest)
        | _ => none
      | _ => none
    else none

/-- The items of an array after the `items` read so far, latest first. -/
def scanItems : ℕ → List Json → List Char → Option (Json × List Char)
  | 0, _, _ => none
  | fuel + 1, items, cs => do
    let (item, rest) ← scanValue fuel cs
    match skipSpace rest with
    | ']' :: rest => some (.list (item :: items).reverse, rest)
    | ',' :: rest => scanItems fuel (item :: items) (skipSpace rest)
    | _ => none

end

/-- `json.loads` of a text; `none` where it raises. -/
def loads (text : String) : Option Json :=
  let cs := skipSpace (chars text)
  match scanValue (2 * cs.length + 1) cs with
  | some (value, rest) => if skipSpace rest = [] then some value else none
  | none => none

lemma hexValue_hexDigit : ∀ n < 16, hexValue? (hexDigit n) = some n := by decide

lemma scanHex4_hexDigits {n : ℕ} (hn : n < 0x10000) (rest : List Char) :
    scanHex4 (hexDigit (n / 4096 % 16) :: hexDigit (n / 256 % 16) :: hexDigit (n / 16 % 16) ::
      hexDigit (n % 16) :: rest) = some (n, rest) := by
  have digit : ∀ m, hexValue? (hexDigit (m % 16)) = some (m % 16) :=
    fun m => hexValue_hexDigit _ (Nat.mod_lt _ (by decide))
  simp only [scanHex4, digit, Option.bind_eq_bind, Option.bind_some, Option.some.injEq,
    Prod.mk.injEq, and_true]
  omega

lemma toNat_valid (c : Char) : c.toNat < 0xD800 ∨ 0xDFFF < c.toNat ∧ c.toNat < 0x110000 :=
  c.valid

lemma scanChar_unicodeEscape {n : ℕ} (hn : n < 0x10000) (hs : n < 0xD800 ∨ 0xDFFF < n)
    (rest : List Char) : scanChar (unicodeEscape n ++ rest) = some (n, rest) := by
  have h1 : ¬(0xD800 ≤ n ∧ n ≤ 0xDBFF) := by omega
  simp only [unicodeEscape, List.cons_append, List.nil_append, scanChar, if_true, scanEscape,
    scanHex4_hexDigits hn, Option.map_some, joinSurrogates, if_neg h1]

lemma scanChar_surrogates {n : ℕ} (hn : n < 0x100000) (rest : List Char) :
    scanChar (unicodeEscape (0xD800 + n / 0x400) ++ unicodeEscape (0xDC00 + n % 0x400) ++ rest) =
      some (n + 0x10000, rest) := by
  have hhi : 0xD800 + n / 0x400 < 0x10000 := by omega
  have hlo : 0xDC00 + n % 0x400 < 0x10000 := by omega
  have h1 : 0xD800 ≤ 0xD800 + n / 0x400 ∧ 0xD800 + n / 0x400 ≤ 0xDBFF := by omega
  have h2 : 0xDC00 ≤ 0xDC00 + n % 0x400 ∧ 0xDC00 + n % 0x400 ≤ 0xDFFF := by omega
  have hsum : 0x10000 + (0xD800 + n / 0x400 - 0xD800) * 0x400 + (0xDC00 + n % 0x400 - 0xDC00) =
      n + 0x10000 := by omega
  rw [unicodeEscape, unicodeEscape]
  simp only [List.cons_append, List.nil_append, scanChar, if_true, scanEscape,
    scanHex4_hexDigits hhi, Option.map_some, joinSurrogates, if_pos h1,
    scanHex4_hexDigits hlo, if_pos h2, hsum]

lemma shortEscapes_inverse {c e : Char} (h : shortEscapes.lookup c = some e) :
    e ≠ 'u' ∧ e ≠ '/' ∧ (shortEscapes.map Prod.swap).lookup e = some c := by
  obtain ⟨l₁, l₂, hl, -⟩ := List.lookup_eq_some_iff.mp h
  have hmem : (c, e) ∈ shortEscapes := by simp [hl]
  have hall : ∀ p ∈ shortEscapes,
      p.2 ≠ 'u' ∧ p.2 ≠ '/' ∧ (shortEscapes.map Prod.swap).lookup p.2 = some p.1 := by decide
  exact hall (c, e) hmem

/-- The decoder reads back one character as the encoder wrote it. -/
theorem scanChar_escapeChar (c : Char) (rest : List Char) :
    scanChar (escapeChar c ++ rest) = some (c.toNat, rest) := by
  unfold escapeChar
  cases h : shortEscapes.lookup c with
  | some e =>
    obtain ⟨hu, hs, he⟩ := shortEscapes_inverse h
    simp [scanChar, scanEscape, hu, hs, he]
  | none =>
    simp only
    split
    · next hprint =>
      have hb : c ≠ '\\' := by rintro rfl; simp [shortEscapes] at h
      have hc : ¬c.toNat < 0x20 := Nat.not_lt.mpr hprint.1
      simp [scanChar, hb, hc]
    · split
      · next hsmall =>
        have hv := toNat_valid c
        rw [scanChar_unicodeEscape hsmall (by omega)]
      · next hbig =>
        have hv := toNat_valid c
        have hn : c.toNat - 0x10000 < 0x100000 := by omega
        have hback : c.toNat - 0x10000 + 0x10000 = c.toNat := by omega
        rw [scanChar_surrogates hn, hback]

lemma escapeChar_head (c : Char) : ∃ d ds, escapeChar c = d :: ds ∧ d ≠ '"' := by
  unfold escapeChar
  cases h : shortEscapes.lookup c with
  | some e => exact ⟨'\\', [e], rfl, by decide⟩
  | none =>
    simp only
    split
    · refine ⟨c, [], rfl, ?_⟩
      rintro rfl
      simp [shortEscapes] at h
    · split
      · exact ⟨'\\', _, rfl, by decide⟩
      · exact ⟨'\\', _, rfl, by decide⟩

lemma scanString_escaped (s rest : List Char) (fuel : ℕ) (hf : s.length < fuel) :
    scanString fuel (s.flatMap escapeChar ++ '"' :: rest) = some (s.map Char.toNat, rest) := by
  induction s generalizing fuel with
  | nil =>
    cases fuel with
    | zero => simp at hf
    | succ fuel => simp [scanString]
  | cons c s ih =>
    cases fuel with
    | zero => simp at hf
    | succ fuel =>
      obtain ⟨d, ds, hd, hq⟩ := escapeChar_head c
      have hc := scanChar_escapeChar c (s.flatMap escapeChar ++ '"' :: rest)
      rw [hd] at hc
      have hs := ih fuel (by simpa using hf)
      simp only [List.flatMap_cons, hd, List.cons_append, List.append_assoc] at hc ⊢
      simp only [scanString, if_neg hq, hc, Option.bind_eq_bind, Option.bind_some, hs, List.map_cons]

lemma length_le_escaped (s : List Char) : s.length ≤ (s.flatMap escapeChar).length := by
  induction s with
  | nil => simp
  | cons c s ih =>
    obtain ⟨d, ds, hd, -⟩ := escapeChar_head c
    simp only [List.flatMap_cons, hd, List.length_append, List.length_cons]
    omega

lemma scanString_quote (s rest : List Char) :
    scanString ((s.flatMap escapeChar ++ '"' :: rest).length + 1)
      (s.flatMap escapeChar ++ '"' :: rest) = some (s.map Char.toNat, rest) := by
  apply scanString_escaped
  have := length_le_escaped s
  simp only [List.length_append, List.length_cons]
  omega

lemma scanValue_quote (s : String) (rest : List Char) (fuel : ℕ) :
    scanValue (fuel + 1) (quote s.toList ++ rest) = some (.str s, rest) := by
  simp only [quote, List.cons_append, List.append_assoc, List.nil_append, scanValue, if_true,
    scanString_quote, Option.map_some, Str.ofString, chars_eq]

lemma skipSpace_quote (s rest : List Char) : skipSpace (quote s ++ rest) = quote s ++ rest := by
  simp [quote, skipSpace]

/-- A dictionary of strings as a JSON value. -/
def ofStrings (payload : List (String × String)) : List (Str × Json) :=
  payload.map (fun m => (↑m.1, .str m.2))

lemma nodup_ofStrings {payload : List (String × String)} (h : (payload.map Prod.fst).Nodup) :
    ((ofStrings payload).map Prod.fst).Nodup := by
  have hkeys : (ofStrings payload).map Prod.fst = (payload.map Prod.fst).map Str.ofString := by
    simp [ofStrings]
  rw [hkeys]
  exact List.Nodup.map Str.ofString_injective h

lemma get?_ofStrings (payload : List (String × String)) (key : String) :
    get? (ofStrings payload) key = (payload.lookup key).map fun value => .str value := by
  induction payload with
  | nil => rfl
  | cons m payload ih =>
    obtain ⟨k, v⟩ := m
    have hkey : (Str.ofString key == Str.ofString k) = (key == k) := by
      rw [Bool.eq_iff_iff, beq_iff_eq, beq_iff_eq, Str.ofString_inj]
    simp only [get?, ofStrings, List.map_cons, List.lookup_cons, hkey] at ih ⊢
    cases key == k
    · exact ih
    · rfl

lemma setEntry_fresh {entries : List (Str × Json)} {key : Str}
    (h : ∀ e ∈ entries, e.1 ≠ key) (value : Json) :
    setEntry entries key value = entries ++ [(key, value)] := by
  induction entries with
  | nil => rfl
  | cons e entries ih =>
    have he : e.1 ≠ key := h e (by simp)
    simp [setEntry, he, ih (fun e he => h e (by simp [he]))]

lemma scanMembers_dumpsMember (m : String × String) (entries : List (Str × Json))
    (rest : List Char) (fuel : ℕ) :
    scanMembers (fuel + 2) entries (dumpsMember m ++ rest) =
      match skipSpace rest with
      | '}' :: rest => some (.dict (setEntry entries m.1 (.str m.2)), rest)
      | ',' :: rest => scanMembers (fuel + 1) (setEntry entries m.1 (.str m.2)) (skipSpace rest)
      | _ => none := by
  have hcolon : ∀ r, skipSpace (':' :: r) = ':' :: r := fun r => by simp [skipSpace]
  have hkey : dumpsMember m ++ rest = '"' :: (m.1.toList.flatMap escapeChar ++
      '"' :: ':' :: (quote m.2.toList ++ rest)) := by
    simp [dumpsMember, quote]
  rw [hkey, scanMembers]
  simp only [if_true, scanString_quote, Option.bind_eq_bind, Option.bind_some, hcolon,
    skipSpace_quote, scanValue_quote, Str.ofString, chars_eq]

lemma scanMembers_dumpsMembers (payload : List (String × String)) (hne : payload ≠ [])
    (entries : List (Str × Json)) (rest : List Char) (fuel : ℕ)
    (hf : payload.length < fuel)
    (hnodup : (entries.map Prod.fst ++ (ofStrings payload).map Prod.fst).Nodup) :
    scanMembers fuel entries (dumpsMembers payload ++ '}' :: rest) =
      some (.dict (entries ++ ofStrings payload), rest) := by
  induction payload generalizing entries fuel with
  | nil => exact absurd rfl hne
  | cons m payload ih =>
    obtain ⟨fuel, rfl⟩ : ∃ f, fuel = f + 2 := ⟨fuel - 2, by simp at hf; omega⟩
    have hfresh : ∀ e ∈ entries, e.1 ≠ m.1 := by
      intro e he heq
      have := (List.nodup_append.mp hnodup).2.2 e.1 (List.mem_map_of_mem he) m.1
        (by simp [ofStrings])
      exact this heq
    cases payload with
    | nil =>
      rw [dumpsMembers, scanMembers_dumpsMember]
      simp [skipSpace, setEntry_fresh hfresh, ofStrings]
    | cons m' payload =>
      rw [dumpsMembers.eq_3 m (m' :: payload) (by simp), List.append_assoc,
        scanMembers_dumpsMember]
      have hcomma : ∀ r, skipSpace (',' :: r) = ',' :: r := fun r => by simp [skipSpace]
      have hnext : skipSpace (dumpsMembers (m' :: payload) ++ '}' :: rest) =
          dumpsMembers (m' :: payload) ++ '}' :: rest := by
        cases payload <;> simp [dumpsMembers, dumpsMember, quote, skipSpace]
      simp only [List.cons_append, hcomma, hnext, setEntry_fresh hfresh]
      rw [ih (by simp) _ (fuel + 1) (by simp at hf ⊢; omega) (by simpa [ofStrings] using hnodup)]
      simp [ofStrings]

lemma length_le_dumpsMembers (payload : List (String × String)) :
    payload.length ≤ (dumpsMembers payload).length := by
  induction payload with
  | nil => simp
  | cons m payload ih =>
    cases payload with
    | nil => simp [dumpsMembers, dumpsMember, quote]
    | cons m' payload =>
      simp only [dumpsMembers, List.length_append, List.length_cons] at ih ⊢
      omega

/-- Decoding what was encoded gives the dictionary back. -/
theorem loads_dumps (payload : List (String × String)) (h : (payload.map Prod.fst).Nodup) :
    loads (dumps payload) = some (.dict (ofStrings payload)) := by
  have hspace : ∀ cs : List Char, skipSpace ('{' :: cs) = '{' :: cs := fun cs => by simp [skipSpace]
  have hvalue : scanValue (2 * ('{' :: (dumpsMembers payload ++ ['}'])).length + 1)
      ('{' :: (dumpsMembers payload ++ ['}'])) = some (.dict (ofStrings payload), []) := by
    rw [scanValue, if_neg (by decide), if_pos rfl]
    cases payload with
    | nil => simp [dumpsMembers, skipSpace, ofStrings]
    | cons m payload =>
      have hopen : ∃ cs, dumpsMembers (m :: payload) ++ ['}'] = '"' :: cs := by
        cases payload <;> exact ⟨_, rfl⟩
      have hm := scanMembers_dumpsMembers (m :: payload) (by simp) [] []
        (2 * ('{' :: (dumpsMembers (m :: payload) ++ ['}'])).length)
        (by have := length_le_dumpsMembers (m :: payload); simp at this ⊢; omega)
        (by simpa only [List.map_nil, List.nil_append] using nodup_ofStrings h)
      obtain ⟨cs, hcs⟩ := hopen
      rw [hcs] at hm ⊢
      have hq : skipSpace ('"' :: cs) = '"' :: cs := by simp [skipSpace]
      simpa [hq] using hm
  simp only [loads, dumps, ofChars_eq, chars_eq, String.toList_ofList, hspace, hvalue]
  simp [skipSpace]

end Json

end Pentagon5.Python
