import Pentagon5.Python.Text

/-!
# Python's base64

The encoder pads. `urlsafe_b64decode` uses the non-strict decoder of `binascii.a2b_base64`, which
skips every character outside the alphabet and stops at complete padding; `b64decode` with
`validate` uses the strict one, which refuses these.
-/

namespace Pentagon5.Python.Base64

/-- The alphabet `A`-`Z`, `a`-`z`, `0`-`9`, `-`, `_`. -/
def symbol (n : ℕ) : Char :=
  if n < 26 then Char.ofNat (n + 65)
  else if n < 52 then Char.ofNat (n + 71)
  else if n < 62 then Char.ofNat (n - 4)
  else if n = 62 then '-' else '_'

/-- `base64.urlsafe_b64encode(data).decode()`, by its characters. -/
def encodeBytes : List UInt8 → List Char
  | [] => []
  | [a] => [symbol (a.toNat / 4), symbol (a.toNat % 4 * 16), '=', '=']
  | [a, b] =>
    [symbol (a.toNat / 4), symbol (a.toNat % 4 * 16 + b.toNat / 16), symbol (b.toNat % 16 * 4), '=']
  | a :: b :: c :: rest =>
    symbol (a.toNat / 4) :: symbol (a.toNat % 4 * 16 + b.toNat / 16) ::
      symbol (b.toNat % 16 * 4 + c.toNat / 64) :: symbol (c.toNat % 64) :: encodeBytes rest

def urlsafeB64encode (data : List UInt8) : String := ofChars (encodeBytes data)

/-- The value of an alphabet character, in either alphabet. -/
def sextet? (c : Char) : Option ℕ :=
  if 'A' ≤ c ∧ c ≤ 'Z' then some (c.toNat - 'A'.toNat)
  else if 'a' ≤ c ∧ c ≤ 'z' then some (c.toNat - 'a'.toNat + 26)
  else if '0' ≤ c ∧ c ≤ '9' then some (c.toNat - '0'.toNat + 52)
  else if c = '+' ∨ c = '-' then some 62
  else if c = '/' ∨ c = '_' then some 63
  else none

/-- The loop of `a2b_base64`: `quadPos` characters of a group are read, of which `leftchar`
holds the bits not yet written, and `pads` padding characters follow them. -/
def decodeLoop : (quadPos leftchar pads : ℕ) → List Char → Option (List UInt8)
  | quadPos, _, _, [] => if quadPos = 0 then some [] else none
  | quadPos, leftchar, pads, c :: rest =>
    if c = '=' then
      if 2 ≤ quadPos then
        if 4 ≤ quadPos + (pads + 1) then some []
        else decodeLoop quadPos leftchar (pads + 1) rest
      else decodeLoop quadPos leftchar pads rest
    else
      match sextet? c with
      | none => decodeLoop quadPos leftchar pads rest
      | some d =>
        match quadPos with
        | 0 => decodeLoop 1 d 0 rest
        | 1 => (decodeLoop 2 (d % 16) 0 rest).map (UInt8.ofNat (leftchar * 4 + d / 16) :: ·)
        | 2 => (decodeLoop 3 (d % 4) 0 rest).map (UInt8.ofNat (leftchar * 16 + d / 4) :: ·)
        | _ => (decodeLoop 0 0 0 rest).map (UInt8.ofNat (leftchar * 64 + d) :: ·)

/-- `base64.urlsafe_b64decode(value)`; `none` where it raises. -/
def urlsafeB64decode (value : String) : Option (List UInt8) :=
  if isAscii (encode value) then decodeLoop 0 0 0 (chars value) else none

/-- The loop of `a2b_base64` in strict mode; `padded` once a padding character was read. -/
def strictLoop : (quadPos leftchar pads : ℕ) → (padded : Bool) → List Char → Option (List UInt8)
  | quadPos, _, _, _, [] => if quadPos = 0 then some [] else none
  | quadPos, leftchar, pads, padded, c :: rest =>
    if c = '=' then
      if quadPos = 0 then none
      else if 2 ≤ quadPos then
        if 4 ≤ quadPos + (pads + 1) then if rest.isEmpty then some [] else none
        else strictLoop quadPos leftchar (pads + 1) true rest
      else strictLoop quadPos leftchar pads true rest
    else
      match sextet? c with
      | none => none
      | some d =>
        if padded then none
        else match quadPos with
          | 0 => strictLoop 1 d 0 padded rest
          | 1 => (strictLoop 2 (d % 16) 0 padded rest).map (UInt8.ofNat (leftchar * 4 + d / 16) :: ·)
          | 2 => (strictLoop 3 (d % 4) 0 padded rest).map (UInt8.ofNat (leftchar * 16 + d / 4) :: ·)
          | _ => (strictLoop 0 0 0 padded rest).map (UInt8.ofNat (leftchar * 64 + d) :: ·)

/-- The character of the standard alphabet with the same value. -/
def toStandard (c : Char) : Char := if c = '-' then '+' else if c = '_' then '/' else c

/-- A spelling of the data: in the standard or the URL-safe alphabet, padded or not. -/
def spell (standard padded : Bool) (data : List UInt8) : List Char :=
  let symbols := if padded then encodeBytes data else (encodeBytes data).filter (· ≠ '=')
  if standard then symbols.map toStandard else symbols

/-- `"=" * (-n % 4)`. -/
def padding (n : ℕ) : List Char := List.replicate ((4 - n % 4) % 4) '='

/-- `base64.b64decode(value, altchars=b"-_", validate=True)`; `none` where it raises `ValueError`.
The translation of `altchars` leaves the standard alphabet as it is. -/
def b64decode (value : String) : Option (List UInt8) :=
  if isAscii (encode value) then strictLoop 0 0 0 false (chars value) else none

lemma symbol_spec : ∀ n < 64, symbol n ≠ '=' ∧ sextet? (symbol n) = some n ∧
    (symbol n).toNat < 128 := by decide +kernel

lemma decodeLoop_symbol {n : ℕ} (hn : n < 64) (quadPos leftchar pads : ℕ) (rest : List Char) :
    decodeLoop quadPos leftchar pads (symbol n :: rest) =
      match quadPos with
      | 0 => decodeLoop 1 n 0 rest
      | 1 => (decodeLoop 2 (n % 16) 0 rest).map (UInt8.ofNat (leftchar * 4 + n / 16) :: ·)
      | 2 => (decodeLoop 3 (n % 4) 0 rest).map (UInt8.ofNat (leftchar * 16 + n / 4) :: ·)
      | _ => (decodeLoop 0 0 0 rest).map (UInt8.ofNat (leftchar * 64 + n) :: ·) := by
  obtain ⟨hpad, hval, -⟩ := symbol_spec n hn
  rw [decodeLoop, if_neg hpad, hval]

/-- The first of the bytes packed into two characters. -/
lemma first_byte (a : UInt8) (n : ℕ) (hn : n < 16) :
    UInt8.ofNat (a.toNat / 4 * 4 + (a.toNat % 4 * 16 + n) / 16) = a := by
  have : a.toNat / 4 * 4 + (a.toNat % 4 * 16 + n) / 16 = a.toNat := by omega
  rw [this, UInt8.ofNat_toNat]

lemma second_byte (m : ℕ) (b : UInt8) (n : ℕ) (hn : n < 4) :
    UInt8.ofNat ((m * 16 + b.toNat / 16) % 16 * 16 + (b.toNat % 16 * 4 + n) / 4) = b := by
  have hb := b.toNat_lt
  have : (m * 16 + b.toNat / 16) % 16 * 16 + (b.toNat % 16 * 4 + n) / 4 = b.toNat := by omega
  rw [this, UInt8.ofNat_toNat]

lemma third_byte (m : ℕ) (c : UInt8) :
    UInt8.ofNat ((m * 4 + c.toNat / 64) % 4 * 64 + c.toNat % 64) = c := by
  have hc := c.toNat_lt
  have : (m * 4 + c.toNat / 64) % 4 * 64 + c.toNat % 64 = c.toNat := by omega
  rw [this, UInt8.ofNat_toNat]

lemma decodeLoop_encodeBytes (data : List UInt8) :
    decodeLoop 0 0 0 (encodeBytes data) = some data := by
  fun_induction encodeBytes data with
  | case1 => rfl
  | case2 a =>
    have ha := a.toNat_lt
    have h := first_byte a 0 (by decide)
    simp only [decodeLoop_symbol (show a.toNat / 4 < 64 by omega),
      decodeLoop_symbol (show a.toNat % 4 * 16 < 64 by omega)]
    simpa [decodeLoop] using h
  | case3 a b =>
    have ha := a.toNat_lt
    have hb := b.toNat_lt
    have h1 := first_byte a (b.toNat / 16) (by omega)
    have h2 := second_byte (a.toNat % 4) b 0 (by decide)
    simp only [decodeLoop_symbol (show a.toNat / 4 < 64 by omega),
      decodeLoop_symbol (show a.toNat % 4 * 16 + b.toNat / 16 < 64 by omega),
      decodeLoop_symbol (show b.toNat % 16 * 4 < 64 by omega), h1]
    simpa [decodeLoop] using h2
  | case4 a b c rest ih =>
    have ha := a.toNat_lt
    have hb := b.toNat_lt
    have hc := c.toNat_lt
    have h1 := first_byte a (b.toNat / 16) (by omega)
    have h2 := second_byte (a.toNat % 4) b (c.toNat / 64) (by omega)
    have h3 := third_byte (b.toNat % 16) c
    simp only [decodeLoop_symbol (show a.toNat / 4 < 64 by omega),
      decodeLoop_symbol (show a.toNat % 4 * 16 + b.toNat / 16 < 64 by omega),
      decodeLoop_symbol (show b.toNat % 16 * 4 + c.toNat / 64 < 64 by omega),
      decodeLoop_symbol (show c.toNat % 64 < 64 by omega), ih, h1, h2, h3, Option.map_some]

lemma strictLoop_symbol {n : ℕ} (hn : n < 64) (quadPos leftchar pads : ℕ) (rest : List Char) :
    strictLoop quadPos leftchar pads false (symbol n :: rest) =
      match quadPos with
      | 0 => strictLoop 1 n 0 false rest
      | 1 => (strictLoop 2 (n % 16) 0 false rest).map (UInt8.ofNat (leftchar * 4 + n / 16) :: ·)
      | 2 => (strictLoop 3 (n % 4) 0 false rest).map (UInt8.ofNat (leftchar * 16 + n / 4) :: ·)
      | _ => (strictLoop 0 0 0 false rest).map (UInt8.ofNat (leftchar * 64 + n) :: ·) := by
  obtain ⟨hpad, hval, -⟩ := symbol_spec n hn
  rw [strictLoop, if_neg hpad, hval]
  rfl

/-- The strict decoder reads what the encoder writes. -/
lemma strictLoop_encodeBytes (data : List UInt8) :
    strictLoop 0 0 0 false (encodeBytes data) = some data := by
  fun_induction encodeBytes data with
  | case1 => rfl
  | case2 a =>
    have ha := a.toNat_lt
    have h := first_byte a 0 (by decide)
    simp only [strictLoop_symbol (show a.toNat / 4 < 64 by omega),
      strictLoop_symbol (show a.toNat % 4 * 16 < 64 by omega)]
    simpa [strictLoop] using h
  | case3 a b =>
    have ha := a.toNat_lt
    have hb := b.toNat_lt
    have h1 := first_byte a (b.toNat / 16) (by omega)
    have h2 := second_byte (a.toNat % 4) b 0 (by decide)
    simp only [strictLoop_symbol (show a.toNat / 4 < 64 by omega),
      strictLoop_symbol (show a.toNat % 4 * 16 + b.toNat / 16 < 64 by omega),
      strictLoop_symbol (show b.toNat % 16 * 4 < 64 by omega), h1]
    simpa [strictLoop] using h2
  | case4 a b c rest ih =>
    have ha := a.toNat_lt
    have hb := b.toNat_lt
    have hc := c.toNat_lt
    have h1 := first_byte a (b.toNat / 16) (by omega)
    have h2 := second_byte (a.toNat % 4) b (c.toNat / 64) (by omega)
    have h3 := third_byte (b.toNat % 16) c
    simp only [strictLoop_symbol (show a.toNat / 4 < 64 by omega),
      strictLoop_symbol (show a.toNat % 4 * 16 + b.toNat / 16 < 64 by omega),
      strictLoop_symbol (show b.toNat % 16 * 4 + c.toNat / 64 < 64 by omega),
      strictLoop_symbol (show c.toNat % 64 < 64 by omega), ih, h1, h2, h3, Option.map_some]

/-- The decoder does not tell the alphabets apart. -/
lemma strictLoop_map {f : Char → Char} (hval : ∀ c, sextet? (f c) = sextet? c)
    (hpad : ∀ c, f c = '=' ↔ c = '=') (quadPos leftchar pads : ℕ) (padded : Bool) (cs : List Char) :
    strictLoop quadPos leftchar pads padded (cs.map f) = strictLoop quadPos leftchar pads padded cs := by
  induction cs generalizing quadPos leftchar pads padded with
  | nil => rfl
  | cons c cs ih =>
    have hempty : (cs.map f).isEmpty = cs.isEmpty := by cases cs <;> rfl
    simp only [List.map_cons, strictLoop, hval, hpad, hempty, ih]

lemma sextet?_toStandard (c : Char) : sextet? (toStandard c) = sextet? c := by
  unfold toStandard
  split
  · next h => rw [h]; rfl
  · split
    · next h => rw [h]; rfl
    · rfl

lemma toStandard_eq_pad (c : Char) : toStandard c = '=' ↔ c = '=' := by
  unfold toStandard
  split
  · next h => rw [h]; decide
  · split
    · next h => rw [h]; decide
    · rfl

lemma length_encodeBytes (data : List UInt8) : (encodeBytes data).length % 4 = 0 := by
  fun_induction encodeBytes data with
  | case1 => rfl
  | case2 a => simp
  | case3 a b => simp
  | case4 a b c rest ih =>
    simp only [List.length_cons]
    omega

lemma padding_of_dvd {n : ℕ} (h : n % 4 = 0) : padding n = [] := by
  rw [padding, h]
  rfl

lemma padding_add_four (n : ℕ) : padding (n + 4) = padding n := by
  rw [padding, padding, Nat.add_mod_right]

lemma filter_symbol {n : ℕ} (hn : n < 64) (rest : List Char) :
    (symbol n :: rest).filter (· ≠ '=') = symbol n :: rest.filter (· ≠ '=') :=
  List.filter_cons_of_pos (decide_eq_true (symbol_spec n hn).1)

/-- Padding restores what was left out. -/
lemma filter_append_padding (data : List UInt8) :
    (encodeBytes data).filter (· ≠ '=') ++ padding ((encodeBytes data).filter (· ≠ '=')).length =
      encodeBytes data := by
  fun_induction encodeBytes data with
  | case1 => rfl
  | case2 a =>
    have ha := a.toNat_lt
    rw [filter_symbol (show a.toNat / 4 < 64 by omega), filter_symbol (show a.toNat % 4 * 16 < 64 by omega)]
    rfl
  | case3 a b =>
    have ha := a.toNat_lt
    have hb := b.toNat_lt
    rw [filter_symbol (show a.toNat / 4 < 64 by omega),
      filter_symbol (show a.toNat % 4 * 16 + b.toNat / 16 < 64 by omega),
      filter_symbol (show b.toNat % 16 * 4 < 64 by omega)]
    rfl
  | case4 a b c rest ih =>
    have ha := a.toNat_lt
    have hb := b.toNat_lt
    have hc := c.toNat_lt
    rw [filter_symbol (show a.toNat / 4 < 64 by omega),
      filter_symbol (show a.toNat % 4 * 16 + b.toNat / 16 < 64 by omega),
      filter_symbol (show b.toNat % 16 * 4 + c.toNat / 64 < 64 by omega),
      filter_symbol (show c.toNat % 64 < 64 by omega)]
    simp only [List.length_cons, padding_add_four, List.cons_append, ih]

/-- Every spelling is read as the data, once it is padded. -/
lemma strictLoop_spell (standard padded : Bool) (data : List UInt8) :
    strictLoop 0 0 0 false (spell standard padded data ++ padding (spell standard padded data).length) =
      some data := by
  have hurl : ∀ padded : Bool, spell false padded data ++ padding (spell false padded data).length =
      encodeBytes data := by
    intro padded
    cases padded with
    | false => exact filter_append_padding data
    | true =>
      change encodeBytes data ++ padding (encodeBytes data).length = _
      rw [padding_of_dvd (length_encodeBytes data), List.append_nil]
  cases standard with
  | false => rw [hurl, strictLoop_encodeBytes]
  | true =>
    have hmap : spell true padded data ++ padding (spell true padded data).length =
        (spell false padded data ++ padding (spell false padded data).length).map toStandard := by
      have hspell : spell true padded data = (spell false padded data).map toStandard := rfl
      rw [hspell, List.map_append, List.length_map, padding, List.map_replicate]
      rfl
    rw [hmap, strictLoop_map sextet?_toStandard toStandard_eq_pad, hurl, strictLoop_encodeBytes]

/-- A character outside the alphabet is refused wherever it stands. -/
lemma strictLoop_of_foreign {cs : List Char} {c : Char} (hmem : c ∈ cs) (hpad : c ≠ '=')
    (hc : sextet? c = none) (quadPos leftchar pads : ℕ) (padded : Bool) :
    strictLoop quadPos leftchar pads padded cs = none := by
  induction cs generalizing quadPos leftchar pads padded with
  | nil => cases hmem
  | cons d cs ih =>
    rw [strictLoop]
    rcases List.mem_cons.mp hmem with rfl | hmem
    · rw [if_neg hpad, hc]
    · have hne : ¬cs.isEmpty = true := by
        rw [List.isEmpty_iff]
        exact List.ne_nil_of_mem hmem
      simp only [ih hmem, if_neg hne, Option.map_none, ite_self]
      split
      · rfl
      · split
        · rfl
        · split
          · rfl
          · split <;> rfl

/-- One character that begins a group cannot be padded. -/
lemma strictLoop_of_single {cs : List Char} (hpad : '=' ∉ cs) (quadPos leftchar pads : ℕ)
    (hq : quadPos < 4) (hlen : (quadPos + cs.length) % 4 = 1) :
    strictLoop quadPos leftchar pads false (cs ++ ['=', '=', '=']) = none := by
  induction cs generalizing quadPos leftchar pads with
  | nil =>
    obtain rfl : quadPos = 1 := by
      rw [List.length_nil] at hlen
      omega
    rfl
  | cons d cs ih =>
    have hd : d ≠ '=' := fun h => hpad (h ▸ List.mem_cons_self)
    have hcs : '=' ∉ cs := fun h => hpad (List.mem_cons_of_mem _ h)
    rw [List.length_cons] at hlen
    rw [List.cons_append, strictLoop, if_neg hd]
    rcases sextet? d with _ | n
    · rfl
    · match quadPos, hq with
      | 0, _ => exact ih hcs 1 n 0 (by decide) (by omega)
      | 1, _ =>
        have h := ih hcs 2 (n % 16) 0 (by decide) (by omega)
        simp only [h, Option.map_none, Bool.false_eq_true, if_false]
      | 2, _ =>
        have h := ih hcs 3 (n % 4) 0 (by decide) (by omega)
        simp only [h, Option.map_none, Bool.false_eq_true, if_false]
      | 3, _ =>
        have h := ih hcs 0 0 0 (by decide) (by omega)
        simp only [h, Option.map_none, Bool.false_eq_true, if_false]

lemma encodeBytes_ascii (data : List UInt8) : ∀ c ∈ encodeBytes data, c.toNat < 128 := by
  have sym : ∀ n, n < 64 → (symbol n).toNat < 128 := fun n hn => (symbol_spec n hn).2.2
  fun_induction encodeBytes data with
  | case1 => simp
  | case2 a =>
    have ha := a.toNat_lt
    simp [sym (a.toNat / 4) (by omega), sym (a.toNat % 4 * 16) (by omega)]
  | case3 a b =>
    have ha := a.toNat_lt
    have hb := b.toNat_lt
    simp [sym (a.toNat / 4) (by omega), sym (a.toNat % 4 * 16 + b.toNat / 16) (by omega),
      sym (b.toNat % 16 * 4) (by omega)]
  | case4 a b c rest ih =>
    have ha := a.toNat_lt
    have hb := b.toNat_lt
    have hc := c.toNat_lt
    simp only [List.mem_cons, forall_eq_or_imp]
    exact ⟨sym _ (by omega), sym _ (by omega), sym _ (by omega), sym _ (by omega), ih⟩

lemma spell_ascii (standard padded : Bool) (data : List UInt8) :
    ∀ c ∈ spell standard padded data, c.toNat < 128 := by
  have hurl : ∀ c ∈ spell false padded data, c.toNat < 128 := by
    intro c hc
    cases padded with
    | false => exact encodeBytes_ascii data c (List.mem_of_mem_filter hc)
    | true => exact encodeBytes_ascii data c hc
  cases standard with
  | false => exact hurl
  | true =>
    intro c hc
    obtain ⟨d, hd, rfl⟩ := List.mem_map.mp hc
    have hlt := hurl d hd
    unfold toStandard
    split
    · decide
    · split
      · decide
      · exact hlt

@[simp] theorem urlsafeB64decode_encode (data : List UInt8) :
    urlsafeB64decode (urlsafeB64encode data) = some data := by
  have hascii := isAscii_encode_ofList (encodeBytes_ascii data)
  simp only [urlsafeB64decode, urlsafeB64encode, ofChars_eq, chars_eq, String.toList_ofList, hascii,
    if_true, decodeLoop_encodeBytes]

lemma urlsafeB64encode_injective : Function.Injective urlsafeB64encode := by
  intro a b h
  have := congrArg urlsafeB64decode h
  simpa using this

end Pentagon5.Python.Base64
