import Mathlib.Data.List.Forall2
import Mathlib.Data.List.Infix
import Pentagon5.Python.Regex

/-!
# Redaction of log messages

The names that the structured redaction treats as secret, and the two substitutions that a message
goes through.
-/

namespace Pentagon5.Runtime

open Python Python.Regex

/-- What Unicode says of characters beyond ASCII. -/
structure Unicode where
  /-- `\w`. -/
  isWord : ℕ → Bool
  /-- `value.lower()`. -/
  lower : Str → Str

/-- `_REDACTED_KEYS`. -/
def redactedKeys : List String :=
  ["authorization", "cookie", "id_token", "password", "refresh_token", "secret", "session", "token"]

/-- `any(fragment in key.lower() for fragment in _REDACTED_KEYS)`. -/
def isRedacted (U : Unicode) (key : Str) : Bool :=
  redactedKeys.any fun fragment => (Str.ofString fragment).codes <:+: (U.lower key).codes

/-- A lower-case letter of a pattern under `(?i)`: beyond ASCII, the Kelvin sign is a `k`, the long s
an `s`, and the i with and without its dot an `i`. -/
def isLetter (letter c : ℕ) : Bool :=
  c = letter ∨ c + 32 = letter ∨ (letter = 107 ∧ c = 0x212A) ∨ (letter = 115 ∧ c = 0x17F) ∨
    (letter = 105 ∧ (c = 0x130 ∨ c = 0x131))

/-- `[A-Za-z0-9._~+/\-=]` under `(?i)`. -/
def isCredential (c : ℕ) : Bool :=
  (48 ≤ c ∧ c ≤ 57) ∨ (65 ≤ c ∧ c ≤ 90) ∨ (97 ≤ c ∧ c ≤ 122) ∨ c ∈ [46, 95, 126, 43, 47, 45, 61] ∨
    c ∈ [0x130, 0x131, 0x17F, 0x212A]

/-- `[^&\s]`. -/
def isValue (c : ℕ) : Bool := c ≠ 38 ∧ Str.isSpace c = false

def bearer : List ℕ := (Str.ofString "bearer").codes

/-- The alternatives of `_NAMED_SECRET`. -/
def secretNames : List (List ℕ) :=
  ["token", "secret", "password", "authorization", "cookie"].map fun name => (Str.ofString name).codes

section

variable (U : Unicode) {α : Type} (K : Cells α)

/-- Whether a text starts with these letters. -/
def startsWith : List ℕ → List α → Bool
  | [], _ => true
  | _ :: _, [] => false
  | letter :: letters, c :: text => isLetter letter (K.code c) && startsWith letters text

def inserted (text : String) : List α := (Str.ofString text).codes.map K.insert

/-- `_BEARER` and its replacement. A letter is a word character, so its start is a word boundary if no
word character stands before it. -/
def bearerMatcher : Matcher α := fun before text =>
  let rest := text.drop 6
  let spaces := rest.takeWhile fun c => Str.isSpace (K.code c)
  let credential := (rest.drop spaces.length).takeWhile fun c => isCredential (K.code c)
  if before = false ∧ startsWith K bearer text ∧ spaces ≠ [] ∧ credential ≠ [] then
    some (6 + spaces.length + credential.length,
      (text.take 6).zipWith K.recase (Str.ofString "Bearer").codes ++ inserted K " [REDACTED]")
  else none

/-- The name with its `=` that a text starts with. -/
def nameAt (text : List α) : Option (List ℕ) :=
  secretNames.find? fun name => startsWith K name text ∧ (text.drop name.length).head?.map K.code = some 61

/-- `_NAMED_SECRET` and its replacement. -/
def namedMatcher : Matcher α := fun before text =>
  match nameAt K text with
  | some name =>
    let value := (text.drop (name.length + 1)).takeWhile fun c => isValue (K.code c)
    if before = false ∧ value ≠ [] then
      some (name.length + 1 + value.length, text.take name.length ++ inserted K "=[REDACTED]")
    else none
  | none => none

/-- `_BEARER.sub`. -/
def subBearer (before : Bool) (text : List α) : List α :=
  sub (fun c => U.isWord (K.code c)) (bearerMatcher K) 0 before text

/-- `_NAMED_SECRET.sub`. -/
def subNamed (before : Bool) (text : List α) : List α :=
  sub (fun c => U.isWord (K.code c)) (namedMatcher K) 0 before text

/-- `_safe_message`. -/
def redactMessage (message : List α) : List α := subNamed U K false (subBearer U K false message)

end

def safeMessage (U : Unicode) (message : Str) : Str := ⟨redactMessage U plain message.codes⟩

def IsLower (letters : List ℕ) : Prop := ∀ l ∈ letters, 97 ≤ l ∧ l ≤ 122

lemma isLower_bearer : IsLower bearer := by
  unfold IsLower
  decide

lemma isLower_secretNames : ∀ letters ∈ secretNames, IsLower letters := by
  unfold IsLower
  decide

lemma isCredential_of_isLetter {l c : ℕ} (hl : 97 ≤ l ∧ l ≤ 122) (h : isLetter l c = true) :
    isCredential c = true := by
  simp only [isLetter, isCredential, decide_eq_true_eq, List.mem_cons, List.not_mem_nil, or_false] at h ⊢
  omega

lemma isValue_of_isCredential {c : ℕ} (h : isCredential c = true) : isValue c = true := by
  simp only [isCredential, isValue, Str.isSpace, decide_eq_true_eq, decide_eq_false_iff_not,
    List.mem_cons, List.not_mem_nil, or_false] at h ⊢
  omega

lemma isValue_of_isSpace {c : ℕ} (h : Str.isSpace c = true) : isValue c = false := by
  simp [isValue, h]

lemma not_isSpace_of_isValue {c : ℕ} (h : isValue c = true) : Str.isSpace c = false := by
  simp only [isValue, decide_eq_true_eq] at h
  exact h.2

lemma not_isLetter_equals {l : ℕ} (hl : 97 ≤ l ∧ l ≤ 122) : isLetter l 61 = false := by
  simp only [isLetter, decide_eq_false_iff_not]
  omega

section

variable {α : Type} {K : Cells α}

variable (K) in
/-- The characters are these letters, in any case. -/
def Spells (letters : List ℕ) (word : List α) : Prop :=
  List.Forall₂ (fun l c => isLetter l (K.code c) = true) letters word

lemma startsWith_iff {letters : List ℕ} {text : List α} :
    startsWith K letters text = true ↔ ∃ word rest, text = word ++ rest ∧ Spells K letters word := by
  induction letters generalizing text with
  | nil => exact ⟨fun _ => ⟨[], text, rfl, .nil⟩, fun _ => rfl⟩
  | cons l letters ih =>
    cases text with
    | nil =>
      constructor
      · intro h
        cases h
      · rintro ⟨word, rest, heq, hword⟩
        obtain ⟨rfl, -⟩ := List.append_eq_nil_iff.mp heq.symm
        cases hword
    | cons c text =>
      rw [startsWith, Bool.and_eq_true, ih]
      constructor
      · rintro ⟨hc, word, rest, rfl, hword⟩
        exact ⟨c :: word, rest, rfl, .cons hc hword⟩
      · rintro ⟨word, rest, heq, hword⟩
        cases hword with
        | cons hc hword =>
          obtain ⟨rfl, rfl⟩ := List.cons.inj heq
          exact ⟨hc, _, rest, rfl, hword⟩

lemma Spells.isCredential {letters : List ℕ} {word : List α} (h : Spells K letters word)
    (hl : IsLower letters) : ∀ c ∈ word, isCredential (K.code c) = true := by
  induction h with
  | nil => nofun
  | cons hlc hword ih =>
    intro c hc
    rcases List.mem_cons.mp hc with rfl | hc
    · exact isCredential_of_isLetter (hl _ List.mem_cons_self) hlc
    · exact ih (fun l hmem => hl l (List.mem_cons_of_mem _ hmem)) c hc

lemma Spells.isValue {letters : List ℕ} {word : List α} (h : Spells K letters word)
    (hl : IsLower letters) : ∀ c ∈ word, isValue (K.code c) = true :=
  fun c hc => isValue_of_isCredential (h.isCredential hl c hc)

lemma Spells.not_equals {letters : List ℕ} {word : List α} (h : Spells K letters word)
    (hl : IsLower letters) : ∀ c ∈ word, K.code c ≠ 61 := by
  induction h with
  | nil => nofun
  | cons hlc _ ih =>
    apply List.forall_mem_cons.mpr ⟨_, ih fun l hmem => hl l (List.mem_cons_of_mem _ hmem)⟩
    intro hcode
    rw [hcode, not_isLetter_equals (hl _ List.mem_cons_self)] at hlc
    cases hlc

lemma takeWhile_run {p : α → Bool} {run rest : List α} (hrun : ∀ c ∈ run, p c = true)
    (hrest : ∀ c ∈ rest.head?, p c = false) : (run ++ rest).takeWhile p = run := by
  rw [List.takeWhile_append_of_pos hrun]
  cases rest with
  | nil => simp
  | cons c rest => rw [List.takeWhile_cons_of_neg (by simpa using hrest c rfl), List.append_nil]

/-- Two ways to cut a text where a run of characters ends. -/
lemma append_unique {p : α → Bool} {a b c d : List α} (ha : ∀ x ∈ a, p x = true) (hc : ∀ x ∈ c, p x = true)
    (hb : ∀ x ∈ b.head?, p x = false) (hd : ∀ x ∈ d.head?, p x = false) (h : a ++ b = c ++ d) :
    a = c ∧ b = d := by
  have heq : a = c := by rw [← takeWhile_run ha hb, h, takeWhile_run hc hd]
  subst heq
  exact ⟨rfl, List.append_cancel_left h⟩

lemma exists_run (p : α → Bool) (text : List α) : ∃ run rest, text = run ++ rest ∧
    text.takeWhile p = run ∧ (∀ c ∈ run, p c = true) ∧ ∀ c ∈ rest.head?, p c = false := by
  induction text with
  | nil => exact ⟨[], [], rfl, rfl, nofun, nofun⟩
  | cons c text ih =>
    by_cases hc : p c = true
    · obtain ⟨run, rest, rfl, htake, hrun, hrest⟩ := ih
      refine ⟨c :: run, rest, rfl, ?_, List.forall_mem_cons.mpr ⟨hc, hrun⟩, hrest⟩
      rw [List.takeWhile_cons_of_pos hc, htake]
    · refine ⟨[], c :: text, rfl, List.takeWhile_cons_of_neg hc, nofun, ?_⟩
      simpa using hc

/-- The characters of a match of `_BEARER`. -/
structure BearerMatch (K : Cells α) (scheme spaces credential rest : List α) : Prop where
  spells : Spells K bearer scheme
  spaces_ne_nil : spaces ≠ []
  isSpace_spaces : ∀ c ∈ spaces, Str.isSpace (K.code c) = true
  credential_ne_nil : credential ≠ []
  isCredential_credential : ∀ c ∈ credential, isCredential (K.code c) = true
  rest : ∀ c ∈ rest.head?, isCredential (K.code c) = false

lemma BearerMatch.isValue_head {scheme spaces credential rest : List α}
    (h : BearerMatch K scheme spaces credential rest) :
    ∀ c ∈ (credential ++ rest).head?, isValue (K.code c) = true := by
  obtain ⟨d, credential, rfl⟩ := List.exists_cons_of_ne_nil h.credential_ne_nil
  intro c hc
  obtain rfl : d = c := Option.some.inj hc
  exact isValue_of_isCredential (h.isCredential_credential d List.mem_cons_self)

/-- What a match of `_BEARER` is replaced by. -/
def bearerReplacement (K : Cells α) (scheme : List α) : List α :=
  scheme.zipWith K.recase (Str.ofString "Bearer").codes ++ inserted K " [REDACTED]"

lemma bearerMatcher_eq_some {scheme spaces credential rest : List α}
    (h : BearerMatch K scheme spaces credential rest) :
    bearerMatcher K false (scheme ++ spaces ++ credential ++ rest) =
      some ((scheme ++ spaces ++ credential).length, bearerReplacement K scheme) := by
  have hlength : scheme.length = 6 := h.spells.length_eq.symm
  have hstarts : startsWith K bearer (scheme ++ (spaces ++ (credential ++ rest))) = true :=
    startsWith_iff.mpr ⟨scheme, _, rfl, h.spells⟩
  have hspaces : (spaces ++ (credential ++ rest)).takeWhile (fun c => Str.isSpace (K.code c)) = spaces := by
    apply takeWhile_run h.isSpace_spaces
    exact fun c hc => not_isSpace_of_isValue (h.isValue_head c hc)
  have hcredential : (credential ++ rest).takeWhile (fun c => isCredential (K.code c)) = credential :=
    takeWhile_run h.isCredential_credential h.rest
  rw [List.append_assoc, List.append_assoc, bearerMatcher]
  simp only [List.drop_left' hlength, List.take_left' hlength, hspaces, List.drop_left, hcredential]
  rw [if_pos ⟨trivial, hstarts, h.spaces_ne_nil, h.credential_ne_nil⟩, bearerReplacement,
    List.length_append, List.length_append, hlength]

/-- A match of `_BEARER` by its parts. -/
lemma exists_bearerMatch {before : Bool} {text : List α} {r : ℕ × List α}
    (h : bearerMatcher K before text = some r) : before = false ∧
      ∃ scheme spaces credential rest, text = scheme ++ spaces ++ credential ++ rest ∧
        BearerMatch K scheme spaces credential rest := by
  rw [bearerMatcher] at h
  split_ifs at h with hmatch
  obtain ⟨hbefore, hstarts, hspaces, hcredential⟩ := hmatch
  obtain ⟨scheme, text, rfl, hscheme⟩ := startsWith_iff.mp hstarts
  have hlength : scheme.length = 6 := hscheme.length_eq.symm
  obtain ⟨spaces, text, rfl, htake, hall, -⟩ := exists_run (fun c => Str.isSpace (K.code c)) text
  rw [List.drop_left' hlength, htake] at hspaces hcredential
  obtain ⟨credential, rest, rfl, htake, hall', hrest⟩ := exists_run (fun c => isCredential (K.code c)) text
  rw [List.drop_left, htake] at hcredential
  refine ⟨hbefore, scheme, spaces, credential, rest, ?_, hscheme, hspaces, hall, hcredential, hall', hrest⟩
  rw [List.append_assoc, List.append_assoc]

/-- The characters of a match of `_NAMED_SECRET`. -/
structure NamedMatch (K : Cells α) (name : List α) (sign : α) (value rest : List α) : Prop where
  spells : ∃ letters ∈ secretNames, Spells K letters name
  code_sign : K.code sign = 61
  value_ne_nil : value ≠ []
  isValue_value : ∀ c ∈ value, isValue (K.code c) = true
  rest : ∀ c ∈ rest.head?, isValue (K.code c) = false

lemma NamedMatch.isValue {name : List α} {sign : α} {value rest : List α} (h : NamedMatch K name sign value rest) :
    ∀ c ∈ name ++ sign :: value, isValue (K.code c) = true := by
  obtain ⟨letters, hmem, hspells⟩ := h.spells
  apply List.forall_mem_append.mpr ⟨hspells.isValue (isLower_secretNames letters hmem), _⟩
  apply List.forall_mem_cons.mpr ⟨_, h.isValue_value⟩
  rw [h.code_sign]
  decide

/-- What stands before the first `=` in a text is determined. -/
lemma Spells.append_unique {letters letters' : List ℕ} {name name' rest rest' : List α} {sign sign' : α}
    (hl : IsLower letters) (hl' : IsLower letters') (h : Spells K letters name)
    (h' : Spells K letters' name') (hsign : K.code sign = 61) (hsign' : K.code sign' = 61)
    (heq : name ++ sign :: rest = name' ++ sign' :: rest') : name = name' ∧ sign :: rest = sign' :: rest' := by
  have hhead : ∀ {sign : α} {rest : List α}, K.code sign = 61 →
      ∀ c ∈ (sign :: rest).head?, decide (K.code c ≠ 61) = false := by
    intro sign rest hsign c hc
    rw [List.head?_cons, Option.mem_some_iff] at hc
    rw [← hc, hsign]
    decide
  exact Runtime.append_unique (by simpa using h.not_equals hl) (by simpa using h'.not_equals hl') (hhead hsign)
    (hhead hsign') heq

lemma exists_nameAt {text : List α} {letters : List ℕ} (h : nameAt K text = some letters) :
    letters ∈ secretNames ∧ ∃ name sign rest, text = name ++ sign :: rest ∧
      Spells K letters name ∧ K.code sign = 61 := by
  have hfound := List.find?_some h
  rw [decide_eq_true_eq] at hfound
  obtain ⟨hstarts, hsign⟩ := hfound
  obtain ⟨name, rest, rfl, hname⟩ := startsWith_iff.mp hstarts
  rw [List.drop_left' hname.length_eq.symm] at hsign
  cases rest with
  | nil => cases hsign
  | cons sign rest =>
    exact ⟨List.mem_of_find?_eq_some h, name, sign, rest, rfl, hname, Option.some.inj hsign⟩

lemma nameAt_append {letters : List ℕ} {name rest : List α} {sign : α} (hmem : letters ∈ secretNames)
    (hname : Spells K letters name) (hsign : K.code sign = 61) :
    ∃ found, nameAt K (name ++ sign :: rest) = some found ∧ found.length = name.length := by
  have hsome : (nameAt K (name ++ sign :: rest)).isSome := by
    rw [nameAt, List.find?_isSome]
    refine ⟨letters, hmem, ?_⟩
    rw [decide_eq_true_eq, List.drop_left' hname.length_eq.symm, List.head?_cons, Option.map_some, hsign]
    exact ⟨startsWith_iff.mpr ⟨name, _, rfl, hname⟩, rfl⟩
  obtain ⟨found, hfound⟩ := Option.isSome_iff_exists.mp hsome
  obtain ⟨hmem', name', sign', rest', heq, hname', hsign'⟩ := exists_nameAt hfound
  obtain ⟨rfl, -⟩ := hname.append_unique (isLower_secretNames _ hmem) (isLower_secretNames _ hmem') hname'
    hsign hsign' heq
  exact ⟨found, hfound, hname'.length_eq⟩

lemma namedMatcher_eq_some {name : List α} {sign : α} {value rest : List α}
    (h : NamedMatch K name sign value rest) :
    namedMatcher K false (name ++ sign :: value ++ rest) =
      some ((name ++ sign :: value).length, name ++ inserted K "=[REDACTED]") := by
  obtain ⟨letters, hmem, hname⟩ := h.spells
  obtain ⟨found, hfound, hlength⟩ : ∃ found, nameAt K (name ++ sign :: (value ++ rest)) = some found ∧
      found.length = name.length := nameAt_append hmem hname h.code_sign
  have hvalue : (value ++ rest).takeWhile (fun c => isValue (K.code c)) = value :=
    takeWhile_run h.isValue_value h.rest
  have hdrop : (name ++ sign :: (value ++ rest)).drop (name.length + 1) = value ++ rest := by
    rw [← List.singleton_append, ← List.append_assoc]
    apply List.drop_left'
    rw [List.length_append, List.length_singleton]
  rw [List.append_assoc, List.cons_append, namedMatcher, hfound]
  simp only [hlength, hdrop, hvalue]
  rw [if_pos ⟨trivial, h.value_ne_nil⟩, List.take_left, List.length_append, List.length_cons]
  congr 2
  omega

/-- A match of `_NAMED_SECRET` by its parts. -/
lemma exists_namedMatch {before : Bool} {text : List α} {r : ℕ × List α}
    (h : namedMatcher K before text = some r) : before = false ∧
      ∃ name sign value rest, text = name ++ sign :: value ++ rest ∧ NamedMatch K name sign value rest := by
  rw [namedMatcher] at h
  cases hfound : nameAt K text with
  | none =>
    rw [hfound] at h
    cases h
  | some letters =>
    simp only [hfound] at h
    split_ifs at h with hmatch
    obtain ⟨hbefore, hvalue⟩ := hmatch
    obtain ⟨hmem, name, sign, text, rfl, hname, hsign⟩ := exists_nameAt hfound
    have hdrop : (name ++ sign :: text).drop (letters.length + 1) = text := by
      rw [← List.singleton_append, ← List.append_assoc]
      apply List.drop_left'
      rw [List.length_append, List.length_singleton, hname.length_eq]
    obtain ⟨value, rest, rfl, htake, hall, hrest⟩ := exists_run (fun c => isValue (K.code c)) text
    rw [hdrop, htake] at hvalue
    refine ⟨hbefore, name, sign, value, rest, ?_, ⟨letters, hmem, hname⟩, hsign, hvalue, hall, hrest⟩
    rw [List.append_assoc, List.cons_append]

end

end Pentagon5.Runtime
