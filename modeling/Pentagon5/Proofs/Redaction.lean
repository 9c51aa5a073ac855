import Mathlib.Data.List.DropRight
import Mathlib.Tactic.Linarith
import Pentagon5.Runtime.Logging

/-!
# What a redacted log message keeps

The characters of a secret are marked, and the substitutions carry the marks along. A named secret
leaves nothing behind exactly if one of the five names stands as a word before it in the same run of
characters, where the other substitution left that name in place.
-/

namespace Pentagon5.Runtime

open Python Python.Regex

/-- A character and whether it belongs to the secret. -/
abbrev Marked := ℕ × Bool

def marked : Cells Marked := ⟨Prod.fst, fun c => (c, false), fun c code => (code, c.2)⟩

def mark (secret : Bool) (text : List ℕ) : List Marked := text.map fun c => (c, secret)

/-- No character of the secret is left. -/
def Erased (text : List Marked) : Prop := ∀ c ∈ text, c.2 = false

/-- An occurrence of `name=value` in a message. -/
structure NamedSecret (U : Unicode) where
  front : List ℕ
  name : List ℕ
  value : List ℕ
  back : List ℕ
  redacted : isRedacted U ⟨name⟩ = true
  value_ne_nil : value ≠ []
  isValue_value : ∀ c ∈ value, isValue c = true

def IsScheme (codes : List ℕ) : Prop := Spells plain bearer codes

def IsName (codes : List ℕ) : Prop := ∃ letters ∈ secretNames, Spells plain letters codes

/-- An occurrence of `Bearer`, whitespace and a credential in a message. -/
structure BearerSecret where
  front : List ℕ
  scheme : List ℕ
  spaces : List ℕ
  credential : List ℕ
  back : List ℕ
  isScheme : IsScheme scheme
  spaces_ne_nil : spaces ≠ []
  isSpace_spaces : ∀ c ∈ spaces, Str.isSpace c = true
  credential_ne_nil : credential ≠ []
  isCredential_credential : ∀ c ∈ credential, isCredential c = true

def NamedSecret.message {U : Unicode} (o : NamedSecret U) : List Marked :=
  mark false (o.front ++ o.name ++ [61]) ++ mark true o.value ++ mark false o.back

def BearerSecret.message (o : BearerSecret) : List Marked :=
  mark false (o.front ++ o.scheme ++ o.spaces) ++ mark true o.credential ++ mark false o.back

section

variable (U : Unicode)

/-- A run of characters that ends in the word `Bearer`, behind the text `front`. -/
def EndsInScheme (front run : List ℕ) : Prop :=
  ∃ before scheme, run = before ++ scheme ∧ IsScheme scheme ∧ lastIsWord U.isWord false (front ++ before) = false

/-- The text ends in whitespace behind a `Bearer` that starts a match, should a credential follow. It
does not if that `Bearer` is itself the credential of the one before it. -/
def Introduces (text : List ℕ) : Prop :=
  let trimmed := text.rdropWhile Str.isSpace
  if _h : trimmed.length < text.length then
    EndsInScheme U (trimmed.rdropWhile isValue) (trimmed.rtakeWhile isValue) ∧
      ¬(Introduces (trimmed.rdropWhile isValue) ∧ ∀ c ∈ trimmed.rtakeWhile isValue, isCredential c = true)
  else False
termination_by text.length
decreasing_by
  exact lt_of_le_of_lt (List.IsPrefix.length_le (List.rdropWhile_prefix _ _)) (by assumption)

/-- One of the names stands before `=` in the run of characters that ends `text`: as a word, and not
within the credential of a `Bearer`. -/
def NameBefore (text : List ℕ) : Prop :=
  ∃ before name after, text.rtakeWhile isValue = before ++ (name ++ 61 :: after) ∧ IsName name ∧
    lastIsWord U.isWord false (text.rdropWhile isValue ++ before) = false ∧
    (Introduces U (text.rdropWhile isValue) → ∃ c ∈ before, isCredential c = false)

/-- The value ends within the credential of a `Bearer`. -/
def WithinCredential (text value : List ℕ) : Prop :=
  Introduces U (text.rdropWhile isValue) ∧
    ∀ c ∈ text.rtakeWhile isValue ++ value, isCredential c = true

end

@[simp] lemma mark_append (secret : Bool) (a b : List ℕ) : mark secret (a ++ b) = mark secret a ++ mark secret b :=
  List.map_append

@[simp] lemma map_fst_mark (secret : Bool) (text : List ℕ) : (mark secret text).map Prod.fst = text := by
  rw [mark, List.map_map]
  exact List.map_id text

lemma mem_mark {secret : Bool} {text : List ℕ} {c : Marked} :
    c ∈ mark secret text ↔ c.1 ∈ text ∧ c.2 = secret := by
  rw [mark, List.mem_map]
  constructor
  · rintro ⟨code, hcode, rfl⟩
    exact ⟨hcode, rfl⟩
  · rintro ⟨hcode, rfl⟩
    exact ⟨c.1, hcode, rfl⟩

lemma erased_append {a b : List Marked} : Erased (a ++ b) ↔ Erased a ∧ Erased b := List.forall_mem_append

lemma erased_mark (text : List ℕ) : Erased (mark false text) := fun _ hc => (mem_mark.mp hc).2

lemma erased_inserted (text : String) : Erased (inserted marked text) := by
  intro c hc
  obtain ⟨code, -, rfl⟩ := List.mem_map.mp hc
  rfl

lemma erased_replacement {scheme : List Marked} (h : Erased scheme) :
    Erased (bearerReplacement marked scheme) := by
  apply erased_append.mpr ⟨_, erased_inserted _⟩
  intro c hc
  rw [List.mem_iff_getElem] at hc
  obtain ⟨i, hi, rfl⟩ := hc
  have hlength : i < scheme.length := by
    rw [List.length_zipWith] at hi
    omega
  rw [List.getElem_zipWith]
  exact h scheme[i] (List.getElem_mem _)

section

variable {U : Unicode} {before : Bool}

lemma erased_subBearer {text : List Marked} (h : Erased text) : Erased (subBearer U marked before text) := by
  apply sub_forall _ h
  intro before text htext r hr
  rw [Option.mem_def, bearerMatcher] at hr
  split_ifs at hr with hmatch
  rw [← Option.some.inj hr]
  exact erased_replacement (fun c hc => htext c (List.mem_of_mem_take hc))

lemma erased_subNamed {text : List Marked} (h : Erased text) : Erased (subNamed U marked before text) := by
  apply sub_forall _ h
  intro before text htext r hr
  rw [Option.mem_def] at hr
  obtain ⟨hbefore, name, sign, value, rest, rfl, hmatch⟩ := exists_namedMatch hr
  rw [hbefore, namedMatcher_eq_some hmatch] at hr
  rw [← Option.some.inj hr]
  apply erased_append.mpr ⟨_, erased_inserted _⟩
  intro c hc
  exact htext c (List.mem_append_left _ (List.mem_append_left _ hc))

end

lemma startsWith_map_fst (letters : List ℕ) (text : List Marked) :
    startsWith plain letters (text.map Prod.fst) = startsWith marked letters text := by
  induction letters generalizing text with
  | nil => rfl
  | cons l letters ih =>
    cases text with
    | nil => rfl
    | cons c text => rw [List.map_cons, startsWith, startsWith, ih]; rfl

lemma map_fst_inserted (text : String) : (inserted marked text).map Prod.fst = inserted plain text := by
  rw [inserted, inserted, List.map_map]
  rfl

lemma takeWhile_map_fst (p : ℕ → Bool) (text : List Marked) :
    (text.map Prod.fst).takeWhile (fun c => p (plain.code c)) =
      (text.takeWhile fun c => p (marked.code c)).map Prod.fst := List.takeWhile_map ..

lemma bearerMatcher_map_fst (before : Bool) (text : List Marked) : bearerMatcher plain before (text.map Prod.fst) =
    (bearerMatcher marked before text).map fun r => (r.1, r.2.map Prod.fst) := by
  have hrecase (scheme : List Marked) (codes : List ℕ) : (scheme.map Prod.fst).zipWith plain.recase codes =
      (scheme.zipWith marked.recase codes).map Prod.fst := by
    rw [List.zipWith_map_left, List.map_zipWith]
    rfl
  simp only [bearerMatcher, startsWith_map_fst, ← List.map_drop, ← List.map_take, takeWhile_map_fst,
    List.length_map, ne_eq, List.map_eq_nil_iff, hrecase, ← map_fst_inserted, ← List.map_append]
  split_ifs
  · rfl
  · rfl

lemma nameAt_map_fst (text : List Marked) : nameAt plain (text.map Prod.fst) = nameAt marked text := by
  have hhead (text : List Marked) : (text.map Prod.fst).head?.map plain.code = text.head?.map marked.code := by
    rw [List.head?_map, Option.map_map]
    rfl
  simp only [nameAt, startsWith_map_fst, ← List.map_drop, hhead]

lemma namedMatcher_map_fst (before : Bool) (text : List Marked) : namedMatcher plain before (text.map Prod.fst) =
    (namedMatcher marked before text).map fun r => (r.1, r.2.map Prod.fst) := by
  rw [namedMatcher, namedMatcher, nameAt_map_fst]
  cases nameAt marked text with
  | none => rfl
  | some letters =>
    simp only [← List.map_drop, ← List.map_take, takeWhile_map_fst, List.length_map, ne_eq,
      List.map_eq_nil_iff, ← map_fst_inserted, ← List.map_append]
    split_ifs
    · rfl
    · rfl

/-- The marks do not change what is substituted. -/
lemma redactMessage_marked (U : Unicode) (message : List Marked) :
    (redactMessage U marked message).map Prod.fst = redactMessage U plain (message.map Prod.fst) := by
  have hbearer : (subBearer U marked false message).map Prod.fst = subBearer U plain false (message.map Prod.fst) :=
    (sub_map (fun _ => rfl) bearerMatcher_map_fst 0).symm
  rw [redactMessage, redactMessage, ← hbearer]
  exact (sub_map (fun _ => rfl) namedMatcher_map_fst 0).symm

section

variable {U : Unicode} {before : Bool}

variable (U) in
def last (before : Bool) (text : List Marked) : Bool := lastIsWord (fun c => U.isWord (marked.code c)) before text

lemma last_append {a b : List Marked} : last U before (a ++ b) = last U (last U before a) b := lastIsWord_append

lemma last_eq {text : List Marked} : last U before text = lastIsWord U.isWord before (text.map Prod.fst) := by
  rw [last, lastIsWord, lastIsWord, List.getLast?_map, Option.map_map]
  rfl

lemma BearerMatch.head_spaces {α : Type} {K : Cells α} {scheme spaces credential rest : List α}
    (h : BearerMatch K scheme spaces credential rest) :
    ∀ c ∈ (spaces ++ credential ++ rest).head?, isValue (K.code c) = false := by
  obtain ⟨d, spaces, rfl⟩ := List.exists_cons_of_ne_nil h.spaces_ne_nil
  intro c hc
  obtain rfl : d = c := Option.some.inj hc
  exact isValue_of_isSpace (h.isSpace_spaces d List.mem_cons_self)

lemma BearerMatch.isValue_scheme {α : Type} {K : Cells α} {scheme spaces credential rest : List α}
    (h : BearerMatch K scheme spaces credential rest) : ∀ c ∈ scheme, isValue (K.code c) = true :=
  h.spells.isValue isLower_bearer

/-- A match that starts in a run of characters starts with the last six of them. -/
lemma exists_bearerMatch_run {run tail : List Marked} {r : ℕ × List Marked}
    (hrun : ∀ c ∈ run, isValue c.1 = true) (htail : ∀ c ∈ tail.head?, isValue c.1 = false)
    (h : bearerMatcher marked before (run ++ tail) = some r) : before = false ∧
      ∃ spaces credential rest, tail = spaces ++ credential ++ rest ∧
        BearerMatch marked run spaces credential rest := by
  obtain ⟨hbefore, scheme, spaces, credential, rest, heq, hmatch⟩ := exists_bearerMatch h
  rw [List.append_assoc, List.append_assoc, ← List.append_assoc spaces] at heq
  obtain ⟨rfl, rfl⟩ := append_unique (p := fun c : Marked => isValue c.1) hrun hmatch.isValue_scheme htail
    hmatch.head_spaces heq
  exact ⟨hbefore, spaces, credential, rest, rfl, hmatch⟩

variable (before) in
/-- A run of characters that does not end in the word `Bearer`, or is not followed by whitespace and a
credential, is kept. -/
lemma subBearer_run {run tail : List Marked} (hrun : ∀ c ∈ run, isValue c.1 = true)
    (htail : ∀ c ∈ tail.head?, isValue c.1 = false)
    (h : ∀ a scheme spaces credential rest, run = a ++ scheme → tail = spaces ++ credential ++ rest →
      last U before a = false → ¬BearerMatch marked scheme spaces credential rest) :
    subBearer U marked before (run ++ tail) = run ++ subBearer U marked (last U before run) tail := by
  apply sub_keep
  intro a c b heq
  cases hmatch : bearerMatcher marked (last U before a) (c :: b ++ tail) with
  | none => exact hmatch
  | some r =>
    obtain ⟨hbefore, spaces, credential, rest, htail', hm⟩ := exists_bearerMatch_run
      (fun d hd => hrun d (heq ▸ List.mem_append_right _ hd)) htail hmatch
    exact absurd hm (h a (c :: b) spaces credential rest heq htail' hbefore)

/-- A run of characters that ends in the word `Bearer`, followed by whitespace and a credential. -/
lemma subBearer_match {a scheme spaces credential rest : List Marked} (ha : ∀ c ∈ a, isValue c.1 = true)
    (hm : BearerMatch marked scheme spaces credential rest) (hbefore : last U before a = false) :
    subBearer U marked before (a ++ (scheme ++ spaces ++ credential ++ rest)) =
      a ++ bearerReplacement marked scheme ++
        subBearer U marked (last U before (a ++ scheme ++ spaces ++ credential)) rest := by
  have hkeep : subBearer U marked before (a ++ (scheme ++ spaces ++ credential ++ rest)) =
      a ++ subBearer U marked (last U before a) (scheme ++ spaces ++ credential ++ rest) := by
    apply sub_keep
    intro x c b heq
    cases hmatch : bearerMatcher marked (last U before x) (c :: b ++ (scheme ++ spaces ++ credential ++ rest)) with
    | none => exact hmatch
    | some r =>
      have hrun : ∀ d ∈ c :: b ++ scheme, isValue d.1 = true := List.forall_mem_append.mpr
        ⟨fun d hd => ha d (heq ▸ List.mem_append_right _ hd), hm.isValue_scheme⟩
      rw [List.append_assoc scheme, List.append_assoc scheme, ← List.append_assoc] at hmatch
      obtain ⟨-, _, _, _, -, hm'⟩ := exists_bearerMatch_run hrun
        hm.head_spaces hmatch
      -- both matches start with six letters
      have hlength := hm'.spells.length_eq.symm.trans hm.spells.length_eq
      rw [List.length_append, List.length_cons] at hlength
      omega
  have hscheme : scheme ++ spaces ++ credential ≠ [] := by
    intro hnil
    exact hm.credential_ne_nil (List.append_eq_nil_iff.mp hnil).2
  rw [hkeep, List.append_assoc a, hbefore, List.append_assoc a, List.append_assoc a, last_append, hbefore]
  congr 1
  exact sub_match hscheme (bearerMatcher_eq_some hm)

/-- Characters that end a run are kept. -/
lemma subBearer_separator {sep tail : List Marked} (hsep : ∀ c ∈ sep, isValue c.1 = false) :
    subBearer U marked before (sep ++ tail) = sep ++ subBearer U marked (last U before sep) tail := by
  apply sub_keep
  intro a c b heq
  cases hmatch : bearerMatcher marked (last U before a) (c :: b ++ tail) with
  | none => exact hmatch
  | some r =>
    obtain ⟨-, scheme, spaces, credential, rest, heq', hm⟩ := exists_bearerMatch hmatch
    have hscheme := hm.isValue_scheme
    cases scheme with
    | nil => cases hm.spells
    | cons d scheme =>
      obtain rfl : c = d := (List.cons.inj heq').1
      have hvalue := hscheme c List.mem_cons_self
      rw [show isValue (marked.code c) = false from hsep c (heq ▸ by simp)] at hvalue
      cases hvalue

end

/-- A text that does not end within a run of characters. -/
def Closed (text : List ℕ) : Prop := ∀ c ∈ text.getLast?, isValue c = false

lemma exists_lastRun (p : ℕ → Bool) (text : List ℕ) : ∃ front run, text = front ++ run ∧
    (∀ c ∈ run, p c = true) ∧ ∀ c ∈ front.getLast?, p c = false := by
  obtain ⟨run, front, heq, -, hrun, hfront⟩ := exists_run p text.reverse
  refine ⟨front.reverse, run.reverse, ?_, fun c hc => hrun c (List.mem_reverse.mp hc), ?_⟩
  · rw [← List.reverse_append, ← heq, List.reverse_reverse]
  · rwa [List.getLast?_reverse]

lemma rtakeWhile_lastRun {p : ℕ → Bool} {front run : List ℕ} (hrun : ∀ c ∈ run, p c = true)
    (hfront : ∀ c ∈ front.getLast?, p c = false) : (front ++ run).rtakeWhile p = run := by
  rw [List.rtakeWhile, List.reverse_append, takeWhile_run, List.reverse_reverse]
  · exact fun c hc => hrun c (List.mem_reverse.mp hc)
  · rwa [List.head?_reverse]

lemma rdropWhile_lastRun {p : ℕ → Bool} {front run : List ℕ} (hrun : ∀ c ∈ run, p c = true)
    (hfront : ∀ c ∈ front.getLast?, p c = false) : (front ++ run).rdropWhile p = front := by
  have heq := List.rdropWhile_append_rtakeWhile (p := p) (l := front ++ run)
  rw [rtakeWhile_lastRun hrun hfront] at heq
  exact List.append_cancel_right heq

/-- Closed texts, one run and what separates it from the next one at a time. -/
lemma Closed.induction {motive : List ℕ → Prop} (nil : motive [])
    (step : ∀ front run sep, Closed front → (∀ c ∈ run, isValue c = true) → sep ≠ [] →
      (∀ c ∈ sep, isValue c = false) → (run = [] → front = []) → motive front → motive (front ++ run ++ sep))
    {text : List ℕ} (h : Closed text) : motive text := by
  induction hn : text.length using Nat.strong_induction_on generalizing text with
  | _ n ih =>
    obtain ⟨rest, sep, rfl, hsep, hrest⟩ := exists_lastRun (fun c => !isValue c) text
    obtain ⟨front, run, rfl, hrun, hfront⟩ := exists_lastRun isValue rest
    by_cases hne : sep = []
    · -- the text is empty, for its last character is both in the run and not in it
      subst hne
      rw [List.append_nil] at h ⊢
      cases hlast : (front ++ run).getLast? with
      | none =>
        rw [List.getLast?_eq_none_iff.mp hlast]
        exact nil
      | some c =>
        have := h c hlast
        have := hrest c hlast
        simp_all
    · apply step front run sep hfront hrun hne _ _ _
      · intro c hc
        simpa using hsep c hc
      · rintro rfl
        rw [List.append_nil] at hrest
        cases hlast : front.getLast? with
        | none => exact List.getLast?_eq_none_iff.mp hlast
        | some c =>
          have := hfront c hlast
          have := hrest c hlast
          simp_all
      · apply ih front.length _ hfront rfl
        have := List.length_pos_of_ne_nil hne
        rw [← hn, List.length_append, List.length_append]
        omega

lemma not_endsInScheme_nil {U : Unicode} (front : List ℕ) : ¬EndsInScheme U front [] := by
  rintro ⟨a, scheme, heq, hscheme, -⟩
  obtain ⟨-, rfl⟩ := List.append_eq_nil_iff.mp heq.symm
  cases hscheme

lemma introduces_append {U : Unicode} {front run sep : List ℕ} (hfront : Closed front)
    (hrun : ∀ c ∈ run, isValue c = true) (hsep : ∀ c ∈ sep, isValue c = false) (hne : sep ≠ [])
    (hempty : run = [] → front = []) : Introduces U (front ++ run ++ sep) ↔
      (∀ c ∈ sep, Str.isSpace c = true) ∧ EndsInScheme U front run ∧
        ¬(Introduces U front ∧ ∀ c ∈ run, isCredential c = true) := by
  rw [Introduces]
  by_cases hspaces : ∀ c ∈ sep, Str.isSpace c = true
  · have hlast : ∀ c ∈ (front ++ run).getLast?, Str.isSpace c = false := by
      intro c hc
      by_cases hnil : run = []
      · rw [hnil, hempty hnil] at hc
        cases hc
      · rw [List.getLast?_append_of_ne_nil _ hnil] at hc
        exact not_isSpace_of_isValue (hrun c (List.mem_of_getLast? hc))
    have htrimmed : (front ++ run ++ sep).rdropWhile Str.isSpace = front ++ run :=
      rdropWhile_lastRun hspaces hlast
    have hlength : (front ++ run).length < (front ++ run ++ sep).length := by
      have := List.length_pos_of_ne_nil hne
      rw [@List.length_append _ (front ++ run)]
      omega
    simp only [htrimmed, dif_pos hlength, rdropWhile_lastRun hrun hfront, rtakeWhile_lastRun hrun hfront]
    exact ⟨fun h => ⟨hspaces, h⟩, fun h => h.2⟩
  · obtain ⟨a, b, rfl, hb, ha⟩ := exists_lastRun Str.isSpace sep
    have hane : a ≠ [] := by
      rintro rfl
      exact hspaces hb
    have htrimmed : (front ++ run ++ (a ++ b)).rdropWhile Str.isSpace = front ++ run ++ a := by
      rw [← List.append_assoc]
      apply rdropWhile_lastRun hb
      rwa [List.getLast?_append_of_ne_nil _ hane]
    have hnil : (front ++ run ++ a).rtakeWhile isValue = [] := by
      rw [List.rtakeWhile_eq_nil_iff]
      intro hne
      rw [List.getLast_append_of_ne_nil _ hane, hsep _ (List.mem_append_left _ (List.getLast_mem hane))]
      decide
    simp only [htrimmed, hnil, not_endsInScheme_nil, false_and, dite_eq_ite, ite_self, hspaces]

lemma exists_of_append_run {α : Type} {p : α → Bool} {a b run tail : List α} (ha : ∀ c ∈ a, p c = true)
    (htail : ∀ c ∈ tail.head?, p c = false) (h : run ++ tail = a ++ b) : ∃ c, run = a ++ c ∧ b = c ++ tail := by
  rcases List.append_eq_append_iff.mp h with ⟨c, rfl, rfl⟩ | ⟨c, rfl, rfl⟩
  · cases c with
    | nil => exact ⟨[], by simp, rfl⟩
    | cons d c =>
      have htrue := ha d (List.mem_append_right _ List.mem_cons_self)
      rw [htail d rfl] at htrue
      cases htrue
  · exact ⟨c, rfl, rfl⟩

lemma spells_map_fst {letters : List ℕ} {text : List Marked} :
    Spells plain letters (text.map Prod.fst) ↔ Spells marked letters text :=
  List.forall₂_map_right_iff

/-- What the first substitution makes of a closed front in which nothing is marked: if the front
introduces a credential, then the credential that follows it is replaced as well. -/
structure Front (U : Unicode) (front : List ℕ) (text kept credential rest : List Marked) : Prop where
  text_eq : text = credential ++ rest
  isCredential_credential : ∀ c ∈ credential, isCredential c.1 = true
  maximal : Introduces U front → ∀ c ∈ rest.head?, isCredential c.1 = false
  credential_eq_nil : ¬Introduces U front → credential = []
  subBearer_eq : subBearer U marked false (mark false front ++ text) =
    kept ++ subBearer U marked (last U false (mark false front ++ credential)) rest
  erased : Erased kept
  kept : credential = [] ∧ kept.getLast? = (mark false front).getLast? ∨
    credential ≠ [] ∧ ∃ k, kept = k ++ inserted marked "[REDACTED]" ∧ ∀ c ∈ k.getLast?, isValue c.1 = false

section

variable {U : Unicode}

lemma Front.nil (text : List Marked) : Front U [] text [] [] text where
  text_eq := rfl
  isCredential_credential := nofun
  maximal h := by
    rw [Introduces] at h
    simp at h
  credential_eq_nil _ := rfl
  subBearer_eq := rfl
  erased := nofun
  kept := .inl ⟨rfl, rfl⟩

/-- One run and its separator further: the run is what `G ++ z` leaves of it. -/
lemma Front.append_match {front run sep : List ℕ} {text G c a scheme credential rest : List Marked}
    (hfront : Closed front) (hrun : ∀ d ∈ run, isValue d = true) (hsep : ∀ d ∈ sep, isValue d = false)
    (hne : sep ≠ []) (hempty : run = [] → front = []) (hsplit : mark false run = c ++ (a ++ scheme))
    (h : Front U front (mark false run ++ (mark false sep ++ text)) G c (a ++ scheme ++ (mark false sep ++ text)))
    (htext : text = credential ++ rest) (hlast : last U (last U false (mark false front ++ c)) a = false)
    (hm : BearerMatch marked scheme (mark false sep) credential rest) :
    Front U (front ++ run ++ sep) text (G ++ (a ++ bearerReplacement marked scheme)) credential rest := by
  have hmem : ∀ d ∈ a ++ scheme, d.1 ∈ run ∧ d.2 = false := fun d hd =>
    mem_mark.mp (hsplit ▸ List.mem_append_right c hd)
  have hscheme : scheme ≠ [] := by
    rintro rfl
    cases hm.spells
  have hintroduces : Introduces U (front ++ run ++ sep) := by
    refine (introduces_append hfront hrun hsep hne hempty).mpr ⟨?_, ?_, ?_⟩
    · exact fun d hd => hm.isSpace_spaces (d, false) (mem_mark.mpr ⟨hd, rfl⟩)
    · refine ⟨(c ++ a).map Prod.fst, scheme.map Prod.fst, ?_, spells_map_fst.mpr hm.spells, ?_⟩
      · rw [← List.map_append, List.append_assoc, ← hsplit, map_fst_mark]
      · have := hlast
        rw [← last_append, List.append_assoc, last_eq, List.map_append, map_fst_mark] at this
        exact this
    · rintro ⟨hin, hall⟩
      cases hz : a ++ scheme with
      | nil => exact hscheme (List.append_eq_nil_iff.mp hz).2
      | cons d z =>
        have hnot := h.maximal hin d (by rw [hz]; rfl)
        rw [hall d.1 (hmem d (by rw [hz]; exact List.mem_cons_self)).1] at hnot
        cases hnot
  constructor
  case text_eq => exact htext
  case isCredential_credential => exact hm.isCredential_credential
  case maximal => exact fun _ => hm.rest
  case credential_eq_nil => exact fun hnot => absurd hintroduces hnot
  case subBearer_eq =>
    have hrest : a ++ scheme ++ (mark false sep ++ text) = a ++ (scheme ++ mark false sep ++ credential ++ rest) := by
      simp only [htext, List.append_assoc]
    have hvalue : ∀ d ∈ a, isValue d.1 = true := fun d hd => hrun _ (hmem d (List.mem_append_left _ hd)).1
    have hend : mark false (front ++ run ++ sep) ++ credential =
        mark false front ++ c ++ (a ++ scheme ++ mark false sep ++ credential) := by
      simp only [mark_append, hsplit, List.append_assoc]
    rw [mark_append, mark_append, List.append_assoc, List.append_assoc, h.subBearer_eq, hrest,
      subBearer_match hvalue hm hlast, ← last_append, ← hend, mark_append, mark_append, List.append_assoc G]
  case erased =>
    apply erased_append.mpr ⟨h.erased, erased_append.mpr ⟨fun d hd => ?_, erased_replacement fun d hd => ?_⟩⟩
    · exact (hmem d (List.mem_append_left _ hd)).2
    · exact (hmem d (List.mem_append_right _ hd)).2
  case kept =>
    refine .inr ⟨hm.credential_ne_nil,
      G ++ (a ++ (scheme.zipWith marked.recase (Str.ofString "Bearer").codes ++ [(32, false)])), ?_, ?_⟩
    · simp only [bearerReplacement, List.append_assoc]
      rfl
    · intro d hd
      rw [← List.append_assoc, ← List.append_assoc, List.getLast?_concat] at hd
      obtain rfl : (32, false) = d := Option.some.inj hd
      decide

/-- The front that ends in a `Bearer` introduces a credential only if this `Bearer` was not replaced
itself. -/
lemma Front.scheme_of_introduces {front run sep : List ℕ} {text G c z : List Marked}
    (hfront : Closed front) (hrun : ∀ d ∈ run, isValue d = true) (hsep : ∀ d ∈ sep, isValue d = false)
    (hne : sep ≠ []) (hempty : run = [] → front = []) (hsplit : mark false run = c ++ z)
    (h : Front U front (mark false run ++ (mark false sep ++ text)) G c (z ++ (mark false sep ++ text)))
    (hin : Introduces U (front ++ run ++ sep)) : (∀ d ∈ sep, Str.isSpace d = true) ∧
      ∃ a scheme, z = a ++ scheme ∧ Spells marked bearer scheme ∧
        last U (last U false (mark false front ++ c)) a = false := by
  obtain ⟨hspaces, ⟨before, scheme, rfl, hscheme, hlast⟩, hnot⟩ :=
    (introduces_append hfront hrun hsep hne hempty).mp hin
  have hspells : Spells marked bearer (mark false scheme) :=
    spells_map_fst.mp (by rwa [map_fst_mark])
  refine ⟨hspaces, ?_⟩
  rw [mark_append] at hsplit
  have hprefix : ∃ a, z = a ++ mark false scheme ∧ mark false before = c ++ a := by
    rcases List.append_eq_append_iff.mp hsplit with ⟨a, hc, hz⟩ | ⟨a, hbefore, hz⟩
    · by_cases hfrontin : Introduces U front
      · exfalso
        cases z with
        | nil =>
          -- the whole run, this scheme included, was replaced
          apply hnot ⟨hfrontin, fun d hd => h.isCredential_credential (d, false) ?_⟩
          rw [hc, ← List.append_nil a, ← hz, ← mark_append]
          exact mem_mark.mpr ⟨hd, rfl⟩
        | cons d z =>
          have hcred := hspells.isCredential isLower_bearer d (hz ▸ List.mem_append_right _ List.mem_cons_self)
          rw [show isCredential (marked.code d) = false from h.maximal hfrontin d rfl] at hcred
          cases hcred
      · rw [h.credential_eq_nil hfrontin] at hc ⊢
        obtain ⟨hnil, rfl⟩ := List.append_eq_nil_iff.mp hc.symm
        exact ⟨[], hz.symm, by rw [hnil]; rfl⟩
    · exact ⟨a, hz, hbefore⟩
  obtain ⟨a, hz, hbefore⟩ := hprefix
  refine ⟨a, mark false scheme, hz, hspells, ?_⟩
  rw [← last_append, List.append_assoc, ← hbefore, last_eq, List.map_append, map_fst_mark, map_fst_mark]
  exact hlast

lemma Front.append_keep {front run sep : List ℕ} {text G c z : List Marked}
    (hfront : Closed front) (hrun : ∀ d ∈ run, isValue d = true) (hsep : ∀ d ∈ sep, isValue d = false)
    (hne : sep ≠ []) (hempty : run = [] → front = []) (hsplit : mark false run = c ++ z)
    (h : Front U front (mark false run ++ (mark false sep ++ text)) G c (z ++ (mark false sep ++ text)))
    (htext : ∃ d rest, text = d :: rest ∧ isValue d.1 = true)
    (hnone : ∀ a scheme credential rest, z = a ++ scheme → text = credential ++ rest →
      last U (last U false (mark false front ++ c)) a = false →
        ¬BearerMatch marked scheme (mark false sep) credential rest) :
    Front U (front ++ run ++ sep) text (G ++ (z ++ mark false sep)) [] text := by
  have hz : ∀ d ∈ z, d.1 ∈ run ∧ d.2 = false := fun d hd =>
    mem_mark.mp (hsplit ▸ List.mem_append_right c hd)
  have hsep' : ∀ d ∈ mark false sep, isValue d.1 = false := fun d hd => hsep _ (mem_mark.mp hd).1
  have hne' : mark false sep ≠ [] := by
    intro hnil
    exact hne (List.map_eq_nil_iff.mp hnil)
  have hhead : ∀ d ∈ (mark false sep ++ text).head?, isValue d.1 = false := by
    intro d hd
    rw [List.head?_append_of_ne_nil _ hne'] at hd
    exact hsep' d (List.mem_of_head? hd)
  obtain ⟨e, text', rfl, he⟩ := htext
  constructor
  case text_eq => rfl
  case isCredential_credential => nofun
  case maximal =>
    intro hin d hd
    obtain rfl : e = d := Option.some.inj hd
    obtain ⟨hspaces, a, scheme, rfl, hscheme, hlast⟩ :=
      h.scheme_of_introduces hfront hrun hsep hne hempty hsplit hin
    by_contra hcred
    obtain ⟨credential, rest, htext, htake, hall, hrest⟩ :=
      exists_run (fun d : Marked => isCredential d.1) (e :: text')
    refine hnone a scheme credential rest rfl htext hlast ⟨hscheme, hne', ?_, ?_, hall, hrest⟩
    · exact fun d hd => hspaces _ (mem_mark.mp hd).1
    · rintro rfl
      exact hcred (hrest e (by rw [List.nil_append] at htext; rw [← htext]; rfl))
  case credential_eq_nil => exact fun _ => rfl
  case subBearer_eq =>
    have hkeep := subBearer_run (U := U) (last U false (mark false front ++ c))
      (fun d hd => hrun _ (hz d hd).1) hhead fun a scheme spaces credential rest hzeq htail hlast hm => by
        have hspaces : ∀ d ∈ spaces, isValue d.1 = false := fun d hd => isValue_of_isSpace (hm.isSpace_spaces d hd)
        have hcredential : ∀ d ∈ (credential ++ rest).head?, isValue d.1 = true := hm.isValue_head
        rw [List.append_assoc] at htail
        obtain ⟨rfl, hrest⟩ := append_unique (p := fun d : Marked => !isValue d.1)
          (by simpa using hsep') (by simpa using hspaces) (by simpa using he) (by simpa using hcredential) htail
        exact hnone a scheme credential rest hzeq hrest hlast hm
    have hend : mark false (front ++ run ++ sep) ++ [] = mark false front ++ c ++ (z ++ mark false sep) := by
      simp only [mark_append, hsplit, List.append_assoc, List.append_nil]
    rw [mark_append, mark_append, List.append_assoc, List.append_assoc, h.subBearer_eq, hkeep,
      subBearer_separator hsep', ← last_append, ← last_append, ← hend, List.append_assoc G, List.append_assoc z,
      mark_append, mark_append]
  case erased =>
    exact erased_append.mpr ⟨h.erased, erased_append.mpr ⟨fun d hd => (hz d hd).2, erased_mark sep⟩⟩
  case kept =>
    refine .inl ⟨rfl, ?_⟩
    rw [← List.append_assoc, List.getLast?_append_of_ne_nil _ hne', mark_append,
      List.getLast?_append_of_ne_nil _ hne']

/-- The first substitution on a closed front and a run of characters that follows it. -/
lemma exists_front {front : List ℕ} (hfront : Closed front) (text : List Marked)
    (htext : ∃ d rest, text = d :: rest ∧ isValue d.1 = true) : ∃ kept credential rest,
      Front U front text kept credential rest := by
  revert text
  apply Closed.induction (motive := fun front => ∀ text : List Marked,
    (∃ d rest, text = d :: rest ∧ isValue d.1 = true) → ∃ kept credential rest,
      Front U front text kept credential rest) _ _ hfront
  · exact fun text _ => ⟨_, _, _, Front.nil text⟩
  · intro front run sep hfront hrun hne hsep hempty ih text htext
    have hsplit : ∃ G c z, mark false run = c ++ z ∧
        Front U front (mark false run ++ (mark false sep ++ text)) G c (z ++ (mark false sep ++ text)) := by
      cases run with
      | nil =>
        rw [hempty rfl]
        exact ⟨[], [], [], rfl, Front.nil _⟩
      | cons d run =>
        obtain ⟨G, c, rest, h⟩ := ih (mark false (d :: run) ++ (mark false sep ++ text))
          ⟨(d, false), _, rfl, hrun d List.mem_cons_self⟩
        have hne' : mark false sep ≠ [] := fun hnil => hne (List.map_eq_nil_iff.mp hnil)
        obtain ⟨z, hsplit, rfl⟩ := exists_of_append_run (p := fun d : Marked => isValue d.1)
          (fun d hd => isValue_of_isCredential (h.isCredential_credential d hd))
          (fun d hd => by
            rw [List.head?_append_of_ne_nil _ hne'] at hd
            exact hsep _ (mem_mark.mp (List.mem_of_head? hd)).1) h.text_eq
        exact ⟨G, c, z, hsplit, h⟩
    obtain ⟨G, c, z, hsplit, h⟩ := hsplit
    by_cases hmatch : ∃ a scheme credential rest, z = a ++ scheme ∧ text = credential ++ rest ∧
        last U (last U false (mark false front ++ c)) a = false ∧
          BearerMatch marked scheme (mark false sep) credential rest
    · obtain ⟨a, scheme, credential, rest, rfl, htext, hlast, hm⟩ := hmatch
      exact ⟨_, _, _, h.append_match hfront hrun hsep hne hempty hsplit htext hlast hm⟩
    · exact ⟨_, _, _, h.append_keep hfront hrun hsep hne hempty hsplit htext
        fun a scheme credential rest hz htext hlast hm =>
          hmatch ⟨a, scheme, credential, rest, hz, htext, hlast, hm⟩⟩

end

section

variable {U : Unicode} {before : Bool}

/-- What follows a text does not matter for the matches in it, if one of the two closes the run of
characters between them. -/
lemma namedMatcher_append {text tail : List Marked} (hne : text ≠ [])
    (h : (∀ c ∈ text.getLast?, isValue c.1 = false) ∨ ∀ c ∈ tail.head?, isValue c.1 = false) :
    namedMatcher marked before (text ++ tail) = namedMatcher marked before text ∧
      ∀ r ∈ namedMatcher marked before text, r.1 ≤ text.length := by
  -- a match in the text is one in the longer text, and the other way round
  have hextend : ∀ {name sign value rest}, text = name ++ sign :: value ++ rest →
      NamedMatch marked name sign value rest → NamedMatch marked name sign value (rest ++ tail) := by
    intro name sign value rest heq hm
    refine { hm with rest := ?_ }
    cases rest with
    | cons c rest => exact hm.rest
    | nil =>
      rw [List.append_nil] at heq
      rcases h with hlast | htail
      · have hvalue := hm.isValue (text.getLast hne) (heq ▸ List.getLast_mem hne)
        rw [show isValue (marked.code _) = false from hlast _ (List.getLast?_eq_getLast_of_ne_nil hne)] at hvalue
        cases hvalue
      · exact htail
  have hrestrict : ∀ {name sign value rest}, text ++ tail = name ++ sign :: value ++ rest →
      NamedMatch marked name sign value rest → ∃ rest', text = name ++ sign :: value ++ rest' ∧
        rest = rest' ++ tail := by
    intro name sign value rest heq hm
    rcases List.append_eq_append_iff.mp heq with ⟨z, hz, rfl⟩ | ⟨z, rfl, rfl⟩
    · cases z with
      | nil => exact ⟨[], by rw [List.append_nil, hz, List.append_nil], rfl⟩
      | cons d z =>
        exfalso
        rcases h with hlast | htail
        · have hvalue := hm.isValue (text.getLast hne) (hz ▸ List.mem_append_left _ (List.getLast_mem hne))
          rw [show isValue (marked.code _) = false from hlast _ (List.getLast?_eq_getLast_of_ne_nil hne)] at hvalue
          cases hvalue
        · have hvalue := hm.isValue d (hz ▸ List.mem_append_right _ List.mem_cons_self)
          rw [show isValue (marked.code d) = false from htail d rfl] at hvalue
          cases hvalue
    · exact ⟨z, rfl, rfl⟩
  cases hmatch : namedMatcher marked before text with
  | some r =>
    obtain ⟨rfl, name, sign, value, rest, heq, hm⟩ := exists_namedMatch hmatch
    rw [heq, namedMatcher_eq_some hm] at hmatch
    obtain rfl := Option.some.inj hmatch
    constructor
    · rw [heq, List.append_assoc, namedMatcher_eq_some (hextend heq hm)]
    · intro r hr
      rw [← Option.some.inj hr, heq, @List.length_append _ _ rest]
      omega
  | none =>
    refine ⟨?_, nofun⟩
    cases hmatch' : namedMatcher marked before (text ++ tail) with
    | none => rfl
    | some r =>
      obtain ⟨rfl, name, sign, value, rest, heq, hm⟩ := exists_namedMatch hmatch'
      obtain ⟨rest, rfl, rfl⟩ := hrestrict heq hm
      have hrest : ∀ c ∈ rest.head?, isValue (marked.code c) = false := by
        intro c hc
        apply hm.rest c
        rw [Option.mem_def] at hc ⊢
        rw [List.head?_append, hc, Option.some_or]
      rw [namedMatcher_eq_some { hm with rest := hrest }] at hmatch
      cases hmatch

lemma subNamed_append {text tail : List Marked}
    (h : (∀ c ∈ text.getLast?, isValue c.1 = false) ∨ ∀ c ∈ tail.head?, isValue c.1 = false) :
    subNamed U marked before (text ++ tail) =
      subNamed U marked before text ++ subNamed U marked (last U before text) tail := by
  apply sub_append
  rintro a c b rfl
  apply namedMatcher_append (List.cons_ne_nil c b)
  rwa [List.getLast?_append_of_ne_nil _ (List.cons_ne_nil c b)] at h

/-- A name that starts in a text and is followed by `=` ends in it, if the last character of the text
is none of a name. -/
lemma exists_of_append_name {text tail name rest : List Marked} {sign : Marked} {letters : List ℕ}
    (hmem : letters ∈ secretNames) (hname : Spells marked letters name) (hne : text ≠ [])
    (hlast : ∀ c ∈ text.getLast?, isCredential c.1 = false ∨ c.1 = 61)
    (h : text ++ tail = name ++ sign :: rest) : ∃ a, text = name ++ sign :: a ∧ rest = a ++ tail := by
  have hend : ¬text.getLast hne ∈ name := by
    intro hend
    rcases hlast _ (List.getLast?_eq_getLast_of_ne_nil hne) with hnot | heq
    · have hcred := hname.isCredential (isLower_secretNames letters hmem) _ hend
      rw [show isCredential (marked.code _) = false from hnot] at hcred
      cases hcred
    · exact hname.not_equals (isLower_secretNames letters hmem) _ hend heq
  rcases List.append_eq_append_iff.mp h with ⟨a, rfl, -⟩ | ⟨a, rfl, htail⟩
  · exact absurd (List.mem_append_left a (List.getLast_mem hne)) hend
  · cases a with
    | nil => exact absurd (by simp) hend
    | cons d a =>
      obtain ⟨rfl, rfl⟩ := List.cons.inj htail
      exact ⟨a, rfl, rfl⟩

/-- No match starts in the mask. -/
lemma subNamed_mask {tail : List Marked} : subNamed U marked before (inserted marked "[REDACTED]" ++ tail) =
    inserted marked "[REDACTED]" ++ subNamed U marked (last U before (inserted marked "[REDACTED]")) tail := by
  apply sub_keep
  intro a c b heq
  cases hmatch : namedMatcher marked (last U before a) (c :: b ++ tail) with
  | none => exact hmatch
  | some r =>
    obtain ⟨-, name, sign, value, rest, heq', hm⟩ := exists_namedMatch hmatch
    obtain ⟨letters, hmem, hname⟩ := hm.spells
    have hlast : (c :: b).getLast? = (inserted marked "[REDACTED]").getLast? := by
      rw [heq, List.getLast?_append_of_ne_nil _ (List.cons_ne_nil c b)]
    obtain ⟨z, hz, -⟩ := exists_of_append_name hmem hname (List.cons_ne_nil c b)
      (by rw [hlast]; decide) (heq'.trans (List.append_assoc name (sign :: value) rest))
    have hsign : sign ∈ inserted marked "[REDACTED]" := by
      rw [heq, hz]
      exact List.mem_append_right _ (List.mem_append_right _ List.mem_cons_self)
    have hequals : ∀ c ∈ inserted marked "[REDACTED]", c.1 ≠ 61 := by decide
    exact absurd hm.code_sign (hequals sign hsign)

/-- The first character of a text is in what the substitution leaves of it. -/
lemma not_erased_subNamed {c : Marked} {text : List Marked} (hc : c.2 = true) :
    ¬Erased (subNamed U marked before (c :: text)) := by
  intro herased
  have hmem : c ∈ subNamed U marked before (c :: text) := by
    cases hmatch : namedMatcher marked before (c :: text) with
    | none =>
      rw [subNamed, sub_cons hmatch]
      exact List.mem_cons_self
    | some r =>
      obtain ⟨rfl, name, sign, value, rest, heq, hm⟩ := exists_namedMatch hmatch
      rw [subNamed, heq, sub_match (by simp) (namedMatcher_eq_some hm)]
      obtain ⟨letters, hmem, hname⟩ := hm.spells
      cases hname with
      | nil => exact absurd hmem (by decide)
      | cons hlc hname =>
        obtain rfl := (List.cons.inj heq).1
        simp
  rw [herased c hmem] at hc
  cases hc

/-- A name stands before `=` as a word. -/
def HasName (U : Unicode) (before : Bool) (run : List ℕ) : Prop :=
  ∃ a name after, run = a ++ (name ++ 61 :: after) ∧ IsName name ∧ lastIsWord U.isWord before a = false

/-- A secret within a run of characters is erased exactly if a name stands before it in the run. -/
lemma erased_subNamed_iff {run : List ℕ} {secret tail : List Marked} (hrun : ∀ c ∈ run, isValue c = true)
    (hlast : ∀ c ∈ run.getLast?, c = 61) (hsecret : ∀ c ∈ secret, isValue c.1 = true)
    (hhead : ∃ c rest, secret = c :: rest ∧ c.2 = true) (herased : Erased tail)
    (htail : ∀ c ∈ tail.head?, isValue c.1 = false) :
    Erased (subNamed U marked before (mark false run ++ (secret ++ tail))) ↔ HasName U before run := by
  induction run generalizing before with
  | nil =>
    obtain ⟨c, rest, rfl, hc⟩ := hhead
    constructor
    · intro h
      exact absurd h (not_erased_subNamed hc)
    · rintro ⟨a, name, after, heq, -⟩
      simp at heq
  | cons d run ih =>
    have hvalue : ∀ c ∈ mark false (d :: run) ++ secret, isValue c.1 = true :=
      List.forall_mem_append.mpr ⟨fun c hc => hrun _ (mem_mark.mp hc).1, hsecret⟩
    have hlast' : ∀ c ∈ (mark false (d :: run)).getLast?, isCredential c.1 = false ∨ c.1 = 61 := by
      intro c hc
      rw [mark, List.getLast?_map, Option.mem_def, Option.map_eq_some_iff] at hc
      obtain ⟨e, he, rfl⟩ := hc
      exact .inr (hlast e he)
    have hmatch : ∀ {name : List Marked} {sign value rest},
        mark false (d :: run) ++ (secret ++ tail) = name ++ sign :: value ++ rest →
          NamedMatch marked name sign value rest →
            ∃ after, mark false (d :: run) = name ++ sign :: after ∧ rest = tail := by
      intro name sign value rest heq hm
      obtain ⟨letters, hmem, hname⟩ := hm.spells
      rw [← List.append_assoc] at heq
      obtain ⟨hsame, rfl⟩ := append_unique (p := fun c : Marked => isValue c.1) hvalue hm.isValue htail hm.rest heq
      obtain ⟨after, hafter, -⟩ := exists_of_append_name hmem hname (List.cons_ne_nil _ _) hlast' hsame
      exact ⟨after, hafter, rfl⟩
    cases hfound : namedMatcher marked before (mark false (d :: run) ++ (secret ++ tail)) with
    | some r =>
      obtain ⟨rfl, name, sign, value, rest, heq, hm⟩ := exists_namedMatch hfound
      obtain ⟨after, hafter, rfl⟩ := hmatch heq hm
      obtain ⟨letters, hmem, hname⟩ := hm.spells
      constructor
      · intro _
        refine ⟨[], name.map Prod.fst, after.map Prod.fst, ?_, ⟨letters, hmem, spells_map_fst.mpr hname⟩, rfl⟩
        have hfst := congrArg (List.map Prod.fst) hafter
        rw [map_fst_mark, List.map_append, List.map_cons, show sign.1 = 61 from hm.code_sign] at hfst
        exact hfst
      · intro _
        rw [subNamed, heq, sub_match (by simp) (namedMatcher_eq_some hm)]
        apply erased_append.mpr ⟨erased_append.mpr ⟨_, erased_inserted _⟩, erased_subNamed herased⟩
        exact fun c hc => (mem_mark.mp (hafter ▸ List.mem_append_left _ hc)).2
    | none =>
      have hcons : subNamed U marked before (mark false (d :: run) ++ (secret ++ tail)) =
          (d, false) :: subNamed U marked (U.isWord d) (mark false run ++ (secret ++ tail)) := sub_cons hfound
      have htaillast : ∀ c ∈ run.getLast?, c = 61 := by
        intro c hc
        apply hlast c
        rw [Option.mem_def] at hc ⊢
        rw [List.getLast?_cons, hc, Option.getD_some]
      rw [hcons, Erased, List.forall_mem_cons]
      refine (and_iff_right rfl).trans ((ih (fun c hc => hrun c (List.mem_cons_of_mem _ hc)) htaillast).trans ?_)
      constructor
      · rintro ⟨a, name, after, heq, hname, hword⟩
        exact ⟨d :: a, name, after, by rw [heq, List.cons_append], hname, by rwa [lastIsWord_cons]⟩
      · rintro ⟨a, name, after, heq, hname, hword⟩
        cases a with
        | cons e a =>
          obtain ⟨rfl, rfl⟩ := List.cons.inj heq
          exact ⟨a, name, after, rfl, hname, by rwa [lastIsWord_cons] at hword⟩
        | nil =>
          -- the name would have matched
          obtain rfl : before = false := hword
          obtain ⟨letters, hmem, hname⟩ := hname
          obtain ⟨c, rest, rfl, -⟩ := hhead
          have hm : NamedMatch marked (mark false name) (61, false) (mark false after ++ c :: rest) tail := by
            refine ⟨⟨letters, hmem, spells_map_fst.mp (by rwa [map_fst_mark])⟩, rfl, by simp, ?_, htail⟩
            apply List.forall_mem_append.mpr ⟨_, hsecret⟩
            intro e he
            apply hrun
            rw [heq]
            exact List.mem_append_right _ (List.mem_append_right _ (List.mem_cons_of_mem _ (mem_mark.mp he).1))
          have heq' : mark false (d :: run) ++ (c :: rest ++ tail) =
              mark false name ++ (61, false) :: (mark false after ++ c :: rest) ++ tail := by
            rw [heq]
            simp [mark]
          rw [heq', namedMatcher_eq_some hm] at hfound
          cases hfound

variable (before) in
/-- The first substitution in a run of characters keeps what stands up to an `=`. -/
lemma exists_subBearer_run {run : List ℕ} {secret tail : List Marked} (hrun : ∀ c ∈ run, isValue c = true)
    (hlast : ∀ c ∈ run.getLast?, c = 61) (hsecret : ∀ c ∈ secret, isValue c.1 = true)
    (hhead : ∃ c rest, secret = c :: rest ∧ c.2 = true) (herased : Erased tail)
    (htail : ∀ c ∈ tail.head?, isValue c.1 = false) : ∃ secret' tail',
      subBearer U marked before (mark false run ++ (secret ++ tail)) = mark false run ++ (secret' ++ tail') ∧
        (∀ c ∈ secret', isValue c.1 = true) ∧ (∃ c rest, secret' = c :: rest ∧ c.2 = true) ∧ Erased tail' ∧
        ∀ c ∈ tail'.head?, isValue c.1 = false := by
  have hall : ∀ c ∈ mark false run ++ secret, isValue c.1 = true :=
    List.forall_mem_append.mpr ⟨fun c hc => hrun _ (mem_mark.mp hc).1, hsecret⟩
  rw [← List.append_assoc]
  by_cases hmatch : ∃ a scheme spaces credential rest, mark false run ++ secret = a ++ scheme ∧
      tail = spaces ++ credential ++ rest ∧ last U before a = false ∧
        BearerMatch marked scheme spaces credential rest
  · obtain ⟨a, scheme, spaces, credential, rest, heq, rfl, hword, hm⟩ := hmatch
    have hsplit : ∃ y, a = mark false run ++ y ∧ secret = y ++ scheme := by
      rcases List.append_eq_append_iff.mp heq with ⟨y, ha, hy⟩ | ⟨y, hy, hscheme⟩
      · exact ⟨y, ha, hy⟩
      · cases hlast' : y.getLast? with
        | none =>
          obtain rfl := List.getLast?_eq_none_iff.mp hlast'
          exact ⟨[], by rw [hy, List.append_nil, List.append_nil], hscheme.symm⟩
        | some e =>
          -- no letter of the scheme is the last `=` of the run
          exfalso
          have hy' : y ≠ [] := by
            rintro rfl
            cases hlast'
          have he : (mark false run).getLast? = some e := by
            rw [hy, List.getLast?_append_of_ne_nil _ hy', hlast']
          rw [mark, List.getLast?_map, Option.map_eq_some_iff] at he
          obtain ⟨code, hcode, rfl⟩ := he
          apply hm.spells.not_equals isLower_bearer (code, false)
            (hscheme ▸ List.mem_append_left _ (List.mem_of_getLast? hlast'))
          exact hlast code hcode
    obtain ⟨y, rfl, rfl⟩ := hsplit
    have hrest : Erased rest := (erased_append.mp herased).2
    have hcodes : ∀ c ∈ scheme.zipWith marked.recase (Str.ofString "Bearer").codes, isValue c.1 = true := by
      intro c hc
      rw [List.mem_iff_getElem] at hc
      obtain ⟨i, hi, rfl⟩ := hc
      have hbearer : ∀ code ∈ (Str.ofString "Bearer").codes, isValue code = true := by decide
      rw [List.getElem_zipWith]
      exact hbearer _ (List.getElem_mem _)
    have hkeep : ∀ c ∈ mark false run ++ y, isValue c.1 = true := by
      rw [← List.append_assoc] at hall
      exact (List.forall_mem_append.mp hall).1
    refine ⟨y ++ scheme.zipWith marked.recase (Str.ofString "Bearer").codes, inserted marked " [REDACTED]" ++
      subBearer U marked (last U before (mark false run ++ y ++ scheme ++ spaces ++ credential)) rest,
      ?_, ?_, ?_, ?_, ?_⟩
    · have hreplace := subBearer_match hkeep hm hword
      rw [bearerReplacement] at hreplace
      simp only [List.append_assoc] at hreplace ⊢
      exact hreplace
    · exact List.forall_mem_append.mpr ⟨(List.forall_mem_append.mp hsecret).1, hcodes⟩
    · obtain ⟨c, secret', hsecret', hc⟩ := hhead
      cases y with
      | cons d y =>
        obtain rfl := (List.cons.inj hsecret').1
        exact ⟨d, _, rfl, hc⟩
      | nil =>
        rw [List.nil_append] at hsecret'
        exact ⟨(66, c.2), _, by rw [hsecret']; rfl, hc⟩
    · exact erased_append.mpr ⟨erased_inserted _, erased_subBearer hrest⟩
    · intro c hc
      obtain rfl : (32, false) = c := Option.some.inj hc
      decide
  · have hkeep := subBearer_run (U := U) before hall htail fun a scheme spaces credential rest heq htail' hword hm =>
      hmatch ⟨a, scheme, spaces, credential, rest, heq, htail', hword, hm⟩
    refine ⟨secret, subBearer U marked (last U before (mark false run ++ secret)) tail, ?_, hsecret, hhead,
      erased_subBearer herased, ?_⟩
    · rw [hkeep, List.append_assoc]
    · cases tail with
      | nil =>
        intro c hc
        cases hc
      | cons d tail =>
        have hsep : subBearer U marked (last U before (mark false run ++ secret)) ([d] ++ tail) = _ :=
          subBearer_separator (by simpa using htail d rfl)
        rw [List.singleton_append] at hsep
        rw [hsep]
        exact fun c hc => htail c hc

/-- A secret that the first substitution has not replaced. -/
lemma Front.erased_run_iff {front run : List ℕ} {text kept c secret tail : List Marked} (hfront : Closed front)
    (h : Front U front text kept c (mark false run ++ (secret ++ tail))) (hrun : ∀ c ∈ run, isValue c = true)
    (hlast : ∀ c ∈ run.getLast?, c = 61) (hsecret : ∀ c ∈ secret, isValue c.1 = true)
    (hhead : ∃ c rest, secret = c :: rest ∧ c.2 = true) (herased : Erased tail)
    (htail : ∀ c ∈ tail.head?, isValue c.1 = false) :
    Erased (redactMessage U marked (mark false front ++ text)) ↔ HasName U (last U false kept) run := by
  obtain ⟨secret', tail', hrest, hsecret', hhead', herased', htail'⟩ :=
    exists_subBearer_run (U := U) (last U false (mark false front ++ c)) hrun hlast hsecret hhead herased htail
  have hsplit : ∃ a, Erased a ∧ ∀ rest, subNamed U marked false (kept ++ rest) =
      a ++ subNamed U marked (last U false kept) rest := by
    rcases h.kept with ⟨-, hlastKept⟩ | ⟨-, k, rfl, hk⟩
    · refine ⟨subNamed U marked false kept, erased_subNamed h.erased, fun rest => subNamed_append (.inl ?_)⟩
      intro d hd
      rw [hlastKept, mark, List.getLast?_map, Option.mem_def, Option.map_eq_some_iff] at hd
      obtain ⟨code, hcode, rfl⟩ := hd
      exact hfront code hcode
    · refine ⟨subNamed U marked false k ++ inserted marked "[REDACTED]",
        erased_append.mpr ⟨erased_subNamed (erased_append.mp h.erased).1, erased_inserted _⟩, fun rest => ?_⟩
      rw [List.append_assoc, subNamed_append (.inl hk), subNamed_mask, List.append_assoc, last_append]
  obtain ⟨a, ha, hsplit⟩ := hsplit
  rw [redactMessage, h.subBearer_eq, hrest, hsplit, erased_append, and_iff_right ha]
  exact erased_subNamed_iff hrun hlast hsecret' hhead' herased' htail'

lemma lastIsWord_of_ne_nil {isWord : ℕ → Bool} {text : List ℕ} (h : text ≠ []) (before before' : Bool) :
    lastIsWord isWord before text = lastIsWord isWord before' text := by
  obtain ⟨c, text, rfl⟩ := List.exists_cons_of_ne_nil h
  rw [lastIsWord_cons, lastIsWord_cons]

/-- The names in what the first substitution leaves of a run of characters. -/
lemma Front.hasName_iff {front x z : List ℕ} {text kept rest : List Marked} (hz : z ≠ [])
    (h : Front U front text kept (mark false x) (mark false z ++ rest)) :
    HasName U (last U false kept) z ↔ ∃ a name after, x ++ z = a ++ (name ++ 61 :: after) ∧ IsName name ∧
      lastIsWord U.isWord false (front ++ a) = false ∧
        (Introduces U front → ∃ d ∈ a, isCredential d = false) := by
  by_cases hin : Introduces U front
  · obtain ⟨d, z, rfl⟩ := List.exists_cons_of_ne_nil hz
    have hd : isCredential d = false := h.maximal hin (d, false) rfl
    have hx : ∀ e ∈ x, isCredential e = true := fun e he =>
      h.isCredential_credential (e, false) (mem_mark.mpr ⟨he, rfl⟩)
    constructor
    · rintro ⟨a, name, after, heq, hname, hword⟩
      cases a with
      | nil =>
        -- the run that is left does not start with a letter
        exfalso
        obtain ⟨letters, hmem, hspells⟩ := hname
        cases hspells with
        | nil => exact absurd hmem (by decide)
        | @cons l e letters name hle hspells =>
          have hcred := isCredential_of_isLetter (isLower_secretNames _ hmem l List.mem_cons_self) hle
          rw [← (List.cons.inj heq).1, show isCredential (plain.code d) = false from hd] at hcred
          cases hcred
      | cons e a =>
        obtain rfl := (List.cons.inj heq).1
        refine ⟨x ++ d :: a, name, after, ?_, hname, ?_, fun _ => ⟨d, by simp, hd⟩⟩
        · rw [heq, List.append_assoc]
        · rw [lastIsWord_append, lastIsWord_append, lastIsWord_of_ne_nil (List.cons_ne_nil d a) _ _]
          exact hword
    · rintro ⟨a, name, after, heq, hname, hword, hnot⟩
      obtain ⟨e, he, hcred⟩ := hnot hin
      rcases List.append_eq_append_iff.mp heq with ⟨y, rfl, hy⟩ | ⟨y, hy, -⟩
      · have hne : y ≠ [] := by
          rintro rfl
          rw [List.append_nil] at he
          rw [hx e he] at hcred
          cases hcred
        refine ⟨y, name, after, hy, hname, ?_⟩
        rw [lastIsWord_append, lastIsWord_append] at hword
        rw [lastIsWord_of_ne_nil hne]
        exact hword
      · rw [hx e (hy ▸ List.mem_append_left y he)] at hcred
        cases hcred
  · obtain rfl : x = [] := List.map_eq_nil_iff.mp (h.credential_eq_nil hin)
    have hlast : last U false kept = lastIsWord U.isWord false front := by
      rcases h.kept with ⟨-, hkept⟩ | ⟨hne, -⟩
      · rw [last, lastIsWord, hkept, mark, List.getLast?_map, Option.map_map]
        rfl
      · exact absurd rfl hne
    simp only [HasName, hlast, lastIsWord_append, hin, false_implies, and_true, List.nil_append]

end

section

variable {U : Unicode}

lemma exists_head_mark (secret : Bool) {text : List ℕ} (hne : text ≠ []) (rest : List Marked) :
    ∃ c rest', mark secret text ++ rest = c :: rest' ∧ c.1 ∈ text ∧ c.2 = secret := by
  obtain ⟨d, text, rfl⟩ := List.exists_cons_of_ne_nil hne
  exact ⟨(d, secret), _, rfl, List.mem_cons_self, rfl⟩

lemma exists_mark_append {secret : Bool} {text : List ℕ} {a b : List Marked} (h : mark secret text = a ++ b) :
    ∃ x y, text = x ++ y ∧ a = mark secret x ∧ b = mark secret y := by
  obtain ⟨x, y, rfl, rfl, rfl⟩ := List.map_eq_append_iff.mp h
  exact ⟨x, y, rfl, rfl, rfl⟩

/-- The first substitution replaces the whole secret. -/
lemma Front.erased_of_rest {front : List ℕ} {text kept c rest : List Marked} (h : Front U front text kept c rest)
    (hrest : Erased rest) : Erased (redactMessage U marked (mark false front ++ text)) := by
  rw [redactMessage, h.subBearer_eq]
  exact erased_subNamed (erased_append.mpr ⟨h.erased, erased_subBearer hrest⟩)

/-- The first substitution leaves the run `z` and the value behind it. -/
lemma Front.erased_iff {front z value back : List ℕ} {text kept c : List Marked} (hfront : Closed front)
    (h : Front U front text kept c (mark false z ++ (mark true value ++ mark false back)))
    (hz : ∀ d ∈ z, isValue d = true) (hlast : ∀ d ∈ z.getLast?, d = 61)
    (hvalue : ∀ d ∈ value, isValue d = true) (hne : value ≠ []) :
    Erased (redactMessage U marked (mark false front ++ text)) ↔ HasName U (last U false kept) z := by
  obtain ⟨run, tail, rfl, -, hrun, htail⟩ := exists_run isValue back
  have htail' : ∀ d ∈ (mark false tail).head?, isValue d.1 = false := by
    intro d hd
    rw [mark, List.head?_map, Option.mem_def, Option.map_eq_some_iff] at hd
    obtain ⟨code, hcode, rfl⟩ := hd
    exact htail code hcode
  have hsecret : ∀ d ∈ mark true value ++ mark false run, isValue d.1 = true := List.forall_mem_append.mpr
    ⟨fun d hd => hvalue _ (mem_mark.mp hd).1, fun d hd => hrun _ (mem_mark.mp hd).1⟩
  obtain ⟨d, rest, hhead, -, hd⟩ := exists_head_mark true hne (mark false run)
  rw [mark_append, ← List.append_assoc (mark true value)] at h
  exact h.erased_run_iff hfront hz hlast hsecret ⟨d, rest, hhead, hd⟩ (erased_mark tail) htail'

/-- The first substitution leaves the value, or an end of it, at the start of a run. -/
lemma Front.not_erased {front value back : List ℕ} {text kept c : List Marked} (hfront : Closed front)
    (hvalue : ∀ d ∈ value, isValue d = true) (hne : value ≠ [])
    (h : Front U front text kept c (mark true value ++ mark false back)) :
    ¬Erased (redactMessage U marked (mark false front ++ text)) := by
  rw [h.erased_iff (z := []) hfront nofun nofun hvalue hne]
  rintro ⟨a, name, after, heq, -⟩
  simp at heq

end

/-- A credential is erased exactly if the `Bearer` before it starts a match. -/
lemma BearerSecret.erased_iff {U : Unicode} (o : BearerSecret) :
    Erased (redactMessage U marked o.message) ↔ Introduces U (o.front ++ o.scheme ++ o.spaces) := by
  have hclosed : Closed (o.front ++ o.scheme ++ o.spaces) := by
    intro c hc
    rw [List.getLast?_append_of_ne_nil _ o.spaces_ne_nil] at hc
    exact isValue_of_isSpace (o.isSpace_spaces c (List.mem_of_getLast? hc))
  have hvalue : ∀ c ∈ o.credential, isValue c = true := fun c hc =>
    isValue_of_isCredential (o.isCredential_credential c hc)
  obtain ⟨d, rest', hhead, hd, -⟩ := exists_head_mark true o.credential_ne_nil (mark false o.back)
  obtain ⟨kept, c, rest, h⟩ := exists_front hclosed (mark true o.credential ++ mark false o.back) (U := U)
    ⟨d, rest', hhead, hvalue _ hd⟩
  rw [BearerSecret.message, List.append_assoc]
  constructor
  · intro herased
    by_contra hin
    obtain rfl := h.credential_eq_nil hin
    obtain rfl : _ = rest := h.text_eq
    exact h.not_erased hclosed hvalue o.credential_ne_nil herased
  · intro hin
    apply h.erased_of_rest
    obtain ⟨z, -, hrest⟩ := exists_of_append_run (p := fun c : Marked => isCredential c.1) (a := mark true o.credential)
      (b := mark false o.back) (fun c hc => o.isCredential_credential _ (mem_mark.mp hc).1) (h.maximal hin) h.text_eq.symm
    exact (erased_append.mp (hrest ▸ erased_mark o.back)).2

/-- A value that follows the run `run` in which a `=` stands last. -/
lemma erased_value_iff {U : Unicode} {front run value back : List ℕ} (hfront : Closed front)
    (hrun : ∀ c ∈ run, isValue c = true) (hlast : run.getLast? = some 61)
    (hvalue : ∀ c ∈ value, isValue c = true) (hne : value ≠ []) :
    Erased (redactMessage U marked (mark false front ++ (mark false run ++ (mark true value ++ mark false back)))) ↔
      (∃ a name after, run = a ++ (name ++ 61 :: after) ∧ IsName name ∧
        lastIsWord U.isWord false (front ++ a) = false ∧
          (Introduces U front → ∃ c ∈ a, isCredential c = false)) ∨
        Introduces U front ∧ ∀ c ∈ run ++ value, isCredential c = true := by
  have hrunne : run ≠ [] := by
    rintro rfl
    cases hlast
  obtain ⟨d, rest', hhead, hd, -⟩ := exists_head_mark false hrunne (mark true value ++ mark false back)
  obtain ⟨kept, c, rest, h⟩ := exists_front hfront (mark false run ++ (mark true value ++ mark false back)) (U := U)
    ⟨d, rest', hhead, hrun _ hd⟩
  have hcases : (∃ y, c = mark false run ++ y ∧ mark true value ++ mark false back = y ++ rest) ∨
      ∃ x z, z ≠ [] ∧ run = x ++ z ∧ c = mark false x ∧
        rest = mark false z ++ (mark true value ++ mark false back) := by
    rcases List.append_eq_append_iff.mp h.text_eq with ⟨y, hc, hy⟩ | ⟨y, hy, hrest⟩
    · exact .inl ⟨y, hc, hy⟩
    · obtain ⟨x, z, rfl, rfl, rfl⟩ := exists_mark_append hy
      by_cases hz : z = []
      · rw [hz] at hrest ⊢
        exact .inl ⟨[], by rw [List.append_nil, List.append_nil], hrest.symm⟩
      · exact .inr ⟨x, z, hz, rfl, rfl, hrest⟩
  rcases hcases with ⟨y, rfl, hy⟩ | ⟨x, z, hz, rfl, rfl, rfl⟩
  · -- the whole run is replaced, and the part `y` of what follows
    have hin : Introduces U front := by
      by_contra hin
      obtain ⟨hnil, -⟩ := List.append_eq_nil_iff.mp (h.credential_eq_nil hin)
      exact hrunne (List.map_eq_nil_iff.mp hnil)
    have hcred : ∀ e ∈ run, isCredential e = true := fun e he =>
      h.isCredential_credential (e, false) (List.mem_append_left _ (mem_mark.mpr ⟨he, rfl⟩))
    have hwhole : (∀ e ∈ mark true value, e ∈ y) → ∀ e ∈ run ++ value, isCredential e = true := fun hsub =>
      List.forall_mem_append.mpr ⟨hcred, fun e he => h.isCredential_credential (e, true)
        (List.mem_append_right _ (hsub _ (mem_mark.mpr ⟨he, rfl⟩)))⟩
    rcases List.append_eq_append_iff.mp hy with ⟨w, rfl, hw⟩ | ⟨w, hw, rfl⟩
    · apply iff_of_true (h.erased_of_rest (erased_append.mp (hw ▸ erased_mark back)).2)
      exact .inr ⟨hin, hwhole fun e he => List.mem_append_left w he⟩
    · obtain ⟨v, w, rfl, rfl, rfl⟩ := exists_mark_append hw
      cases w with
      | nil =>
        apply iff_of_true (h.erased_of_rest (erased_mark back))
        exact .inr ⟨hin, hwhole fun e he => by rwa [List.append_nil] at he⟩
      | cons d w =>
        apply iff_of_false
        · exact h.not_erased hfront (fun e he => hvalue e (List.mem_append_right v he)) (List.cons_ne_nil d w)
        · rintro (⟨a, name, after, heq, -, -, hnot⟩ | ⟨-, hall⟩)
          · obtain ⟨e, he, hne⟩ := hnot hin
            rw [hcred e (heq ▸ List.mem_append_left _ he)] at hne
            cases hne
          · have hd : isCredential d = false := h.maximal hin (d, true) rfl
            rw [hall d (by simp)] at hd
            cases hd
  · have hlastz : z.getLast? = some 61 := by rwa [List.getLast?_append_of_ne_nil _ hz] at hlast
    have hrunz : ∀ e ∈ z, isValue e = true := fun e he => hrun e (List.mem_append_right x he)
    have hwithin : ¬(Introduces U front ∧ ∀ c ∈ x ++ z ++ value, isCredential c = true) := by
      rintro ⟨hin, hall⟩
      obtain ⟨d, z, rfl⟩ := List.exists_cons_of_ne_nil hz
      have hd : isCredential d = false := h.maximal hin (d, false) rfl
      rw [hall d (by simp)] at hd
      cases hd
    rw [h.erased_iff hfront hrunz (by simp [hlastz]) hvalue hne, h.hasName_iff hz, or_iff_left hwithin]

/-- The value of a named secret is erased exactly if one of the names stands before it as a word, or
the whole of it is taken for the credential of a `Bearer`. -/
lemma NamedSecret.erased_iff {U : Unicode} (o : NamedSecret U) :
    Erased (redactMessage U marked o.message) ↔ NameBefore U (o.front ++ o.name ++ [61]) ∨
      WithinCredential U (o.front ++ o.name ++ [61]) o.value := by
  obtain ⟨front, run, hsplit, hrun, hfront⟩ := exists_lastRun isValue (o.front ++ o.name ++ [61])
  have hlast : run.getLast? = some 61 := by
    have hwhole : (front ++ run).getLast? = some 61 := by rw [← hsplit, List.getLast?_concat]
    by_cases hnil : run = []
    · rw [hnil, List.append_nil] at hwhole
      exact absurd (hfront 61 hwhole) (by decide)
    · rwa [List.getLast?_append_of_ne_nil _ hnil] at hwhole
  rw [NameBefore, WithinCredential, hsplit, rdropWhile_lastRun hrun hfront, rtakeWhile_lastRun hrun hfront]
  rw [NamedSecret.message, hsplit, mark_append, List.append_assoc, List.append_assoc]
  exact erased_value_iff hfront hrun hlast o.isValue_value o.value_ne_nil

/-- What is left of the secrets in a log message. The marks do not change the substitutions, so that
what is marked in the result are the characters of the secret that survive. -/
theorem erased_redactMessage_iff (U : Unicode) :
    (∀ message : List Marked,
      (redactMessage U marked message).map Prod.fst = (safeMessage U ⟨message.map Prod.fst⟩).codes) ∧
    (∀ o : NamedSecret U, Erased (redactMessage U marked o.message) ↔
      NameBefore U (o.front ++ o.name ++ [61]) ∨ WithinCredential U (o.front ++ o.name ++ [61]) o.value) ∧
    ∀ o : BearerSecret, Erased (redactMessage U marked o.message) ↔
      Introduces U (o.front ++ o.scheme ++ o.spaces) :=
  ⟨redactMessage_marked U, NamedSecret.erased_iff, BearerSecret.erased_iff⟩

namespace Sample

/-- The characters of ASCII, where every other character is neither a word character nor a letter. -/
def ascii : Unicode where
  isWord c := (48 ≤ c ∧ c ≤ 57) ∨ (65 ≤ c ∧ c ≤ 90) ∨ (97 ≤ c ∧ c ≤ 122) ∨ c = 95
  lower s := ⟨s.codes.map fun c => if 65 ≤ c ∧ c ≤ 90 then c + 32 else c⟩

/-- `session=abc`. -/
def session : NamedSecret ascii where
  front := []
  name := (Str.ofString "session").codes
  value := (Str.ofString "abc").codes
  back := []
  redacted := by decide
  value_ne_nil := by decide
  isValue_value := by decide

/-- The structured redaction treats `session` as secret, and the message keeps its value. -/
theorem not_erased_session : isRedacted ascii (Str.ofString "session") = true ∧
    safeMessage ascii (Str.ofString "session=abc") = Str.ofString "session=abc" ∧
    ¬∀ o : NamedSecret ascii, Erased (redactMessage ascii marked o.message) := by
  refine ⟨by decide, by decide, fun h => ?_⟩
  have hmem : (97, true) ∈ redactMessage ascii marked session.message := by decide
  exact absurd (h session _ hmem) (by decide)

end Sample

end Pentagon5.Runtime
