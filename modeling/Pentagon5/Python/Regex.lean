import Pentagon5.Python.Text

/-!
# Substitution with Python's `re`

`sub` scans a text from the left and replaces the matches of a pattern that matches no empty text.
The characters are cells: a cell may carry more than its code point, which then follows the
characters that a substitution keeps.
-/

namespace Pentagon5.Python.Regex

structure Cells (α : Type) where
  code : α → ℕ
  /-- A character of a replacement. -/
  insert : ℕ → α
  /-- The same letter in another case. -/
  recase : α → ℕ → α

/-- Characters that are their code points. -/
def plain : Cells ℕ := ⟨id, id, fun _ c => c⟩

/-- The length of a match at the start of a text and what replaces it; the flag says whether a word
character stands before the text. -/
abbrev Matcher (α : Type) := Bool → List α → Option (ℕ × List α)

variable {α : Type} (isWord : α → Bool) (matcher : Matcher α)

/-- `pattern.sub` on the rest of a text, of which `skip` characters belong to the last match. -/
def sub : ℕ → Bool → List α → List α
  | _, _, [] => []
  | skip + 1, _, c :: text => sub skip (isWord c) text
  | 0, before, c :: text =>
    match matcher before (c :: text) with
    | some (length, replacement) => replacement ++ sub (length - 1) (isWord c) text
    | none => c :: sub 0 (isWord c) text

/-- Whether a word character stands behind a text. -/
def lastIsWord (before : Bool) (text : List α) : Bool := (text.getLast?.map isWord).getD before

variable {isWord matcher} {before : Bool} {text rest : List α}

@[simp] lemma lastIsWord_nil : lastIsWord isWord before [] = before := rfl

lemma lastIsWord_cons (c : α) :
    lastIsWord isWord before (c :: text) = lastIsWord isWord (isWord c) text := by
  cases text with
  | nil => rfl
  | cons d text => rw [lastIsWord, lastIsWord, List.getLast?_cons_cons, List.getLast?_cons]; rfl

lemma lastIsWord_append : lastIsWord isWord before (text ++ rest) =
    lastIsWord isWord (lastIsWord isWord before text) rest := by
  induction text generalizing before with
  | nil => rfl
  | cons c text ih => rw [List.cons_append, lastIsWord_cons, ih, lastIsWord_cons]

/-- The rest of a match is dropped. -/
lemma sub_skip (before : Bool) (text rest : List α) : sub isWord matcher text.length before (text ++ rest) =
    sub isWord matcher 0 (lastIsWord isWord before text) rest := by
  induction text generalizing before with
  | nil => rfl
  | cons c text ih => rw [List.length_cons, List.cons_append, sub, ih, lastIsWord_cons]

/-- A text that starts with a match. -/
lemma sub_match {replacement : List α} (hne : text ≠ [])
    (h : matcher before (text ++ rest) = some (text.length, replacement)) :
    sub isWord matcher 0 before (text ++ rest) =
      replacement ++ sub isWord matcher 0 (lastIsWord isWord before text) rest := by
  obtain ⟨c, text, rfl⟩ := List.exists_cons_of_ne_nil hne
  rw [List.cons_append] at h ⊢
  rw [sub, h]
  simp only [List.length_cons, Nat.add_sub_cancel]
  rw [sub_skip, lastIsWord_cons]

lemma sub_cons {c : α} (h : matcher before (c :: text) = none) :
    sub isWord matcher 0 before (c :: text) = c :: sub isWord matcher 0 (isWord c) text := by
  rw [sub, h]

/-- A text in which no match starts is kept. -/
lemma sub_keep (h : ∀ a c b, text = a ++ c :: b →
      matcher (lastIsWord isWord before a) (c :: b ++ rest) = none) :
    sub isWord matcher 0 before (text ++ rest) =
      text ++ sub isWord matcher 0 (lastIsWord isWord before text) rest := by
  induction text generalizing before with
  | nil => rfl
  | cons c text ih =>
    have hnone : matcher before (c :: (text ++ rest)) = none := h [] c text rfl
    rw [List.cons_append, sub_cons hnone, lastIsWord_cons, List.cons_append, ih]
    intro a d b heq
    rw [← lastIsWord_cons]
    apply h (c :: a) d b
    rw [heq, List.cons_append]

/-- The matches of a text followed by another one, where those that start in the first text end there
and do not depend on the other one. -/
lemma sub_append (h : ∀ a c b, text = a ++ c :: b →
      matcher (lastIsWord isWord before a) (c :: b ++ rest) = matcher (lastIsWord isWord before a) (c :: b) ∧
        ∀ r ∈ matcher (lastIsWord isWord before a) (c :: b), r.1 ≤ b.length + 1) :
    sub isWord matcher 0 before (text ++ rest) =
      sub isWord matcher 0 before text ++ sub isWord matcher 0 (lastIsWord isWord before text) rest := by
  have hskip : ∀ skip ≤ text.length, sub isWord matcher skip before (text ++ rest) =
      sub isWord matcher skip before text ++
        sub isWord matcher 0 (lastIsWord isWord before text) rest := by
    induction text generalizing before with
    | nil =>
      intro skip hskip
      obtain rfl : skip = 0 := by simpa using hskip
      rfl
    | cons c text ih =>
      have htail := @ih (isWord c) fun a d b heq => by
        rw [← lastIsWord_cons]
        apply h (c :: a) d b
        rw [heq, List.cons_append]
      intro skip hskip
      rw [List.length_cons] at hskip
      rw [List.cons_append, lastIsWord_cons]
      cases skip with
      | succ skip => exact htail skip (by omega)
      | zero =>
        obtain ⟨heq, hlength⟩ := h [] c text rfl
        rw [lastIsWord_nil, List.cons_append] at heq
        rw [lastIsWord_nil] at hlength
        rw [sub, sub, heq]
        cases hmatch : matcher before (c :: text) with
        | none =>
          show _ :: _ = _ :: _
          rw [htail 0 (Nat.zero_le _)]
          rfl
        | some r =>
          have := hlength r hmatch
          show _ ++ _ = _ ++ _ ++ _
          rw [htail (r.1 - 1) (by omega), List.append_assoc]
  exact hskip 0 (Nat.zero_le _)

/-- A property of the characters that every replacement keeps. -/
lemma sub_forall {p : α → Prop} (h : ∀ before text, (∀ c ∈ text, p c) →
      ∀ r ∈ matcher before text, ∀ c ∈ r.2, p c) (htext : ∀ c ∈ text, p c) :
    ∀ skip, ∀ c ∈ sub isWord matcher skip before text, p c := by
  induction text generalizing before with
  | nil => nofun
  | cons d text ih =>
    have htail := @ih (isWord d) fun c hc => htext c (List.mem_cons_of_mem _ hc)
    intro skip
    cases skip with
    | succ skip => exact htail skip
    | zero =>
      rw [sub]
      cases hmatch : matcher before (d :: text) with
      | none => exact List.forall_mem_cons.mpr ⟨htext d List.mem_cons_self, htail 0⟩
      | some r => exact List.forall_mem_append.mpr ⟨h _ _ htext r hmatch, htail _⟩

/-- A substitution on other cells, where the matches are the same. -/
lemma sub_map {β : Type} {f : α → β} {isWord' : β → Bool} {matcher' : Matcher β}
    (hword : ∀ c, isWord' (f c) = isWord c)
    (h : ∀ before text, matcher' before (text.map f) =
      (matcher before text).map fun r => (r.1, r.2.map f)) (skip : ℕ) :
    sub isWord' matcher' skip before (text.map f) = (sub isWord matcher skip before text).map f := by
  induction text generalizing skip before with
  | nil => cases skip <;> rfl
  | cons c text ih =>
    rw [List.map_cons]
    cases skip with
    | succ skip => rw [sub, sub, hword, ih]
    | zero =>
      rw [sub, sub, ← List.map_cons, h]
      cases matcher before (c :: text) with
      | none => rw [Option.map_none, hword, ih, List.map_cons]
      | some r =>
        simp only [Option.map_some, hword]
        rw [ih, List.map_append]

end Pentagon5.Python.Regex
