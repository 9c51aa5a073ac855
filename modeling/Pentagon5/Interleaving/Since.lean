import Pentagon5.Interleaving.Machine

/-!
# What a history says about the state

Some predicates of the state are set by some calls, cleared by others and kept by all the rest. In
every run such a predicate holds exactly if the last call of the history that sets or clears it sets
it, so the history tells what the state is without executing anything.
-/

namespace Pentagon5.Interleaving

variable {C : Type} {R : C → Type} {E Ω σ Q A : Type}

/-- A call of the history satisfies `p`, and no later one `q`. -/
inductive Since (p q : Done R E → Prop) : List (Entry R E Ω σ) → Prop where
  | here {e h} (he : p e.done) : Since p q (e :: h)
  | later {e h} (he : ¬q e.done) (hs : Since p q h) : Since p q (e :: h)

variable {p q : Done R E → Prop} {e : Entry R E Ω σ} {h : List (Entry R E Ω σ)}

lemma not_since_nil : ¬Since p q ([] : List (Entry R E Ω σ)) := by
  intro h
  cases h

lemma since_cons : Since p q (e :: h) ↔ p e.done ∨ Since p q h ∧ ¬q e.done := by
  constructor
  · intro hs
    cases hs with
    | here he => exact .inl he
    | later he hs => exact .inr ⟨hs, he⟩
  · rintro (he | ⟨hs, he⟩)
    · exact .here he
    · exact .later he hs

lemma since_iff : Since p q h ↔ ∃ h₁ e h₀, h = h₁ ++ e :: h₀ ∧ p e.done ∧ ∀ a ∈ h₁, ¬q a.done := by
  constructor
  · intro hs
    induction hs with
    | @here e h he => exact ⟨[], e, h, rfl, he, by simp⟩
    | @later e h he _ ih =>
      obtain ⟨h₁, a, h₀, rfl, ha, hlater⟩ := ih
      exact ⟨e :: h₁, a, h₀, rfl, ha, List.forall_mem_cons.mpr ⟨he, hlater⟩⟩
  · rintro ⟨h₁, e, h₀, rfl, he, hlater⟩
    induction h₁ with
    | nil => exact .here he
    | cons a h₁ ih =>
      obtain ⟨ha, hlater⟩ := List.forall_mem_cons.mp hlater
      exact .later ha (ih hlater)

/-- The predicate is set by `sets`, cleared by `clears` and kept otherwise. -/
structure Tracks (M : Machine R E Ω σ Q A) (I : σ → Prop) (sets clears : Done R E → Prop) : Prop where
  answer : ∀ ω s call, I (M.answer ω s call).2 ↔ sets ⟨call, (M.answer ω s call).1⟩ ∨
    I s ∧ ¬clears ⟨call, (M.answer ω s call).1⟩
  environment : ∀ s s', M.environment s s' → (I s' ↔ I s)

namespace Tracks

variable {M : Machine R E Ω σ Q A} {init : σ → Prop} {c : Config R E Ω σ Q A} {I : σ → Prop}
  {sets clears : Done R E → Prop}

lemma step (T : Tracks M I sets clears) {c' : Config R E Ω σ Q A} (hs : Step M c c')
    (h : I c.state ↔ Since sets clears c.history) : I c'.state ↔ Since sets clears c'.history := by
  cases hs with
  | arrive i q _ => exact h
  | perform i q call next ω _ _ =>
    rw [Config.perform_history, Config.perform_state, T.answer, since_cons, h]
  | environment s hs => exact (T.environment _ _ hs).trans h

/-- A predicate that does not hold initially. -/
theorem holds_iff (T : Tracks M I sets clears) (h0 : ∀ s, init s → ¬I s) (hc : Reachable M init c) :
    I c.state ↔ Since sets clears c.history := by
  induction hc with
  | start hs => exact iff_of_false (h0 _ hs) not_since_nil
  | step _ hs ih => exact T.step hs ih

/-- A predicate that some call has set. -/
theorem holds_iff_of_mem (T : Tracks M I sets clears) (hc : Reachable M init c) (he : e ∈ c.history)
    (hset : sets e.done) : I c.state ↔ Since sets clears c.history := by
  induction hc with
  | start _ => cases he
  | @step c c' hc hs ih =>
    cases hs with
    | arrive i q hi => exact T.step (.arrive i q hi) (ih he)
    | environment s hs => exact T.step (.environment s hs) (ih he)
    | perform i q call next ω ht hω =>
      rw [Config.perform_history] at he
      rcases List.mem_cons.mp he with rfl | he
      · rw [Config.perform_state, Config.perform_history, T.answer]
        exact iff_of_true (.inl hset) (.here hset)
      · exact T.step (.perform i q call next ω ht hω) (ih he)

end Tracks

end Pentagon5.Interleaving
