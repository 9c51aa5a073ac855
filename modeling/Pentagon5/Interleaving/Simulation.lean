import Pentagon5.Interleaving.Machine

/-!
# Machines that simulate machines

Two machines that serve the same requests with the same programs, where the answers of the first are those
of the second on an image of its state. Every run of the first is then a run of the second.
-/

namespace Pentagon5.Interleaving

variable {C : Type} {R : C → Type} {E Ω Ω' σ σ' Q A : Type}

/-- The choices and states of one machine as those of another. -/
structure Abstraction (Ω Ω' σ σ' : Type) where
  state : σ → σ'
  env : Ω → σ → Ω'

namespace Abstraction

variable (F : Abstraction Ω Ω' σ σ')

def entry (e : Entry R E Ω σ) : Entry R E Ω' σ' :=
  ⟨e.thread, F.env e.env e.before, e.done, F.state e.before, F.state e.after⟩

def config (c : Config R E Ω σ Q A) : Config R E Ω' σ' Q A :=
  ⟨F.state c.state, c.threads, c.history.map F.entry⟩

end Abstraction

/-- The second machine answers as the first one does, and may do what the first one does. -/
structure Simulates (M : Machine R E Ω σ Q A) (M' : Machine R E Ω' σ' Q A) (F : Abstraction Ω Ω' σ σ') :
    Prop where
  serve : M'.serve = M.serve
  answer : ∀ ω s call, M'.answer (F.env ω s) (F.state s) call =
    ((M.answer ω s call).1, F.state (M.answer ω s call).2)
  admissible : ∀ history ω s call, M.admissible history ω call →
    M'.admissible (history.map F.entry) (F.env ω s) call
  environment : ∀ s s', M.environment s s' → M'.environment (F.state s) (F.state s')

namespace Simulates

variable {M : Machine R E Ω σ Q A} {M' : Machine R E Ω' σ' Q A} {F : Abstraction Ω Ω' σ σ'}
  {c c' : Config R E Ω σ Q A}

lemma step (h : Simulates M M' F) (hs : Step M c c') : Step M' (F.config c) (F.config c') := by
  cases hs with
  | arrive i q hi =>
    have harrive : F.config (c.arrive M i q) = (F.config c).arrive M' i q := by
      simp only [Config.arrive, Abstraction.config, h.serve]
    rw [harrive]
    exact .arrive i q hi
  | perform i q call next ω ht hω =>
    have hperform : F.config (c.perform M i q call next ω) =
        (F.config c).perform M' i q call next (F.env ω c.state) := by
      simp only [Config.perform, Abstraction.config, Abstraction.entry, List.map_cons, h.answer]
    rw [hperform]
    exact .perform i q call next _ ht (h.admissible _ _ _ _ hω)
  | environment s hs => exact .environment _ (h.environment _ _ hs)

/-- Every run of the first machine is a run of the second. -/
theorem reachable (h : Simulates M M' F) {init : σ → Prop} {init' : σ' → Prop}
    (hinit : ∀ s, init s → init' (F.state s)) (hc : Reachable M init c) :
    Reachable M' init' (F.config c) := by
  induction hc with
  | start hs => exact .start (hinit _ hs)
  | step hc hs ih => exact ih.step (h.step hs)

end Simulates

end Pentagon5.Interleaving
