import Pentagon5.Interleaving.Program
import Mathlib.Data.Nat.Notation
import Mathlib.Logic.Function.Basic
import Mathlib.Logic.Relation

/-!
# Interleaved runs of programs over a shared state

A `Machine` serves requests by programs whose calls act atomically on a shared state. A run
starts with no threads; at every step a new request arrives, one thread performs its next
call, or the environment changes the state. The history records every call with the states
before and after it, latest first, so that facts about a whole run are facts about the
configuration it reaches.
-/

namespace Pentagon5.Interleaving

/-- One performed call: `env` is what the environment chose for it. -/
structure Entry {C : Type} (R : C → Type) (E Ω σ : Type) where
  thread : ℕ
  env : Ω
  done : Done R E
  before : σ
  after : σ

/-- `admissible` restricts what the environment may choose for a call after a history, and
`environment` relates the states that may follow each other without any call. -/
structure Machine {C : Type} (R : C → Type) (E Ω σ Q A : Type) where
  serve : Q → Prog R E A
  answer : Ω → σ → (c : C) → Except E (R c) × σ
  admissible : List (Entry R E Ω σ) → Ω → C → Prop
  environment : σ → σ → Prop

structure Thread {C : Type} (R : C → Type) (E Q A : Type) where
  request : Q
  program : Prog R E A

structure Config {C : Type} (R : C → Type) (E Ω σ Q A : Type) where
  state : σ
  threads : ℕ → Option (Thread R E Q A)
  history : List (Entry R E Ω σ)

variable {C : Type} {R : C → Type} {E Ω σ Q A : Type}

/-- The calls of thread `i` in a history. -/
def own (i : ℕ) (history : List (Entry R E Ω σ)) : List (Done R E) :=
  (history.filter (fun e => e.thread = i)).map Entry.done

@[simp] lemma own_nil (i : ℕ) : own i ([] : List (Entry R E Ω σ)) = [] := rfl

lemma own_cons_self {i : ℕ} {e : Entry R E Ω σ} {h : List (Entry R E Ω σ)} (he : e.thread = i) :
    own i (e :: h) = e.done :: own i h := by
  simp [own, he]

lemma own_cons_other {i : ℕ} {e : Entry R E Ω σ} {h : List (Entry R E Ω σ)} (he : e.thread ≠ i) :
    own i (e :: h) = own i h := by
  simp [own, he]

lemma mem_own {i : ℕ} {d : Done R E} {h : List (Entry R E Ω σ)} :
    d ∈ own i h ↔ ∃ e ∈ h, e.thread = i ∧ e.done = d := by
  simp [own, and_assoc]

lemma own_append (i : ℕ) (h₁ h₀ : List (Entry R E Ω σ)) :
    own i (h₁ ++ h₀) = own i h₁ ++ own i h₀ := by
  simp [own]

/-- A split of the calls of a thread comes from a split of the history. -/
lemma own_eq_append_cons {i : ℕ} {h : List (Entry R E Ω σ)} {t₁ t₀ : List (Done R E)} {d : Done R E} :
    own i h = t₁ ++ d :: t₀ ↔ ∃ h₁ e h₀, h = h₁ ++ e :: h₀ ∧ e.thread = i ∧ e.done = d ∧
      own i h₁ = t₁ ∧ own i h₀ = t₀ := by
  constructor
  · intro ht
    obtain ⟨l₁, l, hl, rfl, hd⟩ := List.map_eq_append_iff.mp ht
    obtain ⟨e, l₀, rfl, rfl, rfl⟩ := List.map_eq_cons_iff.mp hd
    obtain ⟨h₁, h', rfl, rfl, hl'⟩ := List.filter_eq_append_iff.mp hl
    obtain ⟨h₂, h₀, rfl, hno, he, rfl⟩ := List.filter_eq_cons_iff.mp hl'
    have hnone : own i h₂ = [] := by simpa [own] using hno
    exact ⟨h₁ ++ h₂, e, h₀, by simp, by simpa using he, rfl, by rw [own_append, hnone]; simp [own], rfl⟩
  · rintro ⟨h₁, e, h₀, rfl, he, rfl, rfl, rfl⟩
    rw [own_append, own_cons_self he]

namespace Config

/-- A new thread `i` that serves request `q`. -/
def arrive (M : Machine R E Ω σ Q A) (c : Config R E Ω σ Q A) (i : ℕ) (q : Q) :
    Config R E Ω σ Q A :=
  { c with threads := Function.update c.threads i (some ⟨q, M.serve q⟩) }

/-- Thread `i`, serving `q`, performs `call` and goes on with `next`. -/
def perform (M : Machine R E Ω σ Q A) (c : Config R E Ω σ Q A) (i : ℕ) (q : Q) (call : C)
    (next : Except E (R call) → Prog R E A) (ω : Ω) : Config R E Ω σ Q A :=
  let r := M.answer ω c.state call
  { state := r.2
    threads := Function.update c.threads i (some ⟨q, next r.1⟩)
    history := ⟨i, ω, ⟨call, r.1⟩, c.state, r.2⟩ :: c.history }

variable (M : Machine R E Ω σ Q A) (c : Config R E Ω σ Q A) (i : ℕ) (q : Q) (call : C)
  (next : Except E (R call) → Prog R E A) (ω : Ω)

@[simp] lemma arrive_state : (c.arrive M i q).state = c.state := rfl

@[simp] lemma arrive_history : (c.arrive M i q).history = c.history := rfl

@[simp] lemma arrive_self : (c.arrive M i q).threads i = some ⟨q, M.serve q⟩ := by
  simp [arrive]

lemma arrive_other {j : ℕ} (h : j ≠ i) : (c.arrive M i q).threads j = c.threads j := by
  simp [arrive, h]

@[simp] lemma perform_state :
    (c.perform M i q call next ω).state = (M.answer ω c.state call).2 := rfl

@[simp] lemma perform_history : (c.perform M i q call next ω).history =
    ⟨i, ω, ⟨call, (M.answer ω c.state call).1⟩, c.state, (M.answer ω c.state call).2⟩ ::
      c.history := rfl

@[simp] lemma perform_self : (c.perform M i q call next ω).threads i =
    some ⟨q, next (M.answer ω c.state call).1⟩ := by
  simp [perform]

lemma perform_other {j : ℕ} (h : j ≠ i) :
    (c.perform M i q call next ω).threads j = c.threads j := by
  simp [perform, h]

end Config

inductive Step (M : Machine R E Ω σ Q A) : Config R E Ω σ Q A → Config R E Ω σ Q A → Prop where
  | arrive {c} (i : ℕ) (q : Q) (h : c.threads i = none) : Step M c (c.arrive M i q)
  | perform {c} (i : ℕ) (q : Q) (call : C) (next : Except E (R call) → Prog R E A) (ω : Ω)
      (ht : c.threads i = some ⟨q, .call call next⟩) (hω : M.admissible c.history ω call) :
      Step M c (c.perform M i q call next ω)
  | environment {c} (s : σ) (h : M.environment c.state s) : Step M c { c with state := s }

inductive Reachable (M : Machine R E Ω σ Q A) (init : σ → Prop) : Config R E Ω σ Q A → Prop where
  | start {s} (h : init s) : Reachable M init ⟨s, fun _ => none, []⟩
  | step {c c'} (hc : Reachable M init c) (hs : Step M c c') : Reachable M init c'

/-- The runs whose steps all satisfy a condition. -/
inductive ReachableBy (M : Machine R E Ω σ Q A) (init : σ → Prop)
    (ok : Config R E Ω σ Q A → Config R E Ω σ Q A → Prop) : Config R E Ω σ Q A → Prop where
  | start {s} (h : init s) : ReachableBy M init ok ⟨s, fun _ => none, []⟩
  | step {c c'} (hc : ReachableBy M init ok c) (hs : Step M c c') (hok : ok c c') :
      ReachableBy M init ok c'

variable {M : Machine R E Ω σ Q A} {init : σ → Prop} {c c' : Config R E Ω σ Q A}

lemma Reachable.steps (hc : Reachable M init c) (hs : Relation.ReflTransGen (Step M) c c') :
    Reachable M init c' := by
  induction hs with
  | refl => exact hc
  | tail _ hs ih => exact ih.step hs

lemma ReachableBy.reachable {ok : Config R E Ω σ Q A → Config R E Ω σ Q A → Prop}
    (hc : ReachableBy M init ok c) : Reachable M init c := by
  induction hc with
  | start h => exact .start h
  | step _ hs _ ih => exact ih.step hs

/-- A predicate that every call and every step of the environment keeps. -/
structure Stable (M : Machine R E Ω σ Q A) (I : σ → Prop) : Prop where
  answer : ∀ ω s call, I s → I (M.answer ω s call).2
  environment : ∀ s s', M.environment s s' → I s → I s'

lemma Stable.step {I : σ → Prop} (hI : Stable M I) (hs : Step M c c') (h : I c.state) :
    I c'.state := by
  cases hs with
  | arrive i q _ => exact h
  | perform i q call next ω _ _ => exact hI.answer ω _ call h
  | environment s hs => exact hI.environment _ _ hs h

lemma Stable.steps {I : σ → Prop} (hI : Stable M I) (hs : Relation.ReflTransGen (Step M) c c')
    (h : I c.state) : I c'.state := by
  induction hs with
  | refl => exact h
  | tail _ hs ih => exact hI.step hs ih

/-- The calls performed between two configurations found a stable predicate to hold. -/
lemma Stable.since {I : σ → Prop} (hI : Stable M I) (hs : Relation.ReflTransGen (Step M) c c')
    (h : I c.state) : ∃ new, c'.history = new ++ c.history ∧ ∀ e ∈ new, I e.before := by
  induction hs with
  | refl => exact ⟨[], rfl, by simp⟩
  | @tail b c' hs hstep ih =>
    obtain ⟨new, hnew, hbefore⟩ := ih
    have hb := hI.steps hs h
    cases hstep with
    | arrive i q _ => exact ⟨new, hnew, hbefore⟩
    | perform i q call next ω _ _ =>
      refine ⟨_ :: new, by rw [Config.perform_history, hnew]; rfl, ?_⟩
      simpa using ⟨hb, hbefore⟩
    | environment s _ => exact ⟨new, hnew, hbefore⟩

/-- A stable predicate that holds initially holds in every reachable state. -/
theorem Reachable.invariant {I : σ → Prop} (hI : Stable M I) (h0 : ∀ s, init s → I s)
    (hc : Reachable M init c) : I c.state := by
  induction hc with
  | start h => exact h0 _ h
  | step _ hs ih => exact hI.step hs ih

lemma Reachable.own_of_idle (hc : Reachable M init c) {i : ℕ} (hi : c.threads i = none) :
    own i c.history = [] := by
  induction hc with
  | start _ => rfl
  | @step c c' _ hs ih =>
    cases hs with
    | arrive j q _ =>
      by_cases hj : i = j
      · simp [hj] at hi
      · exact ih (by rwa [Config.arrive_other M c j q hj] at hi)
    | perform j q call next ω _ _ =>
      by_cases hj : i = j
      · simp [hj] at hi
      · rw [Config.perform_history, own_cons_other (Ne.symm hj)]
        exact ih (by rwa [Config.perform_other M c j q call next ω hj] at hi)
    | environment s _ => exact ih hi

/-- What the programs are proved to ask for and return holds in every interleaving. -/
theorem Reachable.meets {pre : Q → List (Done R E) → C → Prop}
    {post : Q → List (Done R E) → Except E A → Prop}
    (spec : ∀ q, Prog.Meets (pre q) (post q) [] (M.serve q)) (hc : Reachable M init c)
    {i : ℕ} {q : Q} {p : Prog R E A} (hi : c.threads i = some ⟨q, p⟩) :
    Prog.Meets (pre q) (post q) (own i c.history) p := by
  induction hc generalizing i q p with
  | start _ => simp at hi
  | @step c c' hc hs ih =>
    cases hs with
    | arrive j q' hj =>
      by_cases hij : i = j
      · subst hij
        obtain ⟨rfl, rfl⟩ : q' = q ∧ M.serve q' = p := by simpa using hi
        rw [Config.arrive_history, hc.own_of_idle hj]
        exact spec q'
      · exact ih (by rwa [Config.arrive_other M c j q' hij] at hi)
    | perform j q' call next ω ht _ =>
      by_cases hij : i = j
      · subst hij
        obtain ⟨rfl, rfl⟩ : q' = q ∧ next (M.answer ω c.state call).1 = p := by simpa using hi
        rw [Config.perform_history, own_cons_self (i := i) rfl]
        exact (ih ht).2 _
      · rw [Config.perform_history, own_cons_other (Ne.symm hij)]
        exact ih (by rwa [Config.perform_other M c j q' call next ω hij] at hi)
    | environment s _ => exact ih hi

/-- A thread keeps the request it serves. -/
lemma Step.request (hs : Step M c c') {i : ℕ} {t : Thread R E Q A} (hi : c.threads i = some t) :
    ∃ p, c'.threads i = some ⟨t.request, p⟩ := by
  cases hs with
  | arrive j q hj =>
    have hij : i ≠ j := by rintro rfl; simp [hj] at hi
    exact ⟨t.program, by rw [Config.arrive_other M c j q hij, hi]⟩
  | perform j q call next ω ht _ =>
    by_cases hij : i = j
    · subst hij
      obtain rfl : t = ⟨q, .call call next⟩ := by simpa [hi] using ht
      exact ⟨_, Config.perform_self M c i q call next ω⟩
    · exact ⟨t.program, by rw [Config.perform_other M c j q call next ω hij, hi]⟩
  | environment s _ => exact ⟨t.program, hi⟩

/-- What thread `i` returned or raised. -/
def Config.result (c : Config R E Ω σ Q A) (i : ℕ) : Option (Except E A) :=
  match c.threads i with
  | some ⟨_, .ret r⟩ => some r
  | _ => none

lemma Config.result_eq_some {i : ℕ} {r : Except E A} :
    c.result i = some r ↔ ∃ q, c.threads i = some ⟨q, .ret r⟩ := by
  unfold Config.result
  split
  · next q r' h =>
    rw [h]
    constructor
    · rintro ⟨⟩
      exact ⟨q, rfl⟩
    · rintro ⟨q, ⟨⟩⟩
      rfl
  · next h =>
    constructor
    · intro h'
      cases h'
    · rintro ⟨q, h'⟩
      exact absurd h' (h q r)

lemma Config.threads_of_result {i : ℕ} {q : Q} {r : Except E A} (hr : c.result i = some r)
    (hq : (c.threads i).map Thread.request = some q) : c.threads i = some ⟨q, .ret r⟩ := by
  obtain ⟨q', h⟩ := Config.result_eq_some.mp hr
  rw [h] at hq
  obtain rfl := Option.some.inj hq
  exact h

lemma request_of_steps (hs : Relation.ReflTransGen (Step M) c c') {i : ℕ} {t : Thread R E Q A}
    (h : c.threads i = some t) : ∃ p, c'.threads i = some ⟨t.request, p⟩ := by
  induction hs with
  | refl => exact ⟨t.program, h⟩
  | tail _ hs ih =>
    obtain ⟨p, hp⟩ := ih
    exact hs.request (t := ⟨t.request, p⟩) hp

/-- The configuration in which an entry of the history was performed. -/
structure Performed (M : Machine R E Ω σ Q A) (init : σ → Prop) (c : Config R E Ω σ Q A)
    (e : Entry R E Ω σ) (h₀ : List (Entry R E Ω σ)) where
  origin : Config R E Ω σ Q A
  request : Q
  next : Except E (R e.done.call) → Prog R E A
  program : Prog R E A
  reachable : Reachable M init origin
  history : origin.history = h₀
  state : origin.state = e.before
  thread : origin.threads e.thread = some ⟨request, .call e.done.call next⟩
  answered : M.answer e.env e.before e.done.call = (e.done.answer, e.after)
  admissible : M.admissible h₀ e.env e.done.call
  now : c.threads e.thread = some ⟨request, program⟩

theorem Reachable.performed (hc : Reachable M init c) {h₁ h₀ : List (Entry R E Ω σ)}
    {e : Entry R E Ω σ} (h : c.history = h₁ ++ e :: h₀) : Nonempty (Performed M init c e h₀) := by
  induction hc generalizing h₁ with
  | start _ => simp at h
  | @step c c' hc hs ih =>
    have older : ∀ h₁, c.history = h₁ ++ e :: h₀ → Nonempty (Performed M init c' e h₀) := by
      intro h₁ h
      obtain ⟨P⟩ := ih h
      obtain ⟨p, hp⟩ := hs.request P.now
      exact ⟨{ P with program := p, now := hp }⟩
    cases hs with
    | arrive j q _ => exact older h₁ h
    | perform j q call next ω ht hω =>
      cases h₁ with
      | nil =>
        obtain ⟨rfl, rfl⟩ := List.cons.inj h
        exact ⟨⟨c, q, next, _, hc, rfl, rfl, ht, rfl, hω,
          Config.perform_self M c j q call next ω⟩⟩
      | cons a h₁ => exact older h₁ (List.cons.inj h).2
    | environment s _ => exact older h₁ h

lemma Reachable.performed_mem (hc : Reachable M init c) {e : Entry R E Ω σ} (he : e ∈ c.history) :
    ∃ h₁ h₀, c.history = h₁ ++ e :: h₀ ∧ Nonempty (Performed M init c e h₀) := by
  obtain ⟨h₁, h₀, h⟩ := List.append_of_mem he
  exact ⟨h₁, h₀, h, hc.performed h⟩

lemma Performed.request_eq {e : Entry R E Ω σ} {h₀ : List (Entry R E Ω σ)} (P : Performed M init c e h₀)
    {q : Q} {p : Prog R E A} (h : c.threads e.thread = some ⟨q, p⟩) : P.request = q := by
  have hnow := P.now
  rw [h] at hnow
  exact (Thread.mk.inj (Option.some.inj hnow)).1.symm

lemma Performed.answer_eq {e : Entry R E Ω σ} {h₀ : List (Entry R E Ω σ)} (P : Performed M init c e h₀)
    {call : C} {r : Except E (R call)} (hd : e.done = ⟨call, r⟩) :
    M.answer e.env e.before call = (r, e.after) := by
  obtain ⟨thread, env, done, before, after⟩ := e
  obtain rfl : done = ⟨call, r⟩ := hd
  exact P.answered

/-- Every call in the history was made as the programs are proved to make it. -/
lemma Performed.meets {pre : Q → List (Done R E) → C → Prop}
    {post : Q → List (Done R E) → Except E A → Prop} {e : Entry R E Ω σ}
    {h₀ : List (Entry R E Ω σ)} (P : Performed M init c e h₀)
    (spec : ∀ q, Prog.Meets (pre q) (post q) [] (M.serve q)) :
    pre P.request (own e.thread h₀) e.done.call := by
  have h := P.reachable.meets spec P.thread
  rw [P.history] at h
  exact h.1

/-- Every call of a thread was made as its program is proved to make it. -/
theorem Reachable.asked {pre : Q → List (Done R E) → C → Prop}
    {post : Q → List (Done R E) → Except E A → Prop}
    (spec : ∀ q, Prog.Meets (pre q) (post q) [] (M.serve q)) (hc : Reachable M init c) {i : ℕ} {q : Q}
    {p : Prog R E A} (hi : c.threads i = some ⟨q, p⟩) {t₁ t₀ : List (Done R E)} {d : Done R E}
    (h : own i c.history = t₁ ++ d :: t₀) : pre q t₀ d.call := by
  obtain ⟨h₁, e, h₀, hsplit, rfl, rfl, -, rfl⟩ := own_eq_append_cons.mp h
  obtain ⟨P⟩ := hc.performed hsplit
  rw [← P.request_eq hi]
  exact P.meets spec

/-- What held after a call of the history holds in the state reached, if every later call that was made
keeps it. -/
theorem Reachable.kept_since {I : σ → Prop} {K : Done R E → Prop}
    (hcall : ∀ ω s call, K ⟨call, (M.answer ω s call).1⟩ → I s → I (M.answer ω s call).2)
    (henv : ∀ s s', M.environment s s' → I s → I s') (hc : Reachable M init c)
    {h₁ h₀ : List (Entry R E Ω σ)} {e : Entry R E Ω σ} (h : c.history = h₁ ++ e :: h₀)
    (hK : ∀ a ∈ h₁, K a.done) (he : I e.after) : I c.state := by
  induction hc generalizing h₁ with
  | start _ => simp at h
  | @step c c' hc hs ih =>
    cases hs with
    | arrive j q hj => exact ih h hK
    | perform j q call next ω ht hω =>
      cases h₁ with
      | nil =>
        obtain ⟨rfl, -⟩ := List.cons.inj h
        exact he
      | cons a h₁ =>
        obtain ⟨rfl, htail⟩ := List.cons.inj h
        exact hcall ω _ call (hK _ List.mem_cons_self)
          (ih htail fun b hb => hK b (List.mem_cons_of_mem _ hb))
    | environment s hs => exact henv _ _ hs (ih h hK)

/-- What held before a call of the history and is stable holds in the state reached. -/
theorem Reachable.stable_since {I : σ → Prop} (hI : Stable M I) (hc : Reachable M init c)
    {h₁ h₀ : List (Entry R E Ω σ)} {e : Entry R E Ω σ} (h : c.history = h₁ ++ e :: h₀)
    (he : I e.after) : I c.state :=
  hc.kept_since (K := fun _ => True) (fun ω s call _ => hI.answer ω s call) hI.environment h
    (fun _ _ => trivial) he

/-- A fact that only calls can make true was made true by some call of the history. -/
theorem Reachable.origin {I : σ → Prop} (h0 : ∀ s, init s → ¬I s)
    (henv : ∀ s s', M.environment s s' → I s' → I s) (hc : Reachable M init c) (h : I c.state) :
    ∃ h₁ e h₀, c.history = h₁ ++ e :: h₀ ∧ ¬I e.before ∧ I e.after := by
  induction hc with
  | start hs => exact absurd h (h0 _ hs)
  | @step c c' _ hs ih =>
    cases hs with
    | arrive i q _ => exact ih h
    | perform i q call next ω _ _ =>
      by_cases hb : I c.state
      · obtain ⟨h₁, e, h₀, he, hI⟩ := ih hb
        exact ⟨_ :: h₁, e, h₀, by rw [Config.perform_history, he]; rfl, hI⟩
      · exact ⟨[], _, c.history, rfl, hb, h⟩
    | environment s hs => exact ih (henv _ _ hs h)

section Execution

variable [∀ h ω call, Decidable (M.admissible h ω call)]

/-- Thread `i` performs one call for each of the given choices, as long as it has one to make. -/
def Config.advance (M : Machine R E Ω σ Q A) [∀ h ω call, Decidable (M.admissible h ω call)]
    (i : ℕ) : Config R E Ω σ Q A → List Ω → Config R E Ω σ Q A
  | c, [] => c
  | c, ω :: ωs =>
    match c.threads i with
    | some ⟨q, .call call next⟩ =>
      if M.admissible c.history ω call then Config.advance M i (c.perform M i q call next ω) ωs else c
    | _ => c

lemma Config.advance_steps (i : ℕ) (ωs : List Ω) (c : Config R E Ω σ Q A) :
    Relation.ReflTransGen (Step M) c (c.advance M i ωs) := by
  induction ωs generalizing c with
  | nil => exact .refl
  | cons ω ωs ih =>
    unfold Config.advance
    split
    next q call next ht =>
      split
      · next hω => exact .head (.perform i q call next ω ht hω) (ih _)
      · exact .refl
    next => exact .refl

/-- Thread `i` serves request `q` with the given choices; nothing happens when it is taken. -/
def Config.serve (M : Machine R E Ω σ Q A) [∀ h ω call, Decidable (M.admissible h ω call)]
    (c : Config R E Ω σ Q A) (i : ℕ) (q : Q) (ωs : List Ω) : Config R E Ω σ Q A :=
  match c.threads i with
  | none => (c.arrive M i q).advance M i ωs
  | some _ => c

lemma Config.serve_steps (c : Config R E Ω σ Q A) (i : ℕ) (q : Q) (ωs : List Ω) :
    Relation.ReflTransGen (Step M) c (c.serve M i q ωs) := by
  unfold Config.serve
  split
  · next h => exact .head (.arrive i q h) (Config.advance_steps i ωs _)
  · exact .refl

lemma Config.advance_other {i j : ℕ} (h : j ≠ i) (ωs : List Ω) (c : Config R E Ω σ Q A) :
    (c.advance M i ωs).threads j = c.threads j := by
  induction ωs generalizing c with
  | nil => rfl
  | cons ω ωs ih =>
    unfold Config.advance
    split
    next q call next ht =>
      split
      · rw [ih, Config.perform_other M c i q call next ω h]
      · rfl
    next => rfl

lemma Config.serve_other {i j : ℕ} (h : j ≠ i) (c : Config R E Ω σ Q A) (q : Q) (ωs : List Ω) :
    (c.serve M i q ωs).threads j = c.threads j := by
  unfold Config.serve
  split
  · rw [Config.advance_other h, Config.arrive_other M c i q h]
  · rfl

lemma Reachable.serve (hc : Reachable M init c) (i : ℕ) (q : Q) (ωs : List Ω) :
    Reachable M init (c.serve M i q ωs) := hc.steps (c.serve_steps i q ωs)

end Execution

end Pentagon5.Interleaving
