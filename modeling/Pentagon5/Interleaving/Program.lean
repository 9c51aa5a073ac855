import Mathlib.Logic.Basic
import Mathlib.Tactic.SimpRw

/-!
# Programs that make atomic calls

A `Prog R E α` is the behaviour of one client of a shared system: it makes calls `c : C`,
receives for each an answer in `R c` or an exception in `E`, and ends with a result in `α`
or an exception. Nothing is said here about what a call does; `Meets` states what a program
asks for and returns under every possible sequence of answers.
-/

namespace Pentagon5.Interleaving

/-- A call together with its answer or the exception it raised. -/
structure Done {C : Type} (R : C → Type) (E : Type) where
  call : C
  answer : Except E (R call)

inductive Prog {C : Type} (R : C → Type) (E α : Type) : Type where
  | ret (result : Except E α)
  | call (c : C) (next : Except E (R c) → Prog R E α)

namespace Prog

variable {C : Type} {R : C → Type} {E α β : Type}

/-- Sequencing; an exception ends the program. -/
def bind : Prog R E α → (α → Prog R E β) → Prog R E β
  | ret (.ok a), f => f a
  | ret (.error e), _ => ret (.error e)
  | call c next, f => call c (fun r => (next r).bind f)

instance : Monad (Prog R E) where
  pure a := ret (.ok a)
  bind := bind

/-- One atomic call. An exception it raises is raised by the program. -/
def perform (c : C) : Prog R E (R c) := call c ret

def raise (e : E) : Prog R E α := ret (.error e)

/-- Goes on when `p` holds and raises `e` otherwise. -/
def require (p : Prop) [Decidable p] (e : E) : Prog R E Unit :=
  if p then pure () else raise e

/-- The result of a computation that makes no calls. -/
def ofExcept (r : Except E α) : Prog R E α := ret r

/-- `try p except`: the exceptions for which `handler` is defined are replaced by its program. -/
def handle (handler : E → Option (Prog R E α)) : Prog R E α → Prog R E α
  | ret (.ok a) => ret (.ok a)
  | ret (.error e) => (handler e).getD (ret (.error e))
  | call c next => call c (fun r => (next r).handle handler)

@[simp] lemma ok_bind (a : α) (f : α → Prog R E β) : (ret (.ok a) >>= f) = f a := rfl

@[simp] lemma pure_bind' (a : α) (f : α → Prog R E β) : ((pure a : Prog R E α) >>= f) = f a := rfl

@[simp] lemma error_bind (e : E) (f : α → Prog R E β) :
    ((ret (.error e) : Prog R E α) >>= f) = ret (.error e) := rfl

@[simp] lemma call_bind (c : C) (next : Except E (R c) → Prog R E α) (f : α → Prog R E β) :
    (call c next >>= f) = call c (fun r => next r >>= f) := rfl

/-- `Meets pre post done p`: after the calls `done` (latest first), every call that `p`
makes satisfies `pre` and every result satisfies `post`, whatever the calls answer. -/
def Meets (pre : List (Done R E) → C → Prop) (post : List (Done R E) → Except E α → Prop) :
    List (Done R E) → Prog R E α → Prop
  | done, ret r => post done r
  | done, call c next => pre done c ∧ ∀ r, Meets pre post (⟨c, r⟩ :: done) (next r)

variable {pre pre' : List (Done R E) → C → Prop} {post post' : List (Done R E) → Except E α → Prop}
  {done : List (Done R E)}

@[simp] lemma meets_ret (r : Except E α) : Meets pre post done (ret r) ↔ post done r := Iff.rfl

@[simp] lemma meets_pure (a : α) :
    Meets pre post done (pure a : Prog R E α) ↔ post done (.ok a) := Iff.rfl

@[simp] lemma meets_raise (e : E) :
    Meets pre post done (raise e : Prog R E α) ↔ post done (.error e) := Iff.rfl

@[simp] lemma meets_ofExcept (r : Except E α) :
    Meets pre post done (ofExcept r : Prog R E α) ↔ post done r := Iff.rfl

lemma meets_perform {c : C} {post : List (Done R E) → Except E (R c) → Prop} :
    Meets pre post done (perform c) ↔ pre done c ∧ ∀ r, post (⟨c, r⟩ :: done) r := Iff.rfl

lemma Meets.mono {p : Prog R E α} (h : Meets pre post done p)
    (hpre : ∀ d c, pre d c → pre' d c) (hpost : ∀ d r, post d r → post' d r) :
    Meets pre' post' done p := by
  induction p generalizing done with
  | ret r => exact hpost _ _ h
  | call c next ih => exact ⟨hpre _ _ h.1, fun r => ih r (h.2 r)⟩

lemma meets_trivial (hpre : ∀ d c, pre d c) (hpost : ∀ d r, post d r) (p : Prog R E α) :
    Meets pre post done p := by
  induction p generalizing done with
  | ret r => exact hpost _ r
  | call c next ih => exact ⟨hpre _ c, fun r => ih r⟩

/-- Two specifications of one program. -/
lemma Meets.and {p : Prog R E α} (h : Meets pre post done p) (h' : Meets pre' post' done p) :
    Meets (fun d c => pre d c ∧ pre' d c) (fun d r => post d r ∧ post' d r) done p := by
  induction p generalizing done with
  | ret r => exact ⟨h, h'⟩
  | call c next ih => exact ⟨⟨h.1, h'.1⟩, fun r => ih r (h.2 r) (h'.2 r)⟩

/-- The calls that a program adds satisfy what every call of it has to satisfy. -/
theorem Meets.since {K : C → Prop} {p : Prog R E α} (h : Meets pre post done p)
    (hK : ∀ d c, pre d c → K c) :
    Meets pre (fun d r => post d r ∧ ∃ new, d = new ++ done ∧ ∀ x ∈ new, K x.call) done p := by
  induction p generalizing done with
  | ret r => exact ⟨h, [], rfl, by simp⟩
  | call c next ih =>
    refine ⟨h.1, fun a => (ih a (h.2 a)).mono (fun _ _ hc => hc) ?_⟩
    rintro d r ⟨hpost, new, rfl, hnew⟩
    refine ⟨hpost, new ++ [⟨c, a⟩], by simp, ?_⟩
    intro x hx
    rcases List.mem_append.mp hx with hx | hx
    · exact hnew x hx
    · obtain rfl := List.mem_singleton.mp hx
      exact hK _ _ h.1

/-- A program only adds calls. -/
lemma meets_extends (p : Prog R E α) :
    Meets (fun _ _ => True) (fun d _ => ∃ new, d = new ++ done) done p := by
  have h : Meets (fun _ _ => True) (fun _ _ => True) done p :=
    meets_trivial (fun _ _ => trivial) (fun _ _ => trivial) p
  refine (h.since (K := fun _ => True) fun _ _ _ => trivial).mono (fun _ _ h => h) ?_
  rintro d r ⟨-, new, hnew, -⟩
  exact ⟨new, hnew⟩

/-- Sequencing rule: the first program establishes what the second one needs. -/
theorem meets_bind {postβ : List (Done R E) → Except E β → Prop} {p : Prog R E α}
    {f : α → Prog R E β}
    (h : Meets pre (fun d r => match r with
      | .ok a => Meets pre postβ d (f a)
      | .error e => postβ d (.error e)) done p) :
    Meets pre postβ done (p >>= f) := by
  induction p generalizing done with
  | ret r =>
    cases r with
    | ok a => exact h
    | error e => exact h
  | call c next ih => exact ⟨h.1, fun r => ih r (h.2 r)⟩

/-- What is said of the result alone depends only on how a program ends. -/
lemma meets_result_bind {P : Except E β → Prop} {p : Prog R E α} {f : α → Prog R E β}
    (hf : ∀ d a, Meets (fun _ _ => True) (fun _ r => P r) d (f a)) (he : ∀ e, P (.error e)) :
    Meets (fun _ _ => True) (fun _ r => P r) done (p >>= f) := by
  refine meets_bind (meets_trivial (fun _ _ => trivial) ?_ p)
  intro d r
  cases r with
  | ok a => exact hf d a
  | error e => exact he e

lemma meets_perform_bind {postβ : List (Done R E) → Except E β → Prop} {c : C}
    {f : R c → Prog R E β} :
    Meets pre postβ done (perform c >>= f) ↔
      pre done c ∧ (∀ a, Meets pre postβ (⟨c, .ok a⟩ :: done) (f a)) ∧
        ∀ e, postβ (⟨c, .error e⟩ :: done) (.error e) := by
  constructor
  · rintro ⟨hc, h⟩
    exact ⟨hc, fun a => h (.ok a), fun e => h (.error e)⟩
  · rintro ⟨hc, hok, herr⟩
    refine ⟨hc, fun r => ?_⟩
    cases r with
    | ok a => exact hok a
    | error e => exact herr e

lemma meets_require_bind {postβ : List (Done R E) → Except E β → Prop} {q : Prop} [Decidable q]
    {e : E} {f : Unit → Prog R E β} :
    Meets pre postβ done (require q e >>= f) ↔
      (q → Meets pre postβ done (f ())) ∧ (¬q → postβ done (.error e)) := by
  unfold require
  by_cases hq : q
  · simp [hq]
  · simp [hq, raise]

lemma meets_ofExcept_bind {postβ : List (Done R E) → Except E β → Prop} {r : Except E α}
    {f : α → Prog R E β} :
    Meets pre postβ done (ofExcept r >>= f) ↔
      (∀ a, r = .ok a → Meets pre postβ done (f a)) ∧ ∀ e, r = .error e → postβ done (.error e) := by
  cases r <;> simp [ofExcept]

/-- Rule for `try`: the handler's programs have to meet the specification too. -/
theorem meets_handle {handler : E → Option (Prog R E α)} {p : Prog R E α}
    (h : Meets pre (fun d r => match r with
      | .ok a => post d (.ok a)
      | .error e => Meets pre post d ((handler e).getD (ret (.error e)))) done p) :
    Meets pre post done (p.handle handler) := by
  induction p generalizing done with
  | ret r =>
    cases r with
    | ok a => exact h
    | error e => exact h
  | call c next ih => exact ⟨h.1, fun r => ih r (h.2 r)⟩

section

variable {S : Type} (step : S → (c : C) → Except E (R c) × S)

/-- The result of a program that is the only one to make calls. -/
def run : S → Prog R E α → Except E α × S
  | s, ret r => (r, s)
  | s, call c next => run (step s c).2 (next (step s c).1)

@[simp] lemma run_ret (s : S) (r : Except E α) : (ret r).run step s = (r, s) := by rw [run]

@[simp] lemma run_pure (s : S) (a : α) : (pure a : Prog R E α).run step s = (.ok a, s) :=
  run_ret step s (.ok a)

lemma run_bind (s : S) (p : Prog R E α) (f : α → Prog R E β) : (p >>= f).run step s =
    match p.run step s with
    | (.ok a, s') => (f a).run step s'
    | (.error e, s') => (.error e, s') := by
  induction p generalizing s with
  | ret r =>
    cases r with
    | ok a => rw [ok_bind, run_ret]
    | error e => rw [error_bind, run_ret, run_ret]
  | call c next ih => rw [call_bind, run, run, ih]

/-- A first program that returns. -/
lemma run_bind_of_ok {s s' : S} {p : Prog R E α} {f : α → Prog R E β} {a : α}
    (h : p.run step s = (.ok a, s')) : (p >>= f).run step s = (f a).run step s' := by
  rw [run_bind, h]

lemma run_bind_of_error {s s' : S} {p : Prog R E α} {f : α → Prog R E β} {e : E}
    (h : p.run step s = (.error e, s')) : (p >>= f).run step s = (.error e, s') := by
  rw [run_bind, h]

@[simp] lemma run_perform (s : S) (c : C) : (perform c : Prog R E (R c)).run step s = step s c := by
  rw [perform, run, run_ret]

@[simp] lemma run_ofExcept (s : S) (r : Except E α) : (ofExcept r : Prog R E α).run step s = (r, s) :=
  run_ret step s r

end

end Prog

end Pentagon5.Interleaving
