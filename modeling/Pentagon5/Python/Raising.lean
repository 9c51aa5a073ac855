import Mathlib.Tactic.Lemma

/-!
# Methods that may raise

A method of an object is `EStateM ε σ`: what raises leaves the attributes as they were written
by then. The lemmas evaluate a sequence of statements one statement at a time.
-/

namespace Pentagon5.Python

variable {ε σ α β : Type} {x : EStateM ε σ α} {f : α → EStateM ε σ β} {p p' p'' : σ} {a : α} {b : β}
  {e : ε}

/-- A computation that reads and writes no attribute. -/
def attempt (x : Except ε α) : EStateM ε σ α :=
  match x with
  | .ok a => pure a
  | .error e => throw e

lemma bind_of_ok (h : x p = .ok a p') : (x >>= f) p = f a p' := by
  change EStateM.bind x f p = _
  rw [EStateM.bind, h]

lemma bind_of_error (h : x p = .error e p') : (x >>= f) p = .error e p' := by
  change EStateM.bind x f p = _
  rw [EStateM.bind, h]

lemma bind_congr_left {y : EStateM ε σ α} (h : x p = y p) : (x >>= f) p = (y >>= f) p := by
  change EStateM.bind x f p = EStateM.bind y f p
  rw [EStateM.bind, EStateM.bind, h]

lemma except_ok_bind (a : α) (f : α → Except ε β) : (Except.ok a >>= f) = f a := rfl

lemma get_bind {f : σ → EStateM ε σ β} : ((get : EStateM ε σ σ) >>= f) p = f p p := rfl

lemma modify_bind {g : σ → σ} {f : PUnit → EStateM ε σ β} :
    ((modify g : EStateM ε σ PUnit) >>= f) p = f () (g p) := rfl

lemma pure_bind_apply : ((pure a : EStateM ε σ α) >>= f) p = f a p := rfl

lemma throw_bind : ((throw e : EStateM ε σ α) >>= f) p = .error e p := rfl

lemma attempt_ok (a : α) : (attempt (.ok a) : EStateM ε σ α) p = .ok a p := rfl

lemma attempt_ok_bind : ((attempt (.ok a) : EStateM ε σ α) >>= f) p = f a p := rfl

lemma attempt_error_bind : ((attempt (.error e) : EStateM ε σ α) >>= f) p = .error e p := rfl

lemma attempt_pure (a : α) : (attempt (pure a) : EStateM ε σ α) = pure a := rfl

lemma attempt_bind {x : Except ε α} {f : α → Except ε β} :
    (attempt (x >>= f) : EStateM ε σ β) = attempt x >>= fun a => attempt (f a) := by
  cases x with
  | error e => rfl
  | ok a => rfl

lemma attempt_bind_congr {x : Except ε α} {f g : α → EStateM ε σ β} (h : ∀ a, f a p = g a p) :
    (attempt x >>= f) p = (attempt x >>= g) p := by
  cases x with
  | error e => rfl
  | ok a => exact h a

/-- A method that writes nothing. -/
def Reads (x : EStateM ε σ α) : Prop := ∀ p, (∃ a, x p = .ok a p) ∨ ∃ e, x p = .error e p

lemma Reads.bind (hx : Reads x) (hf : ∀ a, Reads (f a)) : Reads (x >>= f) := by
  intro p
  rcases hx p with ⟨a, ha⟩ | ⟨e, he⟩
  · rw [bind_of_ok ha]
    exact hf a p
  · exact Or.inr ⟨e, bind_of_error he⟩

lemma reads_pure (a : α) : Reads (pure a : EStateM ε σ α) := fun _ => Or.inl ⟨a, rfl⟩

lemma reads_throw (e : ε) : Reads (throw e : EStateM ε σ α) := fun _ => Or.inr ⟨e, rfl⟩

/-- A method that has written nothing when it raises. -/
def Restores (x : EStateM ε σ α) : Prop := ∀ {p e p'}, x p = .error e p' → p' = p

lemma Reads.restores (hx : Reads x) : Restores x := by
  intro p e p' h
  rcases hx p with ⟨a, ha⟩ | ⟨e', he⟩
  · cases ha.symm.trans h
  · cases he.symm.trans h
    rfl

lemma Reads.bind_restores (hx : Reads x) (hf : ∀ a, Restores (f a)) : Restores (x >>= f) := by
  intro p e p' h
  rcases hx p with ⟨a, ha⟩ | ⟨e', he⟩
  · rw [bind_of_ok ha] at h
    exact hf a h
  · rw [bind_of_error he] at h
    cases h
    rfl

lemma restores_modify (g : σ → σ) (a : α) :
    Restores ((modify g : EStateM ε σ PUnit) >>= fun _ => pure a) := by
  intro p e p' h
  cases h

lemma reads_attempt (x : Except ε α) : Reads (attempt x : EStateM ε σ α) := by
  intro p
  cases x with
  | error e => exact Or.inr ⟨e, rfl⟩
  | ok a => exact Or.inl ⟨a, rfl⟩

lemma reads_get : Reads (get : EStateM ε σ σ) := fun p => Or.inl ⟨p, rfl⟩

end Pentagon5.Python
