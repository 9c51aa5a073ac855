import Mathlib.Logic.Function.Basic

/-!
# Handlers of exceptions

A handler is registered for a class of exceptions and takes what instances of the class carry. The
handler of an exception is that of the first class that has one on the method resolution order of
the exception's type.
-/

namespace Pentagon5.Asgi

/-- The classes of the exceptions `E`, with the method resolution order of each exception's type. -/
structure Hierarchy (E : Type) where
  Class : Type
  Attributes : Class → Type
  mro : E → List Class
  /-- An exception as an instance of one of its classes. -/
  view : E → (c : Class) → Option (Attributes c)

variable {E R : Type}

/-- `isinstance`. -/
def Hierarchy.IsInstance (H : Hierarchy E) (e : E) (c : H.Class) : Prop := c ∈ H.mro e

instance (H : Hierarchy E) [DecidableEq H.Class] (e : E) (c : H.Class) :
    Decidable (H.IsInstance e c) := inferInstanceAs (Decidable (c ∈ H.mro e))

/-- The handlers of an application, by the class each is registered for. -/
def Handlers (H : Hierarchy E) (R : Type) : Type := (c : H.Class) → Option (H.Attributes c → R)

namespace Handlers

variable {H : Hierarchy E}

def empty : Handlers H R := fun _ => none

/-- A later registration for a class replaces an earlier one. -/
def register [DecidableEq H.Class] (handlers : Handlers H R) (c : H.Class)
    (handler : H.Attributes c → R) : Handlers H R :=
  Function.update handlers c (some handler)

/-- The handlers without that of a class. -/
def without [DecidableEq H.Class] (handlers : Handlers H R) (c : H.Class) : Handlers H R :=
  Function.update handlers c none

/-- What the handler of an exception answers; `none` where it has no handler. -/
def lookup (handlers : Handlers H R) (e : E) : Option R :=
  (H.mro e).findSome? fun c => (handlers c).bind fun handler => (H.view e c).map handler

variable {handlers : Handlers H R} {e : E}

lemma lookup_eq_none (h : ∀ c, H.IsInstance e c → handlers c = none) : handlers.lookup e = none := by
  rw [lookup, List.findSome?_eq_none_iff]
  intro c hc
  rw [h c hc]
  rfl

/-- The first class with a handler decides. -/
lemma lookup_of_first {before after : List H.Class} {c : H.Class} {handler : H.Attributes c → R}
    {a : H.Attributes c} (hmro : H.mro e = before ++ c :: after)
    (hbefore : ∀ b ∈ before, handlers b = none) (hc : handlers c = some handler)
    (ha : H.view e c = some a) : handlers.lookup e = some (handler a) := by
  have hnone : before.findSome? (fun c => (handlers c).bind fun handler => (H.view e c).map handler) =
      none := by
    rw [List.findSome?_eq_none_iff]
    intro b hb
    rw [hbefore b hb]
    rfl
  rw [lookup, hmro, List.findSome?_append, hnone, Option.none_or, List.findSome?_cons, hc, ha]
  rfl

section

variable [DecidableEq H.Class] {c d : H.Class} {handler : H.Attributes c → R}

@[simp] lemma register_self : register handlers c handler c = some handler := Function.update_self ..

@[simp] lemma register_of_ne (h : d ≠ c) : register handlers c handler d = handlers d :=
  Function.update_of_ne h ..

@[simp] lemma without_self : without handlers c c = none := Function.update_self ..

@[simp] lemma without_of_ne (h : d ≠ c) : without handlers c d = handlers d :=
  Function.update_of_ne h ..

end

end Handlers

end Pentagon5.Asgi
