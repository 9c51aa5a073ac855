import Mathlib.Data.Finset.Dedup
import Pentagon5.Python.Json

/-!
# What depends on the interpreter

The exceptions of the built-in operations, the texts of numbers and containers, and the stack
that a deeply nested document exhausts.
-/

namespace Pentagon5.Python

/-- The exceptions of built-in operations; a `ValueError` with its text. -/
inductive Raised where
  | valueError (message : String)
  | typeError
  | recursionError
deriving DecidableEq

/-- A sequence of statements that returns: each of them did. -/
lemma bind_eq_ok {ε α β : Type} {x : Except ε α} {f : α → Except ε β} {b : β} :
    (x >>= f) = .ok b ↔ ∃ a, x = .ok a ∧ f a = .ok b := by
  cases x with
  | error e => exact ⟨nofun, nofun⟩
  | ok a => exact ⟨fun h => ⟨a, rfl, h⟩, fun ⟨_, ha, h⟩ => Except.ok.inj ha ▸ h⟩

def isBracket (c : Char) : Bool := c = '[' ∨ c = '{'

structure Interpreter where
  /-- `unicodedata.decimal` beyond ASCII. -/
  decimal : ℕ → Option ℕ
  /-- `int(text)`. -/
  int : Str → Option ℤ
  /-- `repr(float(lexeme))`. -/
  floatRepr : String → Str
  floatRepr_length : ∀ lexeme, (floatRepr lexeme).codes.length ≤ 24
  /-- `repr` of a list or a dictionary after its opening bracket. -/
  containerRepr : Json → List ℕ
  /-- Whether `json.loads` exceeds the recursion limit. -/
  exhausts : String → Bool
  exhausts_shallow : ∀ text, (chars text).countP isBracket ≤ 50 → exhausts text = false

namespace Json

/-- `str(value)`. -/
def toStr (I : Interpreter) : Json → Str
  | null => "None"
  | bool true => "True"
  | bool false => "False"
  | int value => (toString value : String)
  | float lexeme => I.floatRepr lexeme
  | str value => value
  | list items => ⟨91 :: I.containerRepr (list items)⟩
  | dict entries => ⟨123 :: I.containerRepr (dict entries)⟩

/-- `set(entries)`. -/
def keys (entries : List (Str × Json)) : Finset Str := (entries.map Prod.fst).toFinset

/-- `json.loads` with its exceptions. -/
def loadsRaising (I : Interpreter) (text : String) : Except Raised Json :=
  if I.exhausts text then .error .recursionError
  else match loads text with
    | some value => .ok value
    | none => .error (.valueError "malformed JSON")

end Json

end Pentagon5.Python
