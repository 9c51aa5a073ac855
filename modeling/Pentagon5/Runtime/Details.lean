import Mathlib.Data.List.Induction
import Pentagon5.Python.Json
import Pentagon5.Runtime.Logging

/-!
# Details of a log record

Structured details are nested dictionaries, lists, tuples and scalars. `_safe` turns them into a
value that `json.dumps` accepts and replaces what stands beneath a sensitive key.
-/

namespace Pentagon5.Runtime

open Python

inductive Scalar
  | none
  | bool (value : Bool)
  | int (value : ℤ)
  | float (lexeme : String)
  | str (value : Str)

namespace Scalar

/-- A scalar is its own result. -/
def json : Scalar → Json
  | .none => .null
  | .bool value => .bool value
  | .int value => .int value
  | .float lexeme => .float lexeme
  | .str value => .str value

end Scalar

/-- Details with dictionary keys in `κ`; an object in `ω` is neither container nor scalar. -/
inductive Details (κ ω : Type)
  | scalar (value : Scalar)
  | other (value : ω)
  | list (items : List (Details κ ω))
  | tuple (items : List (Details κ ω))
  | dict (entries : List (κ × Details κ ω))

/-- `str` of the keys and of the other objects. -/
structure Texts (κ ω : Type) where
  key : κ → Str
  other : ω → Str

variable {κ ω : Type} (U : Unicode) (T : Texts κ ω)

/-- The first test of `_safe`. -/
def redact (key : Str) (result : Json) : Json :=
  if isRedacted U key then .str (Str.ofString "[REDACTED]") else result

/-- A dictionary comprehension: a repeated key takes the later value. -/
def comprehension (entries : List (Str × Json)) : List (Str × Json) :=
  entries.foldl (fun result e => Json.setEntry result e.1 e.2) []

mutual

/-- `_safe`. -/
def safe : Details κ ω → Str → Json
  | .scalar value, key => redact U key value.json
  | .other value, key => redact U key (.str (T.other value))
  | .list items, key => redact U key (.list (safeItems items))
  | .tuple items, key => redact U key (.list (safeItems items))
  | .dict entries, key => redact U key (.dict (comprehension (safeEntries entries)))

def safeItems : List (Details κ ω) → List Json
  | [] => []
  | item :: items => safe item (Str.ofString "") :: safeItems items

def safeEntries : List (κ × Details κ ω) → List (Str × Json)
  | [] => []
  | (key, item) :: entries => (T.key key, safe item (T.key key)) :: safeEntries entries

end

inductive PathStep (κ : Type)
  | key (key : κ)
  | index (index : ℕ)

/-- What stands at a path of details. -/
def Details.at? [DecidableEq κ] : Details κ ω → List (PathStep κ) → Option (Details κ ω)
  | value, [] => some value
  | .list items, .index n :: path => items[n]?.bind fun item => item.at? path
  | .tuple items, .index n :: path => items[n]?.bind fun item => item.at? path
  | .dict entries, .key k :: path => (entries.lookup k).bind fun item => item.at? path
  | _, _ :: _ => none

/-- What stands at a path of a result. -/
def resultAt? : Json → List (PathStep Str) → Option Json
  | value, [] => some value
  | .list items, .index n :: path => items[n]?.bind fun item => resultAt? item path
  | .dict entries, .key k :: path => (entries.lookup k).bind fun item => resultAt? item path
  | _, _ :: _ => none

/-- The corresponding step of the result. -/
def PathStep.text : PathStep κ → PathStep Str
  | .key k => .key (T.key k)
  | .index n => .index n

variable {U T}

lemma redact_of (key : Str) (result : Json) (h : isRedacted U key = false) :
    redact U key result = result := by
  rw [redact, if_neg (by simp [h])]

lemma safe_of_redacted (value : Details κ ω) (key : Str) (h : isRedacted U key = true) :
    safe U T value key = .str (Str.ofString "[REDACTED]") := by
  cases value <;> rw [safe, redact, if_pos h]

lemma safeItems_eq (items : List (Details κ ω)) :
    safeItems U T items = items.map fun item => safe U T item (Str.ofString "") := by
  induction items with
  | nil => rfl
  | cons item items ih => rw [safeItems, ih, List.map_cons]

lemma safeEntries_eq (entries : List (κ × Details κ ω)) :
    safeEntries U T entries = entries.map fun e => (T.key e.1, safe U T e.2 (T.key e.1)) := by
  induction entries with
  | nil => rfl
  | cons e entries ih => rw [safeEntries, ih, List.map_cons]

lemma comprehension_of_nodup {entries : List (Str × Json)} (h : (entries.map Prod.fst).Nodup) :
    comprehension entries = entries := by
  induction entries using List.reverseRecOn with
  | nil => rfl
  | append_singleton entries e ih =>
    rw [List.map_append, List.nodup_append] at h
    obtain ⟨hentries, -, hdisjoint⟩ := h
    have hinit := ih hentries
    rw [comprehension] at hinit ⊢
    rw [List.foldl_append, hinit]
    apply Json.setEntry_fresh
    intro f hf heq
    exact hdisjoint f.1 (List.mem_map_of_mem hf) e.1 (by simp) heq

end Pentagon5.Runtime
