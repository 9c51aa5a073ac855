import Pentagon5.Ecma.Pattern
import Pentagon5.Python.Json

/-!
# JSON Schema assertions

A schema is the set of values that it admits. An object schema with `additionalProperties` or
`unevaluatedProperties` false admits the named properties only.
-/

namespace Pentagon5.JsonSchema

open Python Python.Json Ecma

abbrev Schema := Json → Prop

/-- `type: string` with assertions about the text. -/
def string (P : Str → Prop) : Schema := fun value => ∃ text, value = .str text ∧ P text

def const (text : String) : Schema := string fun s => s = text

def enum (texts : List String) : Schema := string fun s => ∃ text ∈ texts, s = Str.ofString text

/-- `pattern` with a pattern that is anchored at both ends. -/
def pattern (P : RegularExpression ℕ) : Schema := string fun s => Matches P s.codes

/-- `type: object` with its members. -/
def object (P : List (Str × Json) → Prop) : Schema :=
  fun value => ∃ entries, value = .dict entries ∧ P entries

section

variable (entries : List (Str × Json))

def Required (key : String) (schema : Schema) : Prop :=
  ∃ value, get? entries key = some value ∧ schema value

def Optional (key : String) (schema : Schema) : Prop :=
  ∀ value, get? entries key = some value → schema value

/-- `additionalProperties: false` -/
def Closed (names : List String) : Prop := ∀ e ∈ entries, ∃ name ∈ names, e.1 = Str.ofString name

end

end Pentagon5.JsonSchema
