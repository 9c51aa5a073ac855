import Mathlib.Data.List.DropRight
import Pentagon5.Python.Interpreter

/-!
# Python's URL parser

`urlsplit` with the exceptions that it raises for an authority.
-/

namespace Pentagon5.Python

/-- `value.rstrip(c)`. -/
def rstrip (value : String) (c : Char) : String := ofChars ((chars value).rdropWhile (· = c))

lemma rstrip_eq_self_iff (v : String) (c : Char) : rstrip v c = v ↔ v.toList.getLast? ≠ some c := by
  have hlist : rstrip v c = v ↔ v.toList.rdropWhile (· = c) = v.toList := by
    rw [rstrip, chars_eq, ofChars_eq, ← String.toList_inj, String.toList_ofList]
  rw [hlist, List.rdropWhile_eq_self_iff]
  constructor
  · intro h hlast
    have hne : v.toList ≠ [] := by
      intro hnil
      rw [hnil] at hlast
      cases hlast
    rw [List.getLast?_eq_some_getLast hne] at hlast
    exact h hne (decide_eq_true (Option.some.inj hlast))
  · intro h hne hc
    rw [List.getLast?_eq_some_getLast hne, of_decide_eq_true hc] at h
    exact h rfl

/-- What `urlsplit` returns. -/
structure SplitResult where
  scheme : String
  netloc : String
  path : String
  query : String
  fragment : String
deriving DecidableEq

/-- The checks of bracketed hosts and of characters that change under NFKC. -/
structure Urllib where
  /-- The text of the `ValueError` for an authority. -/
  netlocError : String → Option String

/-- The text before the first `separator` and the text behind it. -/
def splitOnce (separator : Char) (url : List Char) : List Char × List Char :=
  (url.takeWhile (· ≠ separator), (url.dropWhile (· ≠ separator)).tail)

def isC0ControlOrSpace (c : Char) : Bool := c.toNat ≤ 32

def isSchemeChar (c : Char) : Bool := c.isAlphanum ∨ c = '+' ∨ c = '-' ∨ c = '.'

/-- The scheme in lower case, and what follows it. -/
def splitScheme (url : List Char) : List Char × List Char :=
  let before := url.takeWhile (· ≠ ':')
  match url with
  | c :: _ =>
    if before.length < url.length ∧ before ≠ [] ∧ c.isAlpha ∧ before.all isSchemeChar then
      (before.map Char.toLower, url.drop (before.length + 1))
    else ([], url)
  | [] => ([], [])

def splitNetloc (url : List Char) : List Char × List Char :=
  match url with
  | '/' :: '/' :: rest =>
    let inside (c : Char) : Bool := c ≠ '/' ∧ c ≠ '?' ∧ c ≠ '#'
    (rest.takeWhile inside, rest.dropWhile inside)
  | _ => ([], url)

/-- `urlsplit(url)`. -/
def urlsplit (U : Urllib) (url : String) : Except Raised SplitResult :=
  let url := ((chars url).dropWhile isC0ControlOrSpace).filter fun c => c ≠ '\t' ∧ c ≠ '\r' ∧ c ≠ '\n'
  let (scheme, url) := splitScheme url
  let (netloc, url) := splitNetloc url
  let (url, fragment) := splitOnce '#' url
  let (path, query) := splitOnce '?' url
  match U.netlocError (ofChars netloc) with
  | some message => .error (.valueError message)
  | none => .ok ⟨ofChars scheme, ofChars netloc, ofChars path, ofChars query, ofChars fragment⟩

end Pentagon5.Python
