import Mathlib.Data.List.DropRight
import Pentagon5.Python.Text

/-!
# Python's `urlparse`

The components of a URL text of any code points. Which authorities `urlsplit` refuses, for their
brackets or for characters that change under NFKC, is a parameter.
-/

namespace Pentagon5.Python

structure ParseResult where
  scheme : Str
  netloc : Str
  path : Str
  params : Str
  query : Str
  fragment : Str
deriving DecidableEq

namespace Urlparse

/-- `text.split(separator, 1)`, where the second part may be missing. -/
def partition (separator : Char) (text : List ℕ) : List ℕ × List ℕ :=
  (text.takeWhile (· ≠ separator.toNat), (text.dropWhile (· ≠ separator.toNat)).tail)

def isUpper (n : ℕ) : Bool := 65 ≤ n ∧ n ≤ 90

def isAlpha (n : ℕ) : Bool := isUpper n ∨ (97 ≤ n ∧ n ≤ 122)

def isSchemeCode (n : ℕ) : Bool :=
  isAlpha n ∨ (48 ≤ n ∧ n ≤ 57) ∨ n = '+'.toNat ∨ n = '-'.toNat ∨ n = '.'.toNat

/-- `str.lower` of a scheme. -/
def lower (text : List ℕ) : List ℕ := text.map fun n => if isUpper n then n + 32 else n

/-- The scheme in lower case, and what follows it. -/
def splitScheme (url : List ℕ) : List ℕ × List ℕ :=
  let before := url.takeWhile (· ≠ ':'.toNat)
  if ':'.toNat ∈ url ∧ (before.head?.any isAlpha) ∧ before.all isSchemeCode then
    (lower before, url.drop (before.length + 1))
  else ([], url)

/-- Whether a code point stays in the authority. -/
def inNetloc (n : ℕ) : Bool := n ≠ '/'.toNat ∧ n ≠ '?'.toNat ∧ n ≠ '#'.toNat

def splitNetloc (url : List ℕ) : List ℕ × List ℕ :=
  match url with
  | 47 :: 47 :: rest => (rest.takeWhile inNetloc, rest.dropWhile inNetloc)
  | _ => ([], url)

/-- `_splitparams`: the first `;` behind the last `/`. -/
def splitParams (path : List ℕ) : List ℕ × List ℕ :=
  let last := path.rtakeWhile (· ≠ '/'.toNat)
  if ';'.toNat ∈ last then
    (path.rdropWhile (· ≠ '/'.toNat) ++ (partition ';' last).1, (partition ';' last).2)
  else (path, [])

def usesParams : List String := ["", "ftp", "hdl", "prospero", "http", "imap", "https", "shttp", "rtsp",
  "rtsps", "rtspu", "sip", "sips", "mms", "sftp", "tel"]

/-- What `urlsplit` removes: C0 controls and spaces in front, tabs and line ends anywhere. -/
def clean (url : List ℕ) : List ℕ :=
  (url.dropWhile (· ≤ 32)).filter fun n => n ≠ 9 ∧ n ≠ 13 ∧ n ≠ 10

/-- The path, the parameters, the query and the fragment behind the authority. -/
def splitTail (scheme : Str) (rest : List ℕ) : Str × Str × Str × Str :=
  let (rest, fragment) := partition '#' rest
  let (path, query) := partition '?' rest
  let (path, params) :=
    if scheme ∈ usesParams.map Str.ofString ∧ ';'.toNat ∈ path then splitParams path else (path, [])
  (⟨path⟩, ⟨params⟩, ⟨query⟩, ⟨fragment⟩)

/-- The components of a cleaned text. -/
def components (url : List ℕ) : ParseResult :=
  let (scheme, rest) := splitScheme url
  let (netloc, rest) := splitNetloc rest
  let (path, params, query, fragment) := splitTail ⟨scheme⟩ rest
  ⟨⟨scheme⟩, ⟨netloc⟩, path, params, query, fragment⟩

end Urlparse

open Urlparse in
/-- `urlparse(url)`; `none` where it raises `ValueError`. -/
def urlparse (refused : Str → Bool) (url : Str) : Option ParseResult :=
  let parsed := components (clean url.codes)
  if refused parsed.netloc then none else some parsed

namespace Urlparse

variable {text rest : List ℕ} {separator : Char}

lemma partition_of_notMem (h : separator.toNat ∉ text) : partition separator text = (text, []) := by
  have hall : ∀ n ∈ text, decide (n ≠ separator.toNat) = true :=
    fun n hn => decide_eq_true fun he => h (he ▸ hn)
  rw [partition, List.takeWhile_eq_self_iff.mpr hall, List.dropWhile_eq_nil_iff.mpr hall, List.tail_nil]

lemma partition_append (h : separator.toNat ∉ text) :
    partition separator (text ++ separator.toNat :: rest) = (text, rest) := by
  have hall : ∀ n ∈ text, decide (n ≠ separator.toNat) = true :=
    fun n hn => decide_eq_true fun he => h (he ▸ hn)
  rw [partition, List.takeWhile_append_of_pos hall, List.dropWhile_append_of_pos hall,
    List.takeWhile_cons_of_neg (by simp), List.dropWhile_cons_of_neg (by simp), List.append_nil,
    List.tail_cons]

/-- A text is what stands before the separator and, if it has one, what follows. -/
lemma partition_cases (separator : Char) (text : List ℕ) :
    (separator.toNat ∉ text ∧ partition separator text = (text, [])) ∨
      ∃ before rest, separator.toNat ∉ before ∧ text = before ++ separator.toNat :: rest ∧
        partition separator text = (before, rest) := by
  by_cases h : separator.toNat ∈ text
  · obtain ⟨before, rest, rfl, hnot⟩ := List.eq_append_cons_of_mem h
    exact Or.inr ⟨before, rest, hnot, rfl, partition_append hnot⟩
  · exact Or.inl ⟨h, partition_of_notMem h⟩

/-- A text without anything behind its separator. -/
lemma eq_of_partition_nil (h : (partition separator text).2 = []) :
    separator.toNat ∉ (partition separator text).1 ∧
      (text = (partition separator text).1 ∨ text = (partition separator text).1 ++ [separator.toNat]) := by
  rcases partition_cases separator text with ⟨hnot, hp⟩ | ⟨before, rest, hnot, rfl, hp⟩
  · rw [hp]
    exact ⟨hnot, Or.inl rfl⟩
  · rw [hp] at h ⊢
    obtain rfl : rest = [] := h
    exact ⟨hnot, Or.inr rfl⟩

end Urlparse

end Pentagon5.Python
