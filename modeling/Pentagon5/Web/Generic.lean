import Mathlib.Data.List.TakeWhile
import Pentagon5.Web.Form

/-!
# The generic syntax of URLs

Scheme, authority, path, query and fragment of a text of code points, as the separators `:`, `/`, `?`
and `#` divide it.
-/

namespace Pentagon5.Web.Generic

/-- The text before the query and the fragment. -/
def isHierarchical (n : ℕ) : Bool := n ≠ '?'.toNat ∧ n ≠ '#'.toNat

def hierarchy (text : List ℕ) : List ℕ := text.takeWhile isHierarchical

def scheme (text : List ℕ) : Option (List ℕ) :=
  let before := (hierarchy text).takeWhile fun n => n ≠ ':'.toNat ∧ n ≠ '/'.toNat
  if before ≠ [] ∧ (hierarchy text)[before.length]? = some ':'.toNat then some before else none

def afterScheme (text : List ℕ) : List ℕ :=
  match scheme text with
  | some scheme => (hierarchy text).drop (scheme.length + 1)
  | none => hierarchy text

def authority (text : List ℕ) : Option (List ℕ) :=
  match afterScheme text with
  | 47 :: 47 :: rest => some (rest.takeWhile (· ≠ '/'.toNat))
  | _ => none

def path (text : List ℕ) : List ℕ :=
  match afterScheme text with
  | 47 :: 47 :: rest => rest.dropWhile (· ≠ '/'.toNat)
  | rest => rest

def query (text : List ℕ) : Option (List ℕ) :=
  match text.dropWhile isHierarchical with
  | [] => none
  | n :: rest => if n = '?'.toNat then some (rest.takeWhile (· ≠ '#'.toNat)) else none

/-- The names and the values of the query. -/
def parameters (text : List ℕ) : List (List Char × List Char) :=
  Form.parse (Utf8.encodeCodes ((query text).getD []))

example : authority ("https://id.example/authorize?tenant=1".toList.map Char.toNat) =
    some ("id.example".toList.map Char.toNat) := by
  decide +kernel

section

variable {text rest : List ℕ}

lemma isHierarchical_of_notMem (hquery : '?'.toNat ∉ text) (hfragment : '#'.toNat ∉ text) :
    ∀ n ∈ text, isHierarchical n = true := by
  intro n hn
  refine decide_eq_true ⟨?_, ?_⟩
  · rintro rfl
    exact hquery hn
  · rintro rfl
    exact hfragment hn

/-- What stands before a question mark stays. -/
lemma hierarchy_append (text rest : List ℕ) :
    hierarchy (text ++ '?'.toNat :: rest) = hierarchy text := by
  rw [hierarchy, hierarchy]
  induction text with
  | nil => exact List.takeWhile_cons_of_neg (by decide)
  | cons n text ih =>
    rw [List.cons_append, List.takeWhile_cons, List.takeWhile_cons, ih]

lemma scheme_append (text rest : List ℕ) : scheme (text ++ '?'.toNat :: rest) = scheme text := by
  rw [scheme, scheme, hierarchy_append]

lemma afterScheme_append (text rest : List ℕ) :
    afterScheme (text ++ '?'.toNat :: rest) = afterScheme text := by
  rw [afterScheme, afterScheme, scheme_append, hierarchy_append]

lemma authority_append (text rest : List ℕ) : authority (text ++ '?'.toNat :: rest) = authority text := by
  rw [authority, authority, afterScheme_append]

lemma path_append (text rest : List ℕ) : path (text ++ '?'.toNat :: rest) = path text := by
  rw [path, path, afterScheme_append]

lemma query_of_notMem (hquery : '?'.toNat ∉ text) (hfragment : '#'.toNat ∉ text) : query text = none := by
  have hall : text.dropWhile isHierarchical = [] :=
    List.dropWhile_eq_nil_iff.mpr (isHierarchical_of_notMem hquery hfragment)
  rw [query, hall]

lemma query_append (hquery : '?'.toNat ∉ text) (hfragment : '#'.toNat ∉ text) (hrest : '#'.toNat ∉ rest) :
    query (text ++ '?'.toNat :: rest) = some rest := by
  have hall : ∀ n ∈ rest, decide (n ≠ '#'.toNat) = true :=
    fun n hn => decide_eq_true fun he => hrest (he ▸ hn)
  rw [query, List.dropWhile_append_of_pos (isHierarchical_of_notMem hquery hfragment),
    List.dropWhile_cons_of_neg (by decide)]
  dsimp only
  rw [if_pos rfl, List.takeWhile_eq_self_iff.mpr hall]

/-- A text that has a query keeps it in front of what is appended. -/
lemma query_append_of_mem (hquery : '?'.toNat ∈ text) (hfragment : '#'.toNat ∉ text) :
    ∃ own, query text = some own ∧ ∀ rest, '#'.toNat ∉ rest → query (text ++ rest) = some (own ++ rest) := by
  obtain ⟨before, own, rfl, hnot⟩ := List.eq_append_cons_of_mem hquery
  have hbefore : '#'.toNat ∉ before := fun h => hfragment (List.mem_append_left _ h)
  have hown : '#'.toNat ∉ own := fun h => hfragment (List.mem_append_right _ (List.mem_cons_of_mem _ h))
  refine ⟨own, query_append hnot hbefore hown, fun rest hrest => ?_⟩
  rw [List.append_assoc, List.cons_append]
  exact query_append hnot hbefore fun h => (List.mem_append.mp h).elim hown hrest

/-- What is appended to a fragment is not part of the query. -/
lemma query_append_of_fragment (hfragment : '#'.toNat ∈ text) (rest : List ℕ) :
    query (text ++ rest) = query text := by
  obtain ⟨before, behind, rfl, hnot⟩ := List.eq_append_cons_of_mem hfragment
  rw [List.append_assoc, List.cons_append]
  by_cases hquery : '?'.toNat ∈ before
  · obtain ⟨front, own, rfl, hfront⟩ := List.eq_append_cons_of_mem hquery
    have hfragmentFront : '#'.toNat ∉ front := fun h => hnot (List.mem_append_left _ h)
    have hall : ∀ n ∈ own, decide (n ≠ '#'.toNat) = true := fun n hn => decide_eq_true fun he =>
      hnot (List.mem_append_right _ (List.mem_cons_of_mem _ (he ▸ hn)))
    have hown (behind : List ℕ) :
        query (front ++ '?'.toNat :: own ++ '#'.toNat :: behind) = some own := by
      rw [query, List.append_assoc, List.cons_append,
        List.dropWhile_append_of_pos (isHierarchical_of_notMem hfront hfragmentFront),
        List.dropWhile_cons_of_neg (by decide)]
      dsimp only
      rw [if_pos rfl, List.takeWhile_append_of_pos hall, List.takeWhile_cons_of_neg (by simp),
        List.append_nil]
    rw [hown, hown]
  · have hnone (behind : List ℕ) : query (before ++ '#'.toNat :: behind) = none := by
      rw [query, List.dropWhile_append_of_pos (isHierarchical_of_notMem hquery hnot),
        List.dropWhile_cons_of_neg (by decide)]
      exact if_neg (by decide)
    rw [hnone, hnone]

end

end Pentagon5.Web.Generic
