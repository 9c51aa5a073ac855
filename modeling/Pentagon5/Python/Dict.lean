import Mathlib.Algebra.BigOperators.Group.List.Basic
import Mathlib.Algebra.Group.Basic
import Mathlib.Data.List.Basic
import Mathlib.Data.List.Nodup
import Mathlib.Data.List.Sort
import Mathlib.Tactic.Abel

/-!
# Python dictionaries

A `dict` keeps its items in insertion order and holds every key once. Assigning to a key it
has leaves the item in its place, a new key goes to the end, and `del` closes the gap.
-/

namespace Pentagon5.Python

/-- A `dict` by its items. -/
structure Dict (κ υ : Type) where
  items : List (κ × υ)
  nodup : (items.map Prod.fst).Nodup

namespace Dict

variable {κ υ : Type}

@[ext] lemma ext {d e : Dict κ υ} (h : d.items = e.items) : d = e := by
  cases d
  cases e
  congr

def empty : Dict κ υ := ⟨[], List.nodup_nil⟩

@[simp] lemma empty_items : (empty : Dict κ υ).items = [] := rfl

def keys (d : Dict κ υ) : List κ := d.items.map Prod.fst

def values (d : Dict κ υ) : List υ := d.items.map Prod.snd

variable [DecidableEq κ]

/-- `d.get(key)`. -/
def get (d : Dict κ υ) (key : κ) : Option υ := (d.items.find? (·.1 = key)).map Prod.snd

def assign : List (κ × υ) → κ → υ → List (κ × υ)
  | [], key, value => [(key, value)]
  | item :: items, key, value =>
    if item.1 = key then (key, value) :: items else item :: assign items key value

lemma mem_assign_keys {items : List (κ × υ)} {key a : κ} {value : υ} :
    a ∈ (assign items key value).map Prod.fst ↔ a = key ∨ a ∈ items.map Prod.fst := by
  induction items with
  | nil => simp [assign]
  | cons item items ih =>
    unfold assign
    split
    · next h => simp [h]
    · rw [List.map_cons, List.mem_cons, ih, List.map_cons, List.mem_cons]
      tauto

lemma nodup_assign {items : List (κ × υ)} (h : (items.map Prod.fst).Nodup) (key : κ) (value : υ) :
    ((assign items key value).map Prod.fst).Nodup := by
  induction items with
  | nil => simp [assign]
  | cons item items ih =>
    rw [List.map_cons, List.nodup_cons] at h
    unfold assign
    split
    · next hk => simpa [← hk] using h
    · next hk =>
      rw [List.map_cons, List.nodup_cons]
      refine ⟨fun hm => ?_, ih h.2⟩
      rcases mem_assign_keys.mp hm with he | hm
      · exact hk he
      · exact h.1 hm

/-- `d[key] = value`. -/
def set (d : Dict κ υ) (key : κ) (value : υ) : Dict κ υ :=
  ⟨assign d.items key value, nodup_assign d.nodup key value⟩

/-- `del d[key]`. -/
def erase (d : Dict κ υ) (key : κ) : Dict κ υ :=
  ⟨d.items.filter (·.1 ≠ key), d.nodup.sublist (List.filter_sublist.map Prod.fst)⟩

@[simp] lemma get_empty (key : κ) : (empty : Dict κ υ).get key = none := rfl

lemma get_eq_some {d : Dict κ υ} {key : κ} {value : υ} :
    d.get key = some value ↔ (key, value) ∈ d.items := by
  unfold get
  constructor
  · intro h
    obtain ⟨item, hf, rfl⟩ := Option.map_eq_some_iff.mp h
    obtain rfl : item.1 = key := by simpa using List.find?_some hf
    exact List.mem_of_find?_eq_some hf
  · intro hm
    rcases hf : d.items.find? (·.1 = key) with _ | item
    · simpa using List.find?_eq_none.mp hf _ hm
    · have hk : item.1 = key := by simpa using List.find?_some hf
      have := List.inj_on_of_nodup_map d.nodup (List.mem_of_find?_eq_some hf) hm hk
      rw [hf, this]
      rfl

lemma get_eq_none {d : Dict κ υ} {key : κ} : d.get key = none ↔ key ∉ d.keys := by
  simp only [get, keys, Option.map_eq_none_iff, List.find?_eq_none, decide_eq_true_eq,
    List.mem_map, not_exists, not_and]

lemma mem_keys {d : Dict κ υ} {key : κ} : key ∈ d.keys ↔ (d.get key).isSome := by
  rw [← not_iff_not, ← get_eq_none]
  simp

lemma mem_values {d : Dict κ υ} {value : υ} : value ∈ d.values ↔ ∃ key, d.get key = some value := by
  simp [values, get_eq_some]

@[simp] lemma get_set_self (d : Dict κ υ) (key : κ) (value : υ) :
    (d.set key value).get key = some value := by
  rw [get_eq_some]
  simp only [set]
  generalize d.items = items
  induction items with
  | nil => simp [assign]
  | cons item items ih =>
    unfold assign
    split
    · exact List.mem_cons_self
    · exact List.mem_cons_of_mem _ ih

lemma get_set_of_ne (d : Dict κ υ) {key a : κ} (value : υ) (h : a ≠ key) :
    (d.set key value).get a = d.get a := by
  simp only [get, set]
  generalize d.items = items
  induction items with
  | nil => simp [assign, h.symm]
  | cons item items ih =>
    unfold assign
    split
    · next hk =>
      have hn : ¬item.1 = a := fun he => h (he.symm.trans hk)
      simp [h.symm, hn]
    · by_cases ha : item.1 = a
      · simp [ha]
      · simpa [ha] using ih

@[simp] lemma get_erase_self (d : Dict κ υ) (key : κ) : (d.erase key).get key = none := by
  rw [get_eq_none]
  simp [keys, erase]

lemma get_erase_of_ne (d : Dict κ υ) {key a : κ} (h : a ≠ key) :
    (d.erase key).get a = d.get a := by
  apply Option.ext
  intro value
  rw [get_eq_some, get_eq_some]
  simp [erase, h]

/-- A key that is new goes to the end. -/
lemma items_set_of_new {d : Dict κ υ} {key : κ} (value : υ) (h : d.get key = none) :
    (d.set key value).items = d.items ++ [(key, value)] := by
  rw [get_eq_none, keys] at h
  simp only [set]
  generalize d.items = items at h
  induction items with
  | nil => rfl
  | cons item items ih =>
    simp only [List.map_cons, List.mem_cons, not_or] at h
    rw [assign, if_neg (fun he => h.1 he.symm), ih h.2]
    rfl

section Sums

variable {M : Type} [AddCommGroup M]

def contribution (f : υ → M) (value : Option υ) : M := (value.map f).getD 0

@[simp] lemma contribution_none (f : υ → M) : contribution f none = 0 := rfl

@[simp] lemma contribution_some (f : υ → M) (value : υ) : contribution f (some value) = f value := rfl

/-- An assignment replaces what the key contributed to a sum. -/
lemma sum_set (f : υ → M) (d : Dict κ υ) (key : κ) (value : υ) :
    ((d.set key value).values.map f).sum =
      (d.values.map f).sum - contribution f (d.get key) + f value := by
  simp only [values, set, get]
  generalize d.items = items
  induction items with
  | nil => simp [assign]
  | cons item items ih =>
    unfold assign
    split
    · next hk => simp [hk]; abel
    · next hk =>
      simp only [List.map_cons, List.sum_cons, ih, hk, decide_false, Bool.false_eq_true,
        not_false_eq_true, List.find?_cons_of_neg]
      abel

lemma sum_erase (f : υ → M) (d : Dict κ υ) (key : κ) :
    ((d.erase key).values.map f).sum = (d.values.map f).sum - contribution f (d.get key) := by
  obtain ⟨items, hd⟩ := d
  simp only [values, erase, get]
  induction items with
  | nil => simp
  | cons item items ih =>
    rw [List.map_cons, List.nodup_cons] at hd
    by_cases hk : item.1 = key
    · have hrest : items.filter (·.1 ≠ key) = items := by
        rw [List.filter_eq_self]
        intro a ha
        have : a.1 ≠ key := fun he => hd.1 (by rw [hk, ← he]; exact List.mem_map_of_mem ha)
        simpa using this
      rw [List.filter_cons_of_neg (by simp [hk]), hrest, List.find?_cons_of_pos (by simp [hk])]
      simp
    · have := ih hd.2
      simp only [ne_eq] at this
      simp only [hk, ne_eq, not_false_eq_true, decide_true, List.filter_cons_of_pos, List.map_cons,
        List.sum_cons, this, decide_false, Bool.false_eq_true, List.find?_cons_of_neg]
      abel

end Sums

variable [LinearOrder κ]

def sortedKeys (d : Dict κ υ) : List κ := d.keys.insertionSort (· ≤ ·)

/-- `tuple(d[key] for key in sorted(d))`. -/
def sortedValues (d : Dict κ υ) : List υ := d.sortedKeys.filterMap d.get

lemma mem_sortedKeys {d : Dict κ υ} {key : κ} : key ∈ d.sortedKeys ↔ (d.get key).isSome := by
  rw [sortedKeys, List.mem_insertionSort, mem_keys]

omit [DecidableEq κ] in
lemma sortedKeys_strict (d : Dict κ υ) : d.sortedKeys.Pairwise (· < ·) := by
  have hle : d.sortedKeys.Pairwise (· ≤ ·) := List.pairwise_insertionSort _ _
  have hne : d.sortedKeys.Nodup := (List.perm_insertionSort _ _).nodup_iff.mpr d.nodup
  exact (hle.and hne).imp fun h => lt_of_le_of_ne h.1 h.2

/-- No key of a dictionary lacks a value, so the sorted values follow the sorted keys. -/
lemma map_sortedValues {d : Dict κ υ} {f : υ → κ}
    (hf : ∀ key value, d.get key = some value → f value = key) :
    d.sortedValues.map f = d.sortedKeys := by
  have hall : ∀ keys : List κ, (∀ key ∈ keys, (d.get key).isSome) →
      (keys.filterMap d.get).map f = keys := by
    intro keys
    induction keys with
    | nil => intro _; rfl
    | cons key keys ih =>
      intro h
      obtain ⟨value, hv⟩ := Option.isSome_iff_exists.mp (h key List.mem_cons_self)
      rw [List.filterMap_cons_some hv, List.map_cons, hf key value hv,
        ih fun a ha => h a (List.mem_cons_of_mem _ ha)]
  exact hall _ fun key hk => mem_sortedKeys.mp hk

lemma sortedValues_strict {d : Dict κ υ} {f : υ → κ}
    (hf : ∀ key value, d.get key = some value → f value = key) :
    d.sortedValues.Pairwise (fun a b => f a < f b) := by
  rw [← List.pairwise_map, map_sortedValues hf]
  exact d.sortedKeys_strict

end Dict

end Pentagon5.Python
