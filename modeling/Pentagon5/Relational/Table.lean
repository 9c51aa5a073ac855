import Mathlib.Data.List.Basic
import Mathlib.Data.List.Nodup
import Mathlib.Data.List.Pairwise
import Mathlib.Tactic.Tauto

/-!
# Relational tables with unique constraints

`Keyed ρ` says when two rows violate a primary key or a unique constraint together. A
`Table ρ` is a list of rows, in insertion order, of which no two clash; the constraint is
part of the type, so an insert or an update that would break it has no result.
-/

namespace Pentagon5.Relational

/-- `Clash a b`: the rows agree on the columns of some unique constraint. -/
class Keyed (ρ : Type) where
  Clash : ρ → ρ → Prop
  decidableClash : DecidableRel Clash
  refl : ∀ a, Clash a a
  symm : ∀ a b, Clash a b → Clash b a

export Keyed (Clash)

instance {ρ : Type} [Keyed ρ] : DecidableRel (Clash : ρ → ρ → Prop) := Keyed.decidableClash

structure Table (ρ : Type) [Keyed ρ] where
  rows : List ρ
  distinct : rows.Pairwise (fun a b => ¬Clash a b)

/-- An update of columns on which no unique constraint depends. -/
def KeepsKeys {ρ : Type} [Keyed ρ] (f : ρ → ρ) : Prop := ∀ a b, Clash (f a) b ↔ Clash a b

namespace Table

variable {ρ : Type} [Keyed ρ] {t t' : Table ρ} {r a b : ρ} {p : ρ → Bool} {f : ρ → ρ}

instance : Membership ρ (Table ρ) := ⟨fun t r => r ∈ t.rows⟩

lemma mem_iff : r ∈ t ↔ r ∈ t.rows := Iff.rfl

instance : Inhabited (Table ρ) := ⟨⟨[], List.Pairwise.nil⟩⟩

@[simp] lemma default_rows : (default : Table ρ).rows = [] := rfl

@[simp] lemma not_mem_default : r ∉ (default : Table ρ) := List.not_mem_nil

/-- Two rows of a table that agree on a key are the same row. -/
lemma eq_of_clash (ha : a ∈ t) (hb : b ∈ t) (h : Clash a b) : a = b := by
  obtain ⟨i, hi, rfl⟩ := List.mem_iff_getElem.mp ha
  obtain ⟨j, hj, rfl⟩ := List.mem_iff_getElem.mp hb
  have hd := List.pairwise_iff_getElem.mp t.distinct
  rcases Nat.lt_trichotomy i j with hij | rfl | hij
  · exact absurd h (hd i j hi hj hij)
  · rfl
  · exact absurd (Keyed.symm _ _ h) (hd j i hj hi hij)

/-- `INSERT`: no result when the new row violates a unique constraint. -/
def insert (t : Table ρ) (r : ρ) : Option (Table ρ) :=
  if h : ∀ a ∈ t.rows, ¬Clash a r then
    some ⟨t.rows ++ [r], List.pairwise_append.mpr
      ⟨t.distinct, List.pairwise_singleton _ _, by simpa using h⟩⟩
  else none

lemma insert_eq_some :
    t.insert r = some t' ↔ (∀ a ∈ t, ¬Clash a r) ∧ t'.rows = t.rows ++ [r] := by
  unfold insert
  by_cases h : ∀ a ∈ t.rows, ¬Clash a r
  · rw [dif_pos h, Option.some_inj]
    constructor
    · rintro rfl
      exact ⟨h, rfl⟩
    · rintro ⟨-, hr⟩
      cases t'
      cases hr
      rfl
  · rw [dif_neg h]
    exact ⟨fun h' => by simp at h', fun h' => absurd h'.1 h⟩

lemma insert_eq_none : t.insert r = none ↔ ∃ a ∈ t, Clash a r := by
  unfold insert
  by_cases h : ∀ a ∈ t.rows, ¬Clash a r
  · rw [dif_pos h]
    simpa [mem_iff] using h
  · rw [dif_neg h]
    simpa [mem_iff] using h

lemma mem_insert (h : t.insert r = some t') : a ∈ t' ↔ a ∈ t ∨ a = r := by
  rw [mem_iff, (insert_eq_some.mp h).2]
  simp [mem_iff]

/-- `DELETE ... WHERE p`. -/
def delete (t : Table ρ) (p : ρ → Bool) : Table ρ :=
  ⟨t.rows.filter (fun r => !p r), t.distinct.filter _⟩

@[simp] lemma delete_rows : (t.delete p).rows = t.rows.filter (fun r => !p r) := rfl

@[simp] lemma mem_delete : a ∈ t.delete p ↔ a ∈ t ∧ p a = false := by
  simp [mem_iff]

/-- `UPDATE ... SET f WHERE p` of columns that no unique constraint covers. -/
def modify (t : Table ρ) (p : ρ → Bool) (f : ρ → ρ) (hf : KeepsKeys f) : Table ρ where
  rows := t.rows.map (fun r => if p r then f r else r)
  distinct := by
    rw [List.pairwise_map]
    refine t.distinct.imp fun {a b} hab h => hab ?_
    have left : ∀ x, Clash (if p a then f a else a) x ↔ Clash a x := by
      intro x
      by_cases ha : p a = true
      · simpa [ha] using hf a x
      · simp [ha]
    have right : ∀ x, Clash (if p b then f b else b) x ↔ Clash b x := by
      intro x
      by_cases hb : p b = true
      · simpa [hb] using hf b x
      · simp [hb]
    exact Keyed.symm _ _ ((right a).mp (Keyed.symm _ _ ((left _).mp h)))

@[simp] lemma modify_rows (hf : KeepsKeys f) :
    (t.modify p f hf).rows = t.rows.map (fun r => if p r then f r else r) := rfl

lemma mem_modify (hf : KeepsKeys f) :
    a ∈ t.modify p f hf ↔ ∃ r ∈ t, (if p r then f r else r) = a := by
  simp [mem_iff]

/-- `UPDATE ... SET f WHERE p` of keyed columns: no result when a constraint is violated. -/
def tryModify (t : Table ρ) (p : ρ → Bool) (f : ρ → ρ) : Option (Table ρ) :=
  if h : (t.rows.map (fun r => if p r then f r else r)).Pairwise (fun a b => ¬Clash a b) then
    some ⟨_, h⟩
  else none

lemma tryModify_eq_some : t.tryModify p f = some t' ↔
    t'.rows = t.rows.map (fun r => if p r then f r else r) := by
  unfold tryModify
  by_cases h : (t.rows.map (fun r => if p r then f r else r)).Pairwise (fun a b => ¬Clash a b)
  · rw [dif_pos h, Option.some_inj]
    constructor
    · rintro rfl
      rfl
    · intro hr
      cases t'
      cases hr
      rfl
  · rw [dif_neg h]
    exact ⟨fun h' => by simp at h', fun hr => absurd (hr ▸ t'.distinct) h⟩

lemma tryModify_congr {q : ρ → Bool} {g : ρ → ρ}
    (h : ∀ a ∈ t, (if p a then f a else a) = if q a then g a else a) : t.tryModify p f = t.tryModify q g := by
  have hrows : t.rows.map (fun r => if p r then f r else r) = t.rows.map (fun r => if q r then g r else r) :=
    List.map_congr_left h
  unfold tryModify
  simp only [hrows]

/-- An update that changes no row is accepted. -/
lemma tryModify_of_forall (h : ∀ a ∈ t, p a = false) : t.tryModify p f = some t := by
  rw [tryModify_eq_some]
  exact (List.map_congr_left fun a ha => by simp [h a ha]).trans (List.map_id _) |>.symm

lemma mem_tryModify (h : t.tryModify p f = some t') :
    a ∈ t' ↔ ∃ r ∈ t, (if p r then f r else r) = a := by
  rw [mem_iff, tryModify_eq_some.mp h]
  simp [mem_iff]

/-- An update is accepted when no two different rows clash after it. -/
lemma tryModify_isSome : (t.tryModify p f).isSome ↔ ∀ a ∈ t, ∀ b ∈ t, a ≠ b →
    ¬Clash (if p a then f a else a) (if p b then f b else b) := by
  have hnodup : t.rows.Nodup := t.distinct.imp fun hab heq => hab (by rw [heq]; exact Keyed.refl _)
  have hsymm : Std.Symm fun a b : ρ => ¬Clash (if p a then f a else a) (if p b then f b else b) :=
    ⟨fun _ _ hno h => hno (Keyed.symm _ _ h)⟩
  unfold tryModify
  split
  · next h =>
    rw [List.pairwise_map] at h
    simpa [mem_iff] using fun a ha b hb => h.forall (a := a) ha (b := b) hb
  · next h =>
    rw [List.pairwise_map] at h
    simpa [mem_iff] using fun hall => h (hnodup.pairwise_of_forall_ne hall)

/-- The first row that satisfies `p`. -/
def find (t : Table ρ) (p : ρ → Bool) : Option ρ := t.rows.find? p

lemma find_eq_some (h : t.find p = some r) : r ∈ t ∧ p r = true :=
  ⟨List.mem_of_find?_eq_some h, List.find?_some h⟩

lemma find_eq_none : t.find p = none ↔ ∀ a ∈ t, p a = false := by
  simp [find, mem_iff]

/-- A selection by a key finds the only row with that key. -/
lemma find_of_mem (hr : r ∈ t) (hp : p r = true) (hu : ∀ a ∈ t, p a = true → Clash a r) :
    t.find p = some r := by
  cases h : t.find p with
  | none => simp [find_eq_none.mp h r hr] at hp
  | some a =>
    obtain ⟨ha, hpa⟩ := find_eq_some h
    rw [eq_of_clash ha hr (hu a ha hpa)]

/-- `t'` has one more row than `t`. -/
structure Inserted (t : Table ρ) (r : ρ) (t' : Table ρ) : Prop where
  mem : ∀ a, a ∈ t' ↔ a ∈ t ∨ a = r
  fresh : ∀ a ∈ t, ¬Clash a r

/-- `t'` has one row less than `t`. -/
structure Removed (t : Table ρ) (r : ρ) (t' : Table ρ) : Prop where
  old : r ∈ t
  mem : ∀ a, a ∈ t' ↔ a ∈ t ∧ a ≠ r

/-- `t'` has the row `f a` in place of every row `a` of `t`. -/
def Mapped (t : Table ρ) (f : ρ → ρ) (t' : Table ρ) : Prop := ∀ a, a ∈ t' ↔ ∃ r ∈ t, f r = a

lemma Inserted.old (h : t.Inserted r t') (ha : a ∈ t) : a ∈ t' := (h.mem a).mpr (.inl ha)

lemma Inserted.new (h : t.Inserted r t') : r ∈ t' := (h.mem r).mpr (.inr rfl)

lemma Mapped.image (h : t.Mapped f t') (ha : a ∈ t) : f a ∈ t' := (h (f a)).mpr ⟨a, ha, rfl⟩

lemma inserted_of_insert (h : t.insert r = some t') : t.Inserted r t' :=
  ⟨fun _ => mem_insert h, (insert_eq_some.mp h).1⟩

/-- A deletion by a key removes the only row with that key. -/
lemma removed_of_delete (hr : r ∈ t) (hp : p r = true) (hu : ∀ a ∈ t, p a = true → Clash a r) :
    t.Removed r (t.delete p) := by
  refine ⟨hr, fun a => ?_⟩
  rw [mem_delete]
  refine and_congr_right fun ha => ⟨?_, fun hne => ?_⟩
  · rintro hpa rfl
    simp [hp] at hpa
  · by_contra hpa
    exact hne (eq_of_clash ha hr (hu a ha (by simpa using hpa)))

lemma delete_of_forall (h : ∀ a ∈ t, p a = false) : t.delete p = t := by
  have : t.rows.filter (fun r => !p r) = t.rows :=
    List.filter_eq_self.mpr fun a ha => by simp [h a ha]
  cases t
  simpa [delete] using this

lemma mapped_modify (hf : KeepsKeys f) : t.Mapped (fun a => if p a then f a else a)
    (t.modify p f hf) := fun _ => mem_modify hf

lemma Mapped.congr {g : ρ → ρ} (h : t.Mapped f t') (hfg : ∀ a ∈ t, f a = g a) : t.Mapped g t' := by
  intro a
  rw [h a]
  exact exists_congr fun r => and_congr_right fun hr => by rw [hfg r hr]

lemma mapped_tryModify (h : t.tryModify p f = some t') :
    t.Mapped (fun a => if p a then f a else a) t' := fun _ => mem_tryModify h

lemma find_isSome : (t.find p).isSome ↔ ∃ r ∈ t, p r = true := by
  simp [find, mem_iff]

/-- `p` selects the rows with one value of a key. -/
def Selects (p : ρ → Bool) : Prop := ∀ a b, p a = true → p b = true → Clash a b

lemma Inserted.find_isSome (h : t.Inserted r t') (hp : Selects p) :
    (t'.find p).isSome.toNat = (t.find p).isSome.toNat + (p r).toNat := by
  by_cases hr : p r = true
  · have hold : (t.find p).isSome = false := by
      rw [Bool.eq_false_iff, ne_eq, Table.find_isSome]
      rintro ⟨a, ha, hpa⟩
      exact h.fresh a ha (hp a r hpa hr)
    have hnew : (t'.find p).isSome = true := Table.find_isSome.mpr ⟨r, h.new, hr⟩
    rw [hold, hnew, hr]
    rfl
  · have hsame : (t'.find p).isSome = (t.find p).isSome := by
      rw [Bool.eq_iff_iff, Table.find_isSome, Table.find_isSome]
      constructor
      · rintro ⟨a, ha, hpa⟩
        rcases (h.mem a).mp ha with hold | rfl
        · exact ⟨a, hold, hpa⟩
        · exact absurd hpa hr
      · rintro ⟨a, ha, hpa⟩
        exact ⟨a, h.old ha, hpa⟩
    simp [hsame, hr]

lemma Removed.find_isSome (h : t.Removed r t') (hp : Selects p) :
    (p r).toNat + (t'.find p).isSome.toNat = (t.find p).isSome.toNat := by
  by_cases hr : p r = true
  · have hold : (t.find p).isSome = true := Table.find_isSome.mpr ⟨r, h.old, hr⟩
    have hnew : (t'.find p).isSome = false := by
      rw [Bool.eq_false_iff, ne_eq, Table.find_isSome]
      rintro ⟨a, ha, hpa⟩
      obtain ⟨hmem, hne⟩ := (h.mem a).mp ha
      exact hne (eq_of_clash hmem h.old (hp a r hpa hr))
    rw [hold, hnew, hr]
    rfl
  · have hsame : (t'.find p).isSome = (t.find p).isSome := by
      rw [Bool.eq_iff_iff, Table.find_isSome, Table.find_isSome]
      constructor
      · rintro ⟨a, ha, hpa⟩
        exact ⟨a, ((h.mem a).mp ha).1, hpa⟩
      · rintro ⟨a, ha, hpa⟩
        exact ⟨a, (h.mem a).mpr ⟨ha, by rintro rfl; exact hr hpa⟩, hpa⟩
    simp [hsame, hr]

end Table

end Pentagon5.Relational
