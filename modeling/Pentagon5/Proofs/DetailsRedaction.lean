import Pentagon5.Proofs.Redaction
import Pentagon5.Runtime.Details

/-!
# Redaction of details

Nothing beneath a sensitive key reaches the result of `_safe`, and every scalar that stands beneath
none reaches it unchanged, at the corresponding path.
-/

namespace Pentagon5.Runtime

open Python

variable {κ ω : Type} {U : Unicode} {T : Texts κ ω}

section

variable (U : Unicode) (T : Texts κ ω)

mutual

/-- The same details up to what is stored beneath sensitive keys. -/
inductive Agrees : Details κ ω → Details κ ω → Prop
  | scalar (value : Scalar) : Agrees (.scalar value) (.scalar value)
  | other (value : ω) : Agrees (.other value) (.other value)
  | list {items items'} (h : AgreesItems items items') : Agrees (.list items) (.list items')
  | tuple {items items'} (h : AgreesItems items items') : Agrees (.tuple items) (.tuple items')
  | dict {entries entries'} (h : AgreesEntries entries entries') :
      Agrees (.dict entries) (.dict entries')

inductive AgreesItems : List (Details κ ω) → List (Details κ ω) → Prop
  | nil : AgreesItems [] []
  | cons {item item' items items'} (head : Agrees item item') (tail : AgreesItems items items') :
      AgreesItems (item :: items) (item' :: items')

inductive AgreesEntries : List (κ × Details κ ω) → List (κ × Details κ ω) → Prop
  | nil : AgreesEntries [] []
  | cons {item item' entries entries'} (key : κ) (head : Agrees item item')
      (tail : AgreesEntries entries entries') :
      AgreesEntries ((key, item) :: entries) ((key, item') :: entries')
  | sensitive {entries entries'} (key : κ) (item item' : Details κ ω)
      (h : isRedacted U (T.key key) = true) (tail : AgreesEntries entries entries') :
      AgreesEntries ((key, item) :: entries) ((key, item') :: entries')

end

end

mutual

lemma safe_of_agrees {value value' : Details κ ω} (h : Agrees U T value value') (key : Str) :
    safe U T value key = safe U T value' key := by
  cases h with
  | scalar value => rfl
  | other value => rfl
  | list h => rw [safe, safe, safeItems_of_agrees h]
  | tuple h => rw [safe, safe, safeItems_of_agrees h]
  | dict h => rw [safe, safe, safeEntries_of_agrees h]

lemma safeItems_of_agrees {items items' : List (Details κ ω)} (h : AgreesItems U T items items') :
    safeItems U T items = safeItems U T items' := by
  cases h with
  | nil => rfl
  | cons head tail => rw [safeItems, safeItems, safe_of_agrees head, safeItems_of_agrees tail]

lemma safeEntries_of_agrees {entries entries' : List (κ × Details κ ω)}
    (h : AgreesEntries U T entries entries') :
    safeEntries U T entries = safeEntries U T entries' := by
  cases h with
  | nil => rfl
  | cons key head tail =>
    rw [safeEntries, safeEntries, safe_of_agrees head, safeEntries_of_agrees tail]
  | sensitive key item item' h tail =>
    rw [safeEntries, safeEntries, safe_of_redacted item _ h, safe_of_redacted item' _ h,
      safeEntries_of_agrees tail]

end

/-- The keys of each dictionary have distinct texts. -/
inductive DistinctKeys (T : Texts κ ω) : Details κ ω → Prop
  | scalar (value : Scalar) : DistinctKeys T (.scalar value)
  | other (value : ω) : DistinctKeys T (.other value)
  | list {items} (h : ∀ item ∈ items, DistinctKeys T item) : DistinctKeys T (.list items)
  | tuple {items} (h : ∀ item ∈ items, DistinctKeys T item) : DistinctKeys T (.tuple items)
  | dict {entries} (hnodup : (entries.map fun e => T.key e.1).Nodup)
      (h : ∀ e ∈ entries, DistinctKeys T e.2) : DistinctKeys T (.dict entries)

lemma mem_of_lookup [DecidableEq κ] {υ : Type} {entries : List (κ × υ)} {key : κ} {item : υ}
    (h : entries.lookup key = some item) : (key, item) ∈ entries := by
  induction entries with
  | nil => cases h
  | cons e entries ih =>
    rw [List.lookup_cons] at h
    by_cases hk : key = e.1
    · simp only [hk, beq_self_eq_true] at h
      rw [hk, ← Option.some.inj h]
      exact List.mem_cons_self
    · simp only [beq_eq_false_iff_ne.mpr hk] at h
      exact List.mem_cons_of_mem _ (ih h)

lemma lookup_of_mem {entries : List (Str × Json)} (hnodup : (entries.map Prod.fst).Nodup)
    {key : Str} {item : Json} (h : (key, item) ∈ entries) : entries.lookup key = some item := by
  induction entries with
  | nil => cases h
  | cons e entries ih =>
    rw [List.map_cons, List.nodup_cons] at hnodup
    rw [List.lookup_cons]
    rcases List.mem_cons.mp h with rfl | h
    · simp
    · have hne : key ≠ e.1 := fun heq => hnodup.1 (heq ▸ List.mem_map_of_mem h)
      simp only [beq_eq_false_iff_ne.mpr hne]
      exact ih hnodup.2 h

/-- An entry of a dictionary with distinct texts is found under its text. -/
lemma lookup_safeEntries [DecidableEq κ] {entries : List (κ × Details κ ω)} {key : κ}
    {item : Details κ ω} (hnodup : (entries.map fun e => T.key e.1).Nodup)
    (h : entries.lookup key = some item) :
    (comprehension (safeEntries U T entries)).lookup (T.key key) =
      some (safe U T item (T.key key)) := by
  have hkeys : (safeEntries U T entries).map Prod.fst = entries.map fun e => T.key e.1 := by
    rw [safeEntries_eq, List.map_map]
    rfl
  rw [comprehension_of_nodup (by rwa [hkeys])]
  apply lookup_of_mem (by rwa [hkeys])
  rw [safeEntries_eq]
  exact List.mem_map_of_mem (mem_of_lookup h)

/-- A path without sensitive keys. -/
def Clear (U : Unicode) (T : Texts κ ω) (path : List (PathStep κ)) : Prop :=
  ∀ key, PathStep.key key ∈ path → isRedacted U (T.key key) = false

lemma Clear.tail {step : PathStep κ} {path : List (PathStep κ)} (h : Clear U T (step :: path)) :
    Clear U T path := fun key hm => h key (List.mem_cons_of_mem _ hm)

lemma resultAt_safe [DecidableEq κ] (hempty : isRedacted U (Str.ofString "") = false)
    {path : List (PathStep κ)} {scalar : Scalar} :
    ∀ {value : Details κ ω} {key : Str}, isRedacted U key = false → DistinctKeys T value →
      Clear U T path → value.at? path = some (.scalar scalar) →
      resultAt? (safe U T value key) (path.map (PathStep.text T)) = some scalar.json := by
  induction path with
  | nil =>
    intro value key hkey _ _ h
    rw [Details.at?] at h
    cases h
    rw [safe, redact_of _ _ hkey]
    rfl
  | cons step path ih =>
    have hitems : ∀ {items : List (Details κ ω)} {n : ℕ}, (∀ item ∈ items, DistinctKeys T item) →
        Clear U T path → (items[n]?.bind fun item => item.at? path) = some (.scalar scalar) →
        resultAt? (.list (safeItems U T items)) (.index n :: path.map (PathStep.text T)) =
          some scalar.json := by
      intro items n hdistinct hclear h
      obtain ⟨item, hget, hat⟩ := Option.bind_eq_some_iff.mp h
      rw [resultAt?, safeItems_eq, List.getElem?_map, hget]
      exact ih hempty (hdistinct item (List.mem_of_getElem? hget)) hclear hat
    intro value key hkey hdistinct hclear h
    cases hdistinct with
    | scalar value => cases step <;> cases h
    | other value => cases step <;> cases h
    | list hdistinct =>
      cases step with
      | key k => cases h
      | index n =>
        rw [safe, redact_of _ _ hkey]
        exact hitems hdistinct hclear.tail h
    | tuple hdistinct =>
      cases step with
      | key k => cases h
      | index n =>
        rw [safe, redact_of _ _ hkey]
        exact hitems hdistinct hclear.tail h
    | dict hnodup hdistinct =>
      cases step with
      | index n => cases h
      | key k =>
        obtain ⟨item, hget, hat⟩ := Option.bind_eq_some_iff.mp h
        rw [safe, redact_of _ _ hkey, List.map_cons, PathStep.text, resultAt?,
          lookup_safeEntries hnodup hget]
        exact ih (hclear k List.mem_cons_self) (hdistinct _ (mem_of_lookup hget)) hclear.tail hat

lemma isRedacted_empty (h : U.lower (Str.ofString "") = Str.ofString "") :
    isRedacted U (Str.ofString "") = false := by
  rw [isRedacted, h]
  decide

/-- What is beneath a sensitive key has no influence on the result, and with distinct texts of the keys
every scalar beneath none is found in it. The empty text is its own lower case. -/
theorem safe_redacts [DecidableEq κ] (U : Unicode) (T : Texts κ ω)
    (h : U.lower (Str.ofString "") = Str.ofString "") :
    (∀ value value', Agrees U T value value' →
      safe U T value (Str.ofString "") = safe U T value' (Str.ofString "")) ∧
    ∀ value path scalar, DistinctKeys T value → Clear U T path →
      value.at? path = some (.scalar scalar) →
      resultAt? (safe U T value (Str.ofString "")) (path.map (PathStep.text T)) = some scalar.json := by
  have hempty := isRedacted_empty h
  exact ⟨fun _ _ hagrees => safe_of_agrees hagrees _,
    fun _ _ _ hdistinct hclear hat => resultAt_safe hempty hempty hdistinct hclear hat⟩

namespace Sample

/-- Keys that are texts, and no other objects. -/
def texts : Texts String Empty := ⟨Str.ofString, Empty.elim⟩

def login (password : String) : Details String Empty :=
  .dict [("user", .dict [("name", .scalar (.str (Str.ofString "ada"))),
    ("Password", .list [.scalar (.str (Str.ofString password))])]), ("tries", .tuple [.scalar (.int 3)])]

lemma agrees_login (password password' : String) :
    Agrees ascii texts (login password) (login password') := by
  refine .dict (.cons _ (.dict (.cons _ (.scalar _) (.sensitive _ _ _ ?_ .nil)))
    (.cons _ (.tuple (.cons (.scalar _) .nil)) .nil))
  decide

lemma distinctKeys_login (password : String) : DistinctKeys texts (login password) := by
  refine .dict (by simp [texts, Str.ofString_inj]) fun e he => ?_
  rcases List.mem_cons.mp he with rfl | he
  · refine .dict (by simp [texts, Str.ofString_inj]) fun e he => ?_
    rcases List.mem_cons.mp he with rfl | he
    · exact .scalar _
    · obtain rfl := List.mem_singleton.mp he
      exact .list fun item hi => List.mem_singleton.mp hi ▸ .scalar _
  · obtain rfl := List.mem_singleton.mp he
    exact .tuple fun item hi => List.mem_singleton.mp hi ▸ .scalar _

theorem safe_redacts_login :
    safe ascii texts (login "swordfish") (Str.ofString "") = safe ascii texts (login "") (Str.ofString "") ∧
      resultAt? (safe ascii texts (login "swordfish") (Str.ofString ""))
        [.key (Str.ofString "tries"), .index 0] = some (.int 3) := by
  have h := safe_redacts ascii texts rfl
  refine ⟨h.1 _ _ (agrees_login _ _),
    h.2 _ [.key "tries", .index 0] (.int 3) (distinctKeys_login _) ?_ rfl⟩
  intro key hkey
  simp only [List.mem_cons, PathStep.key.injEq, reduceCtorEq, List.not_mem_nil, or_false] at hkey
  rw [hkey]
  decide

end Sample

end Pentagon5.Runtime
