import Pentagon5.Client.Envelopes

/-!
# The session in the TypeScript client

`sessionSchema`, which the client holds every session of the backend to. `z.string().email()` is a
parameter.
-/

namespace Pentagon5.Client

open Python Python.Json

/-- `text.length`: a code point beyond the basic plane takes two units. -/
def units (text : Str) : ℕ := (text.codes.map fun c => if 0x10000 ≤ c then 2 else 1).sum

structure ZodEmail extends Zod where
  email : Str → Bool

structure Session where
  userId : Str
  sessionId : Str
  email : Str
  displayName : Str
  roles : List Str
  permissions : List Str
  expiresAt : Str
deriving DecidableEq

/-- `z.string().min(minimum).max(maximum)`. -/
def boundedText (minimum maximum : ℕ) : Json → Option Str
  | .str text => if minimum ≤ units text ∧ units text ≤ maximum then some text else none
  | _ => none

/-- `z.string().email().max(maximum)`. -/
def emailText (z : ZodEmail) (maximum : ℕ) : Json → Option Str
  | .str text => if z.email text ∧ units text ≤ maximum then some text else none
  | _ => none

/-- `uniqueStrings`. -/
def uniqueStrings (maximum : ℕ) : Json → Option (List Str)
  | .list items => (items.mapM (boundedText 1 maximum)).bind fun values =>
    if values.Nodup then some values else none
  | _ => none

/-- `sessionSchema`. -/
def sessionSchema (z : ZodEmail) (value : Json) : Option Session := do
  let entries ← strictObject ["user_id", "session_id", "email", "display_name", "roles",
    "permissions", "expires_at"] value
  let userId ← requiredKey entries "user_id" uuidV7
  let sessionId ← requiredKey entries "session_id" uuidV7
  let email ← requiredKey entries "email" (emailText z 320)
  let displayName ← requiredKey entries "display_name" (boundedText 1 120)
  let roles ← requiredKey entries "roles" (uniqueStrings 80)
  let permissions ← requiredKey entries "permissions" (uniqueStrings 120)
  let expiresAt ← requiredKey entries "expires_at" (utcTimestamp z.toZod)
  some ⟨userId, sessionId, email, displayName, roles, permissions, expiresAt⟩

lemma length_le_units (text : Str) : text.codes.length ≤ units text := by
  rw [units]
  induction text.codes with
  | nil => exact Nat.le_refl 0
  | cons c codes ih =>
    rw [List.map_cons, List.sum_cons, List.length_cons]
    split_ifs <;> omega

lemma one_le_units {text : Str} : 1 ≤ units text ↔ text.codes ≠ [] := by
  constructor
  · intro h hnil
    rw [units, hnil] at h
    simp at h
  · intro h
    have := List.length_pos_of_ne_nil h
    have := length_le_units text
    omega

lemma ofString_codes_ne_nil {text : String} : (Str.ofString text).codes ≠ [] ↔ text ≠ "" := by
  rw [Str.ofString_codes, ne_eq, List.map_eq_nil_iff, String.toList_eq_nil_iff]

lemma mapM_boundedText {maximum : ℕ} (texts : List String) :
    (texts.map fun text : String => Json.str text).mapM (boundedText 1 maximum) =
      if ∀ text ∈ texts, text ≠ "" ∧ units text ≤ maximum then some (texts.map Str.ofString) else none := by
  induction texts with
  | nil => rfl
  | cons text texts ih =>
    rw [List.map_cons, List.mapM_cons, ih]
    simp only [boundedText, one_le_units, ofString_codes_ne_nil]
    have hcons := List.forall_mem_cons (p := fun text : String => text ≠ "" ∧ units text ≤ maximum)
      (a := text) (l := texts)
    by_cases h : text ≠ "" ∧ units text ≤ maximum
    · by_cases hall : ∀ text ∈ texts, text ≠ "" ∧ units text ≤ maximum
      · rw [if_pos h, if_pos hall, if_pos (hcons.mpr ⟨h, hall⟩)]
        rfl
      · rw [if_pos h, if_neg hall, if_neg fun htext => hall (hcons.mp htext).2]
        rfl
    · rw [if_neg h, if_neg fun htext => h (hcons.mp htext).1]
      rfl

/-- Texts pass as unique strings exactly if each of them is short enough and they differ. -/
lemma uniqueStrings_isSome {maximum : ℕ} {texts : List String} :
    (uniqueStrings maximum (.list (texts.map fun text : String => Json.str text))).isSome ↔
      (∀ text ∈ texts, text ≠ "" ∧ units text ≤ maximum) ∧ texts.Nodup := by
  rw [uniqueStrings, mapM_boundedText]
  by_cases hall : ∀ text ∈ texts, text ≠ "" ∧ units text ≤ maximum
  · rw [if_pos hall, Option.bind_some, ← List.nodup_map_iff Str.ofString_injective]
    by_cases hnodup : (texts.map Str.ofString).Nodup
    · rw [if_pos hnodup]
      exact iff_of_true rfl ⟨hall, hnodup⟩
    · rw [if_neg hnodup]
      exact iff_of_false (by simp) fun h => hnodup h.2
  · rw [if_neg hall, Option.bind_none]
    exact iff_of_false (by simp) fun h => hall h.1

end Pentagon5.Client
