import Pentagon5.Contracts.Message

/-!
# The session contract

The definition of a session in `auth.schema.json`. The `email` format is a parameter.
-/

namespace Pentagon5.Contracts

open Python Python.Json JsonSchema

/-- `type: string` with `minLength` and `maxLength`, which count characters. -/
def text (minimum maximum : ℕ) : Schema :=
  string fun s => minimum ≤ s.codes.length ∧ s.codes.length ≤ maximum

/-- `type: array` of texts with `uniqueItems`. -/
def uniqueTexts (maximum : ℕ) : Schema := fun value =>
  ∃ items, value = .list items ∧ (∀ item ∈ items, text 1 maximum item) ∧ items.Nodup

/-- `#/$defs/session` -/
def Session (isEmail : Str → Prop) : Schema := object fun session =>
  Required session "user_id" UuidV7 ∧ Required session "session_id" UuidV7 ∧
    Required session "email" (string fun s => isEmail s ∧ s.codes.length ≤ 320) ∧
    Required session "display_name" (text 1 120) ∧ Required session "roles" (uniqueTexts 80) ∧
    Required session "permissions" (uniqueTexts 120) ∧ Required session "expires_at" UtcTimestamp ∧
    Closed session ["user_id", "session_id", "email", "display_name", "roles", "permissions", "expires_at"]

end Pentagon5.Contracts
