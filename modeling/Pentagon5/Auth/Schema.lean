import Pentagon5.Auth.Models
import Pentagon5.Relational.Table

/-!
# The identity schema

One row type for each table of the `identity` schema, with the columns that the service reads
or writes, and the primary keys and unique constraints that `Table` enforces. The values
admitted by a `CHECK` constraint are an enumeration.
-/

namespace Pentagon5.Auth

open Python Relational

/-- `ck_users_status`. -/
inductive UserStatus where
  | active
  | disabled
  | deleted
deriving DecidableEq

/-- `ck_websocket_tickets_channel`. -/
inductive Channel where
  | systemHealth
  | sessionEvents
deriving DecidableEq

def Channel.text : Channel → String
  | systemHealth => "system.health"
  | sessionEvents => "session.events"

def Channel.ofText (text : String) : Option Channel :=
  if text = "system.health" then some systemHealth
  else if text = "session.events" then some sessionEvents
  else none

lemma Channel.ofText_eq_some {text : String} {c : Channel} :
    Channel.ofText text = some c ↔ c.text = text := by
  unfold Channel.ofText
  cases c <;> split <;> simp_all [Channel.text, eq_comm]

/-- A value of a `VARCHAR(n)` column. -/
abbrev Varchar (n : ℕ) := { text : String // text.length ≤ n }

/-- The column holds the text as it is, or without the spaces over its limit. -/
def Varchar.Holds {n : ℕ} (value : Varchar n) (text : Str) : Prop :=
  ∃ k, text = Str.ofString (value ++ String.ofList (List.replicate k ' ')) ∧ (k = 0 ∨ value.val.length = n)

/-- A text within the limit is held as it is. -/
lemma Varchar.Holds.eq_of_length {n : ℕ} {value : Varchar n} {text : Str} (h : value.Holds text)
    (hlength : text.codes.length ≤ n) : text = (value : String) := by
  obtain ⟨k, rfl, rfl | hn⟩ := h
  · simp
  · rw [← String.length_toList] at hn
    simp only [Str.ofString_codes, String.toList_append, String.toList_ofList, List.length_map, List.length_append,
      List.length_replicate] at hlength
    obtain rfl : k = 0 := by omega
    simp

lemma Varchar.holds_self {n : ℕ} (value : Varchar n) : value.Holds (value : String) := by
  refine ⟨0, ?_, .inl rfl⟩
  simp

structure UserRow where
  id : Uuid
  email : Varchar 320
  displayName : Varchar 120
  status : UserStatus
deriving DecidableEq

structure RoleRow where
  id : Uuid
  name : String
deriving DecidableEq

structure PermissionRow where
  id : Uuid
  code : String
deriving DecidableEq

structure UserRoleRow where
  userId : Uuid
  roleId : Uuid
deriving DecidableEq

structure RolePermissionRow where
  roleId : Uuid
  permissionId : Uuid
deriving DecidableEq

structure DeviceRow where
  id : Uuid
  userId : Uuid
  deviceKey : String
  platform : String
  lastSeenAt : Option Timestamp
  revokedAt : Option Timestamp
  createdAt : Timestamp
deriving DecidableEq

structure SessionRow where
  id : Uuid
  userId : Uuid
  deviceId : Option Uuid
  tokenFingerprint : String
  expiresAt : Timestamp
  revokedAt : Option Timestamp
deriving DecidableEq

structure IdentityRow where
  id : Uuid
  userId : Uuid
  issuer : Varchar 512
  subject : Varchar 512
deriving DecidableEq

structure FlowRow where
  id : Uuid
  stateFingerprint : String
  encryptedPayload : String
  redirectUri : String
  expiresAt : Timestamp
deriving DecidableEq

structure GrantRow where
  id : Uuid
  codeFingerprint : String
  encryptedPayload : String
  expiresAt : Timestamp
deriving DecidableEq

structure TicketRow where
  id : Uuid
  ticketFingerprint : String
  sessionId : Uuid
  channel : Channel
  expiresAt : Timestamp
deriving DecidableEq

structure EventRow where
  id : Uuid
  sessionId : Option Uuid
  userId : Uuid
  eventType : String
  payload : String
deriving DecidableEq

/-- Rows that agree in one of two keys. -/
abbrev keyedBy {ρ κ₁ κ₂ : Type} [DecidableEq κ₁] [DecidableEq κ₂] (key₁ : ρ → κ₁) (key₂ : ρ → κ₂) :
    Keyed ρ where
  Clash a b := key₁ a = key₁ b ∨ key₂ a = key₂ b
  decidableClash _ _ := inferInstanceAs (Decidable (_ ∨ _))
  refl _ := .inl rfl
  symm _ _ h := h.imp Eq.symm Eq.symm

instance : Keyed UserRow := keyedBy UserRow.id UserRow.email
instance : Keyed RoleRow := keyedBy RoleRow.id RoleRow.name
instance : Keyed PermissionRow := keyedBy PermissionRow.id PermissionRow.code
instance : Keyed UserRoleRow := keyedBy id id
instance : Keyed RolePermissionRow := keyedBy id id
instance : Keyed DeviceRow := keyedBy DeviceRow.id (fun r => (r.userId, r.deviceKey))
instance : Keyed SessionRow := keyedBy SessionRow.id SessionRow.tokenFingerprint
instance : Keyed IdentityRow := keyedBy IdentityRow.id (fun r => (r.issuer, r.subject))
instance : Keyed FlowRow := keyedBy FlowRow.id FlowRow.stateFingerprint
instance : Keyed GrantRow := keyedBy GrantRow.id GrantRow.codeFingerprint
instance : Keyed TicketRow := keyedBy TicketRow.id TicketRow.ticketFingerprint
instance : Keyed EventRow := keyedBy EventRow.id EventRow.id

/-- The tables of the `identity` schema. -/
structure Store where
  users : Table UserRow
  roles : Table RoleRow
  permissions : Table PermissionRow
  userRoles : Table UserRoleRow
  rolePermissions : Table RolePermissionRow
  devices : Table DeviceRow
  sessions : Table SessionRow
  identities : Table IdentityRow
  flows : Table FlowRow
  grants : Table GrantRow
  tickets : Table TicketRow
  events : Table EventRow
deriving Inhabited

end Pentagon5.Auth
