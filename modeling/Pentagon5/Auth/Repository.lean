import Pentagon5.Auth.Schema
import Mathlib.Data.List.Sort
import Mathlib.Data.String.Basic

/-!
# The PostgreSQL repository

Every method is one transaction: a function from the store it finds to its result and the
store it commits, or to the exception after which the store is as before. The values of
`uuid7()` and of the column default `now()` are arguments.
-/

namespace Pentagon5.Auth

open Python Relational

namespace Store

/-- `INSERT` of one row; a violated unique constraint raises `IntegrityError`. -/
def insertRow {ρ : Type} [Keyed ρ] (t : Table ρ) (r : ρ) : Except PyError (Table ρ) :=
  match t.insert r with
  | some t => .ok t
  | none => .error .integrityError

/-- A foreign key: the referenced row has to be there. -/
def references {ρ : Type} [Keyed ρ] (t : Table ρ) (p : ρ → Bool) : Except PyError Unit :=
  if (t.find p).isSome then .ok () else .error .integrityError

/-- The value that a `VARCHAR(n)` column takes from a text. Characters over the limit are cut off if all
of them are spaces, and are an error otherwise. -/
def varchar (n : ℕ) (text : String) : Except PyError (Varchar n) :=
  if ((chars text).drop n).all (· = ' ') then .ok ⟨ofChars ((chars text).take n), by simp⟩
  else .error .dataError

/-- A text parameter; PostgreSQL has no text with a NUL character. -/
def parameter (text : Str) : Except PyError String :=
  match text.encode? with
  | none => .error .unicodeEncodeError
  | some text => if '\x00' ∈ chars text then .error .dataError else .ok text

lemma bind_ok {ε α β : Type} {x : Except ε α} {f : α → Except ε β} {b : β}
    (h : (x >>= f) = .ok b) : ∃ a, x = .ok a ∧ f a = .ok b := by
  cases x with
  | ok a => exact ⟨a, rfl, h⟩
  | error e => cases h

lemma insertRow_ok {ρ : Type} [Keyed ρ] {t t' : Table ρ} {r : ρ} (h : insertRow t r = .ok t') :
    t.Inserted r t' := by
  unfold insertRow at h
  split at h
  · next hr =>
    cases h
    exact Table.inserted_of_insert hr
  · cases h

lemma references_ok {ρ : Type} [Keyed ρ] {t : Table ρ} {p : ρ → Bool} {u : Unit}
    (h : references t p = .ok u) : ∃ r ∈ t, p r = true := by
  unfold references at h
  split at h
  · next hr => exact Table.find_isSome.mp hr
  · cases h

lemma parameter_ok {text : Str} {t : String} (h : parameter text = .ok t) : text = t := by
  unfold parameter at h
  split at h
  · cases h
  · next henc =>
    split at h
    · cases h
    · cases h
      exact Str.encode?_eq_some.mp henc

lemma holds_iff {n : ℕ} {value : Varchar n} {text : String} : value.Holds text ↔
    value.val.toList = text.toList.take n ∧ ∀ c ∈ text.toList.drop n, c = ' ' := by
  have hvalue : value.val.toList.length ≤ n := by simpa [String.length_toList] using value.property
  have hchars : ∀ k, Str.ofString text = Str.ofString (value ++ String.ofList (List.replicate k ' ')) ↔
      text.toList = value.val.toList ++ List.replicate k ' ' := by
    intro k
    rw [Str.ofString_inj, ← String.toList_inj, String.toList_append, String.toList_ofList]
  unfold Varchar.Holds
  simp only [hchars, ← String.length_toList]
  constructor
  · rintro ⟨k, htext, rfl | hn⟩
    · rw [List.replicate_zero, List.append_nil] at htext
      rw [htext, List.take_of_length_le hvalue, List.drop_of_length_le hvalue]
      exact ⟨rfl, fun c hc => absurd hc List.not_mem_nil⟩
    · rw [htext, List.take_left' hn, List.drop_left' hn]
      exact ⟨rfl, fun c hc => List.eq_of_mem_replicate hc⟩
  · rintro ⟨htake, hspaces⟩
    refine ⟨(text.toList.drop n).length, ?_, ?_⟩
    · rw [← List.eq_replicate_of_mem hspaces, htake, List.take_append_drop]
    · rw [htake, List.length_drop, List.length_take]
      omega

lemma varchar_eq_ok {n : ℕ} {text : String} {value : Varchar n} :
    varchar n text = .ok value ↔ value.Holds text := by
  rw [holds_iff]
  unfold varchar
  rw [← chars_eq text]
  split
  · next hspaces =>
    simp only [List.all_eq_true, decide_eq_true_eq] at hspaces
    constructor
    · intro h
      obtain rfl := Except.ok.inj h
      exact ⟨by simp, hspaces⟩
    · rintro ⟨htake, -⟩
      refine congrArg Except.ok (Subtype.ext ?_)
      dsimp only
      rw [ofChars_eq, ← htake, String.ofList_toList]
  · next hspaces =>
    simp only [List.all_eq_true, decide_eq_true_eq] at hspaces
    exact iff_of_false (by simp) fun h => hspaces h.2

/-- A column holds a text as one value. -/
lemma holds_unique {n : ℕ} {value value' : Varchar n} {text : Str} (h : value.Holds text)
    (h' : value'.Holds text) : value = value' := by
  obtain ⟨text, rfl⟩ : ∃ t : String, text = t := ⟨_, h.choose_spec.1⟩
  exact Except.ok.inj ((varchar_eq_ok.mpr h).symm.trans (varchar_eq_ok.mpr h'))

end Store

open Store

namespace PostgresAuthRepository

def putFlow (uuid7 : ℕ → Uuid) (s : Store) (fingerprint encryptedPayload redirectUri : String)
    (expiresAt : Timestamp) : Except PyError (Unit × Store) := do
  let flows ← insertRow s.flows ⟨uuid7 0, fingerprint, encryptedPayload, redirectUri, expiresAt⟩
  return ((), { s with flows })

def consumeFlow (s : Store) (fingerprint : String) (now : Timestamp) : Option Flow × Store :=
  let consumed (r : FlowRow) : Bool := r.stateFingerprint = fingerprint ∧ now < r.expiresAt
  ((s.flows.find consumed).map fun r => ⟨r.encryptedPayload, r.redirectUri⟩,
    { s with flows := s.flows.delete consumed })

def putLoginGrant (uuid7 : ℕ → Uuid) (s : Store) (fingerprint encryptedPayload : String)
    (expiresAt : Timestamp) : Except PyError (Unit × Store) := do
  let grants ← insertRow s.grants ⟨uuid7 0, fingerprint, encryptedPayload, expiresAt⟩
  return ((), { s with grants })

def consumeLoginGrant (s : Store) (fingerprint : String) (now : Timestamp) :
    Option String × Store :=
  let consumed (r : GrantRow) : Bool := r.codeFingerprint = fingerprint ∧ now < r.expiresAt
  ((s.grants.find consumed).map GrantRow.encryptedPayload,
    { s with grants := s.grants.delete consumed })

/-- The first statement of `provision_identity`: the user linked to an identity. -/
def selectIdentity (identities : Table IdentityRow) (identity : Identity) :
    Except PyError (Option Uuid) := do
  let subject ← parameter identity.subject
  return (identities.find fun r => r.issuer = identity.issuer ∧ r.subject = subject).map
    IdentityRow.userId

def insertUser (users : Table UserRow) (id : Uuid) (identity : Identity) :
    Except PyError (Table UserRow) := do
  let email ← parameter identity.email
  let displayName ← parameter identity.displayName
  let email ← varchar 320 email
  let displayName ← varchar 120 displayName
  insertRow users ⟨id, email, displayName, .active⟩

def insertIdentity (identities : Table IdentityRow) (id userId : Uuid) (identity : Identity) :
    Except PyError (Table IdentityRow) := do
  let subject ← parameter identity.subject
  let issuer ← varchar 512 identity.issuer
  let subject ← varchar 512 subject
  insertRow identities ⟨id, userId, issuer, subject⟩

def updateUser (users : Table UserRow) (id : Uuid) (identity : Identity) :
    Except PyError (Table UserRow) := do
  let email ← parameter identity.email
  let displayName ← parameter identity.displayName
  let email ← varchar 320 email
  let displayName ← varchar 120 displayName
  match users.tryModify (fun u => u.id = id ∧ u.status = .active)
      (fun u => { u with email, displayName }) with
  | some users => .ok users
  | none => .error .integrityError

def provisionIdentity (uuid7 : ℕ → Uuid) (s : Store) (identity : Identity) :
    Except PyError (Uuid × Store) := do
  match ← selectIdentity s.identities identity with
  | none =>
    let userId := uuid7 0
    let users ← insertUser s.users userId identity
    let identities ← insertIdentity s.identities (uuid7 1) userId identity
    return (userId, { s with users, identities })
  | some userId =>
    let users ← updateUser s.users userId identity
    return (userId, { s with users })

def registeredAs (userId : Uuid) (deviceFingerprint : String) (r : DeviceRow) : Bool :=
  r.userId = userId ∧ r.deviceKey = deviceFingerprint

/-- The `ON CONFLICT` branch of `register_device`. -/
def reregister (platform : String) (now : Timestamp) (r : DeviceRow) : DeviceRow :=
  { r with platform, lastSeenAt := some now, revokedAt := none }

lemma keepsKeys_reregister (platform : String) (now : Timestamp) :
    KeepsKeys (reregister platform now) := fun _ _ => Iff.rfl

def registerDevice (uuid7 : ℕ → Uuid) (createdAt : Timestamp) (s : Store) (userId : Uuid)
    (deviceFingerprint platform : String) (now : Timestamp) : Except PyError (Uuid × Store) :=
  match s.devices.find (registeredAs userId deviceFingerprint) with
  | some r => .ok (r.id, { s with
      devices := s.devices.modify (registeredAs userId deviceFingerprint)
        (reregister platform now) (keepsKeys_reregister platform now) })
  | none => do
    references s.users (fun u => u.id = userId)
    let devices ← insertRow s.devices
      ⟨uuid7 0, userId, deviceFingerprint, platform, some now, none, createdAt⟩
    return (uuid7 0, { s with devices })

def event (id : Uuid) (s : Store) (sessionId userId : Uuid) (eventType : String) :
    Except PyError Store := do
  references s.sessions (fun r => r.id = sessionId)
  references s.users (fun u => u.id = userId)
  let events ← insertRow s.events ⟨id, some sessionId, userId, eventType, Json.dumps []⟩
  return { s with events }

def createSession (uuid7 : ℕ → Uuid) (s : Store) (userId deviceId : Uuid)
    (tokenFingerprint : String) (expiresAt : Timestamp) : Except PyError (Uuid × Store) := do
  references s.users (fun u => u.id = userId)
  references s.devices (fun d => d.id = deviceId)
  let sessions ← insertRow s.sessions
    ⟨uuid7 0, userId, some deviceId, tokenFingerprint, expiresAt, none⟩
  let s ← event (uuid7 1) { s with sessions } (uuid7 0) userId "session.created"
  return (uuid7 0, s)

/-- `ORDER BY r.name`. -/
def roleNames (s : Store) (userId : Uuid) : List String :=
  ((s.roles.rows.filter fun r => s.userRoles.rows.contains ⟨userId, r.id⟩).map
    RoleRow.name).insertionSort (· ≤ ·)

def permissionCodes (s : Store) (userId : Uuid) : Finset String :=
  ((s.permissions.rows.filter fun p => s.userRoles.rows.any fun ur =>
    ur.userId = userId ∧ s.rolePermissions.rows.contains ⟨ur.roleId, p.id⟩).map
    PermissionRow.code).toFinset

/-- `d.id IS NULL OR d.revoked_at IS NULL` after the `LEFT JOIN` of the device. -/
def deviceAllows (s : Store) (deviceId : Option Uuid) : Bool :=
  match deviceId.bind fun id => s.devices.find fun d => d.id = id with
  | none => true
  | some d => d.revokedAt.isNone

def resolveSession (s : Store) (tokenFingerprint : String) (now : Timestamp) :
    Option Principal := do
  let r ← s.sessions.find fun r =>
    r.tokenFingerprint = tokenFingerprint ∧ r.revokedAt = none ∧ now < r.expiresAt
  let u ← s.users.find fun u => u.id = r.userId ∧ u.status = .active
  if deviceAllows s r.deviceId then
    some ⟨r.userId, r.id, r.deviceId, u.email, u.displayName, roleNames s r.userId,
      permissionCodes s r.userId, r.expiresAt⟩
  else none

def revokeRow (now : Timestamp) (r : SessionRow) : SessionRow := { r with revokedAt := some now }

lemma keepsKeys_revokeRow (now : Timestamp) : KeepsKeys (revokeRow now) := fun _ _ => Iff.rfl

def revokeSession (uuid7 : ℕ → Uuid) (s : Store) (sessionId : Uuid) (now : Timestamp) :
    Except PyError (Unit × Store) := do
  let revoked (r : SessionRow) : Bool := r.id = sessionId ∧ r.revokedAt = none
  match s.sessions.find revoked with
  | none => return ((), s)
  | some r =>
    let sessions := s.sessions.modify revoked (revokeRow now) (keepsKeys_revokeRow now)
    let s ← event (uuid7 0) { s with sessions } sessionId r.userId "session.revoked"
    return ((), s)

/-- `ORDER BY created_at DESC`. -/
def listDevices (s : Store) (userId : Uuid) : List Device :=
  ((s.devices.rows.filter fun d => d.userId = userId).insertionSort
    (fun a b => b.createdAt ≤ a.createdAt)).map fun d =>
      ⟨d.id, d.platform, d.lastSeenAt, d.revokedAt⟩

def revokeDeviceRow (now : Timestamp) (d : DeviceRow) : DeviceRow :=
  { d with revokedAt := some now }

lemma keepsKeys_revokeDeviceRow (now : Timestamp) : KeepsKeys (revokeDeviceRow now) :=
  fun _ _ => Iff.rfl

def revokeDevice (s : Store) (userId deviceId : Uuid) (now : Timestamp) : Bool × Store :=
  let changed (d : DeviceRow) : Bool := d.id = deviceId ∧ d.userId = userId ∧ d.revokedAt = none
  let bound (r : SessionRow) : Bool := r.deviceId = some deviceId ∧ r.revokedAt = none
  if (s.devices.find changed).isSome then
    (true, { s with
      devices := s.devices.modify changed (revokeDeviceRow now) (keepsKeys_revokeDeviceRow now)
      sessions := s.sessions.modify bound (revokeRow now) (keepsKeys_revokeRow now) })
  else (false, s)

def putWsTicket (uuid7 : ℕ → Uuid) (s : Store) (ticketFingerprint : String) (sessionId : Uuid)
    (channel : String) (expiresAt : Timestamp) : Except PyError (Unit × Store) :=
  match Channel.ofText channel with
  | none => .error .integrityError
  | some channel => do
    references s.sessions (fun r => r.id = sessionId)
    let tickets ← insertRow s.tickets ⟨uuid7 0, ticketFingerprint, sessionId, channel, expiresAt⟩
    return ((), { s with tickets })

def consumeWsTicket (s : Store) (ticketFingerprint channel : String) (now : Timestamp) :
    Option Uuid × Store :=
  let live (sessionId : Uuid) : Bool := (s.sessions.find fun r =>
    r.id = sessionId ∧ r.revokedAt = none ∧ now < r.expiresAt).isSome
  let consumed (r : TicketRow) : Bool := r.ticketFingerprint = ticketFingerprint ∧
    r.channel.text = channel ∧ now < r.expiresAt ∧ live r.sessionId
  ((s.tickets.find consumed).map TicketRow.sessionId,
    { s with tickets := s.tickets.delete consumed })

end PostgresAuthRepository

end Pentagon5.Auth
