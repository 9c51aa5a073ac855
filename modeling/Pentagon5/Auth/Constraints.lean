import Pentagon5.Auth.Effect

/-!
# When the database accepts a write

A call of `complete_login` that writes succeeds exactly when the rows that it inserts or updates
satisfy the constraints of the schema, and the exception that it raises otherwise is one of the
database or of the text encoding.
-/

namespace Pentagon5.Auth

open Python Relational Relational.Table Store PostgresAuthRepository

/-- A text that PostgreSQL stores. -/
def Storable (text : Str) : Prop := ∃ t : String, text = t ∧ '\x00' ∉ t.toList

/-- A text that a `VARCHAR(n)` column takes. -/
def Fits (n : ℕ) (text : Str) : Prop := Storable text ∧ ∃ value : Varchar n, value.Holds text

/-- The identity is linked to a user whose row can take the email, or it is new and so is its
email. -/
structure Provisionable (uuid7 : ℕ → Uuid) (s : Store) (identity : Identity) : Prop where
  subject : Storable identity.subject
  email : Fits 320 identity.email
  displayName : Fits 120 identity.displayName
  linked : ∀ i ∈ s.identities, i.Stores identity → ∀ u ∈ s.users, u.id = i.userId → u.status = .active →
    ∀ u' ∈ s.users, u'.email.Holds identity.email → u' = u
  created : (∀ i ∈ s.identities, ¬i.Stores identity) → Fits 512 identity.subject ∧
    (∃ issuer : Varchar 512, issuer.Holds identity.issuer) ∧
    (∀ u ∈ s.users, u.id ≠ uuid7 0 ∧ ¬u.email.Holds identity.email) ∧
    ∀ i ∈ s.identities, i.id ≠ uuid7 1 ∧ ¬i.Holds identity

/-- The rows that the call writes satisfy the constraints of the schema. -/
def Accepts (uuid7 : ℕ → Uuid) (s : Store) : Call → Prop
  | .putFlow fp _ _ _ => ∀ r ∈ s.flows, r.id ≠ uuid7 0 ∧ r.stateFingerprint ≠ fp
  | .putLoginGrant fp _ _ => ∀ r ∈ s.grants, r.id ≠ uuid7 0 ∧ r.codeFingerprint ≠ fp
  | .provisionIdentity identity => Provisionable uuid7 s identity
  | .registerDevice userId fp _ _ => (∃ d ∈ s.devices, d.userId = userId ∧ d.deviceKey = fp) ∨
      (∃ u ∈ s.users, u.id = userId) ∧ ∀ d ∈ s.devices, d.id ≠ uuid7 0
  | .createSession userId deviceId fp _ => (∃ u ∈ s.users, u.id = userId) ∧
      (∃ d ∈ s.devices, d.id = deviceId) ∧
      (∀ r ∈ s.sessions, r.id ≠ uuid7 0 ∧ r.tokenFingerprint ≠ fp) ∧ ∀ e ∈ s.events, e.id ≠ uuid7 1
  | _ => True

variable {α β : Type} {uuid7 : ℕ → Uuid} {s : Store}

def Succeeds (r : Except PyError α) : Prop := ∃ a, r = .ok a

@[simp] lemma succeeds_ok (a : α) : Succeeds (.ok a) := ⟨a, rfl⟩

@[simp] lemma not_succeeds_error (e : PyError) : ¬Succeeds (.error e : Except PyError α) := by
  rintro ⟨a, ⟨⟩⟩

lemma succeeds_bind {x : Except PyError α} {f : α → Except PyError β} :
    Succeeds (x >>= f) ↔ ∃ a, x = .ok a ∧ Succeeds (f a) := by
  cases x with
  | ok a => simp [bind, Except.bind]
  | error e => simp [bind, Except.bind]

lemma succeeds_bind_pure {x : Except PyError α} {f : α → β} : Succeeds (x >>= fun a => pure (f a)) ↔
    Succeeds x := by
  cases x with
  | ok a => simp [bind, Except.bind, pure, Except.pure]
  | error e => simp [bind, Except.bind]

lemma succeeds_insertRow {ρ : Type} [Keyed ρ] {t : Table ρ} {r : ρ} :
    Succeeds (insertRow t r) ↔ ∀ a ∈ t, ¬Clash a r := by
  unfold insertRow
  cases h : t.insert r with
  | some t' => simpa using (insert_eq_some.mp h).1
  | none =>
    obtain ⟨a, ha, hclash⟩ := insert_eq_none.mp h
    simpa using ⟨a, ha, hclash⟩

lemma succeeds_references_bind {ρ : Type} [Keyed ρ] {t : Table ρ} {p : ρ → Bool}
    {f : Unit → Except PyError α} :
    Succeeds (references t p >>= f) ↔ (∃ r ∈ t, p r = true) ∧ Succeeds (f ()) := by
  rw [← find_isSome]
  unfold references
  split
  · next h => simp [h, bind, Except.bind]
  · next h => simp [h, bind, Except.bind]

lemma succeeds_varchar_bind {n : ℕ} {text : String} {f : Varchar n → Except PyError α} :
    Succeeds (varchar n text >>= f) ↔ ∃ value : Varchar n, value.Holds text ∧ Succeeds (f value) := by
  simp only [succeeds_bind, varchar_eq_ok]

lemma succeeds_parameter_bind {text : Str} {f : String → Except PyError α} :
    Succeeds (parameter text >>= f) ↔ ∃ t : String, text = t ∧ '\x00' ∉ t.toList ∧ Succeeds (f t) := by
  unfold parameter
  cases h : text.encode? with
  | none =>
    have hno : ∀ t : String, text ≠ t := fun t ht => by simp [Str.encode?_eq_some.mpr ht] at h
    simp [bind, Except.bind, hno]
  | some t =>
    obtain rfl := Str.encode?_eq_some.mp h
    dsimp only
    rw [chars_eq]
    split
    · next hnul => simp [bind, Except.bind, hnul]
    · next hnul => simp [bind, Except.bind, hnul]

lemma succeeds_selectIdentity {identities : Table IdentityRow} {identity : Identity} :
    Succeeds (selectIdentity identities identity) ↔ Storable identity.subject := by
  unfold selectIdentity
  rw [succeeds_parameter_bind]
  simp [Storable, pure, Except.pure]

lemma succeeds_insertUser {users : Table UserRow} {id : Uuid} {identity : Identity} :
    Succeeds (insertUser users id identity) ↔ Fits 320 identity.email ∧ Fits 120 identity.displayName ∧
      ∀ u ∈ users, u.id ≠ id ∧ ¬u.email.Holds identity.email := by
  obtain ⟨-, -, email, displayName⟩ := identity
  unfold insertUser
  simp only [succeeds_parameter_bind, succeeds_varchar_bind, succeeds_insertRow]
  constructor
  · rintro ⟨email, rfl, hnul, displayName, rfl, hnul', value, hvalue, value', hvalue', hclash⟩
    refine ⟨⟨⟨email, rfl, hnul⟩, value, hvalue⟩, ⟨⟨displayName, rfl, hnul'⟩, value', hvalue'⟩, fun u hu => ?_⟩
    obtain ⟨hid, hne⟩ := not_or.mp (hclash u hu)
    exact ⟨hid, fun hholds => hne (holds_unique hholds hvalue)⟩
  · rintro ⟨⟨⟨email, rfl, hnul⟩, value, hvalue⟩, ⟨⟨displayName, rfl, hnul'⟩, value', hvalue'⟩, hfresh⟩
    refine ⟨email, rfl, hnul, displayName, rfl, hnul', value, hvalue, value', hvalue', fun u hu => ?_⟩
    obtain ⟨hid, hne⟩ := hfresh u hu
    refine not_or.mpr ⟨hid, fun heq => hne ?_⟩
    rwa [show u.email = value from heq]

lemma succeeds_insertIdentity {identities : Table IdentityRow} {id userId : Uuid} {identity : Identity} :
    Succeeds (insertIdentity identities id userId identity) ↔ Fits 512 identity.subject ∧
      (∃ issuer : Varchar 512, issuer.Holds identity.issuer) ∧
      ∀ i ∈ identities, i.id ≠ id ∧ ¬i.Holds identity := by
  obtain ⟨issuer, subject, -, -⟩ := identity
  unfold insertIdentity
  simp only [succeeds_parameter_bind, succeeds_varchar_bind, succeeds_insertRow]
  constructor
  · rintro ⟨subject, rfl, hnul, value, hvalue, value', hvalue', hclash⟩
    refine ⟨⟨⟨subject, rfl, hnul⟩, value', hvalue'⟩, ⟨value, hvalue⟩, fun i hi => ?_⟩
    obtain ⟨hid, hne⟩ := not_or.mp (hclash i hi)
    exact ⟨hid, fun h => hne (Prod.ext (holds_unique h.1 hvalue) (holds_unique h.2 hvalue'))⟩
  · rintro ⟨⟨⟨subject, rfl, hnul⟩, value', hvalue'⟩, ⟨value, hvalue⟩, hfresh⟩
    refine ⟨subject, rfl, hnul, value, hvalue, value', hvalue', fun i hi => ?_⟩
    obtain ⟨hid, hne⟩ := hfresh i hi
    refine not_or.mpr ⟨hid, fun heq => hne ?_⟩
    obtain ⟨hissuer, hsubject⟩ := Prod.mk_inj.mp heq
    unfold IdentityRow.Holds
    rw [hissuer, hsubject]
    exact ⟨hvalue, hvalue'⟩

/-- An update of the user's email is accepted when no other user has the email. -/
lemma tryModify_email {users : Table UserRow} {id : Uuid} {email : Varchar 320} {displayName : Varchar 120} :
    (users.tryModify (fun u => u.id = id ∧ u.status = .active) (fun u => { u with email, displayName })).isSome ↔
      ∀ u ∈ users, u.id = id → u.status = .active → ∀ u' ∈ users, email = u'.email → u' = u := by
  rw [tryModify_isSome]
  simp only [decide_eq_true_eq]
  constructor
  · intro h u hu hid hactive u' hu' hemail
    by_contra hne
    have hother : ¬(u'.id = id ∧ u'.status = .active) :=
      fun hp => hne (eq_of_clash hu' hu (.inl (hp.1.trans hid.symm)))
    refine h u hu u' hu' (Ne.symm hne) ?_
    rw [if_pos ⟨hid, hactive⟩, if_neg hother]
    exact .inr hemail
  · intro h a ha b hb hne hclash
    by_cases hpa : a.id = id ∧ a.status = .active
    · have hpb : ¬(b.id = id ∧ b.status = .active) :=
        fun hp => hne (eq_of_clash ha hb (.inl (hpa.1.trans hp.1.symm)))
      rw [if_pos hpa, if_neg hpb] at hclash
      rcases hclash with hid | hemail
      · exact hne (eq_of_clash ha hb (.inl hid))
      · exact hne (h a ha hpa.1 hpa.2 b hb hemail).symm
    · rw [if_neg hpa] at hclash
      by_cases hpb : b.id = id ∧ b.status = .active
      · rw [if_pos hpb] at hclash
        rcases hclash with hid | hemail
        · exact hne (eq_of_clash ha hb (.inl hid))
        · exact hne (h b hb hpb.1 hpb.2 a ha hemail.symm)
      · rw [if_neg hpb] at hclash
        exact hne (eq_of_clash ha hb hclash)

/-- The outcome of an update under the constraints of its table. -/
def accepted (updated : Option (Table UserRow)) : Except PyError (Table UserRow) :=
  match updated with
  | some users => .ok users
  | none => .error .integrityError

lemma succeeds_accepted {updated : Option (Table UserRow)} :
    Succeeds (accepted updated) ↔ updated.isSome := by
  cases updated with
  | some users => simp [accepted]
  | none => simp [accepted]

lemma succeeds_updateUser {users : Table UserRow} {id : Uuid} {identity : Identity} :
    Succeeds (updateUser users id identity) ↔ Fits 320 identity.email ∧ Fits 120 identity.displayName ∧
      ∀ u ∈ users, u.id = id → u.status = .active → ∀ u' ∈ users, u'.email.Holds identity.email → u' = u := by
  obtain ⟨-, -, email, displayName⟩ := identity
  unfold updateUser
  simp only [succeeds_parameter_bind, succeeds_varchar_bind]
  constructor
  · rintro ⟨email, rfl, hnul, displayName, rfl, hnul', value, hvalue, value', hvalue', hfree⟩
    refine ⟨⟨⟨email, rfl, hnul⟩, value, hvalue⟩, ⟨⟨displayName, rfl, hnul'⟩, value', hvalue'⟩, ?_⟩
    intro u hu hid hactive u' hu' hholds
    exact tryModify_email.mp (succeeds_accepted.mp hfree) u hu hid hactive u' hu' (holds_unique hvalue hholds)
  · rintro ⟨⟨⟨email, rfl, hnul⟩, value, hvalue⟩, ⟨⟨displayName, rfl, hnul'⟩, value', hvalue'⟩, hfree⟩
    refine ⟨email, rfl, hnul, displayName, rfl, hnul', value, hvalue, value', hvalue',
      succeeds_accepted.mpr (tryModify_email.mpr fun u hu hid hactive u' hu' hemail => ?_)⟩
    exact hfree u hu hid hactive u' hu' (hemail ▸ hvalue)

lemma IdentityRow.Holds.same {i j : IdentityRow} {identity : Identity} (hi : i.Holds identity)
    (hj : j.Holds identity) : (i.issuer, i.subject) = (j.issuer, j.subject) :=
  Prod.ext (holds_unique hi.1 hj.1) (holds_unique hi.2 hj.2)

/-- One row stores an identity. -/
lemma IdentityRow.Stores.eq {i j : IdentityRow} {identity : Identity} (hi : i.Stores identity)
    (hj : j.Stores identity) (hmem : i ∈ s.identities) (hmem' : j ∈ s.identities) : i = j :=
  eq_of_clash hmem hmem' (.inr (hi.holds.same hj.holds))

lemma succeeds_provisionIdentity {identity : Identity} :
    Succeeds (provisionIdentity uuid7 s identity) ↔ Provisionable uuid7 s identity := by
  unfold provisionIdentity
  rw [succeeds_bind]
  constructor
  · rintro ⟨existing, hsel, h⟩
    have hsubject := succeeds_selectIdentity.mp ⟨existing, hsel⟩
    cases existing with
    | none =>
      obtain ⟨users, hu, h⟩ := succeeds_bind.mp h
      obtain ⟨identities, hi, -⟩ := succeeds_bind.mp h
      obtain ⟨hemail, hname, husers⟩ := succeeds_insertUser.mp ⟨users, hu⟩
      obtain ⟨hfits, hissuer, hids⟩ := succeeds_insertIdentity.mp ⟨identities, hi⟩
      exact ⟨hsubject, hemail, hname, fun i hi hstores => absurd hstores (selectIdentity_none hsel i hi),
        fun _ => ⟨hfits, hissuer, husers, hids⟩⟩
    | some userId =>
      obtain ⟨users, hu, -⟩ := succeeds_bind.mp h
      obtain ⟨i, hi, hstores, rfl⟩ := selectIdentity_some hsel
      obtain ⟨hemail, hname, husers⟩ := succeeds_updateUser.mp ⟨users, hu⟩
      refine ⟨hsubject, hemail, hname, fun j hj hstores' u hu huid => ?_, fun hno => absurd hstores (hno i hi)⟩
      rw [hstores'.eq hstores hj hi] at huid
      exact husers u hu huid
  · intro h
    obtain ⟨existing, hsel⟩ := succeeds_selectIdentity.mpr h.subject
    refine ⟨existing, hsel, ?_⟩
    cases existing with
    | none =>
      have hnone := selectIdentity_none hsel
      obtain ⟨hfits, hissuer, husers, hids⟩ := h.created hnone
      obtain ⟨users, hu⟩ := succeeds_insertUser.mpr ⟨h.email, h.displayName, husers⟩
      obtain ⟨identities, hi⟩ := succeeds_insertIdentity.mpr ⟨hfits, hissuer, hids⟩
      exact succeeds_bind.mpr ⟨users, hu, succeeds_bind.mpr ⟨identities, hi, succeeds_ok _⟩⟩
    | some userId =>
      obtain ⟨i, hi, hstores, rfl⟩ := selectIdentity_some hsel
      obtain ⟨users, hu⟩ := succeeds_updateUser.mpr ⟨h.email, h.displayName, h.linked i hi hstores⟩
      exact succeeds_bind.mpr ⟨users, hu, succeeds_ok _⟩

lemma succeeds_registerDevice {createdAt now : Timestamp} {userId : Uuid} {fp platform : String} :
    Succeeds (registerDevice uuid7 createdAt s userId fp platform now) ↔
      (∃ d ∈ s.devices, d.userId = userId ∧ d.deviceKey = fp) ∨
        (∃ u ∈ s.users, u.id = userId) ∧ ∀ d ∈ s.devices, d.id ≠ uuid7 0 := by
  unfold registerDevice
  split
  · next d hd =>
    obtain ⟨hmem, hp⟩ := find_eq_some hd
    simp only [succeeds_ok, true_iff]
    exact .inl ⟨d, hmem, by simpa [registeredAs] using hp⟩
  · next hnone =>
    have hno : ∀ d ∈ s.devices, ¬(d.userId = userId ∧ d.deviceKey = fp) := by
      simpa [registeredAs] using find_eq_none.mp hnone
    rw [succeeds_references_bind, succeeds_bind_pure, succeeds_insertRow]
    constructor
    · rintro ⟨huser, hfresh⟩
      exact .inr ⟨by simpa using huser, fun d hd hid => hfresh d hd (.inl hid)⟩
    · rintro (⟨d, hd, hkey⟩ | ⟨huser, hfresh⟩)
      · exact absurd hkey (hno d hd)
      · refine ⟨by simpa using huser, fun d hd => not_or.mpr ⟨hfresh d hd, fun hkey => hno d hd ?_⟩⟩
        exact Prod.mk_inj.mp hkey

lemma succeeds_event {id sessionId userId : Uuid} {eventType : String} :
    Succeeds (event id s sessionId userId eventType) ↔ (∃ r ∈ s.sessions, r.id = sessionId) ∧
      (∃ u ∈ s.users, u.id = userId) ∧ ∀ e ∈ s.events, e.id ≠ id := by
  unfold event
  rw [succeeds_references_bind, succeeds_references_bind, succeeds_bind_pure, succeeds_insertRow]
  simp [Clash]

lemma succeeds_createSession {userId deviceId : Uuid} {fp : String} {expiresAt : Timestamp} :
    Succeeds (createSession uuid7 s userId deviceId fp expiresAt) ↔ (∃ u ∈ s.users, u.id = userId) ∧
      (∃ d ∈ s.devices, d.id = deviceId) ∧
      (∀ r ∈ s.sessions, r.id ≠ uuid7 0 ∧ r.tokenFingerprint ≠ fp) ∧ ∀ e ∈ s.events, e.id ≠ uuid7 1 := by
  unfold createSession
  rw [succeeds_references_bind, succeeds_references_bind, succeeds_bind]
  simp only [succeeds_bind_pure, succeeds_event, decide_eq_true_eq]
  refine and_congr_right fun huser => and_congr_right fun _ => ?_
  constructor
  · rintro ⟨sessions, hs, -, -, hevents⟩
    exact ⟨fun r hr => not_or.mp (succeeds_insertRow.mp ⟨_, hs⟩ r hr), hevents⟩
  · rintro ⟨hfresh, hevents⟩
    obtain ⟨sessions, hs⟩ := (succeeds_insertRow (t := s.sessions)
      (r := ⟨uuid7 0, userId, some deviceId, fp, expiresAt, none⟩)).mpr
      fun r hr => not_or.mpr (hfresh r hr)
    exact ⟨sessions, hs, ⟨_, (insertRow_ok hs).new, rfl⟩, huser, hevents⟩

/-- The exceptions of the database and of the text encoding. -/
def PyError.ofDatabase : PyError → Bool
  | unicodeEncodeError | integrityError | dataError => true
  | _ => false

def OnlyDatabase (r : Except PyError α) : Prop := ∀ e, r = .error e → e.ofDatabase = true

@[simp] lemma onlyDatabase_ok (a : α) : OnlyDatabase (.ok a) := fun _ h => nomatch h

@[simp] lemma onlyDatabase_pure (a : α) : OnlyDatabase (pure a) := fun _ h => nomatch h

lemma onlyDatabase_error {e : PyError} (h : e.ofDatabase = true) :
    OnlyDatabase (.error e : Except PyError α) := by
  rintro _ ⟨⟩
  exact h

lemma OnlyDatabase.bind {x : Except PyError α} {f : α → Except PyError β} (hx : OnlyDatabase x)
    (hf : ∀ a, OnlyDatabase (f a)) : OnlyDatabase (x >>= f) := by
  cases x with
  | ok a => exact hf a
  | error e => exact onlyDatabase_error (hx e rfl)

lemma onlyDatabase_insertRow {ρ : Type} [Keyed ρ] (t : Table ρ) (r : ρ) : OnlyDatabase (insertRow t r) := by
  unfold insertRow
  split
  · exact onlyDatabase_ok _
  · exact onlyDatabase_error rfl

lemma onlyDatabase_references {ρ : Type} [Keyed ρ] (t : Table ρ) (p : ρ → Bool) :
    OnlyDatabase (references t p) := by
  unfold references
  split
  · exact onlyDatabase_ok _
  · exact onlyDatabase_error rfl

lemma onlyDatabase_varchar (n : ℕ) (text : String) : OnlyDatabase (varchar n text) := by
  unfold varchar
  split
  · exact onlyDatabase_ok _
  · exact onlyDatabase_error rfl

lemma onlyDatabase_parameter (text : Str) : OnlyDatabase (parameter text) := by
  unfold parameter
  split
  · exact onlyDatabase_error rfl
  · split
    · exact onlyDatabase_error rfl
    · exact onlyDatabase_ok _

lemma onlyDatabase_provisionIdentity (identity : Identity) :
    OnlyDatabase (provisionIdentity uuid7 s identity) := by
  refine ((onlyDatabase_parameter _).bind fun _ => onlyDatabase_pure _).bind fun existing => ?_
  cases existing with
  | none =>
    refine OnlyDatabase.bind ?_ fun users => OnlyDatabase.bind ?_ fun identities => onlyDatabase_pure _
    · exact (onlyDatabase_parameter _).bind fun _ => (onlyDatabase_parameter _).bind fun _ =>
        (onlyDatabase_varchar _ _).bind fun _ => (onlyDatabase_varchar _ _).bind fun _ =>
          onlyDatabase_insertRow _ _
    · exact (onlyDatabase_parameter _).bind fun _ => (onlyDatabase_varchar _ _).bind fun _ =>
        (onlyDatabase_varchar _ _).bind fun _ => onlyDatabase_insertRow _ _
  | some userId =>
    refine OnlyDatabase.bind ?_ fun users => onlyDatabase_pure _
    refine (onlyDatabase_parameter _).bind fun _ => (onlyDatabase_parameter _).bind fun _ =>
      (onlyDatabase_varchar _ _).bind fun _ => (onlyDatabase_varchar _ _).bind fun _ => ?_
    split
    · exact onlyDatabase_ok _
    · exact onlyDatabase_error rfl

lemma onlyDatabase_registerDevice (createdAt now : Timestamp) (userId : Uuid) (fp platform : String) :
    OnlyDatabase (registerDevice uuid7 createdAt s userId fp platform now) := by
  unfold registerDevice
  split
  · exact onlyDatabase_ok _
  · exact (onlyDatabase_references _ _).bind fun _ => (onlyDatabase_insertRow _ _).bind fun _ =>
      onlyDatabase_pure _

lemma onlyDatabase_createSession (userId deviceId : Uuid) (fp : String) (expiresAt : Timestamp) :
    OnlyDatabase (createSession uuid7 s userId deviceId fp expiresAt) := by
  refine (onlyDatabase_references _ _).bind fun _ => (onlyDatabase_references _ _).bind fun _ =>
    (onlyDatabase_insertRow _ _).bind fun _ => OnlyDatabase.bind ?_ fun _ => onlyDatabase_pure _
  exact (onlyDatabase_references _ _).bind fun _ => (onlyDatabase_references _ _).bind fun _ =>
    (onlyDatabase_insertRow _ _).bind fun _ => onlyDatabase_pure _

/-- The transactions of a login that may raise. -/
def Call.transacts : Call → Bool
  | .putFlow .. | .putLoginGrant .. | .provisionIdentity _ | .registerDevice .. | .createSession .. => true
  | _ => false

lemma succeeds_transact {w : World} {r : Except PyError (α × Store)} :
    Succeeds (w.transact r).1 ↔ Succeeds r := by
  cases r with
  | ok r => exact iff_of_true ⟨_, rfl⟩ ⟨_, rfl⟩
  | error e => exact iff_of_false (not_succeeds_error e) (not_succeeds_error e)

lemma OnlyDatabase.transact {r : Except PyError (α × Store)} (h : OnlyDatabase r) (w : World) :
    OnlyDatabase (w.transact r).1 := by
  cases r with
  | ok r => exact onlyDatabase_ok r.1
  | error e => exact onlyDatabase_error (h e rfl)

/-- A transaction succeeds exactly when the rows that it writes are accepted, and raises an
exception of the database otherwise. -/
theorem answer_accepts {call : Call} (h : call.transacts = true) (ω : Env) (w : World) :
    (Succeeds (answer ω w call).1 ↔ Accepts ω.uuid7 w.store call) ∧ OnlyDatabase (answer ω w call).1 := by
  cases call with
  | putFlow fp payload uri expiresAt =>
    refine ⟨succeeds_transact.trans (succeeds_bind_pure.trans (succeeds_insertRow.trans ?_)),
      OnlyDatabase.transact ((onlyDatabase_insertRow _ _).bind fun _ => onlyDatabase_pure _) w⟩
    exact forall₂_congr fun r _ => not_or
  | putLoginGrant fp payload expiresAt =>
    refine ⟨succeeds_transact.trans (succeeds_bind_pure.trans (succeeds_insertRow.trans ?_)),
      OnlyDatabase.transact ((onlyDatabase_insertRow _ _).bind fun _ => onlyDatabase_pure _) w⟩
    exact forall₂_congr fun r _ => not_or
  | provisionIdentity identity =>
    exact ⟨succeeds_transact.trans succeeds_provisionIdentity,
      (onlyDatabase_provisionIdentity identity).transact w⟩
  | registerDevice userId fp platform now =>
    exact ⟨succeeds_transact.trans succeeds_registerDevice,
      (onlyDatabase_registerDevice _ now userId fp platform).transact w⟩
  | createSession userId deviceId fp expiresAt =>
    exact ⟨succeeds_transact.trans succeeds_createSession,
      (onlyDatabase_createSession userId deviceId fp expiresAt).transact w⟩
  | _ => cases h

end Pentagon5.Auth
