import Pentagon5.Auth.Constraints

/-!
# The statements of `provision_identity`

Calls of `provision_identity` run as concurrent transactions under READ COMMITTED: a statement
sees the rows committed before it and those of its own transaction, and an insert or update
also conflicts with the uncommitted rows of the others. A conflicting statement ends its
transaction, and the rows it wrote are gone; an update waits for the lock of its row.
-/

namespace Pentagon5.Auth.Provisioning

open Python Relational Relational.Table Store PostgresAuthRepository

/-- The row of the first `INSERT`. -/
def userRow (id : Uuid) (identity : Identity) : Except PyError UserRow := do
  let email ← parameter identity.email
  let displayName ← parameter identity.displayName
  let email ← varchar 320 email
  let displayName ← varchar 120 displayName
  return ⟨id, email, displayName, .active⟩

/-- The row of the second `INSERT`. -/
def identityRow (id userId : Uuid) (identity : Identity) : Except PyError IdentityRow := do
  let subject ← parameter identity.subject
  let issuer ← varchar 512 identity.issuer
  let subject ← varchar 512 subject
  return ⟨id, userId, issuer, subject⟩

/-- What has been done of a call: its last statement, with the uncommitted rows. -/
inductive Phase where
  | begun
  | missed
  | found (userId : Uuid)
  | insertedUser (u : UserRow)
  | insertedIdentity (u : UserRow) (i : IdentityRow)
  | updatedUser (userId : Uuid) (u : Option UserRow)
  | returned (userId : Uuid)
  | raised (e : PyError)
deriving DecidableEq

/-- The uncommitted user rows. -/
def Phase.users : Phase → List UserRow
  | insertedUser u => [u]
  | insertedIdentity u _ => [u]
  | updatedUser _ u => u.toList
  | _ => []

/-- The uncommitted identity rows. -/
def Phase.identities : Phase → List IdentityRow
  | insertedIdentity _ i => [i]
  | _ => []

/-- One call of `provision_identity`. -/
structure Txn where
  identity : Identity
  phase : Phase
deriving DecidableEq

/-- The committed rows. -/
structure Database where
  users : Table UserRow
  identities : Table IdentityRow

/-- The rows with which an `INSERT` of a user conflicts. -/
def userRows (db : Database) (others : List Txn) : List UserRow :=
  db.users.rows ++ others.flatMap fun t => t.phase.users

def identityRows (db : Database) (others : List Txn) : List IdentityRow :=
  db.identities.rows ++ others.flatMap fun t => t.phase.identities

/-- `UPDATE identity.users`, up to the new row; it changes a row only if the user is active. -/
def update (db : Database) (others : List Txn) (userId : Uuid) (identity : Identity) :
    Except PyError (Option UserRow) := do
  let new ← userRow userId identity
  match db.users.find fun u => u.id = userId ∧ u.status = .active with
  | none => return none
  | some _ =>
    if ∀ a ∈ userRows db others, a.id = userId ∨ ¬Clash a new then return some new
    else .error .integrityError

/-- The next statement of a call, or its commit; no result where it waits or has ended. `uuid` is
the value of `uuid7()`. -/
def exec (uuid : Uuid) (db : Database) (others : List Txn) (t : Txn) : Option (Database × Txn) :=
  match t.phase with
  | .begun =>
    match selectIdentity db.identities t.identity with
    | .ok none => some (db, { t with phase := .missed })
    | .ok (some userId) => some (db, { t with phase := .found userId })
    | .error e => some (db, { t with phase := .raised e })
  | .missed =>
    match userRow uuid t.identity with
    | .ok u =>
      if ∀ a ∈ userRows db others, ¬Clash a u then some (db, { t with phase := .insertedUser u })
      else some (db, { t with phase := .raised .integrityError })
    | .error e => some (db, { t with phase := .raised e })
  | .insertedUser u =>
    match identityRow uuid u.id t.identity with
    | .ok i =>
      if ∀ a ∈ identityRows db others, ¬Clash a i then
        some (db, { t with phase := .insertedIdentity u i })
      else some (db, { t with phase := .raised .integrityError })
    | .error e => some (db, { t with phase := .raised e })
  | .insertedIdentity u i => do
    let users ← db.users.insert u
    let identities ← db.identities.insert i
    return (⟨users, identities⟩, { t with phase := .returned u.id })
  | .found userId =>
    -- another transaction holds the lock of the row
    if ∃ t ∈ others, ∃ a ∈ t.phase.users, a.id = userId then none
    else match update db others userId t.identity with
      | .ok u => some (db, { t with phase := .updatedUser userId u })
      | .error e => some (db, { t with phase := .raised e })
  | .updatedUser userId none => some (db, { t with phase := .returned userId })
  | .updatedUser userId (some new) => do
    let users ← db.users.tryModify (fun u => u.id = userId) (fun _ => new)
    return ({ db with users }, { t with phase := .returned userId })
  | .returned _ => none
  | .raised _ => none

structure Config where
  db : Database
  calls : List Txn

/-- A new call begins, or a call makes its next step. -/
inductive Step : Config → Config → Prop where
  | call {c} (identity : Identity) : Step c { c with calls := c.calls ++ [⟨identity, .begun⟩] }
  | exec {db db' l r t t'} (uuid : Uuid) (h : exec uuid db (l ++ r) t = some (db', t')) :
      Step ⟨db, l ++ t :: r⟩ ⟨db', l ++ t' :: r⟩

inductive Reachable (db : Database) : Config → Prop where
  | start : Reachable db ⟨db, []⟩
  | step {c c'} (hc : Reachable db c) (hs : Step c c') : Reachable db c'

/-- The identity, as the columns hold it, is linked to the user. -/
def Linked (db : Database) (identity : Identity) (userId : Uuid) : Prop :=
  ∃ i ∈ db.identities, i.Holds identity ∧ i.userId = userId

def Phase.ended : Phase → Bool
  | returned _ | raised _ => true
  | _ => false

/-- Every way in which a step can change the committed rows and the phase of its call. -/
inductive Moves (db : Database) (others : List Txn) (t : Txn) : Database → Phase → Prop where
  | raised (e : PyError) (h : t.phase.ended = false) : Moves db others t db (.raised e)
  | missed (h : t.phase = .begun) : Moves db others t db .missed
  | found (userId : Uuid) (h : t.phase = .begun) (hlinked : Linked db t.identity userId) :
      Moves db others t db (.found userId)
  | insertedUser (u : UserRow) (h : t.phase = .missed) (hu : u.Describes t.identity)
      (hfresh : ∀ a ∈ userRows db others, ¬Clash a u) : Moves db others t db (.insertedUser u)
  | insertedIdentity (u : UserRow) (i : IdentityRow) (h : t.phase = .insertedUser u)
      (hi : i.Holds t.identity) (howner : i.userId = u.id)
      (hfresh : ∀ a ∈ identityRows db others, ¬Clash a i) :
      Moves db others t db (.insertedIdentity u i)
  | committed (u : UserRow) (i : IdentityRow) (users : Table UserRow) (identities : Table IdentityRow)
      (h : t.phase = .insertedIdentity u i) (hu : db.users.Inserted u users)
      (hi : db.identities.Inserted i identities) : Moves db others t ⟨users, identities⟩ (.returned u.id)
  | updatedUser (userId : Uuid) (new : UserRow) (h : t.phase = .found userId)
      (hlock : ∀ t ∈ others, ∀ a ∈ t.phase.users, a.id ≠ userId) (hid : new.id = userId)
      (hnew : new.Describes t.identity)
      (hfresh : ∀ a ∈ userRows db others, a.id = userId ∨ ¬Clash a new) :
      Moves db others t db (.updatedUser userId (some new))
  | keptUser (userId : Uuid) (h : t.phase = .found userId) :
      Moves db others t db (.updatedUser userId none)
  | committedNone (userId : Uuid) (h : t.phase = .updatedUser userId none) :
      Moves db others t db (.returned userId)
  | committedUpdate (userId : Uuid) (new : UserRow) (users : Table UserRow)
      (h : t.phase = .updatedUser userId (some new))
      (hu : db.users.Mapped (fun u => if u.id = userId then new else u) users) :
      Moves db others t { db with users } (.returned userId)

lemma userRow_ok {id : Uuid} {identity : Identity} {u : UserRow} (h : userRow id identity = .ok u) :
    u.id = id ∧ u.Describes identity ∧ u.status = .active := by
  obtain ⟨email, hemail, h⟩ := bind_ok h
  obtain ⟨displayName, hname, h⟩ := bind_ok h
  obtain ⟨emailValue, hemailValue, h⟩ := bind_ok h
  obtain ⟨nameValue, hnameValue, h⟩ := bind_ok h
  cases h
  exact ⟨rfl, ⟨column_holds hemail hemailValue, column_holds hname hnameValue⟩, rfl⟩

lemma identityRow_ok {id userId : Uuid} {identity : Identity} {i : IdentityRow}
    (h : identityRow id userId identity = .ok i) : i.userId = userId ∧ i.Holds identity := by
  obtain ⟨subject, hsubject, h⟩ := bind_ok h
  obtain ⟨issuerValue, hissuerValue, h⟩ := bind_ok h
  obtain ⟨subjectValue, hsubjectValue, h⟩ := bind_ok h
  cases h
  exact ⟨rfl, varchar_eq_ok.mp hissuerValue, column_holds hsubject hsubjectValue⟩

variable {uuid : Uuid} {db db' : Database} {others : List Txn} {t t' : Txn}

lemma update_ok {userId : Uuid} {identity : Identity} {new : UserRow}
    (h : update db others userId identity = .ok (some new)) : new.id = userId ∧
      new.Describes identity ∧ ∀ a ∈ userRows db others, a.id = userId ∨ ¬Clash a new := by
  obtain ⟨row, hrow, h⟩ := bind_ok h
  obtain ⟨hid, hdesc, -⟩ := userRow_ok hrow
  split at h
  · cases h
  · split at h
    · next hfresh =>
      cases h
      exact ⟨hid, hdesc, hfresh⟩
    · cases h

/-- Every step makes one of the listed moves, for the same identity. -/
theorem exec_moves (h : exec uuid db others t = some (db', t')) :
    t'.identity = t.identity ∧ Moves db others t db' t'.phase := by
  unfold exec at h
  split at h
  case h_1 hphase =>
    split at h
    · obtain ⟨⟩ := Option.some.inj h
      exact ⟨rfl, .missed hphase⟩
    · next hsel =>
      obtain ⟨⟩ := Option.some.inj h
      obtain ⟨i, hi, hstores, howner⟩ := selectIdentity_some hsel
      exact ⟨rfl, .found _ hphase ⟨i, hi, hstores.holds, howner⟩⟩
    · obtain ⟨⟩ := Option.some.inj h
      exact ⟨rfl, .raised _ (by rw [hphase]; rfl)⟩
  case h_2 hphase =>
    split at h
    · next u hu =>
      split at h
      · next hfresh =>
        obtain ⟨⟩ := Option.some.inj h
        exact ⟨rfl, .insertedUser u hphase (userRow_ok hu).2.1 hfresh⟩
      · obtain ⟨⟩ := Option.some.inj h
        exact ⟨rfl, .raised _ (by rw [hphase]; rfl)⟩
    · obtain ⟨⟩ := Option.some.inj h
      exact ⟨rfl, .raised _ (by rw [hphase]; rfl)⟩
  case h_3 u hphase =>
    split at h
    · next i hi =>
      split at h
      · next hfresh =>
        obtain ⟨⟩ := Option.some.inj h
        obtain ⟨howner, hholds⟩ := identityRow_ok hi
        exact ⟨rfl, .insertedIdentity u i hphase hholds howner hfresh⟩
      · obtain ⟨⟩ := Option.some.inj h
        exact ⟨rfl, .raised _ (by rw [hphase]; rfl)⟩
    · obtain ⟨⟩ := Option.some.inj h
      exact ⟨rfl, .raised _ (by rw [hphase]; rfl)⟩
  case h_4 u i hphase =>
    obtain ⟨users, hu, h⟩ := Option.bind_eq_some_iff.mp h
    obtain ⟨identities, hi, h⟩ := Option.bind_eq_some_iff.mp h
    obtain ⟨⟩ := Option.some.inj h
    exact ⟨rfl, .committed u i users identities hphase (inserted_of_insert hu) (inserted_of_insert hi)⟩
  case h_5 userId hphase =>
    split at h
    · cases h
    · next hlock =>
      split at h
      · next u hu =>
        obtain ⟨⟩ := Option.some.inj h
        refine ⟨rfl, ?_⟩
        cases u with
        | none => exact .keptUser userId hphase
        | some new =>
          obtain ⟨hid, hdesc, hfresh⟩ := update_ok hu
          exact .updatedUser userId new hphase
            (fun t ht a ha haid => hlock ⟨t, ht, a, ha, haid⟩) hid hdesc hfresh
      · obtain ⟨⟩ := Option.some.inj h
        exact ⟨rfl, .raised _ (by rw [hphase]; rfl)⟩
  case h_6 userId hphase =>
    obtain ⟨⟩ := Option.some.inj h
    exact ⟨rfl, .committedNone userId hphase⟩
  case h_7 userId new hphase =>
    obtain ⟨users, hu, h⟩ := Option.bind_eq_some_iff.mp h
    obtain ⟨⟩ := Option.some.inj h
    exact ⟨rfl, .committedUpdate userId new users hphase (by simpa using mapped_tryModify hu)⟩
  case h_8 => cases h
  case h_9 => cases h

/-- The steps of a call without others. -/
def alone (uuid7 : ℕ → Uuid) : ℕ → Database → Txn → Database × Txn
  | 0, db, t => (db, t)
  | n + 1, db, t =>
    -- the identifier of a user is drawn before that of its identity
    match exec (uuid7 (if t.phase = .missed then 0 else 1)) db [] t with
    | some (db', t') => alone uuid7 n db' t'
    | none => (db, t)

section

variable {uuid7 : ℕ → Uuid} {s : Store} {identity : Identity} {n : ℕ} {e : PyError}

lemma alone_raised : alone uuid7 n db ⟨identity, .raised e⟩ = (db, ⟨identity, .raised e⟩) := by
  cases n <;> rfl

lemma insertUser_eq {users : Table UserRow} {id : Uuid} :
    insertUser users id identity = userRow id identity >>= insertRow users := by
  simp [insertUser, userRow]

lemma insertIdentity_eq {identities : Table IdentityRow} {id userId : Uuid} :
    insertIdentity identities id userId identity = identityRow id userId identity >>= insertRow identities := by
  simp [insertIdentity, identityRow]

lemma insertRow_of_fresh {ρ : Type} [Keyed ρ] {table : Table ρ} {row : ρ} (h : ∀ a ∈ table.rows, ¬Clash a row) :
    ∃ table', table.insert row = some table' ∧ insertRow table row = .ok table' := by
  obtain ⟨table', hins⟩ := succeeds_insertRow.mpr h
  refine ⟨table', ?_, hins⟩
  unfold insertRow at hins
  split at hins
  · next heq => rw [heq, Except.ok.inj hins]
  · cases hins

lemma insertRow_of_clash {ρ : Type} [Keyed ρ] {table : Table ρ} {row : ρ}
    (h : ¬∀ a ∈ table.rows, ¬Clash a row) : insertRow table row = .error .integrityError := by
  unfold insertRow
  split
  · next heq => exact absurd (insert_eq_some.mp heq).1 h
  · rfl

/-- Replacing an active user by its new row sets its email and display name. -/
lemma tryModify_replace {users : Table UserRow} {userId : Uuid} {new old : UserRow} (hid : new.id = userId)
    (hstatus : new.status = .active)
    (hfind : users.find (fun u => u.id = userId ∧ u.status = .active) = some old) :
    users.tryModify (fun u => u.id = userId) (fun _ => new) =
      users.tryModify (fun u => u.id = userId ∧ u.status = .active)
        (fun u => { u with email := new.email, displayName := new.displayName }) := by
  obtain ⟨hold, hp⟩ := find_eq_some hfind
  simp only [decide_eq_true_eq] at hp
  refine tryModify_congr fun u hu => ?_
  simp only [decide_eq_true_eq]
  by_cases huid : u.id = userId
  · obtain rfl : u = old := eq_of_clash hu hold (.inl (huid.trans hp.1.symm))
    rw [if_pos huid, if_pos hp]
    obtain ⟨id, email, displayName, status⟩ := new
    dsimp only at hid hstatus ⊢
    rw [hid, hstatus, ← hp.1, ← hp.2]
  · rw [if_neg huid, if_neg fun h => huid h.1]

lemma updateUser_eq {users : Table UserRow} {userId : Uuid} : updateUser users userId identity =
    userRow userId identity >>= fun new => match users.tryModify (fun u => u.id = userId ∧ u.status = .active)
      (fun u => { u with email := new.email, displayName := new.displayName }) with
    | some users => .ok users
    | none => .error .integrityError := by
  unfold updateUser userRow
  simp only [bind_assoc]
  rfl

lemma alone_succ {t u : Txn} {d : Database}
    (h : exec (uuid7 (if t.phase = .missed then 0 else 1)) db [] t = some (d, u)) :
    alone uuid7 (n + 1) db t = alone uuid7 n d u := by
  simp only [alone, h]

lemma exec_missed {u : UserRow} (hu : userRow uuid identity = .ok u) : exec uuid db [] ⟨identity, .missed⟩ =
    if ∀ a ∈ db.users.rows, ¬Clash a u then some (db, ⟨identity, .insertedUser u⟩)
    else some (db, ⟨identity, .raised .integrityError⟩) := by
  simp only [exec, hu, userRows, List.flatMap_nil, List.append_nil]

lemma exec_insertedUser {u : UserRow} {i : IdentityRow} (hi : identityRow uuid u.id identity = .ok i) :
    exec uuid db [] ⟨identity, .insertedUser u⟩ =
      if ∀ a ∈ db.identities.rows, ¬Clash a i then some (db, ⟨identity, .insertedIdentity u i⟩)
      else some (db, ⟨identity, .raised .integrityError⟩) := by
  simp only [exec, hi, identityRows, List.flatMap_nil, List.append_nil]

lemma exec_found {userId : Uuid} : exec uuid db [] ⟨identity, .found userId⟩ =
    match update db [] userId identity with
    | .ok u => some (db, ⟨identity, .updatedUser userId u⟩)
    | .error e => some (db, ⟨identity, .raised e⟩) := by
  simp only [exec, List.not_mem_nil, false_and, exists_false, if_false]

/-- A call that found no identity inserts a user and its identity. -/
lemma alone_missed : alone uuid7 3 ⟨s.users, s.identities⟩ ⟨identity, .missed⟩ =
    match (do
      let users ← insertUser s.users (uuid7 0) identity
      let identities ← insertIdentity s.identities (uuid7 1) (uuid7 0) identity
      return (users, identities)) with
    | .ok (users, identities) => (⟨users, identities⟩, ⟨identity, .returned (uuid7 0)⟩)
    | .error e => (⟨s.users, s.identities⟩, ⟨identity, .raised e⟩) := by
  rw [insertUser_eq, insertIdentity_eq]
  cases hu : userRow (uuid7 0) identity with
  | error e =>
    rw [alone_succ (d := ⟨s.users, s.identities⟩) (u := ⟨identity, .raised e⟩) (by simp [exec, hu]), alone_raised]
    rfl
  | ok u =>
    obtain ⟨hid, -⟩ := userRow_ok hu
    by_cases hfree : ∀ a ∈ s.users.rows, ¬Clash a u
    · obtain ⟨users, hinsert, hrow⟩ := insertRow_of_fresh hfree
      rw [alone_succ ((exec_missed hu).trans (if_pos hfree))]
      cases hi : identityRow (uuid7 1) (uuid7 0) identity with
      | error e =>
        rw [alone_succ (d := ⟨s.users, s.identities⟩) (u := ⟨identity, .raised e⟩)
          (by simp [exec, hi, hid]), alone_raised]
        simp [bind, Except.bind, hrow]
      | ok i =>
        rw [← hid] at hi
        by_cases hfree' : ∀ a ∈ s.identities.rows, ¬Clash a i
        · obtain ⟨identities, hinsert', hrow'⟩ := insertRow_of_fresh hfree'
          rw [alone_succ ((exec_insertedUser hi).trans (if_pos hfree')),
            alone_succ (d := ⟨users, identities⟩) (u := ⟨identity, .returned u.id⟩)
              (by simp [exec, hinsert, hinsert'])]
          simp [alone, bind, Except.bind, hrow, hrow', hid, pure, Except.pure]
        · rw [alone_succ ((exec_insertedUser hi).trans (if_neg hfree')), alone_raised]
          simp [bind, Except.bind, hrow, insertRow_of_clash hfree']
    · rw [alone_succ ((exec_missed hu).trans (if_neg hfree)), alone_raised]
      simp [bind, Except.bind, insertRow_of_clash hfree]

/-- The new row of an active user conflicts with no other user exactly when the update is accepted. -/
lemma update_accepted {users : Table UserRow} {userId : Uuid} {new old : UserRow} (hid : new.id = userId)
    (hfind : users.find (fun u => u.id = userId ∧ u.status = .active) = some old) :
    (users.tryModify (fun u => u.id = userId ∧ u.status = .active)
      (fun u => { u with email := new.email, displayName := new.displayName })).isSome ↔
      ∀ a ∈ users.rows, a.id = userId ∨ ¬Clash a new := by
  obtain ⟨hold, hp⟩ := find_eq_some hfind
  simp only [decide_eq_true_eq] at hp
  rw [tryModify_email]
  constructor
  · intro h a ha
    refine or_iff_not_imp_left.mpr fun hne hclash => hne ?_
    rcases hclash with hid' | hemail
    · exact hid'.trans hid
    · rw [h old hold hp.1 hp.2 a ha hemail.symm]
      exact hp.1
  · intro h u hu huid _ u' hu' hemail
    rcases h u' hu' with hid' | hno
    · exact eq_of_clash hu' hu (.inl (hid'.trans huid.symm))
    · exact absurd (.inr hemail.symm) hno

lemma update_eq {userId : Uuid} {new : UserRow} (hu : userRow userId identity = .ok new) :
    update db [] userId identity =
      match db.users.find fun u => u.id = userId ∧ u.status = .active with
      | none => .ok none
      | some _ => if ∀ a ∈ db.users.rows, a.id = userId ∨ ¬Clash a new then .ok (some new)
        else .error .integrityError := by
  simp only [update, hu, userRows, List.flatMap_nil, List.append_nil]
  rfl

/-- A call that found its user updates it. -/
lemma alone_found {userId : Uuid} : alone uuid7 3 ⟨s.users, s.identities⟩ ⟨identity, .found userId⟩ =
    match updateUser s.users userId identity with
    | .ok users => (⟨users, s.identities⟩, ⟨identity, .returned userId⟩)
    | .error e => (⟨s.users, s.identities⟩, ⟨identity, .raised e⟩) := by
  have hupdate : ∀ {u : Option UserRow}, update ⟨s.users, s.identities⟩ [] userId identity = .ok u →
      alone uuid7 3 ⟨s.users, s.identities⟩ ⟨identity, .found userId⟩ =
        alone uuid7 2 ⟨s.users, s.identities⟩ ⟨identity, .updatedUser userId u⟩ :=
    fun h => alone_succ (by rw [exec_found, h])
  have hraise : ∀ {e : PyError}, update ⟨s.users, s.identities⟩ [] userId identity = .error e →
      alone uuid7 3 ⟨s.users, s.identities⟩ ⟨identity, .found userId⟩ =
        (⟨s.users, s.identities⟩, ⟨identity, .raised e⟩) :=
    fun h => (alone_succ (by rw [exec_found, h])).trans alone_raised
  rw [updateUser_eq]
  cases hu : userRow userId identity with
  | error e => rw [hraise (by simp only [update, hu]; rfl)]; rfl
  | ok new =>
    obtain ⟨hid, -, hstatus⟩ := userRow_ok hu
    cases hfind : s.users.find (fun u => u.id = userId ∧ u.status = .active) with
    | none =>
      rw [hupdate (u := none) (by rw [update_eq hu, hfind]),
        alone_succ (d := ⟨s.users, s.identities⟩) (u := ⟨identity, .returned userId⟩) rfl]
      simp only [bind, Except.bind, tryModify_of_forall (find_eq_none.mp hfind), alone]
      rfl
    | some old =>
      have haccepted := update_accepted hid hfind
      by_cases hfree : ∀ a ∈ s.users.rows, a.id = userId ∨ ¬Clash a new
      · obtain ⟨users, husers⟩ := Option.isSome_iff_exists.mp (haccepted.mpr hfree)
        have hreplace := (tryModify_replace hid hstatus hfind).trans husers
        rw [hupdate (u := some new) (by rw [update_eq hu, hfind]; exact if_pos hfree),
          alone_succ (d := ⟨users, s.identities⟩) (u := ⟨identity, .returned userId⟩)
            (by simp only [exec, hreplace]; rfl)]
        simp only [bind, Except.bind, husers, alone]
        rfl
      · rw [hraise (e := .integrityError) (by rw [update_eq hu, hfind]; exact if_neg hfree)]
        have hnone := Option.not_isSome_iff_eq_none.mp (mt haccepted.mp hfree)
        simp only [bind, Except.bind, hnone]

/-- Without others the statements of a call have the effect of the whole transaction. -/
theorem alone_provisionIdentity : alone uuid7 4 ⟨s.users, s.identities⟩ ⟨identity, .begun⟩ =
    match provisionIdentity uuid7 s identity with
    | .ok (userId, s') => (⟨s'.users, s'.identities⟩, ⟨identity, .returned userId⟩)
    | .error e => (⟨s.users, s.identities⟩, ⟨identity, .raised e⟩) := by
  unfold provisionIdentity
  cases hsel : selectIdentity s.identities identity with
  | error e => simp [alone, exec, hsel, bind, Except.bind]
  | ok existing =>
    cases existing with
    | none =>
      rw [alone_succ (d := ⟨s.users, s.identities⟩) (u := ⟨identity, .missed⟩) (by simp [exec, hsel]),
        alone_missed]
      simp only [bind, Except.bind]
      cases insertUser s.users (uuid7 0) identity with
      | error e => rfl
      | ok users =>
        dsimp only
        cases insertIdentity s.identities (uuid7 1) (uuid7 0) identity <;> rfl
    | some userId =>
      rw [alone_succ (d := ⟨s.users, s.identities⟩) (u := ⟨identity, .found userId⟩) (by simp [exec, hsel]),
        alone_found]
      simp only [bind, Except.bind]
      cases updateUser s.users userId identity <;> rfl

end

end Pentagon5.Auth.Provisioning
