import Pentagon5.Auth.Deployment
import Pentagon5.Auth.Evolution
import Pentagon5.Auth.Session
import Pentagon5.Client.Session
import Pentagon5.Contracts.Session
import Pentagon5.Proofs.Uuid7

/-!
# Sessions that the client accepts

The session of a user shows the email and the name of the last login. The client and the contract
accept it exactly if the claims of that login carry an address and a name that is short enough, counted
in UTF-16 units.
-/

namespace Pentagon5.Auth

open Python Python.Json Relational Interleaving Pentagon5.Runtime Client

section

variable (z : ZodEmail) (isEmail : Str → Prop) (datetime : Timestamp → Str)

/-- The client accepts the response, and the contract admits it. -/
def Accepted (principal : Principal) : Prop :=
  (sessionSchema z (sessionResponse datetime principal)).isSome ∧
    Contracts.Session isEmail (sessionResponse datetime principal)

/-- What the response takes from elsewhere than the claims is as both schemas want it. -/
structure Furnished (principal : Principal) : Prop where
  userId : IsV7 (BitVec.toNat principal.userId)
  sessionId : IsV7 (BitVec.toNat principal.sessionId)
  roles : ∀ role ∈ principal.roles, role ≠ "" ∧ units role ≤ 80
  permissions : ∀ code ∈ principal.permissions, code ≠ "" ∧ units code ≤ 120
  expiresAt : utcTimestamp z.toZod (.str (datetime principal.expiresAt)) ≠ none ∧
    Contracts.UtcTimestamp (.str (datetime principal.expiresAt))

/-- The email and the name are as both schemas want them. -/
structure Presented (email displayName : Str) : Prop where
  isEmail_client : z.email email = true
  isEmail_contract : isEmail email
  units_email : units email ≤ 320
  displayName_ne_nil : displayName.codes ≠ []
  units_displayName : units displayName ≤ 120

end

section

variable {z : ZodEmail} {isEmail : Str → Prop} {datetime : Timestamp → Str} {principal : Principal}

lemma isSome_bind {α β : Type} {x : Option α} {f : α → Option β} {P : Prop}
    (h : ∀ a, x = some a → ((f a).isSome ↔ P)) : (x >>= f).isSome ↔ x.isSome ∧ P := by
  cases x with
  | none => simp
  | some a => simpa using h a rfl

lemma sessionSchema_isSome : (sessionSchema z (sessionResponse datetime principal)).isSome ↔
    (uuidV7 (.str (UUID.str principal.userId))).isSome ∧ (uuidV7 (.str (UUID.str principal.sessionId))).isSome ∧
    (emailText z 320 (.str principal.email)).isSome ∧ (boundedText 1 120 (.str principal.displayName)).isSome ∧
    (uniqueStrings 80 (.list (principal.roles.map fun role : String => Json.str role))).isSome ∧
    (uniqueStrings 120 (.list (principal.permissions.sort.map fun code : String => Json.str code))).isSome ∧
    (utcTimestamp z.toZod (.str (datetime principal.expiresAt))).isSome := by
  rw [sessionSchema, sessionResponse, strictObject_eq (by simp [entry])]
  simp only [Option.bind_eq_bind, Option.bind_some, requiredKey, get?_entry, String.reduceEq, if_true, if_false]
  iterate 6 refine isSome_bind fun _ _ => ?_
  exact (isSome_bind (P := True) fun _ _ => by simp).trans (and_iff_left trivial)

lemma contract_sessionResponse : Contracts.Session isEmail (sessionResponse datetime principal) ↔
    Contracts.UuidV7 (.str (UUID.str principal.userId)) ∧ Contracts.UuidV7 (.str (UUID.str principal.sessionId)) ∧
    (isEmail principal.email ∧ (Str.ofString principal.email).codes.length ≤ 320) ∧
    Contracts.text 1 120 (.str principal.displayName) ∧
    Contracts.uniqueTexts 80 (.list (principal.roles.map fun role : String => Json.str role)) ∧
    Contracts.uniqueTexts 120 (.list (principal.permissions.sort.map fun code : String => Json.str code)) ∧
    Contracts.UtcTimestamp (.str (datetime principal.expiresAt)) := by
  rw [sessionResponse, Contracts.Session, JsonSchema.object]
  constructor
  · rintro ⟨entries, heq, huser, hsession, hemail, hname, hroles, hpermissions, hexpires, -⟩
    obtain rfl := Json.dict.inj heq
    simp only [JsonSchema.Required, get?_entry, String.reduceEq, if_true, if_false, Option.some.injEq,
      exists_eq_left'] at huser hsession hemail hname hroles hpermissions hexpires
    obtain ⟨text, heq, hemail⟩ := hemail
    obtain rfl := Json.str.inj heq
    exact ⟨huser, hsession, hemail, hname, hroles, hpermissions, hexpires⟩
  · rintro ⟨huser, hsession, hemail, hname, hroles, hpermissions, hexpires⟩
    refine ⟨_, rfl, ?_, ?_, ?_, ?_, ?_, ?_, ?_, ?_⟩
    · exact ⟨_, rfl, huser⟩
    · exact ⟨_, rfl, hsession⟩
    · exact ⟨_, rfl, _, rfl, hemail⟩
    · exact ⟨_, rfl, hname⟩
    · exact ⟨_, rfl, hroles⟩
    · exact ⟨_, rfl, hpermissions⟩
    · exact ⟨_, rfl, hexpires⟩
    · simp [JsonSchema.Closed, entry]

lemma matches_str (id : Uuid) : Ecma.Matches uuidV7Pattern (UUID.str id).codes ↔ IsV7 (BitVec.toNat id) := by
  constructor
  · intro h
    obtain ⟨u, hcodes, hu⟩ := Uuid7.matches_iff.mp h
    have hstr : UUID.str id = UUID.str u := congrArg Str.mk hcodes
    have hparse := UUID.parse_str (fun _ => none) id
    rw [hstr, UUID.parse_str] at hparse
    rwa [← Option.some.inj hparse]
  · exact fun h => Uuid7.matches_iff.mpr ⟨id, rfl, h⟩

lemma uuidV7_isSome (id : Uuid) : (uuidV7 (.str (UUID.str id))).isSome ↔ IsV7 (BitVec.toNat id) := by
  rw [← matches_str, uuidV7]
  split_ifs with h
  · exact iff_of_true rfl h
  · exact iff_of_false (by simp) h

lemma contract_text {minimum maximum : ℕ} {text : Str} : Contracts.text minimum maximum (.str text) ↔
    minimum ≤ text.codes.length ∧ text.codes.length ≤ maximum := by
  constructor
  · rintro ⟨_, heq, h⟩
    obtain rfl := Json.str.inj heq
    exact h
  · exact fun h => ⟨text, rfl, h⟩

/-- Texts that the client takes are unique texts of the contract. -/
lemma uniqueTexts_of_units {maximum : ℕ} {texts : List String}
    (h : (∀ text ∈ texts, text ≠ "" ∧ units text ≤ maximum) ∧ texts.Nodup) :
    Contracts.uniqueTexts maximum (.list (texts.map fun text : String => Json.str text)) := by
  refine ⟨_, rfl, ?_, ?_⟩
  · intro item hitem
    obtain ⟨text, htext, rfl⟩ := List.mem_map.mp hitem
    have hlength := length_le_units text
    have hne := List.length_pos_of_ne_nil (ofString_codes_ne_nil.mpr (h.1 text htext).1)
    exact contract_text.mpr ⟨hne, hlength.trans (h.1 text htext).2⟩
  · apply (List.nodup_map_iff _).mpr h.2
    intro a b hab
    exact Str.ofString_injective (Json.str.inj hab)

/-- The response is accepted by both exactly if all its members are as both schemas want them. -/
lemma accepted_iff (hroles : principal.roles.Nodup) : Accepted z isEmail datetime principal ↔
    Furnished z datetime principal ∧ Presented z isEmail principal.email principal.displayName := by
  have hemail : (emailText z 320 (.str principal.email)).isSome ↔
      z.email principal.email = true ∧ units principal.email ≤ 320 := by
    rw [emailText]
    split_ifs with h
    · exact iff_of_true rfl h
    · exact iff_of_false (by simp) h
  have hname : (boundedText 1 120 (.str principal.displayName)).isSome ↔
      1 ≤ units principal.displayName ∧ units principal.displayName ≤ 120 := by
    rw [boundedText]
    split_ifs with h
    · exact iff_of_true rfl h
    · exact iff_of_false (by simp) h
  rw [Accepted, sessionSchema_isSome, contract_sessionResponse, uuidV7_isSome, uuidV7_isSome, hemail, hname,
    uniqueStrings_isSome, uniqueStrings_isSome, contract_text]
  simp only [Finset.mem_sort]
  constructor
  · rintro ⟨⟨huser, hsession, hz, hshow, hnames, hpermissions, hexpires⟩, -, -, haddress, -, -, -, hstamp⟩
    refine ⟨⟨huser, hsession, hnames.1, hpermissions.1, ?_, hstamp⟩,
      hz.1, haddress.1, hz.2, one_le_units.mp hshow.1, hshow.2⟩
    exact Option.isSome_iff_ne_none.mp hexpires
  · rintro ⟨h, hz, haddress, hunits, hne, hshow⟩
    have hlength := length_le_units principal.email
    have hlength' := length_le_units principal.displayName
    have hpermissions : (∀ code ∈ principal.permissions.sort, code ≠ "" ∧ units code ≤ 120) ∧
        principal.permissions.sort.Nodup :=
      ⟨fun code hcode => h.permissions code ((Finset.mem_sort _).mp hcode), Finset.sort_nodup _ _⟩
    refine ⟨⟨h.userId, h.sessionId, ⟨hz, hunits⟩, ⟨one_le_units.mpr hne, hshow⟩, ⟨h.roles, hroles⟩,
      ⟨h.permissions, hpermissions.2⟩, Option.isSome_iff_ne_none.mpr h.expiresAt.1⟩, ?_⟩
    refine ⟨?_, ?_, ⟨haddress, hlength.trans hunits⟩, ⟨List.length_pos_of_ne_nil hne, hlength'.trans hshow⟩,
      uniqueTexts_of_units ⟨h.roles, hroles⟩, uniqueTexts_of_units hpermissions, h.expiresAt.2⟩
    · exact ⟨_, rfl, (matches_str _).mpr h.userId⟩
    · exact ⟨_, rfl, (matches_str _).mpr h.sessionId⟩

end

section

open Store PostgresAuthRepository

variable {uuid7 : ℕ → Uuid} {s s' : Store} {identity : Identity} {userId : Uuid}

lemma insertUser_describes {users users' : Table UserRow} (h : insertUser users userId identity = .ok users') :
    ∀ u ∈ users', u.id = userId → u.Describes identity := by
  obtain ⟨row, hrow, hdescribes, -, hinserted⟩ := insertUser_ok h
  intro u hu hid
  rcases (hinserted.mem u).mp hu with hold | rfl
  · exact absurd (Or.inl (hid.trans hrow.symm)) (hinserted.fresh u hold)
  · exact hdescribes

lemma updateUser_describes {users users' : Table UserRow} (h : updateUser users userId identity = .ok users')
    (hactive : ∀ u ∈ users, u.id = userId → u.status = .active) :
    ∀ u ∈ users', u.id = userId → u.Describes identity := by
  obtain ⟨email, hemail, h⟩ := bind_ok h
  obtain ⟨displayName, hname, h⟩ := bind_ok h
  obtain ⟨emailValue, hemailValue, h⟩ := bind_ok h
  obtain ⟨nameValue, hnameValue, h⟩ := bind_ok h
  split at h
  · next hm =>
    cases h
    intro u hu hid
    obtain ⟨r, hr, rfl⟩ := (Table.mem_tryModify hm).mp hu
    split_ifs at hid ⊢ with hrow
    · exact ⟨column_holds hemail hemailValue, column_holds hname hnameValue⟩
    · exact absurd (by simpa using ⟨hid, hactive r hr hid⟩) hrow
  · cases h

/-- After a login the row of the user shows its identity. -/
lemma provisionIdentity_describes (h : provisionIdentity uuid7 s identity = .ok (userId, s'))
    (hactive : ∀ u ∈ s.users, u.id = userId → u.status = .active) :
    ∀ u ∈ s'.users, u.id = userId → u.Describes identity := by
  obtain ⟨existing, hsel, h⟩ := bind_ok h
  cases existing with
  | none =>
    obtain ⟨users, hu, h⟩ := bind_ok h
    obtain ⟨identities, hi, h⟩ := bind_ok h
    cases h
    exact insertUser_describes hu
  | some existing =>
    obtain ⟨users, hu, h⟩ := bind_ok h
    cases h
    exact updateUser_describes hu hactive

/-- Only a login of the user changes what the row shows. -/
lemma Effect.describes {d : Done Answer PyError} (h : Effect d s s')
    (hother : ∀ i, d ≠ ⟨.provisionIdentity i, .ok userId⟩)
    (hs : ∀ u ∈ s.users, u.id = userId → u.Describes identity) :
    ∀ u ∈ s'.users, u.id = userId → u.Describes identity := by
  cases h with
  | createUser i row _ _ _ _ _ _ husers =>
    intro u hu hid
    rcases (husers.mem u).mp hu with hold | rfl
    · exact hs u hold hid
    · exact absurd (by rw [hid]) (hother i)
  | updateUser i row _ _ email displayName husers =>
    intro u hu hid
    obtain ⟨r, hr, rfl⟩ := (husers u).mp hu
    dsimp only at hid ⊢
    split_ifs at hid ⊢ with hrow
    · exact absurd (by rw [← hrow.1, hid]) (hother i)
    · exact hs r hr hid
  | _ => exact hs

lemma Administers.describes {w w' : World} (h : Administers w w')
    (hs : ∀ u ∈ w.store.users, u.id = userId → u.Describes identity) :
    ∀ u ∈ w'.store.users, u.id = userId → u.Describes identity := by
  obtain ⟨status, hm⟩ := h.users
  intro u hu hid
  obtain ⟨r, hr, rfl⟩ := (hm u).mp hu
  exact hs r hr hid

end

/-- The identity that a call provisioned for the user. -/
def provisioned? (userId : Uuid) : Done Answer PyError → Option Identity
  | ⟨.provisionIdentity identity, .ok answered⟩ =>
    let id : Uuid := answered
    if id = userId then some identity else none
  | _ => none

lemma provisioned?_eq_some {userId : Uuid} {d : Done Answer PyError} {identity : Identity} :
    provisioned? userId d = some identity ↔ d = ⟨.provisionIdentity identity, .ok userId⟩ := by
  constructor
  · intro h
    unfold provisioned? at h
    split at h
    · dsimp only at h
      split_ifs at h with hid
      rw [hid, Option.some.inj h]
    · cases h
  · rintro rfl
    exact if_pos rfl

/-- The last login of the user. -/
def lastLogin? (userId : Uuid) (history : History) : Option (Entry Answer PyError Env World) :=
  history.find? fun e => (provisioned? userId e.done).isSome

section

variable (settings : AuthSettings) (crypto : Primitives)

/-- These are the claims of the last login of the user: the client of the provider and the service
accepted them, the columns can hold the email and the name, and the user was not disabled. -/
structure LastLogin (c : State) (userId : Uuid) (claims : Dict) (identity : Identity) : Prop where
  validated : ∃ nonce, OIDCClient.validatedClaims nonce claims = .ok claims
  identified : AuthenticationService.identity settings crypto claims = .ok identity
  email : identity.email.codes.length ≤ 320
  displayName : identity.displayName.codes.length ≤ 120
  provisioned : ∃ e, lastLogin? userId c.history = some e ∧ provisioned? userId e.done = some identity ∧
    ∀ u ∈ e.before.store.users, u.id = userId → u.status = .active

variable {settings crypto} {c : State} {userId : Uuid} {claims : Dict} {identity : Identity}

/-- In the state that a run reaches, the row of the user shows the identity of the last login. -/
lemma LastLogin.describes (hc : Run settings crypto c) (h : LastLogin settings crypto c userId claims identity) :
    ∀ u ∈ c.state.store.users, u.id = userId → u.Describes identity := by
  obtain ⟨e, hlast, hidentity, hactive⟩ := h.provisioned
  obtain ⟨-, h₁, h₀, hhistory, hnone⟩ := List.find?_eq_some_iff_append.mp hlast
  have hdone := provisioned?_eq_some.mp hidentity
  have hother : ∀ a ∈ h₁, ∀ i, a.done ≠ ⟨.provisionIdentity i, .ok userId⟩ := by
    intro a ha i heq
    have hsome := hnone a ha
    rw [provisioned?_eq_some.mpr heq] at hsome
    cases hsome
  obtain ⟨P⟩ := hc.performed hhistory
  have hprovisioned : PostgresAuthRepository.provisionIdentity e.env.uuid7 e.before.store identity =
      .ok (userId, e.after.store) := by
    have hanswer : e.before.transact
        (PostgresAuthRepository.provisionIdentity e.env.uuid7 e.before.store identity) = (.ok userId, e.after) :=
      performed_answer P hdone
    cases hresult : PostgresAuthRepository.provisionIdentity e.env.uuid7 e.before.store identity with
    | error err =>
      rw [hresult] at hanswer
      cases (Prod.ext_iff.mp hanswer).1
    | ok r =>
      rw [hresult] at hanswer
      obtain ⟨hid, hafter⟩ := Prod.ext_iff.mp hanswer
      have hstore : r.2 = e.after.store := congrArg World.store hafter
      rw [← hstore, ← Except.ok.inj hid]
  refine hc.kept_since (I := fun w => ∀ u ∈ w.store.users, u.id = userId → u.Describes identity)
    (K := fun d => ∀ i, d ≠ ⟨.provisionIdentity i, .ok userId⟩) ?_ ?_ hhistory hother
    (provisionIdentity_describes hprovisioned hactive)
  · intro ω w call hK hw
    exact (answer_effect ω w call).describes hK hw
  · intro w w' hw hs
    exact Administers.describes hw hs

variable (crypto) (z : ZodEmail) (isEmail : Str → Prop)

/-- The email claim, in lower case, is an address of at most 320 UTF-16 units. The name claim, or the
email where there is no name that is not blank, is not blank and has at most 120 of them. -/
structure Presentable (claims : Dict) : Prop where
  email : ∀ email, get? claims "email" = some (.str email) →
    z.email (crypto.lower email) = true ∧ isEmail (crypto.lower email) ∧ units (crypto.lower email) ≤ 320
  named : ∀ name, get? claims "name" = some (.str name) → name.strip.codes ≠ [] → units name.strip ≤ 120
  unnamed : ∀ email, get? claims "email" = some (.str email) →
    (∀ name, get? claims "name" = some (.str name) → name.strip.codes = []) →
      email.strip.codes ≠ [] ∧ units email.strip ≤ 120

variable {crypto z isEmail}

lemma str?_eq_some {value : Option Json} {text : Str} :
    value.bind Json.str? = some text ↔ value = some (.str text) := by
  constructor
  · intro h
    obtain ⟨value, rfl, hvalue⟩ := Option.bind_eq_some_iff.mp h
    cases value <;> cases hvalue
    rfl
  · rintro rfl
    rfl

/-- The identity is as the schemas want it exactly if the claims are. -/
lemma presented_iff (h : AuthenticationService.identity settings crypto claims = .ok identity) :
    Presented z isEmail identity.email identity.displayName ↔ Presentable crypto z isEmail claims := by
  rw [AuthenticationService.identity] at h
  split at h
  case h_2 => cases h
  case h_1 subject email _ hemail =>
    obtain rfl := Except.ok.inj h
    have hclaim : ∀ other, get? claims "email" = some (.str other) ↔ email = other := by
      intro other
      rw [str?_eq_some.mp hemail, Option.some.injEq, Json.str.injEq]
    have hsplit : Presentable crypto z isEmail claims ↔
        (z.email (crypto.lower email) = true ∧ isEmail (crypto.lower email) ∧ units (crypto.lower email) ≤ 320) ∧
        (∀ name, get? claims "name" = some (.str name) → name.strip.codes ≠ [] → units name.strip ≤ 120) ∧
        ((∀ name, get? claims "name" = some (.str name) → name.strip.codes = []) →
          email.strip.codes ≠ [] ∧ units email.strip ≤ 120) := by
      constructor
      · exact fun h => ⟨h.email email ((hclaim email).mpr rfl), h.named, h.unnamed email ((hclaim email).mpr rfl)⟩
      · rintro ⟨haddress, hnamed, hunnamed⟩
        refine ⟨fun other hother => ?_, hnamed, fun other hother => ?_⟩
        · rwa [← (hclaim other).mp hother]
        · rwa [← (hclaim other).mp hother]
    rw [hsplit]
    have hpresented : ∀ displayName : Str, Presented z isEmail (crypto.lower email) displayName ↔
        (z.email (crypto.lower email) = true ∧ isEmail (crypto.lower email) ∧ units (crypto.lower email) ≤ 320) ∧
          displayName.codes ≠ [] ∧ units displayName ≤ 120 :=
      fun displayName => ⟨fun h => ⟨⟨h.1, h.2, h.3⟩, h.4, h.5⟩, fun h => ⟨h.1.1, h.1.2.1, h.1.2.2, h.2.1, h.2.2⟩⟩
    rw [hpresented]
    apply and_congr_right
    intro _
    cases hname : (get? claims "name").bind Json.str? with
    | none =>
      have hnone : ∀ name, get? claims "name" ≠ some (.str name) := by
        intro name hget
        rw [str?_eq_some.mpr hget] at hname
        cases hname
      constructor
      · exact fun h => ⟨fun name hget => absurd hget (hnone name), fun _ => h⟩
      · rintro ⟨-, h⟩
        exact h fun name hget => absurd hget (hnone name)
    | some name =>
      have hget : ∀ other, get? claims "name" = some (.str other) ↔ name = other := by
        intro other
        rw [str?_eq_some.mp hname, Option.some.injEq, Json.str.injEq]
      by_cases hblank : name.strip.codes = []
      · simp only [if_pos hblank]
        constructor
        · exact fun h => ⟨fun other hother hne => absurd ((hget other).mp hother ▸ hblank) hne, fun _ => h⟩
        · rintro ⟨-, h⟩
          exact h fun other hother => (hget other).mp hother ▸ hblank
      · simp only [if_neg hblank]
        constructor
        · rintro ⟨-, h⟩
          exact ⟨fun other hother _ => (hget other).mp hother ▸ h,
            fun hall => absurd (hall name ((hget name).mpr rfl)) hblank⟩
        · rintro ⟨h, -⟩
          exact ⟨hblank, h name ((hget name).mpr rfl) hblank⟩

lemma nodup_roleNames (s : Store) (userId : Uuid) : (PostgresAuthRepository.roleNames s userId).Nodup := by
  rw [PostgresAuthRepository.roleNames, (List.perm_insertionSort _ _).nodup_iff, List.Nodup, List.pairwise_map]
  apply List.Pairwise.filter
  apply s.roles.distinct.imp
  intro a b hclash hname
  exact hclash (.inr hname)

lemma nodup_roles {s : Store} {fp : String} {now : Timestamp} {principal : Principal}
    (hp : PostgresAuthRepository.resolveSession s fp now = some principal) : principal.roles.Nodup := by
  obtain ⟨r, -, -, -, u, -, -, -, -, rfl⟩ := resolveSession_eq_some.mp hp
  exact nodup_roleNames s r.userId

/-- The session that the server returns for a user is accepted by the client and admitted by the
contract exactly if the claims of the last login are presentable and the response is otherwise as
both schemas want it. -/
theorem session_accepted_iff {datetime : Timestamp → Str} (hc : Run settings crypto c)
    (hlogin : LastLogin settings crypto c userId claims identity) {tokenFingerprint : String}
    {now : Timestamp} {principal : Principal}
    (hp : PostgresAuthRepository.resolveSession c.state.store tokenFingerprint now = some principal)
    (huser : principal.userId = userId) :
    Accepted z isEmail datetime principal ↔
      Furnished z datetime principal ∧ Presentable crypto z isEmail claims := by
  have hroles := nodup_roles hp
  obtain ⟨r, -, -, -, u, hu, hid, -, -, rfl⟩ := resolveSession_eq_some.mp hp
  obtain ⟨hemail, hname⟩ := hlogin.describes hc u hu (hid.trans huser)
  rw [accepted_iff hroles, ← presented_iff hlogin.identified, hemail.eq_of_length hlogin.email,
    hname.eq_of_length hlogin.displayName]

end

namespace Sample

/-- What a call takes when `uuid7` counts from a value with the version and the variant. -/
def uuidsV7 (n : ℕ) : Env := { uuid7 := fun k => BitVec.ofNat 128 (7 * 2 ^ 76 + 2 * 2 ^ 62 + n + k) }

def claimsNamed (name : Str) : Dict := [("sub", .str "subject-1"), ("email", .str "User@example.com"),
  ("email_verified", .bool true), ("nonce", .str (token 2)), ("name", .str name)]

/-- A login with this name claim. -/
def loggedInNamed (name : Str) : State := started.serve machine 1 (.completeLogin (token 1) "code") <|
  [clockAt 1000000, unused, unused, { response := .ok tokenResponse }, { response := .ok jwks },
    { header := some ⟨.str "RS256", some "k1"⟩ }, { claims := some (claimsNamed name) }] ++
    [uuidsV7 10, uuids 20, bytes 5, uuidsV7 30, unused, bytes 6, bytes 7, uuids 40]

def newUserId : Uuid := BitVec.ofNat 128 (7 * 2 ^ 76 + 2 * 2 ^ 62 + 10)

def newSessionId : Uuid := BitVec.ofNat 128 (7 * 2 ^ 76 + 2 * 2 ^ 62 + 30)

def identityNamed (name : Str) : Identity := ⟨settings.issuer, "subject-1", "user@example.com", name⟩

/-- 120 characters, of which the last one takes two UTF-16 units. -/
def longName : Str := ⟨List.replicate 119 97 ++ [0x1F600]⟩

def zod : ZodEmail where
  datetime s := s = Str.ofString "1970-01-01T08:00:01Z"
  email s := s = Str.ofString "user@example.com"

/-- The text of the moment in which the session expires. -/
def expiry : Timestamp → Str := fun _ => "1970-01-01T08:00:01Z"

def IsAddress (s : Str) : Prop := s = Str.ofString "user@example.com"

lemma run_loggedInNamed (name : Str) : Sampled (loggedInNamed name) :=
  (run_noRequests.serve 0 _ _).serve 1 _ _

/-- The claims are those of the last login. -/
lemma lastLogin_loggedInNamed (name : Str) (hname : name.strip = name ∧ name.codes ≠ [] ∧ name.codes.length ≤ 120)
    (h : (lastLogin? newUserId (loggedInNamed name).history).map
      (fun e => (provisioned? newUserId e.done, e.before.store.users.rows)) = some (some (identityNamed name), [])) :
    LastLogin settings tables.primitives (loggedInNamed name) newUserId (claimsNamed name) (identityNamed name) := by
  obtain ⟨e, hlast, he⟩ := Option.map_eq_some_iff.mp h
  obtain ⟨hidentity, hrows⟩ := Prod.ext_iff.mp he
  have hemail : (Str.ofString "user@example.com").codes.length ≤ 320 := by decide
  refine ⟨⟨token 2, rfl⟩, ?_, hemail, hname.2.2, e, hlast, hidentity, ?_⟩
  · have hshown : (if name.strip.codes = [] then Str.ofString "User@example.com" else name).strip = name := by
      rw [hname.1, if_neg hname.2.1, hname.1]
    have hidentified : AuthenticationService.identity settings tables.primitives (claimsNamed name) =
        .ok ⟨settings.issuer, "subject-1", "user@example.com",
          (if name.strip.codes = [] then Str.ofString "User@example.com" else name).strip⟩ := rfl
    rw [hidentified, hshown]
    rfl
  · intro u hu
    rw [Table.mem_iff, show e.before.store.users.rows = [] from hrows] at hu
    cases hu

/-- The session of the login with this name claim. -/
def sessionNamed (name : Str) : Option Principal :=
  PostgresAuthRepository.resolveSession (loggedInNamed name).state.store (print (token 5)) 2000000

def expiryStamp : Calendar.Stamp where
  year := 1970
  month := 1
  day := 1
  separator := 84
  hour := 8
  minute := 0
  second := 1
  year_lt := by decide
  month_lt := by decide
  day_lt := by decide
  hour_lt := by decide
  minute_lt := by decide
  second_lt := by decide

lemma furnished_named {principal : Principal} (h : principal.userId = newUserId ∧
      principal.sessionId = newSessionId ∧ principal.roles = [] ∧
      principal.permissions = ∅) : Furnished zod expiry principal := by
  obtain ⟨huser, hsession, hroles, hpermissions⟩ := h
  constructor
  case userId =>
    rw [huser]
    exact ⟨by decide, by decide⟩
  case sessionId =>
    rw [hsession]
    exact ⟨by decide, by decide⟩
  case roles => simp [hroles]
  case permissions => simp [hpermissions]
  case expiresAt =>
    have htimestamp : utcTimestamp zod.toZod (.str "1970-01-01T08:00:01Z") ≠ none := by
      rw [utcTimestamp, if_pos (by decide)]
      nofun
    have hdateTime : Contracts.IsDateTime (Str.ofString "1970-01-01T08:00:01Z").codes :=
      ⟨expiryStamp, [], [90], by decide, .inl rfl, by decide, by decide, by decide, by decide, by decide,
        .inl rfl, .inl rfl⟩
    exact ⟨htimestamp, _, rfl, hdateTime, rfl⟩

lemma exists_sessionNamed (name : Str) (limit : ℕ)
    (hname : name.strip = name ∧ name.codes ≠ [] ∧ name.codes.length ≤ 120)
    (h : (lastLogin? newUserId (loggedInNamed name).history).map
        (fun e => (provisioned? newUserId e.done, e.before.store.users.rows)) = some (some (identityNamed name), []) ∧
      (sessionNamed name).map (fun p => (p.userId, p.sessionId, p.roles, p.permissions, units p.displayName)) =
        some (newUserId, newSessionId, [], ∅, limit)) :
    LastLogin settings tables.primitives (loggedInNamed name) newUserId (claimsNamed name) (identityNamed name) ∧
      ∃ principal, sessionNamed name = some principal ∧ principal.userId = newUserId ∧
        Furnished zod expiry principal ∧ units principal.displayName = limit := by
  obtain ⟨hlast, hsession⟩ := h
  obtain ⟨principal, hp, heq⟩ := Option.map_eq_some_iff.mp hsession
  simp only [Prod.mk.injEq] at heq
  obtain ⟨huser, hid, hroles, hpermissions, hunits⟩ := heq
  exact ⟨lastLogin_loggedInNamed name hname hlast, principal, hp, huser,
    furnished_named ⟨huser, hid, hroles, hpermissions⟩, hunits⟩

/-- The name fits the column, and the client refuses the session that shows it. -/
theorem not_accepted_longName : ¬∀ (c : State) (userId : Uuid) (claims : Dict) (identity : Identity)
    (fp : String) (now : Timestamp) (principal : Principal), Sampled c →
      LastLogin settings tables.primitives c userId claims identity →
      PostgresAuthRepository.resolveSession c.state.store fp now = some principal → principal.userId = userId →
      Furnished zod expiry principal → Accepted zod IsAddress expiry principal := by
  intro h
  obtain ⟨hlogin, principal, hp, huser, hfurnished, hunits⟩ :=
    exists_sessionNamed longName 121 (by decide) (by decide +kernel)
  have haccepted := h _ _ _ _ _ _ principal (run_loggedInNamed longName) hlogin hp huser hfurnished
  have hlimit := ((accepted_iff (nodup_roles hp)).mp haccepted).2.units_displayName
  rw [hunits] at hlimit
  omega

theorem session_accepted_user_one : ∃ principal, sessionNamed "User One" = some principal ∧
    (Accepted zod IsAddress expiry principal ↔
      Furnished zod expiry principal ∧ Presentable tables.primitives zod IsAddress (claimsNamed "User One")) := by
  obtain ⟨hlogin, principal, hp, huser, -⟩ :=
    exists_sessionNamed "User One" 8 (by decide) (by decide +kernel)
  exact ⟨principal, hp, session_accepted_iff (run_loggedInNamed "User One") hlogin hp huser⟩

end Sample

end Pentagon5.Auth
