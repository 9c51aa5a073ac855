import Pentagon5.Auth.Constraints

/-!
# What untrusted documents raise

The callback route catches three exceptions. Reading a document of the provider raises another
one exactly when the document has none of the shapes that the OIDC client expects.
-/

namespace Pentagon5.Auth

open Python AuthenticationService

/-- The exceptions that the callback route answers with `OIDC_LOGIN_FAILED`. -/
def PyError.caught : PyError → Bool
  | authenticationError _ | oidcError _ | httpError => true
  | _ => false

lemma PyError.not_caught_of_database {e : PyError} (h : e.ofDatabase = true) : e.caught = false := by
  cases e <;> first | rfl | exact Bool.noConfusion h

variable {α β : Type}

/-- A result whose exception, if any, the callback route catches. -/
def CaughtOnly (r : Except PyError α) : Prop := ∀ e, r = .error e → e.caught = true

@[simp] lemma caughtOnly_ok (a : α) : CaughtOnly (.ok a : Except PyError α) := fun _ h => nomatch h

@[simp] lemma caughtOnly_pure (a : α) : CaughtOnly (pure a : Except PyError α) := fun _ h => nomatch h

@[simp] lemma caughtOnly_error (e : PyError) :
    CaughtOnly (.error e : Except PyError α) ↔ e.caught = true :=
  ⟨fun h => h e rfl, fun h e' h' => by cases h'; exact h⟩

lemma caughtOnly_bind {x : Except PyError α} {f : α → Except PyError β} :
    CaughtOnly (x >>= f) ↔ CaughtOnly x ∧ ∀ a, x = .ok a → CaughtOnly (f a) := by
  cases x with
  | ok a => simp [bind, Except.bind]
  | error e => simp [bind, Except.bind]

lemma caughtOnly_ensure {p : Prop} [Decidable p] {e : PyError} (h : e.caught = true) :
    CaughtOnly (ensure p e) := by
  unfold ensure
  split
  · exact caughtOnly_ok _
  · exact (caughtOnly_error e).mpr h

def IsObject (value : Json) : Prop := ∃ entries, value = .dict entries

lemma caughtOnly_getMember {value : Json} {key : String} :
    CaughtOnly (getMember value key) ↔ IsObject value := by
  cases value <;> simp [getMember, IsObject, PyError.caught]

variable {settings : AuthSettings} {crypto : Primitives}

variable (settings) in
lemma caughtOnly_providerMetadata (document : Json) :
    CaughtOnly (OIDCClient.providerMetadata settings document) ↔ IsObject document := by
  unfold OIDCClient.providerMetadata
  rw [caughtOnly_bind, caughtOnly_getMember]
  refine and_iff_left_of_imp fun hobject issuer _ => ?_
  refine caughtOnly_bind.mpr ⟨caughtOnly_ensure rfl, fun _ _ => ?_⟩
  refine caughtOnly_bind.mpr ⟨caughtOnly_getMember.mpr hobject, fun authorization _ => ?_⟩
  refine caughtOnly_bind.mpr ⟨caughtOnly_getMember.mpr hobject, fun token _ => ?_⟩
  refine caughtOnly_bind.mpr ⟨caughtOnly_getMember.mpr hobject, fun jwks _ => ?_⟩
  split
  · refine caughtOnly_bind.mpr ⟨caughtOnly_ensure rfl, fun _ _ => ?_⟩
    exact caughtOnly_bind.mpr ⟨caughtOnly_ensure rfl, fun _ _ => caughtOnly_pure _⟩
  · exact (caughtOnly_error _).mpr rfl

lemma caughtOnly_idTokenOf (document : Json) :
    CaughtOnly (OIDCClient.idTokenOf document) ↔ IsObject document := by
  unfold OIDCClient.idTokenOf
  rw [caughtOnly_bind, caughtOnly_getMember]
  refine and_iff_left_of_imp fun _ value _ => ?_
  split
  · exact caughtOnly_ok _
  · exact (caughtOnly_error _).mpr rfl

/-- The values of `alg` that a set refuses to look up. -/
def JwtHeader.Unhashable (header : JwtHeader) : Prop :=
  (∃ values, header.alg = .list values) ∨ IsObject header.alg

def JwtHeader.Supported (header : JwtHeader) : Prop :=
  header.alg = .str ("RS256" : String) ∨ header.alg = .str ("ES256" : String)

lemma caughtOnly_supportedAlgorithm (header : JwtHeader) :
    CaughtOnly (OIDCClient.supportedAlgorithm header.alg) ↔ ¬header.Unhashable := by
  unfold JwtHeader.Unhashable IsObject
  cases header.alg with
  | str value =>
    simp only [OIDCClient.supportedAlgorithm]
    split
    · simp
    · split <;> simp [PyError.caught]
  | _ => simp [OIDCClient.supportedAlgorithm, PyError.caught]

lemma succeeds_supportedAlgorithm (header : JwtHeader) :
    Succeeds (OIDCClient.supportedAlgorithm header.alg) ↔ header.Supported := by
  unfold JwtHeader.Supported
  cases header.alg with
  | str value =>
    simp only [OIDCClient.supportedAlgorithm]
    split
    · next h => simp [h]
    · next h =>
      split
      · next h' => simp [h']
      · next h' => simp [h, h']
  | _ => simp [OIDCClient.supportedAlgorithm]

/-- The values of `keys` over which the selection of the signing key can iterate. -/
def IsKeySet : Json → Prop
  | .list keys => ∀ key ∈ keys, IsObject key
  | .str value => value.codes = []
  | .dict entries => entries = []
  | _ => False

/-- The documents from which a signing key can be selected, for whichever `kid`. -/
def HasKeySet (document : Json) : Prop :=
  ∃ entries, document = .dict entries ∧ IsKeySet ((Json.get? entries "keys").getD (.list []))

lemma caughtOnly_matchingKeys {kid : Option Str} {keys : List Json} :
    CaughtOnly (OIDCClient.matchingKeys kid keys) ↔ ∀ key ∈ keys, IsObject key := by
  induction keys with
  | nil => simp [OIDCClient.matchingKeys]
  | cons key keys ih =>
    cases key with
    | dict entries =>
      unfold OIDCClient.matchingKeys
      rw [caughtOnly_bind, ih]
      simp [IsObject]
    | _ => simp [OIDCClient.matchingKeys, IsObject, PyError.caught]

lemma caughtOnly_iterateKeys {kid : Option Str} {keys : Json} :
    CaughtOnly (OIDCClient.iterateKeys kid keys) ↔ IsKeySet keys := by
  cases keys with
  | list keys => exact caughtOnly_matchingKeys
  | str value =>
    simp only [OIDCClient.iterateKeys, IsKeySet]
    split
    · next h => simp [h]
    · next h => simp [h, PyError.caught]
  | dict entries =>
    cases entries with
    | nil => simp [OIDCClient.iterateKeys, IsKeySet]
    | cons entry entries => simp [OIDCClient.iterateKeys, IsKeySet, PyError.caught]
  | _ => simp [OIDCClient.iterateKeys, IsKeySet, PyError.caught]

lemma caughtOnly_signingKey {document : Json} {kid : Option Str} :
    CaughtOnly (OIDCClient.signingKey document kid) ↔ HasKeySet document := by
  unfold OIDCClient.signingKey
  rw [caughtOnly_bind, caughtOnly_getMember]
  constructor
  · rintro ⟨⟨entries, rfl⟩, h⟩
    exact ⟨entries, rfl, caughtOnly_iterateKeys.mp (caughtOnly_bind.mp (h _ rfl)).1⟩
  · rintro ⟨entries, rfl, hkeys⟩
    refine ⟨⟨entries, rfl⟩, ?_⟩
    rintro _ ⟨⟩
    refine caughtOnly_bind.mpr ⟨caughtOnly_iterateKeys.mpr hkeys, fun keys _ => ?_⟩
    split
    · exact caughtOnly_ok _
    · exact (caughtOnly_error _).mpr rfl

/-- A successful response whose body is not a JSON object. -/
def Response.Malformed (r : Response) : Prop :=
  (200 ≤ r.status ∧ r.status ≤ 299) ∧ ∀ document, r.body = some document → ¬IsObject document

/-- A response from whose body no signing key can be selected. -/
def Response.Keyless (r : Response) : Prop := ∀ document, r.body = some document → ¬HasKeySet document

lemma raiseForStatus_ok {r : Response} {u : Unit} (h : r.raiseForStatus = .ok u) :
    200 ≤ r.status ∧ r.status ≤ 299 := by
  unfold Response.raiseForStatus at h
  split at h
  · assumption
  · cases h

lemma raiseForStatus_error {r : Response} {e : PyError} (h : r.raiseForStatus = .error e) :
    e.caught = true ∧ ¬r.Malformed := by
  unfold Response.raiseForStatus at h
  split at h
  · cases h
  · next hs =>
    cases h
    exact ⟨rfl, fun hm => hs hm.1⟩

/-- Reading the body of a successful response raises an uncaught exception exactly when it is
malformed, if reading an object raises none. -/
lemma caughtOnly_body {r : Response} {f : Json → Except PyError α} (hs : 200 ≤ r.status ∧ r.status ≤ 299)
    (hf : ∀ document, CaughtOnly (f document) ↔ IsObject document) :
    CaughtOnly (r.json >>= f) ↔ ¬r.Malformed := by
  unfold Response.json Response.Malformed
  cases r.body with
  | none => simp [bind, Except.bind, PyError.caught, hs]
  | some document => simp [bind, Except.bind, hs, hf]

lemma caughtOnly_jwks (r : Response) (kid : Option Str) :
    CaughtOnly (r.json >>= (OIDCClient.signingKey · kid)) ↔ ¬r.Keyless := by
  unfold Response.json Response.Keyless
  cases r.body with
  | none => simp [bind, Except.bind, PyError.caught]
  | some document => simp [bind, Except.bind, caughtOnly_signingKey]

lemma caughtOnly_validatedClaims {nonce : String} {claims : Dict} :
    CaughtOnly (OIDCClient.validatedClaims nonce claims) := by
  unfold OIDCClient.validatedClaims
  refine caughtOnly_bind.mpr ⟨caughtOnly_ensure rfl, fun _ _ => ?_⟩
  split
  · exact caughtOnly_ok _
  · exact (caughtOnly_error _).mpr rfl

lemma caughtOnly_identity {claims : Dict} : CaughtOnly (identity settings crypto claims) := by
  unfold identity
  split
  · exact caughtOnly_ok _
  · exact (caughtOnly_error _).mpr rfl

lemma caughtOnly_opened {value : String} {associatedData : List UInt8} :
    CaughtOnly (opened settings crypto value associatedData) := by
  unfold opened
  split
  · exact (caughtOnly_error _).mpr rfl
  · exact caughtOnly_ok _
  · exact (caughtOnly_error _).mpr rfl

lemma caughtOnly_required_ofStrings {payload : List (String × String)} {key : String} :
    CaughtOnly (required (Json.ofStrings payload) key) := by
  unfold required
  rw [Json.get?_ofStrings]
  cases payload.lookup key with
  | none => exact (caughtOnly_error _).mpr rfl
  | some value =>
    simp only [Option.map_some, Option.bind_some, Json.str?, Str.encode?_ofString]
    split
    · exact (caughtOnly_error _).mpr rfl
    · exact caughtOnly_ok _

end Pentagon5.Auth
