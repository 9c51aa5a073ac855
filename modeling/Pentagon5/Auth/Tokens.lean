import Pentagon5.Auth.Evolution

/-!
# Tokens are drawn once

A token is drawn by one call of one thread, and a thread stores at most one item, under the
fingerprint of a token that it drew. So no two calls of a run store an item under the same
fingerprint.
-/

namespace Pentagon5.Auth

open Python Interleaving AuthenticationService

variable {settings : AuthSettings} {crypto : Primitives} {c : State}

lemma issued_eq {d : Done Answer PyError} {token : String} (h : issued? d = some token) :
    ∃ n, d = ⟨.randomToken n, .ok token⟩ := by
  unfold issued? at h
  split at h
  · next n _ =>
    obtain rfl := Option.some.inj h
    exact ⟨n, rfl⟩
  · cases h

lemma issuedTokens_nodup (hc : Run settings crypto c) : (issuedTokens c.history).Nodup := by
  induction hc with
  | start _ => exact List.nodup_nil
  | @step c c' _ hs ih =>
    cases hs with
    | arrive i q _ => exact ih
    | environment s _ => exact ih
    | perform i q call next ω _ hω =>
      rw [Config.perform_history]
      simp only [issuedTokens, List.filterMap_cons]
      split
      · exact ih
      · next token htoken =>
        refine List.nodup_cons.mpr ⟨?_, ih⟩
        obtain ⟨n, hd⟩ := issued_eq htoken
        obtain ⟨rfl, hans⟩ := Done.mk.inj hd
        have hdrawn := Except.ok.inj (eq_of_heq hans)
        exact hω token (by rw [← hdrawn]; rfl)

/-- A token identifies the thread that drew it. -/
lemma drawn_once (hc : Run settings crypto c) {i j n m : ℕ} {token : String}
    (hi : Did (own i c.history) (.randomToken n) token)
    (hj : Did (own j c.history) (.randomToken m) token) : i = j := by
  obtain ⟨e, he, rfl, hd⟩ := did_own.mp hi
  obtain ⟨e', he', rfl, hd'⟩ := did_own.mp hj
  have hnodup := issuedTokens_nodup hc
  obtain ⟨h₁, h₀, hsplit⟩ := List.append_of_mem he
  by_contra hne
  have hrest : token ∈ issuedTokens (h₁ ++ h₀) := by
    refine List.mem_filterMap.mpr ⟨e', ?_, by rw [hd']; rfl⟩
    rw [hsplit] at he'
    rcases List.mem_append.mp he' with h | h
    · exact List.mem_append_left _ h
    · rcases List.mem_cons.mp h with rfl | h
      · exact absurd rfl hne
      · exact List.mem_append_right _ h
  have hperm : (issuedTokens (e :: (h₁ ++ h₀))).Nodup := by
    rw [hsplit] at hnodup
    exact (List.perm_middle.filterMap _).nodup_iff.mp hnodup
  have hissued : issued? e.done = some token := by rw [hd]; rfl
  simp only [issuedTokens, List.filterMap_cons, hissued, List.nodup_cons] at hperm
  exact hperm.1 hrest

lemma urandom_length (hc : Run settings crypto c) {i n : ℕ} {bytes : List UInt8}
    (h : Did (own i c.history) (.urandom n) bytes) : bytes.length = n := by
  obtain ⟨e, he, -, hd⟩ := did_own.mp h
  obtain ⟨h₁, h₀, -, ⟨P⟩⟩ := hc.performed_mem he
  obtain rfl := Except.ok.inj (congrArg Prod.fst (performed_answer P hd))
  simp [randomBytes]

/-- What `_open` and `_required` find in the payload that `start_login` sealed. -/
lemma opened_flow (hideal : Ideal crypto) {F : Start} (hn : F.sealing.length = 12) {payload : Dict}
    (h : opened settings crypto (F.payload settings crypto) flowPurpose = .ok payload) :
    payload = Json.ofStrings (flowPayload F.verifier F.nonce F.deviceKey F.platform) := by
  rw [Start.payload, opened_sealed hideal hn (by simp [flowPayload]) flowPurpose] at h
  exact (Except.ok.inj h).symm

/-- The call stores an item under the fingerprint `fp`. -/
def Call.stores (fp : String) : Call → Bool
  | .putFlow fp' _ _ _ => fp' = fp
  | .putLoginGrant fp' _ _ => fp' = fp
  | .putWsTicket fp' _ _ _ => fp' = fp
  | _ => false

lemma Call.puts_of_stores {call : Call} {fp : String} (h : call.stores fp = true) : call.puts = true := by
  cases call <;> first | rfl | exact Bool.noConfusion h

lemma stores_token {q : Request} {t : Trace} {call : Call} {fp : String}
    (h : CallSpec settings crypto q t call) (hs : call.stores fp = true) :
    NoPut t ∧ ∃ token, fp = fingerprint settings crypto token ∧ Did t (.randomToken 32) token := by
  cases call with
  | putFlow =>
    obtain rfl := of_decide_eq_true hs
    obtain ⟨hput, F, -, hF, hfp, -⟩ := h
    exact ⟨hput, F.state, hfp, hF.state⟩
  | putLoginGrant =>
    obtain rfl := of_decide_eq_true hs
    obtain ⟨hput, L, code, sealing, -, -, hcode, -, hfp, -⟩ := h
    exact ⟨hput, code, hfp, hcode⟩
  | putWsTicket =>
    obtain rfl := of_decide_eq_true hs
    obtain ⟨hput, token, principal, ticket, now, -, -, -, -, hticket, -, hfp, -⟩ := h
    exact ⟨hput, ticket, hfp, hticket⟩
  | _ => exact Bool.noConfusion hs

/-- No two calls of a run store an item under the same fingerprint. -/
theorem stored_once (hc : Run settings crypto c) (hideal : Ideal crypto) {fp : String}
    {h₁ h₀ : History} {e : Entry Answer PyError Env World} (hsplit : c.history = h₁ ++ e :: h₀)
    (he : e.done.call.stores fp = true) : ∀ e₀ ∈ h₀, e₀.done.call.stores fp = false := by
  intro e₀ he₀
  by_contra hstores
  have hstores : e₀.done.call.stores fp = true := by simpa using hstores
  obtain ⟨P⟩ := hc.performed hsplit
  obtain ⟨h₂, h₃, hsplit₀⟩ := List.append_of_mem he₀
  have hmid : c.history = (h₁ ++ e :: h₂) ++ e₀ :: h₃ := by rw [hsplit, hsplit₀]; simp
  obtain ⟨P₀⟩ := hc.performed hmid
  obtain ⟨hput, token, hfp, hdrawn⟩ := stores_token (performed_spec P) he
  obtain ⟨-, token₀, hfp₀, hdrawn₀⟩ := stores_token (performed_spec P₀) hstores
  obtain rfl : token = token₀ :=
    AuthenticationService.fingerprint_injective hideal (hfp.symm.trans hfp₀)
  -- both calls belong to the thread that drew the token, which stores only one item
  have hthread : e.thread = e₀.thread :=
    drawn_once hc (hdrawn.later hsplit) (hdrawn₀.later hmid)
  have hno := hput e₀.done (mem_own.mpr ⟨e₀, he₀, hthread.symm, rfl⟩)
  rw [Call.puts_of_stores hstores] at hno
  cases hno

/-- The only call that stores an item under a fingerprint. -/
lemma stored_unique (hc : Run settings crypto c) (hideal : Ideal crypto) {fp : String}
    {e e' : Entry Answer PyError Env World} (he : e ∈ c.history) (he' : e' ∈ c.history)
    (hs : e.done.call.stores fp = true) (hs' : e'.done.call.stores fp = true) : e = e' := by
  obtain ⟨h₁, h₀, hsplit⟩ := List.append_of_mem he
  rw [hsplit] at he'
  rcases List.mem_append.mp he' with hlater | hmem
  · obtain ⟨h₂, h₃, rfl⟩ := List.append_of_mem hlater
    have hlast : c.history = h₂ ++ e' :: (h₃ ++ e :: h₀) := by rw [hsplit]; simp
    have := stored_once hc hideal hlast hs' e (by simp)
    rw [hs] at this
    cases this
  · rcases List.mem_cons.mp hmem with rfl | hearlier
    · rfl
    · have := stored_once hc hideal hsplit hs e' hearlier
      rw [hs'] at this
      cases this

end Pentagon5.Auth
