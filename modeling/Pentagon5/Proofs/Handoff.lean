import Pentagon5.Desktop.Platform
import Pentagon5.Proofs.DesktopSession
import Pentagon5.Proofs.Standing
import Pentagon5.Python.Urlencode

/-!
# The handoff to the desktop

Which deep links the window takes for a login, which grant codes its handlers exchange, and that the
code of a completed login arrives unchanged.
-/

namespace Pentagon5.Desktop

open Interleaving Interleaving.Prog Python Web

/-- The fixed parts of a callback URL. -/
structure IsCallback (url : Url) : Prop where
  scheme : url.scheme = "pentagon5"
  hostname : hostname url = "auth".toList
  path : url.path = "/callback"
  username : url.username = ""
  password : url.password.getD "" = ""
  port : url.port = none
  fragment : url.fragment.getD "" = ""

/-- What the one parameter of a callback URL says. -/
inductive Says (name text : String) : ParsedAuthCallback → Prop where
  | code (hname : name = "code") (hmin : 32 ≤ Client.units text) (hmax : Client.units text ≤ 512) :
      Says name text ⟨some text, none⟩
  | error (hname : name = "error") (h : text ≠ "") : Says name text ⟨none, some text⟩

lemma protocol_eq {url : Url} : protocol url = CALLBACK_SCHEME ↔ url.scheme = "pentagon5" := by
  have hscheme : CALLBACK_SCHEME = "pentagon5" ++ ":" := by decide
  rw [protocol, hscheme]
  constructor
  · intro h
    have hlist := congrArg String.toList h
    rw [String.toList_append, String.toList_append] at hlist
    exact String.toList_inj.mp (List.append_cancel_right hlist)
  · intro h
    rw [h]

lemma hash_eq {url : Url} : hash url = "" ↔ url.fragment.getD "" = "" := by
  unfold hash
  split
  · next h =>
    rw [h]
    exact iff_of_true rfl rfl
  · next fragment h =>
    rw [h, Option.getD_some]
    split_ifs with hempty
    · exact iff_of_true rfl hempty
    · refine iff_of_false (fun heq => ?_) hempty
      have hlist := congrArg String.toList heq
      rw [String.toList_append] at hlist
      cases hlist

lemma truthy_of_ne {text : String} (h : text ≠ "") : truthy (some text) = some text := by
  simp [truthy, h]

lemma ne_empty_of_units {text : String} (h : 32 ≤ Client.units text) : text ≠ "" := by
  rintro rfl
  have hunits : Client.units "" = 0 := by decide
  omega

lemma readParameters_code {text : String} (hmin : 32 ≤ Client.units text) (hmax : Client.units text ≤ 512) :
    readParameters [("code", text)] = .ok ⟨some text, none⟩ := by
  have hcode : truthy ([("code", text)].lookup "code") = some text := truthy_of_ne (ne_empty_of_units hmin)
  have herror : truthy ([("code", text)].lookup "error") = none := rfl
  have hlength : ¬(some text).any fun code : String => Client.units code < 32 ∨ 512 < Client.units code := by
    rw [Option.any_some, decide_eq_true_eq]
    omega
  rw [readParameters, if_neg (by simp)]
  simp only [hcode, herror]
  rw [if_neg (by simp), if_neg hlength]

lemma readParameters_error {text : String} (h : text ≠ "") :
    readParameters [("error", text)] = .ok ⟨none, some text⟩ := by
  have hcode : truthy ([("error", text)].lookup "code") = none := rfl
  have herror : truthy ([("error", text)].lookup "error") = some text := truthy_of_ne h
  rw [readParameters, if_neg (by simp)]
  simp only [hcode, herror]
  rw [if_neg (by simp), if_neg (by simp)]

lemma says_of_readParameters {name text : String} {r : ParsedAuthCallback}
    (h : readParameters [(name, text)] = .ok r) : Says name text r := by
  rw [readParameters, if_neg (by simp)] at h
  dsimp only at h
  split_ifs at h with hresult hlength
  obtain rfl := Except.ok.inj h
  by_cases hempty : text = ""
  · have hnone (key : String) : truthy ([(name, text)].lookup key) = none := by
      rw [List.lookup_cons, List.lookup_nil, hempty]
      split <;> rfl
    exact absurd (.inr ⟨hnone _, hnone _⟩) hresult
  by_cases hcode : name = "code"
  · subst hcode
    have hsome : truthy ([("code", text)].lookup "code") = some text := truthy_of_ne hempty
    rw [hsome] at hlength ⊢
    rw [Option.any_some, decide_eq_true_eq] at hlength
    exact .code rfl (by omega) (by omega)
  by_cases herror : name = "error"
  · subst herror
    have hsome : truthy ([("error", text)].lookup "error") = some text := truthy_of_ne hempty
    rw [hsome]
    exact .error rfl hempty
  · have hnone {key : String} (hkey : name ≠ key) : truthy ([(name, text)].lookup key) = none := by
      rw [List.lookup_cons, beq_false_of_ne (Ne.symm hkey)]
      rfl
    exact absurd (.inr ⟨hnone hcode, hnone herror⟩) hresult

lemma readParameters_eq_ok {entries : List (String × String)} {r : ParsedAuthCallback} :
    readParameters entries = .ok r ↔ ∃ name text, entries = [(name, text)] ∧ Says name text r := by
  constructor
  · intro h
    by_cases hlength : entries.length = 1
    · obtain ⟨⟨name, text⟩, rfl⟩ := List.length_eq_one_iff.mp hlength
      exact ⟨name, text, rfl, says_of_readParameters h⟩
    · rw [readParameters, if_pos hlength] at h
      cases h
  · rintro ⟨name, text, rfl, hsays⟩
    cases hsays with
    | code hname hmin hmax =>
      rw [hname]
      exact readParameters_code hmin hmax
    | error hname h =>
      rw [hname]
      exact readParameters_error h

variable {parse : Str → Option Url} {value : Str}

/-- The window takes exactly the callback URLs with one parameter that says something. -/
lemma parseAuthCallback_eq_ok {r : ParsedAuthCallback} :
    parseAuthCallback parse value = .ok r ↔ ∃ url, parse value = some url ∧ IsCallback url ∧
      ∃ name text, searchParams url = [(name, text)] ∧ Says name text r := by
  unfold parseAuthCallback
  cases hurl : parse value with
  | none => simp
  | some url =>
    dsimp only
    by_cases haddress : protocol url ≠ CALLBACK_SCHEME ∨ hostname url ≠ "auth".toList ∨ url.path ≠ "/callback"
    · rw [if_pos haddress]
      refine iff_of_false nofun ?_
      rintro ⟨url', heq, hcallback, -⟩
      obtain rfl := Option.some.inj heq
      rcases haddress with h | h | h
      · exact h (protocol_eq.mpr hcallback.scheme)
      · exact h hcallback.hostname
      · exact h hcallback.path
    · rw [if_neg haddress]
      by_cases hparts : url.username ≠ "" ∨ url.password.getD "" ≠ "" ∨ url.port ≠ none ∨ hash url ≠ ""
      · rw [if_pos hparts]
        refine iff_of_false nofun ?_
        rintro ⟨url', heq, hcallback, -⟩
        obtain rfl := Option.some.inj heq
        rcases hparts with h | h | h | h
        · exact h hcallback.username
        · exact h hcallback.password
        · exact h hcallback.port
        · exact h (hash_eq.mpr hcallback.fragment)
      · rw [if_neg hparts]
        push Not at haddress hparts
        have hcallback : IsCallback url :=
          ⟨protocol_eq.mp haddress.1, haddress.2.1, haddress.2.2, hparts.1, hparts.2.1, hparts.2.2.1,
            hash_eq.mp hparts.2.2.2⟩
        rw [readParameters_eq_ok]
        constructor
        · intro h
          exact ⟨url, rfl, hcallback, h⟩
        · rintro ⟨url', heq, -, h⟩
          obtain rfl := Option.some.inj heq
          exact h

/-- The value is a callback URL that brings this grant code. -/
def HandsOver (parse : Str → Option Url) (value : Str) (code : String) : Prop :=
  ∃ url, parse value = some url ∧ IsCallback url ∧ searchParams url = [("code", code)] ∧
    32 ≤ Client.units code ∧ Client.units code ≤ 512

lemma handsOver_iff {code : String} :
    HandsOver parse value code ↔ parseAuthCallback parse value = .ok ⟨some code, none⟩ := by
  rw [parseAuthCallback_eq_ok]
  constructor
  · rintro ⟨url, hurl, hcallback, hparams, hmin, hmax⟩
    exact ⟨url, hurl, hcallback, _, _, hparams, .code rfl hmin hmax⟩
  · rintro ⟨url, hurl, hcallback, name, text, hparams, hsays⟩
    cases hsays with
    | code hname hmin hmax =>
      subst hname
      exact ⟨url, hurl, hcallback, hparams, hmin, hmax⟩

/-- What the window takes is a grant code or an error. -/
lemma parsed_cases {r : ParsedAuthCallback} (h : parseAuthCallback parse value = .ok r) :
    (∃ code, r = ⟨some code, none⟩ ∧ truthy r.code = some code) ∨
      ∃ error, r = ⟨none, some error⟩ ∧ truthy r.error = some error := by
  obtain ⟨url, -, -, name, text, -, hsays⟩ := parseAuthCallback_eq_ok.mp h
  cases hsays with
  | code hname hmin hmax => exact .inl ⟨text, rfl, truthy_of_ne (ne_empty_of_units hmin)⟩
  | error hname herror => exact .inr ⟨text, rfl, truthy_of_ne herror⟩

/-- The grant code that a call exchanges. -/
def exchangedCode : Call → Option String
  | .exchangeOidcGrant code => some code
  | _ => none

/-- The grant codes that were exchanged, latest first. -/
def exchanged (done : List (Done Answer JsError)) : List String := done.filterMap fun d => exchangedCode d.call

/-- A handler brings this grant code to the window. -/
def Brings (parse : Str → Option Url) (handler : Handler) (code : String) : Prop :=
  ∃ value, handler = .callback value ∧ HandsOver parse value code

/-- A call to the state of the window failed, which does not happen. -/
def Failed (done : List (Done Answer JsError)) : Prop := ∃ update e, ⟨.update update, .error e⟩ ∈ done

section

variable {handler : Handler} {done : List (Done Answer JsError)} {isBlank : String → Bool}

/-- A handler exchanges only a code that it brings, and only once. -/
def Exchanges (parse : Str → Option Url) (handler : Handler) (done : List (Done Answer JsError))
    (call : Call) : Prop :=
  ∀ code, exchangedCode call = some code → Brings parse handler code ∧ exchanged done = []

/-- A handler that has ended exchanged the code that it brings. -/
def Exchanged (parse : Str → Option Url) (handler : Handler) (done : List (Done Answer JsError)) : Prop :=
  (∀ code, Brings parse handler code → code ∈ exchanged done) ∨ Failed done

lemma exchanges_of_none {call : Call} (h : exchangedCode call = none) : Exchanges parse handler done call := by
  intro code hcode
  rw [h] at hcode
  cases hcode

lemma exchanged_cons {d : Done Answer JsError} (h : exchangedCode d.call = none) :
    exchanged (d :: done) = exchanged done := List.filterMap_cons_none h

lemma exchanged_cons_some {d : Done Answer JsError} {code : String} (h : exchangedCode d.call = some code) :
    exchanged (d :: done) = code :: exchanged done := List.filterMap_cons_some h

lemma Exchanged.cons (h : Exchanged parse handler done) (d : Done Answer JsError) :
    Exchanged parse handler (d :: done) := by
  rcases h with h | ⟨update, e, he⟩
  · left
    intro code hcode
    obtain ⟨a, ha, hcall⟩ := List.mem_filterMap.mp (h code hcode)
    exact List.mem_filterMap.mpr ⟨a, List.mem_cons_of_mem _ ha, hcall⟩
  · exact .inr ⟨update, e, List.mem_cons_of_mem _ he⟩

lemma exchanged_of_not_brings (h : ∀ code, ¬Brings parse handler code) : Exchanged parse handler done :=
  .inl fun code hcode => absurd hcode (h code)

/-- The handlers that make a call. -/
def Handler.makes : Handler → Call → Bool
  | startup, .getStatus | startup, .getSession _ | startup, .loadToken | startup, .deleteToken
  | startup, .active | startup, .update _ => true
  | login, .beginOidcLogin _ | login, .getOrCreateDeviceKey | login, .openOidcLogin _ | login, .update _ => true
  | callback _, .exchangeOidcGrant _ | callback _, .storeToken _ | callback _, .update _ => true
  | logout, .logout _ | logout, .token | logout, .deleteToken | logout, .update _ => true
  | _, _ => false

/-- A program that makes only calls of the handler. -/
abbrev Makes {α : Type} (handler : Handler) (done : List (Done Answer JsError)) (task : Task α) : Prop :=
  Meets (fun _ call => handler.makes call = true) (fun _ _ => True) done task

lemma makes_authenticate (opaqueToken : String) : Makes .startup done (authenticate opaqueToken) := by
  refine ⟨rfl, fun r => ?_⟩
  cases r with
  | ok user => exact ⟨rfl, fun _ => trivial⟩
  | error e => exact ⟨rfl, fun _ => ⟨rfl, fun _ => trivial⟩⟩

lemma makes_startup : Makes .startup done startup := by
  refine ⟨rfl, fun saved => ⟨rfl, fun status => ⟨rfl, fun active => ?_⟩⟩⟩
  cases active with
  | error e => exact trivial
  | ok active =>
    cases active with
    | false => exact trivial
    | true =>
      cases saved with
      | error e => exact ⟨rfl, fun _ => trivial⟩
      | ok saved =>
        cases status with
        | error e => exact ⟨rfl, fun _ => trivial⟩
        | ok status =>
          rcases htoken : truthy saved with _ | token
          · simp only [htoken]
            exact ⟨rfl, fun _ => trivial⟩
          · simp only [htoken]
            exact makes_authenticate token

/-- A `catch` block that only updates the window. -/
lemma makes_tryCatch {task : Task Unit} {update : Update} (h : Makes handler done task)
    (hupdate : handler.makes (.update update) = true) : Makes handler done (tryCatch task (setState update)) := by
  apply meets_handle
  refine h.mono (fun _ _ hmakes => hmakes) fun d r _ => ?_
  cases r with
  | ok u => exact trivial
  | error e => exact ⟨hupdate, fun _ => trivial⟩

lemma makes_login : Makes .login done login := by
  refine meets_perform_bind.mpr ⟨rfl, fun _ => makes_tryCatch ?_ rfl, fun e => trivial⟩
  refine meets_perform_bind.mpr ⟨rfl, fun deviceKey => ?_, fun e => trivial⟩
  refine meets_perform_bind.mpr ⟨rfl, fun url => ?_, fun e => trivial⟩
  exact ⟨rfl, fun _ => trivial⟩

lemma makes_handleCallback {parseAuthCallback : Str → Except JsError ParsedAuthCallback} (callbackUrl : Str) :
    Makes (.callback callbackUrl) done (handleCallback parseAuthCallback callbackUrl) := by
  refine meets_perform_bind.mpr ⟨rfl, fun _ => makes_tryCatch ?_ rfl, fun e => trivial⟩
  refine meets_ofExcept_bind.mpr ⟨fun callback _ => ?_, fun e _ => trivial⟩
  split
  · exact ⟨rfl, fun _ => trivial⟩
  · exact trivial
  · refine meets_perform_bind.mpr ⟨rfl, fun result => ?_, fun e => trivial⟩
    exact meets_perform_bind.mpr ⟨rfl, fun _ => ⟨rfl, fun _ => trivial⟩, fun e => trivial⟩

lemma makes_revoke (token : Option String) : Makes .logout done (revoke isBlank token) := by
  unfold revoke
  split
  · exact trivial
  · split_ifs
    · exact trivial
    · exact ⟨rfl, fun _ => trivial⟩

lemma makes_logout : Makes .logout done (logout isBlank) := by
  refine meets_perform_bind.mpr ⟨rfl, fun token => meets_bind ?_, fun e => trivial⟩
  refine (makes_revoke token).mono (fun _ _ h => h) fun d r _ => ?_
  cases r with
  | error e => exact trivial
  | ok u => exact meets_perform_bind.mpr ⟨rfl, fun _ => ⟨rfl, fun _ => trivial⟩, fun e => trivial⟩

/-- Every handler makes only its own calls. -/
lemma makes_task {parseAuthCallback : Str → Except JsError ParsedAuthCallback} (handler : Handler) :
    Makes handler [] (handler.task parseAuthCallback isBlank) := by
  cases handler with
  | startup => exact makes_startup
  | login => exact makes_login
  | callback callbackUrl => exact makes_handleCallback callbackUrl
  | logout => exact makes_logout

lemma not_brings (h : ∀ value, handler ≠ .callback value) (code : String) : ¬Brings parse handler code := by
  rintro ⟨value, heq, -⟩
  exact h value heq

/-- Only a callback exchanges a code. -/
lemma exchangedCode_of_makes {call : Call} (h : handler.makes call = true)
    (hcallback : ∀ value, handler ≠ .callback value) : exchangedCode call = none := by
  cases handler with
  | callback value => exact absurd rfl (hcallback value)
  | startup => cases call <;> first | rfl | cases h
  | login => cases call <;> first | rfl | cases h
  | logout => cases call <;> first | rfl | cases h

/-- A handler without a callback exchanges nothing. -/
lemma meets_of_makes {task : Task Unit} (h : Makes handler done task) (hcallback : ∀ value, handler ≠ .callback value) :
    Meets (Exchanges parse handler) (fun d _ => Exchanged parse handler d) done task :=
  h.mono (fun _ _ hmakes => exchanges_of_none (exchangedCode_of_makes hmakes hcallback))
    fun _ _ _ => exchanged_of_not_brings (not_brings hcallback)

lemma meets_update (h : Exchanged parse handler done) (update : Update) :
    Meets (Exchanges parse handler) (fun d _ => Exchanged parse handler d) done (setState update) :=
  ⟨exchanges_of_none rfl, fun _ => h.cons _⟩

lemma exchange_exchangeGrant (hdone : exchanged done = []) :
    Meets (Exchanges parse (.callback value)) (fun d _ => Exchanged parse (.callback value) d) done
      (exchangeGrant (callbackParser parse) value) := by
  have hbrings {code : String} (h : Brings parse (.callback value) code) :
      parseAuthCallback parse value = .ok ⟨some code, none⟩ := by
    obtain ⟨value', heq, hover⟩ := h
    cases heq
    exact handsOver_iff.mp hover
  apply meets_ofExcept_bind.mpr
  rw [callbackParser]
  cases hparse : parseAuthCallback parse value with
  | error e =>
    refine ⟨nofun, fun e _ => exchanged_of_not_brings fun code hcode => ?_⟩
    rw [hbrings hcode] at hparse
    cases hparse
  | ok callback =>
    refine ⟨fun callback' heq => ?_, nofun⟩
    obtain rfl : callback = callback' := Except.ok.inj heq
    rcases parsed_cases hparse with ⟨code, rfl, hcode⟩ | ⟨error, rfl, herror⟩
    · have hnone : truthy (ParsedAuthCallback.mk (some code) none).error = none := rfl
      simp only [hnone, hcode]
      have hthis : Brings parse (.callback value) code := ⟨value, rfl, handsOver_iff.mpr hparse⟩
      have hexchanged (r : Except JsError (Answer (.exchangeOidcGrant code))) :
          Exchanged parse (.callback value) (⟨.exchangeOidcGrant code, r⟩ :: done) := by
        left
        intro code' hcode'
        have heq := (hbrings hcode').symm.trans hparse
        cases heq
        exact List.mem_filterMap.mpr ⟨_, List.mem_cons_self, rfl⟩
      refine meets_perform_bind.mpr ⟨?_, fun result => ?_, fun e => hexchanged _⟩
      · intro code' hcode'
        obtain rfl := Option.some.inj hcode'
        exact ⟨hthis, hdone⟩
      · refine meets_perform_bind.mpr ⟨exchanges_of_none rfl, fun _ => ?_, fun e => (hexchanged _).cons _⟩
        exact meets_update ((hexchanged _).cons _) _
    · simp only [herror]
      refine meets_update (exchanged_of_not_brings fun code hcode => ?_) _
      have heq := (hbrings hcode).symm.trans hparse
      cases heq

lemma exchange_handleCallback (hdone : exchanged done = []) :
    Meets (Exchanges parse (.callback value)) (fun d _ => Exchanged parse (.callback value) d) done
      (handleCallback (callbackParser parse) value) := by
  refine meets_perform_bind.mpr ⟨exchanges_of_none rfl, fun _ => ?_, fun e => ?_⟩
  · apply meets_handle
    refine (exchange_exchangeGrant ((exchanged_cons rfl).trans hdone)).mono (fun _ _ h => h) fun d r h => ?_
    cases r with
    | ok u => exact h
    | error e => exact meets_update h _
  · exact .inr ⟨_, e, List.mem_cons_self⟩

lemma exchange_task (handler : Handler) :
    Meets (Exchanges parse handler) (fun d _ => Exchanged parse handler d) []
      (handler.task (callbackParser parse) isBlank) := by
  cases handler with
  | startup => exact meets_of_makes makes_startup nofun
  | login => exact meets_of_makes makes_login nofun
  | callback callbackUrl => exact exchange_handleCallback rfl
  | logout => exact meets_of_makes makes_logout nofun

variable {c : State}

/-- What a handler has exchanged after calls that it made as above. -/
lemma exchanged_cases (h : ∀ t₁ d t₀, done = t₁ ++ d :: t₀ → Exchanges parse handler t₀ d.call) :
    exchanged done = [] ∨ ∃ code, exchanged done = [code] ∧ Brings parse handler code := by
  induction done with
  | nil => exact .inl rfl
  | cons d done ih =>
    cases hcode : exchangedCode d.call with
    | none =>
      rw [exchanged_cons hcode]
      exact ih fun t₁ a t₀ hsplit => h (d :: t₁) a t₀ (congrArg (d :: ·) hsplit)
    | some code =>
      obtain ⟨hbrings, hnone⟩ := h [] d done rfl code hcode
      refine .inr ⟨code, ?_, hbrings⟩
      rw [exchanged_cons_some hcode, hnone]

/-- The window never fails to update its state. -/
lemma not_failed (hc : Reachable (app (callbackParser parse) isBlank) Initial c) (i : ℕ) :
    ¬Failed (own i c.history) := by
  rintro ⟨update, e, he⟩
  obtain ⟨a, ha, -, hdone⟩ := mem_own.mp he
  obtain ⟨h₁, h₀, -, ⟨P⟩⟩ := hc.performed_mem ha
  have hanswered := P.answered
  rw [hdone] at hanswered
  cases congrArg Prod.fst hanswered

/-- In every run of the window a handler exchanges at most one grant code, and only one that its deep link
brings: the link parses to the callback address with nothing but this one parameter, whose decoded value
is the code. When the handler has ended, it has exchanged every such code. -/
theorem exchanged_of_run (hc : Reachable (app (callbackParser parse) isBlank) Initial c) {i : ℕ}
    {program : Task Unit} (ht : c.threads i = some ⟨handler, program⟩) :
    (exchanged (own i c.history) = [] ∨
      ∃ code, exchanged (own i c.history) = [code] ∧ Brings parse handler code) ∧
    ∀ r, program = .ret r → ∀ code, exchanged (own i c.history) = [code] ↔ Brings parse handler code := by
  have hcases := exchanged_cases fun t₁ d t₀ h => hc.asked exchange_task ht h
  refine ⟨hcases, fun r hr code => ?_⟩
  have hended : Exchanged parse handler (own i c.history) := by
    have hmeets := hc.meets exchange_task ht
    rw [hr] at hmeets
    exact hmeets
  have hall := hended.resolve_right (not_failed hc i)
  constructor
  · intro h
    rcases hcases with hnone | ⟨code', hcode', hbrings⟩
    · rw [h] at hnone
      cases hnone
    · rw [h] at hcode'
      cases hcode'
      exact hbrings
  · intro hbrings
    have hmem := hall code hbrings
    rcases hcases with hnone | ⟨code', hcode', -⟩
    · rw [hnone] at hmem
      cases hmem
    · rw [hcode'] at hmem ⊢
      rw [List.mem_singleton.mp hmem]

end

/-- What the URL standard makes of the callback address with a query. -/
def callbackUrl (query : String) : Url where
  scheme := "pentagon5"
  username := ""
  password := none
  host := some (.other "auth".toList)
  port := none
  path := "/callback"
  query := some query
  fragment := none
  special := by decide

/-- The parser reads the callback address with a query of unreserved characters and escapes. -/
def ReadsCallbacks (parse : Str → Option Url) : Prop :=
  ∀ query : String, (∀ c ∈ query.toList, isFormChar c = true) →
    parse ("pentagon5://auth/callback?" ++ query : String) = some (callbackUrl query)

/-- The address that brings a grant code, as `complete_login` builds it. -/
def redirectTo (desktopCallbackUri code : String) : String :=
  desktopCallbackUri ++ "?" ++ urlencode [("code", code)]

/-- Every grant code of 32 to 512 units arrives unchanged. -/
lemma handsOver_redirectTo (h : ReadsCallbacks parse) {code : String} (hmin : 32 ≤ Client.units code)
    (hmax : Client.units code ≤ 512) :
    HandsOver parse (redirectTo "pentagon5://auth/callback" code) code := by
  have haddress : redirectTo "pentagon5://auth/callback" code =
      "pentagon5://auth/callback?" ++ urlencode [("code", code)] := by
    rw [redirectTo, show "pentagon5://auth/callback?" = "pentagon5://auth/callback" ++ "?" by decide +kernel]
  have hparams : searchParams (callbackUrl (urlencode [("code", code)])) = [("code", code)] := by
    rw [searchParams, callbackUrl, Option.getD_some, parse_urlencode]
    simp
  refine ⟨callbackUrl (urlencode [("code", code)]), ?_, ⟨rfl, rfl, rfl, rfl, rfl, rfl, rfl⟩, hparams, hmin, hmax⟩
  rw [haddress]
  exact h _ (isFormChar_urlencode _)

end Pentagon5.Desktop

namespace Pentagon5.Auth

open Interleaving Interleaving.Prog Python AuthenticationService

variable {settings : AuthSettings} {crypto : Primitives}

/-- The redirection of a login goes to the desktop with its code. -/
def Redirected (settings : AuthSettings) (login : LoginRedirect) : Prop :=
  login.redirectUri = Desktop.redirectTo settings.desktopCallbackUri login.code

/-- What is redirected goes to the desktop. -/
def RedirectsTo {α : Type} (redirect : α → Option LoginRedirect) (settings : AuthSettings) (r : Except PyError α) :
    Prop := ∀ a login, r = .ok a → redirect a = some login → Redirected settings login

lemma redirects_error {α : Type} {redirect : α → Option LoginRedirect} (e : PyError) :
    RedirectsTo redirect settings (.error e) := by
  intro a login h
  cases h

lemma redirected_completeLogin (state code : String) (t : Trace) :
    Meets (fun _ _ => True) (fun _ r => RedirectsTo some settings r) t
      (completeLogin settings crypto state code) := by
  refine meets_result_bind (fun _ _ => ?_) redirects_error
  refine meets_result_bind (fun _ now => ?_) redirects_error
  refine meets_result_bind (fun _ flow => ?_) redirects_error
  cases flow with
  | none => exact redirects_error _
  | some flow =>
    refine meets_result_bind (fun _ _ => ?_) redirects_error
    refine meets_result_bind (fun _ payload => ?_) redirects_error
    refine meets_result_bind (fun _ verifier => ?_) redirects_error
    refine meets_result_bind (fun _ nonce => ?_) redirects_error
    refine meets_result_bind (fun _ claims => ?_) redirects_error
    refine meets_result_bind (fun _ identity => ?_) redirects_error
    refine meets_result_bind (fun _ userId => ?_) redirects_error
    refine meets_result_bind (fun _ deviceKey => ?_) redirects_error
    refine meets_result_bind (fun _ platform => ?_) redirects_error
    refine meets_result_bind (fun _ deviceId => ?_) redirects_error
    refine meets_result_bind (fun _ token => ?_) redirects_error
    refine meets_result_bind (fun _ session => ?_) redirects_error
    refine meets_result_bind (fun _ resolved => ?_) redirects_error
    cases resolved with
    | none => exact redirects_error _
    | some principal =>
      refine meets_result_bind (fun _ grantCode => ?_) redirects_error
      refine meets_result_bind (fun _ sealing => ?_) redirects_error
      refine meets_result_bind (fun _ _ => ?_) redirects_error
      rintro _ login ⟨⟩ ⟨⟩
      rfl

/-- The login of a reply. -/
def Reply.login : Reply → Option LoginRedirect
  | .redirect login => some login
  | _ => none

lemma redirects_pure {t : Trace} {reply : Reply} (h : reply.login = none) :
    Meets (fun _ _ => True) (fun _ r => RedirectsTo Reply.login settings r) t (pure reply : Async Reply) := by
  rintro _ login ⟨⟩ hlogin
  rw [h] at hlogin
  cases hlogin

lemma redirected_operation (operation : Operation) (principal : Principal) (t : Trace) :
    Meets (fun _ _ => True) (fun _ r => RedirectsTo Reply.login settings r) t
      (operation.serve settings crypto principal) := by
  cases operation with
  | session => exact redirects_pure rfl
  | logout => exact meets_result_bind (fun _ _ => redirects_pure rfl) redirects_error
  | devices => exact meets_result_bind (fun _ _ => redirects_pure rfl) redirects_error
  | revokeDevice deviceId => exact meets_result_bind (fun _ _ => redirects_pure rfl) redirects_error
  | issueWsTicket channel => exact meets_result_bind (fun _ _ => redirects_pure rfl) redirects_error

/-- What a request returns, whatever its calls answer. -/
abbrev Redirects (settings : AuthSettings) (_ : Request) (_ : Trace) (r : Except PyError Reply) : Prop :=
  RedirectsTo Reply.login settings r

lemma redirected_serve (q : Request) :
    Meets (fun _ _ => True) (Redirects settings q) [] (q.serve settings crypto) := by
  cases q with
  | startLogin deviceKey platform => exact meets_result_bind (fun _ _ => redirects_pure rfl) redirects_error
  | completeLogin state code =>
    refine meets_bind ((redirected_completeLogin state code []).mono (fun _ _ h => h) fun t r h => ?_)
    cases r with
    | error e => exact redirects_error e
    | ok login =>
      rintro _ login' ⟨⟩ ⟨⟩
      exact h login login rfl rfl
  | exchangeLoginGrant code => exact meets_result_bind (fun _ _ => redirects_pure rfl) redirects_error
  | authenticated token operation =>
    exact meets_result_bind (fun t principal => redirected_operation operation principal t) redirects_error
  | websocket ticket channel => exact meets_result_bind (fun _ _ => redirects_pure rfl) redirects_error

/-- A completed login redirects to the desktop with its code, which has 43 characters. -/
lemma redirected_of_run {c : State} (hc : Run settings crypto c) {j : ℕ} {state code : String}
    {login : LoginRedirect} (hj : c.threads j = some ⟨.completeLogin state code, .ret (.ok (.redirect login))⟩) :
    login.redirectUri = Desktop.redirectTo settings.desktopCallbackUri login.code ∧ login.code.length = 43 ∧
      ∀ a ∈ login.code.toList, isTokenChar a = true := by
  have hredirect := hc.meets redirected_serve hj
  obtain ⟨-, -, -, hdrawn, -⟩ := hc.meets serve_meets hj
  exact ⟨hredirect _ login rfl rfl, drawn_text hc hdrawn⟩

end Pentagon5.Auth

namespace Pentagon5.Desktop

open Interleaving Python Web

lemma toNat_lt_of_isAlphanum {c : Char} (h : c.isAlphanum = true) : c.toNat < 128 := by
  delta Char.isAlphanum at h
  delta Char.isAlpha Char.isDigit at h
  delta Char.isUpper Char.isLower at h
  simp [UInt32.le_iff_toNat_le] at h
  omega

lemma units_of_isTokenChar {text : String} (h : ∀ c ∈ text.toList, Auth.isTokenChar c = true) :
    Client.units text = text.length := by
  have hone : ∀ c ∈ text.toList, (if 0x10000 ≤ c.toNat then 2 else 1) = 1 := by
    intro c hc
    have htoken := h c hc
    rw [Auth.isTokenChar, decide_eq_true_eq] at htoken
    have hlt : c.toNat < 0x10000 := by
      rcases htoken with halnum | rfl | rfl
      · exact (toNat_lt_of_isAlphanum halnum).trans (by decide)
      · decide
      · decide
    exact if_neg (by omega)
  rw [Client.units, Str.ofString_codes, List.map_map, ← String.length_toList]
  have hmap : text.toList.map ((fun c => if 0x10000 ≤ c then 2 else 1) ∘ Char.toNat) =
      text.toList.map fun _ => 1 := List.map_congr_left hone
  rw [hmap, List.map_const', List.sum_replicate_nat, Nat.mul_one]

/-- The grant code of a completed login arrives at the window unchanged: a handler that has ended with the
redirection of the login exchanged exactly its code. More generally every code of 32 to 512 units arrives. -/
theorem handoff {parse : Str → Option Url} (h : ReadsCallbacks parse) :
    (∀ code : String, 32 ≤ Client.units code → Client.units code ≤ 512 →
      HandsOver parse (redirectTo "pentagon5://auth/callback" code) code) ∧
    ∀ {settings : Auth.AuthSettings} {crypto : Auth.Primitives} {a : Auth.State} {isBlank : String → Bool}
      {d : State}, settings.desktopCallbackUri = "pentagon5://auth/callback" → Auth.Run settings crypto a →
      Reachable (app (callbackParser parse) isBlank) Initial d → ∀ {j i state code login r},
      a.threads j = some ⟨.completeLogin state code, .ret (.ok (.redirect login))⟩ →
      d.threads i = some ⟨.callback login.redirectUri, .ret r⟩ → exchanged (own i d.history) = [login.code] := by
  refine ⟨fun code hmin hmax => handsOver_redirectTo h hmin hmax, ?_⟩
  intro settings crypto a isBlank d huri ha hd j i state code login r hj hi
  obtain ⟨hredirect, hlength, hchars⟩ := Auth.redirected_of_run ha hj
  have hunits := units_of_isTokenChar hchars
  have hover : HandsOver parse login.redirectUri login.code := by
    rw [hredirect, huri]
    exact handsOver_redirectTo h (by omega) (by omega)
  exact ((exchanged_of_run hd hi).2 r rfl login.code).mpr ⟨_, rfl, hover⟩

namespace Sample

/-- A parser that knows the callback address. -/
def parseUrl (value : Str) : Option Url :=
  let address := (Str.ofString "pentagon5://auth/callback?").codes
  if address.isPrefixOf value.codes then
    some (callbackUrl (ofChars ((value.codes.drop address.length).map Char.ofNat)))
  else none

lemma reads_parseUrl : ReadsCallbacks parseUrl := by
  intro query _
  have hcodes : (Str.ofString ("pentagon5://auth/callback?" ++ query)).codes =
      (Str.ofString "pentagon5://auth/callback?").codes ++ query.toList.map Char.toNat := by
    rw [Str.ofString_append, Str.codes_append, Str.ofString_codes query]
  have hquery : (query.toList.map Char.toNat).map Char.ofNat = query.toList := by
    rw [List.map_map]
    exact (List.map_congr_left fun c _ => Char.ofNat_toNat c).trans (List.map_id' _)
  rw [parseUrl, hcodes, if_pos (by simp), List.drop_left, hquery, ofChars_eq, String.ofList_toList]

abbrev window : Machine Answer JsError Env World Handler Unit := app (callbackParser parseUrl) fun _ => false

instance (history : List Event) (ω : Env) (call : Call) : Decidable (window.admissible history ω call) :=
  .isTrue trivial

/-- The window after the redirection of a login. -/
def handed : State :=
  opened.serve window 0 (.callback (redirectTo "pentagon5://auth/callback" (Auth.Sample.token 6))) (List.replicate 4 up)

lemma run_handed : Reachable window Initial handed := by
  have hopened : Reachable window Initial opened := .start rfl
  exact hopened.serve 0 _ _

lemma ended_handed : ∃ r, handed.threads 0 =
    some ⟨.callback (redirectTo "pentagon5://auth/callback" (Auth.Sample.token 6)), .ret r⟩ := by
  have hdone : (handed.result 0).isSome = true ∧ (handed.threads 0).map Thread.request =
      some (.callback (redirectTo "pentagon5://auth/callback" (Auth.Sample.token 6))) := by
    decide +kernel
  obtain ⟨r, hr⟩ := Option.isSome_iff_exists.mp hdone.1
  exact ⟨r, Config.threads_of_result hr hdone.2⟩

end Sample

open Sample in
/-- The window exchanges the code of the link. -/
theorem exchanged_of_run_handed : exchanged (own 0 handed.history) = [Auth.Sample.token 6] := by
  obtain ⟨r, hr⟩ := ended_handed
  have hunits : 32 ≤ Client.units (Auth.Sample.token 6) ∧ Client.units (Auth.Sample.token 6) ≤ 512 := by
    decide +kernel
  exact ((exchanged_of_run run_handed hr).2 r rfl _).mpr
    ⟨_, rfl, handsOver_redirectTo reads_parseUrl hunits.1 hunits.2⟩

open Sample in
/-- The code of the sample login arrives. -/
theorem handoff_loggedIn : exchanged (own 0 handed.history) = [Auth.Sample.token 6] := by
  have hdone : Auth.Sample.redirects (Auth.Sample.token 6) (Auth.Sample.loggedIn.result 1) = true ∧
      (Auth.Sample.loggedIn.threads 1).map Thread.request = some (.completeLogin (Auth.Sample.token 1) "code") := by
    decide +kernel
  obtain ⟨r, hr⟩ := ended_handed
  have hresult := hdone.1
  unfold Auth.Sample.redirects at hresult
  split at hresult
  · next login hlogin =>
    have hj := Config.threads_of_result hlogin hdone.2
    have hcode : login.code = Auth.Sample.token 6 := of_decide_eq_true hresult
    have hredirect : login.redirectUri = redirectTo "pentagon5://auth/callback" login.code :=
      (Auth.redirected_of_run Auth.Sample.run_loggedIn hj).1
    rw [← hcode, ← hredirect] at hr
    rw [← hcode]
    exact (handoff reads_parseUrl).2 rfl Auth.Sample.run_loggedIn run_handed hj hr
  · cases hresult

end Pentagon5.Desktop
