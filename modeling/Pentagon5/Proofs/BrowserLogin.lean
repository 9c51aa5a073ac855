import Pentagon5.Desktop.Shell

/-!
# Which authorization URLs the shell opens

The grammar of the URLs that the shell means to open, and the exact set that it opens. A host text in
brackets is not an address for the standard library, so the loopback address of IPv6 is refused.
-/

namespace Pentagon5.Desktop.Shell

open Web Rust

/-- `localhost` in any case, or a loopback address. -/
def IsLoopbackHost : Host → Prop
  | .domain domain => domain.text.map Char.toLower = "localhost".toList
  | .ipv4 address => address.a = 127
  | .ipv6 address => address.pieces = [0, 0, 0, 0, 0, 0, 0, 1]
  | .other _ => False

/-- A web URL without credentials, in plain HTTP on this machine only. -/
structure Trusted (url : Url) : Prop where
  username : url.username = ""
  password : url.password = none
  web : (url.scheme = "https" ∧ url.host ≠ none) ∨
    (url.scheme = "http" ∧ ∃ host, url.host = some host ∧ IsLoopbackHost host)

/-- The parameter occurs once, with a value that is not empty. -/
def Parameter (url : Url) (name value : String) : Prop :=
  (queryPairs url).filter (·.1 = name) = [(name, value)] ∧ value ≠ ""

/-- The text is the URL of an authorization request that comes back to the redirect URL. -/
structure IsLogin (parse : String → Option Url) (value : String) (url redirect : Url) : Prop where
  parsed : parse value = some url
  trusted : Trusted url
  redirectUri : ∃ text, Parameter url "redirect_uri" text ∧ parse text = some redirect
  trustedRedirect : Trusted redirect
  path : redirect.path = "/v1/auth/oidc/callback"
  query : redirect.query = none
  fragment : redirect.fragment = none
  responseType : Parameter url "response_type" "code"
  clientId : ∃ text, Parameter url "client_id" text
  state : ∃ text, Parameter url "state" text
  codeChallenge : ∃ text, Parameter url "code_challenge" text
  codeChallengeMethod : Parameter url "code_challenge_method" "S256"

/-- Plain HTTP on the loopback address of IPv6. -/
def OnIpv6Loopback (url : Url) : Prop :=
  url.scheme = "http" ∧ ∃ address, url.host = some (.ipv6 address) ∧
    address.pieces = [0, 0, 0, 0, 0, 0, 0, 1]

lemma isLoopback_domain (domain : Domain) :
    isLoopback domain.text = true ↔ domain.text.map Char.toLower = "localhost".toList := by
  have hlocal : "localhost".toList.map Char.toLower = "localhost".toList := by decide +kernel
  rw [isLoopback, IpAddr.fromStr_domain, Option.any_none, Bool.or_false, eqIgnoreAsciiCase,
    decide_eq_true_eq, hlocal]

lemma isLoopback_ipv4 (address : Ipv4) : isLoopback address.text = true ↔ address.a = 127 := by
  have hdot : '.' ∈ address.text.map Char.toLower := by
    refine List.mem_map.mpr ⟨'.', ?_, by decide⟩
    simp [Ipv4.text]
  have hname : eqIgnoreAsciiCase address.text "localhost".toList = false := by
    refine decide_eq_false fun heq => ?_
    rw [heq] at hdot
    exact absurd hdot (by decide +kernel)
  rw [isLoopback, hname, Bool.false_or, IpAddr.fromStr_ipv4, Option.any_some, IpAddr.isLoopback,
    decide_eq_true_eq]

lemma isLoopback_bracket (text : List Char) : isLoopback ('[' :: text) = false := by
  have hname : eqIgnoreAsciiCase ('[' :: text) "localhost".toList = false := by
    refine decide_eq_false fun heq => ?_
    have hhead : some '[' = ("localhost".toList.map Char.toLower).head? := congrArg List.head? heq
    exact absurd hhead (by decide +kernel)
  rw [isLoopback, hname, IpAddr.fromStr_bracket]
  rfl

/-- The check of a host accepts the loopback hosts except that of IPv6. -/
lemma isLoopback_text {host : Host} (h : host.isSpecial = true) :
    isLoopback host.text = true ↔ IsLoopbackHost host ∧ ∀ address, host ≠ .ipv6 address := by
  cases host with
  | domain domain =>
    rw [Host.text, isLoopback_domain]
    exact (and_iff_left nofun).symm
  | ipv4 address =>
    rw [Host.text, isLoopback_ipv4]
    exact (and_iff_left nofun).symm
  | ipv6 address =>
    rw [Host.text, isLoopback_bracket]
    exact iff_of_false Bool.false_ne_true fun hnot => hnot.2 address rfl
  | other text => cases h

lemma isTrustedWebUrl_iff (url : Url) :
    isTrustedWebUrl url = true ↔ Trusted url ∧ ¬OnIpv6Loopback url := by
  have hweb : ((url.host.map Host.text).any fun host =>
        url.scheme = "https" || (url.scheme = "http" && isLoopback host)) = true ↔
      ((url.scheme = "https" ∧ url.host ≠ none) ∨
        (url.scheme = "http" ∧ ∃ host, url.host = some host ∧ IsLoopbackHost host)) ∧
      ¬OnIpv6Loopback url := by
    by_cases hhttp : url.scheme = "http"
    · obtain ⟨host, hhost, hspecial⟩ := url.special (Or.inl hhttp)
      simp only [OnIpv6Loopback, hhost, hhttp, Option.map_some, Option.any_some, Option.some.injEq,
        exists_eq_left', String.reduceEq, decide_false, decide_true, Bool.false_or, Bool.true_and,
        isLoopback_text hspecial, false_and, false_or, true_and]
      constructor
      · rintro ⟨hloopback, hnot⟩
        exact ⟨hloopback, fun ⟨address, haddress, _⟩ => hnot address haddress⟩
      · rintro ⟨hloopback, hnot⟩
        refine ⟨hloopback, fun address haddress => hnot ⟨address, haddress, ?_⟩⟩
        rw [haddress] at hloopback
        exact hloopback
    · cases hhost : url.host with
      | none => simp [hhttp]
      | some host => simp [hhttp, OnIpv6Loopback]
  rw [isTrustedWebUrl, Bool.and_eq_true, Bool.and_eq_true, hweb, decide_eq_true_eq, decide_eq_true_eq]
  constructor
  · rintro ⟨⟨husername, hpassword⟩, hurl, hnot⟩
    exact ⟨⟨husername, hpassword, hurl⟩, hnot⟩
  · rintro ⟨⟨husername, hpassword, hurl⟩, hnot⟩
    exact ⟨⟨husername, hpassword⟩, hurl, hnot⟩

section

variable {url : Url} {name value : String}

lemma map_filter_eq_filterMap (pairs : List (String × String)) :
    (pairs.filterMap fun (key, value) => if key = name then some value else none) =
      (pairs.filter (·.1 = name)).map Prod.snd := by
  induction pairs with
  | nil => rfl
  | cons pair pairs ih =>
    by_cases h : pair.1 = name
    · simp only [List.filterMap_cons, if_pos h, List.filter_cons, decide_eq_true h, if_true, List.map_cons, ih]
    · simp only [List.filterMap_cons, if_neg h, List.filter_cons, decide_eq_false h, Bool.false_eq_true,
        if_false, ih]

lemma singleParameter_eq_some : singleParameter url name = some value ↔ Parameter url name value := by
  have hname : ∀ pair ∈ (queryPairs url).filter (·.1 = name), pair.1 = name :=
    fun pair hpair => of_decide_eq_true (List.mem_filter.mp hpair).2
  unfold singleParameter Parameter
  rw [map_filter_eq_filterMap]
  generalize (queryPairs url).filter (·.1 = name) = pairs at hname ⊢
  rcases pairs with - | ⟨⟨key, first⟩, others⟩
  · simp
  · obtain rfl : key = name := hname _ List.mem_cons_self
    rw [List.map_cons]
    dsimp only
    by_cases h : first = "" ∨ others.map Prod.snd ≠ []
    · rw [if_pos h]
      refine iff_of_false nofun ?_
      rintro ⟨heq, hvalue⟩
      obtain ⟨hpair, hothers⟩ := List.cons.inj heq
      rcases h with h | h
      · exact hvalue ((Prod.mk.inj hpair).2.symm.trans h)
      · exact h (congrArg (List.map Prod.snd) hothers)
    · rw [if_neg h]
      simp only [not_or, not_not, List.map_eq_nil_iff] at h
      obtain ⟨hfirst, rfl⟩ := h
      constructor
      · intro heq
        rw [← Option.some.inj heq]
        exact ⟨rfl, hfirst⟩
      · rintro ⟨heq, -⟩
        rw [(Prod.mk.inj (List.cons.inj heq).1).2]

lemma exists_of_ne_none (h : singleParameter url name ≠ none) : ∃ text, Parameter url name text := by
  obtain ⟨text, htext⟩ := Option.ne_none_iff_exists'.mp h
  exact ⟨text, singleParameter_eq_some.mp htext⟩

end

section

variable {parse : String → Option Url} {value : String} {url : Url}

lemma validate_eq_ok :
    validateOidcAuthorizationUrl parse value = .ok url ↔
      ∃ redirect, IsLogin parse value url redirect ∧ ¬OnIpv6Loopback url ∧ ¬OnIpv6Loopback redirect := by
  constructor
  · intro h
    unfold validateOidcAuthorizationUrl at h
    split at h
    · cases h
    next u hparse =>
    split at h
    · cases h
    next htrusted =>
    split at h
    · cases h
    next text hredirect =>
    split at h
    · cases h
    next redirect hparsed =>
    split at h
    · cases h
    next hback =>
    split at h
    · cases h
    next hparams =>
    cases h
    simp only [not_or, not_not] at htrusted hback hparams
    obtain ⟨hurl, hnot⟩ := (isTrustedWebUrl_iff url).mp htrusted
    obtain ⟨hback, hpath, hquery, hfragment⟩ := hback
    obtain ⟨htrustedRedirect, hnotRedirect⟩ := (isTrustedWebUrl_iff redirect).mp hback
    obtain ⟨htype, hclient, hstate, hchallenge, hmethod⟩ := hparams
    exact ⟨redirect, {
      parsed := hparse
      trusted := hurl
      redirectUri := ⟨text, singleParameter_eq_some.mp hredirect, hparsed⟩
      trustedRedirect := htrustedRedirect
      path := hpath
      query := hquery
      fragment := hfragment
      responseType := singleParameter_eq_some.mp htype
      clientId := exists_of_ne_none hclient
      state := exists_of_ne_none hstate
      codeChallenge := exists_of_ne_none hchallenge
      codeChallengeMethod := singleParameter_eq_some.mp hmethod }, hnot, hnotRedirect⟩
  · rintro ⟨redirect, h, hnot, hnotRedirect⟩
    obtain ⟨text, htext, hparsed⟩ := h.redirectUri
    obtain ⟨client, hclient⟩ := h.clientId
    obtain ⟨state, hstate⟩ := h.state
    obtain ⟨challenge, hchallenge⟩ := h.codeChallenge
    unfold validateOidcAuthorizationUrl
    simp only [h.parsed, (isTrustedWebUrl_iff url).mpr ⟨h.trusted, hnot⟩, singleParameter_eq_some.mpr htext,
      hparsed, (isTrustedWebUrl_iff redirect).mpr ⟨h.trustedRedirect, hnotRedirect⟩, h.path, h.query,
      h.fragment, singleParameter_eq_some.mpr h.responseType, singleParameter_eq_some.mpr hclient,
      singleParameter_eq_some.mpr hstate, singleParameter_eq_some.mpr hchallenge,
      singleParameter_eq_some.mpr h.codeChallengeMethod]
    simp

/-- A text is the URL of one request. -/
lemma IsLogin.unique {redirect other otherRedirect : Url} (h : IsLogin parse value url redirect)
    (h' : IsLogin parse value other otherRedirect) : url = other ∧ redirect = otherRedirect := by
  obtain rfl : url = other := Option.some.inj (h.parsed.symm.trans h'.parsed)
  obtain ⟨text, htext, hparsed⟩ := h.redirectUri
  obtain ⟨text', htext', hparsed'⟩ := h'.redirectUri
  obtain rfl : text = text' :=
    Option.some.inj ((singleParameter_eq_some.mpr htext).symm.trans (singleParameter_eq_some.mpr htext'))
  exact ⟨rfl, Option.some.inj (hparsed.symm.trans hparsed')⟩

end

/-- The shell opens what it means to open unless one of the URLs is on the loopback address of IPv6. -/
theorem opens_iff (parse : String → Option Url) (value : String) :
    ((∃ url, validateOidcAuthorizationUrl parse value = .ok url) ↔
        ∃ url redirect, IsLogin parse value url redirect) ↔
      ∀ url redirect, IsLogin parse value url redirect → ¬OnIpv6Loopback url ∧ ¬OnIpv6Loopback redirect := by
  constructor
  · intro h url redirect hlogin
    obtain ⟨opened, hopened⟩ := h.mpr ⟨url, redirect, hlogin⟩
    obtain ⟨openedRedirect, hopenedLogin, hnot, hnotRedirect⟩ := validate_eq_ok.mp hopened
    obtain ⟨rfl, rfl⟩ := hlogin.unique hopenedLogin
    exact ⟨hnot, hnotRedirect⟩
  · intro h
    constructor
    · rintro ⟨url, hopened⟩
      obtain ⟨redirect, hlogin, -, -⟩ := validate_eq_ok.mp hopened
      exact ⟨url, redirect, hlogin⟩
    · rintro ⟨url, redirect, hlogin⟩
      exact ⟨url, validate_eq_ok.mpr ⟨redirect, hlogin, h url redirect hlogin⟩⟩

namespace Sample

def callbackText : String := "https://api.example/v1/auth/oidc/callback"

def callbackUrl : Url where
  scheme := "https"
  username := ""
  password := none
  host := some (.domain ⟨"api.example".toList, by decide +kernel,
    List.all_eq_true.mp (by decide +kernel), by decide +kernel⟩)
  port := none
  path := "/v1/auth/oidc/callback"
  query := none
  fragment := none
  special := fun _ => ⟨_, rfl, rfl⟩

def loginQuery : String :=
  "client_id=p5&redirect_uri=https%3A%2F%2Fapi.example%2Fv1%2Fauth%2Foidc%2Fcallback" ++
    "&response_type=code&state=s&code_challenge=c&code_challenge_method=S256"

/-- A request to an identity provider on this machine. -/
def loginText : String := "http://[::1]:9000/authorize?" ++ loginQuery

def loginUrl : Url where
  scheme := "http"
  username := ""
  password := none
  host := some (.ipv6 ⟨[0, 0, 0, 0, 0, 0, 0, 1], rfl⟩)
  port := some 9000
  path := "/authorize"
  query := some loginQuery
  fragment := none
  special := fun _ => ⟨_, rfl, rfl⟩

def parse (text : String) : Option Url :=
  if text = loginText then some loginUrl else if text = callbackText then some callbackUrl else none

lemma isLogin_ipv6 : IsLogin parse loginText loginUrl callbackUrl where
  parsed := by decide +kernel
  trusted := ⟨rfl, rfl, Or.inr ⟨rfl, _, rfl, rfl⟩⟩
  redirectUri := ⟨callbackText, singleParameter_eq_some.mp (by decide +kernel), by decide +kernel⟩
  trustedRedirect := ⟨rfl, rfl, Or.inl ⟨rfl, nofun⟩⟩
  path := rfl
  query := rfl
  fragment := rfl
  responseType := singleParameter_eq_some.mp (by decide +kernel)
  clientId := ⟨"p5", singleParameter_eq_some.mp (by decide +kernel)⟩
  state := ⟨"s", singleParameter_eq_some.mp (by decide +kernel)⟩
  codeChallenge := ⟨"c", singleParameter_eq_some.mp (by decide +kernel)⟩
  codeChallengeMethod := singleParameter_eq_some.mp (by decide +kernel)

/-- A provider on the loopback address of IPv6 is meant to be opened and is refused. -/
theorem not_opens_ipv6 : ¬∀ parse value, (∃ url, validateOidcAuthorizationUrl parse value = .ok url) ↔
    ∃ url redirect, IsLogin parse value url redirect := by
  intro h
  obtain ⟨url, hurl⟩ := (h parse loginText).mpr ⟨loginUrl, callbackUrl, isLogin_ipv6⟩
  have hrefused : validateOidcAuthorizationUrl parse loginText =
      .error "Authorization URL must use HTTPS (or loopback HTTP)" := by
    decide +kernel
  rw [hrefused] at hurl
  cases hurl

end Sample

end Pentagon5.Desktop.Shell
