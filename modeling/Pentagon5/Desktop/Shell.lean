import Pentagon5.Python.Text
import Pentagon5.Rust.IpAddr
import Pentagon5.Web.Form

/-!
# The native shell

The check of an authorization URL before the shell opens it in the system browser. The parser of the
`url` crate is a parameter.
-/

namespace Pentagon5.Desktop.Shell

open Web Rust

/-- `host.eq_ignore_ascii_case` -/
def eqIgnoreAsciiCase (a b : List Char) : Bool := a.map Char.toLower = b.map Char.toLower

/-- `is_loopback` -/
def isLoopback (host : List Char) : Bool :=
  eqIgnoreAsciiCase host "localhost".toList || (IpAddr.fromStr host).any IpAddr.isLoopback

/-- `is_trusted_web_url`, where `host_str` is the text of the host. -/
def isTrustedWebUrl (url : Url) : Bool :=
  url.username = "" && url.password = none &&
    (url.host.map Host.text).any fun host =>
      url.scheme = "https" || (url.scheme = "http" && isLoopback host)

/-- `url.query_pairs()` -/
def queryPairs (url : Url) : List (String × String) :=
  (Form.parse (Python.encode (url.query.getD ""))).map fun (name, value) =>
    (String.ofList name, String.ofList value)

/-- `single_parameter` -/
def singleParameter (url : Url) (name : String) : Option String :=
  match (queryPairs url).filterMap fun (key, value) => if key = name then some value else none with
  | [] => none
  | first :: others => if first = "" ∨ others ≠ [] then none else some first

variable (parse : String → Option Url)

/-- `validate_oidc_authorization_url` -/
def validateOidcAuthorizationUrl (value : String) : Except String Url :=
  match parse value with
  | none => .error "Invalid authorization URL"
  | some url =>
    if ¬isTrustedWebUrl url then .error "Authorization URL must use HTTPS (or loopback HTTP)"
    else
      match singleParameter url "redirect_uri" with
      | none => .error "Authorization URL has no redirect URI"
      | some redirectUri =>
        match parse redirectUri with
        | none => .error "Invalid provider redirect URI"
        | some redirect =>
          if ¬isTrustedWebUrl redirect ∨ redirect.path ≠ "/v1/auth/oidc/callback" ∨
              redirect.query ≠ none ∨ redirect.fragment ≠ none then
            .error "Provider redirect URI is not an approved backend callback"
          else if singleParameter url "response_type" ≠ some "code" ∨
              singleParameter url "client_id" = none ∨
              singleParameter url "state" = none ∨
              singleParameter url "code_challenge" = none ∨
              singleParameter url "code_challenge_method" ≠ some "S256" then
            .error "Authorization URL is not an approved desktop OIDC request"
          else .ok url

end Pentagon5.Desktop.Shell
