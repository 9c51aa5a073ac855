import Pentagon5.Desktop.App
import Pentagon5.Web.Form
import Pentagon5.Web.Url

/-!
# The platform of the desktop application

What the window does with a deep link before it exchanges the code in it. The parser behind `new URL`
is a parameter; it returns nothing where the constructor throws.
-/

namespace Pentagon5.Desktop

open Python Web

/-- `url.protocol`. -/
def protocol (url : Url) : String := url.scheme ++ ":"

/-- `url.hostname`. -/
def hostname (url : Url) : List Char := (url.host.map Host.text).getD []

/-- `url.hash`. -/
def hash (url : Url) : String :=
  match url.fragment with
  | none => ""
  | some fragment => if fragment = "" then "" else "#" ++ fragment

/-- `[...url.searchParams.entries()]`. -/
def searchParams (url : Url) : List (String × String) :=
  (Form.parse (encode (url.query.getD ""))).map fun (name, value) => (String.ofList name, String.ofList value)

def CALLBACK_SCHEME : String := "pentagon5:"

/-- What `parseAuthCallback` throws. -/
inductive CallbackError where
  | invalidUrl
  | error (message : String)
deriving DecidableEq

/-- What `parseAuthCallback` makes of the parameters. -/
def readParameters (entries : List (String × String)) : Except CallbackError ParsedAuthCallback :=
  if entries.length ≠ 1 then
    .error (.error "Authentication callback must contain exactly one result")
  else
    let code := truthy (entries.lookup "code")
    let error := truthy (entries.lookup "error")
    if (code ≠ none ∧ error ≠ none) ∨ (code = none ∧ error = none) then
      .error (.error "Authentication callback has no valid result")
    else if code.any fun code : String => Client.units code < 32 ∨ 512 < Client.units code then
      .error (.error "Authentication grant code has an invalid length")
    else .ok ⟨code, error⟩

variable (parse : Str → Option Url)

def parseAuthCallback (value : Str) : Except CallbackError ParsedAuthCallback :=
  match parse value with
  | none => .error .invalidUrl
  | some url =>
    if protocol url ≠ CALLBACK_SCHEME ∨ hostname url ≠ "auth".toList ∨ url.path ≠ "/callback" then
      .error (.error "Unexpected authentication callback URL")
    else if url.username ≠ "" ∨ url.password.getD "" ≠ "" ∨ url.port ≠ none ∨ hash url ≠ "" then
      .error (.error "Authentication callback contains forbidden URL components")
    else readParameters (searchParams url)

/-- The parser as the handlers of the window use it, which only see that it throws. -/
def callbackParser (value : Str) : Except JsError ParsedAuthCallback :=
  (parseAuthCallback parse value).mapError fun _ => .other

end Pentagon5.Desktop
