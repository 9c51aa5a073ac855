import Mathlib.Data.List.DropRight

/-!
# Requests and routes

An HTTP request, and the route of an application that it takes: the first one whose path and method
match, else a redirect to the path with or without its last slash, else none.
-/

namespace Pentagon5.Asgi

/-- A request; the names of headers are lower-case, and the body comes in messages. -/
structure HttpRequest where
  method : String
  path : String
  queryString : String
  headers : List (String × String)
  cookies : List (String × String)
  body : List (List UInt8)

/-- `request.headers.get(name)`. -/
def HttpRequest.header (request : HttpRequest) (name : String) : Option String :=
  request.headers.lookup name

/-- `request.headers.get(name, "")`. -/
def HttpRequest.headerText (request : HttpRequest) (name : String) : String :=
  (request.header name).getD ""

structure HttpResponse where
  status : ℕ
  body : String
deriving DecidableEq

/-- A path, or a path whose last segment is a parameter. -/
inductive Template where
  | path (path : String)
  | parameter (stem : String)

/-- The parameter of a path that matches, or the empty text; the pattern of a path ends in `$`, which
also matches before a final line feed. -/
def Template.matches? : Template → List Char → Option (List Char)
  | path p, cs => if cs = p.toList ∨ cs = p.toList ++ ['\n'] then some [] else none
  | parameter stem, cs =>
    let value := cs.drop stem.toList.length
    if stem.toList <+: cs ∧ value ≠ [] ∧ '/' ∉ value then some value else none

structure Route (ε : Type) where
  template : Template
  methods : List String
  endpoint : ε

variable {ε : Type}

/-- Whether the path of a request matches, with any method. -/
def Route.covers (route : Route ε) (path : List Char) : Bool := (route.template.matches? path).isSome

/-- The endpoint and its parameter, where the route matches in path and method. -/
def Route.accept (route : Route ε) (method : String) (path : List Char) : Option (ε × List Char) :=
  if method ∈ route.methods then (route.template.matches? path).map (route.endpoint, ·) else none

inductive Routed (ε : Type) where
  | found (endpoint : ε) (parameter : List Char)
  | methodNotAllowed
  | redirect
  | notFound
deriving DecidableEq

/-- The path that is tried next: without its last slashes, or with one more. -/
def otherSlash (path : List Char) : List Char :=
  if path.getLast? = some '/' then path.rdropWhile (· = '/') else path ++ ['/']

/-- The router of an application. -/
def route (routes : List (Route ε)) (method : String) (path : List Char) : Routed ε :=
  match routes.findSome? (fun route => route.accept method path) with
  | some (endpoint, parameter) => .found endpoint parameter
  | none =>
    if routes.any (fun route => route.covers path) then .methodNotAllowed
    else if path ≠ ['/'] ∧ routes.any (fun route => route.covers (otherSlash path)) then .redirect
    else .notFound

end Pentagon5.Asgi
