import Pentagon5.Auth.Models
import Pentagon5.Python.Uuid
import Mathlib.Data.Finset.Sort
import Mathlib.Data.String.Basic

/-!
# The session response

`_session_response` as the JSON object that the application sends. The text of a `datetime` is a
parameter.
-/

namespace Pentagon5.Auth

open Python Python.Json

/-- A set is sent in some order, for which its sorted one stands. -/
def sessionResponse (datetime : Timestamp → Str) (principal : Principal) : Json :=
  .dict [
    entry "user_id" (.str (UUID.str principal.userId)),
    entry "session_id" (.str (UUID.str principal.sessionId)),
    entry "email" (.str principal.email),
    entry "display_name" (.str principal.displayName),
    entry "roles" (.list (principal.roles.map fun role : String => Json.str role)),
    entry "permissions" (.list (principal.permissions.sort.map fun code : String => Json.str code)),
    entry "expires_at" (.str (datetime principal.expiresAt))]

end Pentagon5.Auth
