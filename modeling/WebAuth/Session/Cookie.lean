import WebAuth.Http.Credentials
import WebAuth.Session.Realm

/-!
# Sessions named by cookies

A request names its session by the value of one cookie.

Main results:

* `Realm.loadNamed_of_no_cookie`: without the cookie the store is not used.
-/

namespace WebAuth

namespace Realm

/-- The live session that the cookie of that name names. -/
def loadNamed (cookieName : String) (headers : Http.Headers) :
    Run Realm AccessError (Option Session) :=
  match headers.cookie? cookieName with
  | some id => load id
  | none => pure none

/-- Without the cookie the store is not used. -/
theorem loadNamed_of_no_cookie {cookieName : String} {headers : Http.Headers}
    (h : headers.cookie? cookieName = none) (r : Realm) :
    loadNamed cookieName headers r = (.value none, r) := by
  simp [loadNamed, h]

end Realm

end WebAuth
