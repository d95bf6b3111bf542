import WebAuth.Session.Cookie
import WebAuth.Web.Authenticator

/-!
# Ways to find out who a request comes from

Each strategy reads one kind of credentials: a user name and password, a bearer
token, or the session that a cookie names.

Main results:

* `Strategy.bearer_of_none`, `Strategy.basic_of_none`: without its credentials, a
  strategy finds nothing and does nothing.
-/

namespace WebAuth.Web.Strategy

/-- A strategy that answers without looking at the request. -/
def fixed (name : String) (answer : Run World AccessError (Option Identity)) : Strategy :=
  ⟨name, fun _ => answer⟩

/-- Check a user name and password. -/
def basic (check : String → String → Run World AccessError (Option Identity)) : Strategy where
  name := "basic"
  identify r :=
    match r.headers.basicCredentials? with
    | some (username, password) => check username password
    | none => pure none

/-- Check a bearer token. -/
def bearer (check : String → Run World AccessError (Option Identity)) : Strategy where
  name := "bearer"
  identify r :=
    match r.headers.bearerToken? with
    | some token => check token
    | none => pure none

/-- Check a bearer token with a validator, whose key cache has a number. -/
def validated (v : TokenValidator) (number : Nat) : Strategy :=
  bearer (fun token => do
    let moment ← .reads World.moment
    World.inDesk number (v.validate moment token))

/-- Take the identity of the live session that a cookie names. -/
def sessionCookie (cookieName : String) : Strategy where
  name := "session"
  identify r := do
    let session ← World.inRealm (Realm.loadNamed cookieName r.headers)
    pure (session.map Session.identity)

/-- Without a bearer token nothing is found and nothing done. -/
theorem bearer_of_none {check : String → Run World AccessError (Option Identity)}
    {r : Request} (h : r.headers.bearerToken? = none) (w : World) :
    (bearer check).identify r w = (.value none, w) := by
  simp [bearer, h]

/-- Without a user name and password nothing is found and nothing done. -/
theorem basic_of_none {check : String → String → Run World AccessError (Option Identity)}
    {r : Request} (h : r.headers.basicCredentials? = none) (w : World) :
    (basic check).identify r w = (.value none, w) := by
  simp [basic, h]

end WebAuth.Web.Strategy
