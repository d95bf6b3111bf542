import WebAuth.Http.Credentials
import WebAuth.Http.Matcher
import WebAuth.Session.Basic
import WebAuth.Web.Csrf

/-!
# Requests

A request is a method, a target and header fields; filters attach to it what they
find out.  Requests can be put together step by step to try a filter chain
without a server.

Main results:

* `Request.make_method`: a request keeps its method as it is written.
-/

namespace WebAuth.Web

open Http

/-- What filters attach to a request. -/
structure Attachments where
  identity : Option Identity
  session : Option Session
  csrfToken : Option CsrfToken
  /-- The marks that filters of an application leave, in order. -/
  marks : Option (List String)
deriving DecidableEq, Repr

/-- Nothing attached. -/
def Attachments.empty : Attachments := ⟨none, none, none, none⟩

/-- A request on its way through filters. -/
structure Request where
  method : String
  target : RequestTarget
  headers : Headers
  attachments : Attachments
deriving DecidableEq, Repr

namespace Request

/-- Why a request cannot be made. -/
inductive Malformed where
  | target
  | method
deriving DecidableEq, Repr

/-- A request without header fields. -/
def make (method target : String) : Except Malformed Request :=
  match RequestTarget.parse? target with
  | none => .error .target
  | some t =>
      if isToken method then .ok ⟨method, t, Headers.empty, Attachments.empty⟩
      else .error .method

/-- The path that matchers look at. -/
def path (r : Request) : String := r.target.path

/-- Whether a matcher selects the request. -/
def isMatchedBy (r : Request) (m : RequestMatcher) : Bool := m.matchesTarget r.target

/-! ## Putting a request together -/

/-- Add a header field; one that is not allowed is left out. -/
def header (r : Request) (name value : String) : Request :=
  { r with headers := r.headers.append name value }

/-- Attach an identity. -/
def withIdentity (r : Request) (identity : Identity) : Request :=
  { r with attachments := { r.attachments with identity := some identity } }

/-- Attach a session. -/
def withSession (r : Request) (session : Session) : Request :=
  { r with attachments := { r.attachments with session := some session } }

/-- Send a user name and password. -/
def withBasic (r : Request) (username password : String) : Request :=
  r.header "authorization" (Headers.basicValue username password)

/-- Send a bearer token. -/
def withBearer (r : Request) (token : String) : Request :=
  r.header "authorization" ("Bearer " ++ token)

/-- Send a token as cookie and header field; a tampered one differs in the field. -/
def withCsrf (r : Request) (config : CsrfConfig) (tampered : Bool) (octets : List UInt8) :
    Request :=
  let token := CsrfToken.ofOctets config.cookieName octets
  (r.header "cookie" (token.cookieName ++ "=" ++ token.value)).header config.headerName
    (if tampered then token.value ++ "-invalid" else token.value)

/-- A request keeps its method as it is written. -/
theorem make_method {method target : String} {r : Request}
    (h : make method target = .ok r) : r.method = method := by
  unfold make at h
  split at h
  · contradiction
  · split at h
    · cases h
      rfl
    · contradiction

end Request

end WebAuth.Web
