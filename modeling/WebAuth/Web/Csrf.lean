import WebAuth.Encoding.Base64
import WebAuth.Http.Matcher

/-!
# Tokens against forged requests

A client proves that a request is its own by sending one token twice: in a cookie
and in a header field, which another site cannot set.

Main results:

* `CsrfToken.ofOctets_cookieName`.
-/

namespace WebAuth.Web

open Encoding Http

/-- Where the token travels, and which requests need none. -/
structure CsrfConfig where
  cookieName : String
  headerName : String
  ignored : List RequestMatcher
deriving DecidableEq, Repr

/-- The names that browser libraries expect. -/
def CsrfConfig.default : CsrfConfig := ⟨"XSRF-TOKEN", "X-XSRF-TOKEN", []⟩

/-- A token and the cookie that carries it. -/
structure CsrfToken where
  cookieName : String
  value : String
deriving DecidableEq, Repr

namespace CsrfToken

/-- The token that spells some random octets. -/
def ofOctets (cookieName : String) (octets : List UInt8) : CsrfToken :=
  ⟨cookieName, String.ofList (Alphabet.addressSafe.encode octets)⟩

@[simp]
theorem ofOctets_cookieName (cookieName : String) (octets : List UInt8) :
    (ofOctets cookieName octets).cookieName = cookieName :=
  rfl

end CsrfToken

/-- Methods that only read. -/
def isSafeMethod (method : String) : Bool :=
  ["GET", "HEAD", "TRACE", "OPTIONS"].contains method

end WebAuth.Web
