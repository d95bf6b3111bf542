import WebAuth.Encoding.Base64
import WebAuth.Http.Headers

/-!
# Credentials in headers

What a client sends to say who it is: a bearer token or a user name and password
in the first `Authorization` field, and cookies.

Main results:

* `cookieIn_cons_of_ne`, `cookieIn_cons_self`: the first cookie of a name counts.
-/

namespace WebAuth.Http

open Text Encoding

namespace Headers

/-- What follows a scheme in the first `Authorization` field, without blanks
around it. -/
def authorization? (h : Headers) (scheme : String) : Option (List Char) := do
  let value ← h.readableFirst? "authorization"
  let rest ← dropStart? (scheme.toList ++ [' ']) value.toList
  some (trim rest)

/-- The bearer token. -/
def bearerToken? (h : Headers) : Option String :=
  (h.authorization? "Bearer").map String.ofList

/-- The user name and password written in base64. -/
def credentialsOf? (encoded : List Char) : Option (String × String) := do
  let octets ← Alphabet.standard.decode? encoded
  let plain ← String.fromUTF8? ⟨octets.toArray⟩
  let (username, password) ← cutAt? ':' plain.toList
  some (String.ofList username, String.ofList password)

/-- The user name and password. -/
def basicCredentials? (h : Headers) : Option (String × String) :=
  (h.authorization? "Basic").bind credentialsOf?

/-- The value of the `Authorization` field that carries a user name and
password. -/
def basicValue (username password : String) : String :=
  "Basic " ++ String.ofList
    (Alphabet.standard.encode (username ++ ":" ++ password).toUTF8.data.toList)

/-- The cookies of one field: names with values, as far as they have both. -/
def cookiesOf (value : String) : List (List Char × List Char) :=
  (value.toList.splitOn ';').filterMap (cutAt? '=')

/-- All cookies in order; fields that are not readable text hold none. -/
def cookies (h : Headers) : List (List Char × List Char) :=
  ((h.getAll "cookie").filter isReadable).flatMap cookiesOf

/-- The value of the first cookie of a name, without blanks around either. -/
def cookieIn (name : List Char) (pairs : List (List Char × List Char)) :
    Option (List Char) :=
  (pairs.find? (fun pair => trim pair.1 = name)).map (fun pair => trim pair.2)

/-- The cookie of a name. -/
def cookie? (h : Headers) (name : String) : Option String :=
  (cookieIn name.toList h.cookies).map String.ofList

/-- The first cookie of a name counts. -/
theorem cookieIn_cons_self {name key : List Char} (h : trim key = name)
    (value : List Char) (pairs : List (List Char × List Char)) :
    cookieIn name ((key, value) :: pairs) = some (trim value) := by
  simp [cookieIn, h]

/-- A cookie of another name does not count. -/
theorem cookieIn_cons_of_ne {name key : List Char} (h : trim key ≠ name)
    (value : List Char) (pairs : List (List Char × List Char)) :
    cookieIn name ((key, value) :: pairs) = cookieIn name pairs := by
  simp [cookieIn, h]

end Headers

end WebAuth.Http
