import WebAuth.Identity
import WebAuth.Json.Outline
import WebAuth.Text.Blank

/-!
# Claims

What a token says about its bearer, and the identity that this amounts to.

Main results:

* `Claims.toIdentity_authorities`: each word of the scope becomes an authority.
-/

namespace WebAuth

open Text

/-- For whom a token is meant. -/
inductive Audience where
  | single (name : String)
  | several (names : List String)
deriving DecidableEq, Repr

namespace Audience

/-- Whether a name is among those a token is meant for. -/
def admits (a : Audience) (name : String) : Bool :=
  match a with
  | single only => only = name
  | several names => names.contains name

/-- Read an audience. -/
def ofJson : Json → Except ReadError Audience
  | .string name => .ok (single name)
  | value =>
      match Json.readList Json.readString value with
      | .ok names => .ok (several names)
      | .error _ => .error (.noVariant "Audience")

/-- Write an audience. -/
def toJson : Audience → Json
  | single name => .string name
  | several names => Json.ofTexts names

end Audience

/-- What a token says. -/
structure Claims where
  issuer : Option String
  subject : Option String
  audience : Option Audience
  expiry : Option Nat
  notBefore : Option Nat
  issuedAt : Option Nat
  tokenId : Option String
  scope : Option String
deriving DecidableEq, Repr

namespace Claims

/-- No claims. -/
def empty : Claims := ⟨none, none, none, none, none, none, none, none⟩

/-- The words of the scope. -/
def scopes (c : Claims) : List String :=
  (words (c.scope.getD "").toList).map String.ofList

/-- The identity that a token vouches for. -/
def toIdentity (c : Claims) : Identity :=
  { Identity.ofSubject (c.issuer.getD "jwt") (c.subject.getD "") with
    authorities := c.scopes.map (fun word => "SCOPE_" ++ word)
    attributes := (c.tokenId.map (fun id => [("jti", id)])).getD [] }

/-- Each word of the scope becomes an authority. -/
theorem toIdentity_authorities (c : Claims) :
    c.toIdentity.authorities = c.scopes.map (fun word => "SCOPE_" ++ word) :=
  rfl

/-! ## JSON form -/

/-- How claims are read. -/
def format : RecordFormat Claims where
  name := "Claims"
  fields := ["iss", "sub", "aud", "exp", "nbf", "iat", "jti", "scope"]
  defaulted := []
  readField name value c :=
    let text := Json.readOption Json.readString value
    let instant := Json.readOption Json.readNat64 value
    match name with
    | "iss" => do .ok { c with issuer := ← text }
    | "sub" => do .ok { c with subject := ← text }
    | "aud" => do .ok { c with audience := ← Json.readOption Audience.ofJson value }
    | "exp" => do .ok { c with expiry := ← instant }
    | "nbf" => do .ok { c with notBefore := ← instant }
    | "iat" => do .ok { c with issuedAt := ← instant }
    | "jti" => do .ok { c with tokenId := ← text }
    | "scope" => do .ok { c with scope := ← text }
    | _ => .ok c

/-- Read claims. -/
def ofJson (value : Json) : Except ReadError Claims := format.readDraft empty value

/-- Read claims from a document, which has to be an object; a claim must not come
twice. -/
def ofDocument? (document : Json) : Option Claims :=
  match document with
  | .object _ =>
      if document.repeatsAny format.fields then none
      else (ofJson document.canonical).toOption
  | _ => none

/-- The document in some octets, as far as it holds claims; its other members are passed
over. -/
def document? (octets : List UInt8) : Option Json :=
  (Outline.ofOctets? octets).bind (Outline.record? format.fields Outline.value?)

/-- Read claims from the octets of a document. -/
def ofOctets? (octets : List UInt8) : Option Claims :=
  (document? octets).bind ofDocument?

-- Half of a character can stand in a member that is passed over, but in no claim.
example :
    ofOctets? "\x7b\"sub\":\"alice\",\"note\":[\"\\ud800\",1e999]\x7d".toUTF8.toList =
        some { empty with subject := some "alice" } ∧
      ofOctets? "\x7b\"sub\":\"\\ud800\"\x7d".toUTF8.toList = none := by
  decide +kernel

/-- Write claims. -/
def toJson (c : Claims) : Json :=
  let instant : Option Nat → Json
    | some n => .number (.integer n)
    | none => .null
  .object [
    ("aud", (c.audience.map Audience.toJson).getD .null),
    ("exp", instant c.expiry),
    ("iat", instant c.issuedAt),
    ("iss", Json.ofOptionalText c.issuer),
    ("jti", Json.ofOptionalText c.tokenId),
    ("nbf", instant c.notBefore),
    ("scope", Json.ofOptionalText c.scope),
    ("sub", Json.ofOptionalText c.subject)]

end Claims

end WebAuth
