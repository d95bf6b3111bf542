import WebAuth.Encoding.Base64
import WebAuth.Json.Outline
import WebAuth.Token.Error

/-!
# Published keys

A key set lists keys, each with a type, perhaps an id, and the components of its
type in base64.

Main results:

* `KeySet.findKey_none`, `KeySet.id_of_findKey`: which key a token means.
-/

namespace WebAuth

open Encoding

/-- A published key. -/
structure PublishedKey where
  id : Option String
  type : String
  algorithm : Option String
  modulus : Option String
  exponent : Option String
  curve : Option String
  x : Option String
  y : Option String
deriving DecidableEq, Repr

namespace PublishedKey

/-- A component that a key of its type must have. -/
def component (name : String) : Option String → Except TokenError String
  | some text => .ok text
  | none => .error (.unusableKey (.missingComponent name))

/-- The octets of a component. -/
def componentOctets (text : String) : Except TokenError (List UInt8) :=
  match Alphabet.addressSafe.decode? text.toList with
  | some octets => .ok octets
  | none => .error (.faulty .notBase64)

/-- The key that signatures are verified with. -/
def verificationKey (k : PublishedKey) : Except TokenError VerificationKey :=
  if k.type = "RSA" then do
    let n ← component "n" k.modulus
    let e ← component "e" k.exponent
    .ok (.rsa (← componentOctets n) (← componentOctets e))
  else if k.type = "EC" then do
    let x ← component "x" k.x
    let y ← component "y" k.y
    .ok (.point (0x04 :: (← componentOctets x) ++ (← componentOctets y)))
  else .error (.unusableKey (.unsupportedType k.type))

/-! ## JSON form -/

/-- A published key as far as it has been read. -/
structure Draft where
  type : Option String
  /-- The key with what has been read of the optional fields. -/
  rest : PublishedKey

/-- Nothing read. -/
def Draft.empty : Draft := ⟨none, ⟨none, "", none, none, none, none, none, none⟩⟩

/-- How a published key is read. -/
def format : RecordFormat Draft where
  name := "Jwk"
  fields := ["kid", "kty", "alg", "n", "e", "crv", "x", "y"]
  defaulted := []
  readField name value d :=
    let text := Json.readOption Json.readString value
    match name with
    | "kty" => do .ok { d with type := some (← value.readString) }
    | "kid" => do .ok { d with rest := { d.rest with id := ← text } }
    | "alg" => do .ok { d with rest := { d.rest with algorithm := ← text } }
    | "n" => do .ok { d with rest := { d.rest with modulus := ← text } }
    | "e" => do .ok { d with rest := { d.rest with exponent := ← text } }
    | "crv" => do .ok { d with rest := { d.rest with curve := ← text } }
    | "x" => do .ok { d with rest := { d.rest with x := ← text } }
    | "y" => do .ok { d with rest := { d.rest with y := ← text } }
    | _ => .ok d

/-- A key in a document; its other members are passed over. -/
def document? : Outline → Option Json := Outline.record? format.fields Outline.value?

/-- Read a published key. -/
def ofJson (value : Json) : Except ReadError PublishedKey := do
  let draft ← format.readDraft Draft.empty value
  let type ← requireField "kty" draft.type
  .ok { draft.rest with type := type }

end PublishedKey

/-- The keys that an issuer publishes. -/
structure KeySet where
  keys : List PublishedKey
deriving DecidableEq, Repr

namespace KeySet

/-- The key that a token means: the first with its id, or the first of all if the
token names none. -/
def findKey (s : KeySet) : Option String → Option PublishedKey
  | some id => s.keys.find? (fun k => k.id = some id)
  | none => s.keys.head?

/-- A token that names no key means the first. -/
@[simp]
theorem findKey_none (s : KeySet) : s.findKey none = s.keys.head? :=
  rfl

/-- The key found for an id has it. -/
theorem id_of_findKey {s : KeySet} {id : String} {k : PublishedKey}
    (h : s.findKey (some id) = some k) : k.id = some id := by
  simpa using List.find?_some h

/-! ## JSON form -/

/-- How a key set is read. -/
def format : RecordFormat (Option (List PublishedKey)) where
  name := "Jwks"
  fields := ["keys"]
  defaulted := []
  readField name value draft :=
    match name with
    | "keys" => do .ok (some (← Json.readList PublishedKey.ofJson value))
    | _ => .ok draft

/-- Read a key set. -/
def ofJson (value : Json) : Except ReadError KeySet := do
  .ok ⟨← requireField "keys" (← format.readDraft none value)⟩

/-- The keys of a document as they are written. -/
def writtenKeys : Json → List Json
  | .object fields =>
      match fields.lookup "keys" with
      | some (.array keys) => keys
      | _ => []
  | .array (.array keys :: _) => keys
  | _ => []

/-- The document in some octets, as far as it is a set of keys; other members of the set and
of its keys are passed over. -/
def document? (octets : List UInt8) : Option Json :=
  (Outline.ofOctets? octets).bind
    (Outline.record? format.fields (Outline.list? PublishedKey.document?))

/-- Read a key set from the octets of a document; a field must not come twice. -/
def ofOctets? (octets : List UInt8) : Option KeySet := do
  let document ← document? octets
  if document.repeatsAny format.fields ||
      (writtenKeys document).any (fun k => k.repeatsAny PublishedKey.format.fields) then none
  else (ofJson document.canonical).toOption

end KeySet

end WebAuth
