import WebAuth.Encoding.Base64
import WebAuth.Json.Parser
import WebAuth.Token.Error

/-!
# Signed tokens and their headers

A signed token is three base64 texts joined by dots: header, payload, signature.
The header names the algorithm and perhaps a key; whatever else it holds has to be
well-formed too.

Main results:

* `SignedToken.ofText?_append`: a token is split at its last two dots.
-/

namespace WebAuth

open Encoding

/-! ## The parts of a token -/

/-- The parts of a signed token, as they are written. -/
structure SignedToken where
  header : List Char
  payload : List Char
  signature : List Char
deriving DecidableEq, Repr

namespace SignedToken

/-- Cut a text at its last dot. -/
def cutLast? (text : List Char) : Option (List Char × List Char) :=
  let after := (text.reverse.takeWhile (· ≠ '.')).reverse
  if after.length = text.length then none
  else some (text.take (text.length - after.length - 1), after)

/-- The parts of a token. -/
def ofText? (text : List Char) : Option SignedToken := do
  let (message, signature) ← cutLast? text
  let (header, payload) ← cutLast? message
  some ⟨header, payload, signature⟩

/-- The text that is signed. -/
def message (t : SignedToken) : List Char := t.header ++ '.' :: t.payload

/-- The octets of the text that is signed. -/
def messageOctets (t : SignedToken) : List UInt8 :=
  (String.ofList t.message).toUTF8.data.toList

/-- The last dot is the one that no other follows. -/
theorem cutLast?_append {before after : List Char} (h : '.' ∉ after) :
    cutLast? (before ++ '.' :: after) = some (before, after) := by
  have hplain : ∀ c ∈ after.reverse, decide (c ≠ '.') = true := by
    intro c hc
    rw [decide_eq_true_iff]
    rintro rfl
    exact h (List.mem_reverse.mp hc)
  have htail : ((before ++ '.' :: after).reverse.takeWhile (· ≠ '.')).reverse = after := by
    rw [List.reverse_append, List.reverse_cons, List.append_assoc,
      List.takeWhile_append_of_pos hplain]
    simp
  have hlength : (before ++ '.' :: after).length - after.length - 1 = before.length := by
    rw [List.length_append, List.length_cons]
    omega
  unfold cutLast?
  dsimp only
  rw [htail, hlength, List.take_left, if_neg]
  rw [List.length_append, List.length_cons]
  omega

/-- A token is split at its last two dots. -/
theorem ofText?_append (header : List Char) {payload signature : List Char}
    (hpayload : '.' ∉ payload) (hsignature : '.' ∉ signature) :
    ofText? (header ++ '.' :: payload ++ '.' :: signature) =
      some ⟨header, payload, signature⟩ := by
  rw [ofText?, cutLast?_append hsignature]
  dsimp only [bind, Option.bind]
  rw [cutLast?_append hpayload]

example : ofText? "a.b.c.".toList = some ⟨"a.b".toList, "c".toList, []⟩ := by
  decide

end SignedToken

/-! ## Keys inside headers -/

namespace EmbeddedKey

/-- Whether a field, if it is there and not null, can be read. -/
def isReadable {α : Type} (fields : List (String × Json)) (name : String)
    (read : Json → Except ReadError α) : Bool :=
  match fields.lookup name with
  | some value => (Json.readOption read value).isOk
  | none => true

/-- Whether a field is there and can be read. -/
def hasReadable {α : Type} (fields : List (String × Json)) (name : String)
    (read : Json → Except ReadError α) : Bool :=
  (fields.lookup name).any (fun value => (read value).isOk)

/-- The fields that every key may have. -/
def commonFields : List String :=
  ["use", "key_ops", "alg", "kid", "x5u", "x5c", "x5t", "x5t#S256"]

/-- Whether the common fields of a key are in order; a name of an algorithm may be
unknown. -/
def commonIsValid (fields : List (String × Json)) : Bool :=
  let text := Json.readString
  let texts := Json.readList Json.readString
  let isName (value : Json) : Except ReadError Unit :=
    match value with
    | .string _ => .ok ()
    | .object [(_, .null)] => .ok ()
    | other => other.refused "string or map"
  isReadable fields "use" text && isReadable fields "key_ops" texts &&
    isReadable fields "alg" isName && isReadable fields "kid" text &&
    isReadable fields "x5u" text && isReadable fields "x5c" texts &&
    isReadable fields "x5t" text && isReadable fields "x5t#S256" text

/-- The types of keys with the texts that each must have besides its curve. -/
def types : List (String × Bool × List String) :=
  [("EC", true, ["x", "y"]), ("RSA", false, ["n", "e"]), ("oct", false, ["k"]),
    ("OKP", true, ["x"])]

/-- The curves that keys may name. -/
def curves : List (String × Unit) :=
  [("P-256", ()), ("P-384", ()), ("P-521", ()), ("Ed25519", ())]

/-- Whether an object is a key of a type. -/
def isOfType (written : Json) (fields : List (String × Json))
    (type : String × Bool × List String) : Bool :=
  let (name, hasCurve, texts) := type
  let names := "kty" :: texts ++ (if hasCurve then ["crv"] else [])
  !written.repeatsAny names &&
    hasReadable fields "kty" (Json.readVariant [(name, ())]) &&
    (!hasCurve || hasReadable fields "crv" (Json.readVariant curves)) &&
    texts.all (fun text => hasReadable fields text Json.readString)

/-- Whether a value, as it is written, is a key. -/
def isValid (written : Json) : Bool :=
  match written with
  | .object fields =>
      !written.repeatsAny commonFields && commonIsValid fields &&
        types.any (isOfType written fields)
  | _ => false

end EmbeddedKey

/-! ## Headers -/

/-- What the header of a token names. -/
structure TokenHeader where
  algorithm : Algorithm
  keyId : Option String
deriving DecidableEq, Repr

namespace TokenHeader

/-- Known fields that are texts. -/
def textFields : List String :=
  ["typ", "cty", "jku", "kid", "x5u", "x5t", "x5t#S256", "enc", "zip", "url", "nonce"]

/-- Known fields that are lists of texts. -/
def listFields : List String := ["x5c", "crit"]

/-- All known fields. -/
def knownFields : List String := "alg" :: "jwk" :: textFields ++ listFields

/-- Whether a field of a header, as it is written, is well-formed. -/
def fieldIsValid (field : String × Json) : Bool :=
  let (name, value) := field
  if name = "alg" then (Json.readVariant Algorithm.variants value).isOk
  else if name = "jwk" then value = .null || EmbeddedKey.isValid value
  else if textFields.contains name then (Json.readOption Json.readString value).isOk
  else if listFields.contains name then
    (Json.readOption (Json.readList Json.readString) value).isOk
  else (Json.readString value).isOk

/-- The header that a document is. -/
def ofJson? (document : Json) : Option TokenHeader :=
  match document with
  | .object fields =>
      if document.repeatsAny knownFields || !fields.all fieldIsValid then none
      else do
        let algorithm ← fields.lookup "alg"
        some ⟨← (Json.readVariant Algorithm.variants algorithm).toOption,
          (fields.lookup "kid").bind Json.asString?⟩
  | _ => none

/-- The header of a token. -/
def ofToken (t : SignedToken) : Except TokenFault TokenHeader :=
  match Alphabet.addressSafe.decode? t.header with
  | none => .error .notBase64
  | some octets =>
      match (Json.parseOctets? octets).bind ofJson? with
      | some header => .ok header
      | none => .error .notJson

end TokenHeader

end WebAuth
