import WebAuth.Identity
import WebAuth.Json.Parser

/-!
# Metadata documents

What an issuer publishes about itself: a JSON object with free fields, of which
`issuer` and `jwks_uri` matter here.  A document may state its issuer by a value
that is no string; its JSON text then stands for it.

Main results:

* `IssuerMetadata.declares_of_issuer?`: a stated name is a declaration;
* `IssuerMetadata.hasKeyLocation_of_keyLocation?`: a key location that is a text
  is a key location.
-/

namespace WebAuth

/-- A metadata document: a dictionary of its fields. -/
structure IssuerMetadata where
  fields : List (String × Json)
deriving DecidableEq, Repr

namespace IssuerMetadata

/-- The document with these fields, of which the last of a name counts. -/
def ofFields (fields : List (String × Json)) : IssuerMetadata :=
  ⟨Dictionary.ofList (Json.canonicalFields fields)⟩

/-- The document that a JSON value is, if it is an object. -/
def ofJson? : Json → Option IssuerMetadata
  | .object fields => some (ofFields fields)
  | _ => none

/-- Read a document. -/
def ofText (text : List Char) : Except Json.ObjectTextError IssuerMetadata :=
  (Json.parseObject text).map ofFields

/-- The document as a JSON value. -/
def toJson (m : IssuerMetadata) : Json := .object m.fields

/-- The value of a field. -/
def get? (m : IssuerMetadata) (name : String) : Option Json := m.fields.lookup name

/-- The issuer's name, if it is a text. -/
def issuer? (m : IssuerMetadata) : Option String := (m.get? "issuer").bind Json.asString?

/-- The location of the issuer's keys, if it is a text. -/
def keyLocation? (m : IssuerMetadata) : Option String :=
  (m.get? "jwks_uri").bind Json.asString?

/-- The value of a field, unless it is null. -/
def present? (m : IssuerMetadata) (name : String) : Option Json :=
  (m.get? name).filter (fun value => value ≠ .null)

/-- Whether the document states a location of keys. -/
def hasKeyLocation (m : IssuerMetadata) : Bool := (m.present? "jwks_uri").isSome

/-- Whether the document states an issuer. -/
def declaresIssuer (m : IssuerMetadata) : Bool := (m.present? "issuer").isSome

/-- The issuer as it is shown. -/
def displayIssuer (m : IssuerMetadata) : String :=
  match m.present? "issuer" with
  | some (.string name) => name
  | some value => value.compact
  | none => "(unavailable)"

/-- A stated name is a declaration. -/
theorem declares_of_issuer? {m : IssuerMetadata} {name : String}
    (h : m.issuer? = some name) : m.declaresIssuer = true ∧ m.displayIssuer = name := by
  obtain ⟨value, hvalue, htext⟩ := Option.bind_eq_some_iff.mp h
  cases value <;> simp_all [Json.asString?, declaresIssuer, displayIssuer, present?, Option.filter]

/-- A key location that is a text is a key location. -/
theorem hasKeyLocation_of_keyLocation? {m : IssuerMetadata} {location : String}
    (h : m.keyLocation? = some location) : m.hasKeyLocation = true := by
  obtain ⟨value, hvalue, htext⟩ := Option.bind_eq_some_iff.mp h
  cases value <;> simp_all [Json.asString?, hasKeyLocation, present?]

end IssuerMetadata

/-! ## The typed view -/

/-- The fields that providers commonly publish. -/
structure ProviderMetadata where
  issuer : String
  jwksUri : String
  authorizationEndpoint : Option String
  tokenEndpoint : Option String
  userinfoEndpoint : Option String
  revocationEndpoint : Option String
  introspectionEndpoint : Option String
  scopesSupported : Option (List String)
  responseTypesSupported : Option (List String)
  grantTypesSupported : Option (List String)
  idTokenAlgorithms : Option (List String)
deriving DecidableEq, Repr

namespace ProviderMetadata

/-- The fields of a provider's metadata that have been read. -/
structure Draft where
  issuer : Option String
  jwksUri : Option String
  /-- The metadata with what has been read of the optional fields. -/
  rest : ProviderMetadata

/-- Nothing read. -/
def Draft.empty : Draft :=
  ⟨none, none, ⟨"", "", none, none, none, none, none, none, none, none, none⟩⟩

/-- How a provider's metadata are read. -/
def format : RecordFormat Draft where
  name := "ProviderMetadata"
  fields := ["issuer", "jwks_uri", "authorization_endpoint", "token_endpoint",
    "userinfo_endpoint", "revocation_endpoint", "introspection_endpoint",
    "scopes_supported", "response_types_supported", "grant_types_supported",
    "id_token_signing_alg_values_supported"]
  defaulted := []
  readField name value d :=
    let text := Json.readOption Json.readString value
    let texts := Json.readOption (Json.readList Json.readString) value
    let keep (rest : ProviderMetadata) : Except ReadError Draft := .ok { d with rest := rest }
    match name with
    | "issuer" => do .ok { d with issuer := some (← value.readString) }
    | "jwks_uri" => do .ok { d with jwksUri := some (← value.readString) }
    | "authorization_endpoint" => do keep { d.rest with authorizationEndpoint := ← text }
    | "token_endpoint" => do keep { d.rest with tokenEndpoint := ← text }
    | "userinfo_endpoint" => do keep { d.rest with userinfoEndpoint := ← text }
    | "revocation_endpoint" => do keep { d.rest with revocationEndpoint := ← text }
    | "introspection_endpoint" => do keep { d.rest with introspectionEndpoint := ← text }
    | "scopes_supported" => do keep { d.rest with scopesSupported := ← texts }
    | "response_types_supported" => do keep { d.rest with responseTypesSupported := ← texts }
    | "grant_types_supported" => do keep { d.rest with grantTypesSupported := ← texts }
    | "id_token_signing_alg_values_supported" => do
        keep { d.rest with idTokenAlgorithms := ← texts }
    | _ => .ok d

/-- Read a provider's metadata. -/
def ofJson (value : Json) : Except ReadError ProviderMetadata := do
  let draft ← format.readDraft Draft.empty value
  let issuer ← requireField "issuer" draft.issuer
  let jwksUri ← requireField "jwks_uri" draft.jwksUri
  .ok { draft.rest with issuer := issuer, jwksUri := jwksUri }

/-- Write a provider's metadata. -/
def toJson (p : ProviderMetadata) : Json :=
  let texts : Option (List String) → Json
    | some ts => Json.ofTexts ts
    | none => .null
  .object [
    ("authorization_endpoint", Json.ofOptionalText p.authorizationEndpoint),
    ("grant_types_supported", texts p.grantTypesSupported),
    ("id_token_signing_alg_values_supported", texts p.idTokenAlgorithms),
    ("introspection_endpoint", Json.ofOptionalText p.introspectionEndpoint),
    ("issuer", .string p.issuer),
    ("jwks_uri", .string p.jwksUri),
    ("response_types_supported", texts p.responseTypesSupported),
    ("revocation_endpoint", Json.ofOptionalText p.revocationEndpoint),
    ("scopes_supported", texts p.scopesSupported),
    ("token_endpoint", Json.ofOptionalText p.tokenEndpoint),
    ("userinfo_endpoint", Json.ofOptionalText p.userinfoEndpoint)]

end ProviderMetadata

/-- The typed view of a metadata document. -/
def IssuerMetadata.provider (m : IssuerMetadata) : Except ReadError ProviderMetadata :=
  ProviderMetadata.ofJson m.toJson

end WebAuth
