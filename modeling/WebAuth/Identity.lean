import WebAuth.Json.Reading

/-!
# Identities

Who a request comes from: a subject known to a provider, with what the provider
vouches for.  The principal is the text under which an identity's sessions are
grouped.

Main results:

* `Identity.hasAuthority_withAuthority`: a granted authority is held.
-/

namespace WebAuth

/-- An authenticated identity. -/
structure Identity where
  providerId : String
  externalId : String
  email : Option String
  username : Option String
  authorities : List String
  /-- A dictionary of further facts. -/
  attributes : List (String × String)
deriving DecidableEq, Repr

namespace Identity

/-- An identity of which only the subject is known. -/
def ofSubject (providerId externalId : String) : Identity :=
  ⟨providerId, externalId, none, none, [], []⟩

/-- Give the identity a user name. -/
def withUsername (i : Identity) (username : String) : Identity :=
  { i with username := some username }

/-- Grant an authority. -/
def withAuthority (i : Identity) (authority : String) : Identity :=
  { i with authorities := i.authorities ++ [authority] }

/-- The provider and the subject, joined by a colon. -/
def principal (i : Identity) : String :=
  i.providerId ++ ":" ++ i.externalId

/-- Whether an authority is held, compared exactly. -/
def hasAuthority (i : Identity) (authority : String) : Bool :=
  i.authorities.contains authority

/-- A granted authority is held. -/
@[simp]
theorem hasAuthority_withAuthority (i : Identity) (authority : String) :
    (i.withAuthority authority).hasAuthority authority = true := by
  simp [hasAuthority, withAuthority]

@[simp]
theorem principal_withUsername (i : Identity) (username : String) :
    (i.withUsername username).principal = i.principal :=
  rfl

/-! ## JSON form -/

/-- The fields of an identity that have been read. -/
structure Draft where
  providerId : Option String
  externalId : Option String
  email : Option String
  username : Option String
  authorities : List String
  attributes : List (String × String)

/-- How an identity is read. -/
def format : RecordFormat Draft where
  name := "Identity"
  fields := ["provider_id", "external_id", "email", "username", "authorities", "attributes"]
  defaulted := ["authorities", "attributes"]
  readField name value draft :=
    match name with
    | "provider_id" => do .ok { draft with providerId := some (← value.readString) }
    | "external_id" => do .ok { draft with externalId := some (← value.readString) }
    | "email" => do .ok { draft with email := ← Json.readOption Json.readString value }
    | "username" => do .ok { draft with username := ← Json.readOption Json.readString value }
    | "authorities" => do
        .ok { draft with authorities := ← Json.readList Json.readString value }
    | "attributes" => do
        .ok { draft with attributes := ← Json.readDictionary Json.readString value }
    | _ => .ok draft

/-- Read an identity. -/
def ofJson (value : Json) : Except ReadError Identity := do
  let draft ← format.readDraft ⟨none, none, none, none, [], []⟩ value
  let providerId ← requireField "provider_id" draft.providerId
  let externalId ← requireField "external_id" draft.externalId
  .ok ⟨providerId, externalId, draft.email, draft.username, draft.authorities,
    draft.attributes⟩

end Identity

namespace Json

/-- A text or null. -/
def ofOptionalText : Option String → Json
  | some s => .string s
  | none => .null

/-- An array of texts. -/
def ofTexts (texts : List String) : Json :=
  .array (texts.map .string)

end Json

namespace Identity

/-- Write an identity. -/
def toJson (i : Identity) : Json :=
  .object [
    ("attributes", .object (i.attributes.map (fun (name, text) => (name, .string text)))),
    ("authorities", Json.ofTexts i.authorities),
    ("email", Json.ofOptionalText i.email),
    ("external_id", .string i.externalId),
    ("provider_id", .string i.providerId),
    ("username", Json.ofOptionalText i.username)]

end Identity

end WebAuth
