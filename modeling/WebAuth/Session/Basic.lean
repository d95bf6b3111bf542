import WebAuth.Identity

/-!
# Sessions

A session remembers an identity under an id until an instant, with attributes
that applications keep in it.

Main results:

* `Session.create?_expiresLater`: a session with a positive lifetime is created
  alive.
-/

namespace WebAuth

open Calendar

/-- What is remembered between requests. -/
structure Session where
  id : String
  identity : Identity
  /-- A dictionary of values that applications keep. -/
  attributes : List (String × Json)
  createdAt : Timestamp
  expiresAt : Timestamp
deriving DecidableEq, Repr

namespace Session

/-- A new session; none if its end lies outside the calendar. -/
def create? (id : String) (identity : Identity) (now : Timestamp) (lifetime : Int) :
    Option Session :=
  (now.plusSeconds? lifetime).map (fun expiry => ⟨id, identity, [], now, expiry⟩)

/-- Whether the session has come to its end. -/
def isExpired (s : Session) (now : Timestamp) : Bool := s.expiresAt.le now

/-- The lifetime in whole seconds. -/
def lifetime (s : Session) : Int := s.expiresAt.secondsSince s.createdAt

/-- A session with a positive lifetime is created alive. -/
theorem create?_expiresLater {id : String} {identity : Identity} {now : Timestamp}
    {lifetime : Int} {s : Session} (h : 0 < lifetime)
    (hs : create? id identity now lifetime = some s) : s.isExpired now = false := by
  obtain ⟨expiry, hexpiry, rfl⟩ := Option.map_eq_some_iff.mp hs
  exact (Timestamp.le_plusSeconds? h hexpiry).2

/-! ## JSON form -/

/-- The fields of a session that have been read. -/
structure Draft where
  id : Option String
  identity : Option Identity
  attributes : List (String × Json)
  createdAt : Option Timestamp
  expiresAt : Option Timestamp

/-- How a session is read. -/
def format : RecordFormat Draft where
  name := "Session"
  fields := ["id", "identity", "attributes", "created_at", "expires_at"]
  defaulted := ["attributes"]
  readField name value draft :=
    match name with
    | "id" => do .ok { draft with id := some (← value.readString) }
    | "identity" => do .ok { draft with identity := some (← Identity.ofJson value) }
    | "attributes" => do .ok { draft with attributes := ← Json.readDictionary .ok value }
    | "created_at" => do .ok { draft with createdAt := some (← value.readTimestamp) }
    | "expires_at" => do .ok { draft with expiresAt := some (← value.readTimestamp) }
    | _ => .ok draft

/-- Read a session. -/
def ofJson (value : Json) : Except ReadError Session := do
  let draft ← format.readDraft ⟨none, none, [], none, none⟩ value
  let id ← requireField "id" draft.id
  let identity ← requireField "identity" draft.identity
  let createdAt ← requireField "created_at" draft.createdAt
  let expiresAt ← requireField "expires_at" draft.expiresAt
  .ok ⟨id, identity, draft.attributes, createdAt, expiresAt⟩

/-- Write a session. -/
def toJson (s : Session) : Json :=
  .object [
    ("attributes", .object s.attributes),
    ("created_at", .string s.createdAt.text),
    ("expires_at", .string s.expiresAt.text),
    ("id", .string s.id),
    ("identity", s.identity.toJson)]

end Session

end WebAuth
