import WebAuth.Json.Reading

/-!
# Session settings

The cookie that carries a session's id, and how long sessions live.

Main results:

* `SessionConfig.lifetime?_eq_some_iff`: which lifetimes can be represented.
-/

namespace WebAuth

/-- Whether a cookie travels with requests from other sites. -/
inductive SameSite where
  | lax
  | strict
  | unrestricted
deriving DecidableEq, Repr

namespace SameSite

/-- The names of the alternatives. -/
def variants : List (String × SameSite) :=
  [("Lax", lax), ("Strict", strict), ("None", unrestricted)]

/-- The name of an alternative. -/
def name : SameSite → String
  | lax => "Lax"
  | strict => "Strict"
  | unrestricted => "None"

end SameSite

/-- Session settings. -/
structure SessionConfig where
  cookieName : String
  secure : Bool
  httpOnly : Bool
  sameSite : SameSite
  maxAgeSecs : Int
deriving DecidableEq, Repr

namespace SessionConfig

/-- A secure, lax cookie that lasts a day. -/
def default : SessionConfig := ⟨"GATEKEEP_SESSION", true, true, .lax, 86400⟩

/-- The longest duration that can be represented, in seconds. -/
def durationLimit : Int := 9223372036854775

/-- The lifetime of sessions; none if it cannot be represented. -/
def lifetime? (c : SessionConfig) : Option Int :=
  if -durationLimit ≤ c.maxAgeSecs ∧ c.maxAgeSecs ≤ durationLimit then some c.maxAgeSecs
  else none

/-- A lifetime is that of the settings, where it can be represented. -/
theorem lifetime?_eq_some_iff {c : SessionConfig} {lifetime : Int} :
    c.lifetime? = some lifetime ↔
      lifetime = c.maxAgeSecs ∧ -durationLimit ≤ lifetime ∧ lifetime ≤ durationLimit := by
  unfold lifetime?
  split
  · rename_i hrange
    constructor
    · intro h
      cases h
      exact ⟨rfl, hrange⟩
    · rintro ⟨rfl, -⟩
      rfl
  · rename_i hrange
    constructor
    · exact nofun
    · rintro ⟨rfl, h⟩
      exact absurd h hrange

example : default.lifetime? = some 86400 := by
  decide

/-! ## JSON form -/

/-- How session settings are read; every field has a default. -/
def format : RecordFormat SessionConfig where
  name := "SessionConfig"
  fields := ["cookie_name", "secure", "http_only", "same_site", "max_age_secs"]
  defaulted := ["cookie_name", "secure", "http_only", "same_site", "max_age_secs"]
  readField name value c :=
    match name with
    | "cookie_name" => do .ok { c with cookieName := ← value.readString }
    | "secure" => do .ok { c with secure := ← value.readBoolean }
    | "http_only" => do .ok { c with httpOnly := ← value.readBoolean }
    | "same_site" => do .ok { c with sameSite := ← Json.readVariant SameSite.variants value }
    | "max_age_secs" => do .ok { c with maxAgeSecs := ← value.readInt64 }
    | _ => .ok c

/-- Read session settings. -/
def ofJson (value : Json) : Except ReadError SessionConfig :=
  format.readDraft default value

/-- Write session settings. -/
def toJson (c : SessionConfig) : Json :=
  .object [
    ("cookie_name", .string c.cookieName),
    ("http_only", .boolean c.httpOnly),
    ("max_age_secs", .number (.integer c.maxAgeSecs)),
    ("same_site", .string c.sameSite.name),
    ("secure", .boolean c.secure)]

end SessionConfig

end WebAuth
