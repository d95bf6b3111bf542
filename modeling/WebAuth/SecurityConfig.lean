import WebAuth.MethodSecurity
import WebAuth.Session.Config

/-!
# Security settings

The settings of a whole application: the request pipeline, method security and
sessions.

Main results:

* `SecurityConfig.validate_eq_ok_iff`: which settings can take effect.
-/

namespace WebAuth

/-- Settings of the request pipeline. -/
structure PipelineConfig where
  /-- Report how each request is handled. -/
  debug : Bool
deriving DecidableEq, Repr

/-- Settings of an application. -/
structure SecurityConfig where
  web : PipelineConfig
  method : MethodSecurity
  session : SessionConfig
deriving DecidableEq, Repr

namespace SecurityConfig

/-- The default settings. -/
def default : SecurityConfig := ⟨⟨false⟩, MethodSecurity.default, SessionConfig.default⟩

/-- Check that the settings can take effect. -/
def validate (c : SecurityConfig) : Except ConfigError Unit := do
  if c.method.anyEnabled then c.method.validate
  if c.session.maxAgeSecs ≤ 0 then .error (.invalid .lifetimeNotPositive)

/-- Settings can take effect if guards that are switched on can be put in place, and if
sessions last. -/
theorem validate_eq_ok_iff {c : SecurityConfig} :
    c.validate = .ok () ↔
      (c.method.anyEnabled = true → c.method.validate = .ok ()) ∧ 0 < c.session.maxAgeSecs := by
  unfold validate
  split
  · rename_i hage
    -- The last check fails, whether that of the guards is made or not.
    cases c.method.anyEnabled <;> cases c.method.validate <;>
      simp [Int.not_lt.mpr hage, bind, Except.bind]
  · rename_i hage
    cases c.method.anyEnabled <;> cases c.method.validate <;>
      simp [Int.not_le.mp hage, bind, Except.bind, pure, Except.pure]

example : default.validate = .ok () :=
  rfl

end SecurityConfig

/-! ## JSON form -/

namespace PipelineConfig

/-- How pipeline settings are read; every field has a default. -/
def format : RecordFormat PipelineConfig where
  name := "WebSecurityConfig"
  fields := ["debug"]
  defaulted := ["debug"]
  readField name value c :=
    match name with
    | "debug" => do .ok { c with debug := ← value.readBoolean }
    | _ => .ok c

/-- Read pipeline settings. -/
def ofJson (value : Json) : Except ReadError PipelineConfig :=
  format.readDraft ⟨false⟩ value

/-- Write pipeline settings. -/
def toJson (c : PipelineConfig) : Json := .object [("debug", .boolean c.debug)]

end PipelineConfig

namespace SecurityConfig

/-- How security settings are read; every field has a default. -/
def format : RecordFormat SecurityConfig where
  name := "SecurityConfig"
  fields := ["web", "method", "session"]
  defaulted := ["web", "method", "session"]
  readField name value c :=
    match name with
    | "web" => do .ok { c with web := ← PipelineConfig.ofJson value }
    | "method" => do .ok { c with method := ← MethodSecurity.ofJson value }
    | "session" => do .ok { c with session := ← SessionConfig.ofJson value }
    | _ => .ok c

/-- Read security settings. -/
def ofJson (value : Json) : Except ReadError SecurityConfig :=
  format.readDraft default value

/-- Write security settings. -/
def toJson (c : SecurityConfig) : Json :=
  .object [
    ("method", c.method.toJson),
    ("session", c.session.toJson),
    ("web", c.web.toJson)]

end SecurityConfig

end WebAuth
