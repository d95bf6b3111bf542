import WebAuth.ConfigError
import WebAuth.Json.Reading

/-!
# Method security settings

Which families of annotations guard methods, and how the guards are put in place.

Main results:

* `MethodSecurity.mem_families`: a family is listed exactly if it is switched on.
-/

namespace WebAuth

/-- The place after all others. -/
def lowestPrecedence : Int := 2147483647

/-- A family of annotations that guard methods. -/
inductive AnnotationFamily where
  | prePost
  | secured
  | jsr250
deriving DecidableEq, Repr

/-- How guards are put in place. -/
inductive AdviceMode where
  | proxy
  | woven
deriving DecidableEq, Repr

namespace AdviceMode

/-- The names of the modes. -/
def variants : List (String × AdviceMode) := [("proxy", proxy), ("aspectj", woven)]

/-- The name of a mode. -/
def name : AdviceMode → String
  | proxy => "proxy"
  | woven => "aspectj"

end AdviceMode

/-- Method security settings. -/
structure MethodSecurity where
  prePostEnabled : Bool
  securedEnabled : Bool
  jsr250Enabled : Bool
  /-- Guard classes instead of their interfaces. -/
  proxyTargetClass : Bool
  mode : AdviceMode
  order : Int
deriving DecidableEq, Repr

namespace MethodSecurity

/-- Everything switched off. -/
def default : MethodSecurity := ⟨false, false, false, false, .proxy, lowestPrecedence⟩

/-- Whether a family is switched on. -/
def isEnabled (m : MethodSecurity) : AnnotationFamily → Bool
  | .prePost => m.prePostEnabled
  | .secured => m.securedEnabled
  | .jsr250 => m.jsr250Enabled

/-- The families that are switched on. -/
def families (m : MethodSecurity) : List AnnotationFamily :=
  [.prePost, .secured, .jsr250].filter m.isEnabled

/-- Whether any family is switched on. -/
def anyEnabled (m : MethodSecurity) : Bool := !m.families.isEmpty

/-- Check that the settings can take effect. -/
def validate (m : MethodSecurity) : Except ConfigError Unit :=
  if !m.anyEnabled then .error (.invalid .noAnnotationFamily)
  else if m.proxyTargetClass && m.mode = .woven then
    .error (.invalid .proxyClassWithoutProxies)
  else .ok ()

/-- A family is listed exactly if it is switched on. -/
theorem mem_families (m : MethodSecurity) (family : AnnotationFamily) :
    family ∈ m.families ↔ m.isEnabled family = true := by
  cases family <;> simp [families]

/-! ## JSON form -/

/-- How method security settings are read; every field has a default. -/
def format : RecordFormat MethodSecurity where
  name := "MethodSecurityConfig"
  fields := ["pre_post_enabled", "secured_enabled", "jsr250_enabled", "proxy_target_class",
    "mode", "order"]
  defaulted := ["pre_post_enabled", "secured_enabled", "jsr250_enabled", "proxy_target_class",
    "mode", "order"]
  readField name value m :=
    match name with
    | "pre_post_enabled" => do .ok { m with prePostEnabled := ← value.readBoolean }
    | "secured_enabled" => do .ok { m with securedEnabled := ← value.readBoolean }
    | "jsr250_enabled" => do .ok { m with jsr250Enabled := ← value.readBoolean }
    | "proxy_target_class" => do .ok { m with proxyTargetClass := ← value.readBoolean }
    | "mode" => do .ok { m with mode := ← Json.readVariant AdviceMode.variants value }
    | "order" => do .ok { m with order := ← value.readInt32 }
    | _ => .ok m

/-- Read method security settings. -/
def ofJson (value : Json) : Except ReadError MethodSecurity :=
  format.readDraft default value

/-- Write method security settings. -/
def toJson (m : MethodSecurity) : Json :=
  .object [
    ("jsr250_enabled", .boolean m.jsr250Enabled),
    ("mode", .string m.mode.name),
    ("order", .number (.integer m.order)),
    ("pre_post_enabled", .boolean m.prePostEnabled),
    ("proxy_target_class", .boolean m.proxyTargetClass),
    ("secured_enabled", .boolean m.securedEnabled)]

end MethodSecurity

end WebAuth
