import WebAuth.AccessError

/-!
# Configuration errors

Why a configuration cannot take effect.

Main results:

* `ConfigError.status_toAccessError`: a client sees a server error.
-/

namespace WebAuth

/-- Settings that contradict each other. -/
inductive ConfigConflict where
  | noAnnotationFamily
  | proxyClassWithoutProxies
  | lifetimeNotPositive
deriving DecidableEq, Repr

/-- The wording of a contradiction. -/
def ConfigConflict.message : ConfigConflict → String
  | .noAnnotationFamily =>
      "method security is enabled but no annotation family is switched on"
  | .proxyClassWithoutProxies => "proxy_target_class only applies to the proxy advice mode"
  | .lifetimeNotPositive => "session max_age_secs must be positive"

/-- Why a configuration is refused. -/
inductive ConfigError where
  /-- Configurers as well as finished chains are registered. -/
  | conflictingSources
  /-- Two configurers claim one place. -/
  | duplicateOrder (order : Int) (previous current : String)
  | invalid (conflict : ConfigConflict)
deriving DecidableEq, Repr

namespace ConfigError

/-- The wording of a configuration error. -/
def message : ConfigError → String
  | conflictingSources =>
      "Found WebSecurityConfigurer as well as SecurityFilterChain. Please select just one."
  | duplicateOrder order previous current =>
      "Order on WebSecurityConfigurers must be unique. Order of " ++ toString order ++
        " was already used on " ++ previous ++ ", so it cannot be used on " ++ current ++ " too."
  | invalid conflict => "Invalid security configuration: " ++ conflict.message

/-- What a client is told. -/
def toAccessError (e : ConfigError) : AccessError := .configuration e.message

/-- A client sees a server error. -/
@[simp]
theorem status_toAccessError (e : ConfigError) : e.toAccessError.status = 500 :=
  rfl

end ConfigError

end WebAuth
