import WebAuth.Http.Status

/-!
# Access errors

Why a request is not let through, with the wording and the HTTP status that the
client sees.

Main results:

* `AccessError.status_mem`: only three statuses are ever used.
-/

namespace WebAuth

/-- Why a request is not let through. -/
inductive AccessError where
  | invalidCredentials
  | unauthenticated
  | forbidden (reason : String)
  | csrfMismatch
  | session (reason : String)
  | token (reason : String)
  | configuration (reason : String)
deriving DecidableEq, Repr

namespace AccessError

/-- The wording of an access error. -/
def message : AccessError → String
  | invalidCredentials => "Invalid credentials"
  | unauthenticated => "Full authentication is required to access this resource"
  | forbidden reason => "Access denied: " ++ reason
  | csrfMismatch => "Invalid CSRF token"
  | session reason => "Session error: " ++ reason
  | token reason => "Token error: " ++ reason
  | configuration reason => "Configuration error: " ++ reason

/-- The HTTP status of an access error. -/
def status : AccessError → Nat
  | invalidCredentials | unauthenticated | session _ | token _ => 401
  | forbidden _ | csrfMismatch => 403
  | configuration _ => 500

/-- The status with its phrase. -/
def statusPhrase (e : AccessError) : String := Http.statusText e.status

/-- Every access error has one of three statuses. -/
theorem status_mem (e : AccessError) : e.status ∈ [401, 403, 500] := by
  cases e <;> simp [status]

end AccessError

end WebAuth
