import WebAuth.Issuer.Location
import WebAuth.Token.Algorithm

/-!
# Token errors

Why a token is not accepted: the token may be at fault, the keys may be out of
reach, or a key may be unusable.

Main results:

* `TokenError.faultsToken_iff`: which errors are the token's own.
-/

namespace WebAuth

open Http

/-- What is wrong with a signed token. -/
inductive TokenFault where
  | malformed
  | wrongSignature
  | keyNotOnCurve
  | keyOfOtherFamily
  | missingExpiry
  | malformedExpiry
  | expired
  | wrongIssuer
  | wrongAudience
  | wrongAlgorithm
  | notBase64
  | notJson
deriving DecidableEq, Repr

/-- The name of a fault. -/
def TokenFault.name : TokenFault → String
  | .malformed => "InvalidToken"
  | .wrongSignature => "InvalidSignature"
  | .keyNotOnCurve => "InvalidEcdsaKey"
  | .keyOfOtherFamily => "InvalidKeyFormat"
  | .missingExpiry => "MissingRequiredClaim"
  | .malformedExpiry => "InvalidClaimFormat"
  | .expired => "ExpiredSignature"
  | .wrongIssuer => "InvalidIssuer"
  | .wrongAudience => "InvalidAudience"
  | .wrongAlgorithm => "InvalidAlgorithm"
  | .notBase64 => "Base64"
  | .notJson => "Json"

/-- The wording of a fault. -/
def TokenFault.message : TokenFault → String
  | .missingExpiry => "Missing required claim: exp"
  | .malformedExpiry => "Invalid format for claim: exp"
  | fault => fault.name

/-- Why a published key cannot be used. -/
inductive KeyFlaw where
  | missingComponent (name : String)
  | unsupportedType (name : String)
deriving DecidableEq, Repr

/-- The wording of a flaw. -/
def KeyFlaw.message : KeyFlaw → String
  | .missingComponent name => "Missing '" ++ name ++ "' component in JWK"
  | .unsupportedType name => "Unsupported key type '" ++ name ++ "'"

/-- Why a token is not accepted. -/
inductive TokenError where
  | unreachableKeys (error : FetchError)
  | faulty (fault : TokenFault)
  | algorithmNotAllowed (algorithm : Algorithm)
  | keyNotFound
  | discovery (error : DiscoveryError)
  | unusableKey (flaw : KeyFlaw)
  /-- The issuer's location of keys is not a text. -/
  | keyLocationNotText
deriving DecidableEq, Repr

namespace TokenError

/-- The wording of a token error. -/
def message : TokenError → String
  | unreachableKeys e => "HTTP error: " ++ e.message
  | faulty fault => "JWT error: " ++ fault.message
  | algorithmNotAllowed algorithm =>
      "Invalid token: algorithm " ++ algorithm.name ++ " is not allowed"
  | keyNotFound => "Key not found in JWKS"
  | discovery e => "Discovery error: " ++ e.message
  | unusableKey flaw => "Validation error: " ++ flaw.message
  | keyLocationNotText => "Validation error: jwks_uri is not a string"

/-- Whether the token itself is held to be at fault. -/
def faultsToken : TokenError → Bool
  | faulty _ | algorithmNotAllowed _ => true
  | _ => false

/-- What a client is told. -/
def toAccessError (e : TokenError) : AccessError := .token e.message

/-- Faults and refused algorithms are the token's own. -/
theorem faultsToken_iff (e : TokenError) :
    e.faultsToken = true ↔ (∃ fault, e = faulty fault) ∨ ∃ a, e = algorithmNotAllowed a := by
  cases e <;> simp [faultsToken]

end TokenError

end WebAuth
