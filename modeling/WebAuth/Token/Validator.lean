import WebAuth.Issuer.Discovery
import WebAuth.Token.Claims
import WebAuth.Token.Header
import WebAuth.Token.KeyCache

/-!
# Validating tokens

A validator accepts the tokens of one issuer: signed by an allowed algorithm with a
key that the issuer publishes, not expired, and, where the validator says so, of a
certain issuer and for a certain audience.

Main results:

* `TokenValidator.decodeClaims_of_fault`: a token without a readable header causes no
  fetch;
* `TokenValidator.withAlgorithms_nil`: an empty list of algorithms changes nothing.
-/

namespace WebAuth

open Encoding Http

/-- The two clocks: a steady one for the age of keys, and the seconds since 1970 for
the expiry of tokens. -/
structure Moment where
  steady : Nat
  seconds : Int
deriving DecidableEq, Repr

/-- What a validator asks of tokens. -/
structure TokenValidator where
  source : KeySource
  issuer : Option String
  audience : Option String
  algorithms : List Algorithm
  /-- Seconds by which clocks may differ. -/
  leeway : Nat
deriving DecidableEq, Repr

namespace TokenValidator

/-! ## Building validators -/

/-- A validator for the keys at a location. -/
def ofKeyLocation (location : String) : TokenValidator :=
  ⟨⟨location, 3600, 30⟩, none, none, [.rs256], 60⟩

/-- Require an issuer. -/
def withIssuer (v : TokenValidator) (issuer : String) : TokenValidator :=
  { v with issuer := some issuer }

/-- Require an audience. -/
def withAudience (v : TokenValidator) (audience : String) : TokenValidator :=
  { v with audience := some audience }

/-- Allow some algorithms; an empty list keeps those allowed before. -/
def withAlgorithms (v : TokenValidator) (algorithms : List Algorithm) : TokenValidator :=
  if algorithms.isEmpty then v else { v with algorithms := algorithms }

/-- Let clocks differ by some seconds. -/
def withLeeway (v : TokenValidator) (seconds : Nat) : TokenValidator :=
  { v with leeway := seconds }

/-- Keep keys for a while. -/
def withKeyLifetime (v : TokenValidator) (lifetime : Nat) : TokenValidator :=
  { v with source := { v.source with lifetime := lifetime } }

/-- Let unknown keys cause no fetch for a while after a fetch. -/
def withKeyPause (v : TokenValidator) (pause : Nat) : TokenValidator :=
  { v with source := { v.source with pause := pause } }

/-- An empty list of algorithms changes nothing. -/
@[simp]
theorem withAlgorithms_nil (v : TokenValidator) : v.withAlgorithms [] = v :=
  rfl

/-- The validator for the issuer that a document describes. -/
def ofMetadata (document : IssuerMetadata) (issuer : String) :
    Except TokenError TokenValidator :=
  match Discovery.validate document issuer with
  | .error e => .error (.discovery e)
  | .ok () =>
      match document.keyLocation? with
      | none => .error .keyLocationNotText
      | some location => .ok ((ofKeyLocation location).withIssuer issuer)

/-- Find an issuer's metadata in a given way and make a validator of them. -/
def ofDiscovery (resolve : String → Run Network DiscoveryError IssuerMetadata)
    (issuer : String) : Run Network TokenError TokenValidator := do
  let document ← (resolve issuer).mapReason .discovery
  .ofExcept (ofMetadata document issuer)

/-- A validator for an issuer whose metadata may be at any well-known location. -/
def ofIssuer : String → Run Network TokenError TokenValidator :=
  ofDiscovery Discovery.resolve

/-- A validator for an issuer whose metadata are at the OpenID location. -/
def ofOpenIdIssuer : String → Run Network TokenError TokenValidator :=
  ofDiscovery Discovery.resolveOpenId

/-! ## Checks without keys -/

/-- The token with its header, if its algorithm is allowed. -/
def screen (v : TokenValidator) (token : String) :
    Except TokenError (SignedToken × TokenHeader) :=
  match SignedToken.ofText? token.toList with
  | none => .error (.faulty .malformed)
  | some t =>
      match TokenHeader.ofToken t with
      | .error fault => .error (.faulty fault)
      | .ok header =>
          if v.algorithms.contains header.algorithm then .ok (t, header)
          else .error (.algorithmNotAllowed header.algorithm)

/-! ## Checks with a key -/

/-- Check a token's signature.  The token's algorithm has to be one of those allowed, the key
has to be of the right kind for it and of the family of all that are allowed, and the signature
has to fit. -/
def checkSignature (allowed : List Algorithm) (key : VerificationKey) (algorithm : Algorithm)
    (t : SignedToken) : Except TokenFault Unit :=
  if !allowed.contains algorithm then .error .wrongAlgorithm
  else if !key.suits algorithm then .error .keyOfOtherFamily
  else if !key.isOnCurveOf algorithm then .error .keyNotOnCurve
  else if !allowed.all key.suits then .error .wrongAlgorithm
  else match Alphabet.addressSafe.decode? t.signature with
    | none => .error .notBase64
    | some signature =>
        if key.verifies algorithm t.messageOctets signature then .ok ()
        else .error .wrongSignature

/-- The claims in a token's payload. -/
def payloadClaims (t : SignedToken) : Except TokenFault Claims :=
  match Alphabet.addressSafe.decode? t.payload with
  | none => .error .notBase64
  | some octets =>
      match Claims.ofOctets? octets with
      | none => .error .notJson
      | some claims => .ok claims

/-- Whether a token has come to its end.  The instants are compared as integers: with a leeway
of more seconds than have passed since 1970 no token has. -/
def isExpired (v : TokenValidator) (seconds : Int) (expiry : Nat) : Bool :=
  (expiry : Int) + v.leeway < seconds

/-- Check what a token says; what it leaves out, except its end, is not checked. -/
def checkClaims (v : TokenValidator) (seconds : Int) (c : Claims) : Except TokenFault Unit :=
  match c.expiry with
  | none => .error .missingExpiry
  | some expiry =>
      if v.isExpired seconds expiry then .error .expired
      else if v.issuer.any (fun required => c.issuer.any (· ≠ required)) then
        .error .wrongIssuer
      else if v.audience.any (fun required => c.audience.any (fun a => !a.admits required)) then
        .error .wrongAudience
      else .ok ()

/-- The claims of a token that passes all checks with a key.  A key is of one family, so that
for its signature no other algorithm is allowed than the token's own. -/
def openWith (v : TokenValidator) (seconds : Int) (key : VerificationKey)
    (algorithm : Algorithm) (t : SignedToken) : Except TokenFault Claims := do
  checkSignature [algorithm] key algorithm t
  let claims ← payloadClaims t
  v.checkClaims seconds claims
  .ok claims

/-! ## Tokens -/

/-- The claims of a token, once it has passed all checks. -/
def decodeClaims (v : TokenValidator) (moment : Moment) (token : String) :
    Run KeyDesk TokenError Claims :=
  match v.screen token with
  | .error e => .refuse e
  | .ok (t, header) => do
      match ← v.source.findKey moment.steady header.keyId with
      | none => .refuse .keyNotFound
      | some published =>
          let key ← Run.ofExcept published.verificationKey
          Run.ofExcept ((v.openWith moment.seconds key header.algorithm t).mapError .faulty)

/-- The identity that a token vouches for.  A token that is itself at fault vouches for
nobody; other errors are reported. -/
def validate (v : TokenValidator) (moment : Moment) (token : String) :
    Run KeyDesk AccessError (Option Identity) := do
  match ← (v.decodeClaims moment token).attempt with
  | .ok claims => pure (some claims.toIdentity)
  | .error e => if e.faultsToken then pure none else .refuse e.toAccessError

/-- A token without a readable header of an allowed algorithm causes no fetch. -/
theorem decodeClaims_of_fault {v : TokenValidator} {token : String} {e : TokenError}
    (h : v.screen token = .error e) (moment : Moment) (d : KeyDesk) :
    v.decodeClaims moment token d = (.refused e, d) := by
  simp [decodeClaims, h]

end TokenValidator

end WebAuth
