import WebAuth.Crypto.Ecdsa
import WebAuth.Crypto.Rsa

/-!
# Signature algorithms

The algorithms that tokens name, and which keys they go with.  Only RSA keys and
keys on elliptic curves are known, so the algorithms of shared secrets and of
Edwards curves go with no key.

Main results:

* `Algorithm.lookup_name`: every algorithm is found under its name;
* `VerificationKey.suits_rsa`, `VerificationKey.suits_point`: the families of keys.
-/

namespace WebAuth

open Crypto

/-- The algorithms that tokens name. -/
inductive Algorithm where
  | hs256
  | hs384
  | hs512
  | es256
  | es384
  | rs256
  | rs384
  | rs512
  | ps256
  | ps384
  | ps512
  | edDsa
deriving DecidableEq, Repr

namespace Algorithm

/-- The algorithms under their names. -/
def variants : List (String × Algorithm) :=
  [("HS256", hs256), ("HS384", hs384), ("HS512", hs512), ("ES256", es256), ("ES384", es384),
    ("RS256", rs256), ("RS384", rs384), ("RS512", rs512), ("PS256", ps256),
    ("PS384", ps384), ("PS512", ps512), ("EdDSA", edDsa)]

/-- The name of an algorithm. -/
def name : Algorithm → String
  | hs256 => "HS256"
  | hs384 => "HS384"
  | hs512 => "HS512"
  | es256 => "ES256"
  | es384 => "ES384"
  | rs256 => "RS256"
  | rs384 => "RS384"
  | rs512 => "RS512"
  | ps256 => "PS256"
  | ps384 => "PS384"
  | ps512 => "PS512"
  | edDsa => "EdDSA"

/-- Every algorithm is found under its name. -/
theorem lookup_name (a : Algorithm) : variants.lookup a.name = some a := by
  cases a <;> decide

/-- Whether the algorithm goes with RSA keys. -/
def isRsa : Algorithm → Bool
  | rs256 | rs384 | rs512 | ps256 | ps384 | ps512 => true
  | _ => false

/-- The curve and hash function of an algorithm on elliptic curves. -/
def curve? : Algorithm → Option (Curve × Sha2)
  | es256 => some (Curve.p256, Sha2.sha256)
  | es384 => some (Curve.p384, Sha2.sha384)
  | _ => none

end Algorithm

/-! ## Keys -/

/-- What signatures are verified with. -/
inductive VerificationKey where
  /-- The octets of modulus and exponent. -/
  | rsa (modulus exponent : List UInt8)
  /-- The octets of a point on a curve. -/
  | point (octets : List UInt8)
deriving DecidableEq, Repr

namespace VerificationKey

/-- Whether a key is of the algorithm's family. -/
def suits (k : VerificationKey) (a : Algorithm) : Bool :=
  match k with
  | rsa _ _ => a.isRsa
  | point _ => a.curve?.isSome

/-- Whether a key names a point of the algorithm's curve, if the algorithm has one. -/
def isOnCurveOf (k : VerificationKey) (a : Algorithm) : Bool :=
  match k, a.curve? with
  | point octets, some (curve, _) => (curve.point? octets).isSome
  | _, _ => true

/-- Whether a signature fits a message. -/
def verifies (k : VerificationKey) (a : Algorithm) (message signature : List UInt8) : Bool :=
  match k with
  | rsa modulus exponent =>
      let key := Rsa.PublicKey.ofOctets modulus exponent
      match a with
      | .rs256 => Rsa.verifiesPadded Sha2.sha256 key message signature
      | .rs384 => Rsa.verifiesPadded Sha2.sha384 key message signature
      | .rs512 => Rsa.verifiesPadded Sha2.sha512 key message signature
      | .ps256 => Rsa.verifiesMasked Sha2.sha256 key message signature
      | .ps384 => Rsa.verifiesMasked Sha2.sha384 key message signature
      | .ps512 => Rsa.verifiesMasked Sha2.sha512 key message signature
      | _ => false
  | point octets =>
      match a.curve? with
      | some (curve, hash) =>
          match curve.point? octets with
          | some key => curve.verifies hash key message signature
          | none => false
      | none => false

/-- An RSA key goes with the RSA algorithms. -/
theorem suits_rsa (modulus exponent : List UInt8) (a : Algorithm) :
    (rsa modulus exponent).suits a = a.isRsa :=
  rfl

/-- A point goes with the algorithms that have a curve. -/
theorem suits_point (octets : List UInt8) (a : Algorithm) :
    (point octets).suits a = true ↔ a = .es256 ∨ a = .es384 := by
  cases a <;> simp [suits, Algorithm.curve?]

end VerificationKey

end WebAuth
