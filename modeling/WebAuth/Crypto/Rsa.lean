import WebAuth.Crypto.Sha2

/-!
# RSA signatures

A signature is a number whose power is the encoded digest of the message.  The
older encoding pads the digest with ones, the newer masks it and salts it; the
salt is as long as the digest.

Main results:

* `Rsa.PublicKey.length_opened`: an opened signature is as long as the modulus.
-/

namespace WebAuth.Crypto.Rsa

/-- A public key. -/
structure PublicKey where
  modulus : Nat
  exponent : Nat
deriving DecidableEq, Repr

namespace PublicKey

/-- The key that octets spell. -/
def ofOctets (modulus exponent : List UInt8) : PublicKey :=
  ⟨numberOf modulus, numberOf exponent⟩

/-- Whether a key can be used: odd, of moderate size, and more than trivial. -/
def isUsable (k : PublicKey) : Bool :=
  bitLength k.modulus ≤ 4096 && k.exponent < k.modulus && k.modulus % 2 = 1 &&
    k.exponent % 2 = 1 && 2 ≤ k.exponent && k.exponent < 0x200000000

/-- The length of the modulus in octets. -/
def length (k : PublicKey) : Nat := (bitLength k.modulus + 7) / 8

/-- The octets that a signature was made from. -/
def opened (k : PublicKey) (signature : List UInt8) : List UInt8 :=
  octetsOf k.length (powMod (numberOf signature) k.exponent k.modulus)

/-- Whether a text has the form of a signature under the key. -/
def admits (k : PublicKey) (signature : List UInt8) : Bool :=
  k.isUsable && signature.length = k.length && numberOf signature < k.modulus

/-- An opened signature is as long as the modulus. -/
@[simp]
theorem length_opened (k : PublicKey) (signature : List UInt8) :
    (k.opened signature).length = k.length := by
  simp [opened]

end PublicKey

/-! ## Padding with ones -/

/-- What stands before a digest, to name its function. -/
def digestLead (hash : Sha2) : List UInt8 :=
  let tag : UInt8 := if hash.digestLength = 32 then 1 else if hash.digestLength = 48 then 2 else 3
  [0x30, UInt8.ofNat (17 + hash.digestLength), 0x30, 0x0d, 0x06, 0x09, 0x60, 0x86, 0x48, 0x01,
    0x65, 0x03, 0x04, 0x02, tag, 0x05, 0x00, 0x04, UInt8.ofNat hash.digestLength]

/-- The encoded digest of a message; none if there is no room for it. -/
def paddedDigest? (hash : Sha2) (length : Nat) (message : List UInt8) : Option (List UInt8) :=
  let named := digestLead hash ++ hash.hash message
  if length < named.length + 11 then none
  else some (0x00 :: 0x01 :: List.replicate (length - named.length - 3) 0xff ++ 0x00 :: named)

/-- Whether a signature of the padding with ones fits a message. -/
def verifiesPadded (hash : Sha2) (k : PublicKey) (message signature : List UInt8) : Bool :=
  k.admits signature && paddedDigest? hash k.length message = some (k.opened signature)

/-! ## Masking -/

/-- A mask of a length, grown from a seed. -/
def mask (hash : Sha2) (seed : List UInt8) (length : Nat) : List UInt8 :=
  ((List.range (length / hash.digestLength + 1)).flatMap
    (fun i => hash.hash (seed ++ octetsOf 4 i))).take length

/-- Clear the first binary digits of a text. -/
def clearLead (count : Nat) : List UInt8 → List UInt8
  | [] => []
  | first :: rest => UInt8.ofNat (first.toNat % Nat.pow 2 (8 - count)) :: rest

/-- Whether an opened text of so many binary digits is the masked digest of a message. -/
def isMaskedDigest (hash : Sha2) (digits : Nat) (text message : List UInt8) : Bool :=
  let size := hash.digestLength
  let spare := 8 * text.length - digits
  let masked := text.take (text.length - size - 1)
  let seed := (text.drop masked.length).take size
  let plain := clearLead spare (xorOctets masked (mask hash seed masked.length))
  let salt := plain.drop (plain.length - size)
  let lead := plain.take (plain.length - size)
  2 * size + 2 ≤ text.length && text.getLast? = some 0xbc && clearLead spare masked = masked &&
    lead = List.replicate (lead.length - 1) 0x00 ++ [0x01] &&
    hash.hash (List.replicate 8 0x00 ++ hash.hash message ++ salt) = seed

/-- Whether a signature of the masking fits a message. -/
def verifiesMasked (hash : Sha2) (k : PublicKey) (message signature : List UInt8) : Bool :=
  let digits := bitLength k.modulus - 1
  let length := (digits + 7) / 8
  let text := k.opened signature
  let surplus := text.length - length
  k.admits signature && (text.take surplus).all (· = 0) &&
    isMaskedDigest hash digits (text.drop surplus) message

end WebAuth.Crypto.Rsa
