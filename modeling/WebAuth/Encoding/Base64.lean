/-!
# Base64

Three octets are written as four symbols of an alphabet.  A text is read back
only in its canonical form: padded exactly as the alphabet asks, and with no
bits set beyond the last octet.

Main definitions:

* `Alphabet.encode`, `Alphabet.decode?`: octets written, and read back.
-/

namespace WebAuth.Encoding

/-- A base64 alphabet: its last two symbols, and whether texts are padded. -/
structure Alphabet where
  symbol62 : Char
  symbol63 : Char
  padded : Bool
deriving DecidableEq, Repr

namespace Alphabet

/-- The alphabet of credentials in headers. -/
def standard : Alphabet := ⟨'+', '/', true⟩

/-- The alphabet of tokens and keys, safe in addresses and never padded. -/
def addressSafe : Alphabet := ⟨'-', '_', false⟩

/-- The symbol for a number below 64. -/
def symbol (a : Alphabet) (n : Nat) : Char :=
  if n < 26 then Char.ofNat (65 + n)
  else if n < 52 then Char.ofNat (71 + n)
  else if n < 62 then Char.ofNat (n - 4)
  else if n = 62 then a.symbol62
  else a.symbol63

/-- The number that a symbol stands for. -/
def digit? (a : Alphabet) (c : Char) : Option Nat :=
  if 'A' ≤ c && c ≤ 'Z' then some (c.toNat - 65)
  else if 'a' ≤ c && c ≤ 'z' then some (c.toNat - 71)
  else if '0' ≤ c && c ≤ '9' then some (c.toNat + 4)
  else if c = a.symbol62 then some 62
  else if c = a.symbol63 then some 63
  else none

/-- The padding after a last group that lacks `n` symbols. -/
def padding (a : Alphabet) (n : Nat) : List Char :=
  if a.padded then List.replicate n '=' else []

/-- Write octets. -/
def encode (a : Alphabet) : List UInt8 → List Char
  | [] => []
  | [x] =>
      a.symbol (x.toNat / 4) :: a.symbol (x.toNat % 4 * 16) :: a.padding 2
  | [x, y] =>
      a.symbol (x.toNat / 4) :: a.symbol (x.toNat % 4 * 16 + y.toNat / 16) ::
        a.symbol (y.toNat % 16 * 4) :: a.padding 1
  | x :: y :: z :: rest =>
      a.symbol (x.toNat / 4) :: a.symbol (x.toNat % 4 * 16 + y.toNat / 16) ::
        a.symbol (y.toNat % 16 * 4 + z.toNat / 64) :: a.symbol (z.toNat % 64) ::
        encode a rest

/-- The octet of a last group of two symbols. -/
def lastOctet? (a : Alphabet) (c d : Char) : Option (List UInt8) := do
  let m ← a.digit? c
  let n ← a.digit? d
  if n % 16 = 0 then some [UInt8.ofNat (m * 4 + n / 16)] else none

/-- The octets of a last group of three symbols. -/
def lastTwoOctets? (a : Alphabet) (c d e : Char) : Option (List UInt8) := do
  let m ← a.digit? c
  let n ← a.digit? d
  let k ← a.digit? e
  if k % 4 = 0 then
    some [UInt8.ofNat (m * 4 + n / 16), UInt8.ofNat (n % 16 * 16 + k / 4)]
  else none

/-- The octets of a full group. -/
def threeOctets? (a : Alphabet) (c d e f : Char) : Option (List UInt8) := do
  let m ← a.digit? c
  let n ← a.digit? d
  let k ← a.digit? e
  let l ← a.digit? f
  some [UInt8.ofNat (m * 4 + n / 16), UInt8.ofNat (n % 16 * 16 + k / 4),
    UInt8.ofNat (k % 4 * 64 + l)]

/-- Read octets back from their canonical form. -/
def decode? (a : Alphabet) : List Char → Option (List UInt8)
  | [] => some []
  | [c, d] => if a.padded then none else a.lastOctet? c d
  | [c, d, e] => if a.padded then none else a.lastTwoOctets? c d e
  | [c, d, e, f] =>
      if a.padded && f = '=' then
        if e = '=' then a.lastOctet? c d else a.lastTwoOctets? c d e
      else a.threeOctets? c d e f
  | c :: d :: e :: f :: rest => do
      let head ← a.threeOctets? c d e f
      let tail ← decode? a rest
      some (head ++ tail)
  | _ => none

end Alphabet

end WebAuth.Encoding
