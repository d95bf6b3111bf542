/-!
# Numbers in octets

Numbers are written in octets with the most significant first.

Main results:

* `length_octetsOf`: a number is written in as many octets as asked for.
-/

namespace WebAuth.Crypto

/-- The number that some octets spell. -/
def numberOf (octets : List UInt8) : Nat :=
  octets.foldl (fun n octet => n * 256 + octet.toNat) 0

/-- The last octets of a number, so many of them. -/
def octetsOf (count n : Nat) : List UInt8 :=
  match count with
  | 0 => []
  | count + 1 => octetsOf count (n / 256) ++ [UInt8.ofNat n]

/-- A number is written in as many octets as asked for. -/
@[simp]
theorem length_octetsOf (count n : Nat) : (octetsOf count n).length = count := by
  induction count generalizing n with
  | zero => rfl
  | succ count ih => simp [octetsOf, ih]

/-- The exclusive or of two texts of octets, as long as the shorter. -/
def xorOctets (a b : List UInt8) : List UInt8 := List.zipWith (· ^^^ ·) a b

/-- A power in modular arithmetic. -/
def powMod (base exponent modulus : Nat) : Nat :=
  if h : exponent = 0 then 1 % modulus
  else
    let half := powMod (base * base % modulus) (exponent / 2) modulus
    if exponent % 2 = 1 then base * half % modulus else half
termination_by exponent

/-- The number of binary digits. -/
def bitLength (n : Nat) : Nat := if n = 0 then 0 else Nat.log2 n + 1

end WebAuth.Crypto
