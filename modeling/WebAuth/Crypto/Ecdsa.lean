import WebAuth.Crypto.Sha2

/-!
# Signatures on elliptic curves

The curves are given by `y² = x³ - 3x + b` over a prime field; their points form a
group, of which a base point generates a subgroup of prime order.

Main results:

* `Curve.isOnCurve_of_point?`: a point that octets spell lies on its curve;
* `Curve.add_none_left`: the point at infinity is neutral.
-/

namespace WebAuth.Crypto

/-- A point: its coordinates, or none for the point at infinity. -/
abbrev Point := Option (Nat × Nat)

/-- A curve. -/
structure Curve where
  field : Nat
  coefficient : Nat
  base : Nat × Nat
  order : Nat
  /-- Octets of a coordinate. -/
  size : Nat

namespace Curve

/-- The curve P-256. -/
def p256 : Curve where
  field := 0xffffffff00000001000000000000000000000000ffffffffffffffffffffffff
  coefficient := 0x5ac635d8aa3a93e7b3ebbd55769886bc651d06b0cc53b0f63bce3c3e27d2604b
  base :=
    (0x6b17d1f2e12c4247f8bce6e563a440f277037d812deb33a0f4a13945d898c296,
      0x4fe342e2fe1a7f9b8ee7eb4a7c0f9e162bce33576b315ececbb6406837bf51f5)
  order := 0xffffffff00000000ffffffffffffffffbce6faada7179e84f3b9cac2fc632551
  size := 32

/-- The curve P-384. -/
def p384 : Curve where
  field := 0xfffffffffffffffffffffffffffffffffffffffffffffffffffffffffffffffeffffffff0000000000000000ffffffff
  coefficient := 0xb3312fa7e23ee7e4988e056be3f82d19181d9c6efe8141120314088f5013875ac656398d8a2ed19d2a85c8edd3ec2aef
  base :=
    (0xaa87ca22be8b05378eb1c71ef320ad746e1d3b628ba79b9859f741e082542a385502f25dbf55296c3a545e3872760ab7,
      0x3617de4a96262c6f5d9e98bf9292dc29f8f41dbd289a147ce9da3113b5f0b8c00a60b1ce1d7e819d7a431d7c90ea0e5f)
  order := 0xffffffffffffffffffffffffffffffffffffffffffffffffc7634d81f4372ddf581a0db248b0a77aecec196accc52973
  size := 48

/-! ## Field arithmetic -/

/-- A difference in the field. -/
def sub (c : Curve) (x y : Nat) : Nat := (x + (c.field - y % c.field)) % c.field

/-- A quotient in the field. -/
def div (c : Curve) (x y : Nat) : Nat := x * powMod y (c.field - 2) c.field % c.field

/-- Whether a point with these coordinates lies on the curve. -/
def isOnCurve (c : Curve) (x y : Nat) : Bool :=
  x < c.field && y < c.field &&
    y * y % c.field = c.sub (x * x * x + c.coefficient) (3 * x)

/-! ## The group of points -/

/-- The third point on a line through two, mirrored. -/
def chord (c : Curve) (slope x y other : Nat) : Point :=
  let third := c.sub (slope * slope) (x + other)
  some (third, c.sub (slope * c.sub x third) y)

/-- Add two points. -/
def add (c : Curve) : Point → Point → Point
  | none, q => q
  | p, none => p
  | some (x, y), some (x', y') =>
      if x = x' then
        if (y + y') % c.field = 0 then none
        else c.chord (c.div (c.sub (3 * x * x) 3) (2 * y)) x y x'
      else c.chord (c.div (c.sub y' y) (c.sub x' x)) x y x'

/-- Add a point to itself so many times. -/
def multiple (c : Curve) (count : Nat) (p : Point) : Point :=
  if h : count = 0 then none
  else
    let half := c.multiple (count / 2) (c.add p p)
    if count % 2 = 1 then c.add p half else half
termination_by count

/-! ## Keys and signatures -/

/-- The point that a key's octets spell: a mark and two coordinates. -/
def point? (c : Curve) (octets : List UInt8) : Option (Nat × Nat) :=
  match octets with
  | 0x04 :: coordinates =>
      let x := numberOf (coordinates.take c.size)
      let y := numberOf (coordinates.drop c.size)
      if coordinates.length = 2 * c.size ∧ c.isOnCurve x y = true then some (x, y) else none
  | _ => none

/-- Whether a signature, two numbers, fits a message under the key of a point. -/
def verifies (c : Curve) (hash : Sha2) (key : Nat × Nat) (message signature : List UInt8) :
    Bool :=
  let r := numberOf (signature.take c.size)
  let s := numberOf (signature.drop c.size)
  let inverse := powMod s (c.order - 2) c.order
  let z := numberOf (hash.hash message)
  let sum := c.add (c.multiple (z * inverse % c.order) (some c.base))
    (c.multiple (r * inverse % c.order) (some key))
  signature.length = 2 * c.size && 0 < r && r < c.order && 0 < s && s < c.order &&
    match sum with
    | some (x, _) => x % c.order = r
    | none => false

/-! ## Laws -/

/-- A point that octets spell lies on its curve. -/
theorem isOnCurve_of_point? {c : Curve} {octets : List UInt8} {x y : Nat}
    (h : c.point? octets = some (x, y)) : c.isOnCurve x y = true := by
  unfold point? at h
  split at h
  · dsimp only at h
    split at h
    · rename_i hpoint
      cases h
      exact hpoint.2
    · cases h
  · cases h

-- The base points can be spelled.
example :
    p256.point? (0x04 :: octetsOf 32 p256.base.1 ++ octetsOf 32 p256.base.2) = some p256.base ∧
      p384.point? (0x04 :: octetsOf 48 p384.base.1 ++ octetsOf 48 p384.base.2) =
        some p384.base := by
  decide +kernel

/-- The point at infinity is neutral. -/
@[simp]
theorem add_none_left (c : Curve) (p : Point) : c.add none p = p := by
  cases p <;> rfl

end Curve

end WebAuth.Crypto
