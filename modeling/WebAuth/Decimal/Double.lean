/-!
# Double precision numbers

A finite binary64 number is a sign and the rank of its size among all sizes,
which is the integer that its exponent and fraction bits spell.  All arithmetic
is exact arithmetic on ratios of natural numbers, rounded once to the nearest
number, ties to even.

A decimal numeral is read by rounding its digits to a number, rounding the power
of ten to a number, and rounding their product or quotient.

Main results:

* `Double.roundDiv_bounds`: rounding misses by half a unit at most;
* `Double.lt_rankLimit_of_nearest?`: what a ratio is rounded to is a number.
-/

namespace WebAuth.Decimal

/-- A finite binary64 number. -/
structure Double where
  negative : Bool
  rank : Nat
deriving DecidableEq, Repr

namespace Double

/-- The rank of the first size that is too large. -/
def rankLimit : Nat := 0x7ff0000000000000

/-- The leading binary digit of a size, which normal sizes do not spell out: `2 ^ 52`. -/
def leadingBit : Nat := 0x10000000000000

/-- A size as `m * 2 ^ q`. -/
def parts (rank : Nat) : Nat × Int :=
  let field := rank / leadingBit
  let fraction := rank % leadingBit
  if field = 0 then (fraction, -1074) else (fraction + leadingBit, Int.ofNat field - 1075)

/-- A size as a ratio. -/
def ratio (rank : Nat) : Nat × Nat :=
  let (m, q) := parts rank
  (m * Nat.pow 2 q.toNat, Nat.pow 2 (-q).toNat)

/-! ## Rounding -/

/-- The integer nearest to a ratio, ties to even. -/
def roundDiv (num den : Nat) : Nat :=
  let q := num / den
  let rest := 2 * (num % den)
  if rest < den then q
  else if den < rest then q + 1
  else q + q % 2

/-- The ratio `num / den` in units of `2 ^ e`. -/
def inUnits (num den : Nat) (e : Int) : Nat × Nat :=
  (num * Nat.pow 2 (-e).toNat, den * Nat.pow 2 e.toNat)

/-- The rank of the size nearest to a ratio; none if it is too large. -/
def nearest? (num den : Nat) : Option Nat :=
  if num = 0 then some 0
  else
    let wide : Int := max ((num.log2 : Int) - den.log2 - 53) (-1074)
    let (n, d) := inUnits num den wide
    let e := if 2 * leadingBit ≤ n / d then wide + 1 else wide
    let (n, d) := inUnits num den e
    let rank := (e + 1074).toNat * leadingBit + roundDiv n d
    if rank < rankLimit then some rank else none

/-- The rank of the size nearest to a product. -/
def mul? (x y : Nat) : Option Nat :=
  let (a, b) := ratio x
  let (c, d) := ratio y
  nearest? (a * c) (b * d)

/-- The rank of the size nearest to a quotient. -/
def div? (x y : Nat) : Option Nat :=
  let (a, b) := ratio x
  let (c, d) := ratio y
  if c = 0 then none else nearest? (a * d) (b * c)

/-! ## Reading decimals -/

/-- The greatest power of ten that is a number. -/
def greatestPower : Nat := 308

/-- Divide a size by the greatest power of ten, `steps` times or down to zero. -/
def divideDown? : Nat → Nat → Option Nat
  | 0, rank => some rank
  | steps + 1, rank =>
      if rank = 0 then some 0
      else do divideDown? steps (← div? rank (← nearest? (Nat.pow 10 greatestPower) 1))

/-- Divide a size by a power of ten, at most `10 ^ 308` at a time. -/
def scaleDown? (rank power : Nat) : Option Nat := do
  let steps := (power - 1) / greatestPower
  let size ← divideDown? steps rank
  if size = 0 then some 0
  else div? size (← nearest? (Nat.pow 10 (power - steps * greatestPower)) 1)

/-- Multiply a size by a power of ten; none if the result is too large. -/
def scaleUp? (rank power : Nat) : Option Nat :=
  if power ≤ greatestPower then do mul? rank (← nearest? (Nat.pow 10 power) 1)
  else if rank = 0 then some 0
  else none

/-- The number written `digits * 10 ^ exponent`; none if it is too large. -/
def ofDecimal? (negative : Bool) (digits : Nat) (exponent : Int) : Option Double := do
  let size ← nearest? digits 1
  let scaled ←
    if exponent < 0 then scaleDown? size (-exponent).toNat
    else scaleUp? size exponent.toNat
  some ⟨negative, scaled⟩

/-! ## Laws -/

/-- The nearest integer misses a ratio by half a unit at most. -/
theorem roundDiv_bounds (num : Nat) {den : Nat} (h : 0 < den) :
    2 * (den * roundDiv num den) ≤ 2 * num + den ∧
      2 * num ≤ 2 * (den * roundDiv num den) + den := by
  have hsplit := Nat.div_add_mod num den
  have hrest := Nat.mod_lt num h
  have hnext : den * (num / den + 1) = den * (num / den) + den := Nat.mul_succ _ _
  unfold roundDiv
  dsimp only
  split
  · omega
  · split
    · omega
    · -- A tie is rounded to the integer below or to the one above.
      rcases Nat.mod_two_eq_zero_or_one (num / den) with heven | hodd
      · rw [heven, Nat.add_zero]
        omega
      · rw [hodd]
        omega

/-- What a ratio is rounded to is a number. -/
theorem lt_rankLimit_of_nearest? {num den rank : Nat} (h : nearest? num den = some rank) :
    rank < rankLimit := by
  unfold nearest? at h
  split at h
  · cases h
    decide
  · simp only [Option.ite_none_right_eq_some, Option.some.injEq] at h
    obtain ⟨hlimit, rfl⟩ := h
    exact hlimit

-- A third is rounded down.
example : nearest? 1 3 = some 0x3fd5555555555555 := by
  decide +kernel

end Double

end WebAuth.Decimal
