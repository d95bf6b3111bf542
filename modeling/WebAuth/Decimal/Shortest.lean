import WebAuth.Decimal.Double

/-!
# Shortest decimals

The fewest decimal digits that read back as a given number, and among those the
digits nearest to it.  For one digit, two digits and so on, the two neighbours
of the number on that decimal grid are tried against the interval of reals that
round to the number.

Main results:

* `Double.Window.holds_of_onGrid?`: the grid point that is chosen reads back.
-/

namespace WebAuth.Decimal

namespace Double

/-- A number with the interval that rounds to it, over one denominator. -/
structure Window where
  value : Nat
  low : Nat
  high : Nat
  den : Nat
  closed : Bool
deriving Repr

/-- The window of a size.  Below a power of two the numbers lie twice as dense. -/
def window (rank : Nat) : Window :=
  let (m, q) := parts rank
  let below := if m = leadingBit ∧ -1074 < q then 1 else 2
  let scale := Nat.pow 2 (q - 2).toNat
  { value := 4 * m * scale
    low := (4 * m - below) * scale
    high := (4 * m + 2) * scale
    den := Nat.pow 2 (2 - q).toNat
    closed := m % 2 = 0 }

/-- The exponent of the leading digit, corrected upward from a low estimate. -/
def leadingExponent (num den : Nat) : Int :=
  let reaches (e : Int) : Bool := Nat.pow 10 e.toNat * den ≤ num * Nat.pow 10 (-e).toNat
  let estimate := ((num.log2 : Int) - den.log2) * 30103 / 100000 - 2
  let climb (e : Int) : Int := if reaches (e + 1) then e + 1 else e
  climb (climb (climb (climb estimate)))

/-- Whether `c * 10 ^ p` lies in the window. -/
def Window.holds (w : Window) (c : Nat) (p : Int) : Bool :=
  let point := c * Nat.pow 10 p.toNat * w.den
  let scale := Nat.pow 10 (-p).toNat
  if w.closed then w.low * scale ≤ point && point ≤ w.high * scale
  else w.low * scale < point && point < w.high * scale

/-- The grid point nearest to the number, if it lies in the window. -/
def Window.onGrid? (w : Window) (p : Int) : Option Nat :=
  let num := w.value * Nat.pow 10 (-p).toNat
  let den := Nat.pow 10 p.toNat * w.den
  let c := num / den
  match w.holds c p, w.holds (c + 1) p with
  | true, true => some (roundDiv num den)
  | true, false => some c
  | false, true => some (c + 1)
  | false, false => none

/-- Drop zeros at the end of the digits. -/
def stripZeros : Nat → Nat → Int → Nat × Int
  | 0, c, p => (c, p)
  | n + 1, c, p => if c % 10 = 0 ∧ c ≠ 0 then stripZeros n (c / 10) (p + 1) else (c, p)

/-- The fewest digits and their exponent, trying `count` more grids. -/
def Window.search (w : Window) (top : Int) : Nat → Nat → Nat × Int
  | _, 0 => (w.value / w.den, 0)
  | n, count + 1 =>
      let p := top - n
      match w.onGrid? p with
      | some c => stripZeros 20 c p
      | none => Window.search w top (n + 1) count

/-- A size as `c * 10 ^ p` with the fewest digits that read back. -/
def shortest (rank : Nat) : Nat × Int :=
  let w := window rank
  if rank = 0 then (0, 0) else w.search (leadingExponent w.value w.den) 0 17

/-! ## Text -/

/-- Which leading exponents are written without an exponent part. -/
structure Style where
  leastPlain : Int
  firstScientific : Int
deriving Repr

/-- The digits of a number, written positionally or with an exponent part, and
always with a fraction or an exponent. -/
def textWith (style : Style) (d : Double) : String :=
  let (c, p) := shortest d.rank
  let digits := Nat.toDigits 10 c
  let lead : Int := p + digits.length - 1
  let body :=
    if d.rank = 0 then ['0', '.', '0']
    else if style.leastPlain ≤ lead ∧ lead < style.firstScientific then
      if 0 ≤ p then digits ++ List.replicate p.toNat '0' ++ ['.', '0']
      else if 0 ≤ lead then
        digits.take (lead.toNat + 1) ++ '.' :: digits.drop (lead.toNat + 1)
      else '0' :: '.' :: List.replicate (-lead - 1).toNat '0' ++ digits
    else
      let mantissa := match digits with
        | first :: second :: rest => first :: '.' :: second :: rest
        | short => short
      mantissa ++ 'e' :: (if lead < 0 then '-' else '+') :: Nat.toDigits 10 lead.natAbs
  String.ofList (if d.negative then '-' :: body else body)

/-! ## Laws -/

/-- The integer nearest to a ratio is the one below or the one above. -/
theorem roundDiv_eq_or (num den : Nat) :
    roundDiv num den = num / den ∨ roundDiv num den = num / den + 1 := by
  unfold roundDiv
  dsimp only
  split
  · exact Or.inl rfl
  · split
    · exact Or.inr rfl
    · omega

/-- The grid point that is chosen lies in the window, so it reads back as the number. -/
theorem Window.holds_of_onGrid? {w : Window} {p : Int} {c : Nat} (h : w.onGrid? p = some c) :
    w.holds c p = true := by
  unfold onGrid? at h
  dsimp only at h
  split at h
  · rename_i hbelow habove
    cases h
    rcases roundDiv_eq_or (w.value * Nat.pow 10 (-p).toNat) (Nat.pow 10 p.toNat * w.den)
      with heq | heq
    · rw [heq]
      exact hbelow
    · rw [heq]
      exact habove
  · cases h
    assumption
  · cases h
    assumption
  · cases h

-- A single digit is enough for the number nearest to a tenth.
example : (window 0x3fb999999999999a).onGrid? (-1) = some 1 := by
  decide +kernel

end Double

end WebAuth.Decimal
