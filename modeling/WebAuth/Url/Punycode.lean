/-!
# Punycode

Labels of international domain names are written in ASCII: the ASCII characters
first, then the positions and code points of the others as differences, in a
base 36 notation whose digit thresholds adapt to the differences seen.

Main results:

* `Punycode.digit?_digit`: a digit is read back.
-/

namespace WebAuth.Punycode

/-- The base of the notation. -/
def base : Nat := 36

/-- A digit of the notation. -/
def digit (n : Nat) : Char :=
  if n < 26 then Char.ofNat (97 + n) else Char.ofNat (22 + n)

/-- The value of a digit of either case. -/
def digit? (c : Char) : Option Nat :=
  if 'a' ≤ c && c ≤ 'z' then some (c.toNat - 97)
  else if 'A' ≤ c && c ≤ 'Z' then some (c.toNat - 65)
  else if '0' ≤ c && c ≤ '9' then some (c.toNat - 22)
  else none

/-- A digit is read back. -/
theorem digit?_digit {n : Nat} (h : n < base) : digit? (digit n) = some n := by
  have hall : ∀ n < 36, digit? (digit n) = some n := by decide
  exact hall n h

/-- The threshold of the digit at a position. -/
def threshold (position bias : Nat) : Nat := min 26 (max 1 (position - bias))

/-- Divide down to at most 455, counting positions. -/
def shrink : Nat → Nat → Nat → Nat × Nat
  | 0, delta, position => (delta, position)
  | fuel + 1, delta, position =>
      if 455 < delta then shrink fuel (delta / 35) (position + base) else (delta, position)

/-- The bias after a difference. -/
def adapt (delta points : Nat) (first : Bool) : Nat :=
  let delta := if first then delta / 700 else delta / 2
  let (delta, position) := shrink 32 (delta + delta / points) 0
  position + 36 * delta / (delta + 38)

/-! ## Writing -/

/-- A difference in the notation. -/
def digits (bias : Nat) : Nat → Nat → Nat → List Char
  | 0, _, _ => []
  | fuel + 1, position, q =>
      let t := threshold position bias
      if q < t then [digit q]
      else digit (t + (q - t) % (base - t)) ::
        digits bias fuel (position + base) ((q - t) / (base - t))

/-- What writing keeps track of. -/
structure Writer where
  output : List Char
  delta : Nat
  bias : Nat
  handled : Nat

/-- Pass one character of the label while writing the code point `n`. -/
def Writer.pass (plain n : Nat) (w : Writer) (c : Char) : Writer :=
  if c.toNat < n then { w with delta := w.delta + 1 }
  else if c.toNat = n then
    { output := w.output ++ digits w.bias (w.delta + 1) base w.delta
      delta := 0
      bias := adapt w.delta (w.handled + 1) (w.handled = plain)
      handled := w.handled + 1 }
  else w

/-- Write the code points of a label, given in ascending order. -/
def Writer.write (label : List Char) (plain : Nat) : Nat → List Nat → Writer → Writer
  | _, [], w => w
  | n, next :: rest, w =>
      let w := { w with delta := w.delta + (next - n) * (w.handled + 1) }
      let w := label.foldl (Writer.pass plain next) w
      Writer.write label plain (next + 1) rest { w with delta := w.delta + 1 }

/-- A label in the notation, without the mark that it is one. -/
def encode (label : List Char) : List Char :=
  let plain := label.filter (fun c => c.toNat < 128)
  let others := ((label.filter (fun c => 128 ≤ c.toNat)).map Char.toNat).eraseDups
  let sorted := others.mergeSort (fun m n => m ≤ n)
  let start : Writer := ⟨[], 0, 72, plain.length⟩
  plain ++ (if plain.isEmpty then [] else ['-']) ++
    (Writer.write label plain.length 128 sorted start).output

/-! ## Reading -/

/-- The largest number that occurs. -/
def numberLimit : Nat := 0x100000000

/-- A difference and what follows it. -/
def difference? (bias : Nat) : Nat → Nat → Nat → List Char → Option (Nat × List Char)
  | _, _, _, [] => none
  | position, weight, sum, c :: rest =>
      match digit? c with
      | none => none
      | some d =>
          let sum := sum + d * weight
          let t := threshold position bias
          if numberLimit ≤ sum then none
          else if d < t then some (sum, rest)
          else difference? bias (position + base) (weight * (base - t)) sum rest

/-- Put characters at their places, one difference after another. -/
def insertAll? (bias : Nat) : Nat → Nat → Nat → List Char → List Char → Option (List Char)
  | _, _, _, label, [] => some label
  | 0, _, _, _, _ :: _ => none
  | fuel + 1, n, i, label, cs => do
      let (delta, rest) ← difference? bias base 1 0 cs
      let length := label.length + 1
      let place := i + delta
      let n := n + place / length
      if n < 0x110000 ∧ ¬ (0xd800 ≤ n ∧ n < 0xe000) then
        let spot := place % length
        let label := label.take spot ++ Char.ofNat n :: label.drop spot
        insertAll? (adapt delta length (i = 0)) fuel n (spot + 1) label rest
      else none

/-- The label that a text in the notation stands for. -/
def decode? (cs : List Char) : Option (List Char) :=
  let reversed := cs.reverse
  let extended := (reversed.takeWhile (· ≠ '-')).reverse
  let plain := (reversed.drop (extended.length + 1)).reverse
  if plain.all (fun c => c.toNat < 128) then
    insertAll? 72 (extended.length + 1) 128 0 plain extended
  else none

end WebAuth.Punycode
