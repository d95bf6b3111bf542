/-!
# Hosts by number

Host names whose last label is a number are addresses of version 4, in decimal,
octal or hexadecimal notation with one to four parts; texts in brackets are
addresses of version 6.

Main definitions:

* `Ipv4.parse?`, `Ipv4.text`: addresses of version 4 read and written;
* `Ipv6.parse?`, `Ipv6.text`: addresses of version 6 read and written.
-/

namespace WebAuth

/-! ## Version 4 -/

namespace Ipv4

/-- A part of an address: a number, or too large a number. -/
inductive Part where
  | value (n : Nat)
  | tooLarge
deriving DecidableEq, Repr

/-- The value of a digit. -/
def digit? (c : Char) : Option Nat :=
  if c.isDigit then some (c.toNat - 48)
  else if 'a' ≤ c && c ≤ 'f' then some (c.toNat - 87)
  else if 'A' ≤ c && c ≤ 'F' then some (c.toNat - 55)
  else none

/-- The number that digits of a radix stand for. -/
def digits? (radix : Nat) (cs : List Char) : Option Nat :=
  cs.foldlM (fun n c => do
    let d ← digit? c
    if d < radix then some (n * radix + d) else none) 0

/-- A number whose notation shows its radix. -/
def part? (cs : List Char) : Option Part :=
  let (radix, ds) := match cs with
    | '0' :: 'x' :: rest => (16, rest)
    | '0' :: 'X' :: rest => (16, rest)
    | '0' :: c :: rest => (8, c :: rest)
    | plain => (10, plain)
  if cs.isEmpty then none
  else (digits? radix ds).map (fun n => if n < 0x100000000 then .value n else .tooLarge)

/-- The labels of a name without an empty last one. -/
def labels (cs : List Char) : List (List Char) :=
  let parts := cs.splitOn '.'
  if parts.getLast? = some [] then parts.dropLast else parts

/-- Whether the last label of a name is a number. -/
def endsInNumber (cs : List Char) : Bool :=
  let parts := cs.splitOn '.'
  if parts.length = 1 ∧ cs.isEmpty then false
  else match (labels cs).getLast? with
    | none => false
    | some last => (!last.isEmpty && last.all Char.isDigit) || (part? last).isSome

/-- Put the leading parts at their places above the last one. -/
def combine? (leading : List Nat) (last : Nat) : Option Nat :=
  if last < Nat.pow 256 (4 - leading.length) ∧ leading.all (· ≤ 255) ∧ leading.length ≤ 3 then
    some (leading.zipIdx.foldl (fun total (n, i) => total + n * Nat.pow 256 (3 - i)) last)
  else none

/-- The values of parts that are not too large. -/
def values? (parts : List (List Char)) : Option (List Nat) :=
  parts.mapM (fun p => match part? p with
    | some (.value n) => some n
    | _ => none)

/-- The address that a name stands for. -/
def parse? (cs : List Char) : Option Nat := do
  let parts ← values? (labels cs)
  let last ← parts.getLast?
  combine? parts.dropLast last

/-- The decimal notation in four parts. -/
def text (address : Nat) : String :=
  ".".intercalate ([3, 2, 1, 0].map (fun i => toString (address / Nat.pow 256 i % 256)))

end Ipv4

/-! ## Version 6 -/

namespace Ipv6

/-- Up to four hexadecimal digits. -/
def piece (cs : List Char) : Nat × List Char :=
  let ds := (cs.take 4).takeWhile (fun c => (Ipv4.digit? c).isSome)
  ((Ipv4.digits? 16 ds).getD 0, cs.drop ds.length)

/-- A decimal part of an embedded address: no leading zero, at most 255. -/
def decimal? (cs : List Char) : Option (Nat × List Char) :=
  let ds := cs.takeWhile Char.isDigit
  let n := (Ipv4.digits? 10 ds).getD 0
  if ds.isEmpty || (1 < ds.length && ds.head? = some '0') || 3 < ds.length || 255 < n then
    none
  else some (n, cs.drop ds.length)

/-- An embedded address of version 4 as two pieces; nothing may follow it. -/
def embedded? (cs : List Char) : Option (List Nat) := do
  let (a, cs) ← decimal? cs
  let cs ← dot? cs
  let (b, cs) ← decimal? cs
  let cs ← dot? cs
  let (c, cs) ← decimal? cs
  let cs ← dot? cs
  let (d, cs) ← decimal? cs
  if cs.isEmpty then some [a * 256 + b, c * 256 + d] else none
where
  dot? : List Char → Option (List Char)
    | '.' :: rest => some rest
    | _ => none

/-- How many of the eight places are taken, a gap taking at least one. -/
def placesTaken (before : Option (List Nat)) (current : List Nat) : Nat :=
  match before with
  | none => current.length
  | some front => front.length + 1 + current.length

/-- Read pieces; `before` holds those in front of the gap, if it has been seen,
and `current` those since, both last first. -/
def pieces? : Nat → Option (List Nat) → List Nat → List Char →
    Option (Option (List Nat) × List Nat)
  | 0, _, _, _ => none
  | _, before, current, [] => some (before, current)
  | fuel + 1, before, current, cs =>
      let count := placesTaken before current
      if 8 ≤ count then none
      else match cs with
        | ':' :: rest =>
            if before.isSome then none else pieces? fuel (some current) [] rest
        | _ =>
            let (n, rest) := piece cs
            match rest with
            | '.' :: _ =>
                if rest.length = cs.length ∨ 6 < count then none
                else do
                  let pair ← embedded? cs
                  some (before, pair.reverse ++ current)
            | ':' :: more =>
                if rest.length = cs.length ∨ more.isEmpty then none
                else pieces? fuel before (n :: current) more
            | [] => some (before, n :: current)
            | _ => none

/-- The eight pieces of an address. -/
def parse? (cs : List Char) : Option (List Nat) := do
  let start ← match cs with
    | ':' :: ':' :: rest => some (some [], rest)
    | ':' :: _ => none
    | other => some (none, other)
  let (before, current) ← pieces? (cs.length + 1) start.1 [] start.2
  match before with
  | none => if current.length = 8 then some current.reverse else none
  | some front =>
      let missing := 8 - (front.length + current.length)
      some (front.reverse ++ List.replicate missing 0 ++ current.reverse)

/-- How many zeros a list starts with. -/
def zeros (pieces : List Nat) : Nat := (pieces.takeWhile (· = 0)).length

/-- The place and length of the first longest run of zeros. -/
def longestGap (pieces : List Nat) : Nat × Nat :=
  (List.range pieces.length).foldl (fun best i =>
    let run := zeros (pieces.drop i)
    if best.2 < run then (i, run) else best) (0, 0)

/-- Pieces in hexadecimal notation, joined by colons. -/
def joined (pieces : List Nat) : String :=
  ":".intercalate (pieces.map (fun n => String.ofList (Nat.toDigits 16 n)))

/-- The notation of an address; a gap of two or more zeros is left out. -/
def text (pieces : List Nat) : String :=
  let (start, length) := longestGap pieces
  if length < 2 then joined pieces
  else joined (pieces.take start) ++ "::" ++ joined (pieces.drop (start + length))

end Ipv6

end WebAuth
