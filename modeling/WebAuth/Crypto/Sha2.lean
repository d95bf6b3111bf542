import WebAuth.Crypto.Octets

/-!
# SHA-2

The hash functions SHA-256, SHA-384 and SHA-512.  They differ in the width of
their words, in the amounts of their rotations and in their constants, which are
the first binary places of roots of the first primes.

Main results:

* `Sha2.hash_length`: a digest has the length of its variant.
-/

namespace WebAuth.Crypto

/-- A member of the family. -/
structure Sha2 where
  /-- Binary digits of a word. -/
  width : Nat
  rounds : Nat
  /-- Rotations of the first word of the state. -/
  upper : Nat × Nat × Nat
  /-- Rotations of the fifth word of the state. -/
  lower : Nat × Nat × Nat
  /-- Two rotations and a shift of a word fifteen places back. -/
  far : Nat × Nat × Nat
  /-- Two rotations and a shift of a word two places back. -/
  near : Nat × Nat × Nat
  /-- The initial state. -/
  initial : List Nat
  /-- The constants of the rounds. -/
  constants : List Nat
  digestLength : Nat

namespace Sha2

/-! ## Constants -/

/-- The first eighty primes. -/
def primes : List Nat :=
  [2, 3, 5, 7, 11, 13, 17, 19, 23, 29, 31, 37, 41, 43, 47, 53, 59, 61, 67, 71, 73, 79, 83, 89,
    97, 101, 103, 107, 109, 113, 127, 131, 137, 139, 149, 151, 157, 163, 167, 173, 179, 181,
    191, 193, 197, 199, 211, 223, 227, 229, 233, 239, 241, 251, 257, 263, 269, 271, 277, 281,
    283, 293, 307, 311, 313, 317, 331, 337, 347, 349, 353, 359, 367, 373, 379, 383, 389, 397,
    401, 409]

/-- The greatest number of so many more binary digits, added to `root`, whose power
does not exceed `n`. -/
def rootFrom (power n : Nat) : Nat → Nat → Nat
  | 0, root => root
  | digits + 1, root =>
      let next := root + Nat.pow 2 digits
      rootFrom power n digits (if Nat.pow next power ≤ n then next else root)

/-- The first binary places of a root of a number, so many of them. -/
def rootPlaces (power width n : Nat) : Nat :=
  rootFrom power (n * Nat.pow 2 (power * width)) (width + 5) 0 % Nat.pow 2 width

/-- Constants of the rounds: places of cube roots. -/
def cubeRoots (width rounds : Nat) : List Nat := (primes.take rounds).map (rootPlaces 3 width)

/-- SHA-256. -/
def sha256 : Sha2 where
  width := 32
  rounds := 64
  upper := (2, 13, 22)
  lower := (6, 11, 25)
  far := (7, 18, 3)
  near := (17, 19, 10)
  initial := (primes.take 8).map (rootPlaces 2 32)
  constants := cubeRoots 32 64
  digestLength := 32

/-- SHA-512. -/
def sha512 : Sha2 where
  width := 64
  rounds := 80
  upper := (28, 34, 39)
  lower := (14, 18, 41)
  far := (1, 8, 7)
  near := (19, 61, 6)
  initial := (primes.take 8).map (rootPlaces 2 64)
  constants := cubeRoots 64 80
  digestLength := 64

/-- SHA-384 starts from other primes and gives a shorter digest. -/
def sha384 : Sha2 :=
  { sha512 with
    initial := ((primes.drop 8).take 8).map (rootPlaces 2 64)
    digestLength := 48 }

/-! ## Words -/

/-- Octets of a word. -/
def wordOctets (s : Sha2) : Nat := s.width / 8

/-- Octets of a block. -/
def blockLength (s : Sha2) : Nat := 16 * s.wordOctets

/-- Rotate a word to the right. -/
def rotate (s : Sha2) (word amount : Nat) : Nat :=
  word >>> amount ||| (word <<< (s.width - amount)) % Nat.pow 2 s.width

/-- Three rotations of a word, combined. -/
def rotations (s : Sha2) (amounts : Nat × Nat × Nat) (word : Nat) : Nat :=
  s.rotate word amounts.1 ^^^ s.rotate word amounts.2.1 ^^^ s.rotate word amounts.2.2

/-- Two rotations and a shift of a word, combined. -/
def mixed (s : Sha2) (amounts : Nat × Nat × Nat) (word : Nat) : Nat :=
  s.rotate word amounts.1 ^^^ s.rotate word amounts.2.1 ^^^ word >>> amounts.2.2

/-- A sum of words. -/
def sum (s : Sha2) (words : List Nat) : Nat := words.foldl (· + ·) 0 % Nat.pow 2 s.width

/-- Each binary digit of the first word chooses between the others. -/
def choose (s : Sha2) (e f g : Nat) : Nat := (e &&& f) ^^^ ((Nat.pow 2 s.width - 1 - e) &&& g)

/-- The majority of each binary digit. -/
def majority (a b c : Nat) : Nat := (a &&& b) ^^^ (a &&& c) ^^^ (b &&& c)

/-! ## Padding -/

/-- The message with a closing one, zeros and its length, in whole blocks. -/
def padded (s : Sha2) (message : List UInt8) : List UInt8 :=
  let trailer := 2 * s.wordOctets
  let used := message.length + 1 + trailer
  let zeros := (s.blockLength - used % s.blockLength) % s.blockLength
  message ++ 0x80 :: List.replicate zeros 0 ++ octetsOf trailer (8 * message.length)

/-- Cut a text into so many pieces of one length. -/
def pieces {α : Type} (length : Nat) : Nat → List α → List (List α)
  | 0, _ => []
  | count + 1, text => text.take length :: pieces length count (text.drop length)

/-! ## Blocks -/

/-- Extend a schedule by so many words; the latest word stands first. -/
def extend (s : Sha2) : Nat → List Nat → List Nat
  | 0, words => words
  | count + 1, words =>
      let word (back : Nat) := words.getD (back - 1) 0
      s.extend count
        (s.sum [word 16, s.mixed s.far (word 15), word 7, s.mixed s.near (word 2)] :: words)

/-- The words of a block's rounds. -/
def schedule (s : Sha2) (block : List UInt8) : List Nat :=
  let words := (pieces s.wordOctets 16 block).map numberOf
  (s.extend (s.rounds - 16) words.reverse).reverse

/-- One round with its constant and its word. -/
def round (s : Sha2) (state : List Nat) (input : Nat × Nat) : List Nat :=
  match state with
  | [a, b, c, d, e, f, g, h] =>
      let first := s.sum [h, s.rotations s.lower e, s.choose e f g, input.1, input.2]
      let second := s.sum [s.rotations s.upper a, majority a b c]
      [s.sum [first, second], a, b, c, s.sum [d, first], e, f, g]
  | other => other

/-- The state after a block. -/
def afterBlock (s : Sha2) (state : List Nat) (block : List UInt8) : List Nat :=
  let final := (s.constants.zip (s.schedule block)).foldl s.round state
  List.zipWith (fun x y => s.sum [x, y]) state final

/-! ## Digests -/

/-- The digest of a message. -/
def hash (s : Sha2) (message : List UInt8) : List UInt8 :=
  let text := s.padded message
  let blocks := pieces s.blockLength (text.length / s.blockLength) text
  let state := blocks.foldl s.afterBlock s.initial
  let surplus := 8 * s.wordOctets - s.digestLength
  octetsOf s.digestLength
    (numberOf (state.flatMap (octetsOf s.wordOctets)) / Nat.pow 256 surplus)

/-- A digest has the length of its variant. -/
@[simp]
theorem hash_length (s : Sha2) (message : List UInt8) :
    (s.hash message).length = s.digestLength := by
  simp [hash]

-- The digest of three letters, in 32 octets.
example :
    sha256.hash [0x61, 0x62, 0x63] =
      octetsOf 32 0xba7816bf8f01cfea414140de5dae2223b00361a396177a9cb410ff61f20015ad := by
  decide +kernel

end Sha2

end WebAuth.Crypto
