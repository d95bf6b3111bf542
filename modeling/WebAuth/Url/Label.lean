import WebAuth.Text.Direction
import WebAuth.Text.Joining
import WebAuth.Text.Mark
import WebAuth.Url.Folding
import WebAuth.Url.Punycode

/-!
# Labels of domain names

A label stands for some characters and is written in ASCII: as it is, or in punycode
after `xn--` if it holds characters beyond ASCII.  A label that comes in punycode must
stand for a folded label that would be written the same way.

Main results:

* `Label.ofFolded?_of_ascii`: an ASCII label without the mark of punycode is written
  as it is;
* `Label.ofFolded?_of_forbidden`: a label with a character that delimits other parts of
  an address is none.
-/

namespace WebAuth

open Text

/-- A label: the characters that it stands for, and how it is written. -/
structure Label where
  characters : List Char
  written : List Char
deriving DecidableEq, Repr

namespace Label

/-! ## Characters -/

/-- ASCII characters that cannot stand in a domain name. -/
def isForbidden (c : Char) : Bool :=
  c.toNat ≤ 32 || c.toNat = 127 ||
    ['#', '%', '/', ':', '<', '>', '?', '@', '[', '\\', ']', '^', '|'].contains c

/-- Whether a label is ASCII. -/
def isAscii (label : List Char) : Bool := label.all (fun c => c.toNat < 128)

/-- The character that keeps letters from joining. -/
def nonJoiner : Char := Char.ofNat 0x200c

/-- The character that makes letters join. -/
def joiner : Char := Char.ofNat 0x200d

/-- Whether the joiners of a label stand where they show: after a mark that cuts off a
vowel, or, where they keep letters apart, between letters that would join.  The
characters before the place are given from its end. -/
def joinersShow : List Char → List Char → Bool
  | _, [] => true
  | reversed, c :: rest =>
      let shows :=
        (c ≠ joiner && c ≠ nonJoiner) ||
          reversed.head?.any (fun before => combiningClass before = cuttingClass) ||
          (c = nonJoiner && Joining.isJoined reversed rest)
      shows && joinersShow (c :: reversed) rest

/-- Whether folded characters beyond ASCII make a label: no mark stands first, and
joiners show. -/
def isWellFormed (label : List Char) : Bool :=
  !label.head?.any isMark && joinersShow [] label

/-! ## Directions -/

/-- What may stand in a label that runs to the left. -/
def leftward : List Direction :=
  [.rightToLeft, .arabicLetter, .arabicNumber, .europeanNumber, .sign, .separator, .unit,
    .neutral, .joiner, .mark]

/-- What may stand in a label that runs to the right. -/
def rightward : List Direction :=
  [.leftToRight, .europeanNumber, .sign, .separator, .unit, .neutral, .joiner, .mark]

/-- Whether all directions of a label fit its way, and its end, but for marks, too. -/
def runs (allowed ends directions : List Direction) : Bool :=
  directions.all allowed.contains &&
    (directions.reverse.find? (· ≠ .mark)).all ends.contains

/-- Whether a label keeps its order beside labels that run to the left: its first letter
says which way it runs, all else fits, and digits of both kinds do not mix. -/
def keepsOrder (label : List Char) : Bool :=
  let directions := label.map Direction.ofChar
  match directions with
  | [] => true
  | .leftToRight :: _ => runs rightward [.leftToRight, .europeanNumber] directions
  | .rightToLeft :: _ | .arabicLetter :: _ =>
      runs leftward [.rightToLeft, .arabicLetter, .europeanNumber, .arabicNumber] directions &&
        !(directions.contains .europeanNumber && directions.contains .arabicNumber)
  | _ => false

/-! ## Labels in ASCII -/

/-- The mark of labels in punycode. -/
def mark : List Char := ['x', 'n', '-', '-']

/-- The most characters that are written in punycode. -/
def lengthLimit : Nat := 1000

/-- The longest text that is read as punycode. -/
def writtenLimit : Nat := 2000

/-- The label that stands in punycode after the mark. -/
def ofPunycode? (encoded : List Char) : Option Label := do
  let characters ← Punycode.decode? encoded
  if isAscii encoded && encoded.length ≤ writtenLimit && encoded.getLast? ≠ some '-' &&
      !isAscii characters && Folding.fold? characters = some characters &&
      Punycode.encode characters = encoded && isWellFormed characters then
    some ⟨characters, mark ++ encoded⟩
  else none

/-- The label that folded characters make. -/
def ofFolded? (label : List Char) : Option Label :=
  if label.any isForbidden then none
  else if mark.isPrefixOf label then ofPunycode? (label.drop mark.length)
  else if isAscii label then some ⟨label, label⟩
  else if label.length ≤ lengthLimit && isWellFormed label then
    some ⟨label, mark ++ Punycode.encode label⟩
  else none

/-- An ASCII label without the mark of punycode is written as it is. -/
theorem ofFolded?_of_ascii {label : List Char} (hascii : isAscii label = true)
    (hmark : mark.isPrefixOf label = false) (hplain : label.any isForbidden = false) :
    ofFolded? label = some ⟨label, label⟩ := by
  simp [ofFolded?, hascii, hmark, hplain]

/-- A label with a character that delimits other parts of an address is none. -/
theorem ofFolded?_of_forbidden {label : List Char} {c : Char} (hmem : c ∈ label)
    (hc : isForbidden c = true) : ofFolded? label = none := by
  have hany : label.any isForbidden = true := List.any_eq_true.mpr ⟨c, hmem, hc⟩
  simp [ofFolded?, hany]

end Label

end WebAuth
