import WebAuth.Calendar.Timestamp
import WebAuth.Run
import WebAuth.Text.Blank

/-!
# Written instants

Instants are written as date, time and offset.  Reading is lenient: the date and
the time may be joined by a `t` or a space, blanks may stand around the
separators, years may carry a sign and then have more than four digits, and
`utc` may stand for the offset.  Writing always uses `T` and `Z` and shows the
fraction with 0, 3, 6 or 9 digits, as few as keep it exact.

Main results:

* `Timestamp.isValid_of_readText`: what is read lies in the calendar.
-/

namespace WebAuth.Calendar

/-- Why a text is not an instant. -/
inductive DateError where
  | tooShort
  | invalid
  | outOfRange
  | impossible
  | trailing
deriving DecidableEq, Repr

/-- The wording of a date error. -/
def DateError.message : DateError → String
  | .tooShort => "premature end of input"
  | .invalid => "input contains invalid characters"
  | .outOfRange => "input is out of range"
  | .impossible => "no possible date and time matching input"
  | .trailing => "trailing input"

namespace Timestamp

/-! ## Writing -/

/-- A number with at least `width` digits. -/
def padded (width n : Nat) : List Char :=
  let ds := Nat.toDigits 10 n
  List.replicate (width - ds.length) '0' ++ ds

/-- A year; those outside four digits carry a sign. -/
def yearText (year : Int) : List Char :=
  if 0 ≤ year ∧ year ≤ 9999 then padded 4 year.toNat
  else if year < 0 then '-' :: padded 4 year.natAbs
  else '+' :: padded 4 year.natAbs

/-- A fraction of a second, as short as is exact. -/
def fractionText (nanos : Nat) : List Char :=
  if nanos = 0 then []
  else if nanos % 1000000 = 0 then '.' :: padded 3 (nanos / 1000000)
  else if nanos % 1000 = 0 then '.' :: padded 6 (nanos / 1000)
  else '.' :: padded 9 nanos

/-- The text of an instant. -/
def text (t : Timestamp) : String :=
  let date := Date.ofDay (t.seconds / secondsPerDay)
  let ofDay := t.secondOfDay.toNat
  let leap := if 1000000000 ≤ t.fraction then 1 else 0
  String.ofList <|
    yearText date.year ++ '-' :: padded 2 date.month ++ '-' :: padded 2 date.day ++
      'T' :: padded 2 (ofDay / 3600) ++ ':' :: padded 2 (ofDay / 60 % 60) ++
      ':' :: padded 2 (ofDay % 60 + leap) ++ fractionText (t.fraction - leap * 1000000000) ++
      ['Z']

/-! ## Reading -/

/-- Whether a number fits 64 bits with a sign. -/
def isRepresentable (n : Nat) : Bool := n < 0x8000000000000000

/-- At most `width` digits, at least one. -/
def number (width : Nat) (cs : List Char) : Except DateError (Nat × List Char) :=
  match cs with
  | [] => .error .tooShort
  | _ =>
      let ds := (cs.take width).takeWhile Char.isDigit
      let n := ds.foldl (fun n d => n * 10 + (d.toNat - 48)) 0
      if ds.isEmpty then .error .invalid
      else if isRepresentable n then .ok (n, cs.drop ds.length)
      else .error .outOfRange

/-- A number in a range, after blanks. -/
def field (width least greatest : Nat) (cs : List Char) :
    Except DateError (Nat × List Char) := do
  let (n, rest) ← number width (cs.dropWhile Text.isBlank)
  if least ≤ n ∧ n ≤ greatest then .ok (n, rest) else .error .outOfRange

/-- A year, after blanks; with a sign it may have any number of digits. -/
def year (cs : List Char) : Except DateError (Int × List Char) := do
  let (y, rest) ← match cs.dropWhile Text.isBlank with
    | '-' :: rest => do
        let (n, rest) ← number rest.length rest
        pure (-(n : Int), rest)
    | '+' :: rest => do
        let (n, rest) ← number rest.length rest
        pure ((n : Int), rest)
    | plain => do
        let (n, rest) ← number 4 plain
        pure ((n : Int), rest)
  if -2147483648 ≤ y ∧ y < 2147483648 then .ok (y, rest) else .error .outOfRange

/-- A separator, after blanks. -/
def separator (c : Char) (cs : List Char) : Except DateError (List Char) :=
  match cs.dropWhile Text.isBlank with
  | [] => .error .tooShort
  | d :: rest => if c = d then .ok rest else .error .invalid

/-- A fraction in billionths; digits after the ninth do not count. -/
def scanFraction (cs : List Char) : Except DateError (Nat × List Char) :=
  match cs with
  | '.' :: rest => do
      let (n, after) ← number 9 rest
      let used := rest.length - after.length
      .ok (n * Nat.pow 10 (9 - used), after.dropWhile Char.isDigit)
  | _ => .ok (0, cs)

/-- Two digits of an offset, the first of them at most `most`.  Whether there is enough
text for them is counted in octets, so one character beyond ASCII is enough. -/
def offsetDigits (most : Char) (cs : List Char) : Except DateError (Nat × List Char) :=
  match cs with
  | a :: b :: rest =>
      if a.isDigit ∧ b.isDigit then
        if a ≤ most then .ok ((a.toNat - 48) * 10 + (b.toNat - 48), rest)
        else .error .outOfRange
      else .error .invalid
  | [c] => if c.toNat < 128 then .error .tooShort else .error .invalid
  | [] => .error .tooShort

/-- Hours and minutes of an offset, in seconds. -/
def offsetSize (cs : List Char) : Except DateError (Nat × List Char) := do
  let (hours, rest) ← offsetDigits '9' cs
  let (minutes, rest) ←
    offsetDigits '5' (rest.dropWhile (fun c => c = ':' || Text.isBlank c))
  .ok (hours * 3600 + minutes * 60, rest)

/-- An offset in seconds. -/
def offset (cs : List Char) : Except DateError (Int × List Char) :=
  match cs with
  | [] => .error .tooShort
  | c :: rest =>
      if (cs.take 3).map Char.toLower = ['u', 't', 'c'] then .ok (0, cs.drop 3)
      else if c = 'Z' ∨ c = 'z' then .ok (0, rest)
      else if c = '+' then do
        let (n, rest) ← offsetSize rest
        .ok (n, rest)
      else if c = '-' ∨ c = Char.ofNat 0x2212 then do
        let (n, rest) ← offsetSize rest
        .ok (-n, rest)
      else .error .invalid

/-- The mark between date and time. -/
def joint (cs : List Char) : Except DateError (List Char) :=
  match cs with
  | [] => .error .tooShort
  | c :: rest => if c = 't' ∨ c = 'T' ∨ c = ' ' then .ok rest else .error .invalid

/-- The instant with these parts. -/
def assemble (date : Date) (hour minute second nanos : Nat) (offset : Int) :
    Except DateError Timestamp :=
  if date.isValid = false then .error .outOfRange
  else if offset ≤ -86400 ∨ 86400 ≤ offset then .error .outOfRange
  else
    let leap := if second = 60 then 1 else 0
    let ofDay : Int := (hour * 3600 + minute * 60 + (second - leap) : Nat)
    let t : Timestamp :=
      ⟨date.toDay * secondsPerDay + ofDay - offset, nanos + leap * 1000000000⟩
    if t.isValid then .ok t else .error .impossible

/-- The instant that a text stands for. -/
def readText (s : String) : Except DateError Timestamp := do
  let (y, cs) ← year s.toList
  let cs ← separator '-' cs
  let (month, cs) ← field 2 1 12 cs
  let cs ← separator '-' cs
  let (day, cs) ← field 2 1 31 cs
  let cs ← joint cs
  let (hour, cs) ← field 2 0 23 cs
  let cs ← separator ':' cs
  let (minute, cs) ← field 2 0 59 cs
  let cs ← separator ':' cs
  let (second, cs) ← field 2 0 60 cs
  let (nanos, cs) ← scanFraction cs
  let (shift, cs) ← offset (cs.dropWhile Text.isBlank)
  if (cs.dropWhile Text.isBlank).isEmpty then
    assemble ⟨y, month, day⟩ hour minute second nanos shift
  else .error .trailing

/-- An instant is put together only if it lies in the calendar. -/
theorem isValid_of_assemble {date : Date} {hour minute second nanos : Nat} {offset : Int}
    {t : Timestamp} (h : assemble date hour minute second nanos offset = .ok t) :
    t.isValid = true := by
  unfold assemble at h
  split at h
  · cases h
  · split at h
    · cases h
    · dsimp only at h
      generalize (if second = 60 then 1 else 0) = leap at h
      split at h
      · cases h
        assumption
      · cases h

/-- What is read lies in the calendar. -/
theorem isValid_of_readText {s : String} {t : Timestamp} (h : readText s = .ok t) :
    t.isValid = true := by
  simp only [readText, bind_eq_ok_iff] at h
  obtain ⟨_, -, _, -, _, -, _, -, _, -, _, -, _, -, _, -, _, -, _, -, _, -, _, -, _, -, h⟩ := h
  split at h
  · exact isValid_of_assemble h
  · cases h

end Timestamp

end WebAuth.Calendar
