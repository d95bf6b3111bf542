import WebAuth.Text.Cut

/-!
# Tables of code points

Properties of characters are kept as tables of runs of code points.  A table is
written as words in hexadecimal: `30-39` is the run from U+0030 to U+0039,
`100-12e/2` every second code point of a run, and what follows a colon are the
values of the run.  Runs may cover code points of which the property is never asked.
All tables follow version 17 of Unicode.

Main results:

* `CodeTable.contains_append`: tables one after the other cover what either covers.
-/

namespace WebAuth.Text

/-- The code points from `first` to `last` that are `step` apart, with their values. -/
structure CodeRun where
  first : Nat
  last : Nat
  step : Nat
  values : List Nat
deriving DecidableEq, Repr

namespace CodeRun

/-- Whether a code point is in a run. -/
def covers (run : CodeRun) (n : Nat) : Bool :=
  run.first ≤ n && n ≤ run.last && (n - run.first) % run.step = 0

/-- The number that lowercase hexadecimal digits stand for. -/
def hexNumber (digits : List Char) : Nat :=
  digits.foldl (fun n c => n * 16 + (if c.isDigit then c.toNat - 48 else c.toNat - 87)) 0

/-- The run that a word stands for. -/
def ofWord (word : List Char) : CodeRun :=
  let (range, values) := (cutAt? ':' word).getD (word, [])
  let (bounds, step) := (cutAt? '/' range).getD (range, ['1'])
  let (first, last) := (cutAt? '-' bounds).getD (bounds, bounds)
  { first := hexNumber first
    last := hexNumber last
    step := hexNumber step
    values := if values.isEmpty then [] else (values.splitOn ',').map hexNumber }

end CodeRun

/-- Runs of code points, of which the first that covers a code point counts. -/
abbrev CodeTable := List CodeRun

namespace CodeTable

/-- The table that a text stands for. -/
def ofText (s : String) : CodeTable :=
  ((s.toList.splitOnP Char.isWhitespace).filter (fun word => !word.isEmpty)).map CodeRun.ofWord

/-- The run that covers a code point. -/
def run? (table : CodeTable) (n : Nat) : Option CodeRun :=
  table.find? (fun run => run.covers n)

/-- Whether a table covers a code point. -/
def contains (table : CodeTable) (n : Nat) : Bool := table.any (fun run => run.covers n)

/-- The values that all code points of a run share. -/
def values? (table : CodeTable) (n : Nat) : Option (List Nat) := (table.run? n).map (·.values)

/-- What a code point is replaced by: several values as they are, a single one as far
from the run's value as the code point is from its start. -/
def images? (table : CodeTable) (n : Nat) : Option (List Nat) :=
  (table.run? n).map (fun run =>
    match run.values with
    | [image] => [image + (n - run.first)]
    | images => images)

/-- Tables one after the other cover what either covers. -/
theorem contains_append (s t : CodeTable) (n : Nat) :
    contains (s ++ t) n = (contains s n || contains t n) := by
  simp [contains]

end CodeTable

end WebAuth.Text
