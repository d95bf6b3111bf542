import WebAuth.Calendar.Date

/-!
# Instants

An instant is a number of whole seconds from the start of 1970 and a fraction in
billionths.  A leap second is the second before it with a fraction of one or
more.  Instants outside the calendar's years do not exist, so adding a duration
can fail.

Main results:

* `Timestamp.le_plusSeconds?`: a positive duration leads to a later instant.
-/

namespace WebAuth.Calendar

/-- An instant. -/
structure Timestamp where
  seconds : Int
  fraction : Nat
deriving DecidableEq, Repr

namespace Timestamp

/-- Seconds of a day. -/
def secondsPerDay : Int := 86400

/-- The first second of the calendar. -/
def leastSecond : Int := Date.toDay ⟨Date.leastYear, 1, 1⟩ * secondsPerDay

/-- The last second of the calendar. -/
def greatestSecond : Int := Date.toDay ⟨Date.greatestYear, 12, 31⟩ * secondsPerDay + 86399

/-- Whether the instant lies in the calendar. -/
def isValid (t : Timestamp) : Bool :=
  leastSecond ≤ t.seconds && t.seconds ≤ greatestSecond

/-- Whether one instant is not after another. -/
def le (s t : Timestamp) : Bool :=
  s.seconds < t.seconds || (s.seconds = t.seconds && s.fraction ≤ t.fraction)

/-- The instant some seconds later; none if it lies outside the calendar. -/
def plusSeconds? (t : Timestamp) (seconds : Int) : Option Timestamp :=
  let moved : Timestamp := { t with seconds := t.seconds + seconds }
  if moved.isValid then some moved else none

/-- Seconds of the day of an instant. -/
def secondOfDay (t : Timestamp) : Int := t.seconds % secondsPerDay

/-- The correction for a leap second between the times of day of two instants. -/
def leapBetween (later earlier : Timestamp) : Int :=
  if later.secondOfDay > earlier.secondOfDay then
    if 1000000000 ≤ earlier.fraction then 1 else 0
  else if later.secondOfDay < earlier.secondOfDay then
    if 1000000000 ≤ later.fraction then -1 else 0
  else 0

/-- Whole seconds from one instant to another, cut towards zero. -/
def secondsSince (later earlier : Timestamp) : Int :=
  let nanos := (later.seconds - earlier.seconds + leapBetween later earlier) * 1000000000 +
    later.fraction - earlier.fraction
  nanos.tdiv 1000000000

theorem le_trans {s t u : Timestamp} (hst : s.le t = true) (htu : t.le u = true) :
    s.le u = true := by
  simp only [le, Bool.or_eq_true, Bool.and_eq_true, decide_eq_true_eq] at hst htu ⊢
  omega

/-- A positive duration leads to a later instant. -/
theorem le_plusSeconds? {t u : Timestamp} {seconds : Int} (h : 0 < seconds)
    (hu : t.plusSeconds? seconds = some u) : t.le u = true ∧ u.le t = false := by
  unfold plusSeconds? at hu
  simp only at hu
  split at hu
  · cases hu
    simp only [le, Bool.or_eq_true, Bool.and_eq_true, decide_eq_true_eq,
      Bool.or_eq_false_iff, Bool.and_eq_false_iff, decide_eq_false_iff_not]
    omega
  · contradiction

end Timestamp

end WebAuth.Calendar
