/-!
# Dates

Days of the proleptic Gregorian calendar, counted from the first of January 1970.
The calendar is kept for the years -262143 to 262142.

Main results:

* `Date.toDay_ofDay`: the date found for a day is counted as that day.
-/

namespace WebAuth.Calendar

/-- A day of a year. -/
structure Date where
  year : Int
  month : Nat
  day : Nat
deriving DecidableEq, Repr

namespace Date

/-- The first year that is kept. -/
def leastYear : Int := -262143

/-- The last year that is kept. -/
def greatestYear : Int := 262142

/-- Whether a year has a leap day. -/
def isLeap (year : Int) : Bool :=
  year % 4 = 0 && (year % 100 ≠ 0 || year % 400 = 0)

/-- The length of a month. -/
def monthLength (year : Int) (month : Nat) : Nat :=
  if month = 2 then if isLeap year then 29 else 28
  else if month = 4 ∨ month = 6 ∨ month = 9 ∨ month = 11 then 30
  else 31

/-- Whether the date exists and is kept. -/
def isValid (d : Date) : Bool :=
  leastYear ≤ d.year && d.year ≤ greatestYear && 1 ≤ d.month && d.month ≤ 12 &&
    1 ≤ d.day && d.day ≤ monthLength d.year d.month

/-- Days before a year, counted from the first of January of year 0. -/
def daysBeforeYear (year : Int) : Int :=
  let last := year - 1
  365 * year + last / 4 - last / 100 + last / 400 + 1

/-- Days of the year before a month. -/
def daysBeforeMonth (year : Int) (month : Nat) : Nat :=
  (List.range (month - 1)).foldl (fun days m => days + monthLength year (m + 1)) 0

/-- The number of days from 1970 to a date. -/
def toDay (d : Date) : Int :=
  daysBeforeYear d.year - daysBeforeYear 1970 + daysBeforeMonth d.year d.month +
    ((d.day : Int) - 1)

/-- The month and day at a distance from the start of a year, looking at `count`
months from `month` on. -/
def monthOfRest (year : Int) : Nat → Nat → Nat → Nat × Nat
  | 0, month, rest => (month, rest + 1)
  | count + 1, month, rest =>
      let length := monthLength year month
      if rest < length then (month, rest + 1)
      else monthOfRest year count (month + 1) (rest - length)

/-- The year of a day counted from the first of January of year 0.  A year has about 365.2425
days, and the estimate misses by one year at most. -/
def yearOfTotal (total : Int) : Int :=
  let guess := total * 400 / 146097
  if daysBeforeYear (guess + 1) ≤ total then guess + 1
  else if total < daysBeforeYear guess then guess - 1
  else guess

/-- The date at a number of days from 1970. -/
def ofDay (day : Int) : Date :=
  let total := day + daysBeforeYear 1970
  let year := yearOfTotal total
  let (month, dayOfMonth) := monthOfRest year 11 1 (total - daysBeforeYear year).toNat
  ⟨year, month, dayOfMonth⟩

/-! ## Laws -/

/-- The year found for a day starts no later. -/
theorem daysBeforeYear_yearOfTotal_le (total : Int) :
    daysBeforeYear (yearOfTotal total) ≤ total := by
  unfold yearOfTotal
  dsimp only
  split
  · assumption
  · split
    · simp only [daysBeforeYear]
      omega
    · omega

/-- A month starts when the one before it has passed. -/
theorem daysBeforeMonth_succ {month : Nat} (h : 1 ≤ month) (year : Int) :
    daysBeforeMonth year (month + 1) = daysBeforeMonth year month + monthLength year month := by
  obtain ⟨before, rfl⟩ := Nat.exists_eq_add_of_le' h
  rw [daysBeforeMonth, Nat.add_sub_cancel, List.range_succ, List.foldl_append]
  rfl

/-- Going from month to month keeps the day of the year. -/
theorem daysBeforeMonth_monthOfRest (year : Int) (count : Nat) {month : Nat} (h : 1 ≤ month)
    (rest : Nat) :
    daysBeforeMonth year (monthOfRest year count month rest).1 +
        (monthOfRest year count month rest).2 =
      daysBeforeMonth year month + rest + 1 := by
  induction count generalizing month rest with
  | zero => rfl
  | succ count ih =>
      simp only [monthOfRest]
      split
      · rfl
      · rw [ih (Nat.le_succ_of_le h), daysBeforeMonth_succ h]
        omega

/-- The date found for a day is counted as that day. -/
theorem toDay_ofDay (day : Int) : toDay (ofDay day) = day := by
  have hstart := daysBeforeYear_yearOfTotal_le (day + daysBeforeYear 1970)
  have hmonth := daysBeforeMonth_monthOfRest (yearOfTotal (day + daysBeforeYear 1970)) 11
    (Nat.le_refl 1)
    (day + daysBeforeYear 1970 - daysBeforeYear (yearOfTotal (day + daysBeforeYear 1970))).toNat
  have hfirst (year : Int) : daysBeforeMonth year 1 = 0 := rfl
  rw [hfirst] at hmonth
  simp only [toDay, ofDay]
  omega

-- Day 19782 is the leap day of 2024.
example : ofDay 19782 = ⟨2024, 2, 29⟩ ∧ toDay ⟨2024, 2, 29⟩ = 19782 := by
  decide +kernel

end Date

end WebAuth.Calendar
