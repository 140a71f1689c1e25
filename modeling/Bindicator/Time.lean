/-
**The parts of Go's `time` package the firmware leans on.**

A `time.Duration` counts nanoseconds in an `int64`; `time.Second`, `time.Minute` and `time.Hour`
are its units. `time.Date(year, month, day, 0, 0, 0, 0, time.UTC)` is a day's midnight, here in
Unix seconds: `time.Date` carries a month outside `1..12` into the year and adds the day to the
first of the month, so a day past the month's end runs into the next month.
-/

import Mathlib.Tactic.NormNum

namespace Bindicator

/-- `time.Second`, in nanoseconds. -/
def second : Int := 1000000000

/-- `time.Minute`. -/
def minute : Int := 60 * second

/-- `time.Hour`. -/
def hour : Int := 60 * minute

/-- Days from `0001-01-01` to the first of January of `year`, in the proleptic Gregorian
calendar. -/
def daysBeforeYear (year : Int) : Int :=
  365 * (year - 1) + (year - 1) / 4 - (year - 1) / 100 + (year - 1) / 400

/-- `isLeap`. -/
def isLeap (year : Int) : Bool := year % 4 = 0 ∧ (year % 100 ≠ 0 ∨ year % 400 = 0)

/-- `daysBefore[m]`: the days of a common year before the first of the month `m + 1`. -/
def daysBefore (m : Nat) : Int := [0, 31, 59, 90, 120, 151, 181, 212, 243, 273, 304, 334].getD m 0

/-- `time.Date(year, month, day, 0, 0, 0, 0, time.UTC)`, in Unix seconds. -/
def timeDate (year month day : Int) : Int :=
  let carried := year + (month - 1) / 12
  let m := ((month - 1) % 12).toNat
  (daysBeforeYear carried - daysBeforeYear 1970 + daysBefore m +
    (if isLeap carried ∧ 2 ≤ m then 1 else 0) + (day - 1)) * 86400

/-- The collection date of `TestIsInCollectionWindow`, and a day past the end of April. -/
example : timeDate 2026 1 17 = 1768608000 ∧ timeDate 2023 4 31 = 1682899200 ∧
    timeDate 2024 3 1 = 1709251200 ∧ timeDate 1970 1 1 = 0 := by
  decide

end Bindicator
