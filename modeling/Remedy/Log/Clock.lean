/-
# Dates of log files

The date and time of day at a number of seconds since the start of 1970, in
universal time, as log files are named by it.
-/

namespace Remedy
namespace Log
namespace Clock

/-- A day of the calendar. -/
structure Date where
  year : Nat
  month : Nat
  day : Nat
  deriving DecidableEq, Repr

/-- The date of a day, counted from the start of 1970.  Years are counted from
March on, so that the day a leap year adds is its last one, and in cycles of 400
years, which all have the same length. -/
def date (days : Nat) : Date :=
  let shifted := days + 719468
  let cycle := shifted / 146097
  let dayOfCycle := shifted % 146097
  let yearOfCycle :=
    (dayOfCycle - dayOfCycle / 1460 + dayOfCycle / 36524 - dayOfCycle / 146096) / 365
  let dayOfYear := dayOfCycle - (365 * yearOfCycle + yearOfCycle / 4 - yearOfCycle / 100)
  let march := (5 * dayOfYear + 2) / 153
  let day := dayOfYear - (153 * march + 2) / 5 + 1
  let month := if march < 10 then march + 3 else march - 9
  ⟨yearOfCycle + 400 * cycle + (if month ≤ 2 then 1 else 0), month, day⟩

/-- A number in at least so many digits. -/
def padded (width n : Nat) : String :=
  let ds := Nat.toDigits 10 n
  String.ofList (List.replicate (width - ds.length) '0' ++ ds)

/-- The date and the time of day, as in `20240229_235959`. -/
def text (seconds : Nat) : String :=
  let d := date (seconds / 86400)
  let s := seconds % 86400
  padded 4 d.year ++ padded 2 d.month ++ padded 2 d.day ++ "_"
    ++ padded 2 (s / 3600) ++ padded 2 (s / 60 % 60) ++ padded 2 (s % 60)

example : text 0 = "19700101_000000" := by decide +kernel
example : text 1709251199 = "20240229_235959" := by decide +kernel

end Clock
end Log
end Remedy
