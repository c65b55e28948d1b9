/-!
# Dates

Days of the Gregorian calendar, extended without end in both directions. Every fourth year is a leap
year, except those that are divisible by 100 and not by 400. Days are counted from 1970-01-01.
-/

namespace VaultPki.Calendar

structure Date where
  year : Int
  month : Nat
  day : Nat
  deriving DecidableEq, Repr

def isLeap (year : Int) : Bool :=
  year % 4 == 0 && (year % 100 != 0 || year % 400 == 0)

def daysInMonth (year : Int) (month : Nat) : Nat :=
  match month with
  | 2 => if isLeap year then 29 else 28
  | 4 | 6 | 9 | 11 => 30
  | _ => 31

/-- The days from 1 March of a year to the same day of year zero. Years are taken to begin in March,
so that the leap day is their last. -/
def daysOfYears (year : Int) : Int :=
  365 * year + year / 4 - year / 100 + year / 400

/-- The days of a year, from March on, that lie in front of its `month`-th month. -/
def daysOfMonths (month : Nat) : Nat :=
  (153 * month + 2) / 5

/-- The distance of 1970-01-01 from 1 March of year zero. -/
def epoch : Int := 719468

namespace Date

def IsValid (d : Date) : Prop :=
  1 ≤ d.month ∧ d.month ≤ 12 ∧ 1 ≤ d.day ∧ d.day ≤ daysInMonth d.year d.month

def number (d : Date) : Int :=
  if d.month ≤ 2 then
    daysOfYears (d.year - 1) + daysOfMonths (d.month + 9) + d.day - 1 - epoch
  else daysOfYears d.year + daysOfMonths (d.month - 3) + d.day - 1 - epoch

/-- The day with a given number. Four hundred years have 146097 days; within them the year and then
the month are found by division, corrected for the leap days passed. -/
def ofNumber (n : Int) : Date :=
  let days := n + epoch
  let cycle := days / 146097
  let dayOfCycle := (days % 146097).toNat
  let yearOfCycle :=
    (dayOfCycle - dayOfCycle / 1460 + dayOfCycle / 36524 - dayOfCycle / 146096) / 365
  let dayOfYear := dayOfCycle - (365 * yearOfCycle + yearOfCycle / 4 - yearOfCycle / 100)
  let month := (5 * dayOfYear + 2) / 153
  let day := dayOfYear - daysOfMonths month + 1
  let year := (yearOfCycle : Int) + 400 * cycle
  if month < 10 then ⟨year, month + 3, day⟩ else ⟨year + 1, month - 9, day⟩

end Date

end VaultPki.Calendar
