/-!
# Dates of the civil calendar

The proleptic Gregorian calendar, counted in days from 1 January of year 1.  `Date.days` turns a
date into its day number and `Date.ofDays` turns a day number back, first by whole cycles of 400,
100, 4 and 1 years and then by the lengths of the months.
-/

set_option autoImplicit false

namespace Tocsin.Calendar

/-- A year, a month from 1 and a day of the month from 1. -/
structure Date where
  year : Nat
  month : Nat
  day : Nat
  deriving DecidableEq, Repr

/-- Whether a year has a leap day. -/
def isLeap (year : Nat) : Bool := year % 4 == 0 && (year % 100 != 0 || year % 400 == 0)

/-- The lengths of the months of a year. -/
def monthLengths (leap : Bool) : List Nat :=
  [31, if leap then 29 else 28, 31, 30, 31, 30, 31, 31, 30, 31, 30, 31]

/-- Whether the date exists. -/
def Date.Valid (d : Date) : Prop :=
  1 ≤ d.year ∧ 1 ≤ d.month ∧ d.month ≤ 12 ∧ 1 ≤ d.day ∧
    d.day ≤ (monthLengths (isLeap d.year)).getD (d.month - 1) 0

instance (d : Date) : Decidable d.Valid := by unfold Date.Valid; infer_instance

/-- How many days lie before 1 January of a year. -/
def daysBeforeYear (year : Nat) : Nat :=
  let past := year - 1
  past * 365 + past / 4 - past / 100 + past / 400

/-- How many days of a year lie before its month with that number. -/
def daysBeforeMonth (leap : Bool) (month : Nat) : Nat :=
  ((monthLengths leap).take (month - 1)).foldl (· + ·) 0

/-- The number of a day, counted from 0 for 1 January of year 1. -/
def Date.days (d : Date) : Nat :=
  daysBeforeYear d.year + daysBeforeMonth (isLeap d.year) d.month + (d.day - 1)

/-- The year of a day number, and which day of that year it is, from 0. -/
def yearOfDays (n : Nat) : Nat × Nat :=
  let n400 := n / 146097
  let r400 := n % 146097
  let n100 := min 3 (r400 / 36524)
  let r100 := r400 - n100 * 36524
  let n4 := r100 / 1461
  let r4 := r100 % 1461
  let n1 := min 3 (r4 / 365)
  (n400 * 400 + n100 * 100 + n4 * 4 + n1 + 1, r4 - n1 * 365)

/-- The month that a day of the year falls in, counted on from `month`, and the day of that month.
-/
def monthOfDay (month : Nat) : List Nat → Nat → Nat × Nat
  | [], r => (month, r + 1)
  | length :: lengths, r =>
    if r < length then (month, r + 1) else monthOfDay (month + 1) lengths (r - length)

/-- The date with a day number. -/
def Date.ofDays (n : Nat) : Date :=
  let (year, r) := yearOfDays n
  let (month, day) := monthOfDay 1 (monthLengths (isLeap year)) r
  ⟨year, month, day⟩

/-- The first day number behind the last year that can be written, 9999. -/
def dayLimit : Nat := daysBeforeYear 10000

end Tocsin.Calendar
