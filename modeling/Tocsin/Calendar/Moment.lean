import Tocsin.Calendar.Date
import Tocsin.Calendar.Zone

/-!
# Moments

A moment is a date and a time of day as a clock shows them, with the clock's offset from UTC or, for
UTC itself, without one.  An instant is a point on the time line: seconds since the first day of
year 1 in UTC, and microseconds.  A moment denotes an instant when its UTC date lies in the years 1
to 9999, and an instant can be shown in a zone when the date there does; both ways can leave that
range.

The clock of a moment may run in a zone and not just at an offset.  Shown in that same zone, such a
moment is taken as it stands: it takes neither of the two ways, and so cannot leave the range.
-/

set_option autoImplicit false

namespace Tocsin.Calendar

open Tocsin.Text

/-- How a clock is set. -/
inductive Setting where
  /-- Nothing is said of it, which is taken for UTC. -/
  | bare
  /-- By an offset from UTC in seconds, which is not known for that of a zone. -/
  | offset (seconds : Int)
  /-- By a zone, the very one that moments are shown in. -/
  | zone (z : Zone)
  deriving DecidableEq, Repr

/-- The offset from UTC in seconds. -/
def Setting.seconds : Setting → Int
  | bare => 0
  | offset seconds => seconds
  | zone z => z.seconds

/-- What a clock shows. -/
structure Moment where
  date : Date
  hour : Nat
  minute : Nat
  second : Nat
  microsecond : Nat
  /-- The setting of the clock. -/
  setting : Setting
  deriving DecidableEq, Repr

/-- A point in time: whole seconds since the start of year 1 in UTC, and microseconds. -/
structure Instant where
  second : Int
  microsecond : Nat
  deriving DecidableEq, Repr

/-- The instant falls outside the years 1 to 9999. -/
inductive RangeError where
  | outOfRange
  deriving DecidableEq, Repr

/-- The wording of the error. -/
def RangeError.message : RangeError → String
  | outOfRange => "date value out of range"

/-- Whether a number of seconds lies in the years 1 to 9999. -/
def inYears (second : Int) : Bool := 0 ≤ second && second < dayLimit * 86400

/-- The seconds that a clock shows, counted from the start of year 1 by that clock. -/
def Moment.localSecond (m : Moment) : Int :=
  ((m.date.days * 86400 + m.hour * 3600 + m.minute * 60 + m.second : Nat) : Int)

/-- The seconds of a moment in UTC, whether in range or not. -/
def Moment.utcSecond (m : Moment) : Int := m.localSecond - m.setting.seconds

/-- The instant that a moment denotes. -/
def Moment.instant (m : Moment) : Except RangeError Instant :=
  if inYears m.utcSecond then .ok ⟨m.utcSecond, m.microsecond⟩ else .error .outOfRange

/-- A date and a time of day, without an offset. -/
structure WallTime where
  date : Date
  hour : Nat
  minute : Nat
  second : Nat
  deriving DecidableEq, Repr

/-- The wall time so many seconds after the start of year 1. -/
def WallTime.ofSecond (n : Nat) : WallTime :=
  let t := n % 86400
  ⟨Date.ofDays (n / 86400), t / 3600, t / 60 % 60, t % 60⟩

/-- The wall time that the clock of a moment shows. -/
def Moment.wallTime (m : Moment) : WallTime := ⟨m.date, m.hour, m.minute, m.second⟩

/-- What a clock in a zone shows at an instant. -/
def Instant.wallTime (i : Instant) (z : Zone) : Except RangeError WallTime :=
  let shown := i.second + z.seconds
  if inYears shown then .ok (.ofSecond shown.toNat) else .error .outOfRange

/-- A number with at least two digits. -/
def twoDigits (n : Nat) : List Char := padLeft 2 '0' (decimalDigits n)

/-- The time of day as `HH:MM:SS`. -/
def WallTime.timeText (w : WallTime) : List Char :=
  twoDigits w.hour ++ ':' :: twoDigits w.minute ++ ':' :: twoDigits w.second

/-- A wall time as `YYYY-MM-DD HH:MM:SS`; the year has as many digits as it needs. -/
def WallTime.text (w : WallTime) : List Char :=
  decimalDigits w.date.year ++ '-' :: twoDigits w.date.month ++ '-' :: twoDigits w.date.day
    ++ ' ' :: w.timeText

/-- What a clock in a zone shows at a moment.  The zone by which the clock of the moment is set
shows what that clock does. -/
def Moment.wallTimeIn (m : Moment) (z : Zone) : Except RangeError WallTime :=
  if m.setting = .zone z then .ok m.wallTime
  else do
    let instant ← m.instant
    instant.wallTime z

/-- The time line of a moment in a zone, to the second: the text of alert messages. -/
def Moment.formatIn (m : Moment) (z : Zone) : Except RangeError String :=
  (m.wallTimeIn z).map fun wall => String.ofList wall.text

/-- An instant as a time stamp in UTC: four digits of the year, a `T`, the microseconds unless they
are zero, and the offset. -/
def Instant.stamp (i : Instant) : String :=
  let w := WallTime.ofSecond i.second.toNat
  let fraction :=
    if i.microsecond = 0 then [] else '.' :: padLeft 6 '0' (decimalDigits i.microsecond)
  String.ofList (padLeft 4 '0' (decimalDigits w.date.year) ++ '-' :: twoDigits w.date.month
    ++ '-' :: twoDigits w.date.day ++ 'T' :: w.timeText ++ fraction ++ "+00:00".toList)

/-- A clock: what it shows at its first, second, … reading; the last reading repeats for ever. -/
structure Clock where
  first : Moment
  later : List Moment
  deriving DecidableEq, Repr

/-- What the clock shows at the reading with that number, from 0. -/
def Clock.reading (c : Clock) (n : Nat) : Moment :=
  ((c.first :: c.later)[n]?).getD ((c.later.getLast?).getD c.first)

end Tocsin.Calendar
