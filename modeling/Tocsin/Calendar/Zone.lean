import Tocsin.Text.Digit

/-!
# Zones with a fixed offset

A zone is a whole number of hours east of UTC, less than a day in either direction.  `Zone.ofHours?`
makes one of any integer and says why it cannot: the offset is a span of time, written in days and
seconds with the seconds never negative, and a span has limits of its own before the limit of a day
applies.
-/

set_option autoImplicit false

namespace Tocsin.Calendar

open Tocsin.Text

/-- A fixed offset from UTC of less than a day. -/
structure Zone where
  hours : Int
  above : -24 < hours
  below : hours < 24
  deriving DecidableEq, Repr

/-- Why a number of hours is no offset. -/
inductive OffsetError where
  /-- The span is of a day or more; it is given in days and seconds. -/
  | notWithinDay (days : Int) (seconds : Nat)
  /-- The span has more days than a span can have. -/
  | spanTooLong (days : Int)
  /-- The number of days does not even fit a machine word of 32 bits. -/
  | daysTooLarge
  deriving DecidableEq, Repr

/-- The families of these errors. -/
inductive OffsetError.Family where
  /-- There is such a span, but it is no offset. -/
  | value
  /-- There is no such span. -/
  | overflow
  deriving DecidableEq, Repr

/-- The family of an error. -/
def OffsetError.family : OffsetError → OffsetError.Family
  | notWithinDay _ _ => .value
  | spanTooLong _ => .overflow
  | daysTooLarge => .overflow

/-- The longest span in days. -/
def maxDays : Int := 999999999

/-- Whether a number fits a signed machine word of 32 bits. -/
def fitsWord (n : Int) : Bool := -0x80000000 ≤ n && n < 0x80000000

/-- The zone so many hours east of UTC. -/
def Zone.ofHours? (hours : Int) : Except OffsetError Zone :=
  let days := hours.fdiv 24
  if !fitsWord days then .error .daysTooLarge
  else if days < -maxDays ∨ maxDays < days then .error (.spanTooLong days)
  else if h : -24 < hours ∧ hours < 24 then .ok ⟨hours, h.1, h.2⟩
  else .error (.notWithinDay days ((hours.fmod 24).toNat * 3600))

/-- Eight hours east of UTC, the zone of alert messages unless another one is configured. -/
def Zone.utc8 : Zone := ⟨8, by decide, by decide⟩

/-- The offset in seconds. -/
def Zone.seconds (z : Zone) : Int := z.hours * 3600

/-- The name of a zone: `UTC`, with the sign and the hours of the offset unless it is zero. -/
def Zone.name (z : Zone) : String :=
  if z.hours = 0 then "UTC"
  else
    String.ofList ("UTC".toList ++ (if z.hours < 0 then '-' else '+')
      :: padLeft 2 '0' (decimalDigits z.hours.natAbs) ++ ":00".toList)

/-- A span of time as text: its days and its seconds, each left out when it is zero. -/
def spanText (days : Int) (seconds : Nat) : String :=
  let day := "days=" ++ String.ofList (decimalText days)
  let second := "seconds=" ++ String.ofList (decimalDigits seconds)
  let parts :=
    if days = 0 ∧ seconds = 0 then "0"
    else if days = 0 then second
    else if seconds = 0 then day
    else day ++ ", " ++ second
  "datetime.timedelta(" ++ parts ++ ")"

/-- The wording of an error. -/
def OffsetError.message : OffsetError → String
  | notWithinDay days seconds =>
    "offset must be a timedelta strictly between -timedelta(hours=24) and timedelta(hours=24), not "
      ++ spanText days seconds ++ "."
  | spanTooLong days =>
    "days=" ++ String.ofList (decimalText days) ++ "; must have magnitude <= 999999999"
  | daysTooLarge => "Python int too large to convert to C int"

end Tocsin.Calendar
