import Tocsin.Calendar.Date
import Tocsin.Decimal.Numeral
import Tocsin.Text.Cut

/-!
# Dates at which cookies end

A cookie names the date at which it ends in one of several forms: a day, a month by name or number
and a year with two digits or more, then perhaps a time of day and a zone; the day of the week in
front and a remark in round brackets behind do not count.  Only offsets in digits and the names of
UTC are known as zones.  A year without its century lies in the century that brings it closest to
the present.
-/

set_option autoImplicit false

namespace Tocsin.Webhook.ExpiryDate

open Tocsin.Calendar Tocsin.Decimal Tocsin.Text

/-- What the text of a date comes to. -/
inductive Reading where
  /-- Seconds since the start of 1970. -/
  | at (second : Int)
  /-- It is no date. -/
  | unknown
  /-- It has the strict form, but an unknown month, or a number that is too long to be read. -/
  | broken
  deriving DecidableEq, Repr

/-- The start of 1970, in seconds from the start of year 1. -/
def epoch : Int := daysBeforeYear 1970 * 86400

/-- The present year, given the present in seconds since the start of 1970. -/
def yearOf (now : Int) : Nat := (yearOfDays ((now + epoch).toNat / 86400)).1

/-- Whether a character is space in ASCII. -/
def isSpace (c : Char) : Bool := c == ' ' || (0x9 ≤ c.toNat && c.toNat ≤ 0xd)

/-- Whether a character can stand in a word. -/
def inWord (c : Char) : Bool := isAsciiLetter c || isAsciiDigit c || c == '_'

/-- The names of the months. -/
def monthNames : List (List Char) :=
  ["jan", "feb", "mar", "apr", "may", "jun", "jul", "aug", "sep", "oct", "nov", "dec"].map
    String.toList

/-- The month that a word names. -/
def monthByName? (word : List Char) : Option Nat :=
  let i := monthNames.idxOf (lowerAscii word)
  if i < monthNames.length then some (i + 1) else none

/-- The month that a word names, or whose number it is. -/
def month? (word : List Char) : Option Nat :=
  match monthByName? word with
  | some m => some m
  | none =>
    match readAnyInteger? word with
    | some n => if 1 ≤ n ∧ n ≤ 12 then some n.toNat else none
    | none => none

/-- A time of day. -/
structure Clock where
  hour : Nat
  minute : Nat
  second : Nat

/-- The seconds of a date and a time of day in UTC; none when they are out of range.  The day may go
beyond the end of its month. -/
def second? (year month day : Nat) (clock : Clock) : Option Int :=
  if 1970 ≤ year ∧ 1 ≤ month ∧ month ≤ 12 ∧ 1 ≤ day ∧ day ≤ 31 ∧ clock.hour ≤ 24
      ∧ clock.minute ≤ 59 ∧ clock.second ≤ 61 then
    some ((Date.days ⟨year, month, day⟩ * 86400 + clock.hour * 3600 + clock.minute * 60
      + clock.second : Nat) - epoch)
  else none

/-- The number in a text of digits. -/
def number (cs : List Char) : Nat := ofDigits 10 (cs.filterMap asciiDigit?)

/-- Cuts a run of digits off that has one of the given lengths. -/
def cutDigits (least most : Nat) (cs : List Char) : Option (List Char × List Char) :=
  let digits := (cs.takeWhile isAsciiDigit).take most
  if digits.length < least then none else some (digits, cs.drop digits.length)

/-- Reads the strict form: `Wed, 09 Feb 1994 22:23:32 GMT`, behind which a line may end. -/
def readStrict? (cs : List Char) : Option Reading :=
  let isLower (c : Char) : Bool := 'a' ≤ c && c ≤ 'z'
  let numberAt (i n : Nat) : Nat := number ((cs.drop i).take n)
  let fits (c shape : Char) : Bool :=
    match shape with
    | 'D' => "SMTWF".toList.contains c
    | 'M' => "JFMASOND".toList.contains c
    | 'a' => isLower c
    | '0' => isAsciiDigit c
    | _ => c == shape
  let shape := "Daa, 00 Maa 0000 00:00:00 ".toList
  if ["GMT", "GMT\n"].any (fun zone => cs.drop shape.length = zone.toList)
      ∧ (cs.zip shape).all fun p => fits p.1 p.2 then
    some <|
      match monthByName? ((cs.drop 8).take 3) with
      | none => .broken
      | some month =>
        match second? (numberAt 12 4) month (numberAt 5 2)
            ⟨numberAt 17 2, numberAt 20 2, numberAt 23 2⟩ with
        | some s => .at s
        | none => .unknown
  else none

/-- Skips the day of the week, a comma and space. -/
def dropWeekday (cs : List Char) : List Char :=
  if ["sun", "mon", "tue", "wed", "thu", "fri", "sat"].any fun day =>
      day.toList == lowerAscii (cs.take 3) then
    let rest := (cs.drop 3).dropWhile isAsciiLetter
    let rest :=
      match rest with
      | ',' :: rest => rest
      | _ => rest
    rest.dropWhile isSpace
  else cs

/-- Skips what separates the parts of a date: space, or a hyphen or slash. -/
def dropSeparator? (cs : List Char) : Option (List Char) :=
  match cs with
  | '-' :: rest | '/' :: rest => some rest
  | c :: rest => if isSpace c then some (rest.dropWhile isSpace) else none
  | [] => none

/-- Reads a time of day and what separates it from the date. -/
def readClock? (cs : List Char) : Option (Clock × List Char) := do
  let rest ←
    match cs with
    | ':' :: rest => some rest
    | c :: rest => if isSpace c then some (rest.dropWhile isSpace) else none
    | [] => none
  let (hour, rest) ← cutDigits 1 2 rest
  let (minute, rest) ←
    match rest with
    | ':' :: rest => cutDigits 2 2 rest
    | _ => none
  let (second, rest) :=
    match rest with
    | ':' :: more => (cutDigits 2 2 more).getD ([], rest)
    | _ => ([], rest)
  return (⟨number hour, number minute, number second⟩, rest)

/-- Cuts the name or the offset of a zone off, if there is one. -/
def cutZone (cs : List Char) : Option (List Char) × List Char :=
  let signed (sign rest : List Char) : Option (List Char) × List Char :=
    match cutDigits 2 4 rest with
    | some (digits, rest) => (some (sign ++ digits), rest)
    | none => (none, sign ++ rest)
  match cs with
  | '+' :: rest => signed ['+'] rest
  | '-' :: rest => signed ['-'] rest
  | _ =>
    let letters := cs.takeWhile isAsciiLetter
    if letters.isEmpty then signed [] cs
    else
      let rest := cs.drop letters.length
      let isHalfDay := [['a', 'm'], ['p', 'm']].contains (lowerAscii letters)
        && !((rest.head?.map inWord).getD false)
      if isHalfDay then (none, cs) else (some letters, rest)

/-- Skips a word in round brackets. -/
def dropRemark (cs : List Char) : List Char :=
  match cs with
  | '(' :: rest =>
    let word := rest.takeWhile inWord
    match rest.drop word.length with
    | ')' :: tail => if word.isEmpty then cs else tail.dropWhile isSpace
    | _ => cs
  | _ => cs

/-- The offset of a zone in seconds; none if the zone is not known. -/
def zoneOffset? (zone : List Char) : Option Int :=
  if ["gmt", "utc", "ut", "z"].any fun name => name.toList == lowerAscii zone then some 0
  else
    let (negative, digits) := splitSign zone
    if digits.isEmpty ∨ 4 < digits.length ∨ !digits.all isAsciiDigit then none
    else
      let split := if digits.length ≤ 2 then digits.length else digits.length - 2
      let size : Int := number (digits.take split) * 3600 + number (digits.drop split) * 60
      some (if negative then -size else size)

/-- The year that a number below 1000 means: the one of its ending that is closest to the present.
-/
def fullYear (present written : Nat) : Nat :=
  if 1000 ≤ written then written
  else
    let past := present % 100
    let year := written + (present - past)
    if written + 50 < past then year + 100 else if past + 50 < written then year - 100 else year

/-- Puts the parts of a date together. -/
def assemble (now : Int) (day month year : List Char) (clock : Clock) (zone : Option (List Char)) :
    Reading :=
  if maxDigits < year.length then .broken
  else if 9999 < number year then .unknown
  else
    let reading := do
      let m ← month? month
      let s ← second? (fullYear (yearOf now) (number year)) m (number day) clock
      let offset ← zoneOffset? (zone.getD ['z'])
      return s - offset
    match reading with
    | some s => .at s
    | none => .unknown

/-- Reads the loose form. -/
def readLoose (now : Int) (cs : List Char) : Reading :=
  let parts := do
    let (day, rest) ← cutDigits 1 2 (dropWeekday (cs.dropWhile isSpacing))
    let rest ← dropSeparator? rest
    let month := rest.takeWhile inWord
    if month.isEmpty then none
    let rest ← dropSeparator? (rest.drop month.length)
    let year := rest.takeWhile isAsciiDigit
    if year.isEmpty then none
    let rest := rest.drop year.length
    let (clock, rest) := (readClock? rest).getD (⟨0, 0, 0⟩, rest)
    let (zone, rest) := cutZone (rest.dropWhile isSpace)
    if (dropRemark (rest.dropWhile isSpace)).isEmpty then some (day, month, year, clock, zone)
    else none
  match parts with
  | some (day, month, year, clock, zone) => assemble now day month year clock zone
  | none => .unknown

/-- Reads a date; `now` is the present in seconds since the start of 1970. -/
def read (now : Int) (cs : List Char) : Reading := (readStrict? cs).getD (readLoose now cs)

end Tocsin.Webhook.ExpiryDate
