import Tocsin.Decimal.Shortest
import Tocsin.Text.Blank
import Tocsin.Text.Digit

/-!
# Numerals

How numbers are written in the configuration.  The plain form of an integer is an optional minus and
ASCII digits without needless zeros in front (`readPlainInteger`).  Any other integer numeral is
brought into plain form first: white space around it, a plus, zeros and underscores in front, a
point with zeros behind it, and single underscores inside are taken away.  A decimal numeral has a
sign, digits with an optional point, and an optional exponent, or spells infinity or not-a-number;
it may be surrounded by white space, or else have single underscores inside it.
-/

set_option autoImplicit false

namespace Tocsin.Decimal

open Tocsin.Text

/-- Splits an optional sign off a numeral; the answer says whether it was a minus. -/
def splitSign : List Char → Bool × List Char
  | '+' :: cs => (false, cs)
  | '-' :: cs => (true, cs)
  | cs => (false, cs)

/-- Reads digits with single underscores between them, given which characters are digits.  `n` is
the number read so far; the text must start with a digit. -/
def readGroups (digit? : Char → Option Nat) (n : Nat) : List Char → Option Nat
  | [] => none
  | c :: cs =>
    match digit? c with
    | none => none
    | some d =>
      let n := n * 10 + d
      match cs with
      | [] => some n
      | '_' :: rest => readGroups digit? n rest
      | rest => readGroups digit? n rest

/-- What comes of reading an integer numeral. -/
inductive IntegerReading where
  | value (n : Int)
  /-- It has too many digits. -/
  | tooLong
  | malformed
  deriving DecidableEq, Repr

/-- The most digits of an integer numeral. -/
def maxDigits : Nat := 4300

/-- Reads an integer numeral in plain form.  Its digits are counted before what follows them is
looked at. -/
def readPlainInteger (cs : List Char) : IntegerReading :=
  let (negative, body) :=
    match cs with
    | '-' :: rest => (true, rest)
    | _ => (false, cs)
  let digits := body.takeWhile isAsciiDigit
  let n := ofDigits 10 (digits.filterMap asciiDigit?)
  if digits.isEmpty ∨ (digits.head? = some '0' ∧ digits ≠ ['0']) then .malformed
  else if maxDigits < digits.length then .tooLong
  else if digits.length < body.length then .malformed
  else .value (if negative then -(n : Int) else n)

/-- Takes zeros and underscores off the front of a numeral without a sign.  A point keeps the
character in front of it, and a numeral of nothing else keeps its last one. -/
def dropZeros? (cs : List Char) : Option (List Char) :=
  match cs with
  | '0' :: _ =>
    let zeros := cs.takeWhile fun c => c == '0' || c == '_'
    match cs.dropWhile fun c => c == '0' || c == '_' with
    | [] => some (cs.drop (cs.length - 1))
    | '.' :: rest => some (zeros.drop (zeros.length - 1) ++ '.' :: rest)
    | c :: rest => if c = '-' ∨ ('1' ≤ c ∧ c ≤ '9') then some (c :: rest) else none
  | c :: _ => if isAsciiDigit c then some cs else none
  | [] => none

/-- Cuts a point and the zeros behind it off the end of a numeral. -/
def dropZeroFraction (cs : List Char) : List Char :=
  let whole := cs.takeWhile (· != '.')
  match cs.dropWhile (· != '.') with
  | '.' :: '0' :: rest => if rest.all (· == '0') then whole else cs
  | _ => cs

/-- Whether two underscores stand side by side. -/
def hasPair : List Char → Bool
  | '_' :: '_' :: _ => true
  | _ :: cs => hasPair cs
  | [] => false

/-- Takes the underscores out of a numeral, unless one stands at an end or beside another. -/
def joinGroups? (cs : List Char) : Option (List Char) :=
  if cs.head? = some '_' ∨ cs.getLast? = some '_' ∨ hasPair cs then none
  else some (cs.filter (· != '_'))

/-- The plain form of an integer numeral. -/
def plainForm? (cs : List Char) : Option (List Char) :=
  let (negative, body) := splitSign (trim isBlank cs)
  ((dropZeros? body).bind fun body => joinGroups? (dropZeroFraction body)).map fun body =>
    if negative then '-' :: body else body

/-- Reads an integer numeral.  Only one in plain form is too long; any other that does not fit is
malformed. -/
def readInteger (cs : List Char) : IntegerReading :=
  match readPlainInteger cs with
  | .malformed =>
    match (plainForm? cs).map readPlainInteger with
    | some (.value n) => .value n
    | _ => .malformed
  | reading => reading

/-- The integer that a numeral in the digits of any script denotes; it may be surrounded by white
space, and its number of digits is limited. -/
def readAnyInteger? (cs : List Char) : Option Int :=
  let (negative, body) := splitSign (trim isBlank cs)
  if maxDigits < (body.filter (· != '_')).length then none
  else (readGroups decimalDigit? 0 body).map fun n => if negative then -(n : Int) else n

/-- The double nearest to `coefficient · 10 ^ exponent`. -/
def toFloat (s : Scientific) : Float :=
  let size := ((Nat.toDigits 10 s.coefficient).length : Int) + s.exponent
  if s.coefficient = 0 ∨ size < -400 then 0
  else if 400 < size then Float.ofScientific 1 false 400
  else Float.ofScientific s.coefficient (decide (s.exponent < 0)) s.exponent.natAbs

/-- The number that a run of ASCII digits denotes. -/
def digitsNumber (cs : List Char) : Nat := ofDigits 10 (cs.filterMap asciiDigit?)

/-- Reads an exponent; an absent one is zero. -/
def readExponent? : List Char → Option Int
  | [] => some 0
  | c :: cs =>
    if c = 'e' ∨ c = 'E' then
      let (negative, digits) := splitSign cs
      if !digits.isEmpty ∧ digits.all isAsciiDigit then
        let n : Int := digitsNumber digits
        some (if negative then -n else n)
      else none
    else none

/-- Reads digits with an optional point and an optional exponent. -/
def readScientific? (cs : List Char) : Option Scientific :=
  let whole := cs.takeWhile isAsciiDigit
  let rest := cs.dropWhile isAsciiDigit
  let (fraction, tail) :=
    match rest with
    | '.' :: rest => (rest.takeWhile isAsciiDigit, rest.dropWhile isAsciiDigit)
    | rest => ([], rest)
  if whole.isEmpty ∧ fraction.isEmpty then none
  else (readExponent? tail).map fun e =>
    ⟨digitsNumber (whole ++ fraction), e - fraction.length⟩

/-- Reads a decimal numeral without underscores and surrounding space. -/
def readBareFloat? (cs : List Char) : Option Float :=
  let (negative, body) := splitSign cs
  let size : Option Float :=
    match String.ofList (lowerAscii body) with
    | "nan" => some (0.0 / 0.0)
    | "inf" | "infinity" => some (1.0 / 0.0)
    | _ => (readScientific? body).map toFloat
  size.map fun x => if negative then -x else x

/-- The double that a decimal numeral denotes.  White space may surround it only if it has no
underscores. -/
def readFloat? (cs : List Char) : Option Float :=
  readBareFloat? (trim isBlank cs) <|> (joinGroups? cs).bind readBareFloat?

end Tocsin.Decimal
