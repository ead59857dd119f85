import Tocsin.Decimal.Shortest
import Tocsin.Text.Digit

/-!
# Writing numbers down

A double is shown by its shortest decimal.  Numbers from `1e-4` up to below `1e16` are shown
positionally, with at least one digit on either side of the point; the others have one digit before
the point and an exponent of at least two digits with its sign.  The module also rounds a double to
a fixed number of places (`fixed`), to a fixed number of digits with an exponent (`exponential`) and
to whichever of the two is usual for its size (`general`); a half goes to the even neighbour.
-/

set_option autoImplicit false

namespace Tocsin.Decimal

open Tocsin.Text

/-- Which decimal exponents are shown positionally: from `low` up to below `high`. -/
structure Positional where
  low : Int
  high : Int
  deriving DecidableEq, Repr

/-- The range in which numbers are shown without an exponent. -/
def Positional.usual : Positional := ⟨-4, 16⟩

/-- Zeros in a row. -/
def zeros (n : Nat) : List Char := List.replicate n '0'

/-- An exponent with its sign and at least two digits. -/
def exponentText (mark : Char) (e : Int) : List Char :=
  mark :: (if e < 0 then '-' else '+') :: padLeft 2 '0' (decimalDigits e.natAbs)

/-- A positive decimal as text. -/
def Scientific.text (style : Positional) (s : Scientific) : List Char :=
  let digits := decimalDigits s.coefficient
  let point := (digits.length : Int) + s.exponent
  if style.low ≤ point - 1 ∧ point - 1 < style.high then
    if point ≤ 0 then '0' :: '.' :: zeros (-point).toNat ++ digits
    else if (digits.length : Int) ≤ point then digits ++ zeros s.exponent.toNat ++ ['.', '0']
    else digits.take point.toNat ++ '.' :: digits.drop point.toNat
  else
    let fraction := digits.drop 1
    digits.take 1 ++ (if fraction.isEmpty then [] else '.' :: fraction)
      ++ exponentText 'e' (point - 1)

/-- The minus sign of a negative number. -/
def signText (negative : Bool) : List Char := if negative then ['-'] else []

/-- The text of a double. -/
def Binary.text : Binary → List Char
  | nan => ['n', 'a', 'n']
  | infinite negative => signText negative ++ ['i', 'n', 'f']
  | finite negative mantissa exponent =>
    signText negative ++
      (if mantissa = 0 then ['0', '.', '0']
       else (shortest mantissa exponent).text Positional.usual)

/-- The text of a double. -/
def floatText (x : Float) : String := String.ofList (Binary.ofFloat x).text

/-- The integer nearest to `num / den`, the even one of two equally near. -/
def roundDiv (num den : Nat) : Nat :=
  let q := num / den
  let r := num % den
  match compare (2 * r) den with
  | .lt => q
  | .gt => q + 1
  | .eq => if q % 2 = 0 then q else q + 1

/-- The integer nearest to `m · 2 ^ q / 10 ^ k`. -/
def roundScaled (m : Nat) (q k : Int) : Nat :=
  roundDiv (m * Nat.pow 2 q.toNat * Nat.pow 10 (-k).toNat)
    (Nat.pow 2 (-q).toNat * Nat.pow 10 k.toNat)

/-- Puts a point before the last `places` digits; with `keepPoint` also where none follows. -/
def withPoint (places : Nat) (keepPoint : Bool) (digits : List Char) : List Char :=
  let whole := digits.length - places
  digits.take whole ++
    (if places = 0 ∧ !keepPoint then [] else '.' :: digits.drop whole)

/-- A double rounded to a number of places. -/
def fixed (m : Nat) (q : Int) (places : Nat) (keepPoint : Bool) : List Char :=
  withPoint places keepPoint (padLeft (places + 1) '0' (decimalDigits (roundScaled m q (-places))))

/-- The digits and the exponent of a double rounded to `places + 1` digits. -/
def roundDigits (m : Nat) (q : Int) (places : Nat) : Nat × Int :=
  if m = 0 then (0, 0) else
  let e := magnitude m q - 1
  let n := roundScaled m q (e - places)
  if n = Nat.pow 10 (places + 1) then (n / 10, e + 1) else (n, e)

/-- A double rounded to `places + 1` digits, with an exponent. -/
def exponential (m : Nat) (q : Int) (places : Nat) (keepPoint : Bool) : List Char :=
  let (n, e) := roundDigits m q places
  withPoint places keepPoint (padLeft (places + 1) '0' (decimalDigits n)) ++ exponentText 'e' e

/-- Takes the zeros off the end of a fraction, and the point when nothing is left behind it. -/
def stripFraction (digits : List Char) : List Char :=
  if '.' ∈ digits then
    let kept := (digits.reverse.dropWhile (· == '0')).reverse
    if kept.getLast? = some '.' then kept.dropLast else kept
  else digits

/-- A double rounded to `precision` digits, with an exponent when it is large or small. -/
def general (m : Nat) (q : Int) (precision : Nat) (keepPoint : Bool) : List Char :=
  let p := if precision = 0 then 1 else precision
  let (n, e) := roundDigits m q (p - 1)
  if -4 ≤ e ∧ e < p then
    let body := fixed m q ((p : Int) - 1 - e).toNat keepPoint
    if keepPoint then body else stripFraction body
  else
    let body := withPoint (p - 1) keepPoint (padLeft p '0' (decimalDigits n))
    (if keepPoint then body else stripFraction body) ++ exponentText 'e' e

end Tocsin.Decimal
