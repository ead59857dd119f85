/-!
# Floating-point numbers as exact numbers

A finite double is an integer times a power of two.  `Binary.ofFloat` takes the bit pattern apart,
so that whatever is said about a double can be said about two integers, and `Binary.integer?` finds
the integer that a double without fraction is.
-/

set_option autoImplicit false

namespace Tocsin.Decimal

/-- A double in exact form; a finite one is `± mantissa · 2 ^ exponent`. -/
inductive Binary where
  | nan
  | infinite (negative : Bool)
  | finite (negative : Bool) (mantissa : Nat) (exponent : Int)
  deriving DecidableEq, Repr

namespace Binary

/-- Takes the 64 bits of a double apart. -/
def ofBits (bits : Nat) : Binary :=
  let negative := bits / Nat.pow 2 63 % 2 == 1
  let exponent : Nat := bits / Nat.pow 2 52 % 2048
  let fraction : Nat := bits % Nat.pow 2 52
  if exponent = 2047 then
    if fraction = 0 then infinite negative else nan
  else if exponent = 0 then finite negative fraction (-1074)
  else finite negative (fraction + Nat.pow 2 52) ((exponent : Int) - 1075)

/-- The exact form of a double. -/
def ofFloat (x : Float) : Binary := ofBits x.toBits.toNat

/-- The integer that a finite double is, when it has no fraction. -/
def integer? : Binary → Option Int
  | finite negative mantissa exponent =>
    let size : Option Nat :=
      if 0 ≤ exponent then some (mantissa * Nat.pow 2 exponent.toNat)
      else if mantissa % Nat.pow 2 (-exponent).toNat = 0 then
        some (mantissa / Nat.pow 2 (-exponent).toNat)
      else none
    size.map fun n => if negative then -(n : Int) else n
  | _ => none

/-- Whether the double is neither infinite nor a NaN. -/
def isFinite : Binary → Bool
  | finite .. => true
  | _ => false

/-- The integer part of a finite double, cut towards zero. -/
def truncate? : Binary → Option Int
  | finite negative mantissa exponent =>
    let n : Nat :=
      if 0 ≤ exponent then mantissa * Nat.pow 2 exponent.toNat
      else mantissa / Nat.pow 2 (-exponent).toNat
    some (if negative then -(n : Int) else n)
  | _ => none

end Binary

end Tocsin.Decimal
