import Tocsin.Decimal.Binary

/-!
# The shortest decimal of a double

Many decimals read back as the same double: all those in an interval around it, whose ends belong to
it when the mantissa is even.  `shortest` takes the decimal with the fewest digits in that interval,
and of several with that many digits the one nearest to the double.  It tries one digit, then two,
and so on; for a number of digits the decimals form a grid, and if any point of the grid lies in the
interval then so does one of the two grid points beside the double.
-/

set_option autoImplicit false

namespace Tocsin.Decimal

/-- A positive decimal number `coefficient · 10 ^ exponent`. -/
structure Scientific where
  coefficient : Nat
  exponent : Int
  deriving DecidableEq, Repr

/-- Compares `a · 10 ^ k` with `b · 2 ^ q`. -/
def compareScaled (a : Nat) (k : Int) (b : Nat) (q : Int) : Ordering :=
  compare (a * Nat.pow 10 k.toNat * Nat.pow 2 (-q).toNat)
    (b * Nat.pow 2 q.toNat * Nat.pow 10 (-k).toNat)

/-- The largest integer `a` with `a · 10 ^ k` at most `m · 2 ^ q`. -/
def floorScaled (m : Nat) (q k : Int) : Nat :=
  (m * Nat.pow 2 q.toNat * Nat.pow 10 (-k).toNat)
    / (Nat.pow 2 (-q).toNat * Nat.pow 10 k.toNat)

/-- Whether `a · 10 ^ k` reads back as `m · 2 ^ q`.  The interval reaches half way to the next
double on either side; below a power of two the next double is only half as far. -/
def readsBack (m : Nat) (q : Int) (a : Nat) (k : Int) : Bool :=
  let below := if m = Nat.pow 2 52 ∧ -1074 < q then 4 * m - 1 else 4 * m - 2
  let above := 4 * m + 2
  match compareScaled a k below (q - 2), compareScaled a k above (q - 2) with
  | .gt, .lt => true
  | .eq, _ => m % 2 == 0
  | _, .eq => m % 2 == 0
  | _, _ => false

/-- The point of the grid of multiples of `10 ^ k` that reads back as `m · 2 ^ q`, the nearer one
where there are two and the even one of two equally near. -/
def onGrid (m : Nat) (q k : Int) : Option Scientific :=
  let a := floorScaled m q k
  match readsBack m q a k, readsBack m q (a + 1) k with
  | true, true =>
    match compareScaled (2 * a + 1) k (2 * m) q with
    | .gt => some ⟨a, k⟩
    | .lt => some ⟨a + 1, k⟩
    | .eq => some ⟨if a % 2 = 0 then a else a + 1, k⟩
  | true, false => some ⟨a, k⟩
  | false, true => some ⟨a + 1, k⟩
  | false, false => none

/-- The number `p` with `10 ^ (p - 1) ≤ m · 2 ^ q < 10 ^ p`, for a positive double. -/
def magnitude (m : Nat) (q : Int) : Int :=
  ((Nat.toDigits 10 (floorScaled m q (-400))).length : Int) - 400

/-- Takes the zeros off the end of a coefficient. -/
def Scientific.strip (s : Scientific) : Scientific :=
  if h : 0 < s.coefficient ∧ s.coefficient % 10 = 0 then
    Scientific.strip ⟨s.coefficient / 10, s.exponent + 1⟩
  else s
termination_by s.coefficient
decreasing_by exact Nat.div_lt_self h.1 (by decide)

/-- The shortest decimal that reads back as the positive double `m · 2 ^ q`. -/
def shortest (m : Nat) (q : Int) : Scientific :=
  let p := magnitude m q
  let grids := (List.range 17).map fun n : Nat => p - (n + 1 : Nat)
  ((grids.findSome? (onGrid m q)).getD ⟨floorScaled m q (p - 17), p - 17⟩).strip

end Tocsin.Decimal
