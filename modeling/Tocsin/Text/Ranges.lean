/-!
# Sets of code points as ranges

The character properties that this library needs are unions of a few hundred closed ranges of code
points.  A property is kept as the list of those ranges and decided by `inRanges`; a property that
sends a code point to another one (a case mapping) is kept as a list of `Shift`s and applied by
`shift?`.
-/

set_option autoImplicit false

namespace Tocsin.Text

/-- Whether `n` lies in one of the closed ranges. -/
def inRanges (ranges : List (Nat × Nat)) (n : Nat) : Bool :=
  ranges.any fun r => r.1 ≤ n && n ≤ r.2

/-- A number is in ranges if one of them has it. -/
theorem inRanges_iff {ranges : List (Nat × Nat)} {n : Nat} :
    inRanges ranges n = true ↔ ∃ r ∈ ranges, r.1 ≤ n ∧ n ≤ r.2 := by
  simp [inRanges]

/-- A run of code points `first`, `first + step`, …, `last` that all move by the same distance. -/
structure Shift where
  first : Nat
  last : Nat
  step : Nat
  distance : Int
  deriving DecidableEq, Repr

/-- Whether a code point belongs to the run. -/
def Shift.covers (s : Shift) (n : Nat) : Bool :=
  s.first ≤ n && n ≤ s.last && (n - s.first) % s.step == 0

/-- Where the first run that covers `n` sends it. -/
def shift? (table : List Shift) (n : Nat) : Option Nat :=
  (table.find? (·.covers n)).map fun s => ((n : Int) + s.distance).toNat

end Tocsin.Text
