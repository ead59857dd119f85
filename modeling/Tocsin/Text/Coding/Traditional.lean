import Tocsin.Text.Coding.Reading
import Tocsin.Text.Coding.TraditionalTable

/-!
# Charsets of traditional Chinese

A basic set of traditional Chinese characters and two sets that extend it are written in two bytes a
character.  The set for Hong Kong gives some pairs of bytes a meaning of its own and leaves others
without one.
-/

set_option autoImplicit false

namespace Tocsin.Text.Coding

/-- The sets of traditional Chinese characters. -/
inductive TraditionalSet where
  | basic
  /-- With the changes of some makers of systems. -/
  | makers
  | hongKong
  deriving DecidableEq, Repr

/-- The row and the cell that two bytes name: each first byte has a row for the second bytes below
0x80 and one for those above. -/
def traditionalPlace? (a b : UInt8) : Option (Nat × Nat) :=
  let (a, b) := (a.toNat, b.toNat)
  if a < 0x81 ∨ 0xfe < a then none
  else if 0x40 ≤ b ∧ b ≤ 0x7e then some (2 * (a - 0x81), b - 0x40)
  else if 0xa1 ≤ b ∧ b ≤ 0xfe then some (2 * (a - 0x81) + 1, b - 0xa1)
  else none

/-- The character of two bytes in a table. -/
def traditionalChar? (g : Grid) (a b : UInt8) : Option Char :=
  (traditionalPlace? a b).bind fun (row, cell) => g.char? row cell

/-- Whether the set for Hong Kong takes nothing from the basic set for two bytes. -/
def isHongKongOnly (a b : UInt8) : Bool :=
  (a.toNat = 0xc6 && 0xa1 ≤ b.toNat) || a.toNat = 0xc7 || a.toNat = 0xc8

namespace TraditionalSet

/-- The text of two bytes. -/
def pair? (set : TraditionalSet) (a b : UInt8) : Option (List Char) :=
  let basicText := (traditionalChar? traditionalBasic a b).map ([·])
  match set with
  | .basic => basicText
  | .makers => ((traditionalMakers.lookup (a.toNat, b.toNat)).map ([·])).or basicText
  | .hongKong =>
    ((traditionalChar? traditionalHongKong a b).map ([·])).or <|
      (traditionalPairs.lookup (a.toNat, b.toNat)).or <|
        if isHongKongOnly a b then none else basicText

/-- What stands at the front of bytes. -/
def front (set : TraditionalSet) : Unit → UInt8 → List UInt8 → Front Unit :=
  pairFront ascii? fun a b => frontOfPair (set.pair? a b)

end TraditionalSet

end Tocsin.Text.Coding
