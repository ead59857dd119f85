/-!
# Grids of characters

A set of some thousand characters is laid out as a grid.  Bytes name the row and the cell of a
character; cells may be empty.
-/

set_option autoImplicit false

namespace Tocsin.Text.Coding

/-- The character that stands for what cannot be read, and for nothing in a table. -/
def replacement : Char := Char.ofNat 0xfffd

/-- Rows of characters, of which those before the first one and behind the last one are empty. -/
structure Grid where
  /-- The number of the first row. -/
  first : Nat
  rows : List String

/-- The character in a cell. -/
def Grid.char? (g : Grid) (row cell : Nat) : Option Char :=
  if row < g.first then none
  else do
    let c ← (← g.rows[row - g.first]?).toList[cell]?
    if c = replacement then none else some c

/-- The row or the cell that a byte names in a grid of 94 rows with 94 cells: they are numbered by
the bytes from 0x21 on. -/
def place? (b : UInt8) : Option Nat :=
  if 0x21 ≤ b.toNat ∧ b.toNat ≤ 0x7e then some (b.toNat - 0x21) else none

/-- The row or the cell that a byte with its highest bit names: they are numbered from 0xa1 on. -/
def highPlace? (b : UInt8) : Option Nat :=
  if 0xa1 ≤ b.toNat ∧ b.toNat ≤ 0xfe then some (b.toNat - 0xa1) else none

end Tocsin.Text.Coding
