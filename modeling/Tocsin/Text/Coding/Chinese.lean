import Tocsin.Text.Coding.ChineseTable
import Tocsin.Text.Coding.Reading
import Tocsin.Text.Ranges

/-!
# Charsets of China

Three sets of Chinese characters contain one another.  All of them write a character outside ASCII
in two bytes, the largest one some characters in four.  In a text of seven bits, the characters of
the smallest set stand between marks that start with a tilde.
-/

set_option autoImplicit false

namespace Tocsin.Text.Coding

/-- The sets of Chinese characters; each contains the one before. -/
inductive ChineseSet where
  | gb2312
  | gbk
  | gb18030
  deriving DecidableEq, Repr

/-- The running number of a pair of bytes in the tables. -/
def pairNumber? (a b : UInt8) : Option Nat :=
  let row := a.toNat
  let column := b.toNat
  if row < 0x81 ∨ 0xfe < row then none
  else if 0x40 ≤ column ∧ column ≤ 0x7e then some ((row - 0x81) * 190 + (column - 0x40))
  else if 0x80 ≤ column ∧ column ≤ 0xfe then some ((row - 0x81) * 190 + (column - 0x41))
  else none

namespace ChineseSet

/-- The character of two bytes. -/
def pair? (set : ChineseSet) (a b : UInt8) : Option Char := do
  let n ← pairNumber? a b
  let c ← (← chineseRows[n / 190]?).toList[n % 190]?
  match set with
  | .gb18030 => some c
  | .gbk => if inRanges lackedByGbk n then none else some c
  | .gb2312 =>
    if !inRanges heldByGb2312 n then none
    else if c.toNat = 0xb7 then some (Char.ofNat 0x30fb)
    else if c.toNat = 0x2014 then some (Char.ofNat 0x2015)
    else some c

/-- The character of four bytes. -/
def quad? (a b c d : UInt8) : Option Char :=
  let (a, b, c, d) := (a.toNat, b.toNat, c.toNat, d.toNat)
  if a < 0x81 ∨ 0xfe < a ∨ c < 0x81 ∨ 0xfe < c ∨ d < 0x30 ∨ 0x39 < d then none
  else
    let tail := (b - 0x30) * 1260 + (c - 0x81) * 10 + (d - 0x30)
    if a < 0x85 then
      let n := (a - 0x81) * 12600 + tail
      if n < 39420 then
        ((fourByteRuns.filter fun run => run.1 ≤ n).getLast?).map fun run =>
          Char.ofNat (run.2 + (n - run.1))
      else none
    else if 0x90 ≤ a then
      let n := 0x10000 + (a - 0x90) * 12600 + tail
      if n ≤ 0x10ffff then some (Char.ofNat n) else none
    else none

/-- What stands at the front of bytes.  A digit as the second byte announces four bytes in the
largest set. -/
def front (set : ChineseSet) : Unit → UInt8 → List UInt8 → Front Unit
  | (), a, rest =>
    match ascii? a, rest with
    | some x, _ => .read 1 [x] ()
    | none, [] => .unfinished
    | none, b :: rest =>
      if set = .gb18030 ∧ 0x30 ≤ b.toNat ∧ b.toNat ≤ 0x39 then
        match rest with
        | c :: d :: _ =>
          match quad? a b c d with
          | some x => .read 4 [x] ()
          | none => .illFormed 1
        | _ => .unfinished
      else frontOfPair ((set.pair? a b).map ([·]))

/-- What stands at the front of bytes that name the row and the cell of a character of the smallest
set without their highest bits. -/
def low? (a b : UInt8) : Option Char :=
  if a.toNat < 0x80 ∧ b.toNat < 0x80 then gb2312.pair? (a + 0x80) (b + 0x80) else none

end ChineseSet

/-- What stands at the front of bytes where `~{` leads from ASCII to pairs of bytes and `~}` back;
`inPairs` tells where reading is. -/
def tildeFront (inPairs : Bool) (a : UInt8) (rest : List UInt8) : Front Bool :=
  if 0x80 ≤ a.toNat then .illFormed 1
  else if a = 0x7e then
    match rest with
    | [] => .unfinished
    | b :: _ =>
      match inPairs, b.toNat with
      | false, 0x7e => .read 2 ['~'] false
      | false, 0x7b => .read 2 [] true
      | false, 0x0a => .read 2 [] false
      | true, 0x7d => .read 2 [] false
      | _, _ => .illFormed 1
  else if inPairs then
    match rest with
    | [] => .unfinished
    | b :: _ =>
      match ChineseSet.low? a b with
      | some c => .read 2 [c] true
      | none => .illFormed 1
  else .read 1 [Char.ofNat a.toNat] false

end Tocsin.Text.Coding
