import Tocsin.Text.Coding.JapaneseTable
import Tocsin.Text.Coding.Reading

/-!
# Charsets of Japan

The Japanese sets are grids of 94 rows with 94 cells.  In one family of charsets, two bytes with
their highest bits name a row and a cell of the first set, and a third byte in front leads to the
second set.  In the other family, the second byte takes almost all values, so that each first byte
serves two rows.  Both families write the half-width syllables in a way of their own.
-/

set_option autoImplicit false

namespace Tocsin.Text.Coding

/-- The editions of the extended sets; the second one has ten more characters in its first plane. -/
inductive JapaneseEdition where
  | first
  | second
  deriving DecidableEq, Repr

/-- The sets of Japanese characters. -/
inductive JapaneseSet where
  /-- The basic set, together with the supplement where there is a place for it. -/
  | basic
  /-- The basic set with the additions of some makers of systems. -/
  | makers
  /-- Both planes of the extended sets. -/
  | extended (edition : JapaneseEdition)
  deriving DecidableEq, Repr

/-- The cells of the first plane that the first edition lacks. -/
def lateCells : List (Nat × Nat) :=
  [(13, 0), (14, 93), (46, 51), (46, 93), (83, 6), (93, 89), (93, 90), (93, 91), (93, 92),
   (93, 93)]

/-- Whether an edition lacks a cell of the first plane. -/
def JapaneseEdition.lacks (edition : JapaneseEdition) (row cell : Nat) : Bool :=
  edition == .first && lateCells.contains (row, cell)

/-- The text in a cell of the first plane. -/
def firstPlane? (row cell : Nat) : Option (List Char) :=
  (((japaneseBasic.char? row cell).or (japaneseFirstPlane.char? row cell)).map ([·])).or
    (japanesePairs.lookup (row, cell))

/-- The character in a cell of the second plane; one has changed from edition to edition. -/
def JapaneseEdition.secondPlane? (edition : JapaneseEdition) (row cell : Nat) : Option Char :=
  if edition = .first ∧ row = 92 ∧ cell = 26 then some '鬝' else japaneseSecondPlane.char? row cell

/-- The half-width syllable of a byte. -/
def halfWidth? (b : UInt8) : Option Char :=
  if 0xa1 ≤ b.toNat ∧ b.toNat ≤ 0xdf then some (Char.ofNat (0xfec0 + b.toNat)) else none

/-- The front of so many bytes, given the text that they stand for. -/
def frontOfSize (size : Nat) : Option (List Char) → Front Unit
  | some text => .read size text ()
  | none => .illFormed 1

/-! ## Bytes with their highest bits -/

/-- The front of two bytes of the first set. -/
def JapaneseSet.packedPair (set : JapaneseSet) (a b : UInt8) : Front Unit :=
  match highPlace? a, highPlace? b with
  | some row, some cell =>
    match set with
    | .extended edition =>
      if edition.lacks row cell then .illFormed 2 else frontOfPair (firstPlane? row cell)
    | _ => frontOfPair ((japaneseBasic.char? row cell).map ([·]))
  | _, _ => .illFormed 1

/-- The character of two bytes of the second set. -/
def JapaneseSet.packedSecond? (set : JapaneseSet) (a b : UInt8) : Option Char := do
  let row ← highPlace? a
  let cell ← highPlace? b
  match set with
  | .extended edition =>
    (edition.secondPlane? row cell).or (japaneseSupplement.char? row cell)
  | _ => japaneseSupplement.char? row cell

/-- What stands at the front of bytes: the byte 0x8e leads to a half-width syllable and 0x8f to the
second set. -/
def JapaneseSet.packedFront (set : JapaneseSet) : Unit → UInt8 → List UInt8 → Front Unit
  | (), a, rest =>
    match ascii? a, rest with
    | some x, _ => .read 1 [x] ()
    | none, [] => .unfinished
    | none, b :: rest =>
      if a = 0x8e then frontOfPair ((halfWidth? b).map ([·]))
      else if a = 0x8f then
        match rest with
        | [] => .unfinished
        | c :: _ => frontOfSize 3 ((set.packedSecond? b c).map ([·]))
      else set.packedPair a b

/-! ## Second bytes of almost all values -/

/-- The row and the cell of two bytes: each first byte serves two rows, up to the row 119. -/
def shiftedPlace? (a b : UInt8) : Option (Nat × Nat) :=
  let (a, b) := (a.toNat, b.toNat)
  let place (row : Nat) : Option (Nat × Nat) :=
    if 0x40 ≤ b ∧ b ≤ 0x7e then some (row + (b - 0x40) / 94, (b - 0x40) % 94)
    else if 0x80 ≤ b ∧ b ≤ 0xfc then some (row + (b - 0x41) / 94, (b - 0x41) % 94)
    else none
  if 0x81 ≤ a ∧ a ≤ 0x9f then place (2 * (a - 0x81))
  else if 0xe0 ≤ a ∧ a ≤ 0xfc then place (2 * (a - 0xc1))
  else none

/-- The characters of the first two rows that some makers have replaced. -/
def makersCells : List ((Nat × Nat) × Char) :=
  [((0, 32), '～'), ((0, 33), '∥'), ((0, 60), '－'), ((0, 80), '￠'), ((0, 81), '￡'),
   ((1, 43), '￢')]

/-- The character in a cell of the basic set with the additions of makers.  The rows 94 to 113 are
left to the user. -/
def makersChar? (row cell : Nat) : Option Char :=
  (makersCells.lookup (row, cell)).or <|
    if 94 ≤ row ∧ row < 114 then some (Char.ofNat (0xe000 + (row - 94) * 94 + cell))
    else (japaneseMakers.findSome? (·.char? row cell)).or (japaneseBasic.char? row cell)

/-- The row of the second plane that a row from 94 on stands for. -/
def secondPlaneRow (row : Nat) : Nat :=
  if row = 95 then 7
  else if row < 99 then row - 94
  else if row < 103 then row - 88
  else row - 26

/-- The front of two bytes in a cell. -/
def JapaneseSet.shiftedCell (set : JapaneseSet) (row cell : Nat) : Front Unit :=
  match set with
  | .basic => frontOfPair ((japaneseBasic.char? row cell).map ([·]))
  | .makers => frontOfPair ((makersChar? row cell).map ([·]))
  | .extended edition =>
    if row = 0 ∧ cell = 31 then .read 2 ['\\'] ()
    else if row = 1 ∧ cell = 17 then .read 2 ['~'] ()
    else if row < 94 then
      if edition.lacks row cell then .illFormed 2 else frontOfPair (firstPlane? row cell)
    else frontOfPair ((edition.secondPlane? (secondPlaneRow row) cell).map ([·]))

/-- The character of a byte that stands alone. -/
def JapaneseSet.single? (set : JapaneseSet) (a : UInt8) : Option Char :=
  let usual := (ascii? a).or (halfWidth? a)
  match set with
  | .basic => usual
  | .makers =>
    match a.toNat with
    | 0x80 => some (Char.ofNat 0x80)
    | 0xa0 => some (Char.ofNat 0xf8f0)
    | 0xfd => some (Char.ofNat 0xf8f1)
    | 0xfe => some (Char.ofNat 0xf8f2)
    | 0xff => some (Char.ofNat 0xf8f3)
    | _ => usual
  | .extended _ =>
    match a.toNat with
    | 0x5c => some '¥'
    | 0x7e => some '‾'
    | _ => usual

/-- Whether a byte may be the first one of two. -/
def isShiftedLead (a : UInt8) : Bool :=
  (0x81 ≤ a && a ≤ 0x9f) || (0xe0 ≤ a && a ≤ 0xfc)

/-- What stands at the front of bytes. -/
def JapaneseSet.shiftedFront (set : JapaneseSet) (s : Unit) (a : UInt8) (rest : List UInt8) :
    Front Unit :=
  if (set.single? a).isNone && !isShiftedLead a then .illFormed 1
  else
    pairFront set.single?
      (fun a b =>
        match shiftedPlace? a b with
        | some (row, cell) => set.shiftedCell row cell
        | none => .illFormed 1)
      s a rest

end Tocsin.Text.Coding
