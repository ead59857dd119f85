import Tocsin.Text.Coding.Chinese
import Tocsin.Text.Coding.Japanese
import Tocsin.Text.Coding.Korean
import Tocsin.Text.Coding.SingleByteTable

/-!
# Charsets that designate sets

Texts of seven bits switch between sets of characters.  An escape sequence designates a set as the
first, the second or the third one in use.  Bytes stand for characters of the first set, or of the
second one between two marks; a mark in front of a single byte takes a character of the third set.
A charset of this kind is told by the sets that may be designated and by the marks that it knows.
-/

set_option autoImplicit false

namespace Tocsin.Text.Coding

/-- The sets that can be designated. -/
inductive CodedSet where
  | ascii
  /-- The second half of the Latin set. -/
  | latin
  /-- The second half of the Greek set. -/
  | greek
  /-- The half-width syllables. -/
  | halfWidth
  /-- ASCII with two other characters. -/
  | roman
  | chinese
  /-- The basic Japanese set, under its present or its former mark. -/
  | japanese (former : Bool)
  | korean
  /-- The Japanese supplement. -/
  | supplement
  | firstPlane (edition : JapaneseEdition)
  | secondPlane
  deriving DecidableEq, Repr

namespace CodedSet

/-- Whether two bytes stand for a character. -/
def isWide : CodedSet → Bool
  | ascii | latin | greek | halfWidth | roman => false
  | _ => true

/-- The last byte of the escape sequences that designate a set. -/
def mark : CodedSet → UInt8
  | ascii => 0x42
  | latin => 0x41
  | greek => 0x46
  | halfWidth => 0x49
  | roman => 0x4a
  | chinese => 0x41
  | japanese false => 0x42
  | japanese true => 0x40
  | korean => 0x43
  | supplement => 0x44
  | firstPlane .first => 0x4f
  | firstPlane .second => 0x51
  | secondPlane => 0x50

/-- The text of a byte of a set of single bytes.  The sets that only the mark of the third set can
reach have none. -/
def single? (set : CodedSet) (a : UInt8) : Option (List Char) :=
  match set with
  | ascii => some [Char.ofNat a.toNat]
  | roman => some [if a = 0x5c then '¥' else if a = 0x7e then '‾' else Char.ofNat a.toNat]
  | halfWidth => (halfWidth? (a + 0x80)).map ([·])
  | _ => none

/-- The text in a cell of a grid. -/
def cell? (set : CodedSet) (row cell : Nat) : Option (List Char) :=
  match set with
  | japanese _ => (japaneseBasic.char? row cell).map ([·])
  | korean => (Coding.korean.char? row cell).map ([·])
  | supplement => (japaneseSupplement.char? row cell).map ([·])
  | firstPlane edition =>
    if row = 1 ∧ cell = 17 then some ['~']
    else if edition.lacks row cell then none
    else firstPlane? row cell
  | secondPlane => (japaneseSecondPlane.char? row cell).map ([·])
  | _ => none

/-- The text of two bytes. -/
def pair? (set : CodedSet) (a b : UInt8) : Option (List Char) :=
  match set with
  | chinese => (ChineseSet.low? a b).map ([·])
  | _ => do set.cell? (← place? a) (← place? b)

/-- The character of a byte as one of the third set; the outer none says that the set has no place
for it.  The Greek set is in its first edition. -/
def third? (set : CodedSet) (a : UInt8) : Option (Option Char) :=
  match set with
  | ascii => some (ascii? a)
  | latin => some ((ascii? a).map fun c => Char.ofNat (c.toNat + 0x80))
  | greek =>
    if 0x80 ≤ a.toNat then some (some (Char.ofNat (a.toNat - 0x80)))
    else if a = 0x24 ∨ a = 0x25 ∨ a = 0x2a then some none
    else
      some (((singleByteTables.lookup "iso8859_7").bind (·.toList[a.toNat]?)).filter
        (· ≠ replacement))
  | _ => none

end CodedSet

/-- A charset that designates sets. -/
structure Designating where
  /-- The sets that may be designated, besides ASCII. -/
  sets : List CodedSet
  /-- Whether marks lead to the second set and back. -/
  shifts : Bool
  /-- Whether a third set is in use. -/
  third : Bool
  /-- Whether the basic Japanese set may be designated behind a mark for its edition. -/
  editionMark : Bool
  deriving DecidableEq, Repr

/-- Where reading is: which sets are in use, whether the second one is, and whether an escape
sequence without a meaning is being passed. -/
structure Designated where
  first : CodedSet
  second : CodedSet
  third : CodedSet
  isSecond : Bool
  passing : Bool
  deriving DecidableEq, Repr

/-- At the start all sets are ASCII. -/
def Designated.start : Designated := ⟨.ascii, .ascii, .ascii, false, false⟩

/-- Whether a byte ends an escape sequence. -/
def endsEscape (b : UInt8) : Bool := 0x40 ≤ b.toNat && b.toNat ≤ 0x5a

namespace Designating

/-- How long an escape sequence is of which `count` bytes are passed: 0 where it has no end within
sixteen bytes, and none where the bytes end too soon. -/
def escapeSize? (charset : Designating) (count : Nat) : List UInt8 → Option Nat
  | [] => if 16 ≤ count then some 0 else none
  | b :: rest =>
    if 16 ≤ count then some 0
    else if endsEscape b then some (count + 1)
    else if charset.editionMark ∧ b = 0x26 ∧ rest.head? = some 0x40 then
      charset.escapeSize? (count + 3) (rest.drop 2)
    else charset.escapeSize? (count + 1) rest
termination_by bytes => bytes.length
decreasing_by all_goals (simp only [List.length_cons, List.length_drop]; omega)

/-- The set that a mark designates. -/
def setOf? (charset : Designating) (isWide : Bool) (mark : UInt8) : Option CodedSet :=
  (CodedSet.ascii :: charset.sets).find? fun set => set.isWide == isWide && set.mark == mark

/-- The state behind an escape sequence, given the bytes behind its first one. -/
def designate? (charset : Designating) (s : Designated) (sequence : List UInt8) :
    Option Designated :=
  let first (isWide : Bool) (mark : UInt8) : Option Designated :=
    (charset.setOf? isWide mark).map fun set => { s with first := set }
  let second (isWide : Bool) (mark : UInt8) : Option Designated :=
    (charset.setOf? isWide mark).map fun set => { s with second := set }
  match sequence with
  | [0x24, mark] => first true mark
  | [0x28, mark] => first false mark
  | [0x29, mark] => second false mark
  | [0x2e, mark] =>
    if charset.third then (charset.setOf? false mark).map fun set => { s with third := set }
    else none
  | [0x24, 0x28, mark] => first true mark
  | [0x24, 0x29, mark] => second true mark
  | [_, _, 0x1b, 0x24, 0x42] => if charset.editionMark then first true 0x42 else none
  | _ => none

/-- What stands at the front behind an escape byte. -/
def escapeFront (charset : Designating) (s : Designated) (rest : List UInt8) : Front Designated :=
  match rest with
  | [] => .unfinished
  | b :: _ =>
    if [0x28, 0x29, 0x24, 0x2e, 0x26].contains b then
      match charset.escapeSize? 1 rest with
      | none => .unfinished
      | some 0 => .illFormed 1
      | some size =>
        match charset.designate? s (rest.take (size - 1)) with
        | some next => .read size [] next
        | none => .illFormed size
    else if charset.third ∧ b = 0x4e then
      match rest with
      | _ :: c :: _ =>
        match s.third.third? c with
        | some (some x) => .read 3 [x] s
        | some none => .illFormed 3
        | none => .misplaced
      | _ => .unfinished
    else .read 1 [Char.ofNat 0x1b] { s with passing := true }

/-- What stands at the front of bytes of a set. -/
def setFront (s : Designated) (a : UInt8) (rest : List UInt8) : Front Designated :=
  let set := if s.isSecond then s.second else s.first
  if set.isWide then
    match rest with
    | [] => .unfinished
    | b :: _ =>
      match set.pair? a b with
      | some text => .read 2 text s
      | none => .illFormed 2
  else
    match set.single? a with
    | some text => .read 1 text s
    | none => .illFormed 1

/-- What stands at the front of bytes.  A line break leads back to the first set. -/
def front (charset : Designating) (s : Designated) (a : UInt8) (rest : List UInt8) :
    Front Designated :=
  if s.passing then
    .read 1 [Char.ofNat a.toNat] { s with passing := !endsEscape a }
  else if a = 0x1b then charset.escapeFront s rest
  else if charset.shifts ∧ a = 0x0f then .read 1 [] { s with isSecond := false }
  else if charset.shifts ∧ a = 0x0e then .read 1 [] { s with isSecond := true }
  else if a = 0x0a then .read 1 ['\n'] { s with isSecond := false }
  else if a.toNat < 0x20 then .read 1 [Char.ofNat a.toNat] s
  else if 0x80 ≤ a.toNat then .illFormed 1
  else setFront s a rest

/-! ## The charsets -/

/-- The Japanese charset with the basic set. -/
def japanese : Designating := ⟨[.japanese false, .roman, .japanese true], false, false, true⟩

/-- With the supplement. -/
def japaneseSupplemented : Designating :=
  { japanese with sets := [.japanese false, .supplement, .roman, .japanese true] }

/-- With sets of other languages. -/
def japaneseAbroad : Designating :=
  ⟨[.japanese false, .supplement, .korean, .chinese, .roman, .japanese true, .latin, .greek],
   false, true, true⟩

/-- With the extended sets. -/
def japaneseExtended (edition : JapaneseEdition) : Designating :=
  { japanese with sets := [.japanese false, .firstPlane edition, .secondPlane] }

/-- With the supplement and the half-width syllables. -/
def japaneseHalfWidth : Designating :=
  { japanese with sets := [.japanese false, .supplement, .roman, .halfWidth, .japanese true] }

/-- The Korean charset. -/
def korean : Designating := ⟨[.korean], true, false, false⟩

end Designating

end Tocsin.Text.Coding
