import Tocsin.Text.Coding.Reading

/-!
# Characters as sextets

In a text of seven bits, a plus sign starts a section in which each byte stands for six bits, and
the bits for units of sixteen bits.  The first byte that stands for no bits ends the section; a
hyphen there is no part of the text.  A plus sign with a hyphen behind it stands for itself.  The
bits that are left over at the end of a section must be fewer than six, and zeros.
-/

set_option autoImplicit false

namespace Tocsin.Text.Coding

/-- The six bits of a byte. -/
def sextet? (b : UInt8) : Option Nat :=
  let n := b.toNat
  if 0x41 ≤ n ∧ n ≤ 0x5a then some (n - 0x41)
  else if 0x61 ≤ n ∧ n ≤ 0x7a then some (n - 0x61 + 26)
  else if 0x30 ≤ n ∧ n ≤ 0x39 then some (n - 0x30 + 52)
  else if n = 0x2b then some 62
  else if n = 0x2f then some 63
  else none

/-- A section that is being read: how many bytes there are from its start on, how many bits wait,
their number, and a high half that waits for its low half. -/
structure Section where
  left : Nat
  count : Nat
  bits : Nat
  high : Option Nat
  deriving DecidableEq, Repr

namespace Section

/-- A section without anything in it. -/
def empty (left : Nat) : Section := ⟨left, 0, 0, none⟩

/-- The character of a unit; halves that stand alone have the replacement character. -/
def unitChar (unit : Nat) : Char :=
  if 0xd800 ≤ unit ∧ unit ≤ 0xdfff then replacement else Char.ofNat unit

/-- Takes in a unit of sixteen bits. -/
def takeUnit (s : Section) (unit : Nat) : Section × List Char :=
  match s.high with
  | some high =>
    if 0xdc00 ≤ unit ∧ unit ≤ 0xdfff then
      ({ s with high := none },
        [Char.ofNat (0x10000 + (high - 0xd800) * 0x400 + (unit - 0xdc00))])
    else if 0xd800 ≤ unit ∧ unit ≤ 0xdbff then ({ s with high := some unit }, [replacement])
    else ({ s with high := none }, [replacement, unitChar unit])
  | none =>
    if 0xd800 ≤ unit ∧ unit ≤ 0xdbff then ({ s with high := some unit }, [])
    else (s, [unitChar unit])

/-- Takes in six bits. -/
def takeSextet (s : Section) (n : Nat) : Section × List Char :=
  let count := s.count + 6
  let bits := s.bits * 64 + n
  if count < 16 then ({ s with count := count, bits := bits }, [])
  else
    let rest := Nat.pow 2 (count - 16)
    { s with count := count - 16, bits := bits % rest }.takeUnit (bits / rest)

/-- What is wrong with the bits that are left over where a section ends, if anything is. -/
def fault? (s : Section) : Option String :=
  if 6 ≤ s.count then some "partial character in shift sequence"
  else if s.bits ≠ 0 then some "non-zero padding bits in shift sequence"
  else none

/-- The piece of a section that stands for nothing, given how many bytes follow it. -/
def illFormed (s : Section) (left : Nat) (reason : String) : Piece :=
  .illFormed s.left (s.left - left) reason

end Section

/-- The reading of a byte outside sections, given how many bytes follow it. -/
def plainSextet (b : UInt8) (left : Nat) : Piece :=
  if b.toNat < 0x80 then .char (Char.ofNat b.toNat)
  else .illFormed (left + 1) 1 "unexpected special character"

/-- Reads bytes, given the section that reading is in. -/
def readSextets : Option Section → List UInt8 → Reading
  | none, [] => []
  | some s, [] =>
    if s.fault?.isNone && s.high.isNone then [] else [s.illFormed 0 "unterminated shift sequence"]
  | none, b :: rest =>
    if b = 0x2b then
      match rest with
      | 0x2d :: rest' => .char '+' :: readSextets none rest'
      | c :: rest' =>
        if (sextet? c).isSome then readSextets (some (.empty (rest.length + 1))) (c :: rest')
        else .illFormed (rest.length + 1) 2 "ill-formed sequence" :: readSextets none rest'
      | [] => readSextets (some (.empty 1)) []
    else plainSextet b rest.length :: readSextets none rest
  | some s, b :: rest =>
    match sextet? b, s.fault? with
    | some n, _ =>
      let (next, text) := s.takeSextet n
      .ofText text ++ readSextets (some next) rest
    | none, some reason => s.illFormed rest.length reason :: readSextets none rest
    | none, none =>
      let lone : Reading := if s.high.isSome && b.toNat < 0x80 then [.char replacement] else []
      if b = 0x2d then lone ++ readSextets none rest
      else lone ++ plainSextet b rest.length :: readSextets none rest
termination_by _ bytes => bytes.length

end Tocsin.Text.Coding
