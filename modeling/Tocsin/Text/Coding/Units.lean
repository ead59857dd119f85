import Tocsin.Text.Coding.Reading
import Tocsin.Text.Digit

/-!
# Units of two or four bytes

A character is written as a number of four bytes, or as one or two numbers of two bytes.  The order
of the bytes is fixed by the charset, or a byte order mark in front announces it.
-/

set_option autoImplicit false

namespace Tocsin.Text.Coding

/-- The number of a unit. -/
def unitNumber (bigEndian : Bool) (unit : List UInt8) : Nat :=
  ofDigits 256 ((if bigEndian then unit else unit.reverse).map UInt8.toNat)

/-- Reads units of two bytes.  A high half takes the low half behind it; where the bytes end too
soon, all that is left is one piece that stands for nothing. -/
def readUnits16 (bigEndian : Bool) : List UInt8 → Reading
  | a :: b :: rest =>
    let high := unitNumber bigEndian [a, b]
    if high < 0xd800 ∨ 0xdfff < high then .char (Char.ofNat high) :: readUnits16 bigEndian rest
    else if 0xdbff < high then
      .illFormed (rest.length + 2) 2 "illegal encoding" :: readUnits16 bigEndian rest
    else
      match rest with
      | c :: d :: rest' =>
        let low := unitNumber bigEndian [c, d]
        if 0xdc00 ≤ low ∧ low ≤ 0xdfff then
          .char (Char.ofNat (0x10000 + (high - 0xd800) * 0x400 + (low - 0xdc00)))
            :: readUnits16 bigEndian rest'
        else
          .illFormed (rest'.length + 4) 2 "illegal UTF-16 surrogate"
            :: readUnits16 bigEndian (c :: d :: rest')
      | _ => [.illFormed (rest.length + 2) (rest.length + 2) "unexpected end of data"]
  | [_] => [.illFormed 1 1 "truncated data"]
  | [] => []

/-- Reads units of four bytes. -/
def readUnits32 (bigEndian : Bool) : List UInt8 → Reading
  | a :: b :: c :: d :: rest =>
    let n := unitNumber bigEndian [a, b, c, d]
    (if n.isValidChar then .char (Char.ofNat n)
      else
        .illFormed (rest.length + 4) 4
          (if n < 0x110000 then "code point in surrogate code point range (0xd800..0xdfff)"
            else "code point not in range(0x110000)"))
      :: readUnits32 bigEndian rest
  | [] => []
  | bytes => [.illFormed bytes.length bytes.length "truncated data"]

/-- Reads units of a width. -/
def readUnits (width : Nat) (bigEndian : Bool) (bytes : List UInt8) : Reading :=
  if width = 2 then readUnits16 bigEndian bytes else readUnits32 bigEndian bytes

/-- The order of bytes that a mark in front announces. -/
def announcedOrder? (width : Nat) (bytes : List UInt8) : Option Bool :=
  let first := bytes.take width
  if first.length < width then none
  else if unitNumber false first = 0xfeff then some false
  else if unitNumber true first = 0xfeff then some true
  else none

/-- Reads units whose order a mark announces.  Bytes that are too few for a mark need none; others
are read to their end before the mark is missed. -/
def readMarkedUnits (width : Nat) (bytes : List UInt8) : Reading :=
  match announcedOrder? width bytes with
  | some bigEndian => readUnits width bigEndian (bytes.drop width)
  | none =>
    readUnits width false bytes ++ if bytes.length < width then [] else [.stop (.unmarked width)]

end Tocsin.Text.Coding
