import Tocsin.Text.CharacterName
import Tocsin.Text.Coding.Reading
import Tocsin.Text.Digit

/-!
# Characters as escape sequences

A text in which each byte stands for the character with its number, except that a backslash starts
an escape sequence.  The small form of the charset has escape sequences for the code of a character
in four or eight hexadecimal digits; the full form has many more.
-/

set_option autoImplicit false

namespace Tocsin.Text.Coding

/-- The character of a byte with the same number. -/
def latin (b : UInt8) : Char := Char.ofNat b.toNat

/-- The character with a code; the codes that no character has give the replacement character. -/
def codeChar (n : Nat) : Char := if n.isValidChar then Char.ofNat n else replacement

/-- The hexadecimal digits at the front of bytes, at most so many, as their values. -/
def hexFront : Nat → List UInt8 → List Nat
  | count + 1, b :: rest =>
    match hexDigit? (latin b) with
    | some d => d :: hexFront count rest
    | none => []
  | _, _ => []

/-- The octal digits at the front of bytes, at most so many, as their values. -/
def octalFront : Nat → List UInt8 → List Nat
  | count + 1, b :: rest =>
    if 0x30 ≤ b.toNat ∧ b.toNat ≤ 0x37 then (b.toNat - 0x30) :: octalFront count rest else []
  | _, _ => []

/-- What an escape sequence stands for, or why for nothing, and how many bytes belong to it behind
the first two. -/
structure Escape where
  text : Except String (List Char)
  size : Nat

/-- A code in so many hexadecimal digits.  Where digits are missing, those that there are belong to
an escape sequence that stands for nothing. -/
def codeEscape (count : Nat) (truncated outside : String) (bytes : List UInt8) : Escape :=
  let digits := hexFront count bytes
  let code := ofDigits 16 digits
  let text :=
    if digits.length < count then .error truncated
    else if 0x10ffff < code then .error outside
    else .ok [codeChar code]
  ⟨text, digits.length⟩

/-- A code in at most three octal digits, of which one is read. -/
def octalEscape (digit : Nat) (bytes : List UInt8) : Escape :=
  let digits := octalFront 2 bytes
  ⟨.ok [codeChar (ofDigits 8 (digit :: digits))], digits.length⟩

/-- A character by its name between braces. -/
def nameEscape (bytes : List UInt8) : Escape :=
  let malformed : Except String (List Char) := .error "malformed \\N character escape"
  match bytes with
  | 0x7b :: rest =>
    let name := rest.takeWhile (· ≠ 0x7d)
    if name.length = rest.length ∨ name.isEmpty then ⟨malformed, 1 + name.length⟩
    else
      let text : Except String (List Char) :=
        match CharacterName.find? (name.map latin) with
        | some c => .ok [c]
        | none => .error "unknown Unicode character name"
      ⟨text, 2 + name.length⟩
  | _ => ⟨malformed, 0⟩

/-- The characters that a letter behind a backslash stands for. -/
def letterEscapes : List (Char × Char) :=
  [('\\', '\\'), ('\'', '\''), ('"', '"'), ('b', '\x08'), ('f', '\x0c'), ('t', '\t'), ('n', '\n'),
   ('r', '\r'), ('v', '\x0b'), ('a', '\x07')]

/-- The escape sequence of a byte behind a backslash, with the bytes behind it. -/
def readEscape (full : Bool) (b : UInt8) (rest : List UInt8) : Escape :=
  let c := latin b
  let plain : Escape := ⟨.ok ['\\', c], 0⟩
  let outside := if full then "illegal Unicode character" else "\\Uxxxxxxxx out of range"
  if c = 'u' then codeEscape 4 "truncated \\uXXXX escape" outside rest
  else if c = 'U' then codeEscape 8 "truncated \\UXXXXXXXX escape" outside rest
  else if !full then plain
  else if c = '\n' then ⟨.ok [], 0⟩
  else if c = 'x' then codeEscape 2 "truncated \\xXX escape" outside rest
  else if c = 'N' then nameEscape rest
  else if 0x30 ≤ b.toNat ∧ b.toNat ≤ 0x37 then octalEscape (b.toNat - 0x30) rest
  else
    match letterEscapes.lookup c with
    | some x => ⟨.ok [x], 0⟩
    | none => plain

/-- Reads bytes with escape sequences.  A backslash at the end stands for nothing in the full form,
and for itself in the small one. -/
def readEscaped (full : Bool) : List UInt8 → Reading
  | [] => []
  | 0x5c :: b :: rest =>
    let escape := readEscape full b rest
    let pieces : Reading :=
      match escape.text with
      | .ok text => .ofText text
      | .error reason => [.illFormed (rest.length + 2) (escape.size + 2) reason]
    pieces ++ readEscaped full (rest.drop escape.size)
  | [0x5c] => [if full then .illFormed 1 1 "\\ at end of string" else .char '\\']
  | b :: rest => .char (latin b) :: readEscaped full rest
termination_by bytes => bytes.length
decreasing_by all_goals (simp only [List.length_cons, List.length_drop]; omega)

end Tocsin.Text.Coding
