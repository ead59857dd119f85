import Tocsin.Text.Coding.Grid
import Tocsin.Text.Digit
import Tocsin.Text.Punycode

/-!
# Reading bytes from the front

Bytes are read front by front.  A front is a run of bytes that stands for characters, a piece that
stands for nothing, or the start of something that the bytes break off.  `readAll` reads all bytes,
given what stands at the front of some; a state carries over from front to front.  Its answer is a
`Reading`, from which a forgiving reader and a strict one each take what they need.
-/

set_option autoImplicit false

namespace Tocsin.Text.Coding

/-- Why bytes cannot be read. -/
inductive Fault where
  /-- In a charset with a name, bytes from a position on stand for nothing, for a reason. -/
  | illFormed (charset : String) (bytes : List UInt8) (position : Nat) (reason : String)
  /-- Units of so many bytes come without a mark that tells the order of bytes. -/
  | unmarked (width : Nat)
  /-- More than eight bytes are left over at the end. -/
  | leftOver
  /-- A character is taken from a set that has no place for it. -/
  | misplaced
  /-- The charset does not say what to put in the place of what cannot be read. -/
  | unforgiving
  /-- The digits of a text in Punycode cannot be read. -/
  | digits (fault : Punycode.Fault)
  /-- The charset reads nothing at all. -/
  | undefined
  /-- The charset turns texts, not bytes, into texts. -/
  | fromText
  /-- The charset turns bytes into bytes. -/
  | toBytes
  deriving DecidableEq, Repr

/-- The wording of a fault. -/
def Fault.message : Fault → String
  | illFormed charset bytes position reason =>
    "'" ++ charset ++ "' codec can't decode " ++
      (match bytes with
      | [b] => "byte 0x" ++ String.ofList (hexDigits 2 b.toNat) ++ s!" in position {position}"
      | _ => s!"bytes in position {position}-{position + bytes.length - 1}")
      ++ ": " ++ reason
  | unmarked width => s!"UTF-{8 * width} stream does not start with BOM"
  | leftOver => "pending buffer overflow"
  | misplaced => "internal codec error"
  | unforgiving => "Unsupported error handling replace"
  | digits fault => fault.message
  | undefined => "undefined encoding"
  | fromText => "descriptor 'translate' for 'str' objects doesn't apply to a 'bytes' object"
  | toBytes => ""

/-- What a piece of bytes is read as. -/
inductive Piece where
  | char (c : Char)
  /-- So many bytes, which start `left` bytes before the end, stand for nothing, for a reason. -/
  | illFormed (left size : Nat) (reason : String)
  /-- The last bytes, `left` of them, are broken off by the end. -/
  | unfinished (left : Nat)
  /-- Reading ends here. -/
  | stop (fault : Fault)
  deriving DecidableEq, Repr

/-- What bytes are read as, piece by piece. -/
abbrev Reading := List Piece

namespace Reading

/-- The reading of a text. -/
def ofText (text : List Char) : Reading := text.map .char

/-- The text with the replacement character for each piece that stands for nothing.  At most eight
bytes may be broken off by the end. -/
def forgiving : Reading → Except Fault (List Char)
  | [] => .ok []
  | .char c :: rest => (forgiving rest).map (c :: ·)
  | .illFormed .. :: rest => (forgiving rest).map (replacement :: ·)
  | .unfinished left :: _ => if 8 < left then .error .leftOver else .ok [replacement]
  | .stop fault :: _ => .error fault

/-- The text, if every piece stands for a character; else the fault of the first other piece, given
the name of the charset and the bytes. -/
def strict (charset : String) (bytes : List UInt8) : Reading → Except Fault (List Char)
  | [] => .ok []
  | .char c :: rest => (strict charset bytes rest).map (c :: ·)
  | .illFormed left size reason :: _ =>
    let position := bytes.length - left
    .error (.illFormed charset ((bytes.drop position).take size) position reason)
  | .unfinished left :: _ =>
    let position := bytes.length - left
    .error (.illFormed charset (bytes.drop position) position "incomplete multibyte sequence")
  | .stop fault :: _ => .error fault

end Reading

/-- What stands at the front of bytes. -/
inductive Front (σ : Type) where
  /-- The first bytes, `size` of them, stand for characters, perhaps for none, and reading goes on
  in the state `next`. -/
  | read (size : Nat) (text : List Char) (next : σ)
  /-- The first bytes, `size` of them, stand for nothing. -/
  | illFormed (size : Nat)
  /-- The bytes end too soon to tell. -/
  | unfinished
  /-- Reading cannot go on. -/
  | misplaced

/-- Reads all bytes, given what stands at the front of a first byte and those behind it. -/
def readAll {σ : Type} (front : σ → UInt8 → List UInt8 → Front σ) (s : σ) :
    List UInt8 → Reading
  | [] => []
  | b :: rest =>
    match front s b rest with
    | .read size text next => .ofText text ++ readAll front next (rest.drop (size - 1))
    | .illFormed size =>
      .illFormed (rest.length + 1) size "illegal multibyte sequence"
        :: readAll front s (rest.drop (size - 1))
    | .unfinished => [.unfinished (rest.length + 1)]
    | .misplaced => [.stop .misplaced]
termination_by bytes => bytes.length
decreasing_by all_goals (simp only [List.length_cons, List.length_drop]; omega)

/-! ## One byte a character -/

/-- Reads bytes that stand for a character each; those that do not share a reason. -/
def readSingles (char? : UInt8 → Option Char) (reason : String) : List UInt8 → Reading
  | [] => []
  | b :: rest =>
    (match char? b with
    | some c => .char c
    | none => .illFormed (rest.length + 1) 1 reason) :: readSingles char? reason rest

/-! ## One or two bytes a character -/

/-- The character of a byte in ASCII. -/
def ascii? (b : UInt8) : Option Char :=
  if b.toNat < 0x80 then some (Char.ofNat b.toNat) else none

/-- The front of two bytes, given the text that they stand for. -/
def frontOfPair : Option (List Char) → Front Unit
  | some text => .read 2 text ()
  | none => .illFormed 1

/-- What stands at the front where some bytes stand for a character each, and the others in pairs.
-/
def pairFront (single : UInt8 → Option Char) (pair : UInt8 → UInt8 → Front Unit) :
    Unit → UInt8 → List UInt8 → Front Unit
  | (), a, rest =>
    match single a, rest with
    | some c, _ => .read 1 [c] ()
    | none, b :: _ => pair a b
    | none, [] => .unfinished

end Tocsin.Text.Coding
