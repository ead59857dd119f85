import Tocsin.Decimal.Notation
import Tocsin.Text.Digit

/-!
# JSON texts

A JSON value and the two ways in which this library writes one.  Message bodies are compact and keep
every character that need not be escaped; log lines have a space behind commas and colons and escape
every character outside printable ASCII, in two halves where it does not fit sixteen bits.
-/

set_option autoImplicit false

namespace Tocsin

/-- A JSON value.  The members of an object are in the order in which they are written. -/
inductive Json where
  | null
  | bool (b : Bool)
  | int (n : Int)
  | float (x : Float)
  | text (s : List Char)
  | array (items : List Json)
  | object (members : List (List Char × Json))
  deriving Inhabited

namespace Json

open Tocsin.Text

/-- How a JSON value is laid out. -/
structure Layout where
  /-- Stands between two items. -/
  comma : List Char
  /-- Stands between a name and its value. -/
  colon : List Char
  /-- Whether characters outside printable ASCII are escaped although they need not be. -/
  asciiOnly : Bool
  deriving DecidableEq, Repr

/-- Without any space, and with all characters that need no escape as they are. -/
def Layout.compact : Layout := ⟨[','], [':'], false⟩

/-- With spaces, and in ASCII. -/
def Layout.spaced : Layout := ⟨[',', ' '], [':', ' '], true⟩

/-- The escape of a number of sixteen bits. -/
def escapeUnit (n : Nat) : List Char := '\\' :: 'u' :: hexDigits 4 n

/-- The escape of a character by its code point, in two halves when it has more than sixteen bits.
-/
def escapeCode (n : Nat) : List Char :=
  if n < 0x10000 then escapeUnit n
  else
    escapeUnit (0xd800 + (n - 0x10000) / 0x400) ++ escapeUnit (0xdc00 + (n - 0x10000) % 0x400)

/-- A character as it stands inside a JSON string. -/
def escape (asciiOnly : Bool) (c : Char) : List Char :=
  if c = '"' then ['\\', '"']
  else if c = '\\' then ['\\', '\\']
  else if c = '\n' then ['\\', 'n']
  else if c = '\r' then ['\\', 'r']
  else if c = '\t' then ['\\', 't']
  else if c.toNat = 8 then ['\\', 'b']
  else if c.toNat = 12 then ['\\', 'f']
  else if c.toNat < 0x20 ∨ (asciiOnly ∧ 0x7e < c.toNat) then escapeCode c.toNat
  else [c]

/-- A text as a JSON string. -/
def quote (asciiOnly : Bool) (cs : List Char) : List Char :=
  '"' :: cs.flatMap (escape asciiOnly) ++ ['"']

/-- A double as JSON writes it; there are names for the ones that are not finite. -/
def floatText (x : Float) : List Char :=
  match Decimal.Binary.ofFloat x with
  | .nan => "NaN".toList
  | .infinite negative => Decimal.signText negative ++ "Infinity".toList
  | exact => exact.text

mutual

/-- Writes a value. -/
def write (layout : Layout) : Json → List Char
  | null => "null".toList
  | bool true => "true".toList
  | bool false => "false".toList
  | int n => decimalText n
  | float x => floatText x
  | text s => quote layout.asciiOnly s
  | array items => '[' :: writeItems layout items ++ [']']
  | object members => '\x7b' :: writeMembers layout members ++ ['\x7d']

/-- Writes the items of an array, with commas between them. -/
def writeItems (layout : Layout) : List Json → List Char
  | [] => []
  | [v] => write layout v
  | v :: vs => write layout v ++ layout.comma ++ writeItems layout vs

/-- Writes the members of an object, with commas between them. -/
def writeMembers (layout : Layout) : List (List Char × Json) → List Char
  | [] => []
  | [(k, v)] => quote layout.asciiOnly k ++ layout.colon ++ write layout v
  | (k, v) :: rest =>
    quote layout.asciiOnly k ++ layout.colon ++ write layout v ++ layout.comma
      ++ writeMembers layout rest

end

end Json

end Tocsin
