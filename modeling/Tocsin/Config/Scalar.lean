import Tocsin.Config.Issue
import Tocsin.Decimal.Numeral
import Tocsin.Text.Utf8

/-!
# Reading scalars

Readers turn a raw value into a text, a truth value, an integer or a double, and say what is wrong
where they cannot.  They are lenient: a byte string stands for the text that it encodes, a text for
the number or truth value that it spells, a truth value for one or zero, and a double without
fraction for the integer that it is.
-/

set_option autoImplicit false

namespace Tocsin.Config

open Tocsin.Text Tocsin.Decimal

/-- A reader of raw values. -/
abbrev Reader (α : Type) := Value → Checked α

/-- Reads a text. -/
def readText : Reader String
  | .text s => .ok s
  | v@(.bytes b) =>
    match Utf8.decode? b with
    | some cs => .ok (String.ofList cs)
    | none => .fail .stringUnicode v
  | v => .fail .stringType v

/-- The truth value that a word means, in any letter case. -/
def truthOfWord? (cs : List Char) : Option Bool :=
  match String.ofList (lowerAscii cs) with
  | "0" | "off" | "f" | "false" | "n" | "no" => some false
  | "1" | "on" | "t" | "true" | "y" | "yes" => some true
  | _ => none

/-- The least and the greatest integer of 64 bits. -/
def fitsLong (n : Int) : Bool := -0x8000000000000000 ≤ n && n < 0x8000000000000000

/-- The truth value that a number means: only zero and one mean any. -/
def truthOfNumber? (n : Int) : Option Bool :=
  if n = 0 then some false else if n = 1 then some true else none

/-- Turns the result of a look-up into an outcome. -/
def orFail {α : Type} (kind : Issue.Kind) (v : Value) : Option α → Checked α
  | some a => .ok a
  | none => .fail kind v

/-- The integer that a double is, if it is one of less than 64 bits. -/
def integerOfFloat (v : Value) (x : Float) : Checked Int :=
  let exact := Binary.ofFloat x
  if !exact.isFinite then .fail .finiteNumber v
  else
    match exact.integer? with
    | none => .fail .intFromFloat v
    | some n =>
      if -0x8000000000000000 < n ∧ n < 0x8000000000000000 then .ok n else .fail .intTooLarge v

/-- Reads a truth value. -/
def readBool : Reader Bool
  | .bool b => .ok b
  | v@(.text s) => orFail .boolParsing v (truthOfWord? s.toList)
  | v@(.bytes b) => orFail .boolParsing v ((Utf8.decode? b).bind truthOfWord?)
  | v@(.int n) =>
    if fitsLong n then orFail .boolParsing v (truthOfNumber? n) else .fail .boolType v
  | v@(.float x) =>
    match integerOfFloat v x with
    | .ok n => orFail .boolParsing v (truthOfNumber? n)
    | .error _ => .fail .boolType v
  | v => .fail .boolType v

/-- Reads the integer that a text spells. -/
def integerOfText (v : Value) (cs : List Char) : Checked Int :=
  match readInteger cs with
  | .value n => .ok n
  | .tooLong => .fail .intTooLarge v
  | .malformed => .fail .intParsing v

/-- Reads an integer. -/
def readInt : Reader Int
  | .int n => .ok n
  | .bool b => .ok b.toInt
  | v@(.float x) => integerOfFloat v x
  | v@(.text s) => integerOfText v s.toList
  | v@(.bytes b) =>
    match Utf8.decode? b with
    | some cs => integerOfText v cs
    | none => .fail .intParsing v
  | v => .fail .intType v

/-- Reads an integer that must not lie below a minimum. -/
def readIntFrom (minimum : Int) : Reader { n : Int // minimum ≤ n } := fun v =>
  match readInt v with
  | .ok n => if h : minimum ≤ n then .ok ⟨n, h⟩ else .fail (.belowMinimum minimum) v
  | .error issues => .error issues

/-- The double nearest to an integer, unless it is too large for one. -/
def floatOfInt? (n : Int) : Option Float :=
  let x := Float.ofInt n
  if (Binary.ofFloat x).isFinite then some x else none

/-- Reads a double. -/
def readFloat : Reader Float
  | .float x => .ok x
  | .bool b => .ok (if b then 1 else 0)
  | v@(.int n) => orFail .floatType v (floatOfInt? n)
  | v@(.text s) => orFail .floatParsing v (readFloat? s.toList)
  | v@(.bytes b) => orFail .floatParsing v ((Utf8.decode? b).bind readFloat?)
  | v => .fail .floatType v

/-- Reads a value that may be null. -/
def readOptional {α : Type} (read : Reader α) : Reader (Option α)
  | .null => .ok none
  | v => (read v).map some

/-- Reads the one text that is allowed. -/
def readLiteral (expected : String) : Reader Unit
  | v@(.text s) => if s = expected then .ok () else .fail (.literal expected) v
  | v => .fail (.literal expected) v

/-- Reads the items of a sequence, the first of which has the given index. -/
def readItems {α : Type} (read : Reader α) (index : Nat) : List Value → Checked (List α)
  | [] => .ok []
  | v :: vs =>
    ((Checked.under (.index index) (read v)).both (readItems read (index + 1) vs)).map
      fun p => p.1 :: p.2

/-- Reads a sequence. -/
def readSequence {α : Type} (read : Reader α) : Reader (List α) := fun v =>
  match v.items? with
  | some items => readItems read 0 items
  | none => .fail .tupleType v

end Tocsin.Config
