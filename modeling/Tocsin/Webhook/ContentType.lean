import Tocsin.Decimal.Numeral
import Tocsin.Text.Blank
import Tocsin.Text.Charset
import Tocsin.Text.Cut

/-!
# Content types

A content type is a list of items between semicolons, of which those after the first are mostly
parameters: a name, an equals sign and a value, which may be quoted.  A semicolon between quotes
does not end an item, and a quote behind a backslash does not count.

The value of a parameter may come in pieces.  Their names end with a star, or with a star and a
number, and behind a number a second star says that the piece has percent signs for bytes.  With
such a piece among them, the joined pieces are a text with its charset and its language in front.
`charsetName?` finds the value of the parameter `charset`; one that is given whole wins over pieces.
-/

set_option autoImplicit false

namespace Tocsin.Webhook.ContentType

open Tocsin.Text

/-- Whether the quotes in a text are left open; `escaped` says that a backslash stands in front. -/
def leavesOpen (escaped isOpen : Bool) : List Char → Bool
  | [] => isOpen
  | c :: cs => leavesOpen (c == '\\') (if c == '"' && !escaped then !isOpen else isOpen) cs

/-- Joins the pieces between semicolons until the quotes are closed. -/
def joinQuoted : List (List Char) → List (List Char)
  | [] => []
  | [piece] => [piece]
  | piece :: next :: rest =>
    if leavesOpen false false piece then joinQuoted ((piece ++ ';' :: next) :: rest)
    else piece :: joinQuoted (next :: rest)
termination_by pieces => pieces.length

/-- An item as a name and a value.  The name is put in lower case, but not that of an item without a
value, which is taken for an empty one. -/
def parameter (item : List Char) : List Char × List Char :=
  match cutFirst '=' item with
  | (name, some value) => (lowerAscii (trim isSpacing name), trim isSpacing value)
  | (name, none) => (trim isSpacing name, [])

/-- Takes the backslash away in front of each character of the given kind. -/
def unescapeOnly (kind : Char) : List Char → List Char
  | '\\' :: c :: cs =>
    if c = kind then kind :: unescapeOnly kind cs else '\\' :: unescapeOnly kind (c :: cs)
  | c :: cs => c :: unescapeOnly kind cs
  | [] => []
termination_by cs => cs.length

/-- A value without its quotes or angle brackets. -/
def unquoted (value : List Char) : List Char :=
  let inner := (value.drop 1).dropLast
  if value.length < 2 then value
  else if value.head? = some '"' ∧ value.getLast? = some '"' then
    unescapeOnly '"' (unescapeOnly '\\' inner)
  else if value.head? = some '<' ∧ value.getLast? = some '>' then inner
  else value

/-- Why a content type cannot be read. -/
inductive Fault where
  /-- Some pieces of a value have numbers and some do not; the first one has, or has not. -/
  | mixed (firstNumbered : Bool)
  /-- The number of a piece has so many digits, and thus too many. -/
  | longNumber (digits : Nat)
  /-- The name of a charset holds a character with the code 0. -/
  | nulInName
  /-- The charset of a value, with the name it is given, breaks down. -/
  | coding (charset : String) (fault : Coding.Fault)
  deriving DecidableEq, Repr

/-- The wording of a fault. -/
def Fault.message : Fault → String
  | mixed true => "'<' not supported between instances of 'NoneType' and 'int'"
  | mixed false => "'<' not supported between instances of 'int' and 'NoneType'"
  | longNumber digits =>
    s!"Exceeds the limit ({Decimal.maxDigits} digits) for integer string conversion: "
      ++ s!"value has {digits} digits; use sys.set_int_max_str_digits() to increase the limit"
  | nulInName => "embedded null character"
  | coding charset fault =>
    "decoding with '" ++ charset ++ "' codec failed (RuntimeError: " ++ fault.message ++ ")"

/-! ## Pieces -/

/-- A piece of a value. -/
structure Piece where
  /-- Its place among the pieces; a piece without one is the whole value. -/
  number : Option Nat
  text : List Char
  /-- Whether it has percent signs for bytes. -/
  isEncoded : Bool
  deriving DecidableEq, Repr

/-- The name of a piece: that of the parameter it belongs to, and the digits of its number, none for
a piece without one. -/
structure PieceName where
  parameter : List Char
  digits : List Char

/-- Whether a character may stand in the name of a parameter that comes in pieces. -/
def inPieceName (c : Char) : Bool := isAsciiLetter c || isAsciiDigit c || c == '_'

/-- A name as that of a piece. -/
def pieceName? (name : List Char) : Option PieceName :=
  let front := name.takeWhile inPieceName
  match name.dropWhile inPieceName with
  | '*' :: rest =>
    let digits := rest.takeWhile isAsciiDigit
    let tail := rest.dropWhile isAsciiDigit
    if front.isEmpty || (tail ≠ [] && (tail ≠ ['*'] || digits.isEmpty)) then none
    else some ⟨front, digits⟩
  | _ => none

/-- The parameter that a piece with a name belongs to, and the piece. -/
def readPiece (name : PieceName) (item : List Char × List Char) :
    Except Fault (List Char × Piece) :=
  if Decimal.maxDigits < name.digits.length then .error (.longNumber name.digits.length)
  else
    let number :=
      if name.digits.isEmpty then none
      else some (ofDigits 10 (name.digits.filterMap asciiDigit?))
    .ok (name.parameter, ⟨number, unquoted item.2, item.1.getLast? = some '*'⟩)

/-- The pieces among items. -/
def piecesOf (items : List (List Char × List Char)) : Except Fault (List (List Char × Piece)) :=
  (items.filterMap fun item => (pieceName? item.1).map fun name => (name, item)).mapM
    fun (name, item) => readPiece name item

/-- Whether a text comes before another one or is the same. -/
def textLe : List Char → List Char → Bool
  | [], _ => true
  | _ :: _, [] => false
  | a :: as, b :: bs => if a = b then textLe as bs else a.toNat < b.toNat

/-- Whether a piece comes before another one: by the numbers, then by the texts, then those without
percent signs for bytes. -/
def Piece.le (p q : Piece) : Bool :=
  if p.number ≠ q.number then p.number.getD 0 ≤ q.number.getD 0
  else if p.text ≠ q.text then textLe p.text q.text
  else !p.isEncoded || q.isEncoded

/-- Refuses pieces of which only some have numbers. -/
def checkNumbers (pieces : List Piece) : Except Fault Unit :=
  match pieces with
  | [] => .ok ()
  | first :: rest =>
    if rest.all fun p => p.number.isSome == first.number.isSome then .ok ()
    else .error (.mixed first.number.isSome)

/-- A text with its percent signs and the two hexadecimal digits behind them read as characters. -/
def percentDecoded : List Char → List Char
  | '%' :: a :: b :: rest =>
    match hexDigit? a, hexDigit? b with
    | some m, some n => Char.ofNat (m * 16 + n) :: percentDecoded rest
    | _, _ => '%' :: percentDecoded (a :: b :: rest)
  | c :: rest => c :: percentDecoded rest
  | [] => []
termination_by cs => cs.length

/-- The value of a parameter. -/
inductive Value where
  | plain (text : List Char)
  /-- A text whose characters are bytes, and the name of the charset that they are read with, if
  there is one. -/
  | labelled (charset : List Char) (text : List Char)
  deriving DecidableEq, Repr

/-- The value that pieces come to in their order.  The charset and the language stand in front
between apostrophes; a text without two of these has neither. -/
def joined (pieces : List Piece) : Value :=
  let text := (pieces.mergeSort Piece.le).flatMap fun p =>
    if p.isEncoded then percentDecoded p.text else p.text
  if !pieces.any (·.isEncoded) then .plain text
  else
    match cutFirst '\'' text with
    | (charset, some rest) =>
      match cutFirst '\'' rest with
      | (_, some rest) => .labelled charset rest
      | _ => .labelled [] text
    | _ => .labelled [] text

/-- The values in pieces, by the names of their parameters in the order in which they are first met.
-/
def joinedValues (pieces : List (List Char × Piece)) : Except Fault (List (List Char × Value)) :=
  let names := (pieces.map (·.1)).eraseDups
  names.mapM fun name => do
    let own := (pieces.filter (·.1 == name)).map (·.2)
    checkNumbers own
    return (name, joined own)

/-! ## The charset -/

/-- The text of a value.  Bytes that the charset cannot read, or whose charset is not known, stand
for characters with their numbers. -/
def Value.text : Value → Except Fault (List Char)
  | plain text => .ok text
  | labelled charset text =>
    let name := if charset.isEmpty then "ascii" else String.ofList charset
    if charset.contains (Char.ofNat 0) then .error .nulInName
    else
      let bytes := text.map fun c => c.toNat.toUInt8
      match Charset.ofName? name with
      | none => .ok text
      | some found =>
        match (found.forBytes bytes).decodeStrict bytes with
        | .ok decoded => .ok decoded
        | .error .misplaced => .error (.coding name .misplaced)
        | .error _ => .ok text

/-- The name of the charset that a content type gives, in lower case; a name outside ASCII is none.
The first item is never a piece. -/
def charsetName? (contentType : String) : Except Fault (Option String) := do
  let items := (joinQuoted (splitAt ';' contentType.toList)).map parameter
  let first := items.take 1
  let others := items.drop 1
  let whole := (first ++ others.filter fun item => (pieceName? item.1).isNone).map fun item =>
    (item.1, Value.plain (unquoted item.2))
  let values := whole ++ (← piecesOf others >>= joinedValues)
  match values.find? fun entry => lowerAscii entry.1 == "charset".toList with
  | none => return none
  | some (_, value) =>
    let name ← value.text
    return if name.all fun c => c.toNat < 0x80 then some (String.ofList (lowerAscii name)) else none

end Tocsin.Webhook.ContentType
