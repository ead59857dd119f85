import Tocsin.Json.Basic
import Tocsin.Decimal.Numeral

/-!
# Reading JSON

A text is cut into tokens, and a machine with a stack of half-read arrays and objects takes the
tokens one by one.  Both fail on the first thing that does not fit.  Besides the grammar of JSON the
names `NaN`, `Infinity` and `-Infinity` are read as numbers.
-/

set_option autoImplicit false

namespace Tocsin.Json

open Tocsin.Text Tocsin.Decimal

/-- A token of a JSON text. -/
inductive Token where
  | openArray
  | closeArray
  | openObject
  | closeObject
  | comma
  | colon
  /-- A string. -/
  | text (s : List Char)
  /-- A number or a name. -/
  | atom (v : Json)

/-- The number that four hexadecimal digits denote. -/
def unit? (a b c d : Char) : Option Nat := do
  let digits ← [a, b, c, d].mapM hexDigit?
  return ofDigits 16 digits

/-- The character that an escape of one letter denotes. -/
def shortEscape? (c : Char) : Option Char :=
  match c with
  | '"' => some '"'
  | '\\' => some '\\'
  | '/' => some '/'
  | 'b' => some (Char.ofNat 8)
  | 'f' => some (Char.ofNat 12)
  | 'n' => some '\n'
  | 'r' => some '\r'
  | 't' => some '\t'
  | _ => none

/-- Cuts a string up to its closing mark into sixteen-bit units and characters; the units of an
escaped character are joined by `joinUnits`. -/
def readString : List Char → Option (List (Nat ⊕ Char) × List Char)
  | [] => none
  | '"' :: rest => some ([], rest)
  | '\\' :: 'u' :: a :: b :: c :: d :: rest =>
    match unit? a b c d, readString rest with
    | some n, some (units, tail) => some (.inl n :: units, tail)
    | _, _ => none
  | '\\' :: c :: rest =>
    match shortEscape? c, readString rest with
    | some c, some (units, tail) => some (.inr c :: units, tail)
    | _, _ => none
  | c :: rest =>
    if c = '\\' ∨ c.toNat < 0x20 then none
    else (readString rest).map fun p => (.inr c :: p.1, p.2)

/-- What follows a string is shorter than the text that it is cut off. -/
theorem readString_length {cs tail : List Char} {units : List (Nat ⊕ Char)}
    (h : readString cs = some (units, tail)) : tail.length < cs.length := by
  fun_induction readString cs generalizing units tail with
  | case1 | case4 | case6 | case7 => cases h
  | case2 rest => cases h; simp
  | case3 a b c d rest n units' tail' hr hu ih =>
    cases h
    have := ih hr
    simp only [List.length_cons]; omega
  | case5 c rest _ c' units' tail' hr hc ih =>
    cases h
    have := ih hr
    simp only [List.length_cons]; omega
  | case8 c rest _ _ _ _ ih =>
    obtain ⟨p, hp, hq⟩ := Option.map_eq_some_iff.1 h
    cases hq
    have := ih hp
    simp only [List.length_cons]; omega

/-- Joins the two halves of a character outside the first sixteen bits; a half that stands alone is
replaced. -/
def joinUnits : List (Nat ⊕ Char) → List Char
  | [] => []
  | .inr c :: rest => c :: joinUnits rest
  | .inl high :: .inl low :: rest =>
    if 0xd800 ≤ high ∧ high < 0xdc00 ∧ 0xdc00 ≤ low ∧ low < 0xe000 then
      Char.ofNat (0x10000 + (high - 0xd800) * 0x400 + (low - 0xdc00)) :: joinUnits rest
    else single high :: joinUnits (.inl low :: rest)
  | .inl n :: rest => single n :: joinUnits rest
where
  /-- The character of a unit that stands alone. -/
  single (n : Nat) : Char :=
    if 0xd800 ≤ n ∧ n < 0xe000 then Char.ofNat 0xfffd else Char.ofNat n

/-- Whether a character can stand in a number or a name. -/
def isAtomChar (c : Char) : Bool :=
  isAsciiLetter c || isAsciiDigit c || c == '-' || c == '+' || c == '.'

/-- Whether digits are the whole part of a number: a zero, or no zero in front. -/
def isWhole : List Char → Bool
  | [] => false
  | ['0'] => true
  | c :: rest => c != '0' && isAsciiDigit c && rest.all isAsciiDigit

/-- Whether a text is the end of a number: a fraction or an exponent or both. -/
def isTail (cs : List Char) : Bool :=
  match cs with
  | '.' :: rest =>
    !(rest.takeWhile isAsciiDigit).isEmpty
      && (readExponent? (rest.dropWhile isAsciiDigit)).isSome
  | rest => (readExponent? rest).isSome

/-- The longest run of digits that is read as an integer. -/
def maxDigits : Nat := 4300

/-- Reads a number. -/
def readNumber? (cs : List Char) : Option Json :=
  let negative := cs.head? = some '-'
  let body := if negative then cs.drop 1 else cs
  let whole := body.takeWhile isAsciiDigit
  let tail := body.dropWhile isAsciiDigit
  if !isWhole whole then none
  else if tail.isEmpty then
    if maxDigits < whole.length then none
    else
      let n : Int := digitsNumber whole
      some (.int (if negative then -n else n))
  else if isTail tail then
    (readScientific? body).map fun s =>
      .float (if negative then -(toFloat s) else toFloat s)
  else none

/-- Reads a number or a name. -/
def readAtom? (cs : List Char) : Option Json :=
  match String.ofList cs with
  | "null" => some .null
  | "true" => some (.bool true)
  | "false" => some (.bool false)
  | "NaN" => some (.float (0.0 / 0.0))
  | "Infinity" => some (.float (1.0 / 0.0))
  | "-Infinity" => some (.float (-1.0 / 0.0))
  | _ => readNumber? cs

/-- The tokens of a text. -/
def tokens? (cs : List Char) : Option (List Token) :=
  match cs with
  | [] => some []
  | c :: rest =>
    if c = ' ' ∨ c = '\t' ∨ c = '\n' ∨ c = '\r' then tokens? rest
    else if c = '[' then (tokens? rest).map (.openArray :: ·)
    else if c = ']' then (tokens? rest).map (.closeArray :: ·)
    else if c = '\x7b' then (tokens? rest).map (.openObject :: ·)
    else if c = '\x7d' then (tokens? rest).map (.closeObject :: ·)
    else if c = ',' then (tokens? rest).map (.comma :: ·)
    else if c = ':' then (tokens? rest).map (.colon :: ·)
    else if c = '"' then
      match h : readString rest with
      | none => none
      | some (units, tail) =>
        have := readString_length h
        (tokens? tail).map (.text (joinUnits units) :: ·)
    else if isAtomChar c then
      match readAtom? (c :: rest.takeWhile isAtomChar) with
      | none => none
      | some v => (tokens? (rest.dropWhile isAtomChar)).map (.atom v :: ·)
    else none
termination_by cs.length
decreasing_by
  all_goals simp only [List.length_cons]
  all_goals
    have := (List.dropWhile_suffix (l := rest) isAtomChar).length_le
    omega

/-- A half-read array or object; what has been read of it is in reverse. -/
inductive Frame where
  | array (items : List Json)
  /-- An object whose next value belongs to the name. -/
  | object (members : List (List Char × Json)) (name : List Char)

/-- What the machine is ready for. -/
inductive Mode where
  /-- A value. -/
  | value
  /-- A value or the end of the array that was just opened. -/
  | firstItem
  /-- A name, in an object with these members. -/
  | name (members : List (List Char × Json))
  /-- A name or the end of the object that was just opened. -/
  | firstName
  /-- The colon behind a name. -/
  | colon (members : List (List Char × Json)) (name : List Char)
  /-- What may follow a value. -/
  | after (v : Json)

/-- The state of the machine that reads tokens. -/
structure Machine where
  stack : List Frame
  mode : Mode

/-- Takes one token. -/
def Machine.step (m : Machine) (t : Token) : Option Machine :=
  match m.mode, t with
  | .value, .openArray => some ⟨m.stack, .firstItem⟩
  | .value, .openObject => some ⟨m.stack, .firstName⟩
  | .value, .text s => some ⟨m.stack, .after (.text s)⟩
  | .value, .atom v => some ⟨m.stack, .after v⟩
  | .firstItem, .closeArray => some ⟨m.stack, .after (.array [])⟩
  | .firstItem, .openArray => some ⟨.array [] :: m.stack, .firstItem⟩
  | .firstItem, .openObject => some ⟨.array [] :: m.stack, .firstName⟩
  | .firstItem, .text s => some ⟨.array [] :: m.stack, .after (.text s)⟩
  | .firstItem, .atom v => some ⟨.array [] :: m.stack, .after v⟩
  | .firstName, .closeObject => some ⟨m.stack, .after (.object [])⟩
  | .firstName, .text s => some ⟨m.stack, .colon [] s⟩
  | .name members, .text s => some ⟨m.stack, .colon members s⟩
  | .colon members s, .colon => some ⟨.object members s :: m.stack, .value⟩
  | .after v, .comma =>
    match m.stack with
    | .array items :: stack => some ⟨.array (v :: items) :: stack, .value⟩
    | .object members s :: stack => some ⟨stack, .name ((s, v) :: members)⟩
    | [] => none
  | .after v, .closeArray =>
    match m.stack with
    | .array items :: stack => some ⟨stack, .after (.array (v :: items).reverse)⟩
    | _ => none
  | .after v, .closeObject =>
    match m.stack with
    | .object members s :: stack =>
      some ⟨stack, .after (.object ((s, v) :: members).reverse)⟩
    | _ => none
  | _, _ => none

/-- The value that a text denotes. -/
def read? (cs : List Char) : Option Json := do
  let tokens ← tokens? cs
  let m ← tokens.foldlM Machine.step ⟨[], .value⟩
  match m.stack, m.mode with
  | [], .after v => some v
  | _, _ => none

end Tocsin.Json
