import Tocsin.Config.Display
import Tocsin.Decimal.Numeral

/-!
# Templates of events

An event may be a template whose directives are filled from arguments.  A directive starts with a
percent sign; behind it may stand a key in round brackets, flags, a width, a precision and a size,
which counts for nothing, and then the letter that says how the argument is shown.  The arguments
are a tuple, taken one after the other, or a single value; from a mapping a directive with a key
takes the value under the key.  `fill` fills a template or names the first thing that does not fit.
-/

set_option autoImplicit false

namespace Tocsin.Log.Template

open Tocsin.Config Tocsin.Text Tocsin.Decimal

/-- The amounts that a directive may give. -/
inductive Amount where
  | width
  | precision
  deriving DecidableEq, Repr

/-- The name of an amount. -/
def Amount.name : Amount → String
  | width => "width"
  | precision => "precision"

/-- The size that an amount must fit. -/
def Amount.size : Amount → String
  | width => "ssize_t"
  | precision => "int"

/-- The least amount that is too large. -/
def Amount.limit : Amount → Nat
  | width => Nat.pow 2 63
  | precision => Nat.pow 2 31

/-- Why a template cannot be filled. -/
inductive Error where
  /-- The template ends inside a directive. -/
  | incomplete
  /-- The template ends inside a key. -/
  | incompleteKey
  /-- A directive has a key but the arguments are no mapping. -/
  | needsMapping
  /-- The mapping lacks a key. -/
  | missingKey (key : Value)
  /-- There are more directives than arguments. -/
  | tooFewArguments
  /-- There are more arguments than directives. -/
  | tooManyArguments
  /-- A width or a precision that is taken from the arguments is no integer. -/
  | widthNotInteger
  /-- A letter means nothing. -/
  | unknownLetter (letter : Char) (index : Nat)
  /-- An integer is needed. -/
  | needsInteger (letter : Char) (typeName : String)
  /-- A number is needed. -/
  | needsNumber (letter : Char) (typeName : String)
  /-- A number with a fraction is needed. -/
  | needsReal (typeName : String)
  /-- A character or its code is needed. -/
  | needsCharacter
  /-- A code belongs to no character. -/
  | codeOutOfRange
  /-- An infinite number has no integer part. -/
  | infiniteInteger
  /-- There is no integer part of what is not a number. -/
  | nanInteger
  /-- An integer is too large for a double. -/
  | integerTooLarge
  /-- A width or a precision is written with too many digits. -/
  | amountTooBig (amount : Amount)
  /-- A width or a precision from the arguments is too large. -/
  | amountTooLarge (amount : Amount)
  /-- The arguments are a value without a length. -/
  | noLength (typeName : String)
  /-- A sequence is asked for a key. -/
  | keyOfSequence (sequence key : String)

/-- A character as messages show it, if it is printable ASCII. -/
def shownLetter (c : Char) : Char := if 31 ≤ c.toNat ∧ c.toNat ≤ 126 then c else '?'

/-- The wording of an error. -/
def Error.message : Error → String
  | incomplete => "incomplete format"
  | incompleteKey => "incomplete format key"
  | needsMapping => "format requires a mapping"
  | missingKey key => key.display
  | tooFewArguments => "not enough arguments for format string"
  | tooManyArguments => "not all arguments converted during string formatting"
  | widthNotInteger => "* wants int"
  | unknownLetter letter index =>
    "unsupported format character '" ++ String.ofList [shownLetter letter] ++ "' (0x"
      ++ String.ofList (Nat.toDigits 16 letter.toNat) ++ ") at index "
      ++ String.ofList (decimalDigits index)
  | needsInteger letter typeName =>
    "%" ++ String.ofList [letter] ++ " format: an integer is required, not " ++ typeName
  | needsNumber letter typeName =>
    "%" ++ String.ofList [letter] ++ " format: a real number is required, not " ++ typeName
  | needsReal typeName => "must be real number, not " ++ typeName
  | needsCharacter => "%c requires int or char"
  | codeOutOfRange => "%c arg not in range(0x110000)"
  | infiniteInteger => "cannot convert float infinity to integer"
  | nanInteger => "cannot convert float NaN to integer"
  | integerTooLarge => "int too large to convert to float"
  | amountTooBig amount => amount.name ++ " too big"
  | amountTooLarge amount => "Python int too large to convert to C " ++ amount.size
  | noLength typeName => "object of type '" ++ typeName ++ "' has no len()"
  | keyOfSequence sequence key =>
    sequence ++ " indices must be integers or slices, not " ++ key

/-- What directives take their values from: what is left of a tuple, or one value, which may have
been taken already. -/
inductive Arguments where
  | many (rest : List Value)
  | one (v : Value) (taken : Bool)

/-- The source of values while a template is filled. -/
structure Source where
  arguments : Arguments
  /-- The value that keys are looked up in. -/
  keyed : Option Value

/-- Takes the next value. -/
def Source.next (s : Source) : Except Error (Value × Source) :=
  match s.arguments with
  | .many (v :: rest) => .ok (v, { s with arguments := .many rest })
  | .one v false => .ok (v, { s with arguments := .one v true })
  | _ => .error .tooFewArguments

/-- The value under a key becomes the one that is taken next. -/
def Source.select (s : Source) (key : String) : Except Error Source :=
  match s.keyed with
  | none => .error .needsMapping
  | some (.dict entries) =>
    match Mapping.get? key entries with
    | some v => .ok { s with arguments := .one v false }
    | none => .error (.missingKey (.text key))
  | some (.bytes _) => .error (.keyOfSequence "byte" "str")
  | some v => .error (.keyOfSequence v.typeName "str")

/-- The flags of a directive. -/
structure Flags where
  left : Bool
  sign : Bool
  blank : Bool
  alternate : Bool
  zero : Bool

/-- A directive without its letter. -/
structure Directive where
  flags : Flags
  width : Nat
  precision : Option Nat

/-- Reads flags. -/
def readFlags (f : Flags) : List Char → Flags × List Char
  | '-' :: cs => readFlags { f with left := true } cs
  | '+' :: cs => readFlags { f with sign := true } cs
  | ' ' :: cs => readFlags { f with blank := true } cs
  | '#' :: cs => readFlags { f with alternate := true } cs
  | '0' :: cs => readFlags { f with zero := true } cs
  | cs => (f, cs)

/-- Cuts a key at the bracket that closes it; brackets may be nested. -/
def readKey (depth : Nat) : List Char → Option (List Char × List Char)
  | [] => none
  | ')' :: cs =>
    match depth with
    | 0 => some ([], cs)
    | depth + 1 => (readKey depth cs).map fun p => (')' :: p.1, p.2)
  | '(' :: cs => (readKey (depth + 1) cs).map fun p => ('(' :: p.1, p.2)
  | c :: cs => (readKey depth cs).map fun p => (c :: p.1, p.2)

/-- An integer among the arguments. -/
def asWidth : Value → Except Error Int
  | .int n => .ok n
  | .bool b => .ok b.toInt
  | _ => .error .widthNotInteger

/-- Reads an amount: digits, or a star that takes it from the arguments. -/
def readAmount (amount : Amount) (s : Source) (cs : List Char) :
    Except Error (Int × Source × List Char) :=
  match cs with
  | '*' :: rest => do
    let (v, s) ← s.next
    let n ← asWidth v
    if n < -amount.limit ∨ amount.limit ≤ n then .error (.amountTooLarge amount)
    else return (n, s, rest)
  | _ =>
    let n := digitsNumber (cs.takeWhile isAsciiDigit)
    if amount.limit ≤ n then .error (.amountTooBig amount)
    else .ok (n, s, cs.dropWhile isAsciiDigit)

/-- Puts a number with its sign and, between them, its base into its width. -/
def layNumber (d : Directive) (negative : Bool) (base body : List Char) : List Char :=
  let sign :=
    if negative then ['-'] else if d.flags.sign then ['+'] else if d.flags.blank then [' '] else []
  let front := sign ++ base
  let gap := d.width - (front.length + body.length)
  if d.flags.left then front ++ body ++ List.replicate gap ' '
  else if d.flags.zero then front ++ List.replicate gap '0' ++ body
  else List.replicate gap ' ' ++ front ++ body

/-- Puts a text into its width. -/
def layText (d : Directive) (body : List Char) : List Char :=
  if d.flags.left then padRight d.width ' ' body else padLeft d.width ' ' body

/-- The integer that a directive shows, cut towards zero. -/
def asInteger (letter : Char) (wholeOnly : Bool) : Value → Except Error Int
  | .int n => .ok n
  | .bool b => .ok b.toInt
  | v@(.float x) =>
    if wholeOnly then .error (.needsInteger letter v.typeName)
    else
      match (Binary.ofFloat x).truncate? with
      | some n => .ok n
      | none =>
        match Binary.ofFloat x with
        | .nan => .error .nanInteger
        | _ => .error .infiniteInteger
  | v =>
    .error (if wholeOnly then .needsInteger letter v.typeName else .needsNumber letter v.typeName)

/-- The double that a directive shows. -/
def asReal : Value → Except Error Binary
  | .float x => .ok (.ofFloat x)
  | .bool b => .ok (.ofFloat (if b then 1 else 0))
  | .int n =>
    let exact := Binary.ofFloat (Float.ofInt n)
    if exact.isFinite then .ok exact else .error .integerTooLarge
  | v => .error (.needsReal v.typeName)

/-- A text in upper case as far as its letters are ASCII. -/
def upperAscii (cs : List Char) : List Char := cs.map Char.toUpper

/-- Shows an integer. -/
def showInteger (d : Directive) (letter : Char) (n : Int) : List Char :=
  let base := if letter = 'o' then 8 else if letter = 'x' ∨ letter = 'X' then 16 else 10
  let digits := Nat.toDigits base n.natAbs
  let digits := if letter = 'X' then upperAscii digits else digits
  let mark := if d.flags.alternate ∧ base ≠ 10 then ['0', letter] else []
  layNumber d (n < 0) mark (padLeft (d.precision.getD 0) '0' digits)

/-- Shows a double. -/
def showReal (d : Directive) (letter : Char) (x : Binary) : List Char :=
  let places := d.precision.getD 6
  let (negative, body) : Bool × List Char :=
    match x with
    | .nan => (false, "nan".toList)
    | .infinite negative => (negative, "inf".toList)
    | .finite negative m q =>
      (negative,
        match letter.toLower with
        | 'e' => exponential m q places d.flags.alternate
        | 'f' => fixed m q places d.flags.alternate
        | _ => general m q places d.flags.alternate)
  layNumber d negative [] (if letter.toLower = letter then body else upperAscii body)

/-- Escapes what is not ASCII. -/
def asciiOnly (cs : List Char) : List Char :=
  cs.flatMap fun c => if c.toNat < 0x80 then [c] else Literal.escapeCode c.toNat

/-- Shows a character or the one with a code. -/
def showCharacter (d : Directive) : Value → Except Error (List Char)
  | .text s => if s.length = 1 then .ok (layText d s.toList) else .error .needsCharacter
  | .int n =>
    if 0 ≤ n ∧ n < 0x110000 then .ok (layText d [Char.ofNat n.toNat]) else .error .codeOutOfRange
  | .bool b => .ok (layText d [Char.ofNat b.toNat])
  | _ => .error .needsCharacter

/-- Cuts a text at the precision of a directive. -/
def cutText (d : Directive) (cs : List Char) : List Char :=
  match d.precision with
  | some n => cs.take n
  | none => cs

/-- Shows a value as a letter says; `index` is the place of the letter in the template. -/
def showValue (d : Directive) (letter : Char) (index : Nat) (v : Value) :
    Except Error (List Char) :=
  match letter with
  | 's' => .ok (layText d (cutText d v.plain.toList))
  | 'r' => .ok (layText d (cutText d v.display.toList))
  | 'a' => .ok (layText d (cutText d (asciiOnly v.display.toList)))
  | 'd' | 'i' | 'u' => (asInteger letter false v).map (showInteger d letter)
  | 'o' | 'x' | 'X' => (asInteger letter true v).map (showInteger d letter)
  | 'e' | 'E' | 'f' | 'F' | 'g' | 'G' => (asReal v).map (showReal d letter)
  | 'c' => showCharacter d v
  | _ => .error (.unknownLetter letter index)

/-- Reads the part of a directive between its key and its letter. -/
def readShape (s : Source) (cs : List Char) : Except Error (Directive × Source × List Char) := do
  let (flags, cs) := readFlags ⟨false, false, false, false, false⟩ cs
  let (width, s, cs) ← readAmount .width s cs
  let flags := if width < 0 then { flags with left := true } else flags
  let (precision, s, cs) ←
    match cs with
    | '.' :: rest => do
      let (n, s, rest) ← readAmount .precision s rest
      pure (some n.toNat, s, rest)
    | _ => pure (none, s, cs)
  let cs :=
    match cs with
    | c :: rest => if c = 'h' ∨ c = 'l' ∨ c = 'L' then rest else cs
    | [] => cs
  return (⟨flags, width.natAbs, precision⟩, s, cs)

/-- Fills one directive behind its key. -/
def fillShaped (size : Nat) (s : Source) (cs : List Char) :
    Except Error (List Char × Source × List Char) := do
  let (d, s, cs) ← readShape s cs
  match cs with
  | [] => .error .incomplete
  | letter :: rest => do
    let (v, s) ← s.next
    let text ← showValue d letter (size - cs.length) v
    return (text, s, rest)

/-- Fills one directive, which starts behind its percent sign.  Two percent signs side by side stand
for one.  `size` is the length of the whole template. -/
def fillDirective (size : Nat) (s : Source) (cs : List Char) :
    Except Error (List Char × Source × List Char) :=
  match cs with
  | [] => .error .incomplete
  | '%' :: rest => .ok (['%'], s, rest)
  | '(' :: rest =>
    if s.keyed.isNone then .error .needsMapping
    else
      match readKey 0 rest with
      | none => .error .incompleteKey
      | some (key, rest) => do
        let s ← s.select (String.ofList key)
        fillShaped size s rest
  | _ => fillShaped size s cs

/-- Fills what is left of a template. -/
def fillFrom (size : Nat) (s : Source) (cs : List Char) : Except Error (List Char × Source) :=
  match cs with
  | [] => .ok ([], s)
  | '%' :: rest => do
    let (text, s, tail) ← fillDirective size s rest
    if _shorter : tail.length ≤ rest.length then
      let (more, s) ← fillFrom size s tail
      return (text ++ more, s)
    else return (text, s)
  | c :: rest => do
    let (more, s) ← fillFrom size s rest
    return (c :: more, s)
termination_by cs.length
decreasing_by all_goals (simp_all only [List.length_cons]; omega)

/-- Whether keys can be looked up in a value. -/
def isKeyed : Value → Bool
  | .dict _ => true
  | .list _ => true
  | .bytes _ => true
  | _ => false

/-- Whether arguments are left over. -/
def Source.hasRest (s : Source) : Bool :=
  s.keyed.isNone &&
  match s.arguments with
  | .many rest => !rest.isEmpty
  | .one _ taken => !taken

/-- Fills a template from arguments: a tuple, or a single value. -/
def fill (template : String) (arguments : Value) : Except Error String := do
  let source : Source :=
    match arguments with
    | .tuple items => ⟨.many items, none⟩
    | v => ⟨.one v false, if isKeyed v then some v else none⟩
  let cs := template.toList
  let (text, rest) ← fillFrom cs.length source cs
  if rest.hasRest then .error .tooManyArguments else .ok (String.ofList text)

/-- Fills a template from the arguments of a log call, where a single mapping that is not empty
stands for itself. -/
def fillEvent (template : String) (arguments : Value) : Except Error String :=
  match arguments with
  | .tuple [.dict (e :: es)] | .list [.dict (e :: es)] => fill template (.dict (e :: es))
  | .dict [(k, v)] =>
    if k.sameKey (.int 0) then
      match v with
      | .dict (e :: es) => fill template (.dict (e :: es))
      | _ => fill template arguments
    else .error (.missingKey (.int 0))
  | .bool _ | .int _ | .float _ | .null => .error (.noLength arguments.typeName)
  | .record r => .error (.noLength r.title)
  | v => fill template v

end Tocsin.Log.Template
