import Tocsin.Text.Blank
import Tocsin.Text.Digit

/-!
# Environment files

An environment file gives variables line by line as `NAME=value`, with an optional `export` in front
and a comment behind.  A value in single quotes is taken as it is, but for escaped quotes and
backslashes; one in double quotes may contain the usual escapes; both may run over several lines.  A
value without quotes ends before a number sign that follows space, and at the end of its line.  A
name without a value is unset.  Statements that fit no rule are skipped, and `faultyLines` tells
where they start.  Once the bindings are read, references of the form `$` and a name in braces are
replaced by what the name stands for, in the file so far or else in the environment.
-/

set_option autoImplicit false

namespace Tocsin.Settings.EnvFile

open Tocsin.Text

/-- A line that gives a name a value or unsets it. -/
structure Binding where
  name : List Char
  value : Option (List Char)
  deriving DecidableEq, Repr

/-- Whether a character is space within a line. -/
def isInline (c : Char) : Bool := isSpacing c && c != '\n' && c != '\r'

/-- Line ends are written as a single line feed. -/
def unifyLineEnds : List Char → List Char
  | [] => []
  | '\r' :: '\n' :: cs => '\n' :: unifyLineEnds cs
  | '\r' :: cs => '\n' :: unifyLineEnds cs
  | c :: cs => c :: unifyLineEnds cs

/-- What follows the rest of the line. -/
def skipLine (cs : List Char) : List Char := (cs.dropWhile (· ≠ '\n')).drop 1

/-- Skips the word `export` when space follows it. -/
def skipExport (cs : List Char) : List Char :=
  match cs with
  | 'e' :: 'x' :: 'p' :: 'o' :: 'r' :: 't' :: c :: rest =>
    if isInline c then rest.dropWhile isInline else cs
  | _ => cs

/-- Reads a name, or sees that the line is a comment.  It fails where a name cannot start. -/
def readName? (cs : List Char) : Option (Option (List Char) × List Char) :=
  match cs with
  | '#' :: _ => some (none, cs)
  | '\x27' :: rest =>
    let name := rest.takeWhile (· ≠ '\x27')
    match rest.dropWhile (· ≠ '\x27') with
    | [] => none
    | _ :: tail => if name.isEmpty then none else some (some name, tail)
  | _ =>
    let inName (c : Char) : Bool := c != '=' && c != '#' && !isSpacing c
    let name := cs.takeWhile inName
    if name.isEmpty then none else some (some name, cs.dropWhile inName)

/-- Cuts a quoted text at its closing mark: the first one that no backslash precedes.  A backslash
belongs to the character behind it. -/
def closeQuote (mark : Char) : List Char → Option (List Char × List Char)
  | [] => none
  | '\\' :: c :: cs => (closeQuote mark cs).map fun p => ('\\' :: c :: p.1, p.2)
  | c :: cs =>
    if c = '\\' then none
    else if c = mark then some ([], cs)
    else (closeQuote mark cs).map fun p => (c :: p.1, p.2)

/-- The character that an escape in double quotes denotes. -/
def doubleEscape? (c : Char) : Option Char :=
  match c with
  | '\\' => some '\\'
  | '\x27' => some '\x27'
  | '"' => some '"'
  | 'a' => some (Char.ofNat 7)
  | 'b' => some (Char.ofNat 8)
  | 'f' => some (Char.ofNat 12)
  | 'n' => some '\n'
  | 'r' => some '\r'
  | 't' => some '\t'
  | 'v' => some (Char.ofNat 11)
  | _ => none

/-- The character that an escape in single quotes denotes. -/
def singleEscape? (c : Char) : Option Char :=
  match c with
  | '\\' => some '\\'
  | '\x27' => some '\x27'
  | _ => none

/-- Replaces the escapes of a quoted text; a backslash that starts none stands for itself. -/
def unescape (escape? : Char → Option Char) : List Char → List Char
  | [] => []
  | '\\' :: c :: cs =>
    match escape? c with
    | some d => d :: unescape escape? cs
    | none => '\\' :: unescape escape? (c :: cs)
  | c :: cs => c :: unescape escape? cs

/-- A value without quotes: what stands before a number sign that follows space, without the space
at its end.  `spaced` says whether space stands in front of the value. -/
def bareValue (spaced : Bool) (line : List Char) : List Char := trimRight isSpacing (go spaced line)
where
  /-- Cuts the comment off. -/
  go (spaced : Bool) : List Char → List Char
    | [] => []
    | c :: cs => if c = '#' ∧ spaced then [] else c :: go (isSpacing c) cs

/-- Reads what follows an equals sign.  It fails at a quotation mark that is not closed. -/
def readValue? (cs : List Char) : Option (List Char × List Char) :=
  let start := cs.dropWhile isInline
  match start with
  | '\x27' :: rest => (closeQuote '\x27' rest).map fun p => (unescape singleEscape? p.1, p.2)
  | '"' :: rest => (closeQuote '"' rest).map fun p => (unescape doubleEscape? p.1, p.2)
  | _ =>
    let spaced := decide (start.length < cs.length)
    some (bareValue spaced (start.takeWhile (· ≠ '\n')), start.dropWhile (· ≠ '\n'))

/-- Skips a comment and the end of the line; none when something else is in the way. -/
def endLine? (cs : List Char) : Option (List Char) :=
  let rest := cs.dropWhile isInline
  let rest :=
    match rest with
    | '#' :: _ => rest.dropWhile (· ≠ '\n')
    | _ => rest
  match rest with
  | [] => some []
  | '\n' :: tail => some tail
  | _ => none

/-- What a statement of the file is. -/
inductive Statement where
  | binding (b : Binding)
  | comment
  | faulty

/-- Reads one statement of a text that does not start with space, and gives what follows it. -/
def readStatement (cs : List Char) : Statement × List Char :=
  let start := skipExport cs
  match readName? start with
  | none => (.faulty, skipLine start)
  | some (name?, rest) =>
    let rest := rest.dropWhile isInline
    let bound (value : Option (List Char)) (rest : List Char) : Statement × List Char :=
      match endLine? rest, name? with
      | some tail, some name => (.binding ⟨name, value⟩, tail)
      | some tail, none => (.comment, tail)
      | none, _ => (.faulty, skipLine rest)
    match rest with
    | '=' :: tail =>
      match readValue? tail with
      | some (value, tail) => bound (some value) tail
      | none => (.faulty, skipLine tail)
    | _ => bound none rest

/-- The statements of a text, each with the text from where the one before it ended. -/
def statements (cs : List Char) : List (Statement × List Char) :=
  match cs.dropWhile isSpacing with
  | [] => []
  | c :: rest =>
    let step := readStatement (c :: rest)
    if _shorter : step.2.length < cs.length then
      (step.1, cs) :: statements step.2
    else [(step.1, cs)]
termination_by cs.length

/-- The text of a file as it is read: without the mark of its encoding, and with one kind of line
end. -/
def textOf (file : String) : List Char :=
  unifyLineEnds <|
    match file.toList with
    | c :: cs => if c = '\ufeff' then cs else c :: cs
    | [] => []

/-- The bindings of a file. -/
def bindings (file : String) : List Binding :=
  (statements (textOf file)).filterMap fun
    | (.binding b, _) => some b
    | _ => none

/-- The numbers of the lines where the faulty statements of a file start, counted from one.  Empty
lines in front of a statement belong to it. -/
def faultyLines (file : String) : List Nat :=
  let text := textOf file
  (statements text).filterMap fun
    | (.faulty, rest) => some (text.count '\n' - rest.count '\n' + 1)
    | _ => none

/-- What is noted about a faulty statement. -/
def faultNote (line : Nat) : String :=
  "python-dotenv could not parse statement starting at line "
    ++ String.ofList (decimalDigits line)

/-- Variables by name; the last value of a name counts. -/
abbrev Variables := List (String × Option String)

/-- The last value of a name. -/
def lastValue (name : String) (vars : Variables) : Option (Option String) :=
  vars.reverse.lookup name

/-- Every name once, where it first stands, with its last value. -/
def distinct (vars : Variables) : Variables :=
  (vars.map (·.1)).eraseDups.filterMap fun name => (lastValue name vars).map fun v => (name, v)

/-- What a reference stands for: the value of the name, or the default behind `:-`, or nothing. -/
def resolve (environment : List (String × String)) (soFar : Variables) (reference : List Char) :
    List Char :=
  let name := reference.takeWhile (· ≠ ':')
  let fallback := (reference.dropWhile (· ≠ ':')).drop 2
  match lastValue (String.ofList name) soFar with
  | some value => (value.getD "").toList
  | none =>
    match environment.reverse.lookup (String.ofList name) with
    | some value => value.toList
    | none => fallback

/-- Whether the text in braces is a reference: a name, and a default behind `:-` if there is one. -/
def isReference (cs : List Char) : Bool :=
  match cs.dropWhile (· ≠ ':') with
  | [] => true
  | ':' :: '-' :: _ => true
  | _ => false

/-- Replaces the references in a value. -/
def interpolate (environment : List (String × String)) (soFar : Variables) (cs : List Char) :
    List Char :=
  match cs with
  | [] => []
  | '$' :: '\x7b' :: rest =>
    let inner := rest.takeWhile (· ≠ '\x7d')
    match h : rest.dropWhile (· ≠ '\x7d') with
    | _ :: tail =>
      if isReference inner then
        have : tail.length < rest.length := by
          have := (List.dropWhile_suffix (l := rest) (· ≠ '\x7d')).length_le
          rw [h] at this
          simp only [List.length_cons] at this
          omega
        resolve environment soFar inner ++ interpolate environment soFar tail
      else '$' :: '\x7b' :: interpolate environment soFar rest
    | [] => '$' :: '\x7b' :: interpolate environment soFar rest
  | c :: rest => c :: interpolate environment soFar rest
termination_by cs.length
decreasing_by all_goals (simp only [List.length_cons]; omega)

/-- The variables of an environment file, read in a given environment. -/
def read (environment : List (String × String)) (file : String) : Variables :=
  (bindings file).foldl
    (fun soFar b =>
      soFar ++ [(String.ofList b.name,
        b.value.map fun v => String.ofList (interpolate environment soFar v))])
    []

end Tocsin.Settings.EnvFile
