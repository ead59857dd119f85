import Tocsin.Config.Json
import Tocsin.Log.Redaction
import Tocsin.Text.Blank
import Tocsin.Text.Cut

/-!
# Lines of the log

A record is written as a line of JSON or for a reader at a console.  The console line starts with
the time, the level, the event and the logger, each in a form of its own, and goes on with the other
fields as `name=value` in their order.  The fields `stack` and `exception` follow on lines of their
own.
-/

set_option autoImplicit false

namespace Tocsin.Log

open Tocsin.Config Tocsin.Text

/-- How records are written. -/
inductive Format where
  | json
  | console
  deriving DecidableEq, Repr

/-- The format with a name; every name but one means the console. -/
def Format.ofName : Value → Format
  | .text s => if s = "json" then json else console
  | _ => console

/-- Why a record cannot be written. -/
inductive LineError where
  /-- A mapping has a key that JSON has no name for. -/
  | key (error : KeyError)
  /-- What should stand on lines of its own is a value of the named type and no text. -/
  | notAText (typeName : String)
  deriving DecidableEq, Repr

/-- The wording of an error. -/
def LineError.message : LineError → String
  | key error => error.message
  | notAText typeName => "can only concatenate str (not \"" ++ typeName ++ "\") to str"

/-- A record as a line of JSON. -/
def jsonLine (fields : Fields) : Except LineError (List Char) :=
  ((Value.dict (Mapping.ofTexts fields)).toJson.mapError .key).map (·.write .spaced)

/-- Whether a text needs quotes at a console. -/
def needsQuotes (c : Char) : Bool :=
  c == ' ' || c == '\t' || c == '=' || c == '\r' || c == '\n' || c == '"' || c == Literal.apostrophe

/-- A value at a console: a text stands for itself unless it needs quotes. -/
def consoleValue : Value → List Char
  | .text s => if s.toList.any needsQuotes then Literal.quote s.toList else s.toList
  | v => v.display.toList

/-- A field at a console. -/
def consoleField (name : String) (v : Value) : List Char :=
  name.toList ++ '=' :: consoleValue v

/-- A value in brackets. -/
def bracketed (width : Nat) (v : Value) : List Char :=
  '[' :: padRight width ' ' v.plain.toList ++ [']']

/-- The fields that a console line starts with, and the form of each. -/
def columns : List (String × (Value → List Char)) :=
  [("", consoleField ""),
   ("timestamp", fun v => v.plain.toList),
   ("level", bracketed 9),
   ("event", fun v => padRight 15 ' ' v.plain.toList),
   ("logger", bracketed 0),
   ("logger_name", bracketed 0)]

/-- The text that stands on lines of its own. -/
def ownLines : Option Value → Except LineError (Option (List Char))
  | none | some .null => .ok none
  | some (.text s) => .ok (some s.toList)
  | some v => .error (.notAText v.typeName)

/-- The line that separates a stack from an exception. -/
def ruler : List Char := List.replicate 79 '='

/-- A record as text for a console. -/
def consoleLine (fields : Fields) : Except LineError (List Char) := do
  let rest := (fields.erase "stack").erase "exception"
  let front := columns.filterMap fun (name, form) => (rest.get? name).map form
  let back := (rest.filter fun f => f.1 ∉ columns.map (·.1)).map fun f => consoleField f.1 f.2
  let line := joinWith [' '] ((front ++ back).filter (!·.isEmpty))
  let stack ← ownLines (fields.get? "stack")
  let exception ← ownLines (fields.get? "exception")
  let stackText :=
    match stack with
    | none => []
    | some s =>
      '\n' :: s ++ (if exception.isSome then '\n' :: '\n' :: ruler ++ ['\n'] else [])
  let exceptionText :=
    match exception with
    | none => []
    | some s => '\n' :: s
  return trimRight (· == ' ') line ++ stackText ++ exceptionText

/-- The lines of a record. -/
def Format.lines (f : Format) (fields : Fields) : Except LineError (List String) := do
  let text ← match f with
    | json => jsonLine fields
    | console => consoleLine fields
  return (splitAt '\n' text).map String.ofList

end Tocsin.Log
