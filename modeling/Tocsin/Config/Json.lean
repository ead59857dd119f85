import Tocsin.Config.Display
import Tocsin.Json.Basic

/-!
# Values and JSON

A raw value is written as JSON in log lines.  Lists and tuples become arrays; byte strings and
records, which JSON does not have, become strings that show them.  The keys of a mapping are texts
in JSON: numbers, truth values and null are spelled out, other keys are refused.  In the other
direction every JSON value is a raw value; of two members with one name the later one counts.
-/

set_option autoImplicit false

namespace Tocsin.Config

open Tocsin.Text

/-- A key that cannot be written in JSON, by its type. -/
structure KeyError where
  typeName : String
  deriving DecidableEq, Repr

/-- The wording of the error. -/
def KeyError.message (e : KeyError) : String :=
  "keys must be str, int, float, bool or None, not " ++ e.typeName

namespace Value

/-- A key of a mapping as a JSON name. -/
def jsonName : Value → Except KeyError (List Char)
  | text s => .ok s.toList
  | int n => .ok (decimalText n)
  | float x => .ok (Json.floatText x)
  | bool true => .ok "true".toList
  | bool false => .ok "false".toList
  | null => .ok "null".toList
  | v => .error ⟨v.typeName⟩

mutual

/-- The JSON value that shows a raw value. -/
def toJson : Value → Except KeyError Json
  | null => .ok .null
  | bool b => .ok (.bool b)
  | int n => .ok (.int n)
  | float x => .ok (.float x)
  | text s => .ok (.text s.toList)
  | bytes b => .ok (.text (Literal.quoteBytes b))
  | list items => (itemsToJson items).map .array
  | tuple items => (itemsToJson items).map .array
  | dict entries => (entriesToJson entries).map .object
  | record r => .ok (.text r.display.toList)

/-- The JSON values of the items of a sequence. -/
def itemsToJson : List Value → Except KeyError (List Json)
  | [] => .ok []
  | v :: vs => do
    let j ← toJson v
    let js ← itemsToJson vs
    return j :: js

/-- The JSON members of the entries of a mapping. -/
def entriesToJson : List (Value × Value) → Except KeyError (List (List Char × Json))
  | [] => .ok []
  | (k, v) :: rest => do
    let name ← jsonName k
    let j ← toJson v
    let js ← entriesToJson rest
    return (name, j) :: js

end

mutual

/-- The raw value of a JSON value. -/
def ofJson : Json → Value
  | .null => null
  | .bool b => bool b
  | .int n => int n
  | .float x => float x
  | .text s => text (String.ofList s)
  | .array items => list (ofItems items)
  | .object members => dict (Mapping.ofPairs (ofMembers members))

/-- The raw values of the items of an array. -/
def ofItems : List Json → List Value
  | [] => []
  | j :: js => ofJson j :: ofItems js

/-- The entries of the members of an object. -/
def ofMembers : List (List Char × Json) → List (Value × Value)
  | [] => []
  | (k, j) :: rest => (text (String.ofList k), ofJson j) :: ofMembers rest

end

end Value

end Tocsin.Config
