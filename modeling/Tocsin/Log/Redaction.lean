import Tocsin.Config.Value
import Tocsin.Text.LowerCase

/-!
# Redaction

A webhook authenticates with a key in its URL, so whoever holds the URL can post.  Before a record
is written, `redact` replaces the value of every field whose name speaks of a secret; the four
fields that the log itself adds are exempt.  Names are compared in lower case.
-/

set_option autoImplicit false

namespace Tocsin.Log

open Tocsin.Config Tocsin.Text

/-- The fields of a log record, in their order. -/
abbrev Fields := List (String × Value)

namespace Fields

/-- The value of a field. -/
def get? (name : String) (fields : Fields) : Option Value := fields.lookup name

/-- Whether a field is there. -/
def has (name : String) (fields : Fields) : Bool := fields.any (·.1 = name)

/-- Sets a field: in its place when it is there, else at the end. -/
def put (name : String) (value : Value) : Fields → Fields
  | [] => [(name, value)]
  | (k, v) :: rest => if k = name then (k, value) :: rest else (k, v) :: put name value rest

/-- Sets several fields one after the other. -/
def putAll (fields : Fields) (new : List (String × Value)) : Fields :=
  new.foldl (fun m p => put p.1 p.2 m) fields

/-- The fields of a mapping whose keys are texts. -/
def ofMapping? (entries : Mapping) : Option Fields :=
  entries.mapM fun
    | (.text name, v) => some (name, v)
    | _ => none

/-- Takes a field out. -/
def erase (name : String) (fields : Fields) : Fields := fields.filter (·.1 ≠ name)

end Fields

/-- Whether `part` occurs in a text. -/
def occursIn (part : List Char) : List Char → Bool
  | [] => part.isEmpty
  | c :: cs => part.isPrefixOf (c :: cs) || occursIn part cs

/-- The fields that are never redacted. -/
def exemptNames : List String := ["level", "event", "timestamp", "logger"]

/-- Names that speak of a secret as a whole. -/
def secretNames : List String := ["webhook_url", "token", "secret", "key", "authorization"]

/-- Words that make any name speak of a secret. -/
def secretWords : List String := ["token", "key", "secret"]

/-- Whether the value of a field must not be shown. -/
def isSensitive (name : String) : Bool :=
  name ∉ exemptNames &&
    (lower name ∈ secretNames || secretWords.any fun w => occursIn w.toList (lower name).toList)

/-- What is shown in the place of a secret. -/
def redactedText : String := "***REDACTED***"

/-- Hides the values of all sensitive fields. -/
def redact (fields : Fields) : Fields :=
  fields.map fun (name, v) => (name, if isSensitive name then .text redactedText else v)

/-- Why a mapping cannot be redacted. -/
inductive NameFault where
  /-- A key is a value of the named type, which has no letter case. -/
  | caseless (typeName : String)
  /-- A key is given in bytes. -/
  | inBytes
  deriving DecidableEq, Repr

/-- The wording of a fault. -/
def NameFault.message : NameFault → String
  | caseless typeName => "'" ++ typeName ++ "' object has no attribute 'lower'"
  | inBytes => "a bytes-like object is required, not 'str'"

/-- What is wrong with a key, if anything is. -/
def nameFault? : Value → Option NameFault
  | .text _ => none
  | .bytes _ => some .inBytes
  | v => some (.caseless v.typeName)

/-- Hides the values of all sensitive fields of a mapping, whose keys must be names. -/
def redactMapping (entries : Mapping) : Except NameFault Fields :=
  match Fields.ofMapping? entries with
  | some fields => .ok (redact fields)
  | none => .error ((entries.findSome? fun entry => nameFault? entry.1).getD .inBytes)

end Tocsin.Log
