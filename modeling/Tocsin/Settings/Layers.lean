import Tocsin.Config.Json
import Tocsin.Json.Reader
import Tocsin.Settings.Environment

/-!
# Layers of settings

Settings come from arguments, from environment variables and from an environment file, and each of
these layers covers the ones behind it.  Where two layers give an object for the same field, the
objects are merged key by key; anything else is replaced.  Names of variables are compared in lower
case unless the options say otherwise; an argument may have the name of its field in any letter case
too.  A field that holds settings of its own is written as a JSON object in a variable; text that is
no JSON stays as it is, and the JSON null counts as nothing.
-/

set_option autoImplicit false

namespace Tocsin.Settings

open Tocsin.Config Tocsin.Text

/-- The value under a key. -/
def Layer.find (key : Value) (m : Mapping) : Option Value :=
  (m.find? (·.1.sameKey key)).map (·.2)

mutual

/-- A value laid over another one; objects are merged. -/
def Layer.cover (under : Option Value) : Value → Value
  | .dict upper =>
    match under with
    | some (.dict entries) => .dict (Layer.merge entries upper)
    | _ => .dict upper
  | v => v

/-- The entries of an object laid over those of another one. -/
def Layer.merge (under : Mapping) : List (Value × Value) → Mapping
  | [] => under
  | (k, v) :: rest => Layer.merge (Mapping.put k (Layer.cover (Layer.find k under) v) under) rest

end

/-- A field of a settings record: its name and, if it holds settings of its own, their names. -/
structure Slot where
  name : String
  inner : Option (List String)
  deriving DecidableEq, Repr

/-- Gives every key that is a known name in another letter case that name; of two such keys the
later one counts. -/
def canonical (names : List String) (entries : Mapping) : Mapping :=
  Mapping.ofPairs (entries.map fun (k, v) =>
    match k with
    | .text s => (.text ((names.find? (· = lower s)).getD s), v)
    | _ => (k, v))

/-- Puts a value at the end of a path of keys, making the objects on the way; where something else
is in the way, nothing changes. -/
def putPath (v : Value) : List String → Mapping → Mapping
  | [], m => m
  | [key], m => Mapping.put (.text key) v m
  | key :: keys, m =>
    match Mapping.get? key m with
    | none => Mapping.put (.text key) (.dict (putPath v keys [])) m
    | some (.dict entries) => Mapping.put (.text key) (.dict (putPath v keys entries)) m
    | some _ => m

/-- Variables in one of the two places where they are looked up, and how. -/
structure Source where
  options : Options
  vars : EnvFile.Variables

namespace Source

/-- The name of the variable of a field. -/
def nameOf (source : Source) (slot : Slot) : String :=
  source.options.fold (source.options.lead ++ slot.name)

/-- What the text of a variable stands for, before it is read. -/
def plainValue (source : Source) : Option String → Value
  | none => .null
  | some text => if source.options.nullText = some text then .null else .text text

/-- The object that the variables of the parts of a field make. -/
def parts (source : Source) (slot : Slot) : Mapping :=
  match source.options.joint with
  | none | some "" => []
  | some joint =>
    let lead := (source.nameOf slot ++ joint).toList
    source.vars.foldl
      (fun made (name, value) =>
        if lead.isPrefixOf name.toList then
          putPath (source.plainValue value)
            ((String.ofList (name.toList.drop lead.length)).splitOn joint) made
        else made)
      []

/-- Gives the keys of an object the names of a slot's own settings, unless letter case counts. -/
def settle (source : Source) (slot : Slot) : Value → Value
  | .dict entries =>
    .dict (if source.options.exactCase then entries else canonical (slot.inner.getD []) entries)
  | v => v

/-- What the text of a variable means for a field with settings of its own. -/
def readObject (source : Source) (slot : Slot) (text : String) : Option Value :=
  match Json.read? text.toList with
  | none => some (.text text)
  | some .null => none
  | some j =>
    match Value.ofJson j with
    | .dict entries => some (.dict (Layer.merge entries (source.parts slot)))
    | v => some v

/-- What the variables hold for a field. -/
def find (source : Source) (slot : Slot) : Option Value :=
  match source.vars.reverse.lookup (source.nameOf slot), slot.inner with
  | some (some text), inner =>
    if source.options.nullText = some text then some .null
    else
      match inner with
      | none => some (.text text)
      | some _ => (source.readObject slot text).map (source.settle slot)
  | _, none => none
  | _, some _ =>
    let made := source.parts slot
    if made.isEmpty then none else some (source.settle slot (.dict made))

/-- The layer of the variables. -/
def layer (source : Source) (slots : List Slot) : Mapping :=
  slots.filterMap fun slot => (source.find slot).map fun v => (.text slot.name, v)

end Source

/-- The argument for a field: the one with its very name, or else the first one with its name in
another letter case. -/
def argument? (name : String) (arguments : Mapping) : Option Value :=
  Mapping.get? name arguments <|>
    (arguments.find? fun entry =>
      match entry.1 with
      | .text key => lower key = name
      | _ => false).map (·.2)

/-- The layer of arguments. -/
def argumentLayer (slots : List Slot) (arguments : Mapping) : Mapping :=
  slots.filterMap fun slot => (argument? slot.name arguments).map fun v => (.text slot.name, v)

/-- The merged layers: arguments over variables of the process over variables of the file. -/
def layered (e : Environment) (slots : List Slot) (arguments : Mapping) : Mapping :=
  let options := Options.ofArguments arguments
  Layer.merge (Source.layer ⟨options, e.fileView options⟩ slots)
    (Layer.merge (Source.layer ⟨options, e.processView options⟩ slots)
      (argumentLayer slots arguments))

end Tocsin.Settings
