import Tocsin.Config.Scalar

/-!
# Schemas of records

A `Model` describes how a record is written as a mapping: by its fields in order, each with the key
that configurations use, the attribute name that is accepted in its place, a default, a reader and a
writer.  `Model.read` reads a mapping field by field and reports the issues of all fields; keys that
no field claims are ignored.  `Model.toMapping` writes a record with the keys of configurations and
leaves absent values out.
-/

set_option autoImplicit false

namespace Tocsin.Config

/-- One field of a record. -/
structure Field (α : Type) where
  /-- The name of the attribute. -/
  name : String
  /-- The key that configurations use. -/
  key : String
  /-- The value when neither is present; a field without one is required. -/
  default? : Option α
  read : Reader α
  /-- The value as it stands in a mapping; none when it is left out. -/
  write : α → Option Value

/-- What a mapping holds for a field: the value under its key or, where there is none, under its
attribute name, together with the spelling that was found. -/
def Field.lookup {α : Type} (f : Field α) (m : Mapping) : Option (String × Value) :=
  match m.get? f.key with
  | some v => some (f.key, v)
  | none => (m.get? f.name).map fun v => (f.name, v)

/-- Reads a field of a mapping, and whether it was given. -/
def Field.check {α : Type} (f : Field α) (m : Mapping) : Checked (α × List String) :=
  match f.lookup m with
  | some (key, v) => ((f.read v).under (.key key)).map fun a => (a, [f.name])
  | none =>
    match f.default? with
    | some a => .ok (a, [])
    | none => .error [⟨.missing, [.key f.key], .dict m⟩]

/-- The fields of a record, whose values are kept as nested pairs. -/
inductive Fields : Type → Type 1 where
  | nil : Fields Unit
  | cons {α β : Type} (f : Field α) (rest : Fields β) : Fields (α × β)

namespace Fields

/-- Reads all fields of a mapping, and the names of those that were given. -/
def check {α : Type} : Fields α → Mapping → Checked (α × List String)
  | nil, _ => .ok ((), [])
  | cons f rest, m =>
    ((f.check m).both (rest.check m)).map fun p => ((p.1.1, p.2.1), p.1.2 ++ p.2.2)

/-- Writes all fields that are not left out, with the keys of configurations. -/
def write {α : Type} : Fields α → α → Mapping
  | nil, _ => []
  | cons f rest, (a, b) =>
    match f.write a with
    | some v => (.text f.key, v) :: rest.write b
    | none => rest.write b

/-- The attribute names. -/
def names {α : Type} : Fields α → List String
  | nil => []
  | cons f rest => f.name :: rest.names

end Fields

/-- How records of a type are written as mappings. -/
structure Model (α : Type) where
  title : String
  /-- The values of the fields as nested pairs. -/
  Parts : Type
  fields : Fields Parts
  build : Parts → α
  parts : α → Parts
  /-- Finds a record of this type in a value. -/
  ofRecord? : Record → Option (Declared α)
  /-- The record as a leaf of a value. -/
  toRecord : Declared α → Record

/-- Why a configuration cannot be read. -/
inductive ConfigError where
  /-- It is not a mapping but a value of the named type. -/
  | notMapping (title typeName : String)
  /-- Its values do not fit the fields of a record. -/
  | mismatch (title : String) (issues : List Issue)

/-- The wording of an error. -/
def ConfigError.message : ConfigError → String
  | notMapping title typeName =>
    "invalid " ++ title ++ " configuration: expected a mapping, got " ++ typeName
  | mismatch title _ => "invalid " ++ title ++ " configuration"

/-- Why a record cannot be built from arguments. -/
inductive ArgumentError where
  /-- An argument has a name that is no text. -/
  | nameless
  /-- The values do not fit the fields. -/
  | mismatch (issues : List Issue)

/-- The wording where an argument has no name. -/
def ArgumentError.namelessMessage : String := "keywords must be strings"

/-- Whether every argument has a name. -/
def named (arguments : Mapping) : Bool :=
  arguments.all fun entry =>
    match entry.1 with
    | .text _ => true
    | _ => false

namespace Model

variable {α : Type}

/-- Reads the entries of a mapping. -/
def readEntries (m : Model α) (entries : Mapping) : Checked (Declared α) :=
  (m.fields.check entries).map fun p => ⟨m.build p.1, p.2⟩

/-- Builds a record from arguments.  An argument without a name is refused before any value is. -/
def construct (m : Model α) (arguments : Mapping) : Except ArgumentError (Declared α) :=
  if named arguments then (m.readEntries arguments).mapError .mismatch else .error .nameless

/-- What comes of giving a field of a finished record a new value: it is refused, whether or not
there is such a field.  A name with an underscore in front is never one of a field, and a value may
be noted under it. -/
def assign (name : String) (value : Value) : Checked Unit :=
  match name.toList with
  | '_' :: _ => .ok ()
  | _ => .error [⟨.frozen, [.key name], value⟩]

/-- Reads a mapping, or takes a record of this type as it is. -/
def read (m : Model α) : Reader (Declared α)
  | .dict entries => m.readEntries entries
  | v@(.record r) => orFail (.modelType m.title) v (m.ofRecord? r)
  | v => .fail (.modelType m.title) v

/-- Reads a mapping and forgets which fields were given. -/
def readValue (m : Model α) : Reader α := fun v => (m.read v).map (·.value)

/-- Reads a raw configuration, where null stands for an empty mapping. -/
def fromMapping (m : Model α) : Value → Except ConfigError (Declared α)
  | .null => wrap (m.readEntries [])
  | .dict entries => wrap (m.readEntries entries)
  | v => .error (.notMapping m.title v.typeName)
where
  /-- Makes an error of the issues. -/
  wrap : Checked (Declared α) → Except ConfigError (Declared α)
    | .ok a => .ok a
    | .error issues => .error (.mismatch m.title issues)

/-- Writes a record as a mapping. -/
def toMapping (m : Model α) (a : α) : Mapping := m.fields.write (m.parts a)

end Model

/-- A text field. -/
def Field.text (name key : String) (default? : Option String) : Field String :=
  ⟨name, key, default?, readText, fun s => some (.text s)⟩

/-- A field that may be null and is null by default; null is left out when it is written. -/
def Field.optional {α : Type} (name key : String) (read : Reader α) (write : α → Value) :
    Field (Option α) :=
  ⟨name, key, some none, readOptional read, fun a => a.map write⟩

end Tocsin.Config
