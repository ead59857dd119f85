import Tocsin.Settings.Files
import Tocsin.Text.LowerCase

/-!
# How variables are looked up

A settings record is looked up in the variables of the process and in those of a file.  Arguments
whose names start with an underscore say how: what stands in front of the names, whether their
letter case counts, whether empty variables do, which text stands for null, how the names of parts
are joined, which files are read, and in which charset.  They hold for the record that they are
given for, and not for the records in its fields.
-/

set_option autoImplicit false

namespace Tocsin.Settings

open Tocsin.Config Tocsin.Text

/-- How the variables of a settings record are looked up. -/
structure Options where
  /-- What stands in front of the name of a field in the name of its variable. -/
  lead : String
  /-- Whether the letter case of names counts. -/
  exactCase : Bool
  /-- Whether empty variables count as absent. -/
  skipEmpty : Bool
  /-- What stands between the names of a field and of its part. -/
  joint : Option String
  /-- The text that stands for null. -/
  nullText : Option String
  /-- The paths of the files of variables. -/
  files : Value
  /-- The charset of the files. -/
  charset : Value

namespace Options

/-- The options that hold unless others are given: the file in the working directory is read, in the
charset in which it is kept. -/
def usual : Options := ⟨"", false, false, none, none, .text ".env", .null⟩

/-- The text of an option that may be absent. -/
def textOf? : Value → Option String
  | .text s => some s
  | _ => none

/-- Takes up one argument; null leaves an option as it is, but for the files, which it takes away.
-/
def take (o : Options) (name : String) (v : Value) : Options :=
  match name, v with
  | "_env_file", v => { o with files := v }
  | _, .null => o
  | "_env_file_encoding", v => { o with charset := v }
  | "_env_prefix", v => { o with lead := (textOf? v).getD "" }
  | "_case_sensitive", v => { o with exactCase := v.isTruthy }
  | "_env_ignore_empty", v => { o with skipEmpty := v.isTruthy }
  | "_env_nested_delimiter", v => { o with joint := textOf? v }
  | "_env_parse_none_str", v => { o with nullText := textOf? v }
  | _, _ => o

/-- The options among arguments. -/
def ofArguments (arguments : Mapping) : Options :=
  arguments.foldl
    (fun o entry =>
      match entry with
      | (.text name, v) => o.take name v
      | _ => o)
    usual

/-- A name as it is compared. -/
def fold (o : Options) (name : String) : String := if o.exactCase then name else lower name

end Options

end Tocsin.Settings
