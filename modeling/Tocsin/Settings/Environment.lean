import Tocsin.Settings.EnvFile
import Tocsin.Settings.Options

/-!
# Environments

Settings are looked up in an environment: the variables of the process, and those of a file.
`Environment.readFiles` reads the file as often as the options tell, and meets its faulty lines
every time.
-/

set_option autoImplicit false

namespace Tocsin.Settings

/-- Where settings are looked up besides the arguments. -/
structure Environment where
  /-- The variables of the process. -/
  vars : List (String × String)
  /-- The text of the file of variables, if there is one. -/
  file : Option String

/-- What comes of reading files: their variables or why there are none, and the numbers of the
faulty lines that were met. -/
structure FileReading where
  faults : List Nat
  result : Except FileFault EnvFile.Variables

/-- Nothing but a fault. -/
def FileReading.failed (fault : FileFault) : FileReading := ⟨[], .error fault⟩

namespace Environment

/-- Variables with names as they are compared, each name with its last value, without those that do
not count. -/
def view (o : Options) (vars : EnvFile.Variables) : EnvFile.Variables :=
  let counted := (EnvFile.distinct vars).filter fun (_, value) => !(o.skipEmpty && value == some "")
  EnvFile.distinct (counted.map fun (name, value) => (o.fold name, value))

/-- The variables of the process that count. -/
def processView (e : Environment) (o : Options) : EnvFile.Variables :=
  view o (e.vars.map fun (name, value) => (name, some value))

/-- Reads the file for every path that leads to it. -/
def readPaths (e : Environment) (charset : Config.Value) : List Config.Value → FileReading
  | [] => ⟨[], .ok []⟩
  | path :: rest =>
    match Files.leadsHere path, e.file with
    | .error fault, _ => .failed fault
    | .ok true, some file =>
      match Files.textIn charset file with
      | .error fault => .failed fault
      | .ok text =>
        let others := readPaths e charset rest
        ⟨EnvFile.faultyLines text ++ others.faults,
          others.result.map (EnvFile.read e.vars text ++ ·)⟩
    | .ok _, _ => readPaths e charset rest

/-- Reads the files that the options tell. -/
def readFiles (e : Environment) (o : Options) : FileReading :=
  match Files.paths o.files with
  | .error fault => .failed fault
  | .ok paths => e.readPaths o.charset paths

/-- The variables of the files that count, none if the files cannot be read. -/
def fileView (e : Environment) (o : Options) : EnvFile.Variables :=
  view o ((e.readFiles o).result.toOption.getD [])

end Environment

end Tocsin.Settings
