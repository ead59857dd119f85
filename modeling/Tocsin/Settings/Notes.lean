import Tocsin.Log.Journal
import Tocsin.Settings.Load

/-!
# Notes about settings

Whoever loads settings learns of the faulty statements in the file of variables from the log: each
time that the file is read, each of them is noted as a warning.
-/

set_option autoImplicit false

namespace Tocsin.Settings

/-- What is noted while settings are loaded. -/
def Loaded.notes {α : Type} (l : Loaded α) : List Log.Entry :=
  l.faults.map fun line => .note .warning (EnvFile.faultNote line)

/-- The lines that are written while settings are loaded. -/
def Loaded.lines {α : Type} (l : Loaded α) (journal : Log.Journal) : List String :=
  l.faults.flatMap fun line => journal.writeNote .warning (EnvFile.faultNote line)

end Tocsin.Settings
