import Tocsin.Config.Schema
import Tocsin.Settings.Layers

/-!
# Loading settings

`load` builds a settings record from the merged layers.  The settings of the client and of the log
are records of their own: where an object is given for one, what the object lacks is looked up in
the environment again, and where nothing is given for it, it is loaded from the environment alone.
Each record reads the file of variables anew, and meets its faulty lines again.
-/

set_option autoImplicit false

namespace Tocsin.Settings

open Tocsin.Config

/-- How settings of the client are written. -/
def HttpSettings.model : Model HttpSettings where
  title := "HttpClientSettings"
  Parts := Float × Unit
  fields :=
    .cons ⟨"alert_http_timeout_seconds", "alert_http_timeout_seconds", some 10.0, readFloat,
      fun x => some (.float x)⟩ .nil
  build := fun (seconds, ()) => ⟨seconds⟩
  parts s := (s.timeoutSeconds, ())
  ofRecord?
    | .http s => some ⟨s, []⟩
    | _ => none
  toRecord s := .http s.value

/-- How settings of the log are written. -/
def LoggingSettings.model : Model LoggingSettings where
  title := "LoggingSettings"
  Parts := String × String × Unit
  fields :=
    .cons (.text "log_level" "log_level" (some "INFO")) <|
    .cons (.text "log_format" "log_format" (some "console")) .nil
  build := fun (level, format, ()) => ⟨level, format⟩
  parts s := (s.level, s.format, ())
  ofRecord?
    | .logging s => some ⟨s, []⟩
    | _ => none
  toRecord s := .logging s.value

/-- The slots of a record whose fields hold plain values. -/
def plainSlots {α : Type} (m : Model α) : List Slot := m.fields.names.map fun n => ⟨n, none⟩

/-- Why settings cannot be loaded. -/
inductive LoadError where
  /-- No record can be built. -/
  | record (error : ArgumentError)
  /-- The files of variables cannot be read. -/
  | files (fault : FileFault)

/-- What comes of loading settings: the record or why there is none, and the numbers of the faulty
lines that were met in the file of variables, each time that it was read. -/
structure Loaded (α : Type) where
  faults : List Nat
  result : Except LoadError α

namespace Loaded

variable {α β : Type}

/-- Nothing met, and a record. -/
def done (a : α) : Loaded α := ⟨[], .ok a⟩

/-- Goes on with the record, if there is one. -/
def andThen (l : Loaded α) (next : α → Loaded β) : Loaded β :=
  match l.result with
  | .error e => ⟨l.faults, .error e⟩
  | .ok a => ⟨l.faults ++ (next a).faults, (next a).result⟩

end Loaded

/-- Reads a record whose fields hold plain values from the merged layers. -/
def readLayered {α : Type} (m : Model α) (e : Environment) (arguments : Mapping) : Checked α :=
  (m.readEntries (layered e (plainSlots m) arguments)).map (·.value)

/-- What is met before a record is read from the layers: its files of variables. -/
def visit (e : Environment) (arguments : Mapping) : Loaded Unit :=
  if named arguments then
    let reading := e.readFiles (.ofArguments arguments)
    ⟨reading.faults, (reading.result.map fun _ => ()).mapError .files⟩
  else ⟨[], .error (.record .nameless)⟩

/-- The record that was read, or the issues that it has. -/
def Loaded.ofChecked {α : Type} (c : Checked α) : Loaded α :=
  ⟨[], c.mapError fun issues => .record (.mismatch issues)⟩

/-- Loads a record whose fields hold plain values. -/
def load {α : Type} (m : Model α) (e : Environment) (arguments : Mapping) : Loaded α :=
  (visit e arguments).andThen fun _ => .ofChecked (readLayered m e arguments)

/-- Reads a record that stands in a field: null for none, or an object, which the environment
completes. -/
def readNested {α : Type} (m : Model α) (e : Environment) : Reader (Option α)
  | .null => .ok none
  | .dict entries => (readLayered m e entries).map some
  | v => (m.readValue v).map some

/-- What is met when the record in a field is read from an object, whether or not it can be read. -/
def visitNested (e : Environment) : Option Value → Loaded Unit
  | some (.dict entries) => visit e entries
  | _ => .done ()

/-- All settings before the records that were not given are filled in. -/
structure Draft where
  env : String
  utcOffsetHours : Int
  http : Option HttpSettings
  logging : Option LoggingSettings

/-- The slots of all settings. -/
def appSlots : List Slot :=
  [⟨"env", none⟩, ⟨"alert_utc_offset_hours", none⟩,
   ⟨"http", some HttpSettings.model.fields.names⟩,
   ⟨"logging", some LoggingSettings.model.fields.names⟩]

/-- The fields of all settings. -/
def appFields (e : Environment) :
    Fields (String × Int × Option HttpSettings × Option LoggingSettings × Unit) :=
  .cons (.text "env" "env" (some "development")) <|
  .cons ⟨"alert_utc_offset_hours", "alert_utc_offset_hours", some 8, readInt,
    fun n => some (.int n)⟩ <|
  .cons ⟨"http", "http", some none, readNested HttpSettings.model e,
    fun s => s.map fun s => .record (.http s)⟩ <|
  .cons ⟨"logging", "logging", some none, readNested LoggingSettings.model e,
    fun s => s.map fun s => .record (.logging s)⟩ .nil

/-- The name of the record of all settings, as messages give it. -/
def AppSettings.title : String := "AppSettings"

/-- The settings in a record that was given, or those of the environment. -/
def orLoad {α : Type} (m : Model α) (e : Environment) : Option α → Loaded α
  | some s => .done s
  | none => load m e []

/-- Loads all settings.  Arguments without a name and files that cannot be read, also those in the
objects for the client and the log, are refused before any value is. -/
def AppSettings.load (e : Environment) (arguments : Mapping) : Loaded AppSettings :=
  (visit e arguments).andThen fun _ =>
    let merged := layered e appSlots arguments
    let draft : Checked Draft := ((appFields e).check merged).map fun (parts, _) =>
      let (env, hours, http?, logging?, ()) := parts
      ⟨env, hours, http?, logging?⟩
    (visitNested e (merged.get? "http")).andThen fun _ =>
      (visitNested e (merged.get? "logging")).andThen fun _ =>
        (Loaded.ofChecked draft).andThen fun d =>
          (orLoad HttpSettings.model e d.http).andThen fun http =>
            (orLoad LoggingSettings.model e d.logging).andThen fun logging =>
              .done ⟨d.env, d.utcOffsetHours, http, logging⟩

end Tocsin.Settings
