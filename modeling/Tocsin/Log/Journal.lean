import Tocsin.Log.Level
import Tocsin.Log.Line
import Tocsin.Log.Template

/-!
# The journal

The journal is the state of the log: its level and format, the fields that are bound to loggers, and
the context that every record takes up.  `Journal.write` turns a call into lines.  A record is put
together in a fixed order, its event is filled from the arguments of the call, its secrets are
hidden, and it is rendered; only then is it decided whether its severity is high enough to be
written, so that a faulty call fails whatever the level is.
-/

set_option autoImplicit false

namespace Tocsin.Log

open Tocsin.Config

/-- A call of a logger. -/
structure Call where
  logger : String
  severity : Severity
  event : String
  /-- What the event is filled from, unless it is empty. -/
  arguments : List Value
  fields : List (String × Value)

/-- Something for the log: a call of a logger, or a note, which is written as it stands. -/
inductive Entry where
  | call (c : Call)
  | note (severity : Severity) (text : String)

/-- What is bound to a logger: fields, and the format that was in force when it was first bound. -/
structure Bound where
  fields : Fields
  format : Format

/-- The state of the log. -/
structure Journal where
  level : Level
  format : Format
  bound : List (String × Bound)
  context : Fields

/-- Why a call fails. -/
inductive Fault where
  /-- A field has the name of a part of the call itself, made through the named function. -/
  | nameTaken (function name : String)
  /-- What should name the logger is a value of the named type, which has no name. -/
  | noName (typeName : String)
  /-- The event cannot be filled. -/
  | template (error : Template.Error)
  /-- The record cannot be rendered. -/
  | line (error : LineError)

/-- The wording of a fault. -/
def Fault.message : Fault → String
  | nameTaken function name =>
    function ++ "() got multiple values for argument '" ++ name ++ "'"
  | noName typeName => "'" ++ typeName ++ "' object has no attribute 'name'"
  | template error => error.message
  | line error => error.message

namespace Journal

/-- A journal with nothing bound. -/
def fresh (level : Level) (format : Format) : Journal := ⟨level, format, [], []⟩

/-- What is bound to a logger. -/
def boundTo (j : Journal) (logger : String) : Bound :=
  (j.bound.lookup logger).getD ⟨[], j.format⟩

/-- The function that binds fields to a logger, which is another one the first time. -/
def binder (j : Journal) (logger : String) : String :=
  if (j.bound.lookup logger).isSome then "BoundLogger.bind" else "BoundLoggerLazyProxy.bind"

/-- Binds fields to a logger. -/
def bind (j : Journal) (logger : String) (fields : List (String × Value)) :
    Except Fault Journal :=
  if fields.any (·.1 = "self") then .error (.nameTaken (j.binder logger) "self")
  else
    let old := j.boundTo logger
    .ok { j with
      bound := (logger, ⟨old.fields.putAll fields, old.format⟩)
        :: j.bound.filter (·.1 ≠ logger) }

/-- Adds to the context. -/
def addContext (j : Journal) (fields : List (String × Value)) : Journal :=
  { j with context := j.context.putAll fields }

/-- Checks that no field has the name of a part of the call.  The first one that has is named, those
of the parts that come first before any other. -/
def checkNames (c : Call) : Except Fault Unit :=
  match c.fields.find? fun f => f.1 = "self" ∨ f.1 = "event" with
  | some (name, _) => .error (.nameTaken ("BoundLogger." ++ c.severity.name) name)
  | none =>
    if c.fields.any (·.1 = "method_name") then
      .error (.nameTaken "BoundLogger._proxy_to_logger" "method_name")
    else .ok ()

/-- What a record names as its logger: the name of what stands under `_record`, if anything does. -/
def shownLogger (logger : String) (fields : Fields) : Except Fault Value :=
  match fields.get? "_record" with
  | none | some .null => .ok (.text (Level.loggerName logger))
  | some (.record r) => ((Value.attributes r).lookup "name").elim (.error (.noName r.title)) .ok
  | some v => .error (.noName v.typeName)

/-- The fields of a record before its event is filled: what is bound, what the call gives, the
event, the context where it is not overruled, and the level, the logger and the time. -/
def assemble (j : Journal) (stamp : String) (c : Call) : Except Fault Fields := do
  let given := Fields.putAll [] c.fields
  let given :=
    if c.arguments.isEmpty then given
    else Fields.put "positional_args" (.tuple c.arguments) given
  let fields := ((j.boundTo c.logger).fields.putAll given).put "event" (.text c.event)
  let fields := fields ++ j.context.filter fun f => !fields.has f.1
  let logger ← shownLogger c.logger fields
  return ((fields.put "level" (.text c.severity.name)).put "logger" logger).put "timestamp"
    (.text stamp)

/-- Fills the event from the arguments. -/
def fillEvent (fields : Fields) : Except Fault Fields :=
  match fields.get? "positional_args" with
  | none | some .null => .ok fields
  | some arguments =>
    if arguments.isTruthy then
      match fields.get? "event" with
      | some (.text event) =>
        match Template.fillEvent event arguments with
        | .ok text => .ok ((fields.put "event" (.text text)).erase "positional_args")
        | .error e => .error (.template e)
      | _ => .ok (fields.erase "positional_args")
    else .ok (fields.erase "positional_args")

/-- Takes the requests for a trace out of a record. -/
def dropTraces (fields : Fields) : Fields := (fields.erase "stack_info").erase "exc_info"

/-- The record that a call makes, secrets hidden. -/
def compose (j : Journal) (stamp : String) (c : Call) : Except Fault Fields := do
  checkNames c
  let fields ← fillEvent (← j.assemble stamp c)
  return redact (dropTraces fields)

/-- Whether a call is severe enough to be written. -/
def admits (j : Journal) (c : Call) : Bool := j.level.effective c.logger ≤ c.severity.rank

/-- The lines that a call writes at the time of a stamp. -/
def write (j : Journal) (stamp : String) (c : Call) : Except Fault (List String) := do
  let fields ← j.compose stamp c
  let lines ← ((j.boundTo c.logger).format.lines fields).mapError Fault.line
  return if j.admits c then lines else []

/-- The lines of a note. -/
def writeNote (j : Journal) (severity : Severity) (text : String) : List String :=
  if j.level ≤ severity.rank then [text] else []

/-- The lines of an entry. -/
def writeEntry (j : Journal) (stamp : String) : Entry → Except Fault (List String)
  | .call c => j.write stamp c
  | .note severity text => .ok (j.writeNote severity text)

/-- The lines of several entries. -/
def writeAll (j : Journal) (stamp : String) (entries : List Entry) : Except Fault (List String) :=
  (entries.mapM (j.writeEntry stamp)).map List.flatten

/-- The call that says how the log was set up. -/
def setupCall (level format : Value) : Call where
  logger := "utils.logging_config"
  severity := .debug
  event := "logging_initialized"
  arguments := []
  fields := [("env", .text "development"), ("log_level", level), ("log_format", format)]

/-- The level that a raw value stands for. -/
def levelOf : Value → Except Level.Error Level
  | .text name => Level.ofName name
  | .bytes _ => .error .inBytes
  | v => .error (.notAName v.typeName)

/-- Sets level and format; what is bound stays bound. -/
def setup (j : Journal) (level format : Value) : Except Level.Error Journal := do
  let rank ← levelOf level
  return { j with level := rank, format := Format.ofName format }

end Journal

end Tocsin.Log
