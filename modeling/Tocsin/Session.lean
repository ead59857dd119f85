import Tocsin.Settings.Notes
import Tocsin.Webhook.Proxy

/-!
# Sessions

A session has variables, a journal, and settings that it loads once.  `Session.perform` carries out
one command and gives the session after it, the lines that it wrote to the log, and what it answers
or why it failed.  Settings are kept from the first time that they can be loaded; a log whose level
is refused stays as it was.
-/

set_option autoImplicit false

namespace Tocsin

open Tocsin.Config Tocsin.Settings
open Tocsin.Log (Call Fields Journal Level Severity)

/-- The state of a session. -/
structure Session where
  vars : List (String × String)
  /-- The text of the file of variables, if there is one. -/
  file : Option String
  /-- The settings, once they are loaded. -/
  settings : Option AppSettings
  journal : Journal
  /-- The time that every line of the log bears. -/
  stamp : String

/-- What a session can be told to do. -/
inductive Command where
  | setVariable (name value : String)
  | unsetVariable (name : String)
  | settings
  /-- Sets up the log as the given settings say, or as those of the session. -/
  | configureLog (arguments : Option Mapping)
  /-- Sets up the log with a level and a format, of which the last ones may be left out. -/
  | setUpLog (arguments : List Value)
  /-- Asks for the level of a logger, or for that of the log. -/
  | level (logger : Option String)
  /-- Asks for the deadline of a client with the given settings, or with those of the session. -/
  | deadline (arguments : Option Mapping)
  | bind (logger : String) (fields : Mapping)
  | addContext (fields : Mapping)
  | write (logger : String) (severity : Severity) (event : String) (arguments : List Value)
    (fields : Mapping)

/-- What a command answers. -/
inductive CommandAnswer where
  | done
  | settings (settings : AppSettings)
  | level (level : Level)
  | deadline (seconds : Float)

/-- Why a variable cannot be set. -/
inductive VariableError where
  /-- The name or the value contains the character that ends texts. -/
  | nul
  /-- The name contains an equals sign. -/
  | illegalName
  | noName
  deriving DecidableEq, Repr

/-- The wording of an error. -/
def VariableError.message : VariableError → String
  | nul => "embedded null byte"
  | illegalName => "illegal environment variable name"
  | noName => "[Errno 22] Invalid argument"

/-- Why a command fails. -/
inductive CommandError where
  | variable (error : VariableError)
  | settings (error : LoadError)
  | level (error : Level.Error)
  | log (fault : Tocsin.Log.Fault)
  | proxy (fault : Webhook.Proxy.Fault)
  /-- A field has a name that is no text. -/
  | nameless
  /-- More is given than a level and a format. -/
  | tooManyArguments (count : Nat)

/-- The wording where the log is set up with too many arguments. -/
def CommandError.tooManyMessage (count : Nat) : String :=
  s!"setup_logging() takes from 0 to 2 positional arguments but {count} were given"

namespace Session

/-- A session that starts, with its log set up. -/
def start (vars : List (String × String)) (file : Option String) (stamp : String) :
    Session where
  vars := vars
  file := file
  settings := none
  journal := .fresh .info .json
  stamp := stamp

/-- What the settings are loaded from. -/
def environment (p : Session) : Environment := ⟨p.vars, p.file⟩

/-- What comes of a command: the session after it, the lines that it wrote, and its answer or why it
failed. -/
structure Outcome where
  session : Session
  lines : List String
  result : Except CommandError CommandAnswer

/-- A command that leaves the session as it is and writes nothing. -/
def answered (p : Session) (answer : CommandAnswer) : Outcome := ⟨p, [], .ok answer⟩

/-- A command that fails, leaves the session as it is and writes nothing. -/
def failed (p : Session) (error : CommandError) : Outcome := ⟨p, [], .error error⟩

/-- Writes a call to the log. -/
def write (p : Session) (call : Call) : Outcome :=
  match p.journal.write p.stamp call with
  | .ok lines => ⟨p, lines, .ok .done⟩
  | .error fault => p.failed (.log fault)

/-- Sets up the log, and writes that it is set up. -/
def setUpLog (p : Session) (level format : Value) : Outcome :=
  match p.journal.setup level format with
  | .error e => p.failed (.level e)
  | .ok journal => { p with journal := journal }.write (Journal.setupCall level format)

/-- Sets up the log with a level and a format, or with those that hold where they are left out. -/
def setUpLogWith (p : Session) : List Value → Outcome
  | [] => p.setUpLog (.text "INFO") (.text "console")
  | [level] => p.setUpLog level (.text "console")
  | [level, format] => p.setUpLog level format
  | arguments => p.failed (.tooManyArguments arguments.length)

/-- Does something with fields, whose names must be texts. -/
def withFields (p : Session) (entries : Mapping) (use : Fields → Outcome) : Outcome :=
  match Fields.ofMapping? entries with
  | some fields => use fields
  | none => p.failed .nameless

/-- Does something with loaded settings, behind the notes that were made while they were loaded. -/
def useLoaded (p : Session) (loaded : Loaded AppSettings)
    (use : AppSettings → Outcome) : Outcome :=
  let notes := loaded.lines p.journal
  match loaded.result with
  | .error e => ⟨p, notes, .error (.settings e)⟩
  | .ok s =>
    let outcome := use s
    { outcome with lines := notes ++ outcome.lines }

/-- Does something with given settings, or with those of the session, which are loaded unless they
are kept already.  They are kept even if what is done with them fails. -/
def withSettings (p : Session) (arguments : Option Mapping)
    (use : Session → AppSettings → Outcome) : Outcome :=
  match arguments, p.settings with
  | some arguments, _ => p.useLoaded (AppSettings.load p.environment arguments) (use p)
  | none, some s => use p s
  | none, none =>
    p.useLoaded (AppSettings.load p.environment []) fun s =>
      use { p with settings := some s } s

/-- Sets a variable. -/
def setVariable (p : Session) (name value : String) : Outcome :=
  if (name ++ value).contains (Char.ofNat 0) then p.failed (.variable .nul)
  else if name.contains '=' then p.failed (.variable .illegalName)
  else if name.isEmpty then p.failed (.variable .noName)
  else
    { p with vars := (name, value) :: p.vars.filter (·.1 ≠ name) }.answered .done

/-- Carries out a command. -/
def perform (p : Session) : Command → Outcome
  | .setVariable name value => p.setVariable name value
  | .unsetVariable name =>
    { p with vars := p.vars.filter (·.1 ≠ name) }.answered .done
  | .settings => p.withSettings none fun p s => p.answered (.settings s)
  | .configureLog arguments =>
    p.withSettings arguments fun p s =>
      p.setUpLog (.text s.logging.level) (.text s.logging.format)
  | .setUpLog arguments => p.setUpLogWith arguments
  | .level none => p.answered (.level p.journal.level)
  | .level (some logger) => p.answered (.level (Level.ofLogger p.journal.level logger))
  | .deadline arguments =>
    p.withSettings arguments fun p s =>
      match Webhook.Proxy.check p.vars with
      | .error fault => p.failed (.proxy fault)
      | .ok () => p.answered (.deadline s.http.timeoutSeconds)
  | .bind logger entries =>
    p.withFields entries fun fields =>
      match p.journal.bind logger fields with
      | .error fault => p.failed (.log fault)
      | .ok journal => { p with journal := journal }.answered .done
  | .addContext entries =>
    p.withFields entries fun fields =>
      { p with journal := p.journal.addContext fields }.answered .done
  | .write logger severity event arguments entries =>
    p.withFields entries fun fields => p.write ⟨logger, severity, event, arguments, fields⟩

end Session

end Tocsin
