import Tocsin.Text.Digit

/-!
# Levels of the log

Every record has a severity, and the log has a level: records of a lower severity are not written.
A level is chosen by name, in any letter case; a name that is unknown means `INFO`.
-/

set_option autoImplicit false

namespace Tocsin.Log

/-- How severe a record is. -/
inductive Severity where
  | debug
  | info
  | warning
  | error
  | critical
  deriving DecidableEq, Repr

/-- The name of a severity in a record. -/
def Severity.name : Severity → String
  | debug => "debug"
  | info => "info"
  | warning => "warning"
  | error => "error"
  | critical => "critical"

/-- The rank of a severity. -/
def Severity.rank : Severity → Nat
  | debug => 10
  | info => 20
  | warning => 30
  | error => 40
  | critical => 50

/-- The severity of a call by the name that it is made under. -/
def Severity.ofName? : String → Option Severity
  | "debug" => some debug
  | "info" => some info
  | "warning" | "warn" => some warning
  | "error" => some error
  | "critical" | "fatal" => some critical
  | _ => none

/-- The least rank that is written. -/
abbrev Level := Nat

namespace Level

/-- The level that stands for all unknown names. -/
def info : Level := 20

/-- The level of the clients' own records: what they say of each request names the whole URL. -/
def clients : Level := 30

/-- The loggers of the clients. -/
def clientLoggers : List String := ["httpx", "httpcore"]

/-- The names of the levels. -/
def named : List (String × Level) :=
  [("CRITICAL", 50), ("FATAL", 50), ("ERROR", 40), ("WARNING", 30), ("WARN", 30), ("INFO", 20),
   ("DEBUG", 10), ("NOTSET", 0)]

/-- Why a name gives no level. -/
inductive Error where
  /-- The name stands for a text that is no level. -/
  | unknown (text : String)
  /-- The name stands for something that is not even a text. -/
  | notALevel (shown : String)
  /-- The name is given as bytes. -/
  | inBytes
  /-- The name is neither a text nor bytes but a value of the named type. -/
  | notAName (typeName : String)
  deriving DecidableEq, Repr

/-- The wording of an error. -/
def Error.message : Error → String
  | unknown text => "Unknown level: '" ++ text ++ "'"
  | notALevel shown => "Level not an integer or a valid string: " ++ shown
  | inBytes => "attribute name must be string, not 'bytes'"
  | notAName typeName => "'" ++ typeName ++ "' object has no attribute 'upper'"

/-- The layout of plain records, which is known by a name like a level. -/
def plainLayout : String := "%(levelname)s:%(name)s:%(message)s"

/-- The table of layouts, which is known by a name like a level. -/
def layoutTable : String :=
  "\x7b'%': (<class 'logging.PercentStyle'>, '" ++ plainLayout
    ++ "'), '\x7b': (<class 'logging.StrFormatStyle'>, "
    ++ "'\x7blevelname\x7d:\x7bname\x7d:\x7bmessage\x7d'), '$': "
    ++ "(<class 'logging.StringTemplateStyle'>, "
    ++ "'$\x7blevelname\x7d:$\x7bname\x7d:$\x7bmessage\x7d')\x7d"

/-- The upper case of a character as far as it is made of ASCII letters. -/
def upperChar (c : Char) : List Char :=
  match c.toNat with
  | 0xdf => ['S', 'S']
  | 0x131 => ['I']
  | 0x17f => ['S']
  | 0xfb00 => ['F', 'F']
  | 0xfb01 => ['F', 'I']
  | 0xfb02 => ['F', 'L']
  | 0xfb03 => ['F', 'F', 'I']
  | 0xfb04 => ['F', 'F', 'L']
  | 0xfb05 => ['S', 'T']
  | 0xfb06 => ['S', 'T']
  | _ => [c.toUpper]

/-- The level that a name stands for. -/
def ofName (name : String) : Except Error Level :=
  let upper := String.ofList (name.toList.flatMap upperChar)
  if upper = "BASIC_FORMAT" then .error (.unknown plainLayout)
  else if upper = "_STYLES" then .error (.notALevel layoutTable)
  else .ok ((named.lookup upper).getD info)

/-- The names of the logger that all others are below. -/
def rootNames : List String := ["", "root"]

/-- The name of a logger in a record. -/
def loggerName (logger : String) : String := if logger ∈ rootNames then "root" else logger

/-- The level that a logger has itself when the log has the given one; 0 for none of its own. -/
def ofLogger (level : Level) (logger : String) : Level :=
  if logger ∈ rootNames then level else if logger ∈ clientLoggers then clients else 0

/-- The level that applies to a logger when the log has the given one.  The clients' loggers, and
those below them, keep their own. -/
def effective (level : Level) (logger : String) : Level :=
  if clientLoggers.any fun c => logger = c ∨ (c ++ ".").toList.isPrefixOf logger.toList
  then clients else level

end Level

end Tocsin.Log
