import Tocsin.Config.Value
import Tocsin.Decimal.Notation

/-!
# Showing values

`Value.display` is the text of a value in messages and log lines: texts and byte strings as quoted
literals, numbers in their shortest form, lists in square brackets, tuples in round ones (with a
comma behind a single item), mappings in braces and records by their type and attributes.
-/

set_option autoImplicit false

namespace Tocsin.Config

open Tocsin.Alerting Tocsin.Settings Tocsin.Text

namespace Display

/-- A text as a quoted literal. -/
def text (s : String) : String := Literal.quoted s

/-- A truth value. -/
def bool : Bool → String
  | true => "True"
  | false => "False"

/-- An integer. -/
def int (n : Int) : String := String.ofList (decimalText n)

/-- A double. -/
def float (x : Float) : String := Decimal.floatText x

/-- The null value. -/
def null : String := "None"

/-- A value that may be absent. -/
def option {α : Type} (f : α → String) : Option α → String
  | none => null
  | some a => f a

/-- Items in round brackets. -/
def tuple : List String → String
  | [item] => "(" ++ item ++ ",)"
  | items => "(" ++ ", ".intercalate items ++ ")"

/-- Items in square brackets. -/
def list (items : List String) : String := "[" ++ ", ".intercalate items ++ "]"

/-- A record by its type and its attributes. -/
def record (title : String) (attributes : List (String × String)) : String :=
  title ++ "(" ++ ", ".intercalate (attributes.map fun (k, v) => k ++ "=" ++ v) ++ ")"

/-- The attributes of an alert. -/
def alertParts (a : Alert) : List (String × String) :=
  [("type", text a.type), ("enabled", option bool a.enabled),
   ("failure_threshold", option (int ·.val) a.failureThreshold),
   ("success_threshold", option (int ·.val) a.successThreshold),
   ("description", option text a.description),
   ("send_on_resolved", option bool a.sendOnResolved)]

/-- The attributes of an override. -/
def overrideParts (o : Override) : List (String × String) :=
  [("group", text o.group), ("webhook_url", text o.webhookUrl)]

/-- The attributes of a condition result. -/
def conditionParts (r : ConditionResult) : List (String × String) :=
  [("condition", text r.condition), ("success", bool r.success)]

/-- The attributes of the text of a message. -/
def contentParts (c : MarkdownContent) : List (String × String) := [("content", text c.content)]

/-- The attributes of the settings of the client. -/
def httpParts (s : HttpSettings) : List (String × String) :=
  [("alert_http_timeout_seconds", float s.timeoutSeconds)]

/-- The attributes of the settings of the log. -/
def loggingParts (s : LoggingSettings) : List (String × String) :=
  [("log_level", text s.level), ("log_format", text s.format)]

end Display

/-- The attributes of a record, each with the text of its value. -/
def Record.parts : Record → List (String × String)
  | alert a => Display.alertParts a.value
  | endpoint e =>
    [("name", Display.text e.name), ("group", Display.text e.group), ("url", Display.text e.url)]
  | override o => Display.overrideParts o
  | provider c =>
    [("webhook_url", Display.text c.webhookUrl),
     ("default_alert",
      Display.option (fun a => Display.record "Alert" (Display.alertParts a.value))
        c.defaultAlert),
     ("overrides",
      Display.tuple (c.overrides.map fun o =>
        Display.record "Override" (Display.overrideParts o)))]
  | conditionResult r => Display.conditionParts r
  | result r =>
    [("condition_results",
      Display.tuple (r.conditionResults.map fun c =>
        Display.record "ConditionResult" (Display.conditionParts c)))]
  | content c => Display.contentParts c
  | message m =>
    [("msgtype", Display.text MarkdownMessage.msgtype),
     ("markdown", Display.record "MarkdownContent" (Display.contentParts m.markdown))]
  | http s => Display.httpParts s
  | logging s => Display.loggingParts s
  | app s =>
    [("env", Display.text s.env), ("alert_utc_offset_hours", Display.int s.utcOffsetHours),
     ("http", Display.record "HttpClientSettings" (Display.httpParts s.http)),
     ("logging", Display.record "LoggingSettings" (Display.loggingParts s.logging))]

/-- A record by its type and its attributes. -/
def Record.display (r : Record) : String := Display.record r.title r.parts

namespace Value

mutual

/-- The text of a value. -/
def display : Value → String
  | null => Display.null
  | bool b => Display.bool b
  | int n => Display.int n
  | float x => Display.float x
  | text s => Display.text s
  | bytes b => String.ofList (Literal.quoteBytes b)
  | list items => Display.list (displayItems items)
  | tuple items => Display.tuple (displayItems items)
  | dict entries => "\x7b" ++ ", ".intercalate (displayEntries entries) ++ "\x7d"
  | record r => r.display

/-- The texts of the items of a sequence. -/
def displayItems : List Value → List String
  | [] => []
  | v :: vs => display v :: displayItems vs

/-- The texts of the entries of a mapping. -/
def displayEntries : List (Value × Value) → List String
  | [] => []
  | (k, v) :: rest => (display k ++ ": " ++ display v) :: displayEntries rest

end

/-- The text of a value in running text: a text stands for itself, and a record for its attributes.
-/
def plain : Value → String
  | text s => s
  | record r => " ".intercalate (r.parts.map fun (k, v) => k ++ "=" ++ v)
  | v => v.display

end Value

end Tocsin.Config
