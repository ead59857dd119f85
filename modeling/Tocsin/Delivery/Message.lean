import Tocsin.Alerting.Schema
import Tocsin.Calendar.Moment
import Tocsin.Config.Json

/-!
# Alert messages

A notice is what a message reports: an endpoint, the alert that it declared if it declared one, the
result of a check, and whether the trouble is over.  Its text has a title, five lines about the
endpoint, an empty line, a heading and one line for each condition; every line ends with a line
feed.  The text is wrapped as a markdown message, whose JSON is the body of the request.
-/

set_option autoImplicit false

namespace Tocsin.Delivery

open Tocsin.Alerting Tocsin.Calendar Tocsin.Config

/-- What a message reports. -/
structure Notice where
  endpoint : Endpoint
  alert : Option Alert
  result : Result
  resolved : Bool
  deriving DecidableEq, Repr

/-- The description of the alert, empty without an alert. -/
def Notice.description (n : Notice) : String := (n.alert.map (·.getDescription)).getD ""

/-- A text in a colour. -/
def coloured (colour text : String) : String :=
  "<font color=\"" ++ colour ++ "\">" ++ text ++ "</font>"

/-- The title. -/
def titleLine (resolved : Bool) : String :=
  "# " ++ if resolved then coloured "info" "Alert Resolved"
    else coloured "warning" "Alert Triggered"

/-- The line of a condition. -/
def conditionLine (r : ConditionResult) : String :=
  (if r.success then "✅" else "❌") ++ " - \x60" ++ r.condition ++ "\x60"

/-- The lines of a message, given the text of the time. -/
def Notice.lines (n : Notice) (time : String) : List String :=
  [titleLine n.resolved,
   "## Endpoint Info",
   "> group: " ++ coloured "comment" n.endpoint.group,
   "> name: " ++ coloured "comment" n.endpoint.name,
   "> url: [" ++ n.endpoint.url ++ "](" ++ n.endpoint.url ++ ")",
   "> describe: " ++ coloured "comment" n.description,
   "> update time: " ++ time,
   "",
   "## Condition:"]
  ++ n.result.conditionResults.map conditionLine

/-- The text of a message, given the text of the time. -/
def Notice.textAt (n : Notice) (time : String) : String :=
  String.join ((n.lines time).map (· ++ "\n"))

/-- The text of a message at a moment, shown in a zone. -/
def Notice.text (n : Notice) (moment : Moment) (z : Zone) : Except RangeError String :=
  (moment.formatIn z).map n.textAt

/-- The text of a message as a JSON value. -/
def contentJson (c : MarkdownContent) : Json :=
  .object [("content".toList, .text c.content.toList)]

/-- A message as a JSON value. -/
def messageJson (m : MarkdownMessage) : Json :=
  .object [("msgtype".toList, .text MarkdownMessage.msgtype.toList),
    ("markdown".toList, contentJson m.markdown)]

/-- The text of a message, written as JSON. -/
def contentBody (c : MarkdownContent) : String := String.ofList ((contentJson c).write .compact)

/-- A message written as JSON, which is the body of a request. -/
def messageBody (m : MarkdownMessage) : String :=
  String.ofList ((messageJson m).write .compact)

/-- The parts of a notice as they arrive, before they are read. -/
structure RawNotice where
  endpoint : Value
  alert : Value
  result : Value
  resolved : Bool

/-- Reads the parts of a notice: the endpoint, the alert, for which null means that there is none,
and the result, for which null means that nothing was checked. -/
def RawNotice.read (r : RawNotice) : Except ConfigError Notice := do
  let endpoint ← Endpoint.model.fromMapping r.endpoint
  let alert ←
    match r.alert with
    | .null => pure none
    | v => (Alert.model.fromMapping v).map fun a => some a.value
  let result ← Result.model.fromMapping r.result
  return ⟨endpoint.value, alert, result.value, r.resolved⟩

end Tocsin.Delivery
