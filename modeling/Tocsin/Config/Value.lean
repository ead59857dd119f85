import Tocsin.Alerting.Endpoint
import Tocsin.Alerting.Markdown
import Tocsin.Alerting.Provider
import Tocsin.Decimal.Binary
import Tocsin.Settings.Basic

/-!
# Raw configuration values

A configuration arrives as a tree of values: the usual scalars, byte strings, lists, tuples, and
mappings whose keys may be any value.  A leaf of the tree may also be a `Record` that has been read
before; a reader takes it as it is where it expects one of that type.
-/

set_option autoImplicit false

namespace Tocsin.Config

open Tocsin.Alerting Tocsin.Settings

/-- A record that has been read from a mapping. -/
inductive Record where
  | alert (a : Declared Alert)
  | endpoint (e : Endpoint)
  | override (o : Override)
  | provider (c : ProviderConfig)
  | conditionResult (r : ConditionResult)
  | result (r : Result)
  | content (c : MarkdownContent)
  | message (m : MarkdownMessage)
  | http (s : HttpSettings)
  | logging (s : LoggingSettings)
  | app (s : AppSettings)

/-- A raw configuration value. -/
inductive Value where
  | null
  | bool (b : Bool)
  | int (n : Int)
  | float (x : Float)
  | text (s : String)
  | bytes (b : List UInt8)
  | list (items : List Value)
  | tuple (items : List Value)
  | dict (entries : List (Value × Value))
  | record (r : Record)
  deriving Inhabited

/-- The entries of a mapping, in their order. -/
abbrev Mapping := List (Value × Value)

/-- The name of a record's type. -/
def Record.title : Record → String
  | alert _ => "Alert"
  | endpoint _ => "Endpoint"
  | override _ => "Override"
  | provider _ => "WeComProviderConfig"
  | conditionResult _ => "ConditionResult"
  | result _ => "Result"
  | content _ => "MarkdownContent"
  | message _ => "MarkdownMessage"
  | http _ => "HttpClientSettings"
  | logging _ => "LoggingSettings"
  | app _ => "AppSettings"

/-- Whether two records are of one type and have equal fields, whichever of them were given. -/
def Record.agrees : Record → Record → Bool
  | alert a, alert b => a.value == b.value
  | endpoint a, endpoint b => a == b
  | override a, override b => a == b
  | provider a, provider b => a.agrees b
  | conditionResult a, conditionResult b => a == b
  | result a, result b => a == b
  | content a, content b => a == b
  | message a, message b => a == b
  | http a, http b => a.agrees b
  | logging a, logging b => a == b
  | app a, app b => a.agrees b
  | _, _ => false

namespace Value

/-- The name of a value's type, as messages give it. -/
def typeName : Value → String
  | null => "NoneType"
  | bool _ => "bool"
  | int _ => "int"
  | float _ => "float"
  | text _ => "str"
  | bytes _ => "bytes"
  | list _ => "list"
  | tuple _ => "tuple"
  | dict _ => "dict"
  | record r => r.title

/-- A value that may be absent. -/
def ofOption {α : Type} (f : α → Value) : Option α → Value
  | none => null
  | some a => f a

/-- Whether a value counts as something: it is neither null, false, zero nor empty. -/
def isTruthy : Value → Bool
  | null => false
  | bool b => b
  | int n => n != 0
  | float x => !(x == 0.0)
  | text s => s != ""
  | bytes b => !b.isEmpty
  | list items => !items.isEmpty
  | tuple items => !items.isEmpty
  | dict entries => !entries.isEmpty
  | record _ => true

/-- Whether two values are one key of a mapping.  Numbers are compared by value, whatever their
type, and records by their fields. -/
def sameKey : Value → Value → Bool
  | null, null => true
  | text s, text t => s == t
  | bytes b, bytes c => b == c
  | bool b, other => integer? other == some b.toInt
  | int n, other => integer? other == some n
  | float x, float y => x == y
  | float x, other => (integer? other).any fun n => integer? (float x) == some n
  | tuple items, tuple others => sameKeys items others
  | record r, record s => r.agrees s
  | _, _ => false
where
  /-- The integer that a value is as a key. -/
  integer? : Value → Option Int
    | bool b => some b.toInt
    | int n => some n
    | float x => (Decimal.Binary.ofFloat x).integer?
    | _ => none
  /-- Whether two tuples are one key. -/
  sameKeys : List Value → List Value → Bool
    | [], [] => true
    | v :: vs, w :: ws => sameKey v w && sameKeys vs ws
    | _, _ => false

/-- The pairs of attribute names and values of a record. -/
def attributes : Record → List (String × Value)
  | .alert a => alertAttributes a.value
  | .endpoint e => [("name", text e.name), ("group", text e.group), ("url", text e.url)]
  | .override o => [("group", text o.group), ("webhook_url", text o.webhookUrl)]
  | .provider c =>
    [("webhook_url", text c.webhookUrl),
     ("default_alert", ofOption (fun a => record (.alert a)) c.defaultAlert),
     ("overrides", tuple (c.overrides.map fun o => record (.override o)))]
  | .conditionResult r => [("condition", text r.condition), ("success", bool r.success)]
  | .result r =>
    [("condition_results", tuple (r.conditionResults.map fun c => record (.conditionResult c)))]
  | .content c => [("content", text c.content)]
  | .message m =>
    [("msgtype", text MarkdownMessage.msgtype), ("markdown", record (.content m.markdown))]
  | .http s => [("alert_http_timeout_seconds", float s.timeoutSeconds)]
  | .logging s => [("log_level", text s.level), ("log_format", text s.format)]
  | .app s =>
    [("env", text s.env), ("alert_utc_offset_hours", int s.utcOffsetHours),
     ("http", record (.http s.http)), ("logging", record (.logging s.logging))]
where
  /-- The attributes of an alert. -/
  alertAttributes (a : Alert) : List (String × Value) :=
    [("type", text a.type), ("enabled", ofOption bool a.enabled),
     ("failure_threshold", ofOption (int ·.val) a.failureThreshold),
     ("success_threshold", ofOption (int ·.val) a.successThreshold),
     ("description", ofOption text a.description),
     ("send_on_resolved", ofOption bool a.sendOnResolved)]

/-- The items of a value that can be read as a sequence: a list, a tuple, or a record, whose items
are the pairs of its attribute names and values. -/
def items? : Value → Option (List Value)
  | list items => some items
  | tuple items => some items
  | record r => some ((attributes r).map fun (name, v) => tuple [text name, v])
  | _ => none

end Value

namespace Mapping

/-- The value under a text key. -/
def get? (key : String) : Mapping → Option Value
  | [] => none
  | (.text k, v) :: rest => if k = key then some v else get? key rest
  | _ :: rest => get? key rest

/-- Puts a value under a key: in the place of the key when it is there, else at the end. -/
def put (key value : Value) : Mapping → Mapping
  | [] => [(key, value)]
  | (k, v) :: rest =>
    if k.sameKey key then (k, value) :: rest else (k, v) :: put key value rest

/-- The mapping that pairs build one after the other; a later pair replaces the value of an earlier
one with the same key and keeps its place. -/
def ofPairs (pairs : List (Value × Value)) : Mapping :=
  pairs.foldl (fun m p => put p.1 p.2 m) []

/-- The mapping with text keys. -/
def ofTexts (pairs : List (String × Value)) : Mapping := pairs.map fun (k, v) => (.text k, v)

end Mapping

end Tocsin.Config
