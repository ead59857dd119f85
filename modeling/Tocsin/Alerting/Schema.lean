import Tocsin.Config.Schema

/-!
# How alerting records are written

The schemas of the records that this library reads from configurations, with their keys.  `Kind`
lists the six that are read on their own; an alert may also stand inside a provider configuration,
overrides always do, and condition results stand inside the result of a check.
-/

set_option autoImplicit false

namespace Tocsin.Alerting

open Tocsin.Config

/-- Alerts.  A threshold counts checks, so it is at least one. -/
def Alert.model : Model Alert where
  title := "Alert"
  Parts := String × Option Bool × Option Threshold × Option Threshold × Option String ×
    Option Bool × Unit
  fields :=
    .cons (.text "type" "type" (some "wecom")) <|
    .cons (.optional "enabled" "enabled" readBool .bool) <|
    .cons (.optional "failure_threshold" "failure-threshold" (readIntFrom 1) (.int ·.val)) <|
    .cons (.optional "success_threshold" "success-threshold" (readIntFrom 1) (.int ·.val)) <|
    .cons (.optional "description" "description" readText .text) <|
    .cons (.optional "send_on_resolved" "send-on-resolved" readBool .bool) .nil
  build := fun (type, enabled, failure, success, description, resolved, ()) =>
    ⟨type, enabled, failure, success, description, resolved⟩
  parts a := (a.type, a.enabled, a.failureThreshold, a.successThreshold, a.description,
    a.sendOnResolved, ())
  ofRecord?
    | .alert a => some a
    | _ => none
  toRecord := .alert

/-- Endpoints; only the name is required. -/
def Endpoint.model : Model Endpoint where
  title := "Endpoint"
  Parts := String × String × String × Unit
  fields :=
    .cons (.text "name" "name" none) <|
    .cons (.text "group" "group" (some "")) <|
    .cons (.text "url" "url" (some "")) .nil
  build := fun (name, group, url, ()) => ⟨name, group, url⟩
  parts e := (e.name, e.group, e.url, ())
  ofRecord?
    | .endpoint e => some ⟨e, []⟩
    | _ => none
  toRecord e := .endpoint e.value

/-- Overrides. -/
def Override.model : Model Override where
  title := "Override"
  Parts := String × String × Unit
  fields :=
    .cons (.text "group" "group" (some "")) <|
    .cons (.text "webhook_url" "webhook-url" (some "")) .nil
  build := fun (group, url, ()) => ⟨group, url⟩
  parts o := (o.group, o.webhookUrl, ())
  ofRecord?
    | .override o => some ⟨o, []⟩
    | _ => none
  toRecord o := .override o.value

/-- Reads the overrides of a provider; null stands for none. -/
def readOverrides : Reader (List Override)
  | .null => .ok []
  | v => readSequence Override.model.readValue v

/-- Provider configurations. -/
def ProviderConfig.model : Model ProviderConfig where
  title := "WeComProviderConfig"
  Parts := String × Option (Declared Alert) × List Override × Unit
  fields :=
    .cons (.text "webhook_url" "webhook-url" (some "")) <|
    .cons (.optional "default_alert" "default-alert" Alert.model.read
      (fun a => .dict (Alert.model.toMapping a.value))) <|
    .cons ⟨"overrides", "overrides", some [], readOverrides,
      fun os => some (.list (os.map fun o => .dict (Override.model.toMapping o)))⟩ .nil
  build := fun (url, alert, overrides, ()) => ⟨url, alert, overrides⟩
  parts c := (c.webhookUrl, c.defaultAlert, c.overrides, ())
  ofRecord?
    | .provider c => some ⟨c, []⟩
    | _ => none
  toRecord c := .provider c.value

/-- Condition results; both fields are required. -/
def ConditionResult.model : Model ConditionResult where
  title := "ConditionResult"
  Parts := String × Bool × Unit
  fields :=
    .cons (.text "condition" "condition" none) <|
    .cons ⟨"success", "success", none, readBool, fun b => some (.bool b)⟩ .nil
  build := fun (condition, success, ()) => ⟨condition, success⟩
  parts r := (r.condition, r.success, ())
  ofRecord?
    | .conditionResult r => some ⟨r, []⟩
    | _ => none
  toRecord r := .conditionResult r.value

/-- Results of checks. -/
def Result.model : Model Result where
  title := "Result"
  Parts := List ConditionResult × Unit
  fields :=
    .cons ⟨"condition_results", "condition-results", some [],
      readSequence ConditionResult.model.readValue,
      fun rs => some (.list (rs.map fun r => .dict (ConditionResult.model.toMapping r)))⟩ .nil
  build := fun (results, ()) => ⟨results⟩
  parts r := (r.conditionResults, ())
  ofRecord?
    | .result r => some ⟨r, []⟩
    | _ => none
  toRecord r := .result r.value

/-- Texts of markdown messages. -/
def MarkdownContent.model : Model MarkdownContent where
  title := "MarkdownContent"
  Parts := String × Unit
  fields := .cons (.text "content" "content" none) .nil
  build := fun (content, ()) => ⟨content⟩
  parts c := (c.content, ())
  ofRecord?
    | .content c => some ⟨c, []⟩
    | _ => none
  toRecord c := .content c.value

/-- Markdown messages.  The type may be given, but there is only one. -/
def MarkdownMessage.model : Model MarkdownMessage where
  title := "MarkdownMessage"
  Parts := Unit × MarkdownContent × Unit
  fields :=
    .cons ⟨"msgtype", "msgtype", some (), readLiteral MarkdownMessage.msgtype,
      fun () => some (.text MarkdownMessage.msgtype)⟩ <|
    .cons ⟨"markdown", "markdown", none, MarkdownContent.model.readValue,
      fun c => some (.dict (MarkdownContent.model.toMapping c))⟩ .nil
  build := fun ((), content, ()) => ⟨content⟩
  parts m := ((), m.markdown, ())
  ofRecord?
    | .message m => some ⟨m, []⟩
    | _ => none
  toRecord m := .message m.value

/-- The message with a text that arrives as a raw value. -/
def MarkdownMessage.ofValue (content : Value) : Checked MarkdownMessage :=
  (MarkdownContent.model.readEntries [(.text "content", content)]).map fun c => ⟨c.value⟩

/-- The records that are read from configurations of their own. -/
inductive Kind where
  | alert
  | endpoint
  | override
  | provider
  | conditionResult
  | result
  deriving DecidableEq, Repr

namespace Kind

/-- All kinds. -/
def all : List Kind := [alert, endpoint, override, provider, conditionResult, result]

/-- The records of a kind. -/
def Carrier : Kind → Type
  | alert => Alert
  | endpoint => Endpoint
  | override => Override
  | provider => ProviderConfig
  | conditionResult => ConditionResult
  | result => Result

/-- The schema of a kind. -/
def model : (k : Kind) → Model k.Carrier
  | alert => Alert.model
  | endpoint => Endpoint.model
  | override => Override.model
  | provider => ProviderConfig.model
  | conditionResult => ConditionResult.model
  | result => Result.model

/-- The kind whose records have a title. -/
def ofTitle? (title : String) : Option Kind := all.find? (·.model.title = title)

end Kind

end Tocsin.Alerting
