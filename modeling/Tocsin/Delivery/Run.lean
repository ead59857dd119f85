import Tocsin.Alerting.Failure
import Tocsin.Delivery.Message
import Tocsin.Log.Journal
import Tocsin.Webhook.Exchange
import Tocsin.Webhook.Host

/-!
# Runs of a provider

A provider carries out actions one after the other: it sends alerts, closes its client, and answers
questions about its configuration.  `Provider.step` gives for one action what the caller learns, the
requests that were made and the records for the log, and how far the run has come: whether the
client is closed, how often the clock was read, how many requests were made, and which cookies are
kept.  Each alert is sent once; a failed attempt is not repeated.
-/

set_option autoImplicit false

namespace Tocsin.Delivery

open Tocsin.Alerting Tocsin.Calendar Tocsin.Config
open Tocsin.Webhook (Fault Jar Link Request Response TextFault loggedHost)

/-- A provider and what it works with: its clock, the zone of its messages, and the other end of its
requests. -/
structure Provider where
  config : ProviderConfig
  zone : Zone
  clock : Clock
  link : Link

/-- How far a run has come. -/
structure Progress where
  closed : Bool
  readings : Nat
  sent : Nat
  /-- The cookies that the client keeps. -/
  jar : Jar
  deriving DecidableEq, Repr

/-- Where every run begins. -/
def Progress.start : Progress := ⟨false, 0, 0, []⟩

/-- What a provider can be asked to do. -/
inductive Action where
  | send (notice : RawNotice)
  | close
  | defaultAlert
  | webhook (group : String)
  | isValid
  | config

/-- What an action tells when it succeeds. -/
inductive Answer where
  | done
  | alert (alert : Option (Declared Alert))
  | webhook (url : String)
  | valid (isValid : Bool)
  | config (config : ProviderConfig)
  deriving DecidableEq, Repr

/-- Why an alert was not sent. -/
inductive SendError where
  /-- A failure that callers have to handle. -/
  | failed (failure : Failure)
  /-- The time of the message cannot be shown. -/
  | time (error : RangeError)
  /-- The exchange failed, but not for a reason of transport. -/
  | exchange (fault : Fault)
  /-- The answer of the webhook cannot be read. -/
  | unreadableAnswer (fault : TextFault)

/-- What one action comes to. -/
structure Report where
  answer : Except SendError Answer
  requests : List Request
  records : List Log.Call

/-- What every record about a notice tells: whom it is about, and the host of the webhook, but not
the rest of its URL. -/
def Notice.context (n : Notice) (webhook : String) : List (String × Value) :=
  [("group", .text n.endpoint.group), ("endpoint", .text n.endpoint.name),
   ("resolved", .bool n.resolved), ("webhook_host", .text (loggedHost webhook))]

/-- A record of a provider. -/
def record (severity : Log.Severity) (event : String) (fields : List (String × Value)) :
    Log.Call where
  logger := "infrastructure.webhook.wecom"
  severity := severity
  event := event
  arguments := []
  fields := fields

/-- The highest status of a response that accepts an alert. -/
def maxAccepted : Int := 399

/-- How much of the text of a response is recorded. -/
def recordedText : Nat := 200

/-- What an exchange means for the caller, and what is recorded about it. -/
def conclude (context : List (String × Value)) :
    Except Fault Response → Except SendError Unit × List Log.Call
  | .error fault =>
    match fault.transportKind? with
    | none => (.error (.exchange fault), [])
    | some kind =>
      (.error (.failed (.transport kind fault.message)),
        [record .warning "wecom_alert_transport_failed"
          (("error", .text fault.message) :: ("error_type", .text kind) :: context)])
  | .ok response =>
    if response.status ≤ maxAccepted then
      (.ok (), [record .info "wecom_alert_sent" (("status_code", .int response.status) :: context)])
    else
      match response.text with
      | .error fault => (.error (.unreadableAnswer fault), [])
      | .ok text =>
        (.error (.failed (.delivery response.status text)),
          [record .warning "wecom_alert_rejected"
            (("status_code", .int response.status)
              :: ("response_text", .text (String.ofList (text.toList.take recordedText)))
              :: context)])

namespace Provider

/-- Sends a message about a notice. -/
def deliver (p : Provider) (now : Progress) (n : Notice) (text : String) : Progress × Report :=
  let webhook := p.config.webhookFor n.endpoint.group
  let made := p.link.exchange now.sent now.closed now.jar webhook (messageBody (.ofText text))
  let requests := made.request.toList
  let (result, records) := conclude (n.context webhook) made.result
  ({ now with sent := now.sent + requests.length, jar := made.jar },
    ⟨result.map fun _ => .done, requests, records⟩)

/-- Sends an alert: reads its parts, reads the clock, and sends the message.  A send whose parts
cannot be read leaves the clock alone. -/
def send (p : Provider) (now : Progress) (raw : RawNotice) : Progress × Report :=
  match raw.read with
  | .error e => (now, ⟨.error (.failed (.unreadable e)), [], []⟩)
  | .ok notice =>
    let moment := p.clock.reading now.readings
    let next := { now with readings := now.readings + 1 }
    match notice.text moment p.zone with
    | .error e => (next, ⟨.error (.time e), [], []⟩)
    | .ok text => p.deliver next notice text

/-- Carries out one action. -/
def step (p : Provider) (now : Progress) : Action → Progress × Report
  | .send raw => p.send now raw
  | .close => ({ now with closed := true }, ⟨.ok .done, [], []⟩)
  | .defaultAlert => (now, ⟨.ok (.alert p.config.defaultAlert), [], []⟩)
  | .webhook group => (now, ⟨.ok (.webhook (p.config.webhookFor group)), [], []⟩)
  | .isValid => (now, ⟨.ok (.valid p.config.isValid), [], []⟩)
  | .config => (now, ⟨.ok (.config p.config), [], []⟩)

/-- Carries out actions one after the other. -/
def run (p : Provider) (now : Progress) : List Action → Progress × List Report
  | [] => (now, [])
  | action :: actions =>
    let (next, report) := p.step now action
    let (last, reports) := p.run next actions
    (last, report :: reports)

end Provider

end Tocsin.Delivery
