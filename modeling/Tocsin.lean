import Tocsin.Text.Printable
import Tocsin.Text.LowerCase
import Tocsin.Text.Digit
import Tocsin.Text.Blank
import Tocsin.Text.Utf8
import Tocsin.Text.Literal
import Tocsin.Text.Charset
import Tocsin.Decimal.Notation
import Tocsin.Decimal.Numeral
import Tocsin.Calendar.Moment
import Tocsin.Alerting.Provider
import Tocsin.Alerting.Endpoint
import Tocsin.Alerting.Markdown
import Tocsin.Settings.Basic
import Tocsin.Config.Issue
import Tocsin.Alerting.Schema
import Tocsin.Json.Reader
import Tocsin.Config.Json
import Tocsin.Alerting.Failure
import Tocsin.Log.Redaction
import Tocsin.Delivery.Message
import Tocsin.Webhook.Host
import Tocsin.Delivery.Run
import Tocsin.Delivery.Providers
import Tocsin.Session
import Tocsin.Webhook.Exchange
import Tocsin.Webhook.ContentType
import Tocsin.Webhook.Url
import Tocsin.Webhook.Hostname
import Tocsin.Webhook.Label
import Tocsin.Text.Punycode
import Tocsin.Webhook.LabelTable
import Tocsin.Text.Composition
import Tocsin.Text.CompositionTable
import Tocsin.Settings.EnvFile
import Tocsin.Settings.Load
import Tocsin.Log.Template
import Tocsin.Log.Journal
import Tocsin.Proofs.Config.RoundTrip
import Tocsin.Proofs.Config.Shape
import Tocsin.Proofs.Alerting.Declarative
import Tocsin.Proofs.Outcome
import Tocsin.Proofs.Webhook.Target
import Tocsin.Proofs.Delivery.History
import Tocsin.Proofs.Delivery.Account
import Tocsin.Proofs.Webhook.Exchange
import Tocsin.Proofs.Delivery.Ending
import Tocsin.Proofs.Delivery.Discretion
import Tocsin.Proofs.Alerting.Routing
import Tocsin.Proofs.Delivery.Legibility
import Tocsin.Proofs.Json.ReadBack
import Tocsin.Proofs.Delivery.Body
import Tocsin.Proofs.Config.Report
import Tocsin.Proofs.Alerting.Diagnosis
import Tocsin.Proofs.Alerting.Effective
import Tocsin.Proofs.Config.Merge
import Tocsin.Proofs.Alerting.Inheritance
import Tocsin.Proofs.Delivery.Construction
import Tocsin.Proofs.Settings.Overlay
import Tocsin.Proofs.Settings.Layering
import Tocsin.Proofs.Alerting.Problems
import Tocsin.Proofs.Text.Literal
import Tocsin.Proofs.Alerting.Wording
import Tocsin.Proofs.Alerting.Defaults
import Tocsin.Proofs.Text.Digits
import Tocsin.Proofs.Calendar.Offset
import Tocsin.Proofs.Calendar.Days
import Tocsin.Proofs.Calendar.Shown
import Tocsin.Proofs.Webhook.Host
import Tocsin.Proofs.Log.Redaction
import Tocsin.Proofs.Calendar.Chronology
import Tocsin.Proofs.Webhook.Address
import Tocsin.Proofs.Webhook.NormalForm
import Tocsin.Proofs.Delivery.Contact
import Tocsin.Proofs.Decimal.Binary
import Tocsin.Proofs.Decimal.Numeral
import Tocsin.Proofs.Alerting.Thresholds
