import Tocsin.Config.Issue
import Tocsin.Config.Schema

/-!
# Failures of alerting

What a caller of this library has to handle: a configuration that cannot be read or has problems, a
request that could not be sent, and a reply that refuses the alert.  Each has a code, a message and,
mostly, details.
-/

set_option autoImplicit false

namespace Tocsin.Alerting

open Tocsin.Config Tocsin.Text

namespace Failure

/-- The families of failures. -/
inductive Family where
  | alerting
  | configuration
  | transport
  | delivery
  deriving DecidableEq, Repr

/-- The code of a family. -/
def Family.code : Family → String
  | alerting => "alerting_error"
  | configuration => "configuration_error"
  | transport => "transport_error"
  | delivery => "delivery_error"

end Failure

/-- Why alerting failed. -/
inductive Failure where
  /-- A failure in so many words, with details unless they are null. -/
  | stated (family : Failure.Family) (message : String) (details : Value)
  /-- A configuration cannot be read. -/
  | unreadable (error : ConfigError)
  /-- A configuration has problems, at least one. -/
  | invalid (first : Problem) (others : List Problem)
  /-- A request could not be built or sent, for a reason with a name and a message. -/
  | transport (reason message : String)
  /-- The webhook answered with an error status. -/
  | delivery (status : Int) (body : String)

namespace Failure

/-- The family of a failure. -/
def family : Failure → Family
  | stated f _ _ => f
  | unreadable _ => .configuration
  | invalid _ _ => .configuration
  | transport _ _ => .transport
  | delivery _ _ => .delivery

/-- The code of a failure. -/
def code (f : Failure) : String := f.family.code

/-- The wording of a failure. -/
def message : Failure → String
  | stated _ message _ => message
  | unreadable error => error.message
  | invalid first _ => first.text
  | transport _ message => "failed to call provider alert: " ++ message
  | delivery status body =>
    "call to provider alert returned status code " ++ Display.int status ++ ": " ++ body

end Failure

/-- The details of a failure; null when there are none. -/
def Failure.details : Failure → Value
  | .stated _ _ details => details
  | .unreadable (.notMapping _ _) => .null
  | .unreadable (.mismatch _ issues) => .list (issues.map Issue.toValue)
  | .invalid first others => .list ((first :: others).map fun p => .text p.text)
  | .transport reason _ => .dict (Mapping.ofTexts [("error_type", .text reason)])
  | .delivery status body =>
    .dict (Mapping.ofTexts [("status_code", .int status), ("body", .text body)])

/-- The kind of the error that a failure was raised for, if there was one. -/
def Failure.cause? : Failure → Option String
  | .unreadable (.mismatch _ _) => some "ValidationError"
  | .transport reason _ => some reason
  | _ => none

/-- A configuration without problems, or the failure that names them. -/
def ProviderConfig.ensureValid (c : ProviderConfig) : Except Failure ProviderConfig :=
  match c.problems with
  | [] => .ok c
  | first :: others => .error (.invalid first others)

end Tocsin.Alerting
