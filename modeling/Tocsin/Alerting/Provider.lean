import Tocsin.Alerting.Alert
import Tocsin.Text.Literal

/-!
# Provider configurations

A provider sends alerts to a default webhook, except those of the groups that an override names.
`ProviderConfig.problems` lists everything that is wrong with a configuration, override by override
in their order and the default webhook last; a configuration without problems routes every group to
one webhook that is not empty.
-/

set_option autoImplicit false

namespace Tocsin.Alerting

open Tocsin.Config (Declared)
open Tocsin.Text

/-- A group whose alerts go to a webhook of its own. -/
structure Override where
  group : String
  webhookUrl : String
  deriving DecidableEq, Repr

/-- Where a provider sends its alerts, and what it sends for what an alert leaves open. -/
structure ProviderConfig where
  webhookUrl : String
  defaultAlert : Option (Declared Alert)
  overrides : List Override
  deriving DecidableEq, Repr

/-- Something wrong with a configuration; overrides are counted from 0. -/
inductive Problem where
  | emptyGroup (index : Nat)
  | duplicateGroup (index : Nat) (group : String)
  | emptyWebhook (index : Nat)
  | emptyDefaultWebhook
  deriving DecidableEq, Repr

/-- The wording of a problem. -/
def Problem.text : Problem → String
  | emptyGroup index => s!"overrides[{index}]: group must not be empty"
  | duplicateGroup index group =>
    s!"overrides[{index}]: group " ++ Literal.quoted group ++ " is already registered"
  | emptyWebhook index => s!"overrides[{index}]: webhook-url must not be empty"
  | emptyDefaultWebhook => "webhook-url must not be empty"

/-- The problems of one override, given its index and the groups of the overrides before it. -/
def Override.problems (index : Nat) (registered : List String) (o : Override) : List Problem :=
  (if o.group = "" then [.emptyGroup index]
   else if o.group ∈ registered then [.duplicateGroup index o.group]
   else [])
  ++ (if o.webhookUrl = "" then [.emptyWebhook index] else [])

/-- The problems of the overrides from `index` on, given the groups before them. -/
def overrideProblems (index : Nat) (registered : List String) : List Override → List Problem
  | [] => []
  | o :: rest =>
    o.problems index registered ++ overrideProblems (index + 1) (o.group :: registered) rest

namespace ProviderConfig

/-- Everything that is wrong with a configuration. -/
def problems (c : ProviderConfig) : List Problem :=
  overrideProblems 0 [] c.overrides
    ++ (if c.webhookUrl = "" then [.emptyDefaultWebhook] else [])

/-- Whether nothing is wrong with a configuration. -/
def isValid (c : ProviderConfig) : Bool := c.problems.isEmpty

/-- The webhook of a group: that of the first override for it, else the default. -/
def webhookFor (c : ProviderConfig) (group : String) : String :=
  ((c.overrides.find? (·.group = group)).map (·.webhookUrl)).getD c.webhookUrl

/-- Whether two configurations hold the same values, whichever of their fields were given. -/
def agrees (c d : ProviderConfig) : Bool :=
  c.webhookUrl = d.webhookUrl
    && c.defaultAlert.map (·.value) = d.defaultAlert.map (·.value)
    && c.overrides = d.overrides

end ProviderConfig

end Tocsin.Alerting
