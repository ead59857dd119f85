import Tocsin.Config.Declared

/-!
# Alerts

An endpoint declares one alert per provider type.  What it leaves open is taken from the provider's
default alert by `withDefaults`: a field that holds a value is never replaced, be the value `false`
or an empty text, and the type is never inherited.

Alerts are objects that are never changed.  A `Shelf` keeps them, so that one can tell an alert that
was left as it is from a copy of it.
-/

set_option autoImplicit false

namespace Tocsin.Alerting

open Tocsin.Config (Declared)

/-- How many checks in a row count, at least one. -/
abbrev Threshold := { checks : Int // 1 ≤ checks }

/-- What an endpoint declares about its alerts; `none` marks a field left open. -/
structure Alert where
  type : String
  enabled : Option Bool
  failureThreshold : Option Threshold
  successThreshold : Option Threshold
  description : Option String
  sendOnResolved : Option Bool
  deriving DecidableEq, Repr

namespace Alert

/-- The alert that an empty declaration stands for. -/
def empty : Alert := ⟨"wecom", none, none, none, none, none⟩

/-- The description, empty when there is none. -/
def getDescription (a : Alert) : String := a.description.getD ""

/-- Whether a field left open on one side holds a value on the other. -/
def opens {α : Type} (own inherited : Option α) : Bool := own.isNone && inherited.isSome

/-- The names of the fields that `a` takes from `d`. -/
def inherited (a d : Alert) : List String :=
  (if opens a.enabled d.enabled then ["enabled"] else [])
  ++ (if opens a.failureThreshold d.failureThreshold then ["failure_threshold"] else [])
  ++ (if opens a.successThreshold d.successThreshold then ["success_threshold"] else [])
  ++ (if opens a.description d.description then ["description"] else [])
  ++ (if opens a.sendOnResolved d.sendOnResolved then ["send_on_resolved"] else [])

/-- Fills the open fields of `a` from `d`. -/
def fill (a d : Alert) : Alert where
  type := a.type
  enabled := a.enabled <|> d.enabled
  failureThreshold := a.failureThreshold <|> d.failureThreshold
  successThreshold := a.successThreshold <|> d.successThreshold
  description := a.description <|> d.description
  sendOnResolved := a.sendOnResolved <|> d.sendOnResolved

end Alert

/-- The alert with its open fields taken from a default, which need not exist.  The inherited fields
count as given. -/
def withDefaults (a : Declared Alert) : Option (Declared Alert) → Declared Alert
  | none => a
  | some d =>
    ⟨a.value.fill d.value, a.given ++ (a.value.inherited d.value).filter (· ∉ a.given)⟩

/-- Whether `withDefaults` leaves the alert as it is: there is no default, or nothing to take. -/
def inheritsNothing (a : Declared Alert) : Option (Declared Alert) → Bool
  | none => true
  | some d => (a.value.inherited d.value).isEmpty

/-- Alerts that are kept.  Each is known by its place, and new ones are put behind the others. -/
structure Shelf where
  alerts : List (Declared Alert)
  deriving DecidableEq, Repr

namespace Shelf

/-- The default at a place, if there is one. -/
def default? (shelf : Shelf) (place : Option Nat) : Option (Declared Alert) :=
  place.bind (shelf.alerts[·]?)

/-- Fills the alert at a place from the default at another place.  The result stands at the same
place when nothing is inherited; otherwise it is a new alert. -/
def withDefaults (shelf : Shelf) (place : Nat) (default : Option Nat) : Shelf × Nat :=
  match shelf.alerts[place]? with
  | none => (shelf, place)
  | some a =>
    let d := shelf.default? default
    if inheritsNothing a d then (shelf, place)
    else (⟨shelf.alerts ++ [Alerting.withDefaults a d]⟩, shelf.alerts.length)

/-- Fills an alert from defaults, one after the other. -/
def withAll (shelf : Shelf) (place : Nat) : List (Option Nat) → Shelf × Nat
  | [] => (shelf, place)
  | d :: ds =>
    let (next, filled) := shelf.withDefaults place d
    next.withAll filled ds

end Shelf

end Tocsin.Alerting
