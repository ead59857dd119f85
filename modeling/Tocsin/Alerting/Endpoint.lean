/-!
# Endpoints and the results of their checks
-/

set_option autoImplicit false

namespace Tocsin.Alerting

/-- A monitored target.  The group picks the webhook that its alerts go to. -/
structure Endpoint where
  name : String
  group : String
  url : String
  deriving DecidableEq, Repr

/-- A condition that was evaluated, and whether it held. -/
structure ConditionResult where
  condition : String
  success : Bool
  deriving DecidableEq, Repr

/-- The outcome of one health check, its conditions in the order in which they were evaluated. -/
structure Result where
  conditionResults : List ConditionResult
  deriving DecidableEq, Repr

end Tocsin.Alerting
