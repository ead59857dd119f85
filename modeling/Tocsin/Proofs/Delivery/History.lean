import Tocsin.Delivery.Run

/-!
# Runs and their parts

A run of some actions and then of others is a run of all of them, so what an action reports depends
on the actions before it alone, through the progress that they made.
-/

set_option autoImplicit false

namespace Tocsin.Delivery.Provider

variable (p : Provider) (now : Progress)

/-- A run of one action and then of others. -/
theorem run_cons (action : Action) (actions : List Action) :
    p.run now (action :: actions) =
      ((p.run (p.step now action).1 actions).1,
        (p.step now action).2 :: (p.run (p.step now action).1 actions).2) := rfl

/-- A run of some actions and then of others. -/
theorem run_append (before after : List Action) :
    p.run now (before ++ after) =
      ((p.run (p.run now before).1 after).1,
        (p.run now before).2 ++ (p.run (p.run now before).1 after).2) := by
  induction before generalizing now with
  | nil => rfl
  | cons action before ih =>
      rw [List.cons_append, run_cons, run_cons, ih]
      rfl

/-- A run that goes one action further. -/
theorem run_concat (before : List Action) (action : Action) :
    p.run now (before ++ [action]) =
      ((p.step (p.run now before).1 action).1,
        (p.run now before).2 ++ [(p.step (p.run now before).1 action).2]) := by
  rw [run_append]
  rfl

/-- There is one report for every action. -/
theorem length_run (actions : List Action) : (p.run now actions).2.length = actions.length := by
  induction actions generalizing now with
  | nil => rfl
  | cons action actions ih =>
      rw [run_cons]
      simp only [List.length_cons, ih]

/-- What an action reports in a run is what it reports after the actions before it. -/
theorem report_run (before : List Action) (action : Action) (after : List Action) :
    (p.run now (before ++ action :: after)).2[before.length]? =
      some (p.step (p.run now before).1 action).2 := by
  rw [run_append, run_cons]
  have hlength := p.length_run now before
  rw [List.getElem?_append_right (Nat.le_of_eq hlength), hlength, Nat.sub_self]
  rfl

end Tocsin.Delivery.Provider
