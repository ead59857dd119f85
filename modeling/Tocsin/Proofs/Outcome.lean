import Tocsin.Config.Schema

/-!
# Outcomes that are put together

Readers and exchanges are put together from steps that may fail, and records from fields.  The
lemmas here take a successful outcome apart, in the way in which it was put together.
-/

set_option autoImplicit false

namespace Tocsin.Outcome

open Tocsin.Config

variable {ε ε' α β : Type}

/-- Two steps succeed one after the other if each of them does. -/
theorem bind_eq_ok {x : Except ε α} {f : α → Except ε β} {b : β} :
    (x >>= f) = .ok b ↔ ∃ a, x = .ok a ∧ f a = .ok b := by
  constructor
  · intro h
    cases x with
    | error e => cases h
    | ok a => exact ⟨a, rfl, h⟩
  · rintro ⟨a, rfl, h⟩
    exact h

/-- A result that was changed is the change of a result. -/
theorem map_eq_ok {x : Except ε α} {f : α → β} {b : β} :
    x.map f = .ok b ↔ ∃ a, x = .ok a ∧ f a = b := by
  constructor
  · intro h
    cases x with
    | error e => cases h
    | ok a =>
        cases h
        exact ⟨a, rfl, rfl⟩
  · rintro ⟨a, rfl, rfl⟩
    rfl

/-- An error that is worded anew leaves results alone. -/
theorem mapError_eq_ok {x : Except ε α} {f : ε → ε'} {a : α} :
    x.mapError f = .ok a ↔ x = .ok a := by
  constructor
  · intro h
    cases x with
    | error e => cases h
    | ok b =>
        cases h
        rfl
  · rintro rfl
    rfl

/-- An outcome is placed further in, and a success stays one. -/
theorem under_eq_ok {step : Step} {x : Checked α} {a : α} :
    Checked.under step x = .ok a ↔ x = .ok a := by
  cases x <;> simp [Checked.under]

/-- Two outcomes together are a success if each of them is. -/
theorem both_eq_ok {x : Checked α} {y : Checked β} {p : α × β} :
    x.both y = .ok p ↔ x = .ok p.1 ∧ y = .ok p.2 := by
  obtain ⟨a, b⟩ := p
  cases x <;> cases y <;> simp [Checked.both]

/-- The first of several fields is read, and so are the others. -/
theorem check_cons_eq_ok {f : Config.Field α} {rest : Fields β} {m : Mapping}
    {p : (α × β) × List String} (h : (Fields.cons f rest).check m = .ok p) :
    ∃ names names', f.check m = .ok (p.1.1, names) ∧ rest.check m = .ok (p.1.2, names') := by
  obtain ⟨⟨⟨a, names⟩, ⟨b, names'⟩⟩, hboth, rfl⟩ := map_eq_ok.mp h
  exact ⟨names, names', both_eq_ok.mp hboth⟩

/-- What a field holds is what its reader makes of the value that is found for it. -/
theorem read_of_check {f : Config.Field α} {m : Mapping} {key : String} {v : Value}
    {p : α × List String} (hlookup : f.lookup m = some (key, v)) (h : f.check m = .ok p) :
    f.read v = .ok p.1 := by
  unfold Field.check at h
  rw [hlookup] at h
  obtain ⟨a, hread, rfl⟩ := map_eq_ok.mp h
  exact under_eq_ok.mp hread

end Tocsin.Outcome
