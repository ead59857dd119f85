/-!
# Records with the fields they were given

A record that is read from a mapping remembers which of its fields the mapping gave, whatever their
values; the others hold their defaults.
-/

set_option autoImplicit false

namespace Tocsin.Config

/-- A record and the names of the fields that were given for it. -/
structure Declared (α : Type) where
  value : α
  given : List String
  deriving DecidableEq, Repr

/-- Changes the record and keeps the names. -/
def Declared.map {α β : Type} (f : α → β) (d : Declared α) : Declared β := ⟨f d.value, d.given⟩

/-- The names in alphabetical order. -/
def Declared.names {α : Type} (d : Declared α) : List String := d.given.mergeSort (· ≤ ·)

end Tocsin.Config
