import Mathlib
import Tocsin.Alerting.Schema
import Tocsin.Proofs.Alerting.Declarative
import Tocsin.Proofs.Alerting.Effective
import Tocsin.Proofs.Config.Merge

/-!
# Defaults in declarative form

`withDefaults` fills the open fields of an alert from a default, without looking at the values.  In
declarative form this is the union of two mappings: open fields are those that are not written, so
what the alert writes covers what the default writes, and the type, which is always written, stays
that of the alert.  The union is a configuration for the filled alert, so the values that were taken
over are valid, too.  The main statement is `Alert.toMapping_withDefaults`.

It is about all alerts, however they came about: read from a configuration, or filled any number of
times since.  That a threshold is at least one is told by its type, which reading establishes and
filling keeps.
-/

set_option autoImplicit false

namespace Tocsin.Alerting

open Tocsin.Config

/-- An optional field that is filled writes what the first value writes, or else what the second
does. -/
theorem write_orElse {α : Type} (name key : String) (read : Reader α) (write : α → Value)
    (a b : Option α) :
    (Field.optional name key read write).write (a <|> b) =
      ((Field.optional name key read write).write a).or
        ((Field.optional name key read write).write b) := by
  cases a <;> rfl

namespace Alert

/-- What a filled alert writes is found in what the alert writes or else in what the default writes.
-/
theorem get?_toMapping_fill (a d : Alert) (key : String) :
    Mapping.get? key (Alert.model.toMapping (a.fill d)) =
      (Mapping.get? key (Alert.model.toMapping a)).or
        (Mapping.get? key (Alert.model.toMapping d)) := by
  have hfills : Alert.model.fields.Fills (Alert.model.parts a) (Alert.model.parts d)
      (Alert.model.parts (a.fill d)) :=
    ⟨rfl, write_orElse _ _ _ _ _ _, write_orElse _ _ _ _ _ _, write_orElse _ _ _ _ _ _,
      write_orElse _ _ _ _ _ _, write_orElse _ _ _ _ _ _, trivial⟩
  exact Alert.model.fields.get?_write_of_fills (by decide) hfills key

/-- Alerts are written with distinct text keys. -/
theorem isKeyed_toMapping (a : Alert) : (Alert.model.toMapping a).IsKeyed :=
  Alert.model.fields.isKeyed_write (by decide) _

/-- A threshold is written as an integer that is at least one. -/
theorem exists_of_get?_threshold (a : Alert) {key : String}
    (hkey : key ∈ ["failure-threshold", "success-threshold"]) {v : Value}
    (hv : Mapping.get? key (Alert.model.toMapping a) = some v) :
    ∃ n : Int, 1 ≤ n ∧ v = .int n := by
  have hwritten : ∀ o : Option Threshold, o.map (Value.int ·.val) = some v →
      ∃ n : Int, 1 ≤ n ∧ v = .int n := by
    intro o ho
    obtain ⟨n, -, rfl⟩ := Option.map_eq_some_iff.mp ho
    exact ⟨n.val, n.property, rfl⟩
  have hnil : ∀ s, Mapping.get? s (Fields.nil.write ()) = none := fun _ => rfl
  simp only [List.mem_cons, List.not_mem_nil, or_false] at hkey
  rcases hkey with rfl | rfl
  · apply hwritten a.failureThreshold
    simpa [Model.toMapping, Alert.model, Fields.get?_write_cons, hnil, Field.text,
      Field.optional] using hv
  · apply hwritten a.successThreshold
    simpa [Model.toMapping, Alert.model, Fields.get?_write_cons, hnil, Field.text,
      Field.optional] using hv

end Alert

/-- The declarative form of an alert laid over that of a default. -/
def laidOver (a d : Alert) : Mapping :=
  Mapping.ofPairs (Alert.model.toMapping d ++ Alert.model.toMapping a)

/-- In it the same is found as in what the filled alert is written as. -/
theorem get?_laidOver (a d : Alert) (key : String) :
    Mapping.get? key (Alert.model.toMapping (a.fill d)) = (laidOver a d).get? key := by
  rw [Alert.get?_toMapping_fill, laidOver,
    Mapping.get?_ofPairs_append (Alert.isKeyed_toMapping d) (Alert.isKeyed_toMapping a)]

/-- Filling an alert from a default commutes with the declarative form.  The filled alert is written
as the union of the two mappings, in which the entries of the alert win; this union is read as an
alert that equals the filled one; and in each of the three alerts a threshold is written as an
integer of at least one, if it is written at all. -/
theorem Alert.toMapping_withDefaults (a d : Declared Alert) :
    (Alert.model.toMapping (withDefaults a (some d)).value).Perm (laidOver a.value d.value) ∧
    (∃ e, Alert.model.fromMapping (.dict (laidOver a.value d.value)) = .ok e ∧
      (Record.alert e).agrees (.alert (withDefaults a (some d))) = true) ∧
    ∀ b ∈ [a, d, withDefaults a (some d)], ∀ key ∈ ["failure-threshold", "success-threshold"],
      ∀ v, Mapping.get? key (Alert.model.toMapping b.value) = some v →
        ∃ n : Int, 1 ≤ n ∧ v = .int n := by
  have hfound := get?_laidOver a.value d.value
  refine ⟨?_, ?_, ?_⟩
  · exact Mapping.perm_of_get?_eq (isKeyed_toMapping _)
      (Mapping.isKeyed_ofPairs_append (isKeyed_toMapping _) (isKeyed_toMapping _)) hfound
  · -- The filled alert reads back from what it is written as, and the union says the same.
    obtain ⟨given, hread⟩ := Alert.readEntries_toMapping (a.value.fill d.value)
    have hagree := Kind.agree_read .alert (Kind.same_of_get?_eq .alert hfound)
    have hunion : Alert.model.readEntries (laidOver a.value d.value) =
        .ok ⟨a.value.fill d.value, given⟩ := hagree.eq_ok hread
    exact ⟨_, Model.fromMapping_dict hunion, beq_self_eq_true (α := Alert) _⟩
  · intro b _ key hkey v hv
    exact exists_of_get?_threshold _ hkey hv

end Tocsin.Alerting
