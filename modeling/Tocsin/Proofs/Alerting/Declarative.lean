import Mathlib
import Tocsin.Alerting.Schema
import Tocsin.Proofs.Config.RoundTrip
import Tocsin.Proofs.Config.Shape

/-!
# The declarative form of records

Whatever record a configuration was read as, in whichever spelling and with whichever lenient
values, it is written as a mapping of one form: the keys of configurations in the order of the
fields, texts, truth values and integers, and nothing in the place of what is absent
(`Kind.shape`).  This mapping is a configuration for the same record, and it is written in the same
way again.  The main statement is `Kind.toMapping_reads_back`.

How a record came about plays no part in this, so the statement is about all of them.  That a
threshold is at least one, which its reader asks for, is told by its type.
-/

set_option autoImplicit false

namespace Tocsin.Alerting

open Tocsin.Config

/-- The keys that alerts are written with, and the form of the values under them. -/
def Alert.shapes : List (String × Shape) :=
  [("type", .text), ("enabled", .bool), ("failure-threshold", .int), ("success-threshold", .int),
    ("description", .text), ("send-on-resolved", .bool)]

/-- The keys of overrides, and the form of the values under them. -/
def Override.shapes : List (String × Shape) := [("group", .text), ("webhook-url", .text)]

/-- The keys of condition results, and the form of the values under them. -/
def ConditionResult.shapes : List (String × Shape) := [("condition", .text), ("success", .bool)]

/-- The keys of every kind, and the form of the values under them. -/
def Kind.shapes : Kind → List (String × Shape)
  | alert => Alert.shapes
  | endpoint => [("name", .text), ("group", .text), ("url", .text)]
  | override => Override.shapes
  | provider =>
    [("webhook-url", .text), ("default-alert", .mapping Alert.shapes),
      ("overrides", .sequence (.mapping Override.shapes))]
  | conditionResult => ConditionResult.shapes
  | result => [("condition-results", .sequence (.mapping ConditionResult.shapes))]

/-- The form in which records of a kind are written. -/
def Kind.shape (k : Kind) : Shape := .mapping k.shapes

/-! ## Writing -/

/-- A field that may be null writes values of the shape that its writer writes. -/
theorem fits_write_optional {α : Type} {shape : Shape} (name key : String) (read : Reader α)
    (write : α → Value) (h : ∀ a, shape.Fits (write a)) (o : Option α) (v : Value)
    (hv : (Field.optional name key read write).write o = some v) : shape.Fits v := by
  obtain ⟨a, -, rfl⟩ := Option.map_eq_some_iff.mp hv
  exact h a

/-- A text field writes texts. -/
theorem fits_write_text (name key : String) (default? : Option String) (s : String) (v : Value)
    (hv : (Field.text name key default?).write s = some v) : Shape.text.Fits v := by
  cases hv
  exact .text s

/-- Mappings of one shape make a sequence of that shape. -/
theorem fits_list_map {α : Type} {shape : Shape} {write : α → Value}
    (h : ∀ a, shape.Fits (write a)) (items : List α) :
    (Shape.sequence shape).Fits (.list (items.map write)) := by
  apply Shape.Fits.sequence
  intro v hv
  obtain ⟨a, -, rfl⟩ := List.mem_map.mp hv
  exact h a

/-- The fields of alerts write the form of alerts. -/
theorem Alert.matches_shapes : Alert.model.fields.Matches Alert.shapes :=
  ⟨rfl, fits_write_text _ _ _, rfl, fits_write_optional _ _ _ _ .bool,
    rfl, fits_write_optional _ _ _ _ fun n => .int n.val,
    rfl, fits_write_optional _ _ _ _ fun n => .int n.val,
    rfl, fits_write_optional _ _ _ _ .text, rfl, fits_write_optional _ _ _ _ .bool, trivial⟩

/-- The fields of overrides write the form of overrides. -/
theorem Override.matches_shapes : Override.model.fields.Matches Override.shapes :=
  ⟨rfl, fits_write_text _ _ _, rfl, fits_write_text _ _ _, trivial⟩

/-- The fields of condition results write the form of condition results. -/
theorem ConditionResult.matches_shapes :
    ConditionResult.model.fields.Matches ConditionResult.shapes :=
  ⟨rfl, fits_write_text _ _ _, rfl, fun b _ hv => by cases hv; exact .bool b, trivial⟩

/-- The fields of every kind write the form of the kind. -/
theorem Kind.matches_shapes (k : Kind) : k.model.fields.Matches k.shapes := by
  cases k with
  | alert => exact Alert.matches_shapes
  | override => exact Override.matches_shapes
  | conditionResult => exact ConditionResult.matches_shapes
  | endpoint =>
      exact ⟨rfl, fits_write_text _ _ _, rfl, fits_write_text _ _ _, rfl, fits_write_text _ _ _,
        trivial⟩
  | provider =>
      refine ⟨rfl, fits_write_text _ _ _, rfl, fits_write_optional _ _ _ _ ?_, rfl, ?_, trivial⟩
      · intro a
        exact Alert.model.fits_toMapping Alert.matches_shapes a.value
      · intro os v hv
        cases hv
        exact fits_list_map (Override.model.fits_toMapping Override.matches_shapes) os
  | result =>
      refine ⟨rfl, ?_, trivial⟩
      intro rs v hv
      cases hv
      exact fits_list_map
        (ConditionResult.model.fits_toMapping ConditionResult.matches_shapes) rs

/-- Records of every kind are written in the form of their kind. -/
theorem Kind.fits_toMapping (k : Kind) (a : k.Carrier) :
    k.shape.Fits (.dict (k.model.toMapping a)) :=
  k.model.fits_toMapping k.matches_shapes a

/-! ## Reading what was written -/

/-- A truth value that may be null reads back. -/
theorem readsBack_bool (name key : String) (o : Option Bool) :
    (Field.optional name key readBool .bool).ReadsBack o o :=
  Field.readsBack_optional_self name key o fun b _ => ⟨by simp, by cases b <;> rfl⟩

/-- A text that may be null reads back. -/
theorem readsBack_text (name key : String) (o : Option String) :
    (Field.optional name key readText .text).ReadsBack o o :=
  Field.readsBack_optional_self name key o fun _ _ => ⟨by simp, rfl⟩

/-- A threshold that may be null reads back, as it is at least one. -/
theorem readsBack_threshold (name key : String) (o : Option Threshold) :
    (Field.optional name key (readIntFrom 1) (.int ·.val)).ReadsBack o o := by
  apply Field.readsBack_optional_self
  intro n _
  refine ⟨by simp, ?_⟩
  unfold readIntFrom readInt
  exact dif_pos n.property

/-- An alert is read back from the mapping that it is written as. -/
theorem Alert.readEntries_toMapping (a : Alert) :
    ∃ given, Alert.model.readEntries (Alert.model.toMapping a) = .ok ⟨a, given⟩ :=
  Alert.model.readEntries_toMapping (by decide)
    ⟨Field.readsBack_text _ _ _ _, readsBack_bool _ _ _, readsBack_threshold _ _ _,
      readsBack_threshold _ _ _, readsBack_text _ _ _, readsBack_bool _ _ _, trivial⟩ rfl

/-- An override is read back from the mapping that it is written as. -/
theorem Override.readEntries_toMapping (o : Override) :
    ∃ given, Override.model.readEntries (Override.model.toMapping o) = .ok ⟨o, given⟩ :=
  Override.model.readEntries_toMapping (by decide)
    ⟨Field.readsBack_text _ _ _ _, Field.readsBack_text _ _ _ _, trivial⟩ rfl

/-- A condition result is read back from the mapping that it is written as. -/
theorem ConditionResult.readEntries_toMapping (r : ConditionResult) :
    ∃ given,
      ConditionResult.model.readEntries (ConditionResult.model.toMapping r) = .ok ⟨r, given⟩ :=
  ConditionResult.model.readEntries_toMapping (by decide)
    ⟨Field.readsBack_text _ _ _ _, ⟨rfl, by cases r with | mk _ b => cases b <;> rfl⟩, trivial⟩ rfl

/-- A record that reads back from its entries reads back as an item of a sequence. -/
theorem readValue_toMapping {α : Type} {m : Model α} {a : α}
    (h : ∃ given, m.readEntries (m.toMapping a) = .ok ⟨a, given⟩) :
    m.readValue (.dict (m.toMapping a)) = .ok a := by
  obtain ⟨given, h⟩ := h
  show (m.readEntries (m.toMapping a)).map (·.value) = _
  rw [h]
  rfl

/-- A provider is read back; which fields of its default alert count as given may differ. -/
theorem ProviderConfig.readEntries_toMapping (c : ProviderConfig) :
    ∃ d : Declared ProviderConfig,
      ProviderConfig.model.readEntries (ProviderConfig.model.toMapping c) = .ok d ∧
      d.value.agrees c = true ∧
      ProviderConfig.model.toMapping d.value = ProviderConfig.model.toMapping c := by
  -- The default alert comes back with the names of the fields that were written.
  obtain ⟨alert, hvalue, hback⟩ : ∃ alert : Option (Declared Alert),
      alert.map (·.value) = c.defaultAlert.map (·.value) ∧
      (Field.optional "default_alert" "default-alert" Alert.model.read
        fun a => .dict (Alert.model.toMapping a.value)).ReadsBack c.defaultAlert alert := by
    cases hc : c.defaultAlert with
    | none => exact ⟨none, rfl, rfl, rfl⟩
    | some a =>
        obtain ⟨given, hread⟩ := Alert.readEntries_toMapping a.value
        refine ⟨some ⟨a.value, given⟩, rfl, ?_⟩
        apply Field.readsBack_optional _ _ _ _ _ _ rfl
        intro x hx
        cases hx
        exact ⟨by simp, ⟨a.value, given⟩, rfl, hread⟩
  let d : ProviderConfig := ⟨c.webhookUrl, alert, c.overrides⟩
  have hfields : ProviderConfig.model.fields.ReadsBack (ProviderConfig.model.parts c)
      (ProviderConfig.model.parts d) := by
    refine ⟨Field.readsBack_text _ _ _ _, hback, ⟨rfl, ?_⟩, trivial⟩
    exact readItems_map c.overrides
      (fun o _ => readValue_toMapping (Override.readEntries_toMapping o)) 0
  obtain ⟨given, hread⟩ := ProviderConfig.model.readEntries_toMapping (by decide) hfields rfl
  refine ⟨⟨d, given⟩, hread, ?_, ProviderConfig.model.fields.write_eq_of_readsBack hfields⟩
  show (_ && _ && _) = true
  simp [d, hvalue]

/-- A record of any kind is read back from the mapping that it is written as, with the same values,
and is written in the same way again. -/
theorem Kind.readEntries_toMapping (k : Kind) (d : Declared k.Carrier) :
    ∃ e, k.model.readEntries (k.model.toMapping d.value) = .ok e ∧
      (k.model.toRecord e).agrees (k.model.toRecord d) = true ∧
      k.model.toMapping e.value = k.model.toMapping d.value := by
  cases k with
  | alert =>
      obtain ⟨given, hread⟩ := Alert.readEntries_toMapping d.value
      exact ⟨⟨d.value, given⟩, hread, beq_self_eq_true (α := Alert) d.value, rfl⟩
  | override =>
      obtain ⟨given, hread⟩ := Override.readEntries_toMapping d.value
      exact ⟨⟨d.value, given⟩, hread, beq_self_eq_true (α := Override) d.value, rfl⟩
  | conditionResult =>
      obtain ⟨given, hread⟩ := ConditionResult.readEntries_toMapping d.value
      exact ⟨⟨d.value, given⟩, hread, beq_self_eq_true (α := ConditionResult) d.value, rfl⟩
  | provider => exact ProviderConfig.readEntries_toMapping d.value
  | endpoint =>
      obtain ⟨given, hread⟩ := Endpoint.model.readEntries_toMapping (by decide)
        (a := d.value) (b := d.value)
        ⟨Field.readsBack_text _ _ _ _, Field.readsBack_text _ _ _ _, Field.readsBack_text _ _ _ _,
          trivial⟩ rfl
      exact ⟨⟨d.value, given⟩, hread, beq_self_eq_true (α := Endpoint) d.value, rfl⟩
  | result =>
      obtain ⟨given, hread⟩ := Result.model.readEntries_toMapping (by decide)
        (a := d.value) (b := d.value)
        ⟨⟨rfl, readItems_map d.value.conditionResults
          (fun r _ => readValue_toMapping (ConditionResult.readEntries_toMapping r)) 0⟩, trivial⟩ rfl
      exact ⟨⟨d.value, given⟩, hread, beq_self_eq_true (α := Result) d.value, rfl⟩

/-- A record is written in the form of its kind, which is plain JSON without null at any depth; what
is written can be read, agrees with the record field by field, and is written in the same way again.
So it is with whatever was read from a configuration. -/
theorem Kind.toMapping_reads_back (k : Kind) (d : Declared k.Carrier) :
    k.shape.Fits (.dict (k.model.toMapping d.value)) ∧
    (Value.dict (k.model.toMapping d.value)).isPlain = true ∧
    ∃ e, k.model.fromMapping (.dict (k.model.toMapping d.value)) = .ok e ∧
      (k.model.toRecord e).agrees (k.model.toRecord d) = true ∧
      k.model.toMapping e.value = k.model.toMapping d.value := by
  have hfits := k.fits_toMapping d.value
  obtain ⟨e, hread, hagrees, hwrite⟩ := k.readEntries_toMapping d
  exact ⟨hfits, hfits.isPlain, e, Model.fromMapping_dict hread, hagrees, hwrite⟩

end Tocsin.Alerting
