import Tocsin.Config.Schema

/-!
# The shape of a declarative mapping

A configuration that is written is meant for other readers too, so its form can be said without the
schema that wrote it.  A `Shape` describes such a value: a text, a truth value, an integer, a
sequence of values of one shape, or a mapping with some of the listed keys, each at most once and in
the listed order.  There is no shape for null, for doubles or for byte strings, so a value that fits
any shape is plain JSON without null at any depth (`Shape.Fits.isPlain`).
-/

set_option autoImplicit false

namespace Tocsin.Config

/-- The form of a value. -/
inductive Shape where
  | text
  | bool
  | int
  | sequence (item : Shape)
  | mapping (fields : List (String × Shape))

mutual

/-- A value has a shape. -/
inductive Shape.Fits : Shape → Value → Prop
  | text (s : String) : Shape.Fits .text (.text s)
  | bool (b : Bool) : Shape.Fits .bool (.bool b)
  | int (n : Int) : Shape.Fits .int (.int n)
  | sequence {item : Shape} {items : List Value} (h : ∀ v ∈ items, item.Fits v) :
      Shape.Fits (.sequence item) (.list items)
  | mapping {fields : List (String × Shape)} {entries : Mapping}
      (h : Shape.FieldsFit fields entries) : Shape.Fits (.mapping fields) (.dict entries)

/-- The entries of a mapping are fields of the listed ones, in their order; any may be left out. -/
inductive Shape.FieldsFit : List (String × Shape) → Mapping → Prop
  | nil : Shape.FieldsFit [] []
  | present {key : String} {shape : Shape} {v : Value} {fields : List (String × Shape)}
      {entries : Mapping} (hv : shape.Fits v) (h : Shape.FieldsFit fields entries) :
      Shape.FieldsFit ((key, shape) :: fields) ((.text key, v) :: entries)
  | absent {key : String} {shape : Shape} {fields : List (String × Shape)} {entries : Mapping}
      (h : Shape.FieldsFit fields entries) : Shape.FieldsFit ((key, shape) :: fields) entries

end

mutual

/-- Whether a value is JSON as it stands and holds no null at any depth: a text, a truth value or an
integer, or lists and mappings of such values, with texts for keys. -/
def Value.isPlain : Value → Bool
  | .bool _ | .int _ | .text _ => true
  | .list items => arePlain items
  | .dict entries => haveTextKeys entries
  | _ => false

/-- Whether all values of a list are plain. -/
def arePlain : List Value → Bool
  | [] => true
  | v :: vs => v.isPlain && arePlain vs

/-- Whether all keys of a mapping are texts and all its values plain. -/
def haveTextKeys : List (Value × Value) → Bool
  | [] => true
  | (.text _, v) :: rest => v.isPlain && haveTextKeys rest
  | _ => false

end

/-- A list of plain values is plain as a whole. -/
theorem arePlain_of_forall {items : List Value} (h : ∀ v ∈ items, v.isPlain = true) :
    arePlain items = true := by
  induction items with
  | nil => rfl
  | cons v vs ih =>
      unfold arePlain
      rw [h v List.mem_cons_self, ih fun w hw => h w (List.mem_cons_of_mem v hw)]
      rfl

/-- Whatever fits a shape is plain. -/
theorem Shape.Fits.isPlain {shape : Shape} {v : Value} (h : shape.Fits v) : v.isPlain = true := by
  induction h using Shape.Fits.rec
    (motive_2 := fun _ entries _ => haveTextKeys entries = true) with
  | text s => rfl
  | bool b => rfl
  | int n => rfl
  | sequence _ ih =>
      unfold Value.isPlain
      exact arePlain_of_forall ih
  | mapping _ ih =>
      unfold Value.isPlain
      exact ih
  | nil => rfl
  | present _ _ hv hrest =>
      unfold haveTextKeys
      rw [hv, hrest]
      rfl
  | absent _ ih => exact ih

/-! ## Shapes of what fields write -/

namespace Fields

/-- The listed keys are those of the fields, and whatever a field writes has the shape beside its
key. -/
def Matches {α : Type} : Fields α → List (String × Shape) → Prop
  | nil, [] => True
  | cons f rest, (key, shape) :: shapes =>
    f.key = key ∧ (∀ a v, f.write a = some v → shape.Fits v) ∧ rest.Matches shapes
  | _, _ => False

/-- The mapping that fields write has the shape that is told by theirs. -/
theorem fieldsFit_write {α : Type} (fs : Fields α) {shapes : List (String × Shape)}
    (h : fs.Matches shapes) (a : α) : Shape.FieldsFit shapes (fs.write a) := by
  induction fs generalizing shapes with
  | nil =>
      cases shapes with
      | nil => exact .nil
      | cons _ _ => exact h.elim
  | cons f rest ih =>
      obtain ⟨a, as⟩ := a
      cases shapes with
      | nil => exact h.elim
      | cons entry shapes =>
          obtain ⟨key, shape⟩ := entry
          obtain ⟨rfl, hwrite, hrest⟩ := h
          cases hw : f.write a with
          | none => simpa only [write, hw] using Shape.FieldsFit.absent (ih hrest as)
          | some v =>
              simpa only [write, hw] using Shape.FieldsFit.present (hwrite a v hw) (ih hrest as)

end Fields

/-- The mapping that a record is written as has the shape that is told by its fields. -/
theorem Model.fits_toMapping {α : Type} (m : Model α) {shapes : List (String × Shape)}
    (h : m.fields.Matches shapes) (a : α) :
    (Shape.mapping shapes).Fits (.dict (m.toMapping a)) :=
  .mapping (m.fields.fieldsFit_write h (m.parts a))

end Tocsin.Config
