import Mathlib
import Tocsin.Proofs.Config.Merge
import Tocsin.Settings.Layers

/-!
# Objects laid over one another

What `Layer.merge` makes of two objects is told here by its values and by the order of its keys.
Under each key stands what `overlay` makes of the two values there (`Layer.get?_merge`); but for
objects within objects, this is the upper value if there is one and else the lower one
(`UnlessObject.overlay`).  The keys are those of the lower object, in their order, and then the new
ones of the upper (`firstKey_merge`).
-/

set_option autoImplicit false

namespace Tocsin.Settings

open Tocsin.Config

/-! ## Values -/

/-- What stands under a key where what one object has under it is laid over what another one has. -/
def overlay (upper under : Option Value) : Option Value :=
  match upper with
  | none => under
  | some v => some (Layer.cover under v)

/-- A value that is laid over nothing stays as it is. -/
theorem Layer.cover_none (v : Value) : Layer.cover none v = v := by
  cases v <;> simp [Layer.cover]

/-- An object that is laid over anything makes an object. -/
theorem Layer.exists_cover_dict (under : Option Value) (upper : Mapping) :
    ∃ entries, Layer.cover under (.dict upper) = .dict entries := by
  unfold Layer.cover
  split <;> exact ⟨_, rfl⟩

/-- Over nothing, a value stays. -/
theorem overlay_none_right (upper : Option Value) : overlay upper none = upper := by
  cases upper with
  | none => rfl
  | some v => exact congrArg some (Layer.cover_none v)

/-- A value is another one, unless it is an object. -/
def UnlessObject (x y : Option Value) : Prop := x = y ∨ ∃ entries, x = some (.dict entries)

/-- A value stands for itself, object or not. -/
theorem UnlessObject.refl (x : Option Value) : UnlessObject x x := .inl rfl

/-- The upper value counts, and where there is none, the lower one. -/
theorem UnlessObject.overlay {x x' y y' : Option Value} (hx : UnlessObject x x')
    (hy : UnlessObject y y') : UnlessObject (overlay x y) (x'.or y') := by
  have hdict (entries : Mapping) : ∃ entries', Settings.overlay (some (.dict entries)) y =
      some (.dict entries') := by
    obtain ⟨entries', h⟩ := Layer.exists_cover_dict y entries
    exact ⟨entries', congrArg some h⟩
  rcases hx with rfl | ⟨entries, rfl⟩
  · cases x with
    | none => exact hy
    | some v =>
        cases v with
        | dict entries => exact .inr (hdict entries)
        | _ => exact .inl (by simp [Settings.overlay, Layer.cover])
  · exact .inr (hdict entries)

/-- A choice between values, each of which is another one unless it is an object. -/
theorem UnlessObject.or {x x' y y' : Option Value} (hx : UnlessObject x x')
    (hy : UnlessObject y y') : UnlessObject (x.or y) (x'.or y') := by
  rcases hx with rfl | ⟨entries, rfl⟩
  · cases x with
    | none => exact hy
    | some v => exact .refl _
  · exact .inr ⟨entries, rfl⟩

/-! ## Objects -/

/-- A text is looked up in an object like a name. -/
theorem Layer.find_text (key : String) (m : Mapping) : Layer.find (.text key) m = m.get? key := by
  induction m with
  | nil => rfl
  | cons entry m ih =>
      obtain ⟨k, v⟩ := entry
      unfold Layer.find at ih ⊢
      by_cases hk : k = .text key
      · subst hk
        have hsame : (Value.text key).sameKey (.text key) = true := Value.sameKey_text.mpr rfl
        rw [Mapping.get?_cons, if_pos rfl, List.find?_cons, hsame]
        rfl
      · have hother : k.sameKey (.text key) = false :=
          Bool.eq_false_iff.mpr fun h => hk (Value.sameKey_text.mp h)
        rw [Mapping.get?_cons_of_ne hk, List.find?_cons, hother]
        exact ih

/-- Under each key stands what the upper object has there, laid over what the lower one has. -/
theorem Layer.get?_merge {upper : Mapping} (h : upper.IsKeyed) (name : String) (under : Mapping) :
    Mapping.get? name (Layer.merge under upper) =
      overlay (upper.get? name) (under.get? name) := by
  induction upper generalizing under with
  | nil => rw [Layer.merge]; rfl
  | cons entry upper ih =>
      obtain ⟨k, v⟩ := entry
      obtain ⟨key, rfl, hnone, hrest⟩ := h.of_cons
      rw [Layer.merge, ih hrest, Mapping.get?_put, Mapping.get?_cons, Layer.find_text]
      split
      next heq =>
        subst heq
        rw [hnone]
        rfl
      next => rfl

/-- An object laid over another one has distinct keys if both have. -/
theorem isKeyed_merge {upper under : Mapping} (hupper : upper.IsKeyed) (hunder : under.IsKeyed) :
    (Layer.merge under upper).IsKeyed := by
  induction upper generalizing under with
  | nil => rwa [Layer.merge]
  | cons entry upper ih =>
      obtain ⟨k, v⟩ := entry
      obtain ⟨key, rfl, -, hrest⟩ := hupper.of_cons
      rw [Layer.merge]
      exact ih hrest (hunder.put key _)

/-! ## Orders of keys -/

/-- The first key of a kind. -/
def firstKey (p : String → Bool) : Mapping → Option String
  | [] => none
  | (.text key, _) :: rest => if p key then some key else firstKey p rest
  | _ :: rest => firstKey p rest

/-- A key that is put into an object comes behind those that are there. -/
theorem firstKey_put (p : String → Bool) (key : String) (v : Value) (m : Mapping) :
    firstKey p (Mapping.put (.text key) v m) =
      (firstKey p m).or (if p key then some key else none) := by
  induction m with
  | nil => rfl
  | cons entry m ih =>
      obtain ⟨k, w⟩ := entry
      unfold Mapping.put
      split
      next hsame =>
        cases Value.sameKey_text.mp hsame
        simp only [firstKey]
        by_cases hp : p key = true
        · simp only [hp, if_true, Option.some_or]
        · simp only [hp, Bool.false_eq_true, if_false, Option.or_none]
      next =>
        cases k with
        | text other =>
            simp only [firstKey, ih]
            split <;> rfl
        | _ => exact ih

/-- The keys of the upper object come behind those of the lower one. -/
theorem firstKey_merge (p : String → Bool) {upper : Mapping} (h : upper.IsKeyed)
    (under : Mapping) :
    firstKey p (Layer.merge under upper) = (firstKey p under).or (firstKey p upper) := by
  induction upper generalizing under with
  | nil => rw [Layer.merge]; exact (Option.or_none).symm
  | cons entry upper ih =>
      obtain ⟨k, v⟩ := entry
      obtain ⟨key, rfl, -, hrest⟩ := h.of_cons
      rw [Layer.merge, ih hrest, firstKey_put, Option.or_assoc]
      congr 1
      rw [firstKey]
      split <;> rfl

/-- The first key of a kind is of that kind. -/
theorem firstKey_eq_some {p : String → Bool} {m : Mapping} {key : String}
    (h : firstKey p m = some key) : p key = true := by
  induction m with
  | nil => cases h
  | cons entry m ih =>
      obtain ⟨k, v⟩ := entry
      cases k with
      | text other =>
          rw [firstKey] at h
          split at h
          next hp =>
            cases h
            exact hp
          next => exact ih h
      | _ => exact ih h

/-- The first entry with a key of a kind is found under the first key of that kind. -/
theorem find?_eq_firstKey {m : Mapping} (h : m.IsKeyed) (p : String → Bool) :
    (m.find? fun entry => match entry.1 with
      | .text key => p key
      | _ => false).map (·.2) = (firstKey p m).bind m.get? := by
  induction m with
  | nil => rfl
  | cons entry m ih =>
      obtain ⟨k, v⟩ := entry
      obtain ⟨key, rfl, -, hrest⟩ := h.of_cons
      rw [List.find?_cons, firstKey]
      dsimp only
      cases hp : p key with
      | true => simp only [if_true, Option.map_some, Option.bind_some, Mapping.get?_cons]
      | false =>
          dsimp only
          rw [if_neg Bool.false_ne_true, ih hrest]
          cases hfirst : firstKey p m with
          | none => rfl
          | some other =>
              have hne : key ≠ other := by
                rintro rfl
                rw [firstKey_eq_some hfirst] at hp
                cases hp
              rw [Option.bind_some, Option.bind_some, Mapping.get?_cons, if_neg hne]

end Tocsin.Settings
