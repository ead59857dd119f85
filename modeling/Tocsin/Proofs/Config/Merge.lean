import Mathlib
import Tocsin.Config.Schema
import Tocsin.Proofs.Config.RoundTrip

/-!
# Mappings that are put together

Mappings with text keys can be looked at in two ways: as lists of entries in an order, and as tables
from keys to values.  `Mapping.IsKeyed` says that the keys are texts and that no two are the same,
so that the table tells all but the order of the entries (`Mapping.perm_of_get?_eq`).  Putting
values into a mapping keeps this, and what it does to the table is told by `Mapping.get?_put` and
`Mapping.get?_foldl_put`.
-/

set_option autoImplicit false

namespace Tocsin.Config

/-- Only a text is the same key as a text, and it is that very text. -/
theorem Value.sameKey_text {v : Value} {key : String} :
    v.sameKey (.text key) = true ↔ v = .text key := by
  cases v <;> simp [Value.sameKey, Value.sameKey.integer?]

namespace Mapping

/-- Only an entry under the very key is found. -/
theorem get?_cons (name key : String) (v : Value) (m : Mapping) :
    Mapping.get? name ((.text key, v) :: m) = if key = name then some v else get? name m := rfl

/-- An entry whose key is no text is passed over. -/
theorem get?_cons_of_ne {name : String} {k : Value} (hk : k ≠ .text name) (v : Value)
    (m : Mapping) : Mapping.get? name ((k, v) :: m) = get? name m := by
  cases k with
  | text key =>
      have hne : key ≠ name := fun heq => hk (heq ▸ rfl)
      rw [get?_cons, if_neg hne]
  | _ => rfl

/-- A value that is put under a key is found there, and all else is found where it was. -/
theorem get?_put (name key : String) (v : Value) (m : Mapping) :
    get? name (put (.text key) v m) = if key = name then some v else get? name m := by
  induction m with
  | nil => rfl
  | cons entry m ih =>
      obtain ⟨k, w⟩ := entry
      unfold put
      split
      next hsame =>
        rw [Value.sameKey_text.mp hsame, get?_cons, get?_cons]
        split <;> rfl
      next hsame =>
        by_cases hk : k = .text name
        · subst hk
          have hne : key ≠ name := fun heq => hsame (Value.sameKey_text.mpr (heq ▸ rfl))
          rw [get?_cons, get?_cons, if_neg hne, if_pos rfl, if_pos rfl]
        · rw [get?_cons_of_ne hk, get?_cons_of_ne hk, ih]

/-- Where all keys are texts, a value that is put under a text stands under its old place among the
keys, or at the end. -/
theorem map_fst_put {m : Mapping} {names : List String} (h : m.map Prod.fst = names.map Value.text)
    (key : String) (v : Value) :
    (put (.text key) v m).map Prod.fst =
      (if key ∈ names then names else names ++ [key]).map Value.text := by
  induction m generalizing names with
  | nil =>
      rw [List.map_eq_nil_iff.mp h.symm]
      rfl
  | cons entry m ih =>
      obtain ⟨k, w⟩ := entry
      obtain ⟨name, names, rfl, rfl, hrest⟩ := List.map_eq_cons_iff.mp h.symm
      unfold put
      split
      next hsame =>
        cases Value.sameKey_text.mp hsame
        simpa using hrest.symm
      next hsame =>
        have hne : key ≠ name := fun heq => hsame (Value.sameKey_text.mpr (heq ▸ rfl))
        rw [List.map_cons, ih hrest.symm]
        simp only [List.mem_cons, hne, false_or]
        split <;> rfl

/-- Where all keys are texts, nothing is found under a text that is not among them. -/
theorem get?_eq_none {m : Mapping} {names : List String} (h : m.map Prod.fst = names.map Value.text)
    {key : String} (hkey : key ∉ names) : m.get? key = none := by
  induction m generalizing names with
  | nil => rfl
  | cons entry m ih =>
      obtain ⟨k, w⟩ := entry
      obtain ⟨name, names, rfl, rfl, hrest⟩ := List.map_eq_cons_iff.mp h.symm
      rw [List.mem_cons, not_or] at hkey
      rw [get?_cons, if_neg (Ne.symm hkey.1)]
      exact ih hrest.symm hkey.2

/-! ## Mappings with distinct text keys -/

/-- The keys of a mapping are texts, and no two are the same. -/
def IsKeyed (m : Mapping) : Prop :=
  ∃ names : List String, m.map Prod.fst = names.map .text ∧ names.Nodup

/-- A mapping without entries is keyed by texts. -/
theorem isKeyed_nil : IsKeyed [] := ⟨[], rfl, List.nodup_nil⟩

/-- Putting a value under a text keeps the keys distinct texts. -/
theorem IsKeyed.put {m : Mapping} (h : m.IsKeyed) (key : String) (v : Value) :
    IsKeyed (Mapping.put (.text key) v m) := by
  obtain ⟨names, hnames, hdistinct⟩ := h
  refine ⟨_, map_fst_put hnames key v, ?_⟩
  split
  next => exact hdistinct
  next hnew => exact List.nodup_append_comm.mp (List.nodup_cons.mpr ⟨hnew, hdistinct⟩)

/-- The rest of a mapping with distinct text keys has them, too, and not the first one. -/
theorem IsKeyed.of_cons {k v : Value} {m : Mapping} (h : IsKeyed ((k, v) :: m)) :
    ∃ key, k = .text key ∧ m.get? key = none ∧ m.IsKeyed := by
  obtain ⟨names, hnames, hdistinct⟩ := h
  obtain ⟨key, names, rfl, rfl, hrest⟩ := List.map_eq_cons_iff.mp hnames.symm
  obtain ⟨hnew, hdistinct⟩ := List.nodup_cons.mp hdistinct
  exact ⟨key, rfl, get?_eq_none hrest.symm hnew, names, hrest.symm, hdistinct⟩

/-- The entries of a mapping with distinct text keys are those that are found. -/
theorem IsKeyed.mem_iff {m : Mapping} (h : m.IsKeyed) (k v : Value) :
    (k, v) ∈ m ↔ ∃ key, k = .text key ∧ m.get? key = some v := by
  induction m with
  | nil => simp [get?]
  | cons entry m ih =>
      obtain ⟨k', w⟩ := entry
      obtain ⟨name, rfl, hnone, hrest⟩ := h.of_cons
      rw [List.mem_cons, ih hrest]
      constructor
      · rintro (heq | ⟨key, rfl, hfound⟩)
        · cases heq
          exact ⟨name, rfl, by rw [get?_cons, if_pos rfl]⟩
        · refine ⟨key, rfl, ?_⟩
          have hne : name ≠ key := by
            rintro rfl
            rw [hnone] at hfound
            cases hfound
          rw [get?_cons, if_neg hne, hfound]
      · rintro ⟨key, rfl, hfound⟩
        rw [get?_cons] at hfound
        split at hfound
        next heq =>
          cases hfound
          exact .inl (by rw [heq])
        next => exact .inr ⟨key, rfl, hfound⟩

/-- A mapping with distinct text keys has no entry twice. -/
theorem IsKeyed.nodup {m : Mapping} (h : m.IsKeyed) : m.Nodup := by
  obtain ⟨names, hnames, hdistinct⟩ := h
  apply List.Nodup.of_map Prod.fst
  rw [hnames]
  exact hdistinct.map fun a b hab => by simpa using hab

/-- Two mappings with distinct text keys have the same entries if the same is found in them. -/
theorem perm_of_get?_eq {m n : Mapping} (hm : m.IsKeyed) (hn : n.IsKeyed)
    (h : ∀ key, m.get? key = n.get? key) : m.Perm n := by
  rw [List.perm_ext_iff_of_nodup hm.nodup hn.nodup]
  rintro ⟨k, v⟩
  rw [hm.mem_iff, hn.mem_iff]
  simp only [h]

/-! ## Many values -/

/-- After the entries of a mapping with distinct text keys were put into another one, each of them
is found, and all else where it was. -/
theorem get?_foldl_put {n : Mapping} (h : n.IsKeyed) (name : String) (m : Mapping) :
    get? name (n.foldl (fun l p => Mapping.put p.1 p.2 l) m) = (n.get? name).or (m.get? name) := by
  induction n generalizing m with
  | nil => rfl
  | cons entry n ih =>
      obtain ⟨k, v⟩ := entry
      obtain ⟨key, rfl, hnone, hrest⟩ := h.of_cons
      rw [List.foldl_cons, ih hrest, get?_put, get?_cons]
      split
      next heq =>
        rw [← heq, hnone]
        rfl
      next => rfl

/-- Entries with text keys that are put into a mapping with distinct text keys keep it one. -/
theorem IsKeyed.foldl_put {m n : Mapping} (hm : m.IsKeyed) (hn : n.IsKeyed) :
    IsKeyed (n.foldl (fun l p => Mapping.put p.1 p.2 l) m) := by
  induction n generalizing m with
  | nil => exact hm
  | cons entry n ih =>
      obtain ⟨k, v⟩ := entry
      obtain ⟨key, rfl, -, hrest⟩ := hn.of_cons
      exact ih (hm.put key v) hrest

/-- The entries of two mappings put together, those of the second one over those of the first. -/
theorem get?_ofPairs_append {m n : Mapping} (hm : m.IsKeyed) (hn : n.IsKeyed) (name : String) :
    get? name (ofPairs (m ++ n)) = (n.get? name).or (m.get? name) := by
  unfold ofPairs
  rw [List.foldl_append, get?_foldl_put hn, get?_foldl_put hm]
  congr 1
  exact Option.or_none

/-- Mappings with distinct text keys put together make one. -/
theorem isKeyed_ofPairs_append {m n : Mapping} (hm : m.IsKeyed) (hn : n.IsKeyed) :
    IsKeyed (ofPairs (m ++ n)) := by
  unfold ofPairs
  rw [List.foldl_append]
  exact (isKeyed_nil.foldl_put hm).foldl_put hn

end Mapping

/-! ## What fields write -/

namespace Fields

variable {α : Type}

/-- Fields write distinct text keys if they have distinct keys. -/
theorem isKeyed_write (fs : Fields α) (h : fs.keys.Nodup) (a : α) : (fs.write a).IsKeyed := by
  have hsub : ∃ names : List String, names.Sublist fs.keys ∧
      (fs.write a).map Prod.fst = names.map Value.text := by
    clear h
    induction fs with
    | nil => exact ⟨[], .slnil, rfl⟩
    | cons f rest ih =>
        obtain ⟨a, as⟩ := a
        obtain ⟨names, hsub, hnames⟩ := ih as
        cases hw : f.write a with
        | none => exact ⟨names, hsub.cons _, by simpa only [write, hw] using hnames⟩
        | some v =>
            exact ⟨f.key :: names, hsub.cons_cons _,
              by simp only [write, hw, List.map_cons, hnames]⟩
  obtain ⟨names, hsub, hnames⟩ := hsub
  exact ⟨names, hnames, h.sublist hsub⟩

/-- What is found in the mapping that fields write: what the first one writes under its own key, and
what the others write. -/
theorem get?_write_cons {β : Type} (f : Field α) (rest : Fields β) (a : α) (b : β) (key : String) :
    Mapping.get? key (write (cons f rest) (a, b)) =
      if f.key = key then (f.write a).or (Mapping.get? key (rest.write b))
      else Mapping.get? key (rest.write b) := by
  cases hw : f.write a with
  | none => simp only [write, hw, Option.none_or, ite_self]
  | some v => simp only [write, hw, Mapping.get?_cons, Option.some_or]

/-- Each field writes of the third record what it writes of the first or, where that is nothing,
what it writes of the second. -/
def Fills {α : Type} : Fields α → α → α → α → Prop
  | nil, _, _, _ => True
  | cons f rest, (a, as), (b, bs), (c, cs) =>
    f.write c = (f.write a).or (f.write b) ∧ rest.Fills as bs cs

/-- What such a third record is written as is found in the first or else in the second mapping. -/
theorem get?_write_of_fills (fs : Fields α) (hkeys : fs.keys.Nodup) {a b c : α}
    (h : fs.Fills a b c) (key : String) :
    Mapping.get? key (fs.write c) =
      (Mapping.get? key (fs.write a)).or (Mapping.get? key (fs.write b)) := by
  induction fs with
  | nil => rfl
  | cons f rest ih =>
      obtain ⟨a, as⟩ := a
      obtain ⟨b, bs⟩ := b
      obtain ⟨c, cs⟩ := c
      obtain ⟨hwrite, hrest⟩ := h
      obtain ⟨hnew, hkeys⟩ := List.nodup_cons.mp hkeys
      rw [get?_write_cons, get?_write_cons, get?_write_cons, hwrite, ih hkeys hrest]
      split
      next heq =>
        have hnone : ∀ xs, Mapping.get? key (rest.write xs) = none := fun xs =>
          rest.get?_write_eq_none xs (heq ▸ hnew)
        simp only [hnone, Option.or_none]
      next => rfl

end Fields

end Tocsin.Config
