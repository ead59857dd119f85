import Tocsin.Config.Schema

/-!
# What is written reads back

A record is written field by field and read field by field, so a round trip is a matter of single
fields as long as the fields of a record do not get in each other's way.  `Fields.Separate` says
that they do not: no field can be taken for another one, whichever spelling is looked up.
`Field.ReadsBack` says what a single field has to do: what it writes for a value is read as a value
that is written in the same way, and what it leaves out is restored by its default.  From the two,
`Model.readEntries_toMapping` gives the round trip of whole records.

The value that is read back need not be the one that was written.  A nested alert, for instance,
remembers which of its fields were given, and this differs when null was given for one of them.
-/

set_option autoImplicit false

namespace Tocsin.Config

variable {α β : Type}

/-! ## Look-up in mappings -/

/-- A key that stands in the front of a mapping is found there, any other one behind it. -/
theorem Mapping.get?_append (key : String) (m n : Mapping) :
    Mapping.get? key (m ++ n) = (m.get? key).or (n.get? key) := by
  induction m with
  | nil => rfl
  | cons entry m ih =>
      obtain ⟨k, v⟩ := entry
      cases k with
      | text k =>
          simp only [List.cons_append, Mapping.get?]
          split
          · rfl
          · exact ih
      | _ => exact ih

/-- A single entry holds its own key and no other one. -/
theorem Mapping.get?_singleton (key other : String) (v : Value) :
    Mapping.get? key [(.text other, v)] = if other = key then some v else none := rfl

namespace Fields

/-- The keys that the fields use in configurations. -/
def keys {α : Type} : Fields α → List String
  | nil => []
  | cons f rest => f.key :: rest.keys

/-- No field can be taken for a later one or a later one for it, by key or by name. -/
def Separate {α : Type} : Fields α → Prop
  | nil => True
  | cons f rest => f.key ∉ rest.keys ∧ f.key ∉ rest.names ∧ f.name ∉ rest.keys ∧ rest.Separate

instance {α : Type} : (fs : Fields α) → Decidable fs.Separate
  | nil => .isTrue trivial
  | cons _ rest =>
    have : Decidable rest.Separate := instDecidableSeparate rest
    inferInstanceAs (Decidable (_ ∧ _ ∧ _ ∧ _))

/-- The fields write no key but their own. -/
theorem get?_write_eq_none (fs : Fields α) (a : α) {key : String} (h : key ∉ fs.keys) :
    Mapping.get? key (fs.write a) = none := by
  induction fs with
  | nil => rfl
  | cons f rest ih =>
      obtain ⟨a, as⟩ := a
      simp only [keys, List.mem_cons, not_or] at h
      cases hw : f.write a with
      | none => simpa only [write, hw] using ih as h.2
      | some v =>
          have hne : f.key ≠ key := Ne.symm h.1
          simpa only [write, hw, Mapping.get?, if_neg hne] using ih as h.2

end Fields

/-! ## Single fields -/

/-- What the field writes for `a` is read as `b`, or `b` is its default where it writes nothing;
and `b` is written like `a`. -/
def Field.ReadsBack (f : Field α) (a b : α) : Prop :=
  f.write b = f.write a ∧
    match f.write a with
    | some v => f.read v = .ok b
    | none => f.default? = some b

/-- A text field reads back the text that it wrote. -/
theorem Field.readsBack_text (name key : String) (default? : Option String) (s : String) :
    (Field.text name key default?).ReadsBack s s := ⟨rfl, rfl⟩

/-- A field that may be null reads back what its reader takes from its writer, and null where
nothing is written. -/
theorem Field.readsBack_optional (name key : String) (read : Reader α) (write : α → Value)
    (a b : Option α) (hwrite : b.map write = a.map write)
    (hread : ∀ x ∈ a, write x ≠ .null ∧ ∃ y ∈ b, read (write x) = .ok y) :
    (Field.optional name key read write).ReadsBack a b := by
  refine ⟨hwrite, ?_⟩
  cases a with
  | none =>
      have hb : b = none := by simpa using hwrite
      rw [hb]
      rfl
  | some x =>
      obtain ⟨hnull, y, hy, hx⟩ := hread x rfl
      rw [Option.mem_def.mp hy]
      show readOptional read (write x) = .ok (some y)
      unfold readOptional
      split
      · contradiction
      · rw [hx]
        rfl

/-- A field that may be null reads back what it wrote where its reader takes every value from its
writer. -/
theorem Field.readsBack_optional_self (name key : String) {read : Reader α} {write : α → Value}
    (a : Option α) (h : ∀ x ∈ a, write x ≠ .null ∧ read (write x) = .ok x) :
    (Field.optional name key read write).ReadsBack a a := by
  apply Field.readsBack_optional _ _ _ _ _ _ rfl
  intro x hx
  obtain ⟨hnull, hread⟩ := h x hx
  exact ⟨hnull, x, hx, hread⟩

/-! ## Lists of fields -/

namespace Fields

/-- Every field that is written for a part of the first record reads back as a part of the second.
-/
def ReadsBack {α : Type} : Fields α → α → α → Prop
  | nil, _, _ => True
  | cons f rest, (a, as), (b, bs) => f.ReadsBack a b ∧ rest.ReadsBack as bs

/-- What is read back is written like what was written. -/
theorem write_eq_of_readsBack (fs : Fields α) {a b : α} (h : fs.ReadsBack a b) :
    fs.write b = fs.write a := by
  induction fs with
  | nil => rfl
  | cons f rest ih =>
      obtain ⟨a, as⟩ := a
      obtain ⟨b, bs⟩ := b
      obtain ⟨⟨hwrite, -⟩, hrest⟩ := h
      simp only [write, hwrite, ih hrest]

/-- A field finds what it wrote behind entries that are not about it and before entries that other
fields wrote. -/
theorem check_of_readsBack {f : Field α} {a b : α} (h : f.ReadsBack a b) {before after : Mapping}
    (hkey : before.get? f.key = none) (hname : before.get? f.name = none)
    (hafter : after.get? f.key = none) (hafter' : after.get? f.name = none) :
    ∃ given, f.check (before ++ ((f.write a).map fun v => (.text f.key, v)).toList ++ after) =
      .ok (b, given) := by
  obtain ⟨-, h⟩ := h
  cases hw : f.write a with
  | none =>
      have hlookup : f.lookup (before ++ after) = none := by
        simp [Field.lookup, Mapping.get?_append, hkey, hname, hafter, hafter']
      simp only [hw] at h
      exact ⟨[], by simp [Field.check, hlookup, h]⟩
  | some v =>
      have hlookup : f.lookup (before ++ [(.text f.key, v)] ++ after) = some (f.key, v) := by
        simp [Field.lookup, Mapping.get?_append, Mapping.get?, hkey]
      simp only [hw] at h
      exact ⟨[f.name], by
        simp only [Option.map_some, Option.toList_some, Field.check, hlookup, h]
        rfl⟩

/-- The fields of a record find what they wrote behind entries that are not about any of them.  The
induction takes the fields one by one and counts each to the entries in front of the next. -/
theorem check_append_write (fs : Fields α) (hsep : fs.Separate) {a b : α} (h : fs.ReadsBack a b)
    (before : Mapping) (hbefore : ∀ key ∈ fs.keys ++ fs.names, before.get? key = none) :
    ∃ given, fs.check (before ++ fs.write a) = .ok (b, given) := by
  induction fs generalizing before with
  | nil => exact ⟨[], rfl⟩
  | cons f rest ih =>
      obtain ⟨a, as⟩ := a
      obtain ⟨b, bs⟩ := b
      obtain ⟨hf, hrest⟩ := h
      obtain ⟨hkeys, hnames, hname, hsep⟩ := hsep
      have hwrite : write (cons f rest) (a, as) =
          ((f.write a).map fun v => (.text f.key, v)).toList ++ rest.write as := by
        cases hw : f.write a <;> simp [write, hw]
      obtain ⟨given, hcheck⟩ := check_of_readsBack hf
        (hbefore f.key (by simp [keys])) (hbefore f.name (by simp [names]))
        (rest.get?_write_eq_none as hkeys) (rest.get?_write_eq_none as hname)
      obtain ⟨others, hothers⟩ := ih hsep hrest
        (before ++ ((f.write a).map fun v => (.text f.key, v)).toList) (by
          intro key hkey
          have hne : f.key ≠ key := by
            rintro rfl
            rcases List.mem_append.mp hkey with hkey | hkey
            · exact hkeys hkey
            · exact hnames hkey
          have hfront : before.get? key = none := by
            apply hbefore
            simp only [keys, names, List.mem_append, List.mem_cons]
            rcases List.mem_append.mp hkey with hkey | hkey
            · exact Or.inl (Or.inr hkey)
            · exact Or.inr (Or.inr hkey)
          cases hw : f.write a <;>
            simp [Mapping.get?_append, Mapping.get?_singleton, hfront, hne])
      refine ⟨given ++ others, ?_⟩
      rw [hwrite, ← List.append_assoc]
      simp only [check, hcheck, hothers]
      rfl

end Fields

/-! ## Sequences and records -/

/-- A sequence reads back if each of its items does. -/
theorem readItems_map {read : Reader α} {write : α → Value} (items : List α)
    (h : ∀ a ∈ items, read (write a) = .ok a) (index : Nat) :
    readItems read index (items.map write) = .ok items := by
  induction items generalizing index with
  | nil => rfl
  | cons a items ih =>
      have hrest := ih (fun b hb => h b (List.mem_cons_of_mem a hb)) (index + 1)
      simp only [List.map_cons, readItems, h a List.mem_cons_self, hrest]
      rfl

namespace Model

/-- A record is read back from the entries that it is written as, if its fields do not get in each
other's way and each of them reads back. -/
theorem readEntries_toMapping (m : Model α) (hsep : m.fields.Separate) {a b : α}
    (hback : m.fields.ReadsBack (m.parts a) (m.parts b)) (hbuild : m.build (m.parts b) = b) :
    ∃ given, m.readEntries (m.toMapping a) = .ok ⟨b, given⟩ := by
  obtain ⟨given, hcheck⟩ := m.fields.check_append_write hsep hback [] (by intro _ _; rfl)
  rw [List.nil_append] at hcheck
  refine ⟨given, ?_⟩
  unfold readEntries toMapping
  rw [hcheck]
  show Except.ok (Declared.mk (m.build (m.parts b)) given) = _
  rw [hbuild]

/-- A mapping whose entries can be read is a configuration that can be. -/
theorem fromMapping_dict {m : Model α} {entries : Mapping} {d : Declared α}
    (h : m.readEntries entries = .ok d) : m.fromMapping (.dict entries) = .ok d := by
  show Model.fromMapping.wrap m (m.readEntries entries) = _
  rw [h]
  rfl

/-- A mapping that is read as a record is read by its entries. -/
theorem readEntries_of_fromMapping {m : Model α} {entries : Mapping} {d : Declared α}
    (h : m.fromMapping (.dict entries) = .ok d) : m.readEntries entries = .ok d := by
  have hwrap : Model.fromMapping.wrap m (m.readEntries entries) = .ok d := h
  cases hread : m.readEntries entries with
  | ok e =>
      rw [hread] at hwrap
      cases hwrap
      rfl
  | error issues =>
      rw [hread] at hwrap
      cases hwrap

end Model

end Tocsin.Config
