import Mathlib
import Tocsin.Config.Schema
import Tocsin.Proofs.Config.RoundTrip

/-!
# Where issues point

The way of an issue is a list of keys and indices.  `Value.follow` takes it step by step, and
`Issue.PointsInto` says that it ends where the issue says: at the value at fault, or next to a field
that is missing.  What a single step leads to is a parameter, as there are two answers.
`Value.child?` knows the values of mappings and the items of lists and tuples; `Value.part?` also
knows the pairs of names and values that a record consists of where it is read as a sequence.

A schema has fields of all types.  To speak of what its fields complain about, the types can be left
out: a `Clause` is a field of which only the spelling, whether it may be absent and the complaints
of its reader are left.  What a record reports is what its clauses report, one after the other
(`Fields.issues_check`).
-/

set_option autoImplicit false

namespace Tocsin.Config

/-! ## Ways -/

namespace Value

/-- The value that a key or an index leads to in a mapping, a list or a tuple. -/
def child? : Value → Step → Option Value
  | dict entries, .key k => Mapping.get? k entries
  | list items, .index n => items[n]?
  | tuple items, .index n => items[n]?
  | _, _ => none

/-- The value that a key or an index leads to, where a record may also stand in the place of a
sequence: an index then counts its pairs of names and values. -/
def part? : Value → Step → Option Value
  | record r, .index n => (record r).items?.bind fun items => items[n]?
  | v, step => v.child? step

/-- An index counts the items that a value has where it is read as a sequence. -/
theorem part?_index {v : Value} {items : List Value} (h : v.items? = some items) (n : Nat) :
    v.part? (.index n) = items[n]? := by
  cases v <;> cases h <;> rfl

/-- The value at the end of a way. -/
def follow (next : Value → Step → Option Value) : Value → List Step → Option Value
  | v, [] => some v
  | v, step :: way => (next v step).bind fun w => follow next w way

end Value

/-- The way of an issue ends at the value that the issue shows.  Where a field is missing, the way
up to the last step ends at the mapping that the issue shows, and this has no such key. -/
inductive Issue.PointsInto (next : Value → Step → Option Value) (raw : Value) : Issue → Prop
  | value {kind : Issue.Kind} {way : List Step} {input : Value} (hkind : kind ≠ .missing)
      (hway : raw.follow next way = some input) : PointsInto next raw ⟨kind, way, input⟩
  | absent {way : List Step} {key : String} {entries : Mapping}
      (hway : raw.follow next way = some (.dict entries)) (hkey : Mapping.get? key entries = none) :
      PointsInto next raw ⟨.missing, way ++ [.key key], .dict entries⟩

namespace Issue

variable {next : Value → Step → Option Value}

/-- An issue of a part is an issue of the whole, one step further in. -/
theorem PointsInto.under {raw v : Value} {step : Step} {i : Issue} (hi : i.PointsInto next v)
    (hstep : next raw step = some v) : (i.under step).PointsInto next raw := by
  have hfollow : ∀ way : List Step, raw.follow next (step :: way) = v.follow next way := by
    intro way
    simp only [Value.follow, hstep, Option.bind_some]
  cases hi with
  | value hkind hway => exact .value hkind ((hfollow _).trans hway)
  | absent hway hkey =>
      have hfound := PointsInto.absent ((hfollow _).trans hway) hkey
      exact hfound

/-- A missing field is never the whole of what is read. -/
theorem PointsInto.loc_ne_nil {raw : Value} {i : Issue} (hi : i.PointsInto next raw)
    (hkind : i.kind = .missing) : i.loc ≠ [] := by
  cases hi with
  | value hne => exact absurd hkind hne
  | absent => simp

end Issue

/-! ## Issues of outcomes -/

namespace Checked

variable {α β : Type}

/-- The issues of an outcome, of which a result has none. -/
def issues : Checked α → List Issue
  | .ok _ => []
  | .error found => found

/-- Outcomes that fail say why. -/
def Reasoned (x : Checked α) : Prop := x ≠ .error []

/-- What is done with a value that was read adds no issues. -/
@[simp]
theorem issues_map (f : α → β) (x : Checked α) : issues (x.map f) = x.issues := by
  cases x <;> rfl

/-- Behind a step, the issues are the same, with this step in front of their ways. -/
@[simp]
theorem issues_under (step : Step) (x : Checked α) :
    (x.under step).issues = x.issues.map (·.under step) := by
  cases x <;> rfl

/-- Of two readings, the issues of the first come first. -/
@[simp]
theorem issues_both (x : Checked α) (y : Checked β) :
    (x.both y).issues = x.issues ++ y.issues := by
  cases x <;> cases y <;> simp [both, issues]

/-- A change of the result leaves the reasons alone. -/
theorem Reasoned.map {x : Checked α} (hx : x.Reasoned) (f : α → β) : Reasoned (x.map f) := by
  cases x with
  | ok a => simp [Reasoned, Except.map]
  | error found => simpa [Reasoned, Except.map] using hx

/-- Reasons stay reasons one step further in. -/
theorem Reasoned.under {x : Checked α} (hx : x.Reasoned) (step : Step) :
    (x.under step).Reasoned := by
  cases x with
  | ok a => simp [Reasoned, Checked.under]
  | error found => simpa [Reasoned, Checked.under] using hx

/-- Two outcomes that say why they fail say it together. -/
theorem Reasoned.both {x : Checked α} {y : Checked β} (hx : x.Reasoned) (hy : y.Reasoned) :
    (x.both y).Reasoned := by
  cases x <;> cases y <;> simp_all [Reasoned, Checked.both]

end Checked

/-! ## Readers -/

section Readers

variable {α : Type}

/-- An outcome is a result or the one thing that is wrong with a value as a whole. -/
def Checked.IsVerdict (v : Value) (x : Checked α) : Prop :=
  (∃ a, x = .ok a) ∨ ∃ kind, kind ≠ .missing ∧ x = .fail kind v

/-- A reader of scalars takes a value or names the one thing that is wrong with it. -/
def IsScalar (read : Reader α) : Prop := ∀ v, (read v).IsVerdict v

/-- The result of a look-up is there, or it is what is wrong. -/
theorem isVerdict_orFail {kind : Issue.Kind} (hkind : kind ≠ .missing) (v : Value)
    (o : Option α) : (orFail kind v o).IsVerdict v := by
  cases o with
  | none => exact .inr ⟨kind, hkind, rfl⟩
  | some a => exact .inl ⟨a, rfl⟩

/-- A double is an integer, or it is wrong in one way. -/
theorem isVerdict_integerOfFloat (v : Value) (x : Float) : (integerOfFloat v x).IsVerdict v := by
  unfold integerOfFloat
  dsimp only
  split
  · exact .inr ⟨_, by simp, rfl⟩
  · split
    · exact .inr ⟨_, by simp, rfl⟩
    · split
      · exact .inl ⟨_, rfl⟩
      · exact .inr ⟨_, by simp, rfl⟩

/-- A text spells an integer, or it is wrong in one way. -/
theorem isVerdict_integerOfText (v : Value) (cs : List Char) :
    (integerOfText v cs).IsVerdict v := by
  unfold integerOfText
  split
  · exact .inl ⟨_, rfl⟩
  · exact .inr ⟨_, by simp, rfl⟩
  · exact .inr ⟨_, by simp, rfl⟩

/-- Texts are read in one step. -/
theorem isScalar_readText : IsScalar readText := by
  intro v
  unfold readText
  split
  · exact .inl ⟨_, rfl⟩
  · split
    · exact .inl ⟨_, rfl⟩
    · exact .inr ⟨_, by simp, rfl⟩
  · exact .inr ⟨_, by simp, rfl⟩

/-- Truth values are read in one step. -/
theorem isScalar_readBool : IsScalar readBool := by
  intro v
  unfold readBool
  split
  · exact .inl ⟨_, rfl⟩
  · exact isVerdict_orFail (by simp) _ _
  · exact isVerdict_orFail (by simp) _ _
  · split
    · exact isVerdict_orFail (by simp) _ _
    · exact .inr ⟨_, by simp, rfl⟩
  · split
    · exact isVerdict_orFail (by simp) _ _
    · exact .inr ⟨_, by simp, rfl⟩
  · exact .inr ⟨_, by simp, rfl⟩

/-- Integers are read in one step. -/
theorem isScalar_readInt : IsScalar readInt := by
  intro v
  unfold readInt
  split
  · exact .inl ⟨_, rfl⟩
  · exact .inl ⟨_, rfl⟩
  · exact isVerdict_integerOfFloat _ _
  · exact isVerdict_integerOfText _ _
  · split
    · exact isVerdict_integerOfText _ _
    · exact .inr ⟨_, by simp, rfl⟩
  · exact .inr ⟨_, by simp, rfl⟩

/-- That a value lies below its least one is found out only after it was read, and is still a fault
of the value as it stood. -/
theorem isScalar_readIntFrom (minimum : Int) : IsScalar (readIntFrom minimum) := by
  intro v
  rcases isScalar_readInt v with ⟨n, hread⟩ | ⟨kind, hkind, hread⟩
  · simp only [readIntFrom, hread]
    split
    · exact .inl ⟨_, rfl⟩
    · exact .inr ⟨_, by simp, rfl⟩
  · simp only [readIntFrom, hread]
    exact .inr ⟨kind, hkind, rfl⟩

/-- A scalar may also be null. -/
theorem IsScalar.optional {read : Reader α} (h : IsScalar read) : IsScalar (readOptional read) := by
  intro v
  unfold readOptional
  split
  · exact .inl ⟨none, rfl⟩
  · rcases h v with ⟨a, hread⟩ | ⟨kind, hkind, hread⟩
    · exact .inl ⟨some a, by rw [hread]; rfl⟩
    · exact .inr ⟨kind, hkind, by rw [hread]; rfl⟩

/-- A sequence reports what its items report, under their indices. -/
theorem issues_readItems (read : Reader α) (items : List Value) (index : Nat) :
    (readItems read index items).issues =
      (items.zipIdx index).flatMap fun p => (read p.1).issues.map (·.under (.index p.2)) := by
  induction items generalizing index with
  | nil => rfl
  | cons v vs ih =>
      simp only [readItems, Checked.issues_map, Checked.issues_both, Checked.issues_under, ih,
        List.zipIdx_cons, List.flatMap_cons]

/-- A sequence says why it fails if its items do. -/
theorem reasoned_readItems {read : Reader α} (h : ∀ v, (read v).Reasoned) (items : List Value)
    (index : Nat) : (readItems read index items).Reasoned := by
  induction items generalizing index with
  | nil => simp [readItems, Checked.Reasoned]
  | cons v vs ih => exact (((h v).under _).both (ih _)).map _

end Readers

/-! ## Fields without their types -/

/-- The spellings of a field. -/
structure Spelling where
  /-- The key that configurations use. -/
  key : String
  /-- The attribute name that is accepted in its place. -/
  name : String
  deriving DecidableEq, Repr

namespace Spelling

/-- Both spellings. -/
def both (s : Spelling) : List String := [s.key, s.name]

/-- The value that counts for a field, and the key under which it stands: the one under the key of
configurations or, where there is none, the one under the attribute name. -/
def lookup (s : Spelling) (m : Mapping) : Option (String × Value) :=
  match m.get? s.key with
  | some v => some (s.key, v)
  | none => (m.get? s.name).map fun v => (s.name, v)

/-- The mapping with nothing but the value that counts for a field. -/
def only (s : Spelling) (m : Mapping) : Mapping :=
  (s.lookup m).toList.map fun (key, v) => (.text key, v)

/-- The value that counts stands under one of the spellings. -/
theorem lookup_eq_some {s : Spelling} {m : Mapping} {key : String} {v : Value}
    (h : s.lookup m = some (key, v)) : key ∈ s.both ∧ m.get? key = some v := by
  unfold lookup at h
  split at h
  next w hw =>
    cases h
    exact ⟨by simp [both], hw⟩
  next =>
    obtain ⟨w, hw, heq⟩ := Option.map_eq_some_iff.mp h
    cases heq
    exact ⟨by simp [both], hw⟩

/-- Where no value counts there is none under the key. -/
theorem get?_key_of_lookup_eq_none {s : Spelling} {m : Mapping} (h : s.lookup m = none) :
    m.get? s.key = none := by
  unfold lookup at h
  split at h
  next => cases h
  next hkey => exact hkey

/-- The value that counts still does when the rest is gone. -/
theorem lookup_only (s : Spelling) (m : Mapping) : s.lookup (s.only m) = s.lookup m := by
  unfold only
  cases h : s.lookup m with
  | none => rfl
  | some p =>
      obtain ⟨key, v⟩ := p
      have hkey := (lookup_eq_some h).1
      simp only [both, List.mem_cons, List.not_mem_nil, or_false] at hkey
      simp only [Option.toList_some, List.map_cons, List.map_nil, lookup, Mapping.get?_singleton]
      rcases hkey with rfl | rfl
      · simp
      · by_cases hname : s.name = s.key
        · simp [hname]
        · simp [hname]

end Spelling

/-- Whether an issue is about a field: its way begins with one of the spellings. -/
def Issue.concerns (s : Spelling) (i : Issue) : Bool :=
  match i.loc with
  | .key key :: _ => key ∈ s.both
  | _ => false

/-- The same issue, quoting another mapping where it says that a field is missing in the mapping
that is read. -/
def Issue.quoting (m : Mapping) (i : Issue) : Issue :=
  if i.kind = .missing ∧ i.loc.length = 1 then { i with input := .dict m } else i

/-- A field without the type of its values: what it complains about, and not what it gives. -/
structure Clause where
  spelling : Spelling
  /-- Whether the field must be present. -/
  required : Bool
  /-- What is wrong with a value of the field. -/
  faults : Value → List Issue

namespace Clause

/-- What a field reports of a mapping. -/
def report (c : Clause) (m : Mapping) : List Issue :=
  match c.spelling.lookup m with
  | some (key, v) => (c.faults v).map (·.under (.key key))
  | none => if c.required then [⟨.missing, [.key c.spelling.key], .dict m⟩] else []

/-- Whatever a field reports begins with one of its spellings. -/
theorem exists_loc_of_mem_report {c : Clause} {m : Mapping} {i : Issue} (h : i ∈ c.report m) :
    ∃ key ∈ c.spelling.both, ∃ way, i.loc = .key key :: way := by
  unfold report at h
  split at h
  next key v hlookup =>
    obtain ⟨j, -, rfl⟩ := List.mem_map.mp h
    exact ⟨key, (Spelling.lookup_eq_some hlookup).1, j.loc, rfl⟩
  next =>
    split at h
    · rw [List.mem_singleton.mp h]
      exact ⟨c.spelling.key, by simp [Spelling.both], [], rfl⟩
    · cases h

/-- All reports of a field are about it. -/
theorem filter_concerns_report (c : Clause) (m : Mapping) :
    (c.report m).filter (Issue.concerns c.spelling) = c.report m := by
  rw [List.filter_eq_self]
  intro i hi
  obtain ⟨key, hkey, way, hloc⟩ := exists_loc_of_mem_report hi
  simpa [Issue.concerns, hloc] using hkey

/-- No report of a field is about another one that is spelled differently. -/
theorem filter_concerns_report_of_disjoint {c : Clause} {s : Spelling}
    (h : c.spelling.both.Disjoint s.both) (m : Mapping) :
    (c.report m).filter (Issue.concerns s) = [] := by
  rw [List.filter_eq_nil_iff]
  intro i hi
  obtain ⟨key, hkey, way, hloc⟩ := exists_loc_of_mem_report hi
  simpa [Issue.concerns, hloc] using h hkey

/-- Issues point where they say if those of the values of the field do. -/
theorem pointsInto_of_mem_report {c : Clause}
    (h : ∀ v, ∀ i ∈ c.faults v, i.PointsInto Value.part? v) {m : Mapping} {i : Issue}
    (hi : i ∈ c.report m) : i.PointsInto Value.part? (.dict m) := by
  unfold report at hi
  split at hi
  next key v hlookup =>
    obtain ⟨j, hj, rfl⟩ := List.mem_map.mp hi
    exact (h v j hj).under (Spelling.lookup_eq_some hlookup).2
  next hlookup =>
    split at hi
    · rw [List.mem_singleton.mp hi]
      have hroot : (Value.dict m).follow Value.part? [] = some (.dict m) := rfl
      have hfound := Issue.PointsInto.absent hroot (Spelling.get?_key_of_lookup_eq_none hlookup)
      exact hfound
    · cases hi

/-- A field says of a mapping what it says of its own value alone, or of its absence; only the
mapping that is quoted differs. -/
theorem report_only {c : Clause} (h : ∀ v, ∀ i ∈ c.faults v, i.kind = .missing → i.loc ≠ [])
    (m : Mapping) : (c.report (c.spelling.only m)).map (Issue.quoting m) = c.report m := by
  unfold report
  rw [Spelling.lookup_only]
  split
  next key v hlookup =>
    rw [List.map_map]
    apply List.map_congr_left
    intro i hi
    -- An issue of the value of the field is at least two steps away if it is about an absence.
    have hlong : ¬ (i.kind = .missing ∧ i.loc.length + 1 = 1) := by
      rintro ⟨hkind, hlength⟩
      exact h v i hi hkind (List.length_eq_zero_iff.mp (by omega))
    exact if_neg hlong
  next hlookup =>
    split
    · rfl
    · rfl

end Clause

/-- The clause of a field. -/
def Field.clause {α : Type} (f : Field α) : Clause :=
  ⟨⟨f.key, f.name⟩, f.default?.isNone, fun v => (f.read v).issues⟩

/-- A field reports what its clause does. -/
theorem Field.issues_check {α : Type} (f : Field α) (m : Mapping) :
    (f.check m).issues = f.clause.report m := by
  have hlookup : f.clause.spelling.lookup m = f.lookup m := rfl
  unfold Field.check Clause.report
  rw [hlookup]
  cases f.lookup m with
  | some p =>
      obtain ⟨key, v⟩ := p
      rw [Checked.issues_map, Checked.issues_under]
      rfl
  | none =>
      have hrequired : f.clause.required = f.default?.isNone := rfl
      rw [hrequired]
      cases f.default? with
      | none => rfl
      | some a => rfl

/-- A field says why it fails if its reader does. -/
theorem Field.reasoned_check {α : Type} {f : Field α} (h : ∀ v, (f.read v).Reasoned)
    (m : Mapping) : (f.check m).Reasoned := by
  unfold Field.check
  split
  next key v _ => exact ((h v).under _).map _
  next => split <;> simp [Checked.Reasoned]

namespace Fields

variable {α : Type}

/-- The clauses of the fields, in order. -/
def clauses {α : Type} : Fields α → List Clause
  | nil => []
  | cons f rest => f.clause :: rest.clauses

/-- Every field has a property. -/
def Each (P : {β : Type} → Field β → Prop) {α : Type} : Fields α → Prop
  | nil => True
  | cons f rest => P f ∧ rest.Each P

/-- What every field has, every clause has if it can be told from the clause. -/
theorem Each.of_mem_clauses {P : {β : Type} → Field β → Prop} {Q : Clause → Prop} {fs : Fields α}
    (h : fs.Each P) (hQ : ∀ {β : Type} (f : Field β), P f → Q f.clause) {c : Clause}
    (hc : c ∈ fs.clauses) : Q c := by
  induction fs with
  | nil => cases hc
  | cons f rest ih =>
      rcases List.mem_cons.mp hc with rfl | hc
      · exact hQ f h.1
      · exact ih h.2 hc

/-- Fields say why they fail if each of their readers does. -/
theorem Each.reasoned_check {P : {β : Type} → Field β → Prop} {fs : Fields α} (h : fs.Each P)
    (hP : ∀ {β : Type} (f : Field β), P f → ∀ v, (f.read v).Reasoned) (m : Mapping) :
    (fs.check m).Reasoned := by
  induction fs with
  | nil => simp [check, Checked.Reasoned]
  | cons f rest ih => exact ((f.reasoned_check (hP f h.1) m).both (ih h.2)).map _

/-- The fields of a record report what their clauses report, one after the other. -/
theorem issues_check (fs : Fields α) (m : Mapping) :
    (fs.check m).issues = fs.clauses.flatMap (·.report m) := by
  induction fs with
  | nil => rfl
  | cons f rest ih =>
      simp only [check, Checked.issues_map, Checked.issues_both, Field.issues_check, ih, clauses,
        List.flatMap_cons]

end Fields

/-! ## Lists of clauses -/

/-- Of the reports of fields that are spelled apart, those about one of them are its own. -/
theorem filter_concerns_flatMap_report {cs : List Clause}
    (hapart : cs.Pairwise fun c d => c.spelling.both.Disjoint d.spelling.both) {c : Clause}
    (hc : c ∈ cs) (m : Mapping) :
    (cs.flatMap (·.report m)).filter (Issue.concerns c.spelling) = c.report m := by
  induction cs with
  | nil => cases hc
  | cons d ds ih =>
      obtain ⟨hd, hds⟩ := List.pairwise_cons.mp hapart
      rw [List.flatMap_cons, List.filter_append]
      rcases List.mem_cons.mp hc with rfl | hc
      · have hothers : (ds.flatMap (·.report m)).filter (Issue.concerns c.spelling) = [] := by
          rw [List.filter_flatMap, List.flatMap_eq_nil_iff]
          intro e he
          exact Clause.filter_concerns_report_of_disjoint (hd e he).symm m
        rw [Clause.filter_concerns_report, hothers, List.append_nil]
      · rw [Clause.filter_concerns_report_of_disjoint (hd c hc), List.nil_append]
        exact ih hds hc

end Tocsin.Config
