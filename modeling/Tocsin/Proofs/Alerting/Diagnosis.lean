import Mathlib
import Tocsin.Alerting.Failure
import Tocsin.Alerting.Schema
import Tocsin.Proofs.Config.Report

/-!
# What a rejected configuration is told

A configuration that cannot be read is answered with everything that is wrong with it.  `Diagnosis`
says what this amounts to: there is at least one issue, no two are about the same place, they stand
in the order of the declaration of fields and of the items of sequences, each points to the value at
fault, and the whole is put together from what the fields say on their own, so that no fault hides,
moves or changes another one.  The main statement is `Kind.diagnosis_of_fromMapping_eq_error`.

Records may stand in records: an alert in a provider configuration, and sequences of overrides and
of condition results.  `Kind.form` says which field holds what.  The properties of a kind are proved
from those of the kinds that its fields hold (`Kind.induction_on_nesting`).
-/

set_option autoImplicit false

namespace Tocsin.Alerting

open Tocsin.Config

/-- What a field holds. -/
inductive Form where
  | scalar
  | record (k : Kind)
  | sequence (k : Kind)
  deriving DecidableEq, Repr

/-- The kind of the records that a field holds, if it holds any. -/
def Form.kind? : Form → Option Kind
  | scalar => none
  | record k => some k
  | sequence k => some k

namespace Kind

/-- The spellings of the fields, in the order of their declaration. -/
def spellings (k : Kind) : List Spelling := k.model.fields.clauses.map (·.spelling)

/-- What the field with a spelling holds. -/
def form : Kind → String → Form
  | provider, s =>
    if s ∈ ["default-alert", "default_alert"] then .record alert
    else if s = "overrides" then .sequence override else .scalar
  | result, s =>
    if s ∈ ["condition-results", "condition_results"] then .sequence conditionResult else .scalar
  | _, _ => .scalar

/-- The keys of the fields that must be present. -/
def required : Kind → List String
  | endpoint => ["name"]
  | conditionResult => ["condition", "success"]
  | _ => []

/-- The position of the field with a spelling in the declaration. -/
def position (k : Kind) (s : String) : Nat := k.spellings.findIdx fun f => decide (s ∈ f.both)

/-- What is reported of a value that is read as a record. -/
def report (k : Kind) (v : Value) : List Issue := (k.model.read v).issues

/-- What is reported of a field when the mapping holds nothing else. -/
def alone (k : Kind) (s : Spelling) (m : Mapping) : List Issue :=
  (k.report (.dict (s.only m))).filter (Issue.concerns s)

end Kind

/-- The place of a value: the positions of the fields and the indices of the items that lead to it.
Depth first, places are ordered as lists of numbers are. -/
def Form.place : Form → List Step → List Nat
  | .record k, .key s :: way => k.position s :: (k.form s).place way
  | .sequence k, .index n :: way => n :: (Form.record k).place way
  | _, _ => []

/-- One issue stands before another one. -/
def Form.Before (form : Form) (i j : Issue) : Prop := form.place i.loc < form.place j.loc

/-- What is reported of the value of a field: at most one fault of a scalar, whatever is reported of
a record or of the items of a sequence, and nothing where null may stand for an absent one. -/
inductive Form.Tells : Form → Value → List Issue → Prop
  | sound (v : Value) : Tells .scalar v []
  | fault {kind : Issue.Kind} (hkind : kind ≠ .missing) (v : Value) :
      Tells .scalar v [⟨kind, [], v⟩]
  | absent (form : Form) : Tells form .null []
  | record (k : Kind) {v : Value} (hv : v ≠ .null) : Tells (.record k) v (k.report v)
  | items (k : Kind) {v : Value} {items : List Value} (hitems : v.items? = some items) :
      Tells (.sequence k) v
        (items.zipIdx.flatMap fun p => (k.report p.1).map (·.under (.index p.2)))
  | refused (k : Kind) {v : Value} (hitems : v.items? = none) :
      Tells (.sequence k) v [⟨.tupleType, [], v⟩]

/-- A list of issues says what is wrong with a mapping, and where. -/
structure Diagnosis (k : Kind) (m : Mapping) (issues : List Issue) : Prop where
  /-- Something is wrong. -/
  nonempty : issues ≠ []
  /-- No two issues are about the same place. -/
  distinct : (issues.map (·.loc)).Nodup
  /-- Issues stand in the order of fields and items. -/
  ordered : issues.Pairwise (Form.record k).Before
  /-- Every issue points to what it is about. -/
  located : ∀ i ∈ issues, i.PointsInto Value.part? (.dict m)
  /-- The whole is what the fields say on their own, one after the other. -/
  apart : issues = k.spellings.flatMap fun s => (k.alone s m).map (Issue.quoting m)
  /-- On its own, a field says what its form says of the value that counts for it. -/
  composed : ∀ s ∈ k.spellings, ∀ key v, s.lookup m = some (key, v) →
    ∃ told, (k.form s.key).Tells v told ∧ k.alone s m = told.map (·.under (.key key))
  /-- Where no value counts for it, a field is missing if it must be present. -/
  lacking : ∀ s ∈ k.spellings, s.lookup m = none →
    k.alone s m = if s.key ∈ k.required then [⟨.missing, [.key s.key], .dict []⟩] else []

/-! ## Fields of kinds -/

/-- The fields of a kind stand apart and in order. -/
theorem Kind.pairwise_spellings (k : Kind) :
    k.spellings.Pairwise fun s t => ∀ a ∈ s.both, ∀ b ∈ t.both, k.position a < k.position b := by
  cases k <;> decide

/-- A field holds the same by whichever spelling. -/
theorem Kind.form_of_mem_both (k : Kind) :
    ∀ s ∈ k.spellings, ∀ a ∈ s.both, k.form a = k.form s.key := by
  cases k <;> decide

/-- The fields without a default are the required ones. -/
theorem Kind.required_clauses (k : Kind) :
    ∀ c ∈ k.model.fields.clauses, c.required = decide (c.spelling.key ∈ k.required) := by
  cases k <;> decide

/-- Records are nested without cycles: what holds of a kind if it holds of the kinds that its fields
hold, holds of all. -/
theorem Kind.induction_on_nesting {P : Kind → Prop}
    (step : ∀ k, (∀ s, ∀ k' ∈ (k.form s).kind?, P k') → P k) (k : Kind) : P k := by
  have leaf : ∀ k, (∀ s, (k.form s).kind? = none) → P k := by
    intro k hnone
    apply step
    intro s k' hk'
    rw [hnone s] at hk'
    cases hk'
  have halert : P .alert := leaf _ fun _ => rfl
  have hoverride : P .override := leaf _ fun _ => rfl
  have hcondition : P .conditionResult := leaf _ fun _ => rfl
  cases k with
  | alert => exact halert
  | endpoint => exact leaf _ fun _ => rfl
  | override => exact hoverride
  | conditionResult => exact hcondition
  | provider =>
      apply step
      intro s k' hk'
      simp only [Kind.form] at hk'
      split at hk'
      · cases hk'
        exact halert
      · split at hk' <;> cases hk'
        exact hoverride
  | result =>
      apply step
      intro s k' hk'
      simp only [Kind.form] at hk'
      split at hk' <;> cases hk'
      exact hcondition

/-! ## Readers of fields -/

/-- A reader reports what a form says, and it says why when it fails. -/
def Form.Reads {α : Type} (form : Form) (read : Reader α) : Prop :=
  ∀ v, (read v).Reasoned ∧ form.Tells v (read v).issues

/-- A reader of scalars reports what scalars say. -/
theorem reads_scalar {α : Type} {read : Reader α} (h : IsScalar read) : Form.scalar.Reads read := by
  intro v
  rcases h v with ⟨a, hread⟩ | ⟨kind, hkind, hread⟩
  · rw [hread]
    exact ⟨by simp [Checked.Reasoned], .sound v⟩
  · rw [hread]
    exact ⟨by simp [Checked.Reasoned, Checked.fail], .fault hkind v⟩

/-- A reader of records that may be null reports what records say. -/
theorem reads_record {k : Kind} (h : ∀ v, (k.model.read v).Reasoned) :
    (Form.record k).Reads (readOptional k.model.read) := by
  intro v
  unfold readOptional
  split
  next => exact ⟨by simp [Checked.Reasoned], .absent _⟩
  next hv =>
    refine ⟨(h v).map some, ?_⟩
    rw [Checked.issues_map]
    exact .record k hv

/-- A reader of sequences of records reports what the records say. -/
theorem reads_sequence {k : Kind} (h : ∀ v, (k.model.read v).Reasoned) :
    (Form.sequence k).Reads (readSequence k.model.readValue) := by
  intro v
  have hread : ∀ w, (k.model.readValue w).issues = k.report w := fun w => Checked.issues_map _ _
  unfold readSequence
  split
  next items hitems =>
    refine ⟨reasoned_readItems (fun w => (h w).map _) items 0, ?_⟩
    rw [issues_readItems]
    simp only [hread]
    exact .items k hitems
  next hitems => exact ⟨by simp [Checked.Reasoned, Checked.fail], .refused k hitems⟩

/-- The reader of overrides reports what overrides say, and takes null for none. -/
theorem reads_overrides (h : ∀ v, (Override.model.read v).Reasoned) :
    (Form.sequence .override).Reads readOverrides := by
  intro v
  unfold readOverrides
  split
  next => exact ⟨by simp [Checked.Reasoned], .absent _⟩
  next => exact reads_sequence (k := .override) h v

/-- Every field is read as its form says. -/
def Kind.FieldsRead (k : Kind) : Prop := k.model.fields.Each fun f => (k.form f.key).Reads f.read

/-- A record whose fields say why they fail does so, too. -/
theorem Kind.FieldsRead.reasoned {k : Kind} (h : k.FieldsRead) (v : Value) :
    (k.model.read v).Reasoned := by
  have hentries : ∀ m : Mapping, (k.model.readEntries m).Reasoned := by
    intro m
    have hcheck := Fields.Each.reasoned_check h (fun f hf w => (hf w).1) m
    exact hcheck.map _
  cases v with
  | dict m => exact hentries m
  | record r =>
      show (orFail _ _ _).Reasoned
      cases k.model.ofRecord? r <;> simp [orFail, Checked.Reasoned, Checked.fail]
  | _ => simp [Model.read, Checked.Reasoned, Checked.fail]

/-- The fields of alerts are scalars. -/
theorem fieldsRead_alert : Kind.alert.FieldsRead :=
  ⟨reads_scalar isScalar_readText, reads_scalar isScalar_readBool.optional,
    reads_scalar (isScalar_readIntFrom 1).optional, reads_scalar (isScalar_readIntFrom 1).optional,
    reads_scalar isScalar_readText.optional, reads_scalar isScalar_readBool.optional, trivial⟩

/-- The fields of overrides are scalars. -/
theorem fieldsRead_override : Kind.override.FieldsRead :=
  ⟨reads_scalar isScalar_readText, reads_scalar isScalar_readText, trivial⟩

/-- The fields of condition results are scalars. -/
theorem fieldsRead_conditionResult : Kind.conditionResult.FieldsRead :=
  ⟨reads_scalar isScalar_readText, reads_scalar isScalar_readBool, trivial⟩

/-- The fields of every kind are read as their forms say. -/
theorem Kind.fieldsRead (k : Kind) : k.FieldsRead := by
  cases k with
  | alert => exact fieldsRead_alert
  | override => exact fieldsRead_override
  | conditionResult => exact fieldsRead_conditionResult
  | endpoint =>
      exact ⟨reads_scalar isScalar_readText, reads_scalar isScalar_readText,
        reads_scalar isScalar_readText, trivial⟩
  | provider =>
      exact ⟨reads_scalar isScalar_readText, reads_record fieldsRead_alert.reasoned,
        reads_overrides fieldsRead_override.reasoned, trivial⟩
  | result => exact ⟨reads_sequence fieldsRead_conditionResult.reasoned, trivial⟩

/-! ## Reports of kinds -/

namespace Kind

/-- A mapping is reported on field by field. -/
theorem report_dict (k : Kind) (m : Mapping) :
    k.report (.dict m) = k.model.fields.clauses.flatMap (·.report m) := by
  have hread : k.report (.dict m) = (k.model.fields.check m).issues := Checked.issues_map _ _
  rw [hread, Fields.issues_check]

/-- A value is a mapping, or there is at most one thing to say of it. -/
theorem report_cases (k : Kind) (v : Value) :
    (∃ m, v = .dict m) ∨ k.report v = [] ∨ k.report v = [⟨.modelType k.model.title, [], v⟩] := by
  cases v with
  | dict m => exact .inl ⟨m, rfl⟩
  | record r =>
      have hread : k.report (.record r) =
          (orFail (.modelType k.model.title) (.record r) (k.model.ofRecord? r)).issues := rfl
      rw [hread]
      cases k.model.ofRecord? r with
      | none => exact .inr (.inr rfl)
      | some a => exact .inr (.inl rfl)
  | _ => exact .inr (.inr rfl)

/-- A clause says what the form of its field says. -/
theorem tells_faults (k : Kind) {c : Clause} (hc : c ∈ k.model.fields.clauses) (v : Value) :
    (k.form c.spelling.key).Tells v (c.faults v) := by
  have h := k.fieldsRead.of_mem_clauses
    (Q := fun c => ∀ v, (k.form c.spelling.key).Tells v (c.faults v)) (fun f hf v => (hf v).2) hc
  exact h v

end Kind

/-! ## Where issues point -/

/-- What a form says points to its value if what the records in it say points to them. -/
theorem Form.Tells.pointsInto {form : Form} {v : Value} {told : List Issue}
    (h : form.Tells v told)
    (hnested : ∀ k ∈ form.kind?, ∀ w, ∀ i ∈ k.report w, i.PointsInto Value.part? w) :
    ∀ i ∈ told, i.PointsInto Value.part? v := by
  intro i hi
  cases h with
  | sound => cases hi
  | absent => cases hi
  | fault hkind =>
      rw [List.mem_singleton.mp hi]
      exact .value hkind rfl
  | record k hv => exact hnested k rfl v i hi
  | refused k hitems =>
      rw [List.mem_singleton.mp hi]
      exact .value (by simp) rfl
  | items k hitems =>
      obtain ⟨⟨item, n⟩, hitem, hi⟩ := List.mem_flatMap.mp hi
      obtain ⟨j, hj, rfl⟩ := List.mem_map.mp hi
      have hstep := (Value.part?_index hitems n).trans (List.mem_zipIdx_iff_getElem?.mp hitem)
      exact (hnested k rfl item j hj).under hstep

/-- Whatever is reported of a value points into it. -/
theorem Kind.pointsInto_of_mem_report (k : Kind) :
    ∀ v, ∀ i ∈ k.report v, i.PointsInto Value.part? v := by
  induction k using Kind.induction_on_nesting with
  | step k ih =>
      intro v i hi
      rcases k.report_cases v with ⟨m, rfl⟩ | hreport | hreport
      · rw [k.report_dict] at hi
        obtain ⟨c, hc, hi⟩ := List.mem_flatMap.mp hi
        exact Clause.pointsInto_of_mem_report
          (fun w => (k.tells_faults hc w).pointsInto (ih c.spelling.key)) hi
      · rw [hreport] at hi
        cases hi
      · rw [hreport] at hi
        rw [List.mem_singleton.mp hi]
        exact .value (by simp) rfl

/-! ## The order of issues -/

/-- One step further in, the order of issues is that of what stands there. -/
theorem before_under_index {k : Kind} {n : Nat} {i j : Issue} (h : (Form.record k).Before i j) :
    (Form.sequence k).Before (i.under (.index n)) (j.under (.index n)) :=
  List.cons_lt_cons_iff.mpr (.inr ⟨rfl, h⟩)

/-- An issue of an item stands before all issues of later items. -/
theorem before_of_index_lt {k : Kind} {m n : Nat} (h : m < n) (i j : Issue) :
    (Form.sequence k).Before (i.under (.index m)) (j.under (.index n)) :=
  List.cons_lt_cons_iff.mpr (.inl h)

/-- What a form says is in order if what the records in it say is. -/
theorem Form.Tells.ordered {form : Form} {v : Value} {told : List Issue} (h : form.Tells v told)
    (hnested : ∀ k ∈ form.kind?, ∀ w, (k.report w).Pairwise (Form.record k).Before) :
    told.Pairwise form.Before := by
  cases h with
  | sound => exact .nil
  | absent => exact .nil
  | fault => exact List.pairwise_singleton _ _
  | refused => exact List.pairwise_singleton _ _
  | record k => exact hnested k rfl v
  | @items k v items hitems =>
      rw [List.pairwise_flatMap]
      constructor
      · intro p hp
        rw [List.pairwise_map]
        exact (hnested k rfl p.1).imp before_under_index
      · -- Indices grow along a sequence.
        have hgrows : (items.zipIdx.map Prod.snd).Pairwise (· < ·) := by
          rw [List.zipIdx_map_snd]
          exact List.pairwise_lt_range'
        rw [List.pairwise_map] at hgrows
        apply hgrows.imp
        intro p q hlt i hi j hj
        obtain ⟨i, -, rfl⟩ := List.mem_map.mp hi
        obtain ⟨j, -, rfl⟩ := List.mem_map.mp hj
        exact before_of_index_lt hlt i j

/-- The clauses of a kind stand apart and in order. -/
theorem Kind.pairwise_clauses (k : Kind) :
    k.model.fields.clauses.Pairwise fun c d =>
      ∀ a ∈ c.spelling.both, ∀ b ∈ d.spelling.both, k.position a < k.position b :=
  List.pairwise_map.mp k.pairwise_spellings

/-- What a field reports is in order if what its form says is. -/
theorem Kind.ordered_report_clause {k : Kind} {c : Clause} (hc : c ∈ k.model.fields.clauses)
    (h : ∀ v, (c.faults v).Pairwise (k.form c.spelling.key).Before) (m : Mapping) :
    (c.report m).Pairwise (Form.record k).Before := by
  unfold Clause.report
  split
  next key v hlookup =>
    have hspelling : c.spelling ∈ k.spellings := List.mem_map_of_mem hc
    have hform := k.form_of_mem_both _ hspelling key (Spelling.lookup_eq_some hlookup).1
    rw [List.pairwise_map]
    apply (h v).imp
    intro i j hij
    apply List.cons_lt_cons_iff.mpr
    right
    rw [hform]
    exact ⟨rfl, hij⟩
  next =>
    split
    · exact List.pairwise_singleton _ _
    · exact .nil

/-- Whatever is reported of a value is in order. -/
theorem Kind.ordered_report (k : Kind) : ∀ v, (k.report v).Pairwise (Form.record k).Before := by
  induction k using Kind.induction_on_nesting with
  | step k ih =>
      intro v
      rcases k.report_cases v with ⟨m, rfl⟩ | hreport | hreport
      · rw [k.report_dict, List.pairwise_flatMap]
        constructor
        · intro c hc
          exact Kind.ordered_report_clause hc
            (fun w => (k.tells_faults hc w).ordered (ih c.spelling.key)) m
        · apply k.pairwise_clauses.imp
          intro c d hlt i hi j hj
          obtain ⟨a, ha, way, hi⟩ := Clause.exists_loc_of_mem_report hi
          obtain ⟨b, hb, way', hj⟩ := Clause.exists_loc_of_mem_report hj
          unfold Form.Before
          rw [hi, hj]
          exact List.cons_lt_cons_iff.mpr (.inl (hlt a ha b hb))
      · rw [hreport]
        exact .nil
      · rw [hreport]
        exact List.pairwise_singleton _ _

/-! ## Fields on their own -/

namespace Kind

/-- The clauses of a kind are spelled apart. -/
theorem disjoint_clauses (k : Kind) :
    k.model.fields.clauses.Pairwise fun c d => c.spelling.both.Disjoint d.spelling.both := by
  apply k.pairwise_clauses.imp
  intro c d hlt a hc hd
  exact lt_irrefl _ (hlt a hc a hd)

/-- On its own, a field is reported on as its clause reports. -/
theorem alone_eq_report {k : Kind} {c : Clause} (hc : c ∈ k.model.fields.clauses) (m : Mapping) :
    k.alone c.spelling m = c.report (c.spelling.only m) := by
  unfold alone
  rw [report_dict]
  exact filter_concerns_flatMap_report k.disjoint_clauses hc _

/-- What is reported of a mapping is what the fields say on their own, one after the other. -/
theorem report_dict_eq_alone (k : Kind) (m : Mapping) :
    k.report (.dict m) = k.spellings.flatMap fun s => (k.alone s m).map (Issue.quoting m) := by
  rw [report_dict, spellings, List.flatMap_map]
  apply List.flatMap_congr
  intro c hc
  have hinner : ∀ v, ∀ i ∈ c.faults v, i.kind = .missing → i.loc ≠ [] := fun v i hi =>
    ((k.tells_faults hc v).pointsInto (fun k' _ => k'.pointsInto_of_mem_report) i hi).loc_ne_nil
  rw [alone_eq_report hc, Clause.report_only hinner]

/-- On its own, a field says what its form says of the value that counts for it. -/
theorem exists_tells_alone {k : Kind} {s : Spelling} (hs : s ∈ k.spellings) {m : Mapping}
    {key : String} {v : Value} (hlookup : s.lookup m = some (key, v)) :
    ∃ told, (k.form s.key).Tells v told ∧ k.alone s m = told.map (·.under (.key key)) := by
  obtain ⟨c, hc, rfl⟩ := List.mem_map.mp hs
  refine ⟨c.faults v, k.tells_faults hc v, ?_⟩
  rw [alone_eq_report hc]
  unfold Clause.report
  rw [Spelling.lookup_only, hlookup]

/-- On its own, a field that is absent is missing if it is required. -/
theorem alone_of_lookup_eq_none {k : Kind} {s : Spelling} (hs : s ∈ k.spellings) {m : Mapping}
    (hlookup : s.lookup m = none) :
    k.alone s m = if s.key ∈ k.required then [⟨.missing, [.key s.key], .dict []⟩] else [] := by
  obtain ⟨c, hc, rfl⟩ := List.mem_map.mp hs
  have honly : c.spelling.only m = [] := by
    unfold Spelling.only
    rw [hlookup]
    rfl
  rw [alone_eq_report hc, honly]
  unfold Clause.report
  rw [k.required_clauses c hc]
  simp only [Spelling.lookup, Mapping.get?, Option.map_none, decide_eq_true_eq]

/-- Whatever is reported of a mapping, if anything is, is a diagnosis. -/
theorem diagnosis_report {k : Kind} {m : Mapping} (h : k.report (.dict m) ≠ []) :
    Diagnosis k m (k.report (.dict m)) where
  nonempty := h
  distinct := by
    apply List.pairwise_map.mpr
    apply (k.ordered_report (.dict m)).imp
    intro i j hlt heq
    unfold Form.Before at hlt
    rw [heq] at hlt
    exact lt_irrefl _ hlt
  ordered := k.ordered_report _
  located := k.pointsInto_of_mem_report _
  apart := k.report_dict_eq_alone m
  composed _ hs _ _ hlookup := exists_tells_alone hs hlookup
  lacking _ hs hlookup := alone_of_lookup_eq_none hs hlookup

end Kind

/-- A mapping that is rejected is answered with a diagnosis: the details of the failure are the
issues, of which there is at least one, no two about the same place, in the order of fields and
items, each pointing to the value at fault, and put together from what each field says on its own.
-/
theorem Kind.diagnosis_of_fromMapping_eq_error (k : Kind) (m : Mapping) (e : ConfigError)
    (h : k.model.fromMapping (.dict m) = .error e) :
    ∃ issues, e = .mismatch k.model.title issues ∧
      (Failure.unreadable e).details = .list (issues.map Issue.toValue) ∧
      Diagnosis k m issues := by
  have hreasoned := k.fieldsRead.reasoned (.dict m)
  cases hread : k.model.readEntries m with
  | ok a =>
      rw [Model.fromMapping_dict hread] at h
      cases h
  | error issues =>
      have hreport : k.report (.dict m) = issues := by
        show (k.model.readEntries m).issues = issues
        rw [hread]
        rfl
      have hne : k.report (.dict m) ≠ [] := by
        rw [hreport]
        rintro rfl
        exact hreasoned hread
      have he : e = .mismatch k.model.title issues := by
        have hwrap : Model.fromMapping.wrap k.model (k.model.readEntries m) = .error e := h
        rw [hread] at hwrap
        cases hwrap
        rfl
      refine ⟨issues, he, ?_, hreport ▸ diagnosis_report hne⟩
      rw [he]
      rfl

/-- A provider with a fault in each of its fields, which stand in no particular order. -/
def faultyProvider : Mapping :=
  [(.text "overrides", .list [.dict [(.text "group", .int 5)], .text "x"]),
    (.text "default_alert", .dict [(.text "failure-threshold", .int 0)]),
    (.text "webhook-url", .null)]

/-- What is wrong with it. -/
def faultyProviderIssues : List Issue :=
  [⟨.stringType, [.key "webhook-url"], .null⟩,
    ⟨.belowMinimum 1, [.key "default_alert", .key "failure-threshold"], .int 0⟩,
    ⟨.stringType, [.key "overrides", .index 0, .key "group"], .int 5⟩,
    ⟨.modelType "Override", [.key "overrides", .index 1], .text "x"⟩]

/-- It is rejected, and the issues are a diagnosis. -/
theorem faultyProvider_diagnosis :
    ProviderConfig.model.fromMapping (.dict faultyProvider) =
      .error (.mismatch "WeComProviderConfig" faultyProviderIssues) ∧
    Diagnosis .provider faultyProvider faultyProviderIssues := by
  have h : Kind.provider.model.fromMapping (.dict faultyProvider) =
      .error (.mismatch "WeComProviderConfig" faultyProviderIssues) := rfl
  obtain ⟨issues, he, -, hdiagnosis⟩ :=
    Kind.diagnosis_of_fromMapping_eq_error .provider faultyProvider _ h
  cases he
  exact ⟨h, hdiagnosis⟩

/-- A result in the place of the condition results that it holds.  It is read as the sequence of its
names and values. -/
def nestedResult : Mapping := [(.text "condition-results", .record (.result ⟨[]⟩))]

/-- Keys and indices of lists and tuples are not enough to follow the way of every issue: a record
may stand where a sequence is expected, and then an index counts its names and values. -/
theorem nestedResult_not_pointsInto :
    ∃ issues, Result.model.fromMapping (.dict nestedResult) = .error (.mismatch "Result" issues) ∧
      ¬ ∀ i ∈ issues, i.PointsInto Value.child? (.dict nestedResult) := by
  refine ⟨[⟨.modelType "ConditionResult", [.key "condition-results", .index 0],
    .tuple [.text "condition_results", .tuple []]⟩], rfl, ?_⟩
  intro hall
  cases hall _ (List.mem_singleton_self _) with
  | value _ hway =>
      have hlost : (Value.dict nestedResult).follow Value.child?
          [.key "condition-results", .index 0] = none := rfl
      rw [hlost] at hway
      cases hway

end Tocsin.Alerting
