import Mathlib
import Tocsin.Alerting.Schema
import Tocsin.Proofs.Alerting.Diagnosis

/-!
# What counts in a configuration

A configuration can say one thing in many ways.  Its keys may stand in any order, a field may be
given under the key of configurations or under its attribute name, and keys that no field claims,
those that are no text, and a name beside the key of the same field say nothing at all.  What counts
for a field is `Spelling.effective`.  `Form.Same` says that two values say the same where a field of
some form is read: every field of a record has the same effective value in both, and so on for the
records that stand in it.

Values that say the same are read alike (`Kind.agree_read`): they give the same record, of which the
same fields were given, or they are rejected with issues that agree one by one, up to the spelling
of fields in their ways.  The main statement is `Kind.fromMapping_readAlike`.
-/

set_option autoImplicit false

namespace Tocsin.Config

/-- The value that counts for a field: the one under the key of configurations or, where there is
none, the one under the attribute name. -/
def Spelling.effective (s : Spelling) (m : Mapping) : Option Value := (s.lookup m).map (·.2)

namespace Fields

variable {α : Type}

/-- What follows from a property for single fields follows for all of them. -/
theorem Each.imp {P Q : {β : Type} → Field β → Prop} {fs : Fields α} (h : fs.Each P)
    (hPQ : ∀ {β : Type} (f : Field β), f.clause ∈ fs.clauses → P f → Q f) : fs.Each Q := by
  induction fs with
  | nil => trivial
  | cons f rest ih =>
      refine ⟨hPQ f List.mem_cons_self h.1, ih h.2 ?_⟩
      intro β g hg
      exact hPQ g (List.mem_cons_of_mem _ hg)

end Fields

end Tocsin.Config

namespace Tocsin.Alerting

open Tocsin.Config

/-! ## Values that say the same -/

/-- Two values say the same to a field of a form.  Where a record is expected, two mappings do if
every field of the record has an effective value in both or in neither and the two values say the
same to the field.  Where a sequence is expected, two sequences do if their items say the same one
by one.  Anything else says only what it is. -/
inductive Form.Same : Form → Value → Value → Prop
  | scalar (v : Value) : Same .scalar v v
  | unread {k : Kind} {v : Value} (hv : ∀ m, v ≠ .dict m) : Same (.record k) v v
  | mapping {k : Kind} {m n : Mapping}
      (hgiven : ∀ s ∈ k.spellings, (s.effective m).isSome = (s.effective n).isSome)
      (hsame : ∀ s ∈ k.spellings, ∀ v ∈ s.effective m, ∀ w ∈ s.effective n,
        Same (k.form s.key) v w) : Same (.record k) (.dict m) (.dict n)
  | refused {k : Kind} {v : Value} (hv : v.items? = none) : Same (.sequence k) v v
  | items {k : Kind} {v w : Value} {vs ws : List Value} (hv : v.items? = some vs)
      (hw : w.items? = some ws) (hlength : vs.length = ws.length)
      (hsame : ∀ a b, (a, b) ∈ vs.zip ws → Same (.record k) a b) : Same (.sequence k) v w

/-- Every value says what it says itself, whatever form is expected, if those of the records in the
form do. -/
theorem Form.same_self {form : Form} (h : ∀ k ∈ form.kind?, ∀ v, (Form.record k).Same v v)
    (v : Value) : form.Same v v := by
  cases form with
  | scalar => exact .scalar v
  | record k => exact h k rfl v
  | sequence k =>
      cases hv : v.items? with
      | none => exact .refused hv
      | some vs =>
          refine .items hv hv rfl ?_
          intro a b hab
          obtain ⟨i, hi, heq⟩ := List.mem_iff_getElem.mp hab
          rw [List.getElem_zip] at heq
          cases heq
          exact h k rfl _

/-- Every value says the same as itself where a record is expected. -/
theorem Kind.same_self (k : Kind) : ∀ v, (Form.record k).Same v v := by
  induction k using Kind.induction_on_nesting with
  | step k ih =>
      intro v
      cases v with
      | dict m =>
          refine .mapping (fun _ _ => rfl) ?_
          intro s _ v hv w hw
          rw [Option.mem_unique hv hw]
          exact Form.same_self (ih s.key) w
      | _ => exact .unread (by simp)

/-- Every value says the same as itself, whatever form is expected. -/
theorem Form.same_refl (form : Form) (v : Value) : form.Same v v :=
  Form.same_self (fun k _ => k.same_self) v

/-- Mappings in which the same is found say the same to every kind of records. -/
theorem Kind.same_of_get?_eq (k : Kind) {m n : Mapping} (h : ∀ key, m.get? key = n.get? key) :
    (Form.record k).Same (.dict m) (.dict n) := by
  have heffective : ∀ s : Spelling, s.effective m = s.effective n := by
    intro s
    simp only [Spelling.effective, Spelling.lookup, h]
  refine .mapping (fun s _ => congrArg Option.isSome (heffective s)) ?_
  intro s _ v hv w hw
  rw [heffective] at hv
  rw [Option.mem_unique hv hw]
  exact Form.same_refl _ w

/-! ## Outcomes that agree -/

/-- Two ways lead through the same fields and items, whichever spelling of a field they name. -/
inductive Form.SameWay : Form → List Step → List Step → Prop
  | here (form : Form) : SameWay form [] []
  | field {k : Kind} {s : Spelling} (hs : s ∈ k.spellings) {a b : String} (ha : a ∈ s.both)
      (hb : b ∈ s.both) {way way' : List Step} (h : SameWay (k.form s.key) way way') :
      SameWay (.record k) (.key a :: way) (.key b :: way')
  | item {k : Kind} (n : Nat) {way way' : List Step} (h : SameWay (.record k) way way') :
      SameWay (.sequence k) (.index n :: way) (.index n :: way')

/-- Two issues are the same up to the spelling of fields: they have one kind, which tells code,
wording and particulars, and their ways lead through the same fields and items. -/
structure Form.SameIssue (form : Form) (i j : Issue) : Prop where
  kind : i.kind = j.kind
  way : form.SameWay i.loc j.loc

/-- Two outcomes agree: they are the same result, or issues that are the same one by one. -/
inductive Form.Agree (form : Form) {α : Type} : Checked α → Checked α → Prop
  | result (a : α) : Agree form (.ok a) (.ok a)
  | issues {is js : List Issue} (h : List.Forall₂ form.SameIssue is js) :
      Agree form (.error is) (.error js)

namespace Form.Agree

variable {form : Form} {α β : Type}

/-- One fault of a value as a whole agrees with itself, whatever the values are. -/
theorem fail (kind : Issue.Kind) (v w : Value) :
    form.Agree (Checked.fail kind v : Checked α) (Checked.fail kind w) :=
  .issues (.cons ⟨rfl, .here form⟩ .nil)

/-- An outcome that agrees with a result is that result. -/
theorem eq_ok {x y : Checked α} (h : form.Agree x y) {a : α} (hx : x = .ok a) : y = .ok a := by
  cases h with
  | result b => exact hx
  | issues h => cases hx

/-- A change of the result keeps outcomes in agreement. -/
theorem map {x y : Checked α} (h : form.Agree x y) (f : α → β) :
    form.Agree (x.map f) (y.map f) := by
  cases h with
  | result a => exact .result (f a)
  | issues h => exact .issues h

/-- Outcomes that agree one step further in agree if the step is the same in both. -/
theorem under {inner : Form} {x y : Checked α} (h : inner.Agree x y) {step step' : Step}
    (hstep : ∀ way way', inner.SameWay way way' → form.SameWay (step :: way) (step' :: way')) :
    form.Agree (x.under step) (y.under step') := by
  cases h with
  | result a => exact .result a
  | issues h =>
      apply Form.Agree.issues
      rw [List.forall₂_map_left_iff, List.forall₂_map_right_iff]
      exact h.imp fun i j hij => ⟨hij.kind, hstep _ _ hij.way⟩

/-- Two outcomes taken together agree if each of them does. -/
theorem both {x x' : Checked α} {y y' : Checked β} (hx : form.Agree x x')
    (hy : form.Agree y y') : form.Agree (x.both y) (x'.both y') := by
  cases hx with
  | result a =>
      cases hy with
      | result b => exact .result (a, b)
      | issues h => exact .issues h
  | issues hx =>
      cases hy with
      | result b => exact .issues hx
      | issues hy => exact .issues (List.rel_append hx hy)

end Form.Agree

/-! ## Readers -/

/-- A reader takes values that say the same alike. -/
def Form.Respects {α : Type} (form : Form) (read : Reader α) : Prop :=
  ∀ v w, form.Same v w → form.Agree (read v) (read w)

section Readers

variable {α : Type} {k : Kind}

/-- A reader of scalars does, as scalars that say the same are equal. -/
theorem respects_scalar {read : Reader α} (h : IsScalar read) : Form.scalar.Respects read := by
  rintro v _ ⟨⟩
  rcases h v with ⟨a, hread⟩ | ⟨kind, -, hread⟩
  · rw [hread]
    exact .result a
  · rw [hread]
    exact .fail kind v v

/-- A reader that also takes null does if it does without. -/
theorem Form.Respects.optional {read : Reader α} (h : (Form.record k).Respects read) :
    (Form.record k).Respects (readOptional read) := by
  intro v w hvw
  cases hvw with
  | mapping hgiven hsame => exact (h _ _ (.mapping hgiven hsame)).map some
  | unread hv =>
      unfold readOptional
      split
      · exact .result none
      · exact (h _ _ (.unread hv)).map some

/-- Items that say the same one by one are read alike. -/
theorem agree_readItems {read : Reader α} (h : (Form.record k).Respects read)
    {vs ws : List Value} (hsame : List.Forall₂ (Form.record k).Same vs ws) (index : Nat) :
    (Form.sequence k).Agree (readItems read index vs) (readItems read index ws) := by
  induction hsame generalizing index with
  | nil => exact .result []
  | cons hvw _ ih =>
      have hfirst := (h _ _ hvw).under fun _ _ => Form.SameWay.item index
      exact (hfirst.both (ih (index + 1))).map _

/-- A reader of sequences takes them alike if its items are taken alike. -/
theorem Form.Respects.sequence {read : Reader α} (h : (Form.record k).Respects read) :
    (Form.sequence k).Respects (readSequence read) := by
  intro v w hvw
  unfold readSequence
  cases hvw with
  | refused hv =>
      rw [hv]
      exact .fail _ v v
  | items hv hw hlength hsame =>
      rw [hv, hw]
      exact agree_readItems h (List.forall₂_iff_zip.mpr ⟨hlength, fun hab => hsame _ _ hab⟩) 0

/-- So does the reader of overrides, for which null is a sequence without items. -/
theorem respects_overrides (h : (Form.record .override).Respects Override.model.readValue) :
    (Form.sequence .override).Respects readOverrides := by
  intro v w hvw
  have hsequence := h.sequence v w hvw
  unfold readOverrides
  cases hvw with
  | refused hv =>
      split
      · exact .result []
      · exact hsequence
  | items hv hw =>
      split
      · cases hv
      · split
        · cases hw
        · exact hsequence

end Readers

/-! ## Records -/

section Records

variable {k : Kind} {α : Type} {m n : Mapping}

/-- A field that has the same effective value in two mappings, or none in both, is checked alike. -/
theorem agree_check {f : Config.Field α} (hf : f.clause.spelling ∈ k.spellings)
    (hread : (k.form f.key).Respects f.read)
    (hgiven : (f.clause.spelling.effective m).isSome = (f.clause.spelling.effective n).isSome)
    (hsame : ∀ v ∈ f.clause.spelling.effective m, ∀ w ∈ f.clause.spelling.effective n,
      (k.form f.key).Same v w) :
    (Form.record k).Agree (f.check m) (f.check n) := by
  have hlookup : ∀ l, f.lookup l = f.clause.spelling.lookup l := fun _ => rfl
  unfold Spelling.effective at hgiven hsame
  unfold Field.check
  rw [hlookup, hlookup]
  cases hm : f.clause.spelling.lookup m with
  | none =>
      rw [hm, Option.map_none, Option.isSome_none] at hgiven
      cases hn : f.clause.spelling.lookup n with
      | some q => simp [hn] at hgiven
      | none =>
          cases f.default? with
          | some a => exact .result (a, [])
          | none =>
              have hkey : f.key ∈ f.clause.spelling.both := List.mem_cons_self
              exact .issues (.cons ⟨rfl, .field hf hkey hkey (.here _)⟩ .nil)
  | some p =>
      obtain ⟨a, v⟩ := p
      cases hn : f.clause.spelling.lookup n with
      | none => simp [hm, hn] at hgiven
      | some q =>
          obtain ⟨b, w⟩ := q
          have hvw := hread v w (hsame v (by simp [hm]) w (by simp [hn]))
          have ha := (Spelling.lookup_eq_some hm).1
          have hb := (Spelling.lookup_eq_some hn).1
          exact (hvw.under fun _ _ => Form.SameWay.field hf ha hb).map _

/-- A field is checked alike where its effective value is the same. -/
theorem agree_check_of_eq {f : Config.Field α} (hf : f.clause.spelling ∈ k.spellings)
    (hread : (k.form f.key).Respects f.read)
    (heq : f.clause.spelling.effective m = f.clause.spelling.effective n) :
    (Form.record k).Agree (f.check m) (f.check n) := by
  apply agree_check hf hread (congrArg Option.isSome heq)
  intro v hv w hw
  rw [heq] at hv
  rw [Option.mem_unique hv hw]
  exact Form.same_refl _ w

/-- Fields that are checked alike one by one are checked alike together. -/
theorem agree_check_each {fs : Fields α}
    (h : fs.Each fun f => (Form.record k).Agree (f.check m) (f.check n)) :
    (Form.record k).Agree (fs.check m) (fs.check n) := by
  induction fs with
  | nil => exact .result ((), [])
  | cons f rest ih => exact (h.1.both (ih h.2)).map _

/-- Every field of a kind takes values that say the same alike. -/
def Kind.FieldsRespect (k : Kind) : Prop :=
  k.model.fields.Each fun f => (k.form f.key).Respects f.read

/-- Then the records of the kind do, too. -/
theorem Kind.FieldsRespect.read (h : k.FieldsRespect) : (Form.record k).Respects k.model.read := by
  intro v w hvw
  cases hvw with
  | mapping hgiven hsame =>
      apply Form.Agree.map
      apply agree_check_each
      apply h.imp
      intro β f hf hread
      have hspelling : f.clause.spelling ∈ k.spellings := List.mem_map_of_mem hf
      exact agree_check hspelling hread (hgiven _ hspelling) (hsame _ hspelling)
  | unread hv =>
      cases v with
      | dict m => exact absurd rfl (hv m)
      | record r =>
          show (Form.record k).Agree (orFail _ _ _) (orFail _ _ _)
          cases k.model.ofRecord? r with
          | none => exact .fail _ _ _
          | some a => exact .result a
      | _ => exact .fail _ _ _

/-- The same without the fields that were given. -/
theorem Kind.FieldsRespect.readValue (h : k.FieldsRespect) :
    (Form.record k).Respects k.model.readValue := fun v w hvw => (h.read v w hvw).map _

end Records

/-- The fields of alerts are scalars. -/
theorem fieldsRespect_alert : Kind.alert.FieldsRespect :=
  ⟨respects_scalar isScalar_readText, respects_scalar isScalar_readBool.optional,
    respects_scalar (isScalar_readIntFrom 1).optional,
    respects_scalar (isScalar_readIntFrom 1).optional, respects_scalar isScalar_readText.optional,
    respects_scalar isScalar_readBool.optional, trivial⟩

/-- The fields of overrides are scalars. -/
theorem fieldsRespect_override : Kind.override.FieldsRespect :=
  ⟨respects_scalar isScalar_readText, respects_scalar isScalar_readText, trivial⟩

/-- The fields of condition results are scalars. -/
theorem fieldsRespect_conditionResult : Kind.conditionResult.FieldsRespect :=
  ⟨respects_scalar isScalar_readText, respects_scalar isScalar_readBool, trivial⟩

/-- The fields of every kind take values that say the same alike. -/
theorem Kind.fieldsRespect (k : Kind) : k.FieldsRespect := by
  cases k with
  | alert => exact fieldsRespect_alert
  | override => exact fieldsRespect_override
  | conditionResult => exact fieldsRespect_conditionResult
  | endpoint =>
      exact ⟨respects_scalar isScalar_readText, respects_scalar isScalar_readText,
        respects_scalar isScalar_readText, trivial⟩
  | provider =>
      exact ⟨respects_scalar isScalar_readText, fieldsRespect_alert.read.optional,
        respects_overrides fieldsRespect_override.readValue, trivial⟩
  | result => exact ⟨fieldsRespect_conditionResult.readValue.sequence, trivial⟩

/-- Values that say the same are read alike, wherever they stand. -/
theorem Kind.agree_read (k : Kind) {v w : Value} (h : (Form.record k).Same v w) :
    (Form.record k).Agree (k.model.read v) (k.model.read w) := k.fieldsRespect.read v w h

/-! ## Configurations -/

/-- What comes of two configurations of a kind that say the same: one record, of which the same
fields were given, or issues that are the same one by one. -/
inductive Kind.ReadAlike (k : Kind) :
    Except ConfigError (Declared k.Carrier) → Except ConfigError (Declared k.Carrier) → Prop
  | accepted (d : Declared k.Carrier) : ReadAlike k (.ok d) (.ok d)
  | rejected {is js : List Issue} (h : List.Forall₂ (Form.record k).SameIssue is js) :
      ReadAlike k (.error (.mismatch k.model.title is)) (.error (.mismatch k.model.title js))

/-- Mappings that are read alike are configurations that are. -/
theorem Kind.readAlike_of_agree {k : Kind} {m n : Mapping}
    (h : (Form.record k).Agree (k.model.readEntries m) (k.model.readEntries n)) :
    k.ReadAlike (k.model.fromMapping (.dict m)) (k.model.fromMapping (.dict n)) := by
  show k.ReadAlike (Model.fromMapping.wrap k.model (k.model.readEntries m))
    (Model.fromMapping.wrap k.model (k.model.readEntries n))
  generalize k.model.readEntries m = x at h ⊢
  generalize k.model.readEntries n = y at h ⊢
  cases h with
  | result d => exact .accepted d
  | issues h => exact .rejected h

/-- A look-up passes over an entry under another key. -/
theorem get?_between (key other : String) (v : Value) (before after : Mapping) :
    Mapping.get? key (before ++ (.text other, v) :: after) =
      (before.get? key).or (if other = key then some v else after.get? key) := by
  rw [Mapping.get?_append]
  rfl

/-- What stands under a key does not count for a field that is spelled otherwise. -/
theorem effective_between {s : Spelling} {other : String} (h : other ∉ s.both) (v w : Value)
    (before after : Mapping) :
    s.effective (before ++ (.text other, v) :: after) =
      s.effective (before ++ (.text other, w) :: after) := by
  have hkey : other ≠ s.key := by
    rintro rfl
    simp [Spelling.both] at h
  have hname : other ≠ s.name := by
    rintro rfl
    simp [Spelling.both] at h
  simp only [Spelling.effective, Spelling.lookup, get?_between, if_neg hkey, if_neg hname]

/-- Overrides that are null are read like an empty list of overrides, and do not change how the
other fields are read. -/
theorem agree_nullOverrides (before after : Mapping) :
    (Form.record .provider).Agree
      (ProviderConfig.model.readEntries (before ++ (.text "overrides", .null) :: after))
      (ProviderConfig.model.readEntries (before ++ (.text "overrides", .list []) :: after)) := by
  obtain ⟨hurl, halert, hoverrides, -⟩ := Kind.provider.fieldsRespect
  apply Form.Agree.map
  apply agree_check_each
  refine ⟨agree_check_of_eq (by decide) hurl (effective_between (by decide) _ _ _ _),
    agree_check_of_eq (by decide) halert (effective_between (by decide) _ _ _ _), ?_, trivial⟩
  cases hbefore : before.get? "overrides" with
  | some v =>
      -- An entry in front counts in either case.
      apply agree_check_of_eq (by decide) hoverrides
      simp [Spelling.effective, Spelling.lookup, Field.clause, get?_between, hbefore]
  | none =>
      have hcheck : ∀ v, readOverrides v = .ok [] →
          Field.check ⟨"overrides", "overrides", some [], readOverrides,
            fun os => some (.list (os.map fun o => .dict (Override.model.toMapping o)))⟩
            (before ++ (.text "overrides", v) :: after) = .ok ([], ["overrides"]) := by
        intro v hread
        simp only [Field.check, Field.lookup, get?_between, hbefore, Option.none_or, if_true,
          hread]
        rfl
      rw [hcheck .null rfl, hcheck (.list []) rfl]
      exact .result _

/-- Whichever way two configurations of a kind say the same, they are read alike: they give one
record, of which the same fields were given, so that it is also written in one way; or both are
rejected, with issues that agree one by one in kind and, up to the spelling of fields, in their
ways.  Overrides that are null are as good as an empty list of them. -/
theorem Kind.fromMapping_readAlike :
    (∀ (k : Kind) (m n : Mapping), (Form.record k).Same (.dict m) (.dict n) →
      k.ReadAlike (k.model.fromMapping (.dict m)) (k.model.fromMapping (.dict n))) ∧
    ∀ before after : Mapping,
      Kind.provider.ReadAlike
        (ProviderConfig.model.fromMapping (.dict (before ++ (.text "overrides", .null) :: after)))
        (ProviderConfig.model.fromMapping
          (.dict (before ++ (.text "overrides", .list []) :: after))) := by
  constructor
  · intro k m n h
    exact Kind.readAlike_of_agree (k.agree_read h)
  · intro before after
    exact Kind.readAlike_of_agree (k := .provider) (agree_nullOverrides before after)

/-- A provider under attribute names, with a fault in its default alert. -/
def providerByName : Mapping :=
  [(.text "overrides", .null), (.text "default_alert", .dict [(.text "failure_threshold", .int 0)]),
    (.text "webhook_url", .text "https://h/a")]

/-- The same provider under the keys of configurations, in another order, with keys that do not
count: one that is unknown, one that is no text, and a name beside the key of its field, with a
value that would have done. -/
def providerByKey : Mapping :=
  [(.text "webhook-url", .text "https://h/a"), (.text "webhook_url", .int 5), (.int 7, .null),
    (.text "default-alert",
      .dict [(.text "failure_threshold", .int 3), (.text "failure-threshold", .int 0)]),
    (.text "timeout", .text "1s"), (.text "overrides", .null)]

/-- They say the same, and are rejected alike: the value that would have done does not count. -/
theorem providerByKey_readAlike :
    (Form.record .provider).Same (.dict providerByName) (.dict providerByKey) ∧
    ProviderConfig.model.fromMapping (.dict providerByName) =
      .error (.mismatch "WeComProviderConfig"
        [⟨.belowMinimum 1, [.key "default_alert", .key "failure_threshold"], .int 0⟩]) ∧
    Kind.provider.ReadAlike (ProviderConfig.model.fromMapping (.dict providerByName))
      (ProviderConfig.model.fromMapping (.dict providerByKey)) := by
  have halert : (Form.record .alert).Same (.dict [(.text "failure_threshold", .int 0)])
      (.dict [(.text "failure_threshold", .int 3), (.text "failure-threshold", .int 0)]) := by
    refine .mapping (by decide) ?_
    intro s hs
    -- Only the threshold is given.
    fin_cases hs
    · rintro v ⟨⟩
    · rintro v ⟨⟩
    · rintro v ⟨⟩ w ⟨⟩
      exact .scalar _
    · rintro v ⟨⟩
    · rintro v ⟨⟩
    · rintro v ⟨⟩
  have hsame : (Form.record .provider).Same (.dict providerByName) (.dict providerByKey) := by
    refine .mapping (by decide) ?_
    intro s hs
    fin_cases hs
    · rintro v ⟨⟩ w ⟨⟩
      exact .scalar _
    · rintro v ⟨⟩ w ⟨⟩
      exact halert
    · rintro v ⟨⟩ w ⟨⟩
      exact .refused rfl
  exact ⟨hsame, rfl, Kind.fromMapping_readAlike.1 .provider _ _ hsame⟩

end Tocsin.Alerting
