import Mathlib
import Tocsin.Log.Redaction

/-!
# What redaction shows

Which fields are hidden is told by their names alone (`SpeaksOfSecret`), so what is shown of a record
depends on the values of the other fields and on nothing else, and hiding the same fields once more
changes nothing.

The fields of a record have distinct names, and a record can be redacted where it stands: one walks
over the names that it has at the start, and puts the hiding text in the place of each secret
(`Fields.hideEach`).  The record changes under the walk, but only where the walk has already been,
so this comes to the same.  The main statement is `redact_hides_exactly_secrets`.
-/

set_option autoImplicit false

namespace Tocsin.Log

open Tocsin.Config Tocsin.Text

/-! ## Names -/

/-- A name speaks of a secret: it is none of those that the log itself adds, and in lower case it is
one of five names, or one of three words stands somewhere in it. -/
def SpeaksOfSecret (name : String) : Prop :=
  name ∉ ["level", "event", "timestamp", "logger"] ∧
    (lower name ∈ ["webhook_url", "token", "secret", "key", "authorization"] ∨
      ∃ word ∈ ["token", "key", "secret"], word.toList <:+: (lower name).toList)

/-- A part occurs in a text if the text has something before it and something behind it. -/
theorem occursIn_iff_infix {part cs : List Char} : occursIn part cs = true ↔ part <:+: cs := by
  induction cs with
  | nil => simp [occursIn, List.isEmpty_iff]
  | cons c cs ih =>
      rw [occursIn, Bool.or_eq_true, List.isPrefixOf_iff_prefix, ih, List.infix_cons_iff]

/-- The names that are tested for are those that speak of a secret. -/
theorem isSensitive_iff {name : String} : isSensitive name = true ↔ SpeaksOfSecret name := by
  unfold isSensitive SpeaksOfSecret
  simp only [Bool.and_eq_true, Bool.or_eq_true, decide_eq_true_eq, List.any_eq_true,
    occursIn_iff_infix]
  rfl

/-! ## Fields -/

namespace Fields

/-- The names of the fields, in their order. -/
def names (fields : Fields) : List String := fields.map (·.1)

/-- Hides a secret in a record where it stands; any other name leaves the record as it is. -/
def hide (fields : Fields) (name : String) : Fields :=
  if isSensitive name then fields.put name (.text redactedText) else fields

/-- Hides the secrets among some names, one after the other. -/
def hideEach (fields : Fields) (names : List String) : Fields := names.foldl hide fields

/-- A field behind fields of other names is found by its own. -/
theorem put_append {name : String} {before : Fields} (h : name ∉ before.names) (v w : Value)
    (after : Fields) :
    (before ++ (name, v) :: after).put name w = before ++ (name, w) :: after := by
  induction before with
  | nil => simp [put]
  | cons field before ih =>
      simp only [names, List.map_cons, List.mem_cons, not_or] at h
      have hbefore := ih h.2
      rw [List.cons_append, put, if_neg (Ne.symm h.1), hbefore, List.cons_append]

/-- Hiding the field that the walk has come to changes this field alone. -/
theorem hide_append {name : String} {before : Fields} (h : name ∉ before.names) (v : Value)
    (after : Fields) :
    (before ++ (name, v) :: after).hide name = before ++ redact [(name, v)] ++ after := by
  unfold hide redact
  cases hsecret : isSensitive name with
  | false => simp [hsecret]
  | true => simp [hsecret, put_append h]

/-- A walk over the fields that are ahead leaves those behind it as they are.  The induction is on
the fields ahead, each of which is then counted to those behind the walk. -/
theorem hideEach_append {before ahead : Fields} (h : (names (before ++ ahead)).Nodup) :
    hideEach (before ++ ahead) (names ahead) = before ++ redact ahead := by
  induction ahead generalizing before with
  | nil => rfl
  | cons field ahead ih =>
      obtain ⟨name, v⟩ := field
      have hbehind : name ∉ before.names := by
        simp only [names, List.map_append, List.map_cons, List.nodup_append] at h
        exact fun hmem => h.2.2 name hmem name List.mem_cons_self rfl
      have hnext : (names (before ++ redact [(name, v)] ++ ahead)).Nodup := by
        simpa [names, redact] using h
      calc hideEach (before ++ (name, v) :: ahead) (names ((name, v) :: ahead))
          = hideEach (hide (before ++ (name, v) :: ahead) name) (names ahead) := rfl
        _ = hideEach (before ++ redact [(name, v)] ++ ahead) (names ahead) := by
            rw [hide_append hbehind]
        _ = before ++ redact [(name, v)] ++ redact ahead := ih hnext
        _ = before ++ redact ((name, v) :: ahead) := by simp [redact]

/-- A record is redacted by a walk over the names that it has at the start. -/
theorem hideEach_names {fields : Fields} (h : fields.names.Nodup) :
    fields.hideEach fields.names = redact fields :=
  @hideEach_append [] fields h

/-- Redaction keeps the names. -/
theorem names_redact (fields : Fields) : names (redact fields) = fields.names := by
  simp [names, redact]

/-- A value is looked up in the first field, and in the others if it has another name. -/
theorem get?_cons (field : String × Value) (fields : Fields) (name : String) :
    get? name (field :: fields) = if name = field.1 then some field.2 else fields.get? name := by
  unfold get?
  rw [List.lookup_cons]
  by_cases h : name = field.1
  · rw [if_pos h, beq_iff_eq.mpr h]
  · rw [if_neg h, beq_false_of_ne h]

/-- There is a value for a name if the name is among those of the record. -/
theorem isSome_get? (fields : Fields) (name : String) :
    (fields.get? name).isSome = decide (name ∈ fields.names) := by
  induction fields with
  | nil => rfl
  | cons field fields ih =>
      rw [get?_cons]
      split_ifs with hname
      · simp [names, hname]
      · rw [ih, decide_eq_decide]
        simp [names, hname]

/-- There is no value for other names. -/
theorem get?_eq_none {fields : Fields} {name : String} (h : name ∉ fields.names) :
    fields.get? name = none := by
  have hthere := fields.isSome_get? name
  rwa [decide_eq_false h, Option.isSome_eq_false_iff, Option.isNone_iff_eq_none] at hthere

/-- Under each name there is afterwards what was there, unless it is a secret. -/
theorem get?_redact (fields : Fields) (name : String) :
    (redact fields).get? name =
      (fields.get? name).map fun v => if isSensitive name then .text redactedText else v := by
  induction fields with
  | nil => rfl
  | cons field fields ih =>
      unfold redact at ih ⊢
      rw [List.map_cons, get?_cons, get?_cons, ih]
      split_ifs with hname <;> simp_all

/-- Distinct names in their order and what is found under them make up a record. -/
theorem eq_of_get?_eq {fields other : Fields} (h : fields.names.Nodup)
    (hnames : other.names = fields.names) (hget : ∀ name, other.get? name = fields.get? name) :
    other = fields := by
  induction fields generalizing other with
  | nil => exact List.map_eq_nil_iff.mp hnames
  | cons field fields ih =>
      obtain ⟨field', others, rfl, hfield, hothers⟩ := List.map_eq_cons_iff.mp hnames
      obtain ⟨hnew, hdistinct⟩ := List.nodup_cons.mp h
      have hvalue : field'.2 = field.2 := by
        have hfirst := hget field.1
        rw [get?_cons, get?_cons, if_pos hfield.symm, if_pos rfl] at hfirst
        exact Option.some.inj hfirst
      have hrest : others = fields := by
        refine ih hdistinct hothers fun name => ?_
        by_cases hname : name = field.1
        · -- The first name stands in neither of the rests, whose names are the same.
          have hnew' : field.1 ∉ names others := by
            rw [names, hothers]
            exact hnew
          rw [hname, get?_eq_none hnew, get?_eq_none hnew']
        · have hlater := hget name
          rwa [get?_cons, get?_cons, if_neg hname, if_neg (hfield ▸ hname)] at hlater
      rw [hrest, Prod.ext hfield hvalue]

/-- What is shown of a record is told by its names, in their order, and by the values that are no
secrets. -/
theorem redact_congr {fields other : Fields} (h : fields.names.Nodup)
    (hnames : other.names = fields.names)
    (hopen : ∀ name, isSensitive name = false → other.get? name = fields.get? name) :
    redact other = redact fields := by
  refine eq_of_get?_eq ?_ ?_ fun name => ?_
  · rwa [names_redact]
  · rw [names_redact, names_redact, hnames]
  · rw [get?_redact, get?_redact]
    cases hsecret : isSensitive name with
    | false => rw [hopen name hsecret]
    | true =>
        -- Of a secret it is only shown that it is there, which the names tell.
        have hthere : (other.get? name).isSome = (fields.get? name).isSome := by
          rw [isSome_get?, isSome_get?, hnames]
        cases hother : other.get? name <;> cases hfield : fields.get? name <;> simp_all

end Fields

/-- Fields are those of a mapping with their names for keys. -/
theorem ofMapping?_ofTexts (fields : Fields) :
    Fields.ofMapping? (Mapping.ofTexts fields) = some fields := by
  induction fields with
  | nil => rfl
  | cons field fields ih =>
      unfold Fields.ofMapping? Mapping.ofTexts at ih ⊢
      rw [List.map_cons, List.mapM_cons, ih]
      rfl

/-- Redaction changes nothing the second time. -/
theorem redact_redact (fields : Fields) : redact (redact fields) = redact fields := by
  unfold redact
  rw [List.map_map]
  apply List.map_congr_left
  rintro ⟨name, v⟩ -
  cases hsecret : isSensitive name <;> simp [hsecret]

/-- What redaction does to a record, whose names are distinct.  Every mapping with such keys can be
redacted, by a walk over its names that puts the hiding text in the place of one secret after the
other.  The names stay, in their order.  A value is hidden exactly if its name speaks of a secret,
and is left as it is otherwise; so records with the same names that differ in secrets alone are shown
alike.  Redaction changes nothing the second time, and records that share no name can be redacted
together or apart. -/
theorem redact_hides_exactly_secrets (fields : Fields) (h : fields.names.Nodup) :
    redactMapping (Mapping.ofTexts fields) = .ok (redact fields) ∧
    fields.hideEach fields.names = redact fields ∧
    Fields.names (redact fields) = fields.names ∧
    (∀ name, SpeaksOfSecret name →
      (redact fields).get? name = (fields.get? name).map fun _ => .text "***REDACTED***") ∧
    (∀ name, ¬ SpeaksOfSecret name → (redact fields).get? name = fields.get? name) ∧
    (∀ other : Fields, other.names = fields.names →
      (∀ name, ¬ SpeaksOfSecret name → other.get? name = fields.get? name) →
      redact other = redact fields) ∧
    redact (redact fields) = redact fields ∧
    ∀ other : Fields, other.names.Nodup → fields.names.Disjoint other.names →
      Fields.hideEach (fields ++ other) (Fields.names (fields ++ other)) =
        redact fields ++ redact other := by
  refine ⟨?_, Fields.hideEach_names h, fields.names_redact, ?_, ?_, ?_, redact_redact fields, ?_⟩
  · unfold redactMapping
    rw [ofMapping?_ofTexts]
  · intro name hsecret
    rw [fields.get?_redact, isSensitive_iff.mpr hsecret]
    rfl
  · intro name hopen
    rw [fields.get?_redact, Bool.eq_false_iff.mpr (mt isSensitive_iff.mp hopen)]
    exact Option.map_id'
  · intro other hnames hopen
    refine Fields.redact_congr h hnames fun name hsecret => hopen name ?_
    rwa [← isSensitive_iff, Bool.not_eq_true]
  · intro other hother hapart
    have hboth : (Fields.names (fields ++ other)).Nodup := by
      rw [Fields.names, List.map_append]
      exact h.append hother hapart
    rw [Fields.hideEach_names hboth]
    exact List.map_append

/-- A record with a key that is spelled with a Kelvin sign, which is a K in lower case. -/
def kelvinFields : Fields :=
  [("timestamp", .text "10:00"), ("WEBHOOK_\u212aEY", .text "693a"), ("attempts", .int 3)]

/-- The key is hidden, and the rest is shown. -/
theorem kelvinFields_redacted :
    kelvinFields.names.Nodup ∧ SpeaksOfSecret "WEBHOOK_\u212aEY" ∧ ¬ SpeaksOfSecret "attempts" ∧
      (redact kelvinFields).get? "WEBHOOK_\u212aEY" = some (.text "***REDACTED***") ∧
      (redact kelvinFields).get? "attempts" = some (.int 3) ∧
      redact [("timestamp", .text "10:00"), ("WEBHOOK_\u212aEY", .null), ("attempts", .int 3)] =
        redact kelvinFields := by
  have hdistinct : kelvinFields.names.Nodup := by decide
  have hsecret : SpeaksOfSecret "WEBHOOK_\u212aEY" := isSensitive_iff.mp (by decide +kernel)
  have hopen : ¬ SpeaksOfSecret "attempts" := mt isSensitive_iff.mpr (by decide +kernel)
  obtain ⟨-, -, -, hhidden, hshown, halike, -, -⟩ := redact_hides_exactly_secrets kelvinFields hdistinct
  refine ⟨hdistinct, hsecret, hopen, hhidden _ hsecret, hshown _ hopen, halike _ rfl ?_⟩
  intro name hname
  have hother : name ≠ "WEBHOOK_\u212aEY" := by
    rintro rfl
    exact hname hsecret
  simp only [kelvinFields, Fields.get?_cons, if_neg hother]

end Tocsin.Log
