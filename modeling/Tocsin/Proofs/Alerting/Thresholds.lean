import Mathlib
import Tocsin.Proofs.Alerting.Diagnosis
import Tocsin.Proofs.Decimal.Binary
import Tocsin.Proofs.Decimal.Numeral
import Tocsin.Proofs.Outcome

/-!
# Thresholds of alerts

An alert counts failures in a row and successes in a row, and has a threshold for each (`Streak`).
A threshold may be given as a number, a truth value, a double or a numeral (`Value.Denotes`).  What is
stored is the integer that the value denotes; what is refused for being too small is told of as it
was given; and what was stored is stored again when it is given again, as a number or in digits.  The
main statement is `Streak.thresholds_settled_by_denoted`.
-/

set_option autoImplicit false

/-! ## Values that denote integers -/

namespace Tocsin.Config

open Tocsin.Decimal Tocsin.Text

/-- The characters of a value that is read as a text. -/
def Value.chars? : Value → Option (List Char)
  | text s => some s.toList
  | bytes b => Utf8.decode? b
  | _ => none

/-- A value that is no text of more characters than an integer numeral can have digits. -/
def Value.IsShort (v : Value) : Prop := ∀ cs ∈ v.chars?, cs.length ≤ maxDigits

/-- A value denotes an integer: the number itself, one or zero for a truth value, the number that a
double of less than 64 bits is, and the number that a text spells. -/
inductive Value.Denotes (Whole : List Char → List Char → Prop) : Value → Int → Prop
  | int (n : Int) : Denotes Whole (.int n) n
  | bool (b : Bool) : Denotes Whole (.bool b) b.toInt
  | float {x : Float} {n : Int} (hx : (Binary.ofFloat x).toRat? = some (n : ℚ))
      (hlow : -2 ^ 63 < n) (hhigh : n < 2 ^ 63) : Denotes Whole (.float x) n
  | spelled {v : Value} {cs : List Char} {n : Int} (hcs : v.chars? = some cs)
      (h : Spells Whole cs n) : Denotes Whole v n

/-- The integer that a double is read as is the number that it is. -/
theorem integerOfFloat_eq_ok_iff {v : Value} {x : Float} {n : Int} :
    integerOfFloat v x = .ok n ↔
      (Binary.ofFloat x).toRat? = some (n : ℚ) ∧ -2 ^ 63 < n ∧ n < 2 ^ 63 := by
  rw [← Binary.integer?_eq_some_iff]
  unfold integerOfFloat
  dsimp only
  cases hx : Binary.ofFloat x with
  | nan => simp [Binary.isFinite, Binary.integer?, Checked.fail]
  | infinite negative => simp [Binary.isFinite, Binary.integer?, Checked.fail]
  | finite negative mantissa exponent =>
      rw [if_neg (by simp [Binary.isFinite])]
      cases hinteger : (Binary.finite negative mantissa exponent).integer? with
      | none => simp [Checked.fail]
      | some m =>
          dsimp only
          split_ifs with hrange
          · constructor
            · rintro ⟨⟩
              exact ⟨rfl, hrange⟩
            · rintro ⟨heq, -⟩
              cases heq
              rfl
          · constructor
            · rintro ⟨⟩
            · rintro ⟨heq, hlow, hhigh⟩
              cases heq
              exact (hrange ⟨hlow, hhigh⟩).elim

/-- The integer of a text is what reading it as a numeral comes to. -/
theorem integerOfText_eq_ok_iff {v : Value} {cs : List Char} {n : Int} :
    integerOfText v cs = .ok n ↔ readInteger cs = .value n := by
  unfold integerOfText
  cases readInteger cs <;> simp [Checked.fail]

/-- A value that is read as a text is read as the integer that is read from its characters. -/
theorem readInt_of_chars? {v : Value} {cs : List Char} (h : v.chars? = some cs) :
    readInt v = integerOfText v cs := by
  cases v <;> simp_all [Value.chars?, readInt]

/-- A value that denotes an integer and is no text that is too long is read as this integer. -/
theorem Value.Denotes.readInt_eq {v : Value} {n : Int} (h : v.Denotes LooselyGrouped n)
    (hshort : v.IsShort) : readInt v = .ok n := by
  cases h with
  | int => rfl
  | bool => rfl
  | float hx hlow hhigh => exact integerOfFloat_eq_ok_iff.mpr ⟨hx, hlow, hhigh⟩
  | spelled hcs hspells =>
      rw [readInt_of_chars? hcs, integerOfText_eq_ok_iff]
      exact readInteger_of_spells (hshort _ hcs) hspells

/-- A value that is read as a positive integer denotes this integer. -/
theorem Value.denotes_of_readInt {v : Value} {n : Int} (h : readInt v = .ok n) (hpos : 0 < n) :
    v.Denotes LooselyGrouped n := by
  cases hcs : v.chars? with
  | some cs =>
      rw [readInt_of_chars? hcs, integerOfText_eq_ok_iff] at h
      exact .spelled hcs (spells_of_readInteger h hpos)
  | none =>
      cases v with
      | int m =>
          cases h
          exact .int n
      | bool b =>
          cases h
          exact .bool b
      | float x =>
          obtain ⟨hx, hlow, hhigh⟩ := integerOfFloat_eq_ok_iff.mp h
          exact .float hx hlow hhigh
      | text s => cases hcs
      | bytes b =>
          have hbytes : Utf8.decode? b = none := hcs
          simp [readInt, hbytes, Checked.fail] at h
      | _ => cases h

/-! ## Minimums -/

/-- An integer from a minimum on is read where it is. -/
theorem readIntFrom_eq_ok_iff {minimum : Int} {v : Value} {t : { n : Int // minimum ≤ n }} :
    readIntFrom minimum v = .ok t ↔ readInt v = .ok t.val := by
  unfold readIntFrom
  cases hread : readInt v with
  | error issues => simp
  | ok n =>
      dsimp only
      split_ifs with hmin
      · simp [Subtype.ext_iff]
      · simp only [Checked.fail, Except.ok.injEq, reduceCtorEq, false_iff]
        rintro rfl
        exact hmin t.property

/-- An integer below the minimum is told of as it was given. -/
theorem readIntFrom_of_lt {minimum : Int} {v : Value} {n : Int} (h : readInt v = .ok n)
    (hlt : n < minimum) : readIntFrom minimum v = .fail (.belowMinimum minimum) v := by
  unfold readIntFrom
  rw [h]
  exact dif_neg (not_le.mpr hlt)

/-- A value that is not null is read as if it were required. -/
theorem readOptional_of_ne_null {α : Type} (read : Reader α) {v : Value} (h : v ≠ .null) :
    readOptional read v = (read v).map some := by
  cases v with
  | null => exact (h rfl).elim
  | _ => rfl

/-- Nothing is told of a value that may be null exactly if it is null or was read. -/
theorem issues_readOptional_eq_nil_iff {α : Type} {read : Reader α} (h : IsScalar read)
    {v : Value} : (readOptional read v).issues = [] ↔ v = .null ∨ ∃ a, read v = .ok a := by
  by_cases hnull : v = .null
  · subst hnull
    simp [readOptional, Checked.issues]
  · rw [readOptional_of_ne_null read hnull, Checked.issues_map]
    rcases h v with ⟨a, ha⟩ | ⟨kind, -, hfail⟩
    · simp [ha, Checked.issues]
    · simp [hfail, hnull, Checked.issues, Checked.fail]

end Tocsin.Config

namespace Tocsin.Alerting

open Tocsin.Config Tocsin.Decimal Tocsin.Outcome Tocsin.Text

/-! ## Streaks -/

/-- What an alert counts: failures in a row or successes in a row. -/
inductive Streak where
  | failure
  | success
  deriving DecidableEq, Repr

namespace Streak

/-- The field of the threshold. -/
def field : Streak → Config.Field (Option Threshold)
  | failure => .optional "failure_threshold" "failure-threshold" (readIntFrom 1) (.int ·.val)
  | success => .optional "success_threshold" "success-threshold" (readIntFrom 1) (.int ·.val)

/-- The threshold of an alert. -/
def threshold : Streak → Alert → Option Threshold
  | failure, a => a.failureThreshold
  | success, a => a.successThreshold

/-- The spellings of the threshold. -/
def spelling (k : Streak) : Spelling := k.field.clause.spelling

/-- What the outcome of reading an alert says of the threshold. -/
def told (k : Streak) : Except ConfigError (Declared Alert) → List Issue
  | .error (.mismatch _ issues) => issues.filter (Issue.concerns k.spelling)
  | _ => []

variable (k : Streak)

/-- Both thresholds are read as optional integers of at least 1. -/
theorem field_read : k.field.read = readOptional (readIntFrom 1) := by
  cases k <;> rfl

/-- The field of a threshold is among the fields of an alert. -/
theorem clause_mem : k.field.clause ∈ Alert.model.fields.clauses := by
  cases k with
  | failure => exact .tail _ (.tail _ (.head _))
  | success => exact .tail _ (.tail _ (.tail _ (.head _)))

/-- What is said of a threshold where an alert is read is what its field reports. -/
theorem told_fromMapping (m : Mapping) :
    k.told (Alert.model.fromMapping (.dict m)) = k.field.clause.report m := by
  have hreport : (Alert.model.readEntries m).issues =
      Kind.alert.model.fields.clauses.flatMap (·.report m) := Kind.alert.report_dict m
  have hfilter := filter_concerns_flatMap_report Kind.alert.disjoint_clauses k.clause_mem m
  rw [← hreport] at hfilter
  rw [← hfilter]
  show k.told (Model.fromMapping.wrap Alert.model (Alert.model.readEntries m)) = _
  cases Alert.model.readEntries m with
  | ok d => rfl
  | error issues => rfl

/-- What is said of a threshold is what its reader says of the value that counts for it. -/
theorem told_of_lookup {m : Mapping} {key : String} {v : Value}
    (h : k.spelling.lookup m = some (key, v)) :
    k.told (Alert.model.fromMapping (.dict m)) =
      (readOptional (readIntFrom 1) v).issues.map (·.under (.key key)) := by
  have hlookup : k.field.clause.spelling.lookup m = some (key, v) := h
  rw [told_fromMapping, Clause.report, hlookup, ← k.field_read]
  rfl

/-- The threshold of an alert that was read is what its reader makes of the value that counts for
it. -/
theorem read_of_fromMapping {m : Mapping} {key : String} {v : Value} {d : Declared Alert}
    (h : k.spelling.lookup m = some (key, v))
    (hd : Alert.model.fromMapping (.dict m) = .ok d) :
    readOptional (readIntFrom 1) v = .ok (k.threshold d.value) := by
  obtain ⟨p, hcheck, rfl⟩ := map_eq_ok.mp (Model.readEntries_of_fromMapping hd)
  -- The thresholds are read behind two other fields.
  obtain ⟨_, _, _, hrest⟩ := check_cons_eq_ok hcheck
  obtain ⟨_, _, _, hrest⟩ := check_cons_eq_ok hrest
  obtain ⟨_, _, hfailure, hrest⟩ := check_cons_eq_ok hrest
  obtain ⟨_, _, hsuccess, _⟩ := check_cons_eq_ok hrest
  cases k with
  | failure => exact read_of_check h hfailure
  | success => exact read_of_check h hsuccess

/-- An alert that declares a threshold alone. -/
def alone : Streak → Option Threshold → Alert
  | failure, o => { Alert.empty with failureThreshold := o }
  | success, o => { Alert.empty with successThreshold := o }

/-- An alert with a threshold alone is read if the threshold is. -/
theorem fromMapping_singleton {key : String} {v : Value} {o : Option Threshold}
    (hkey : key ∈ k.spelling.both) (h : readOptional (readIntFrom 1) v = .ok o) :
    Alert.model.fromMapping (.dict [(.text key, v)]) = .ok ⟨k.alone o, [k.field.name]⟩ := by
  apply Model.fromMapping_dict
  cases k <;>
    simp only [spelling, field, Field.clause, Spelling.both, Field.optional, List.mem_cons,
      List.not_mem_nil, or_false] at hkey <;>
    rcases hkey with rfl | rfl <;>
    simp [Model.readEntries, Alert.model, Fields.check, Field.check, Field.lookup,
      Mapping.get?_singleton, Field.optional, Field.text, h, Checked.under, Checked.both,
      Except.map, Alert.empty, alone, field]

/-- A value says what a threshold is: as a number, or in digits if there are not too many. -/
def Restates (v : Value) (t : Threshold) : Prop :=
  v = .int t.val ∨
    v = .text (String.ofList (decimalText t.val)) ∧ (decimalText t.val).length ≤ maxDigits

/-- A value that restates a threshold is read as its number. -/
theorem readInt_of_restates {v : Value} {t : Threshold} (h : Restates v t) :
    readInt v = .ok t.val := by
  rcases h with rfl | ⟨rfl, hlength⟩
  · rfl
  · obtain ⟨n, hn⟩ := Int.eq_ofNat_of_zero_le (le_trans zero_le_one t.property)
    have hdenotes : (Value.text (String.ofList (decimalText t.val))).Denotes LooselyGrouped t.val := by
      have hchars : (Value.text (String.ofList (decimalText t.val))).chars? =
          some (decimalText t.val) := by simp [Value.chars?]
      refine .spelled hchars ?_
      rw [hn]
      exact spells_decimalText n
    refine hdenotes.readInt_eq fun cs hcs => ?_
    simp only [Value.chars?, String.toList_ofList, Option.mem_some_iff] at hcs
    exact hcs ▸ hlength

/-- A value with the number of a threshold is read as this threshold. -/
theorem readOptional_of_readInt {v : Value} {t : Threshold} (h : readInt v = .ok t.val) :
    readOptional (readIntFrom 1) v = .ok (some t) := by
  have hnull : v ≠ .null := by
    rintro rfl
    cases h
  rw [readOptional_of_ne_null _ hnull, readIntFrom_eq_ok_iff.mpr h]
  rfl

/-- What becomes of a value that is given for a threshold. -/
structure Settles (m : Mapping) (key : String) (v : Value) : Prop where
  /-- Nothing is stored for null, and else the integer that the value denotes. -/
  stored : ∀ d, Alert.model.fromMapping (.dict m) = .ok d →
    v = .null ∧ k.threshold d.value = none ∨
      ∃ t, k.threshold d.value = some t ∧ v.Denotes LooselyGrouped t.val
  /-- Nothing is said of null and of values that denote an integer of at least one, and of no other
  value that is not too long. -/
  accepted : v.IsShort → (k.told (Alert.model.fromMapping (.dict m)) = [] ↔
    v = .null ∨ ∃ n, 1 ≤ n ∧ v.Denotes LooselyGrouped n)
  /-- A value that denotes an integer and is not too long is read as this integer. -/
  coerced : v.IsShort → ∀ n, v.Denotes LooselyGrouped n → readInt v = .ok n
  /-- Of a value that is read as an integer below one, this is said and nothing else, and the value
  is shown as it was given. -/
  below : ∀ n < 1, readInt v = .ok n →
    k.told (Alert.model.fromMapping (.dict m)) = [⟨.belowMinimum 1, [.key key], v⟩]
  /-- What was stored is stored again. -/
  kept : ∀ t, Restates v t → k.told (Alert.model.fromMapping (.dict m)) = [] ∧
    ∀ d, Alert.model.fromMapping (.dict m) = .ok d → k.threshold d.value = some t

/-- Every value that is given for a threshold is settled. -/
theorem settles_of_lookup {m : Mapping} {key : String} {v : Value}
    (h : k.spelling.lookup m = some (key, v)) : k.Settles m key v := by
  have htold := k.told_of_lookup h
  constructor
  case stored =>
    intro d hd
    have hread := k.read_of_fromMapping h hd
    by_cases hnull : v = .null
    · subst hnull
      exact .inl ⟨rfl, (Except.ok.inj hread).symm⟩
    · rw [readOptional_of_ne_null _ hnull] at hread
      obtain ⟨t, ht, hstored⟩ := map_eq_ok.mp hread
      refine .inr ⟨t, hstored.symm, ?_⟩
      exact Value.denotes_of_readInt (readIntFrom_eq_ok_iff.mp ht) (zero_lt_one.trans_le t.property)
  case accepted =>
    intro hshort
    rw [htold, List.map_eq_nil_iff, issues_readOptional_eq_nil_iff (isScalar_readIntFrom 1)]
    refine or_congr_right ⟨?_, ?_⟩
    · rintro ⟨t, ht⟩
      exact ⟨t.val, t.property, Value.denotes_of_readInt (readIntFrom_eq_ok_iff.mp ht)
        (zero_lt_one.trans_le t.property)⟩
    · rintro ⟨n, hn, hdenotes⟩
      exact ⟨⟨n, hn⟩, readIntFrom_eq_ok_iff.mpr (hdenotes.readInt_eq hshort)⟩
  case coerced => exact fun hshort n hdenotes => hdenotes.readInt_eq hshort
  case below =>
    intro n hlt hread
    have hnull : v ≠ .null := by
      rintro rfl
      cases hread
    rw [htold, readOptional_of_ne_null _ hnull, readIntFrom_of_lt hread hlt]
    rfl
  case kept =>
    intro t ht
    have hread := readOptional_of_readInt (readInt_of_restates ht)
    refine ⟨?_, fun d hd => ?_⟩
    · rw [htold, hread]
      rfl
    · have hstored := k.read_of_fromMapping h hd
      rw [hread] at hstored
      exact (Except.ok.inj hstored).symm

/-- What becomes of the values that are given for thresholds.  Each is settled by the integer that
it denotes, whatever else stands beside it; and a stored threshold that is given again, alone, by
either of the spellings, is read as the same threshold. -/
theorem thresholds_settled_by_denoted :
    (∀ m key v, k.spelling.lookup m = some (key, v) → k.Settles m key v) ∧
      ∀ v t, Restates v t → ∀ key ∈ k.spelling.both,
        ∃ d, Alert.model.fromMapping (.dict [(.text key, v)]) = .ok d ∧
          k.threshold d.value = some t := by
  refine ⟨fun m key v h => k.settles_of_lookup h, fun v t ht key hkey => ?_⟩
  have hread := readOptional_of_readInt (readInt_of_restates ht)
  refine ⟨_, k.fromMapping_singleton hkey hread, ?_⟩
  cases k <;> rfl

end Streak

/-- A numeral with white space, a sign, a point and zeros in front. -/
def looseNumeral : String := " +0_0__12_0.00\n"

/-- The numeral spells 120. -/
theorem looseNumeral_spells : Spells LooselyGrouped looseNumeral.toList 120 := by
  have hgroups : Grouped ['1', '2', '_', '0'] ['1', '2', '0'] :=
    .next (by decide) (.spaced (by decide) (.last (by decide)))
  have hwhole : LooselyGrouped "0_0__12_0".toList ['1', '2', '0'] :=
    @LooselyGrouped.zeros ['_', '0', '_', '_'] _ _ (by simp) hgroups
  exact ⟨['+'], by decide, _, _, ".00".toList, by decide +kernel, hwhole, .inr ⟨1, rfl⟩, rfl⟩

/-- The numeral is accepted for a threshold, the truth value that means zero is told of as it is, and
the number of the numeral is read again. -/
theorem looseNumeral_settled :
    Streak.failure.told (Alert.model.fromMapping
        (.dict [(.text "failure_threshold", .text looseNumeral)])) = [] ∧
      Streak.success.told (Alert.model.fromMapping
        (.dict [(.text "success-threshold", .bool false)])) =
          [⟨.belowMinimum 1, [.key "success-threshold"], .bool false⟩] ∧
      ∃ d, Alert.model.fromMapping (.dict [(.text "failure_threshold", .text "120")]) = .ok d ∧
        Streak.failure.threshold d.value = some ⟨120, by decide⟩ := by
  refine ⟨?_, ?_, ?_⟩
  · have hsettles := Streak.failure.thresholds_settled_by_denoted.1
      [(.text "failure_threshold", .text looseNumeral)] "failure_threshold" (.text looseNumeral) rfl
    have hshort : (Value.text looseNumeral).IsShort := by
      rintro cs ⟨⟩
      decide
    exact (hsettles.accepted hshort).mpr
      (.inr ⟨120, by decide, .spelled rfl looseNumeral_spells⟩)
  · have hsettles := Streak.success.thresholds_settled_by_denoted.1
      [(.text "success-threshold", .bool false)] "success-threshold" (.bool false) rfl
    exact hsettles.below 0 (by decide) rfl
  · exact Streak.failure.thresholds_settled_by_denoted.2 (.text "120") ⟨120, by decide⟩
      (.inr ⟨rfl, by decide⟩) "failure_threshold" (by decide)

/-- Underscores that stand side by side are read behind a zero, and are no single ones. -/
theorem pairedUnderscores_read :
    Alert.model.fromMapping (.dict [(.text "failure-threshold", .text "00__5")]) =
        .ok ⟨Streak.failure.alone (some ⟨5, by decide⟩), ["failure_threshold"]⟩ ∧
      "00__5".toList.length ≤ maxDigits ∧ ¬ ∃ n, Spells Grouped "00__5".toList n := by
  refine ⟨?_, by decide, ?_⟩
  · exact Streak.failure.fromMapping_singleton (by decide) rfl
  · rintro ⟨n, sign, hsign, whole, digits, fraction, htrim, hwhole, hfraction, -⟩
    have htrimmed : trim isBlank "00__5".toList = ['0', '0', '_', '_', '5'] := by decide +kernel
    rw [htrimmed] at htrim
    simp only [signs, List.mem_cons, List.not_mem_nil, or_false] at hsign
    rcases hsign with rfl | rfl | rfl
    · rcases hfraction with rfl | ⟨k, rfl⟩
      · rw [List.append_nil, List.nil_append] at htrim
        have hpair := hwhole.unpaired.1
        rw [← htrim] at hpair
        exact absurd hpair (by decide)
      · have hpoint : '.' ∈ ['0', '0', '_', '_', '5'] := by
          rw [htrim]
          simp
        exact absurd hpoint (by decide)
    · cases htrim
    · cases htrim

end Tocsin.Alerting
