import Mathlib
import Tocsin.Calendar.Zone
import Tocsin.Proofs.Text.Digits

/-!
# Which hours make an offset

A number of hours makes a zone, or it is refused for one of three reasons, depending on how far it
is from zero (`ofHours?_eq`).  A span of a day or more is a span nevertheless, and the refusal
quotes it by its days and its seconds and leaves out what is zero.  The seconds are never negative,
so the days of a span are its hours divided by 24 and rounded down.  What is quoted can be read back
from the wording of the refusal (`quotedSpan?_message`).

The main statement, `ofHours?_decided_by_limits`, is about integers of any size.
-/

set_option autoImplicit false

namespace Tocsin.Calendar

open Tocsin.Text

/-! ## Outcomes -/

/-- The bounds of a signed machine word of 32 bits. -/
theorem fitsWord_iff {n : Int} : fitsWord n = true ↔ -2 ^ 31 ≤ n ∧ n < 2 ^ 31 := by
  unfold fitsWord
  rw [Bool.and_eq_true, decide_eq_true_eq, decide_eq_true_eq]
  omega

/-- As many days as a span can have fit a machine word. -/
theorem fitsWord_of_short {n : Int} (h : |n| ≤ maxDays) : fitsWord n = true := by
  have hrange := abs_le.mp h
  unfold maxDays at hrange
  exact fitsWord_iff.mpr (by omega)

/-- A number of days has the magnitude of a span unless it is beyond one of both limits. -/
theorem short_iff {n : Int} : |n| ≤ maxDays ↔ ¬ (n < -maxDays ∨ maxDays < n) := by
  rw [abs_le, not_or, not_lt, not_lt]

/-- What becomes of a number of hours: the bounds of a zone, of a span and of a machine word lie one
outside the other. -/
theorem ofHours?_eq (hours : Int) :
    Zone.ofHours? hours =
      if h : -24 < hours ∧ hours < 24 then .ok ⟨hours, h.1, h.2⟩
      else if |hours / 24| ≤ maxDays then
        .error (.notWithinDay (hours / 24) ((hours % 24).toNat * 3600))
      else if fitsWord (hours / 24) = true then .error (.spanTooLong (hours / 24))
      else .error .daysTooLarge := by
  have hdiv : hours.fdiv 24 = hours / 24 := Int.fdiv_eq_ediv_of_nonneg _ (by decide)
  have hmod : hours.fmod 24 = hours % 24 := Int.fmod_eq_emod_of_nonneg _ (by decide)
  unfold Zone.ofHours?
  rw [hdiv, hmod]
  by_cases hshort : |hours / 24| ≤ maxDays
  · have hfits : (!fitsWord (hours / 24)) ≠ true := by rw [fitsWord_of_short hshort]; decide
    dsimp only
    rw [if_neg hfits, if_neg (short_iff.mp hshort), if_pos hshort]
  · -- Less than a day would be minus one or no days.
    have hday : ¬ (-24 < hours ∧ hours < 24) := by
      intro hday
      refine hshort (abs_le.mpr ?_)
      unfold maxDays
      omega
    simp only [dif_neg hday, if_neg hshort]
    by_cases hfits : fitsWord (hours / 24) = true
    · have hlong : hours / 24 < -maxDays ∨ maxDays < hours / 24 := by
        by_contra hnot
        exact hshort (short_iff.mpr hnot)
      rw [if_pos hfits, hfits, Bool.not_true, if_neg Bool.false_ne_true, if_pos hlong]
    · rw [if_neg hfits, if_pos (by simpa using hfits)]

/-- A zone is made of just its own offset. -/
theorem ofHours?_eq_ok_iff {hours : Int} {zone : Zone} :
    Zone.ofHours? hours = .ok zone ↔ zone.hours = hours := by
  constructor
  · intro h
    rw [ofHours?_eq] at h
    split_ifs at h
    cases h
    rfl
  · rintro rfl
    rw [ofHours?_eq, dif_pos ⟨zone.above, zone.below⟩]

/-- Which refusal a number of hours is due. -/
def OffsetError.Refuses (hours : Int) : OffsetError → Prop
  | notWithinDay days seconds =>
    ¬ (-24 < hours ∧ hours < 24) ∧ |hours / 24| ≤ maxDays ∧
      days = hours / 24 ∧ seconds = (hours % 24).toNat * 3600
  | spanTooLong days =>
    ¬ |hours / 24| ≤ maxDays ∧ fitsWord (hours / 24) = true ∧ days = hours / 24
  | daysTooLarge => ¬ fitsWord (hours / 24) = true

/-- A number of hours is refused as it is due. -/
theorem ofHours?_eq_error_iff {hours : Int} {e : OffsetError} :
    Zone.ofHours? hours = .error e ↔ e.Refuses hours := by
  rw [ofHours?_eq]
  split_ifs with hday hshort hfits
  · have hdays : |hours / 24| ≤ maxDays := by
      unfold maxDays
      exact abs_le.mpr (by omega)
    cases e <;> simp [OffsetError.Refuses, hday, hdays, fitsWord_of_short hdays]
  · cases e <;> simp [OffsetError.Refuses, hday, hshort, fitsWord_of_short hshort, eq_comm]
  · cases e <;> simp [OffsetError.Refuses, hshort, hfits, eq_comm]
  · cases e <;> simp [OffsetError.Refuses, hshort, hfits]

/-! ## Spans in the wording of refusals -/

/-- The number behind a label. -/
def readLabelled? (label : String) (cs : List Char) : Option Int := do
  let cs ← cs.dropPrefix? label.toList
  readInteger? cs

/-- The days and the seconds of a span, given its parts; what is left out is zero. -/
def readSpan? : List (List Char) → Option (Int × Int)
  | [days, seconds] => do
    let days ← readLabelled? "days=" days
    let seconds ← readLabelled? " seconds=" seconds
    return (days, seconds)
  | [part] =>
    if part = "0".toList then some (0, 0)
    else
      ((readLabelled? "days=" part).map fun days => (days, 0)).or
        ((readLabelled? "seconds=" part).map fun seconds => (0, seconds))
  | _ => none

/-- The words in front of the parts of a span that is no offset. -/
def spanFront : String :=
  "offset must be a timedelta strictly between -timedelta(hours=24) and timedelta(hours=24), not "
    ++ "datetime.timedelta("

/-- The days and the seconds of the span that a refusal quotes. -/
def OffsetError.quotedSpan? (message : String) : Option (Int × Int) := do
  let cs ← message.toList.dropPrefix? spanFront.toList
  let cs ← cs.dropSuffix? ").".toList
  readSpan? (cs.splitOn ',')

/-- A number is read behind its label. -/
theorem readLabelled?_decimalText (label : String) (n : Int) :
    readLabelled? label (label.toList ++ decimalText n) = some n := by
  unfold readLabelled?
  rw [List.dropPrefix?_append_of_beq _ (beq_self_eq_true _)]
  exact readInteger?_decimalText n

/-- A span of whole days is read from one part. -/
theorem readSpan?_days (days : Int) :
    readSpan? ["days=".toList ++ decimalText days] = some (days, 0) := by
  have hzero : "days=".toList ++ decimalText days ≠ "0".toList := nofun
  unfold readSpan?
  dsimp only
  rw [if_neg hzero, readLabelled?_decimalText]
  rfl

/-- A span of less than a day is read from one part. -/
theorem readSpan?_seconds (seconds : Int) :
    readSpan? ["seconds=".toList ++ decimalText seconds] = some (0, seconds) := by
  have hzero : "seconds=".toList ++ decimalText seconds ≠ "0".toList := nofun
  have hdays : readLabelled? "days=" ("seconds=".toList ++ decimalText seconds) = none := rfl
  unfold readSpan?
  dsimp only
  rw [if_neg hzero, hdays, readLabelled?_decimalText]
  rfl

/-- A span of days and seconds is read from both parts. -/
theorem readSpan?_both (days seconds : Int) :
    readSpan? ["days=".toList ++ decimalText days, " seconds=".toList ++ decimalText seconds] =
      some (days, seconds) := by
  unfold readSpan?
  dsimp only
  rw [readLabelled?_decimalText, readLabelled?_decimalText]
  rfl

/-- A number behind its label. -/
def labelled (label : String) (n : Int) : String := label ++ String.ofList (decimalText n)

/-- The characters of a labelled number. -/
theorem toList_labelled (label : String) (n : Int) :
    (labelled label n).toList = label.toList ++ decimalText n := by
  have hnumber : (String.ofList (decimalText n)).toList = decimalText n := String.toList_ofList
  rw [labelled, String.toList_append, hnumber]

/-- A labelled number has no comma in it. -/
theorem comma_not_mem_labelled {label : String} (h : ',' ∉ label.toList) (n : Int) :
    ',' ∉ label.toList ++ decimalText n := by
  rw [List.mem_append, not_or]
  exact ⟨h, not_mem_decimalText rfl (by decide) n⟩

/-- The parts of a span as they are quoted, divided by commas. -/
def spanParts (days : Int) (seconds : Nat) : String :=
  if days = 0 ∧ seconds = 0 then "0"
  else if days = 0 then labelled "seconds=" seconds
  else if seconds = 0 then labelled "days=" days
  else labelled "days=" days ++ ", " ++ labelled "seconds=" seconds

/-- A span is read from its parts. -/
theorem readSpan?_spanParts (days : Int) (seconds : Nat) :
    readSpan? ((spanParts days seconds).toList.splitOn ',') = some (days, (seconds : Int)) := by
  unfold spanParts
  split_ifs with hzero hdays hseconds
  · rw [hzero.1, hzero.2]
    rfl
  · rw [toList_labelled, List.splitOn_eq_singleton (comma_not_mem_labelled (by decide) _),
      readSpan?_seconds, hdays]
  · rw [toList_labelled, List.splitOn_eq_singleton (comma_not_mem_labelled (by decide) _),
      readSpan?_days, hseconds]
    rfl
  · have hparts : (labelled "days=" days ++ ", " ++ labelled "seconds=" seconds).toList =
        ("days=".toList ++ decimalText days) ++ ',' ::
          (" seconds=".toList ++ decimalText seconds) := by
      rw [String.toList_append, String.toList_append, toList_labelled, toList_labelled,
        List.append_assoc]
      rfl
    rw [hparts, List.splitOn_append_cons_self_of_not_mem (comma_not_mem_labelled (by decide) _),
      List.splitOn_eq_singleton (comma_not_mem_labelled (by decide) _), readSpan?_both]

/-- The span that a refusal quotes is read from its wording. -/
theorem quotedSpan?_message (days : Int) (seconds : Nat) :
    OffsetError.quotedSpan? (OffsetError.notWithinDay days seconds).message =
      some (days, (seconds : Int)) := by
  -- The bracket behind the parts and the full stop are taken off together.
  have hend : (")" : String) ++ "." = ")." := rfl
  have hmessage : (OffsetError.notWithinDay days seconds).message =
      spanFront ++ (spanParts days seconds ++ ").") := by
    show _ ++ ("datetime.timedelta(" ++ spanParts days seconds ++ ")") ++ "." = _
    unfold spanFront
    rw [← hend]
    simp only [String.append_assoc]
  unfold OffsetError.quotedSpan?
  rw [hmessage, String.toList_append, String.toList_append,
    List.dropPrefix?_append_of_beq _ (beq_self_eq_true _)]
  simp only [Option.bind_eq_bind, Option.bind_some, dropSuffix?_append_self]
  exact readSpan?_spanParts days seconds

/-! ## Refusals by their families -/

/-- The whole days of a number of hours, rounded down. -/
def wholeDays (hours : Int) : Int := ⌊(hours : ℚ) / 24⌋

/-- Rounding the quotient down is dividing integers. -/
theorem wholeDays_eq (hours : Int) : wholeDays hours = hours / 24 := by
  unfold wholeDays
  exact_mod_cast Rat.floor_intCast_div_natCast hours 24

/-- Less than a day in either direction makes a zone. -/
theorem exists_zone_iff {hours : Int} :
    (∃ zone, Zone.ofHours? hours = .ok zone) ↔ -23 ≤ hours ∧ hours ≤ 23 := by
  constructor
  · rintro ⟨zone, hzone⟩
    have hhours := ofHours?_eq_ok_iff.mp hzone
    have habove := zone.above
    have hbelow := zone.below
    omega
  · intro hday
    exact ⟨⟨hours, by omega, by omega⟩, ofHours?_eq_ok_iff.mpr rfl⟩

/-- Hours that are no offset are refused as a value if they are a span. -/
theorem exists_value_iff {hours : Int} :
    (∃ e, Zone.ofHours? hours = .error e ∧ e.family = .value) ↔
      ¬ (-23 ≤ hours ∧ hours ≤ 23) ∧ |wholeDays hours| ≤ maxDays := by
  rw [wholeDays_eq]
  constructor
  · rintro ⟨e, herror, hfamily⟩
    cases e with
    | notWithinDay days seconds =>
        obtain ⟨hday, hshort, -⟩ := ofHours?_eq_error_iff.mp herror
        exact ⟨by omega, hshort⟩
    | spanTooLong days => cases hfamily
    | daysTooLarge => cases hfamily
  · rintro ⟨hday, hshort⟩
    exact ⟨.notWithinDay _ _, ofHours?_eq_error_iff.mpr ⟨by omega, hshort, rfl, rfl⟩, rfl⟩

/-- The span that is quoted is that of the hours. -/
theorem quotedSpan?_of_value {hours : Int} {e : OffsetError} (h : Zone.ofHours? hours = .error e)
    (hfamily : e.family = .value) :
    ∃ days seconds, OffsetError.quotedSpan? e.message = some (days, seconds) ∧
      0 ≤ seconds ∧ seconds < 86400 ∧ days * 86400 + seconds = 3600 * hours := by
  cases e with
  | notWithinDay days seconds =>
      obtain ⟨-, -, rfl, rfl⟩ := ofHours?_eq_error_iff.mp h
      exact ⟨_, _, quotedSpan?_message _ _, by omega, by omega, by omega⟩
  | spanTooLong days => cases hfamily
  | daysTooLarge => cases hfamily

/-- Hours with more days than a span can have overflow. -/
theorem exists_overflow_iff {hours : Int} :
    (∃ e, Zone.ofHours? hours = .error e ∧ e.family = .overflow) ↔ maxDays < |wholeDays hours| := by
  rw [wholeDays_eq, ← not_le]
  constructor
  · rintro ⟨e, herror, hfamily⟩
    have hrefuses := ofHours?_eq_error_iff.mp herror
    cases e with
    | notWithinDay days seconds => cases hfamily
    | spanTooLong days => exact hrefuses.1
    | daysTooLarge => exact fun hshort => hrefuses (fitsWord_of_short hshort)
  · intro hlong
    by_cases hfits : fitsWord (hours / 24) = true
    · exact ⟨.spanTooLong _, ofHours?_eq_error_iff.mpr ⟨hlong, hfits, rfl⟩, rfl⟩
    · exact ⟨.daysTooLarge, ofHours?_eq_error_iff.mpr hfits, rfl⟩

/-- The wording of an overflow tells the days exactly if a machine word can hold them. -/
theorem message_of_overflow_iff {hours : Int} {e : OffsetError}
    (h : Zone.ofHours? hours = .error e) (hfamily : e.family = .overflow) :
    e.message = "days=" ++ String.ofList (decimalText (wholeDays hours)) ++
        "; must have magnitude <= 999999999" ↔
      fitsWord (wholeDays hours) = true := by
  rw [wholeDays_eq]
  have hrefuses := ofHours?_eq_error_iff.mp h
  cases e with
  | notWithinDay days seconds => cases hfamily
  | spanTooLong days =>
      obtain ⟨-, hfits, rfl⟩ := hrefuses
      exact iff_of_true rfl hfits
  | daysTooLarge =>
      refine iff_of_false (fun hmessage => ?_) hrefuses
      have hchars := congrArg String.toList hmessage
      rw [String.toList_append, String.toList_append] at hchars
      cases hchars

/-! ## Any number of hours -/

/-- Which hours make a zone, and what is said of those that do not.  There is a zone for less than a
day in either direction, and its offset is exactly so many hours.  Other hours are refused as a
value as long as their whole days are no more than a span can have; the refusal quotes the span, and
what is read there in days and seconds, the seconds being less than a day, are exactly those hours.
With more days the span overflows, and the number of days is told exactly if it fits 32 bits. -/
theorem ofHours?_decided_by_limits (hours : Int) :
    ((∃ zone, Zone.ofHours? hours = .ok zone) ↔ -23 ≤ hours ∧ hours ≤ 23) ∧
    (∀ zone, Zone.ofHours? hours = .ok zone → zone.seconds = 3600 * hours) ∧
    ((∃ e, Zone.ofHours? hours = .error e ∧ e.family = .value) ↔
      ¬ (-23 ≤ hours ∧ hours ≤ 23) ∧ |wholeDays hours| ≤ 999999999) ∧
    (∀ e, Zone.ofHours? hours = .error e → e.family = .value →
      ∃ days seconds, OffsetError.quotedSpan? e.message = some (days, seconds) ∧
        0 ≤ seconds ∧ seconds < 86400 ∧ days * 86400 + seconds = 3600 * hours) ∧
    ((∃ e, Zone.ofHours? hours = .error e ∧ e.family = .overflow) ↔
      999999999 < |wholeDays hours|) ∧
    ∀ e, Zone.ofHours? hours = .error e → e.family = .overflow →
      (e.message = "days=" ++ String.ofList (decimalText (wholeDays hours)) ++
          "; must have magnitude <= 999999999" ↔
        -2 ^ 31 ≤ wholeDays hours ∧ wholeDays hours < 2 ^ 31) := by
  refine ⟨exists_zone_iff, ?_, exists_value_iff, fun e => quotedSpan?_of_value,
    exists_overflow_iff, ?_⟩
  · intro zone hzone
    rw [Zone.seconds, ofHours?_eq_ok_iff.mp hzone, mul_comm]
  · intro e herror hfamily
    rw [← fitsWord_iff]
    exact message_of_overflow_iff herror hfamily

/-- The last zone west of UTC; hours behind it, which are quoted with two days and seconds; and the
first hours west of UTC with more days than a span can have, which are told. -/
theorem edges_decided :
    (∃ zone, Zone.ofHours? (-23) = .ok zone ∧ zone.seconds = 3600 * -23) ∧
    (∃ e days seconds, Zone.ofHours? (-25) = .error e ∧ e.family = .value ∧
      OffsetError.quotedSpan? e.message = some (days, seconds) ∧ 0 ≤ seconds ∧ seconds < 86400 ∧
      days * 86400 + seconds = 3600 * -25) ∧
    ∃ e, Zone.ofHours? (-23999999977) = .error e ∧ e.family = .overflow ∧
      e.message = "days=-1000000000; must have magnitude <= 999999999" := by
  have hsmall : wholeDays (-25) = -2 := wholeDays_eq _
  have hlarge : wholeDays (-23999999977) = -1000000000 := wholeDays_eq _
  obtain ⟨hzone, hseconds, -⟩ := ofHours?_decided_by_limits (-23)
  obtain ⟨-, -, hvalue, hspan, -⟩ := ofHours?_decided_by_limits (-25)
  obtain ⟨-, -, -, -, hoverflow, hmessage⟩ := ofHours?_decided_by_limits (-23999999977)
  rw [hsmall] at hvalue
  rw [hlarge] at hoverflow hmessage
  obtain ⟨zone, hmade⟩ := hzone.mpr (by decide)
  obtain ⟨e, herror, hfamily⟩ := hvalue.mpr (by decide)
  obtain ⟨days, seconds, hquoted⟩ := hspan e herror hfamily
  obtain ⟨e', herror', hfamily'⟩ := hoverflow.mpr (by decide)
  exact ⟨⟨zone, hmade, hseconds zone hmade⟩, ⟨e, days, seconds, herror, hfamily, hquoted⟩,
    e', herror', hfamily', (hmessage e' herror' hfamily').mpr (by decide)⟩

end Tocsin.Calendar
