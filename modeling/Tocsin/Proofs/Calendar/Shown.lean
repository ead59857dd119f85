import Mathlib
import Tocsin.Calendar.Moment
import Tocsin.Proofs.Calendar.Days
import Tocsin.Proofs.Text.Digits

/-!
# What the time line of a moment tells

A moment is shown in a zone in two steps, each of which can leave the years 1 to 9999: the instant
of the moment has to be a date of UTC, and what a clock in the zone shows then has to be a date,
too.  `Moment.ticks` counts instants in microseconds, and `IsDated` says which of them have a date.
A moment of the zone itself needs neither step, and is shown even where its instant has no date.

What is shown can be read back as a date and a time of day (`WallTime.read?`).  Less the offset of
the zone this is the instant of the moment, to the second, and what else is known of the moment is
lost: neither its fraction of a second nor the offset of its own clock can be told from the text.
The main statement is `Moment.formatIn_shows_instant`.
-/

set_option autoImplicit false

namespace Tocsin.Calendar

open Tocsin.Text

/-! ## Wall times -/

namespace WallTime

/-- A date that exists, and a time of day. -/
structure Valid (w : WallTime) : Prop where
  date : w.date.Valid
  hour : w.hour < 24
  minute : w.minute < 60
  second : w.second < 60

/-- The seconds since the start of year 1. -/
def seconds (w : WallTime) : Nat :=
  w.date.days * 86400 + w.hour * 3600 + w.minute * 60 + w.second

/-- The wall time so many seconds after the start of year 1 is one, and is so many seconds after it.
-/
theorem ofSecond_spec (n : Nat) : (ofSecond n).Valid ∧ (ofSecond n).seconds = n := by
  obtain ⟨hvalid, hdays⟩ := Date.ofDays_spec (n / 86400)
  constructor
  · refine ⟨hvalid, ?_, ?_, ?_⟩ <;> simp only [ofSecond] <;> omega
  · unfold seconds
    simp only [ofSecond, hdays]
    omega

/-- The seconds of a wall time tell which one it is. -/
theorem Valid.ofSecond_seconds {w : WallTime} (h : w.Valid) : ofSecond w.seconds = w := by
  obtain ⟨hdate, hhour, hminute, hsecond⟩ := h
  have hdays : w.seconds / 86400 = w.date.days := by
    unfold seconds
    omega
  have hrest : w.seconds % 86400 = w.hour * 3600 + w.minute * 60 + w.second := by
    unfold seconds
    omega
  have hhours : (w.hour * 3600 + w.minute * 60 + w.second) / 3600 = w.hour := by omega
  have hminutes : (w.hour * 3600 + w.minute * 60 + w.second) / 60 % 60 = w.minute := by omega
  have hseconds : (w.hour * 3600 + w.minute * 60 + w.second) % 60 = w.second := by omega
  unfold ofSecond
  rw [hdays, hrest, hdate.ofDays_days]
  simp only [hhours, hminutes, hseconds]

/-- What a text shows as a date and a time of day: year, month and day between hyphens, and behind a
space hour, minute and second between colons. -/
def read? (text : String) : Option WallTime :=
  match text.toList.splitOn ' ' with
  | [date, time] =>
    match date.splitOn '-', time.splitOn ':' with
    | [year, month, day], [hour, minute, second] => do
      let year ← readDigits? year
      let month ← readDigits? month
      let day ← readDigits? day
      let hour ← readDigits? hour
      let minute ← readDigits? minute
      let second ← readDigits? second
      return ⟨⟨year, month, day⟩, hour, minute, second⟩
    | _, _ => none
  | _ => none

/-- A text of three parts with a mark between them is cut into these parts. -/
theorem splitOn_three {mark : Char} {a b c : List Char} (ha : mark ∉ a) (hb : mark ∉ b)
    (hc : mark ∉ c) : (a ++ mark :: (b ++ mark :: c)).splitOn mark = [a, b, c] := by
  rw [List.splitOn_append_cons_self_of_not_mem ha, List.splitOn_append_cons_self_of_not_mem hb,
    List.splitOn_eq_singleton hc]

/-- What is in none of three parts is not in the text of them. -/
theorem not_mem_three {mark other : Char} (hne : mark ≠ other) {a b c : List Char}
    (ha : mark ∉ a) (hb : mark ∉ b) (hc : mark ∉ c) :
    mark ∉ a ++ other :: (b ++ other :: c) := by
  simp only [List.mem_append, List.mem_cons, not_or]
  exact ⟨ha, hne, hb, hne, hc⟩

/-- A wall time is read back from its text. -/
theorem read?_text (w : WallTime) : read? (String.ofList w.text) = some w := by
  have hyear {mark : Char} (hmark : mark.isDigit = false) : mark ∉ decimalDigits w.date.year :=
    not_mem_decimalDigits hmark _
  have htwo {mark : Char} (hmark : mark.isDigit = false) (n : Nat) : mark ∉ twoDigits n :=
    not_mem_padLeft hmark 2 n
  have hread : ∀ n, readDigits? (twoDigits n) = some n := readDigits?_padLeft 2
  -- The text with its date and its time of day each as one part, as the space divides them.
  have htext : w.text = (decimalDigits w.date.year ++ '-' ::
      (twoDigits w.date.month ++ '-' :: twoDigits w.date.day)) ++ ' ' ::
      (twoDigits w.hour ++ ':' :: (twoDigits w.minute ++ ':' :: twoDigits w.second)) := by
    simp [text, timeText]
  have hdate : ' ' ∉ decimalDigits w.date.year ++ '-' ::
      (twoDigits w.date.month ++ '-' :: twoDigits w.date.day) :=
    not_mem_three (by decide) (hyear rfl) (htwo rfl _) (htwo rfl _)
  have htime : ' ' ∉ twoDigits w.hour ++ ':' ::
      (twoDigits w.minute ++ ':' :: twoDigits w.second) :=
    not_mem_three (by decide) (htwo rfl _) (htwo rfl _) (htwo rfl _)
  unfold read?
  rw [String.toList_ofList, htext, List.splitOn_append_cons_self_of_not_mem hdate,
    List.splitOn_eq_singleton htime]
  dsimp only
  rw [splitOn_three (hyear rfl) (htwo rfl _) (htwo rfl _),
    splitOn_three (htwo rfl _) (htwo rfl _) (htwo rfl _)]
  simp only [readDigits?_decimalDigits, hread]
  rfl

end WallTime

/-! ## Instants -/

namespace Moment

/-- What a clock can show: a date of the years 1 to 9999 and a time of day, at an offset from UTC of
less than a day. -/
structure IsReading (m : Moment) : Prop where
  date : m.date.Valid
  year : m.date.year ≤ 9999
  hour : m.hour < 24
  minute : m.minute < 60
  second : m.second < 60
  microsecond : m.microsecond < 1000000
  offset : -86400 < m.setting.seconds ∧ m.setting.seconds < 86400

/-- The instant of a moment in microseconds since the start of year 1 in UTC; one without an offset
is taken for UTC. -/
def ticks (m : Moment) : Int := m.utcSecond * 1000000 + m.microsecond

/-- The first moment of year 1. -/
def first : Moment := ⟨⟨1, 1, 1⟩, 0, 0, 0, 0, .bare⟩

/-- The last moment of year 9999. -/
def last : Moment := ⟨⟨9999, 12, 31⟩, 23, 59, 59, 999999, .bare⟩

end Moment

/-- Whether an instant lies in the years 1 to 9999. -/
def IsDated (ticks : Int) : Prop := Moment.first.ticks ≤ ticks ∧ ticks ≤ Moment.last.ticks

/-- The offset of a zone in microseconds. -/
def Zone.ticks (z : Zone) : Int := z.seconds * 1000000

instance : DecidablePred IsDated := fun _ => inferInstanceAs (Decidable (_ ∧ _))

/-- Whether an instant lies in these years is a matter of its second. -/
theorem inYears_iff_isDated (second : Int) {microsecond : Nat} (h : microsecond < 1000000) :
    inYears second = true ↔ IsDated (second * 1000000 + microsecond) := by
  have hfirst : Moment.first.ticks = 0 := by decide
  have hlast : Moment.last.ticks = dayLimit * 86400 * 1000000 - 1 := by decide
  unfold inYears IsDated
  rw [hfirst, hlast, Bool.and_eq_true, decide_eq_true_eq, decide_eq_true_eq]
  omega

namespace Moment

/-! ## Moments of a zone -/

section

variable {m : Moment} {z : Zone}

/-- The wall time of a reading is a date that exists and a time of day. -/
theorem IsReading.valid_wallTime (h : m.IsReading) : m.wallTime.Valid :=
  ⟨h.date, h.hour, h.minute, h.second⟩

/-- By the clock of the zone itself, the seconds in UTC are those of its wall time less the offset
of the zone. -/
theorem seconds_wallTime (hzone : m.setting = .zone z) :
    (m.wallTime.seconds : Int) = m.utcSecond + z.seconds := by
  have hoffset : m.setting.seconds = z.seconds := by
    rw [hzone]
    rfl
  have hlocal : (m.wallTime.seconds : Int) = m.localSecond := rfl
  unfold utcSecond
  rw [hoffset, hlocal]
  omega

/-- What the clock of the zone itself shows lies in the years 1 to 9999. -/
theorem IsReading.inYears_of_zone (h : m.IsReading) (hzone : m.setting = .zone z) :
    inYears (m.utcSecond + z.seconds) = true := by
  have hdays : m.date.days < dayLimit := h.date.days_lt_dayLimit h.year
  have hhour := h.hour
  have hminute := h.minute
  have hsecond := h.second
  rw [← seconds_wallTime hzone]
  unfold inYears
  rw [Bool.and_eq_true, decide_eq_true_eq, decide_eq_true_eq]
  unfold WallTime.seconds wallTime
  dsimp only
  omega

/-- A moment of the zone itself is shown as it stands. -/
theorem formatIn_of_zone (h : m.IsReading) (hzone : m.setting = .zone z) :
    m.formatIn z =
      .ok (String.ofList (WallTime.ofSecond (m.utcSecond + z.seconds).toNat).text) := by
  rw [← seconds_wallTime hzone, Int.toNat_natCast, h.valid_wallTime.ofSecond_seconds]
  unfold formatIn wallTimeIn
  rw [if_pos hzone]
  rfl

end

/-! ## All moments -/

/-- The years are checked for the instant as for its second. -/
theorem IsReading.inYears_iff {m : Moment} (h : m.IsReading) :
    inYears m.utcSecond = true ↔ IsDated m.ticks :=
  inYears_iff_isDated m.utcSecond h.microsecond

/-- The years are checked for what is shown in a zone as for its second. -/
theorem IsReading.inYears_add_iff {m : Moment} (h : m.IsReading) (z : Zone) :
    inYears (m.utcSecond + z.seconds) = true ↔ IsDated (m.ticks + z.ticks) := by
  have hshown : m.ticks + z.ticks = (m.utcSecond + z.seconds) * 1000000 + m.microsecond := by
    unfold ticks Zone.ticks
    omega
  rw [hshown]
  exact inYears_iff_isDated (m.utcSecond + z.seconds) h.microsecond

/-- What a moment of the zone itself shows has a date. -/
theorem IsReading.isDated_of_zone {m : Moment} (h : m.IsReading) {z : Zone}
    (hzone : m.setting = .zone z) : IsDated (m.ticks + z.ticks) :=
  (h.inYears_add_iff z).mp (h.inYears_of_zone hzone)

/-- A moment is shown when its instant and the one by which a clock in the zone is ahead both lie in
the years 1 to 9999, and then the text is that of the wall time there.  For a moment of the zone
itself, its instant is not asked. -/
theorem formatIn_eq {m : Moment} (h : m.IsReading) (z : Zone) :
    m.formatIn z =
      if (m.setting = .zone z ∨ IsDated m.ticks) ∧ IsDated (m.ticks + z.ticks) then
        .ok (String.ofList (WallTime.ofSecond (m.ticks / 1000000 + z.seconds).toNat).text)
      else .error .outOfRange := by
  have hsecond : m.ticks / 1000000 = m.utcSecond := by
    have hmicro := h.microsecond
    unfold ticks
    omega
  rw [hsecond]
  by_cases hzone : m.setting = .zone z
  · rw [formatIn_of_zone h hzone, if_pos ⟨.inl hzone, h.isDated_of_zone hzone⟩]
  · unfold formatIn wallTimeIn instant
    rw [if_neg hzone]
    by_cases hm : inYears m.utcSecond = true
    · rw [if_pos hm]
      show (Instant.wallTime ⟨m.utcSecond, m.microsecond⟩ z).map _ = _
      unfold Instant.wallTime
      dsimp only
      by_cases hz : inYears (m.utcSecond + z.seconds) = true
      · rw [if_pos hz, if_pos ⟨.inr (h.inYears_iff.mp hm), (h.inYears_add_iff z).mp hz⟩]
        rfl
      · rw [if_neg hz, if_neg fun hdated => hz ((h.inYears_add_iff z).mpr hdated.2)]
        rfl
    · have hundated : ¬ (m.setting = .zone z ∨ IsDated m.ticks) :=
        not_or.mpr ⟨hzone, fun hdated => hm (h.inYears_iff.mpr hdated)⟩
      rw [if_neg hm, if_neg fun hdated => hundated hdated.1]
      rfl

/-- Whether and how a moment is shown in a zone.  It fails exactly if the moment is not one of the
zone itself and its instant, or what a clock in the zone shows then, lies outside the years 1 to
9999.  Else the text is read as a date that exists and a time of day, which less the offset of the
zone are the instant to the second.  So how a moment is shown depends on its instant alone, and not
on the offset in which it was given, unless the instant lies outside these years and the moment is
one of the zone itself. -/
theorem formatIn_shows_instant (m : Moment) (h : m.IsReading) (z : Zone) :
    (m.formatIn z = .error .outOfRange ↔
      m.setting ≠ .zone z ∧ (¬ IsDated m.ticks ∨ ¬ IsDated (m.ticks + z.ticks))) ∧
    (∀ text, m.formatIn z = .ok text → ∃ w, WallTime.read? text = some w ∧ w.Valid ∧
      w.seconds - z.seconds = m.ticks / 1000000) ∧
    ∀ m' : Moment, m'.IsReading → m'.ticks = m.ticks →
      (IsDated m.ticks ∨ (m'.setting = .zone z ↔ m.setting = .zone z)) →
      m'.formatIn z = m.formatIn z := by
  refine ⟨?_, ?_, ?_⟩
  · rw [formatIn_eq h]
    split_ifs with hshown
    · refine iff_of_false (by simp) fun ⟨hzone, hundated⟩ => ?_
      exact hundated.elim (fun hm => hm (hshown.1.resolve_left hzone)) fun hz => hz hshown.2
    · have hzone : m.setting ≠ .zone z := fun hzone =>
        hshown ⟨.inl hzone, h.isDated_of_zone hzone⟩
      refine iff_of_true rfl ⟨hzone, not_and_or.mp fun hdated => ?_⟩
      exact hshown ⟨.inr hdated.1, hdated.2⟩
  · intro text htext
    rw [formatIn_eq h] at htext
    split_ifs at htext with hshown
    cases htext
    obtain ⟨hvalid, hseconds⟩ := WallTime.ofSecond_spec (m.ticks / 1000000 + z.seconds).toNat
    refine ⟨_, WallTime.read?_text _, hvalid, ?_⟩
    -- The wall time lies behind the start of year 1, so that no second is cut off.
    have hfirst : 0 ≤ m.ticks + z.ticks := hshown.2.1
    unfold Zone.ticks at hfirst
    rw [hseconds]
    omega
  · intro m' h' hticks hsame
    have hasked : (m'.setting = .zone z ∨ IsDated m.ticks) ↔
        (m.setting = .zone z ∨ IsDated m.ticks) := by
      rcases hsame with hdated | hsame
      · exact iff_of_true (.inr hdated) (.inr hdated)
      · rw [hsame]
    rw [formatIn_eq h', formatIn_eq h, hticks]
    simp only [hasked]

/-- Half an hour to midnight before a leap day, an hour and a half west of UTC. -/
def leapEve : Moment := ⟨⟨2024, 2, 28⟩, 23, 30, 0, 999999, .offset (-5400)⟩

/-- The first hour of year 1 an hour east of UTC, which is before year 1 in UTC. -/
def firstEve : Moment := ⟨⟨1, 1, 1⟩, 0, 30, 0, 0, .offset 3600⟩

/-- The leap day has begun in the zone and is shown, for UTC as well; and before year 1 nothing is
shown, though it has begun in the zone. -/
theorem leapEve_shown :
    leapEve.formatIn .utc8 = .ok "2024-02-29 09:00:00" ∧
    (∃ w, WallTime.read? "2024-02-29 09:00:00" = some w ∧ w.Valid ∧
      w.seconds - 28800 = leapEve.ticks / 1000000) ∧
    (⟨⟨2024, 2, 29⟩, 1, 0, 0, 999999, .bare⟩ : Moment).formatIn .utc8 = leapEve.formatIn .utc8 ∧
    firstEve.formatIn .utc8 = .error .outOfRange := by
  have heve : leapEve.IsReading := by constructor <;> decide
  have hfirst : firstEve.IsReading := by constructor <;> decide
  have hshown : leapEve.formatIn .utc8 = .ok "2024-02-29 09:00:00" := by cbv
  obtain ⟨-, hread, hsame⟩ := formatIn_shows_instant leapEve heve .utc8
  refine ⟨hshown, hread _ hshown, ?_, ?_⟩
  · exact hsame _ (by constructor <;> decide) (by decide) (.inl (by decide))
  · exact (formatIn_shows_instant firstEve hfirst .utc8).1.mpr ⟨by decide, .inl (by decide)⟩

/-- The first hour of year 1 by the clock of the zone of eight hours itself. -/
def dawn : Moment := ⟨⟨1, 1, 1⟩, 0, 30, 0, 0, .zone .utc8⟩

/-- The same instant by a clock an hour further east. -/
def laterDawn : Moment := ⟨⟨1, 1, 1⟩, 1, 30, 0, 0, .offset 32400⟩

/-- A moment whose instant is before year 1 in UTC is shown, as it is one of the zone itself, and
the same instant at an offset is not. -/
theorem dawn_shown_undated :
    dawn.IsReading ∧ laterDawn.IsReading ∧ laterDawn.ticks = dawn.ticks ∧ ¬ IsDated dawn.ticks ∧
      dawn.formatIn .utc8 = .ok "1-01-01 00:30:00" ∧
      laterDawn.formatIn .utc8 = .error .outOfRange := by
  refine ⟨?_, ?_, by decide, by decide, by cbv, by cbv⟩
  · constructor <;> decide
  · constructor <;> decide

end Moment

end Tocsin.Calendar
