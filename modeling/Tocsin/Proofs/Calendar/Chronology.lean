import Mathlib
import Tocsin.Proofs.Calendar.Days
import Tocsin.Proofs.Calendar.Shown
import Tocsin.Proofs.Text.Digits

/-!
# Time lines in order

Sorted as texts, the time lines of one zone are sorted by time, as long as their years have four
digits.  A time line is written from the year down to the second, so two of them are compared as the
six numbers in them are (`WallTime.text_lt_iff`).  With every second these numbers rise: one of them
goes up by one, and only those behind it start anew (`WallTime.parts_ofSecond_lt_succ`).

The main statement, `Moment.formatIn_chronological`, is about the instants of moments, which are the
same whatever offsets the moments were given in.
-/

set_option autoImplicit false

namespace Tocsin.Calendar

open Tocsin.Text

/-! ## Days and seconds -/

namespace Date

/-- The year, the month and the day. -/
def parts (d : Date) : List Nat := [d.year, d.month, d.day]

/-- The day after a date is greater, number by number. -/
theorem parts_lt_next (d : Date) : d.parts < d.next.parts := by
  unfold next parts
  split_ifs <;> simp [List.cons_lt_cons_iff]

/-- The day with the next number is greater, number by number. -/
theorem parts_ofDays_lt_succ (n : Nat) : (ofDays n).parts < (ofDays (n + 1)).parts := by
  have hnext : ofDays (n + 1) = (ofDays n).next := by
    rw [ofDays_eq_iterate_next, ofDays_eq_iterate_next, Function.iterate_succ_apply']
  rw [hnext]
  exact (ofDays n).parts_lt_next

end Date

namespace WallTime

/-- The numbers of a wall time, from the year down to the second. -/
def parts (w : WallTime) : List Nat := w.date.parts ++ [w.hour, w.minute, w.second]

/-- A second later, the numbers are greater. -/
theorem parts_ofSecond_lt_succ (n : Nat) : (ofSecond n).parts < (ofSecond (n + 1)).parts := by
  have hlength (d e : Date) : d.parts.length = e.parts.length := rfl
  unfold parts
  rw [append_lt_append_iff (hlength _ _)]
  simp only [ofSecond]
  by_cases hday : (n + 1) / 86400 = n / 86400
  · -- The same day goes on, and its seconds are counted by hours and minutes.
    have hrest : (n + 1) % 86400 = n % 86400 + 1 := by omega
    rw [hday, hrest]
    refine .inr ⟨rfl, ?_⟩
    simp only [List.cons_lt_cons_iff, List.not_lt_nil, and_false, or_false]
    omega
  · have hnext : (n + 1) / 86400 = n / 86400 + 1 := by omega
    rw [hnext]
    exact .inl (Date.parts_ofDays_lt_succ _)

/-- The numbers of wall times rise with their seconds. -/
theorem strictMono_parts_ofSecond : StrictMono fun n => (ofSecond n).parts :=
  strictMono_nat_of_lt_succ parts_ofSecond_lt_succ

/-! ## Texts -/

/-- A wall time whose numbers fill the places of its text: four for the year, two for the others. -/
structure FillsPlaces (w : WallTime) : Prop where
  yearFrom : 1000 ≤ w.date.year
  yearTo : w.date.year < 10 ^ 4
  month : w.date.month < 10 ^ 2
  day : w.date.day < 10 ^ 2
  hour : w.hour < 10 ^ 2
  minute : w.minute < 10 ^ 2
  second : w.second < 10 ^ 2

/-- A date that exists and a time of day in a year of four digits fill their places. -/
theorem Valid.fillsPlaces {w : WallTime} (h : w.Valid) (hfrom : 1000 ≤ w.date.year)
    (hto : w.date.year ≤ 9999) : w.FillsPlaces := by
  obtain ⟨⟨-, -, hmonth, -, hday⟩, hhour, hminute, hsecond⟩ := h
  have hlengths : ∀ leap, ∀ m < 12, (monthLengths leap).getD m 0 ≤ 31 := by decide
  have hshort := hlengths (isLeap w.date.year) (w.date.month - 1) (by omega)
  exact ⟨hfrom, by omega, by omega, by omega, by omega, by omega, by omega⟩

/-- The text of a wall time with its year written like the other numbers. -/
theorem FillsPlaces.text_eq {w : WallTime} (h : w.FillsPlaces) :
    w.text = padLeft 4 '0' (decimalDigits w.date.year) ++ '-' :: (twoDigits w.date.month ++
      '-' :: (twoDigits w.date.day ++ ' ' :: (twoDigits w.hour ++ ':' :: (twoDigits w.minute ++
        ':' :: twoDigits w.second)))) := by
  have hlong : ¬ (decimalDigits w.date.year).length ≤ 3 := by
    unfold decimalDigits
    rw [Nat.length_toDigits_le_iff (by decide) (by decide)]
    exact Nat.not_lt.mpr h.yearFrom
  have hyear : padLeft 4 '0' (decimalDigits w.date.year) = decimalDigits w.date.year := by
    have hzeros : 4 - (decimalDigits w.date.year).length = 0 := by omega
    rw [padLeft, hzeros]
    rfl
  rw [hyear]
  simp [text, timeText]

/-- A text whose places are filled has 19 characters. -/
theorem FillsPlaces.length_text {w : WallTime} (h : w.FillsPlaces) : w.text.length = 19 := by
  have htwo {n : Nat} (hn : n < 10 ^ 2) : (twoDigits n).length = 2 :=
    length_padLeft_decimalDigits (by decide) hn
  rw [h.text_eq]
  simp only [List.length_append, List.length_cons, htwo h.month, htwo h.day, htwo h.hour,
    htwo h.minute, htwo h.second, length_padLeft_decimalDigits (by decide) h.yearTo]

/-- Texts are in order as the numbers in them are. -/
theorem FillsPlaces.text_lt_iff {w w' : WallTime} (h : w.FillsPlaces) (h' : w'.FillsPlaces) :
    w.text < w'.text ↔ w.parts < w'.parts := by
  rw [h.text_eq, h'.text_eq]
  unfold parts Date.parts twoDigits
  rw [padLeft_append_lt_iff (by decide) h.yearTo h'.yearTo,
    padLeft_append_lt_iff (by decide) h.month h'.month,
    padLeft_append_lt_iff (by decide) h.day h'.day,
    padLeft_append_lt_iff (by decide) h.hour h'.hour,
    padLeft_append_lt_iff (by decide) h.minute h'.minute,
    padLeft_lt_iff (by decide) h.second h'.second]
  simp only [List.cons_append, List.nil_append, List.cons_lt_cons_iff, List.not_lt_nil, and_false,
    or_false]

/-- As long as they fill their places, texts of seconds are in order as the seconds are. -/
theorem text_ofSecond_lt_iff {n m : Nat} (hn : (ofSecond n).FillsPlaces)
    (hm : (ofSecond m).FillsPlaces) : (ofSecond n).text < (ofSecond m).text ↔ n < m :=
  (hn.text_lt_iff hm).trans strictMono_parts_ofSecond.lt_iff_lt

/-- A second is read back from its text. -/
theorem eq_of_text_ofSecond_eq {n m : Nat}
    (h : String.ofList (ofSecond n).text = String.ofList (ofSecond m).text) : n = m := by
  have hread := read?_text (ofSecond n)
  rw [h, read?_text, Option.some.injEq] at hread
  rw [← (ofSecond_spec n).2, ← hread, (ofSecond_spec m).2]

end WallTime

/-! ## Moments -/

/-- The last day that can be written lies in the year 9999. -/
theorem Date.year_ofDays_le {n : Nat} (h : n < dayLimit) : (ofDays n).year ≤ 9999 := by
  have hdays := (ofDays_spec n).2
  unfold Date.days at hdays
  by_contra hlate
  have hbefore : dayLimit ≤ daysBeforeYear (ofDays n).year := by
    unfold dayLimit daysBeforeYear
    dsimp only
    omega
  omega

namespace Moment

/-- A moment that is shown with a year of four digits is shown as the text of a second that fills
its places, and the seconds are counted as those of the instant in the zone. -/
theorem exists_fillsPlaces {z : Zone} {m : Moment} (h : m.IsReading) {text : String}
    (htext : m.formatIn z = .ok text)
    (hyear : ∃ w, WallTime.read? text = some w ∧ 1000 ≤ w.date.year) :
    ∃ n : Nat, (n : Int) = m.ticks / 1000000 + z.seconds ∧ (WallTime.ofSecond n).FillsPlaces ∧
      text = String.ofList (WallTime.ofSecond n).text := by
  rw [formatIn_eq h] at htext
  split_ifs at htext with hdated
  cases htext
  have hshown := hdated.2
  have hlast : Moment.last.ticks = dayLimit * 86400 * 1000000 - 1 := by decide
  have hfirst : Moment.first.ticks = 0 := by decide
  unfold IsDated Zone.ticks at hshown
  rw [hfirst, hlast] at hshown
  -- What is shown lies between the first and the last moment, so its seconds are a natural number.
  obtain ⟨n, hn⟩ : ∃ n : Nat, m.ticks / 1000000 + z.seconds = n :=
    ⟨(m.ticks / 1000000 + z.seconds).toNat, by omega⟩
  rw [hn, Int.toNat_natCast] at hyear ⊢
  obtain ⟨w, hread, hfrom⟩ := hyear
  rw [WallTime.read?_text] at hread
  cases hread
  have hto : (WallTime.ofSecond n).date.year ≤ 9999 := Date.year_ofDays_le (by omega)
  exact ⟨n, rfl, (WallTime.ofSecond_spec n).1.fillsPlaces hfrom hto, rfl⟩

/-- Two moments that are shown in one zone, with years of at least 1000, are shown as texts of 19
characters.  The texts are in order as the instants of the moments are, to the second: the one is
smaller exactly if its instant lies in an earlier second, and they are the same exactly if the
instants lie in the same one.  The offsets of the moments themselves do not matter. -/
theorem formatIn_chronological (z : Zone) (m m' : Moment) (h : m.IsReading) (h' : m'.IsReading)
    (text text' : String) (htext : m.formatIn z = .ok text) (htext' : m'.formatIn z = .ok text')
    (hyear : ∃ w, WallTime.read? text = some w ∧ 1000 ≤ w.date.year)
    (hyear' : ∃ w, WallTime.read? text' = some w ∧ 1000 ≤ w.date.year) :
    text.length = 19 ∧ text'.length = 19 ∧
      (text < text' ↔ m.ticks / 1000000 < m'.ticks / 1000000) ∧
      (text = text' ↔ m.ticks / 1000000 = m'.ticks / 1000000) := by
  obtain ⟨n, hn, hfills, rfl⟩ := exists_fillsPlaces h htext hyear
  obtain ⟨n', hn', hfills', rfl⟩ := exists_fillsPlaces h' htext' hyear'
  refine ⟨?_, ?_, ?_, ?_⟩
  · rw [String.length_ofList, hfills.length_text]
  · rw [String.length_ofList, hfills'.length_text]
  · rw [String.lt_iff_toList_lt, String.toList_ofList, String.toList_ofList,
      WallTime.text_ofSecond_lt_iff hfills hfills']
    omega
  · refine ⟨fun hsame => ?_, fun hsame => ?_⟩
    · have hsecond := WallTime.eq_of_text_ofSecond_eq hsame
      omega
    · obtain rfl : n = n' := by omega
      rfl

/-- The last second of a year in a zone eight hours east of UTC, and the first second of the next
year, told in another zone. -/
theorem newYear_chronological :
    let m : Moment := ⟨⟨1999, 12, 31⟩, 15, 59, 59, 999999, .bare⟩
    let m' : Moment := ⟨⟨1999, 12, 31⟩, 17, 0, 0, 0, .offset 3600⟩
    m.formatIn .utc8 = .ok "1999-12-31 23:59:59" ∧ m'.formatIn .utc8 = .ok "2000-01-01 00:00:00" ∧
      "1999-12-31 23:59:59" < "2000-01-01 00:00:00" ∧ m.ticks / 1000000 < m'.ticks / 1000000 := by
  intro m m'
  have hm : m.IsReading := by constructor <;> decide
  have hm' : m'.IsReading := by constructor <;> decide
  have hshown : m.formatIn .utc8 = .ok "1999-12-31 23:59:59" := by cbv
  have hshown' : m'.formatIn .utc8 = .ok "2000-01-01 00:00:00" := by cbv
  have hyear : WallTime.read? "1999-12-31 23:59:59" = some ⟨⟨1999, 12, 31⟩, 23, 59, 59⟩ := by cbv
  have hyear' : WallTime.read? "2000-01-01 00:00:00" = some ⟨⟨2000, 1, 1⟩, 0, 0, 0⟩ := by cbv
  have hearlier : m.ticks / 1000000 < m'.ticks / 1000000 := by decide
  obtain ⟨-, -, hless, -⟩ := formatIn_chronological .utc8 m m' hm hm' _ _ hshown hshown'
    ⟨_, hyear, by decide⟩ ⟨_, hyear', by decide⟩
  exact ⟨hshown, hshown', hless.mpr hearlier, hearlier⟩

end Moment

end Tocsin.Calendar
