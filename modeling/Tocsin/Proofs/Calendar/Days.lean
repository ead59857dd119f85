import Mathlib
import Tocsin.Calendar.Date

/-!
# Dates and day numbers

Day numbers count the days of the calendar one by one.  What the day after a date is can be said
without them (`Date.next`): the first day of year 1 has the number 0, the day after a date has the
next number, and every date comes of the first day by as many steps as its number tells
(`Date.Valid.eq_iterate_next`).  So a number is that of one date only, which `Date.ofDays` finds
(`Date.ofDays_eq_iterate_next`).

A day number is taken apart into whole cycles of 400, 100, 4 and 1 years.  The last cycle of each
kind but the first may be longer by a day than the others, which is why the numbers of 100 and of
single years are cut off at 3; `yearOfDays_spec` is about what is left then.
-/

set_option autoImplicit false

namespace Tocsin.Calendar

/-! ## Years -/

/-- How many days a year has. -/
def yearLength (leap : Bool) : Nat := if leap then 366 else 365

/-- The rule of leap years by remainders. -/
theorem isLeap_iff {year : Nat} :
    isLeap year = true ↔ year % 4 = 0 ∧ (year % 100 ≠ 0 ∨ year % 400 = 0) := by
  simp [isLeap]

/-- The next year starts when all days of a year are over. -/
theorem daysBeforeYear_succ {year : Nat} (h : 1 ≤ year) :
    daysBeforeYear (year + 1) = daysBeforeYear year + yearLength (isLeap year) := by
  obtain ⟨past, rfl⟩ : ∃ past, year = past + 1 := ⟨year - 1, (Nat.sub_add_cancel h).symm⟩
  have hfewer : past / 100 ≤ past / 4 := Nat.div_le_div_left (by decide) (by decide)
  unfold daysBeforeYear yearLength
  dsimp only
  rw [Nat.add_sub_cancel, Nat.add_sub_cancel, Nat.succ_div, Nat.succ_div, Nat.succ_div]
  by_cases hleap : isLeap (past + 1) = true
  · rw [if_pos hleap]
    rw [isLeap_iff] at hleap
    split_ifs <;> omega
  · rw [if_neg hleap]
    rw [isLeap_iff] at hleap
    split_ifs <;> omega

/-- The days before a year, counted by cycles: there are `a` cycles of 400 years, `b` of 100 years,
`c` of 4 years and `d` single years before it. -/
theorem daysBeforeYear_cycles {a b c d : Nat} (hb : b ≤ 3) (hc : c ≤ 24) (hd : d ≤ 3) :
    daysBeforeYear (400 * a + 100 * b + 4 * c + d + 1) =
      146097 * a + 36524 * b + 1461 * c + 365 * d := by
  unfold daysBeforeYear
  dsimp only
  omega

/-- A year is a leap year if it is the last one of four, but not if these are the last of a hundred
years, unless the hundred years are the last of four hundred. -/
theorem isLeap_cycles {a b c d : Nat} (hb : b ≤ 3) (hc : c ≤ 24) (hd : d ≤ 3) :
    isLeap (400 * a + 100 * b + 4 * c + d + 1) = true ↔ d = 3 ∧ (c = 24 → b = 3) := by
  rw [isLeap_iff]
  omega

/-- The year of a day number starts as many days earlier as are told, and these are fewer than the
year has. -/
theorem yearOfDays_spec (n : Nat) :
    1 ≤ (yearOfDays n).1 ∧ daysBeforeYear (yearOfDays n).1 + (yearOfDays n).2 = n ∧
      (yearOfDays n).2 < yearLength (isLeap (yearOfDays n).1) := by
  -- Each quotient and remainder gets a name with its bounds, in the order in which they are taken,
  -- so that the cases of the last cycles are linear in the names.
  obtain ⟨a, r400, ha, hr400, hn⟩ : ∃ a r400, n / 146097 = a ∧ n % 146097 = r400 ∧
      n = 146097 * a + r400 ∧ r400 < 146097 := ⟨_, _, rfl, rfl, by omega, by omega⟩
  obtain ⟨b, hb, hb3⟩ : ∃ b, min 3 (r400 / 36524) = b ∧ b ≤ 3 := ⟨_, rfl, by omega⟩
  obtain ⟨r100, hr100, hlast⟩ : ∃ r100, r400 - b * 36524 = r100 ∧ r400 = 36524 * b + r100 ∧
      r100 ≤ 36524 ∧ (b < 3 → r100 < 36524) := ⟨_, rfl, by omega, by omega, by omega⟩
  obtain ⟨c, r4, hc, hr4, hc24⟩ : ∃ c r4, r100 / 1461 = c ∧ r100 % 1461 = r4 ∧ c ≤ 24 ∧
      r100 = 1461 * c + r4 ∧ r4 < 1461 := ⟨_, _, rfl, rfl, by omega, by omega, by omega⟩
  obtain ⟨d, hd, hd3⟩ : ∃ d, min 3 (r4 / 365) = d ∧ d ≤ 3 := ⟨_, rfl, by omega⟩
  have hyear : yearOfDays n = (400 * a + 100 * b + 4 * c + d + 1, r4 - d * 365) := by
    unfold yearOfDays
    simp only [ha, hr400, hb, hr100, hc, hr4, hd]
    congr 1
    omega
  have hleap := isLeap_cycles (a := a) hb3 hc24.1 hd3
  rw [hyear]
  dsimp only
  refine ⟨by omega, ?_, ?_⟩
  · rw [daysBeforeYear_cycles hb3 hc24.1 hd3]
    omega
  · unfold yearLength
    split_ifs with hlong
    · omega
    · rw [hleap] at hlong
      omega

/-! ## Months -/

/-- The months of a year have as many days as the year. -/
theorem sum_monthLengths (leap : Bool) : (monthLengths leap).sum = yearLength leap := by
  cases leap <;> rfl

/-- The days before a month are those of the months before it. -/
theorem daysBeforeMonth_eq (leap : Bool) (month : Nat) :
    daysBeforeMonth leap month = ((monthLengths leap).take (month - 1)).sum :=
  List.sum_eq_foldl.symm

/-- No month is without days. -/
theorem monthLength_pos (leap : Bool) {month : Nat} (h : month < 12) :
    0 < (monthLengths leap).getD month 0 := by
  have hall : ∀ leap, ∀ m < 12, 0 < (monthLengths leap).getD m 0 := by decide
  exact hall leap month h

/-- A day falls in one of the months ahead, so many days behind those before it. -/
theorem monthOfDay_spec {month : Nat} {lengths : List Nat} {r : Nat} (h : r < lengths.sum) :
    ∃ k d, monthOfDay month lengths r = (month + k, d + 1) ∧ k < lengths.length ∧
      d < lengths.getD k 0 ∧ (lengths.take k).sum + d = r := by
  induction lengths generalizing month r with
  | nil => cases h
  | cons length lengths ih =>
      unfold monthOfDay
      by_cases hfirst : r < length
      · rw [if_pos hfirst]
        exact ⟨0, r, rfl, by simp, by simpa using hfirst, by simp⟩
      · rw [if_neg hfirst]
        rw [List.sum_cons] at h
        obtain ⟨k, d, hmonth, hk, hd, hsum⟩ := @ih (month + 1) (r - length) (by omega)
        refine ⟨k + 1, d, ?_, by simpa using hk, by simpa using hd, ?_⟩
        · rw [hmonth]
          congr 1
          omega
        · rw [List.take_succ_cons, List.sum_cons]
          omega

/-! ## Dates -/

namespace Date

/-- A date exists if its year has that month, counted from 0 here, and the month that day, counted
from 0 as well. -/
theorem valid_mk {year month day : Nat} (hyear : 1 ≤ year) (hmonth : month < 12)
    (hday : day < (monthLengths (isLeap year)).getD month 0) :
    Valid ⟨year, month + 1, day + 1⟩ := by
  refine ⟨hyear, Nat.le_add_left 1 month, hmonth, Nat.le_add_left 1 day, ?_⟩
  rw [Nat.add_sub_cancel]
  exact hday

/-- Every date that exists is of this kind. -/
theorem Valid.exists_mk {d : Date} (h : d.Valid) :
    ∃ year month day, d = ⟨year, month + 1, day + 1⟩ ∧ 1 ≤ year ∧ month < 12 ∧
      day < (monthLengths (isLeap year)).getD month 0 := by
  obtain ⟨year, month, day⟩ := d
  obtain ⟨hyear, hmonth, hmonths, hday, hdays⟩ := h
  obtain ⟨month, rfl⟩ : ∃ m, month = m + 1 := ⟨month - 1, (Nat.sub_add_cancel hmonth).symm⟩
  obtain ⟨day, rfl⟩ : ∃ d, day = d + 1 := ⟨day - 1, (Nat.sub_add_cancel hday).symm⟩
  rw [Nat.add_sub_cancel] at hdays
  exact ⟨year, month, day, rfl, hyear, hmonths, hdays⟩

/-- The number of a date is made of the days before its year, those before its month, and those
before it in the month. -/
theorem days_mk (year month day : Nat) :
    days ⟨year, month + 1, day + 1⟩ =
      daysBeforeYear year + ((monthLengths (isLeap year)).take month).sum + day := by
  unfold days
  rw [daysBeforeMonth_eq, Nat.add_sub_cancel, Nat.add_sub_cancel]

/-- The date of a day number exists and has that number. -/
theorem ofDays_spec (n : Nat) : (ofDays n).Valid ∧ (ofDays n).days = n := by
  obtain ⟨hpos, hyear, hrest⟩ := yearOfDays_spec n
  have hsum : (yearOfDays n).2 < (monthLengths (isLeap (yearOfDays n).1)).sum := by
    rw [sum_monthLengths]
    exact hrest
  obtain ⟨k, d, hmonth, hk, hd, hdays⟩ := @monthOfDay_spec 1 _ _ hsum
  have hdate : ofDays n = ⟨(yearOfDays n).1, k + 1, d + 1⟩ := by
    unfold ofDays
    dsimp only
    rw [hmonth, Nat.add_comm]
  rw [hdate]
  refine ⟨valid_mk hpos hk hd, ?_⟩
  rw [days_mk]
  omega

/-- The dates of the years up to 9999 have the numbers below the limit. -/
theorem Valid.days_lt_dayLimit {d : Date} (h : d.Valid) (hlast : d.year ≤ 9999) :
    d.days < dayLimit := by
  obtain ⟨year, month, day, rfl, hyear, hmonth, hday⟩ := h.exists_mk
  have hmonths : ∀ leap, ∀ m < 12,
      ((monthLengths leap).take m).sum + (monthLengths leap).getD m 0 ≤ yearLength leap := by
    decide
  have hlength := hmonths (isLeap year) month hmonth
  have hnext := daysBeforeYear_succ hyear
  have hlimit : daysBeforeYear (year + 1) ≤ dayLimit := by
    unfold dayLimit daysBeforeYear
    dsimp only at hlast ⊢
    omega
  rw [days_mk]
  omega

/-- The day after a date. -/
def next (d : Date) : Date :=
  if d.day < (monthLengths (isLeap d.year)).getD (d.month - 1) 0 then { d with day := d.day + 1 }
  else if d.month < 12 then ⟨d.year, d.month + 1, 1⟩
  else ⟨d.year + 1, 1, 1⟩

/-- The day after a date whose month and day are counted from 0. -/
theorem next_mk (year month day : Nat) :
    next ⟨year, month + 1, day + 1⟩ =
      if day + 1 < (monthLengths (isLeap year)).getD month 0 then ⟨year, month + 1, day + 1 + 1⟩
      else if month + 1 < 12 then ⟨year, month + 1 + 1, 1⟩
      else ⟨year + 1, 1, 1⟩ := rfl

/-- The day after a date exists and has the next number. -/
theorem days_next {d : Date} (h : d.Valid) : d.next.Valid ∧ d.next.days = d.days + 1 := by
  obtain ⟨year, month, day, rfl, hyear, hmonth, hday⟩ := h.exists_mk
  have hlengths : month < (monthLengths (isLeap year)).length := hmonth
  have htake := List.sum_take_succ (monthLengths (isLeap year)) month hlengths
  rw [← List.getD_eq_getElem _ 0 hlengths] at htake
  rw [next_mk]
  split_ifs with hsame hwithin
  · refine ⟨valid_mk hyear hmonth hsame, ?_⟩
    rw [days_mk, days_mk]
    omega
  · refine ⟨valid_mk hyear hwithin (monthLength_pos _ hwithin), ?_⟩
    rw [days_mk year (month + 1) 0, days_mk, htake]
    omega
  · -- The last day of December: the months of the year are over, and with them its days.
    have hlast : month = 11 := by omega
    subst hlast
    refine ⟨valid_mk (by omega) (by decide) (monthLength_pos _ (by decide)), ?_⟩
    have hwhole : ((monthLengths (isLeap year)).take (11 + 1)).sum = yearLength (isLeap year) :=
      sum_monthLengths _
    rw [days_mk (year + 1) 0 0, days_mk, daysBeforeYear_succ hyear, List.take_zero, List.sum_nil]
    omega

/-- Every date but the first one is the day after another. -/
theorem Valid.exists_previous {d : Date} (h : d.Valid) :
    d = ⟨1, 1, 1⟩ ∨ ∃ e : Date, e.Valid ∧ e.next = d := by
  obtain ⟨year, month, day, rfl, hyear, hmonth, hday⟩ := h.exists_mk
  cases day with
  | succ day =>
      refine .inr ⟨⟨year, month + 1, day + 1⟩, valid_mk hyear hmonth (by omega), ?_⟩
      rw [next_mk, if_pos hday]
  | zero =>
      cases month with
      | succ month =>
          -- The last day of the month before, which has as many days as it is long.
          have hlong := monthLength_pos (isLeap year) (Nat.lt_of_succ_lt hmonth)
          obtain ⟨last, hlast⟩ : ∃ last, (monthLengths (isLeap year)).getD month 0 = last + 1 :=
            Nat.exists_eq_succ_of_ne_zero hlong.ne'
          refine .inr ⟨⟨year, month + 1, last + 1⟩, valid_mk hyear (by omega) (by omega), ?_⟩
          rw [next_mk, hlast, if_neg (Nat.lt_irrefl _), if_pos hmonth]
      | zero =>
          obtain rfl | hlater : year = 1 ∨ 2 ≤ year := by omega
          · exact .inl rfl
          · obtain ⟨past, rfl⟩ : ∃ past, year = past + 1 := ⟨year - 1, by omega⟩
            have hdecember : (monthLengths (isLeap past)).getD 11 0 = 31 := by
              cases isLeap past <;> rfl
            refine .inr ⟨⟨past, 11 + 1, 30 + 1⟩, valid_mk (by omega) (by decide) (by omega), ?_⟩
            rw [next_mk, hdecember]
            rfl

/-- A date comes of the first day by as many steps as its number tells. -/
theorem Valid.eq_iterate_next {d : Date} (h : d.Valid) : d = next^[d.days] ⟨1, 1, 1⟩ := by
  have hfirst : days ⟨1, 1, 1⟩ = 0 := by decide
  induction hnumber : d.days generalizing d with
  | zero =>
      obtain rfl | ⟨e, he, rfl⟩ := h.exists_previous
      · rfl
      · rw [(days_next he).2] at hnumber
        cases hnumber
  | succ n ih =>
      obtain rfl | ⟨e, he, rfl⟩ := h.exists_previous
      · rw [hfirst] at hnumber
        cases hnumber
      · rw [(days_next he).2, Nat.add_right_cancel_iff] at hnumber
        have hearlier := ih he hnumber
        rw [Function.iterate_succ_apply', ← hearlier]

/-- The date of a day number is so many days behind the first date. -/
theorem ofDays_eq_iterate_next (n : Nat) : ofDays n = next^[n] ⟨1, 1, 1⟩ := by
  obtain ⟨hvalid, hdays⟩ := ofDays_spec n
  have hsteps := hvalid.eq_iterate_next
  rwa [hdays] at hsteps

/-- A date is found from its number. -/
theorem Valid.ofDays_days {d : Date} (h : d.Valid) : ofDays d.days = d := by
  rw [ofDays_eq_iterate_next, ← h.eq_iterate_next]

end Date

end Tocsin.Calendar
