import Mathlib
import Tocsin.Text.Digit

/-!
# Numbers written in digits

A number is read from its decimal digits, with or without zeros in front of them
(`readDigits?_padLeft`), and nothing but digits is written for it, so that marks between numbers can
be told from them (`not_mem_padLeft`).  Numbers that are written with as many digits stand in the
order of their texts (`padLeft_lt_iff`).
-/

set_option autoImplicit false

namespace Tocsin.Text

/-- The number that a text of digits denotes. -/
def readDigits? (cs : List Char) : Option Nat :=
  if cs ≠ [] ∧ cs.all Char.isDigit = true then some (Nat.ofDigitChars 10 cs 0) else none

/-- The code points of digits. -/
theorem toNat_of_isDigit {c : Char} (h : c.isDigit = true) : 48 ≤ c.toNat ∧ c.toNat ≤ 57 := by
  simp only [Char.isDigit, Bool.and_eq_true, decide_eq_true_eq] at h
  exact h

/-- A number is written in digits. -/
theorem isDigit_of_mem_decimalDigits {n : Nat} {c : Char} (h : c ∈ decimalDigits n) :
    c.isDigit = true := Nat.isDigit_of_mem_toDigits (by decide) (by decide) h

/-- A number with zeros in front is written in digits, too. -/
theorem isDigit_of_mem_padLeft {width n : Nat} {c : Char}
    (h : c ∈ padLeft width '0' (decimalDigits n)) : c.isDigit = true := by
  rcases List.mem_append.mp h with hzero | hdigit
  · rw [List.eq_of_mem_replicate hzero]
    rfl
  · exact isDigit_of_mem_decimalDigits hdigit

/-- A mark that is no digit is not in a number with zeros in front. -/
theorem not_mem_padLeft {mark : Char} (hmark : mark.isDigit = false) (width n : Nat) :
    mark ∉ padLeft width '0' (decimalDigits n) := by
  intro hmem
  rw [isDigit_of_mem_padLeft hmem] at hmark
  cases hmark

/-- A mark that is no digit is not in a number. -/
theorem not_mem_decimalDigits {mark : Char} (hmark : mark.isDigit = false) (n : Nat) :
    mark ∉ decimalDigits n := fun hmem =>
  not_mem_padLeft hmark 0 n (List.mem_append_right _ hmem)

/-- Zeros in front do not change the number that digits denote. -/
theorem ofDigitChars_padLeft (width n : Nat) :
    Nat.ofDigitChars 10 (padLeft width '0' (decimalDigits n)) 0 = n := by
  unfold padLeft decimalDigits
  rw [Nat.ofDigitChars_append, Nat.ofDigitChars_replicate_zero, Nat.mul_zero,
    Nat.ofDigitChars_toDigits (by decide) (by decide)]

/-- Numbers with the same digits, behind zeros or not, are the same. -/
theorem padLeft_inj {width n m : Nat} :
    padLeft width '0' (decimalDigits n) = padLeft width '0' (decimalDigits m) ↔ n = m := by
  refine ⟨fun h => ?_, fun h => congrArg _ (congrArg _ h)⟩
  rw [← ofDigitChars_padLeft width n, h, ofDigitChars_padLeft]

/-- A number is read from its digits with zeros in front. -/
theorem readDigits?_padLeft (width n : Nat) :
    readDigits? (padLeft width '0' (decimalDigits n)) = some n := by
  have hne : padLeft width '0' (decimalDigits n) ≠ [] := by
    intro hnil
    exact Nat.toDigits_ne_nil (List.append_eq_nil_iff.mp hnil).2
  have hdigits : (padLeft width '0' (decimalDigits n)).all Char.isDigit = true :=
    List.all_eq_true.mpr fun c hc => isDigit_of_mem_padLeft hc
  unfold readDigits?
  rw [if_pos ⟨hne, hdigits⟩, ofDigitChars_padLeft]

/-- A number is read from its digits. -/
theorem readDigits?_decimalDigits (n : Nat) : readDigits? (decimalDigits n) = some n := by
  have hpad : padLeft 0 '0' (decimalDigits n) = decimalDigits n := by simp [padLeft]
  rw [← hpad, readDigits?_padLeft]

/-! ## Integers -/

/-- The integer that a text denotes: a number in digits, behind a hyphen if it is negative. -/
def readInteger? : List Char → Option Int
  | '-' :: cs => (readDigits? cs).map fun n => -(n : Int)
  | cs => (readDigits? cs).map fun n => (n : Int)

/-- An integer is read from its text. -/
theorem readInteger?_decimalText (n : Int) : readInteger? (decimalText n) = some n := by
  cases n with
  | ofNat n =>
      have hsign : ∀ cs, decimalDigits n = '-' :: cs → False := fun cs h =>
        @not_mem_decimalDigits '-' rfl n (h ▸ List.mem_cons_self)
      show readInteger? (decimalDigits n) = _
      rw [readInteger?.eq_2 _ hsign, readDigits?_decimalDigits]
      rfl
  | negSucc n =>
      show (readDigits? (decimalDigits (n + 1))).map (fun n => -(n : Int)) = _
      rw [readDigits?_decimalDigits]
      rfl

/-- A mark that is no digit and no hyphen is not in an integer. -/
theorem not_mem_decimalText {mark : Char} (hdigit : mark.isDigit = false) (hsign : mark ≠ '-')
    (n : Int) : mark ∉ decimalText n := by
  cases n with
  | ofNat n => exact not_mem_decimalDigits hdigit n
  | negSucc n =>
      exact List.not_mem_cons_of_ne_of_not_mem hsign (not_mem_decimalDigits hdigit (n + 1))

/-! ## Words around numbers -/

/-- An end that stands behind a text is taken off. -/
theorem dropSuffix?_append_self (cs back : List Char) :
    (cs ++ back).dropSuffix? back = some cs :=
  List.dropSuffix?_eq_some_iff.mpr ⟨back, rfl, beq_self_eq_true back⟩

/-! ## Hexadecimal digits -/

/-- A hexadecimal digit is read back. -/
theorem hexDigit?_digitChar : ∀ n < 16, hexDigit? (digitChar n) = some n := by decide

/-- What is written in hexadecimal digits is one of the sixteen. -/
theorem exists_of_mem_hexDigits {width n : Nat} {c : Char} (h : c ∈ hexDigits width n) :
    ∃ d < 16, c = digitChar d := by
  induction width generalizing n with
  | zero => cases h
  | succ width ih =>
      rcases List.mem_append.mp h with hfront | hlast
      · exact ih hfront
      · exact ⟨n % 16, Nat.mod_lt n (by decide), List.mem_singleton.mp hlast⟩

/-! ## Order -/

/-- Lists with fronts of one length are compared by their fronts first. -/
theorem append_lt_append_iff {α : Type} [LT α] {a b : List α} (h : a.length = b.length)
    (c d : List α) : a ++ c < b ++ d ↔ a < b ∨ a = b ∧ c < d := by
  induction a generalizing b with
  | nil =>
      obtain rfl := List.length_eq_zero_iff.mp h.symm
      simp
  | cons x a ih =>
      obtain ⟨y, b, rfl⟩ := List.exists_cons_of_length_eq_add_one h.symm
      rw [List.cons_append, List.cons_append, List.cons_lt_cons_iff, List.cons_lt_cons_iff,
        ih (Nat.succ.inj h), List.cons_eq_cons]
      tauto

/-- Digits behind a smaller number make a smaller number than as many digits behind a greater
one. -/
theorem ofDigitChars_lt_of_start_lt {cs ds : List Char} (hlength : cs.length = ds.length)
    (hcs : ∀ c ∈ cs, c.isDigit = true) {a b : Nat} (h : a < b) :
    Nat.ofDigitChars 10 cs a < Nat.ofDigitChars 10 ds b := by
  induction cs generalizing ds a b with
  | nil =>
      obtain rfl := List.length_eq_zero_iff.mp hlength.symm
      exact h
  | cons c cs ih =>
      obtain ⟨d, ds, rfl⟩ := List.exists_cons_of_length_eq_add_one hlength.symm
      have hc : c.toNat - '0'.toNat ≤ 9 := by
        have hdigit := toNat_of_isDigit (hcs c List.mem_cons_self)
        have hzero : '0'.toNat = 48 := rfl
        omega
      rw [Nat.ofDigitChars_cons, Nat.ofDigitChars_cons]
      refine ih (Nat.succ.inj hlength) (fun e he => hcs e (List.mem_cons_of_mem c he)) ?_
      omega

/-- As many digits that stand before others in the order of texts make a smaller number. -/
theorem ofDigitChars_lt_of_lt {cs ds : List Char} (hlength : cs.length = ds.length)
    (hcs : ∀ c ∈ cs, c.isDigit = true) (h : cs < ds) (start : Nat) :
    Nat.ofDigitChars 10 cs start < Nat.ofDigitChars 10 ds start := by
  induction cs generalizing ds start with
  | nil =>
      obtain rfl := List.length_eq_zero_iff.mp hlength.symm
      cases h
  | cons c cs ih =>
      obtain ⟨d, ds, rfl⟩ := List.exists_cons_of_length_eq_add_one hlength.symm
      have hrest : ∀ e ∈ cs, e.isDigit = true := fun e he => hcs e (List.mem_cons_of_mem c he)
      rw [Nat.ofDigitChars_cons, Nat.ofDigitChars_cons]
      rcases List.cons_lt_cons_iff.mp h with hfirst | ⟨rfl, hlater⟩
      · apply ofDigitChars_lt_of_start_lt (Nat.succ.inj hlength) hrest
        have hc := toNat_of_isDigit (hcs c List.mem_cons_self)
        have hcd : c.toNat < d.toNat := hfirst
        have hzero : '0'.toNat = 48 := rfl
        omega
      · exact ih (Nat.succ.inj hlength) hrest hlater _

/-- A number that fits a width is written with just so many digits. -/
theorem length_padLeft_decimalDigits {width n : Nat} (hwidth : 0 < width) (h : n < 10 ^ width) :
    (padLeft width '0' (decimalDigits n)).length = width := by
  have hlength : (decimalDigits n).length ≤ width :=
    (Nat.length_toDigits_le_iff (by decide) hwidth).mpr h
  simp only [padLeft, List.length_append, List.length_replicate]
  omega

/-- Numbers of one width are in order as their digits are. -/
theorem padLeft_lt_iff {width n m : Nat} (hwidth : 0 < width) (hn : n < 10 ^ width)
    (hm : m < 10 ^ width) :
    padLeft width '0' (decimalDigits n) < padLeft width '0' (decimalDigits m) ↔ n < m := by
  have hlength {a : Nat} (ha : a < 10 ^ width) := length_padLeft_decimalDigits hwidth ha
  have hvalue : ∀ {a b : Nat}, a < 10 ^ width → b < 10 ^ width →
      padLeft width '0' (decimalDigits a) < padLeft width '0' (decimalDigits b) → a < b := by
    intro a b ha hb h
    have hless := ofDigitChars_lt_of_lt ((hlength ha).trans (hlength hb).symm)
      (fun c hc => isDigit_of_mem_padLeft hc) h 0
    rwa [ofDigitChars_padLeft, ofDigitChars_padLeft] at hless
  refine ⟨hvalue hn hm, fun h => ?_⟩
  rcases lt_trichotomy (padLeft width '0' (decimalDigits n)) (padLeft width '0' (decimalDigits m))
    with hless | hsame | hgreater
  · exact hless
  · exact absurd (padLeft_inj.mp hsame) (by omega)
  · exact absurd (hvalue hm hn hgreater) (by omega)

/-- Texts that start with numbers of one width and a mark are compared by the numbers first. -/
theorem padLeft_append_lt_iff {width n m : Nat} (hwidth : 0 < width) (hn : n < 10 ^ width)
    (hm : m < 10 ^ width) (mark : Char) (rest rest' : List Char) :
    padLeft width '0' (decimalDigits n) ++ mark :: rest <
        padLeft width '0' (decimalDigits m) ++ mark :: rest' ↔
      n < m ∨ n = m ∧ rest < rest' := by
  have hlength := (length_padLeft_decimalDigits hwidth hn).trans
    (length_padLeft_decimalDigits hwidth hm).symm
  rw [append_lt_append_iff hlength, padLeft_lt_iff hwidth hn hm, padLeft_inj,
    List.cons_lt_cons_iff]
  simp

end Tocsin.Text
