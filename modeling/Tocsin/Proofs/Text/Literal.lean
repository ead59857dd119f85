import Mathlib
import Tocsin.Text.Literal
import Tocsin.Proofs.Text.Digits

/-!
# What quoted literals show

Inside a literal each character of the text is written in a way of its own, and a reader undoes it
whatever follows (`unescape_escape`).  The escapes with a code point have a fixed number of digits,
so that a digit behind them does not belong to them (`readHex_hexDigits`).  Hence a literal shows
the text that it was made of, and no other (`unquote?_quote`).

Every character of a literal is printable (`isPrintable_of_mem_quote`).  Printable characters are
neither controls nor line breaks, so a literal stays on one line whatever the text contains.
-/

set_option autoImplicit false

namespace Tocsin.Text

/-! ## Printable characters -/

/-- The control characters: the first 32 code points, U+007F, and the 32 behind it. -/
def IsControl (c : Char) : Prop := c.toNat < 0x20 ∨ 0x7f ≤ c.toNat ∧ c.toNat < 0xa0

/-- The code points at which a text is cut into lines. -/
def lineBreaks : List Nat := [0x0a, 0x0b, 0x0c, 0x0d, 0x1c, 0x1d, 0x1e, 0x85, 0x2028, 0x2029]

/-- The characters at which a text is cut into lines. -/
def IsLineBreak (c : Char) : Prop := c.toNat ∈ lineBreaks

/-- A character is printable if it lies in none of the hidden ranges. -/
theorem isPrintable_eq_true_iff {c : Char} :
    isPrintable c = true ↔ ∀ r ∈ hiddenRanges, c.toNat < r.1 ∨ r.2 < c.toNat := by
  unfold isPrintable
  rw [Bool.not_eq_true', Bool.eq_false_iff, Ne, inRanges_iff]
  push Not
  refine forall₂_congr fun r _ => ?_
  omega

/-- The ASCII characters that are no controls. -/
def isPlain (c : Char) : Bool := 0x20 ≤ c.toNat && c.toNat < 0x7f

/-- ASCII characters that are no controls are printable. -/
theorem isPrintable_of_isPlain {c : Char} (h : isPlain c = true) : isPrintable c = true := by
  have hranges : ∀ r ∈ hiddenRanges, r.2 < 0x20 ∨ 0x7f ≤ r.1 := by decide +kernel
  unfold isPlain at h
  rw [Bool.and_eq_true, decide_eq_true_eq, decide_eq_true_eq] at h
  refine isPrintable_eq_true_iff.mpr fun r hr => ?_
  have hrange := hranges r hr
  omega

/-- Digits are no controls. -/
theorem isPlain_of_mem_decimalDigits {n : Nat} {c : Char} (h : c ∈ decimalDigits n) :
    isPlain c = true := by
  have hdigit := toNat_of_isDigit (isDigit_of_mem_decimalDigits h)
  unfold isPlain
  rw [Bool.and_eq_true, decide_eq_true_eq, decide_eq_true_eq]
  omega

/-- No control is printable. -/
theorem not_isControl_of_isPrintable {c : Char} (h : isPrintable c = true) : ¬ IsControl c := by
  have hranges := isPrintable_eq_true_iff.mp h
  have hlow := hranges (0x0, 0x1f) (by decide)
  have hhigh := hranges (0x7f, 0xa0) (by decide)
  unfold IsControl
  dsimp only at hlow hhigh
  omega

/-- No line break is printable. -/
theorem not_isLineBreak_of_isPrintable {c : Char} (h : isPrintable c = true) :
    ¬ IsLineBreak c := by
  have hhidden : ∀ n ∈ lineBreaks, inRanges hiddenRanges n = true := by decide +kernel
  intro hbreak
  unfold isPrintable at h
  rw [hhidden c.toNat hbreak] at h
  cases h

namespace Literal

/-! ## Escapes with a code point -/

/-- The last of several digits is read behind the others. -/
theorem readHex_succ (count n : Nat) (cs : List Char) :
    readHex (count + 1) n cs = (readHex count n cs).bind fun p => readHex 1 p.1 p.2 := by
  induction count generalizing n cs with
  | zero => rfl
  | succ count ih =>
      cases cs with
      | nil => rfl
      | cons c cs =>
          rw [readHex.eq_3, readHex.eq_3]
          cases hexDigit? c with
          | none => rfl
          | some d => exact ih _ _

/-- As many digits of a number as are written are read, and what follows is left. -/
theorem readHex_hexDigits (width start n : Nat) (rest : List Char) :
    readHex width start (hexDigits width n ++ rest) =
      some (start * 16 ^ width + n % 16 ^ width, rest) := by
  -- Digits are written from the last one to the first, so each step is about the last one.
  induction width generalizing n rest with
  | zero => simp [readHex, hexDigits, Nat.mod_one]
  | succ width ih =>
      have hlast : hexDigit? (digitChar (n % 16)) = some (n % 16) :=
        hexDigit?_digitChar _ (Nat.mod_lt n (by decide))
      have hvalue : (start * 16 ^ width + n / 16 % 16 ^ width) * 16 + n % 16 =
          start * 16 ^ (width + 1) + n % 16 ^ (width + 1) := by
        rw [pow_succ', Nat.mod_mul]
        ring
      rw [hexDigits, List.append_assoc, readHex_succ, ih, Option.bind_some, List.singleton_append,
        readHex.eq_3, hlast]
      simp only [readHex, hvalue]

/-- The digits of an escape are read as a character. -/
theorem code_of_readHex {q : Char} {count n : Nat} {cs rest : List Char}
    (h : readHex count 0 cs = some (n, rest)) :
    unescape.code q count cs = (unescape q rest).map (Char.ofNat n :: ·) := by
  rw [unescape.code]
  split
  next hnone =>
    rw [h] at hnone
    cases hnone
  next hsome =>
    rw [h] at hsome
    cases hsome
    rfl

/-- A character is read from its code point, if there are enough digits for that. -/
theorem code_hexDigits (q : Char) {c : Char} {width : Nat} (h : c.toNat < 16 ^ width)
    (rest : List Char) :
    unescape.code q width (hexDigits width c.toNat ++ rest) =
      (unescape q rest).map (c :: ·) := by
  have hread := readHex_hexDigits width 0 c.toNat rest
  rw [Nat.zero_mul, Nat.zero_add, Nat.mod_eq_of_lt h] at hread
  rw [code_of_readHex hread, Char.ofNat_toNat]

/-- Each of the three forms has digits enough for the code points that are written in it. -/
theorem unescape_escapeCode (q c : Char) (rest : List Char) :
    unescape q (escapeCode c.toNat ++ rest) = (unescape q rest).map (c :: ·) := by
  unfold escapeCode
  split_ifs with hbyte hunit
  · exact (unescape.eq_5 q _).trans (code_hexDigits q hbyte rest)
  · exact (unescape.eq_6 q _).trans (code_hexDigits q hunit rest)
  · have hlarge : c.toNat < 16 ^ 8 := c.toNat_le_max.trans_lt (by decide)
    exact (unescape.eq_7 q _).trans (code_hexDigits q hlarge rest)

/-! ## Reading back -/

/-- A literal stands between marks of one of two kinds. -/
theorem mark_cases (cs : List Char) : mark cs = apostrophe ∨ mark cs = doubleMark := by
  unfold mark
  split_ifs
  · exact .inr rfl
  · exact .inl rfl

/-- A character in front of which there is no backslash ends the literal or stands for itself. -/
theorem unescape_cons {q c : Char} (h : c ≠ '\\') (cs : List Char) :
    unescape q (c :: cs) =
      if c = q then (if cs.isEmpty then some [] else none)
      else (unescape q cs).map (c :: ·) := by
  rw [unescape.eq_9 q c cs (fun _ hc _ => h hc) (fun _ hc _ => h hc) (fun _ hc _ => h hc)
    (fun _ hc _ => h hc) (fun _ hc _ => h hc) (fun _ hc _ => h hc) (fun _ _ hc _ => h hc),
    if_neg h]

/-- Behind a backslash the mark and the backslash stand for themselves.  Neither of them is a letter
with which an escape begins. -/
theorem unescape_backslash_cons {q c : Char} (hq : q = apostrophe ∨ q = doubleMark)
    (hc : c = q ∨ c = '\\') (cs : List Char) :
    unescape q ('\\' :: c :: cs) = (unescape q cs).map (c :: ·) := by
  have hletter : c ∉ ['t', 'n', 'r', 'x', 'u', 'U'] := by
    rcases hc with rfl | rfl
    · rcases hq with rfl | rfl <;> decide
    · decide
  simp only [List.mem_cons, List.not_mem_nil, or_false, not_or] at hletter
  obtain ⟨ht, hn, hr, hx, hu, hU⟩ := hletter
  rw [unescape.eq_8 q c cs ht hn hr hx hu hU, if_pos hc]

/-- A character is read from the way in which it is written, whatever follows. -/
theorem unescape_escape {q : Char} (hq : q = apostrophe ∨ q = doubleMark) (c : Char)
    (rest : List Char) :
    unescape q (escape q c ++ rest) = (unescape q rest).map (c :: ·) := by
  unfold escape
  split_ifs with hmark htab hfeed hreturn hshown
  · exact unescape_backslash_cons hq hmark rest
  · rw [htab]
    exact unescape.eq_2 q rest
  · rw [hfeed]
    exact unescape.eq_3 q rest
  · rw [hreturn]
    exact unescape.eq_4 q rest
  · obtain ⟨hends, hslash⟩ := not_or.mp hmark
    rw [List.singleton_append, unescape_cons hslash, if_neg hends]
  · exact unescape_escapeCode q c rest

/-- The characters of a text are read one by one up to the closing mark. -/
theorem unescape_flatMap_escape {q : Char} (hq : q = apostrophe ∨ q = doubleMark)
    (cs : List Char) : unescape q (cs.flatMap (escape q) ++ [q]) = some cs := by
  induction cs with
  | nil =>
      have hslash : q ≠ '\\' := by rcases hq with rfl | rfl <;> decide
      rw [List.flatMap_nil, List.nil_append, unescape_cons hslash, if_pos rfl]
      rfl
  | cons c cs ih =>
      rw [List.flatMap_cons, List.append_assoc, unescape_escape hq, ih]
      rfl

/-- A literal shows the text that it was made of. -/
theorem unquote?_quote (cs : List Char) : unquote? (quote cs) = some cs := by
  show (if mark cs = apostrophe ∨ mark cs = doubleMark then
    unescape (mark cs) (cs.flatMap (escape (mark cs)) ++ [mark cs]) else none) = some cs
  rw [if_pos (mark_cases cs), unescape_flatMap_escape (mark_cases cs)]

/-! ## Characters of literals -/

/-- The marks of literals, and the characters with which escapes begin. -/
def signs : List Char := [apostrophe, doubleMark, '\\', 't', 'n', 'r', 'x', 'u', 'U']

/-- The letters of escapes are printable. -/
theorem isPrintable_of_mem_signs {c : Char} (h : c ∈ signs) : isPrintable c = true := by
  have hplain : signs.all isPlain = true := by decide
  exact isPrintable_of_isPlain (List.all_eq_true.mp hplain c h)

/-- An escape with a code point is printable. -/
theorem isPrintable_of_mem_escapeCode {n : Nat} {c : Char} (h : c ∈ escapeCode n) :
    isPrintable c = true := by
  have hdigit : ∀ d < 16, isPlain (digitChar d) = true := by decide
  have hcode : c ∈ signs ∨ ∃ d < 16, c = digitChar d := by
    unfold escapeCode at h
    split_ifs at h <;>
    · simp only [List.mem_cons] at h
      rcases h with rfl | rfl | hc
      · exact .inl (by decide)
      · exact .inl (by decide)
      · exact .inr (exists_of_mem_hexDigits hc)
  rcases hcode with hc | ⟨d, hd, rfl⟩
  · exact isPrintable_of_mem_signs hc
  · exact isPrintable_of_isPlain (hdigit d hd)

/-- What is written for a character is printable. -/
theorem isPrintable_of_mem_escape {q c d : Char} (hq : isPrintable q = true)
    (h : d ∈ escape q c) : isPrintable d = true := by
  unfold escape at h
  split_ifs at h with hmark htab hfeed hreturn hshown
  · rcases List.mem_pair.mp h with rfl | rfl
    · exact isPrintable_of_mem_signs (by decide)
    · rcases hmark with rfl | rfl
      · exact hq
      · exact isPrintable_of_mem_signs (by decide)
  · rcases List.mem_pair.mp h with rfl | rfl <;> exact isPrintable_of_mem_signs (by decide)
  · rcases List.mem_pair.mp h with rfl | rfl <;> exact isPrintable_of_mem_signs (by decide)
  · rcases List.mem_pair.mp h with rfl | rfl <;> exact isPrintable_of_mem_signs (by decide)
  · rw [List.mem_singleton.mp h]
    exact hshown
  · exact isPrintable_of_mem_escapeCode h

/-- A literal has printable characters only, whatever the text contains. -/
theorem isPrintable_of_mem_quote {cs : List Char} {c : Char} (h : c ∈ quote cs) :
    isPrintable c = true := by
  have hmark : isPrintable (mark cs) = true := by
    rcases mark_cases cs with hq | hq <;> rw [hq] <;> exact isPrintable_of_mem_signs (by decide)
  unfold quote at h
  simp only [List.cons_append, List.mem_cons, List.mem_append, List.not_mem_nil, or_false] at h
  rcases h with rfl | hinside | rfl
  · exact hmark
  · obtain ⟨d, -, hd⟩ := List.mem_flatMap.mp hinside
    exact isPrintable_of_mem_escape hmark hd
  · exact hmark

end Literal

end Tocsin.Text
