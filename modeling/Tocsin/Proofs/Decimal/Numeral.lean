import Mathlib
import Tocsin.Decimal.Numeral

/-!
# What integer numerals spell

An integer numeral has white space around it, a sign, digits with single underscores between them,
and a point with zeros behind it (`Spells`).  A reader that first takes zeros off the front is more
lenient than this: behind a zero in front it also takes underscores that stand side by side, or
where the digits only begin (`LooselyGrouped`).  This is all it is more lenient about as far as it
finds positive numbers: a text that is not too long is read as such a number exactly if it spells
this number (`readInteger_of_spells`, `spells_of_readInteger`).

A minus is also found behind zeros, but no positive number comes of it.
-/

set_option autoImplicit false

namespace Tocsin.Decimal

open Tocsin.Text

/-! ## Spelling -/

/-- Digits with single underscores between them, and the digits alone. -/
inductive Grouped : List Char → List Char → Prop
  | last {c : Char} (hc : isAsciiDigit c = true) : Grouped [c] [c]
  | next {c : Char} {cs digits : List Char} (hc : isAsciiDigit c = true) (h : Grouped cs digits) :
      Grouped (c :: cs) (c :: digits)
  | spaced {c : Char} {cs digits : List Char} (hc : isAsciiDigit c = true)
      (h : Grouped cs digits) : Grouped (c :: '_' :: cs) (c :: digits)

/-- Digits with single underscores between them, or such digits behind a zero and any further zeros
and underscores. -/
inductive LooselyGrouped : List Char → List Char → Prop
  | grouped {cs digits : List Char} (h : Grouped cs digits) : LooselyGrouped cs digits
  | zeros {front cs digits : List Char} (hfront : ∀ c ∈ front, c = '0' ∨ c = '_')
      (h : Grouped cs digits) : LooselyGrouped ('0' :: front ++ cs) digits

/-- The signs of numerals: none, a plus and a minus. -/
def signs : List (List Char) := [[], ['+'], ['-']]

/-- The integer with a sign and digits. -/
def signedNumber (sign digits : List Char) : Int :=
  if sign = ['-'] then -(Nat.ofDigitChars 10 digits 0 : Int) else Nat.ofDigitChars 10 digits 0

/-- Nothing, or a point with zeros behind it. -/
def IsZeroFraction (cs : List Char) : Prop :=
  cs = [] ∨ ∃ k, cs = '.' :: List.replicate (k + 1) '0'

/-- A text spells an integer by a sign, digits that are grouped in some way, and perhaps a point with
zeros behind it; there may be white space around all of it. -/
def Spells (Whole : List Char → List Char → Prop) (cs : List Char) (n : Int) : Prop :=
  ∃ sign ∈ signs, ∃ whole digits fraction,
    trim isBlank cs = sign ++ (whole ++ fraction) ∧ Whole whole digits ∧
      IsZeroFraction fraction ∧ n = signedNumber sign digits

/-! ## Groups of digits -/

namespace Grouped

variable {cs digits : List Char}

/-- The digits of a grouped numeral are ASCII digits. -/
theorem digits_plain (h : Grouped cs digits) : ∀ c ∈ digits, isAsciiDigit c = true := by
  induction h with
  | last hc =>
      intro d hd
      exact List.mem_singleton.mp hd ▸ hc
  | next hc _ ih | spaced hc _ ih =>
      intro d hd
      rcases List.mem_cons.mp hd with rfl | hd
      · exact hc
      · exact ih d hd

/-- The first character is the first digit. -/
theorem exists_first (h : Grouped cs digits) :
    ∃ c rest others, cs = c :: rest ∧ digits = c :: others ∧ isAsciiDigit c = true := by
  cases h with
  | last hc => exact ⟨_, _, _, rfl, rfl, hc⟩
  | next hc _ => exact ⟨_, _, _, rfl, rfl, hc⟩
  | spaced hc _ => exact ⟨_, _, _, rfl, rfl, hc⟩

/-- A grouped numeral consists of digits and underscores. -/
theorem mem (h : Grouped cs digits) : ∀ c ∈ cs, isAsciiDigit c = true ∨ c = '_' := by
  induction h with
  | last hc =>
      intro d hd
      exact .inl (List.mem_singleton.mp hd ▸ hc)
  | next hc _ ih =>
      intro d hd
      rcases List.mem_cons.mp hd with rfl | hd
      · exact .inl hc
      · exact ih d hd
  | spaced hc _ ih =>
      intro d hd
      rcases List.mem_cons.mp hd with rfl | hd
      · exact .inl hc
      · rcases List.mem_cons.mp hd with rfl | hd
        · exact .inr rfl
        · exact ih d hd

/-- No other mark is in a grouped numeral. -/
theorem not_mem {mark : Char} (hdigit : isAsciiDigit mark = false) (hmark : mark ≠ '_')
    (h : Grouped cs digits) : mark ∉ cs := by
  intro hmem
  rcases h.mem mark hmem with hc | hc
  · rw [hc] at hdigit
    cases hdigit
  · exact hmark hc

/-- A grouped numeral has no more digits than characters. -/
theorem length_le (h : Grouped cs digits) : digits.length ≤ cs.length := by
  induction h with
  | last => exact le_refl _
  | next _ _ ih => simpa using ih
  | spaced _ _ ih =>
      simp only [List.length_cons]
      omega

/-- Digits are groups of themselves. -/
theorem of_digits (hne : digits ≠ []) (h : ∀ c ∈ digits, isAsciiDigit c = true) :
    Grouped digits digits := by
  induction digits with
  | nil => exact (hne rfl).elim
  | cons c rest ih =>
      have hc := h c List.mem_cons_self
      cases rest with
      | nil => exact .last hc
      | cons d rest =>
          exact .next hc (ih (List.cons_ne_nil d rest) fun e he => h e (List.mem_cons_of_mem c he))

/-- Every underscore stands alone between digits, and the digits are what is left without them. -/
theorem unpaired (h : Grouped cs digits) :
    hasPair cs = false ∧ cs.getLast? ≠ some '_' ∧ cs.filter (· != '_') = digits := by
  have hne {c : Char} (hc : isAsciiDigit c = true) : c ≠ '_' := by
    rintro rfl
    exact absurd hc (by decide)
  induction h with
  | last hc =>
      refine ⟨?_, ?_, ?_⟩
      · simp [hasPair]
      · simpa using hne hc
      · simp [hne hc]
  | @next c cs digits hc h ih =>
      obtain ⟨hpair, hlast, hfilter⟩ := ih
      obtain ⟨d, rest, others, rfl, -, -⟩ := h.exists_first
      refine ⟨?_, ?_, ?_⟩
      · simpa [hasPair, hne hc] using hpair
      · simpa using hlast
      · rw [List.filter_cons_of_pos (by simpa using hne hc), hfilter]
  | @spaced c cs digits hc h ih =>
      obtain ⟨hpair, hlast, hfilter⟩ := ih
      obtain ⟨d, rest, others, rfl, -, hd⟩ := h.exists_first
      refine ⟨?_, ?_, ?_⟩
      · simpa [hasPair, hne hc, hne hd] using hpair
      · simpa using hlast
      · rw [List.filter_cons_of_pos (by simpa using hne hc), List.filter_cons_of_neg (by simp),
          hfilter]

/-- Underscores that stand alone between digits are taken out. -/
theorem joinGroups?_eq (h : Grouped cs digits) : joinGroups? cs = some digits := by
  obtain ⟨hpair, hlast, hfilter⟩ := h.unpaired
  obtain ⟨c, rest, others, rfl, -, hc⟩ := h.exists_first
  have hfirst : (c :: rest).head? ≠ some '_' := by
    rintro heq
    cases heq
    exact absurd hc (by decide)
  rw [joinGroups?, if_neg (by simp only [not_or, hpair]; exact ⟨hfirst, hlast, Bool.false_ne_true⟩),
    hfilter]

end Grouped

/-- Digits and underscores are groups of digits, if no underscore stands at an end or beside another
one.  The induction takes an underscore together with the digit before it. -/
theorem grouped_filter (cs : List Char) (hne : cs ≠ []) (hfirst : cs.head? ≠ some '_')
    (hlast : cs.getLast? ≠ some '_') (hpair : hasPair cs = false)
    (hdigits : ∀ c ∈ cs, c ≠ '_' → isAsciiDigit c = true) :
    Grouped cs (cs.filter (· != '_')) := by
  cases cs with
  | nil => exact (hne rfl).elim
  | cons c rest =>
      have hc : c ≠ '_' := fun heq => hfirst (heq ▸ rfl)
      have hdigit := hdigits c List.mem_cons_self hc
      rw [List.filter_cons_of_pos (by simpa using hc)]
      cases rest with
      | nil => exact .last hdigit
      | cons d rest =>
          have hrest : ∀ e ∈ d :: rest, e ≠ '_' → isAsciiDigit e = true := fun e he =>
            hdigits e (List.mem_cons_of_mem c he)
          have hlater : (d :: rest).getLast? ≠ some '_' := by simpa using hlast
          by_cases hd : d = '_'
          · subst hd
            cases rest with
            | nil => exact (hlater rfl).elim
            | cons e rest =>
                have he : e ≠ '_' := by
                  rintro rfl
                  simp [hasPair, hc] at hpair
                rw [List.filter_cons_of_neg (by simp)]
                refine .spaced hdigit (grouped_filter (e :: rest) (List.cons_ne_nil e rest) ?_ ?_ ?_
                  fun x hx => hrest x (List.mem_cons_of_mem _ hx))
                · simpa using he
                · simpa using hlater
                · simpa [hasPair, hc, he] using hpair
          · refine .next hdigit (grouped_filter (d :: rest) (List.cons_ne_nil d rest) ?_ hlater ?_
              hrest)
            · simpa using hd
            · simpa [hasPair, hc] using hpair
termination_by cs.length

/-- Where taking underscores out leaves nothing but digits, there were groups of digits. -/
theorem grouped_of_joinGroups? {cs digits : List Char} (h : joinGroups? cs = some digits)
    (hne : digits ≠ []) (hdigits : ∀ c ∈ digits, isAsciiDigit c = true) : Grouped cs digits := by
  unfold joinGroups? at h
  split_ifs at h with hends
  simp only [not_or, Bool.not_eq_true] at hends
  obtain ⟨hfirst, hlast, hpair⟩ := hends
  cases h
  refine grouped_filter cs ?_ hfirst hlast hpair fun c hc hmark => ?_
  · rintro rfl
    exact hne rfl
  · exact hdigits c (List.mem_filter.mpr ⟨hc, by simpa using hmark⟩)

/-! ## Fractions -/

/-- A fraction of zeros is taken off. -/
theorem dropZeroFraction_append {whole fraction : List Char} (hwhole : '.' ∉ whole)
    (h : IsZeroFraction fraction) : dropZeroFraction (whole ++ fraction) = whole := by
  have hpass : ∀ c ∈ whole, (c != '.') = true := fun c hc =>
    bne_iff_ne.mpr fun heq => hwhole (heq ▸ hc)
  unfold dropZeroFraction
  rw [List.takeWhile_append_of_pos hpass, List.dropWhile_append_of_pos hpass]
  rcases h with rfl | ⟨k, rfl⟩
  · simp
  · simp [List.replicate_succ]

/-- What is cut off is a point with zeros behind it, if anything is. -/
theorem exists_fraction_of_dropZeroFraction (cs : List Char) :
    ∃ fraction, IsZeroFraction fraction ∧ cs = dropZeroFraction cs ++ fraction := by
  have hparts := List.takeWhile_append_dropWhile (p := (· != '.')) (l := cs)
  unfold dropZeroFraction
  dsimp only
  split
  · next rest hrest =>
      split_ifs with hzeros
      · refine ⟨'.' :: '0' :: rest, .inr ⟨rest.length, ?_⟩, ?_⟩
        · have hall : rest = List.replicate rest.length '0' :=
            List.eq_replicate_of_mem fun c hc => by
              simpa using List.all_eq_true.mp hzeros c hc
          rw [List.replicate_succ, ← hall]
        · rw [← hrest, hparts]
      · exact ⟨[], .inl rfl, (List.append_nil cs).symm⟩
  · exact ⟨[], .inl rfl, (List.append_nil cs).symm⟩

/-! ## Numerals in plain form -/

/-- Digits of a number, of which there are not too many, without needless zeros in front. -/
structure IsPlain (digits : List Char) : Prop where
  ne_nil : digits ≠ []
  plain : ∀ c ∈ digits, isAsciiDigit c = true
  no_zero : digits.head? = some '0' → digits = ['0']
  short : digits.length ≤ maxDigits

/-- Reads what stands behind the sign of a numeral in plain form. -/
def readBody (negative : Bool) (body : List Char) : IntegerReading :=
  let digits := body.takeWhile isAsciiDigit
  let n := ofDigits 10 (digits.filterMap asciiDigit?)
  if digits.isEmpty ∨ (digits.head? = some '0' ∧ digits ≠ ['0']) then .malformed
  else if maxDigits < digits.length then .tooLong
  else if digits.length < body.length then .malformed
  else .value (if negative then -(n : Int) else n)

/-- Behind a minus, the rest is read as a negative number. -/
theorem readPlainInteger_minus (body : List Char) :
    readPlainInteger ('-' :: body) = readBody true body := rfl

/-- Without a minus, all of the numeral is read as a number. -/
theorem readPlainInteger_of_head? {cs : List Char} (h : cs.head? ≠ some '-') :
    readPlainInteger cs = readBody false cs := by
  cases cs with
  | nil => rfl
  | cons c cs =>
      unfold readPlainInteger
      split
      next negative body hmatch =>
        split at hmatch
        · next heq =>
            cases heq
            exact (h rfl).elim
        · cases hmatch
          rfl

/-- Both ways of reading ASCII digits come to the same number. -/
theorem ofDigits_filterMap {digits : List Char} (h : ∀ c ∈ digits, isAsciiDigit c = true) :
    ofDigits 10 (digits.filterMap asciiDigit?) = Nat.ofDigitChars 10 digits 0 := by
  have hfrom : ∀ start, (digits.filterMap asciiDigit?).foldl (fun n d => n * 10 + d) start =
      Nat.ofDigitChars 10 digits start := by
    induction digits with
    | nil => intro _; rfl
    | cons c rest ih =>
        intro start
        have hc : asciiDigit? c = some (c.toNat - 48) := by
          have hdigit := h c List.mem_cons_self
          simp only [isAsciiDigit, Bool.and_eq_true, decide_eq_true_eq] at hdigit
          exact if_pos hdigit
        rw [List.filterMap_cons_some hc, List.foldl_cons,
          ih fun d hd => h d (List.mem_cons_of_mem c hd), Nat.ofDigitChars_cons, Nat.mul_comm]
        rfl
  exact hfrom 0

/-- Which texts are read as a number behind the sign, and as which. -/
theorem readBody_eq_value_iff {negative : Bool} {body : List Char} {n : Int} :
    readBody negative body = .value n ↔
      IsPlain body ∧ n = if negative then -(Nat.ofDigitChars 10 body 0 : Int)
        else Nat.ofDigitChars 10 body 0 := by
  have hprefix := List.takeWhile_prefix (p := isAsciiDigit) (l := body)
  constructor
  · intro h
    unfold readBody at h
    dsimp only at h
    split_ifs at h with hform hlong hrest <;> cases h
    all_goals
      have hall : body.takeWhile isAsciiDigit = body :=
        hprefix.eq_of_length (le_antisymm hprefix.length_le (not_lt.mp hrest))
      rw [hall] at hform hlong ⊢
      simp only [not_or, not_and, ne_eq, not_not, List.isEmpty_iff] at hform
      have hplain : ∀ c ∈ body, isAsciiDigit c = true := List.takeWhile_eq_self_iff.mp hall
      rw [ofDigits_filterMap hplain]
      exact ⟨⟨hform.1, hplain, hform.2, not_lt.mp hlong⟩, by simp [*]⟩
  · rintro ⟨h, rfl⟩
    have hall : body.takeWhile isAsciiDigit = body := List.takeWhile_eq_self_iff.mpr h.plain
    have hform : ¬ (body.isEmpty = true ∨ body.head? = some '0' ∧ body ≠ ['0']) := by
      rintro (hnil | ⟨hzero, hmore⟩)
      · exact h.ne_nil (List.isEmpty_iff.mp hnil)
      · exact hmore (h.no_zero hzero)
    unfold readBody
    rw [hall, if_neg hform, if_neg (not_lt.mpr h.short), if_neg (lt_irrefl _),
      ofDigits_filterMap h.plain]

/-- The numerals in plain form are digits, and digits behind a minus. -/
theorem readPlainInteger_eq_value_iff {cs : List Char} {n : Int} :
    readPlainInteger cs = .value n ↔
      ∃ sign ∈ [[], ['-']], ∃ digits, cs = sign ++ digits ∧ IsPlain digits ∧
        n = signedNumber sign digits := by
  constructor
  · intro h
    by_cases hminus : cs.head? = some '-'
    · obtain ⟨body, rfl⟩ := List.head?_eq_some_iff.mp hminus
      rw [readPlainInteger_minus, readBody_eq_value_iff] at h
      exact ⟨['-'], by simp, body, rfl, h.1, h.2⟩
    · rw [readPlainInteger_of_head? hminus, readBody_eq_value_iff] at h
      exact ⟨[], by simp, cs, rfl, h.1, h.2⟩
  · rintro ⟨sign, hsign, digits, rfl, hplain, rfl⟩
    simp only [List.mem_cons, List.not_mem_nil, or_false] at hsign
    rcases hsign with rfl | rfl
    · have hminus : digits.head? ≠ some '-' := by
        intro hhead
        exact absurd (hplain.plain _ (List.mem_of_mem_head? hhead)) (by decide)
      rw [List.nil_append, readPlainInteger_of_head? hminus, readBody_eq_value_iff]
      exact ⟨hplain, rfl⟩
    · rw [List.singleton_append, readPlainInteger_minus, readBody_eq_value_iff]
      exact ⟨hplain, rfl⟩

/-- A short text is no numeral that is too long. -/
theorem readPlainInteger_ne_tooLong {cs : List Char} (h : cs.length ≤ maxDigits) :
    readPlainInteger cs ≠ .tooLong := by
  have hbody : ∀ negative body, body.length ≤ maxDigits → readBody negative body ≠ .tooLong := by
    intro negative body hshort hlong
    have hprefix := (List.takeWhile_prefix (p := isAsciiDigit) (l := body)).length_le
    unfold readBody at hlong
    dsimp only at hlong
    split_ifs at hlong with _ hdigits
    omega
  by_cases hminus : cs.head? = some '-'
  · obtain ⟨body, rfl⟩ := List.head?_eq_some_iff.mp hminus
    rw [readPlainInteger_minus]
    exact hbody true body ((Nat.le_succ _).trans h)
  · rw [readPlainInteger_of_head? hminus]
    exact hbody false cs h

/-! ## Zeros in front -/

/-- Whether a character is taken off the front of a numeral. -/
def isFront (c : Char) : Bool := c == '0' || c == '_'

/-- A digit behind the zeros in front. -/
theorem not_isFront {c : Char} (hc : isAsciiDigit c = true) (hzero : c ≠ '0') :
    isFront c = false := by
  have hmark : c ≠ '_' := by
    rintro rfl
    exact absurd hc (by decide)
  simp [isFront, hzero, hmark]

/-- Zeros and underscores can be taken off the front so that groups of digits for the same number are
left, which start with a zero only if they are no more than this zero. -/
inductive Stripped (cs digits : List Char) : Prop
  | behind {front kept others : List Char} (hparts : cs = front ++ kept)
      (hfront : ∀ c ∈ front, isFront c = true) (hgrouped : Grouped kept others)
      (hzero : others.head? = some '0' → others = ['0'])
      (hnumber : Nat.ofDigitChars 10 others 0 = Nat.ofDigitChars 10 digits 0)
      (hlength : others.length ≤ digits.length)

/-- Zeros and underscores in front are stripped as well. -/
theorem Stripped.append {cs digits : List Char} (h : Stripped cs digits) {before : List Char}
    (hbefore : ∀ c ∈ before, isFront c = true) : Stripped (before ++ cs) digits := by
  obtain ⟨rfl, hfront, hgrouped, hzero, hnumber, hlength⟩ := h
  refine .behind (List.append_assoc _ _ _).symm (fun c hc => ?_) hgrouped hzero hnumber hlength
  exact (List.mem_append.mp hc).elim (hbefore c) (hfront c)

/-- A zero more in front does not matter. -/
theorem Stripped.zero {cs digits : List Char} (h : Stripped cs digits) :
    Stripped cs ('0' :: digits) := by
  have hsame : Nat.ofDigitChars 10 ('0' :: digits) 0 = Nat.ofDigitChars 10 digits 0 := by
    rw [Nat.ofDigitChars_cons]
    rfl
  obtain ⟨hparts, hfront, hgrouped, hzero, hnumber, hlength⟩ := h
  exact .behind hparts hfront hgrouped hzero (hnumber.trans hsame.symm)
    (hlength.trans (Nat.le_succ _))

/-- Groups that start with another digit stay as they are. -/
theorem Grouped.stripped_of_ne {c : Char} {rest others : List Char}
    (h : Grouped (c :: rest) (c :: others)) (hzero : c ≠ '0') :
    Stripped (c :: rest) (c :: others) := by
  refine .behind (List.nil_append _).symm (fun d hd => by cases hd) h (fun heq => ?_) rfl (le_refl _)
  exact (hzero (Option.some.inj heq)).elim

/-- Of a grouped numeral, what stands in front of its digits can be stripped. -/
theorem Grouped.stripped {cs digits : List Char} (h : Grouped cs digits) : Stripped cs digits := by
  induction h with
  | last hc =>
      refine .behind (List.nil_append _).symm (fun d hd => by cases hd) (.last hc) (fun heq => ?_) rfl
        (le_refl _)
      rw [Option.some.inj heq]
  | @next c cs digits hc h ih =>
      by_cases hzero : c = '0'
      · subst hzero
        exact (@Stripped.append _ _ ih ['0'] (by simp [isFront])).zero
      · exact (Grouped.next hc h).stripped_of_ne hzero
  | @spaced c cs digits hc h ih =>
      by_cases hzero : c = '0'
      · subst hzero
        exact (@Stripped.append _ _ ih ['0', '_'] (by simp [isFront])).zero
      · exact (Grouped.spaced hc h).stripped_of_ne hzero

/-- Of a loosely grouped numeral, what stands in front of its digits can be stripped. -/
theorem LooselyGrouped.stripped {cs digits : List Char} (h : LooselyGrouped cs digits) :
    Stripped cs digits := by
  cases h with
  | grouped h => exact h.stripped
  | zeros hfront h =>
      refine h.stripped.append fun c hc => ?_
      rcases List.mem_cons.mp hc with rfl | hc
      · rfl
      · rcases hfront c hc with rfl | rfl <;> rfl

/-- The first character of loosely grouped digits is a digit. -/
theorem LooselyGrouped.exists_first {cs digits : List Char} (h : LooselyGrouped cs digits) :
    ∃ c rest, cs = c :: rest ∧ isAsciiDigit c = true := by
  cases h with
  | grouped h =>
      obtain ⟨c, rest, -, rfl, -, hc⟩ := h.exists_first
      exact ⟨c, rest, rfl, hc⟩
  | zeros _ _ => exact ⟨'0', _, rfl, by decide⟩

/-- A loosely grouped numeral has no more digits than characters. -/
theorem LooselyGrouped.length_le {cs digits : List Char} (h : LooselyGrouped cs digits) :
    digits.length ≤ cs.length := by
  cases h with
  | grouped h => exact h.length_le
  | zeros _ h =>
      rw [List.length_append]
      exact h.length_le.trans (Nat.le_add_left _ _)

/-- The digits other than zero. -/
theorem range_of_isAsciiDigit {c : Char} (hc : isAsciiDigit c = true) (hzero : c ≠ '0') :
    '1' ≤ c ∧ c ≤ '9' := by
  simp only [isAsciiDigit, Bool.and_eq_true, decide_eq_true_eq] at hc
  have hlow : 48 ≤ c.toNat := UInt32.le_iff_toNat_le.mp hc.1
  have hne : c.toNat ≠ 48 := fun heq => hzero (Char.toNat_inj.mp heq)
  have hone : 49 ≤ c.toNat := by omega
  exact ⟨UInt32.le_iff_toNat_le.mpr hone, hc.2⟩

/-- What becomes of a text that starts with a zero, by the character behind its front. -/
theorem dropZeros?_zero (cs : List Char) :
    dropZeros? ('0' :: cs) =
      match ('0' :: cs).dropWhile isFront with
      | [] => some (('0' :: cs).drop (('0' :: cs).length - 1))
      | '.' :: rest =>
        some ((('0' :: cs).takeWhile isFront).drop ((('0' :: cs).takeWhile isFront).length - 1) ++
          '.' :: rest)
      | c :: rest => if c = '-' ∨ ('1' ≤ c ∧ c ≤ '9') then some (c :: rest) else none := rfl

/-- At the end of a numeral and before a point, the last of the zeros in front is kept, or what
stands in its place. -/
theorem dropZeros?_of_end {front rest : List Char} (hfront : ∀ c ∈ front, isFront c = true)
    (hrest : ∀ c ∈ rest.head?, c = '.') :
    dropZeros? ('0' :: (front ++ rest)) =
      some (('0' :: front).getLast (List.cons_ne_nil _ _) :: rest) := by
  have hall : ∀ c ∈ '0' :: front, isFront c = true := List.forall_mem_cons.mpr ⟨rfl, hfront⟩
  have hkept := List.drop_length_sub_one (List.cons_ne_nil '0' front)
  cases rest with
  | nil =>
      have hnone : ('0' :: front).dropWhile isFront = [] := List.dropWhile_eq_nil_iff.mpr hall
      rw [List.append_nil, dropZeros?_zero, hnone]
      exact congrArg some hkept
  | cons c tail =>
      cases hrest c rfl
      have hbehind : ('0' :: front ++ '.' :: tail).dropWhile isFront = '.' :: tail :=
        List.dropWhile_append_of_pos hall
      have hzeros : ('0' :: front ++ '.' :: tail).takeWhile isFront = '0' :: front :=
        (List.takeWhile_append_of_pos hall).trans (List.append_nil _)
      rw [dropZeros?_zero, ← List.cons_append, hbehind, hzeros]
      exact congrArg (fun kept => some (kept ++ '.' :: tail)) hkept

/-- Before any other character the zeros in front are taken off. -/
theorem dropZeros?_of_behind {front rest : List Char} {c : Char}
    (hfront : ∀ d ∈ front, isFront d = true) (hc : isFront c = false) (hpoint : c ≠ '.') :
    dropZeros? ('0' :: (front ++ c :: rest)) =
      if c = '-' ∨ ('1' ≤ c ∧ c ≤ '9') then some (c :: rest) else none := by
  have hall : ∀ d ∈ '0' :: front, isFront d = true := List.forall_mem_cons.mpr ⟨rfl, hfront⟩
  have hbehind : ('0' :: front ++ c :: rest).dropWhile isFront = c :: rest := by
    rw [List.dropWhile_append_of_pos hall, List.dropWhile_cons_of_neg (by simp [hc])]
  rw [dropZeros?_zero, ← List.cons_append, hbehind]
  split
  · next heq => cases heq
  · next heq =>
      cases heq
      exact (hpoint rfl).elim
  · next heq =>
      cases heq
      rfl

/-- A text that does not start with a zero is kept if it starts with a digit. -/
theorem dropZeros?_cons {c : Char} (hzero : c ≠ '0') (cs : List Char) :
    dropZeros? (c :: cs) = if isAsciiDigit c then some (c :: cs) else none := by
  unfold dropZeros?
  split
  · next heq =>
      cases heq
      exact (hzero rfl).elim
  · next heq =>
      cases heq
      rfl
  · next heq => cases heq

/-- Zeros and underscores are taken off the front of groups of digits, up to the last zero or to
another digit. -/
theorem dropZeros?_append {tail front kept others fraction : List Char}
    (hparts : '0' :: tail = front ++ kept) (hfront : ∀ c ∈ front, isFront c = true)
    (hgrouped : Grouped kept others) (hzero : others.head? = some '0' → others = ['0'])
    (hend : ∀ c ∈ fraction.head?, c = '.') :
    dropZeros? ('0' :: (tail ++ fraction)) = some (kept ++ fraction) := by
  obtain ⟨c, rest, others, rfl, rfl, hc⟩ := hgrouped.exists_first
  by_cases hlast : c = '0'
  · -- All of the digits are zeros, and the last one is kept.
    subst hlast
    obtain rfl : rest = [] := by
      cases hzero rfl
      cases hgrouped with
      | last => rfl
      | next _ h | spaced _ h => cases h
    have hall : ∀ d ∈ tail, isFront d = true := by
      intro d hd
      have hmem : d ∈ front ++ ['0'] := hparts ▸ List.mem_cons_of_mem _ hd
      rcases List.mem_append.mp hmem with hmem | hmem
      · exact hfront d hmem
      · cases List.mem_singleton.mp hmem
        rfl
    have hkept : ('0' :: tail).getLast (List.cons_ne_nil _ _) = '0' := by
      simp only [hparts, List.getLast_append_singleton]
    rw [dropZeros?_of_end hall hend, hkept]
    rfl
  · cases front with
    | nil =>
        cases hparts
        exact (hlast rfl).elim
    | cons d front =>
        obtain ⟨-, rfl⟩ := List.cons_eq_cons.mp hparts
        have hfront' : ∀ d ∈ front, isFront d = true := fun d hd =>
          hfront d (List.mem_cons_of_mem _ hd)
        have hpoint : c ≠ '.' := by
          rintro rfl
          exact absurd hc (by decide)
        have hwhole : front.append (c :: rest) ++ fraction = front ++ c :: (rest ++ fraction) :=
          List.append_assoc front (c :: rest) fraction
        rw [hwhole, dropZeros?_of_behind hfront' (not_isFront hc hlast) hpoint]
        exact if_pos (.inr (range_of_isAsciiDigit hc hlast))

/-- Taking zeros off the front of loosely grouped digits leaves groups of digits for the same number,
without needless zeros in front. -/
theorem LooselyGrouped.exists_dropZeros? {whole digits fraction : List Char}
    (h : LooselyGrouped whole digits) (hfraction : IsZeroFraction fraction) :
    ∃ cs others, dropZeros? (whole ++ fraction) = some (cs ++ fraction) ∧ Grouped cs others ∧
      (others.head? = some '0' → others = ['0']) ∧
      Nat.ofDigitChars 10 others 0 = Nat.ofDigitChars 10 digits 0 ∧
      others.length ≤ digits.length := by
  have hend : ∀ c ∈ fraction.head?, c = '.' := by
    rcases hfraction with rfl | ⟨k, rfl⟩ <;> rintro c ⟨⟩
    rfl
  obtain ⟨first, tail, rfl, hdigit⟩ := h.exists_first
  by_cases hfirst : first = '0'
  · subst hfirst
    obtain ⟨hparts, hfront, hgrouped, hzero, hnumber, hlength⟩ := h.stripped
    exact ⟨_, _, dropZeros?_append hparts hfront hgrouped hzero hend, hgrouped, hzero, hnumber,
      hlength⟩
  · cases h with
    | grouped h =>
        obtain ⟨_, _, others, hcons, rfl, -⟩ := h.exists_first
        cases hcons
        refine ⟨first :: tail, first :: others, ?_, h, fun heq => ?_, rfl, le_refl _⟩
        · rw [List.cons_append, dropZeros?_cons hfirst, if_pos hdigit]
        · exact (hfirst (Option.some.inj heq)).elim
    | zeros _ _ => exact (hfirst rfl).elim

/-- A single digit of a positive number is not taken off the front. -/
theorem Grouped.not_isFront_singleton {c : Char} {digits : List Char} (h : Grouped [c] digits)
    (hpos : Nat.ofDigitChars 10 digits 0 ≠ 0) : isFront c = false := by
  cases h with
  | last hc =>
      apply not_isFront hc
      rintro rfl
      exact hpos rfl
  | next _ h => cases h

/-- What stands in front of a text, and the rest of it, which starts with another character. -/
theorem exists_front (cs : List Char) :
    ∃ front rest, cs = front ++ rest ∧ (∀ c ∈ front, isFront c = true) ∧
      ∀ c ∈ rest.head?, isFront c = false := by
  refine ⟨cs.takeWhile isFront, cs.dropWhile isFront, List.takeWhile_append_dropWhile.symm,
    fun c hc => List.mem_takeWhile_imp hc, fun c hc => ?_⟩
  have hstop := List.head?_dropWhile_not isFront cs
  rw [hc] at hstop
  exact hstop

/-- What is left when zeros are taken off the front is groups of digits for a positive number only
if it was loosely grouped digits. -/
theorem exists_of_dropZeros? {body cs digits fraction : List Char}
    (h : dropZeros? body = some (cs ++ fraction)) (hgrouped : Grouped cs digits)
    (hpos : Nat.ofDigitChars 10 digits 0 ≠ 0) :
    ∃ whole, body = whole ++ fraction ∧ LooselyGrouped whole digits := by
  cases body with
  | nil => cases h
  | cons c tail =>
      by_cases hzero : c = '0'
      · subst hzero
        obtain ⟨front, rest, rfl, hfront, hrest⟩ := exists_front tail
        by_cases hend : ∀ d ∈ rest.head?, d = '.'
        · -- The last character in front is all that is kept of the digits, so it is a zero.
          rw [dropZeros?_of_end hfront hend] at h
          obtain ⟨first, others, _, rfl, rfl, -⟩ := hgrouped.exists_first
          obtain ⟨hfirst, hbehind⟩ := List.cons_eq_cons.mp (Option.some.inj h)
          obtain rfl : others = [] := by
            cases others with
            | nil => rfl
            | cons d others =>
                cases hend d (hbehind ▸ rfl)
                exact (@Grouped.not_mem _ _ '.' rfl (by decide) hgrouped (by simp)).elim
          have hall : ∀ d ∈ '0' :: front, isFront d = true := List.forall_mem_cons.mpr ⟨rfl, hfront⟩
          have hkept : isFront first = true := hfirst ▸ hall _ (List.getLast_mem _)
          rw [hgrouped.not_isFront_singleton hpos] at hkept
          cases hkept
        · cases rest with
          | nil => exact (hend fun d hd => by cases hd).elim
          | cons d rest =>
              have hpoint : d ≠ '.' := by
                rintro rfl
                exact hend fun e he => (Option.some.inj he).symm
              rw [dropZeros?_of_behind hfront (hrest d rfl) hpoint] at h
              split_ifs at h
              rw [Option.some.inj h]
              refine ⟨'0' :: front ++ cs, by simp, .zeros (fun e he => ?_) hgrouped⟩
              simpa [isFront] using hfront e he
      · rw [dropZeros?_cons hzero] at h
        split_ifs at h
        exact ⟨cs, Option.some.inj h, .grouped hgrouped⟩

/-! ## Reading numerals -/

/-- Digits are no white space. -/
theorem isBlank_of_isAsciiDigit {c : Char} (hc : isAsciiDigit c = true) : isBlank c = false := by
  simp only [isAsciiDigit, Bool.and_eq_true, decide_eq_true_eq] at hc
  have hlow : 48 ≤ c.toNat := UInt32.le_iff_toNat_le.mp hc.1
  have hhigh : c.toNat ≤ 57 := UInt32.le_iff_toNat_le.mp hc.2
  have hranges : ∀ r ∈ blankRanges, r.2 < 48 ∨ 57 < r.1 := by decide
  rw [isBlank, ← Bool.not_eq_true, inRanges_iff]
  rintro ⟨r, hr, hfirst, hlast⟩
  rcases hranges r hr with hbefore | hbehind <;> omega

/-- Nothing is trimmed off a text without characters of the class. -/
theorem trim_eq_self {p : Char → Bool} {cs : List Char} (h : ∀ c ∈ cs, p c = false) :
    trim p cs = cs := by
  have hdrop : ∀ ds : List Char, (∀ c ∈ ds, p c = false) → ds.dropWhile p = ds := by
    intro ds hds
    cases ds with
    | nil => rfl
    | cons d ds =>
        have hd := hds d List.mem_cons_self
        rw [List.dropWhile_cons_of_neg (by simp [hd])]
  have hreverse : ∀ c ∈ cs.reverse, p c = false := fun c hc => h c (List.mem_reverse.mp hc)
  rw [trim, hdrop cs h, trimRight, hdrop _ hreverse, List.reverse_reverse]

/-- Trimming makes no text longer. -/
theorem length_trim_le (p : Char → Bool) (cs : List Char) : (trim p cs).length ≤ cs.length := by
  have hdrop : ∀ ds : List Char, (ds.dropWhile p).length ≤ ds.length := fun ds =>
    (List.dropWhile_suffix p).length_le
  unfold trim trimRight
  rw [List.length_reverse]
  refine (hdrop _).trans ?_
  rw [List.length_reverse]
  exact hdrop cs

/-- A numeral in plain form has nothing to be trimmed. -/
theorem trim_plain {sign digits : List Char} (hsign : sign ∈ [[], ['-']]) (h : IsPlain digits) :
    trim isBlank (sign ++ digits) = sign ++ digits := by
  refine trim_eq_self fun c hc => ?_
  rcases List.mem_append.mp hc with hc | hc
  · simp only [List.mem_cons, List.not_mem_nil, or_false] at hsign
    rcases hsign with rfl | rfl
    · cases hc
    · cases List.mem_singleton.mp hc
      decide
  · exact isBlank_of_isAsciiDigit (h.plain c hc)

/-- What is split off the front is a sign. -/
theorem exists_sign_of_splitSign {cs body : List Char} {negative : Bool}
    (h : splitSign cs = (negative, body)) :
    ∃ sign ∈ signs, cs = sign ++ body ∧ negative = decide (sign = ['-']) := by
  unfold splitSign at h
  split at h <;> cases h
  · exact ⟨['+'], by simp [signs], rfl, rfl⟩
  · exact ⟨['-'], by simp [signs], rfl, rfl⟩
  · exact ⟨[], by simp [signs], rfl, rfl⟩

/-- A plain form that is read as a positive number is that of a text that spells this number. -/
theorem spells_of_plainForm? {cs plain : List Char} {n : Int} (hform : plainForm? cs = some plain)
    (hvalue : readPlainInteger plain = .value n) (hpos : 0 < n) : Spells LooselyGrouped cs n := by
  obtain ⟨sign, hsign, digits, rfl, hplain, rfl⟩ := readPlainInteger_eq_value_iff.mp hvalue
  simp only [List.mem_cons, List.not_mem_nil, or_false] at hsign
  rcases hsign with rfl | rfl
  · cases hsplit : splitSign (trim isBlank cs) with
    | mk negative body =>
        obtain ⟨sign, hsign, htrim, hnegative⟩ := exists_sign_of_splitSign hsplit
        unfold plainForm? at hform
        rw [hsplit] at hform
        obtain ⟨groups, hgroups, hjoined⟩ := Option.map_eq_some_iff.mp hform
        obtain ⟨dropped, hdrop, hjoin⟩ := Option.bind_eq_some_iff.mp hgroups
        have hminus : negative = false := by
          by_contra hminus
          rw [Bool.not_eq_false] at hminus
          have hfirst : '-' :: groups = digits := by
            rw [hminus] at hjoined
            exact hjoined
          exact absurd (hplain.plain '-' (hfirst ▸ List.mem_cons_self)) (by decide)
        rw [hminus] at hjoined hnegative
        cases hjoined
        obtain ⟨fraction, hfraction, hparts⟩ := exists_fraction_of_dropZeroFraction dropped
        have hgrouped := grouped_of_joinGroups? hjoin hplain.ne_nil hplain.plain
        have hnumber : Nat.ofDigitChars 10 digits 0 ≠ 0 := by
          have hsigned : (0 : Int) < Nat.ofDigitChars 10 digits 0 := hpos
          omega
        obtain ⟨whole, rfl, hwhole⟩ := exists_of_dropZeros? (hparts ▸ hdrop) hgrouped hnumber
        refine ⟨sign, hsign, whole, digits, fraction, htrim, hwhole, hfraction, ?_⟩
        have hplus : ¬ sign = ['-'] := by simpa using hnegative.symm
        simp [signedNumber, hplus]
  · -- Behind a minus there is no positive number.
    have hsigned : (0 : Int) < -(Nat.ofDigitChars 10 digits 0 : Int) := hpos
    omega

/-- A text that is read as an integer in plain form spells this integer. -/
theorem spells_of_readPlainInteger {cs : List Char} {n : Int} (h : readPlainInteger cs = .value n) :
    Spells LooselyGrouped cs n := by
  obtain ⟨sign, hsign, digits, rfl, hplain, rfl⟩ := readPlainInteger_eq_value_iff.mp h
  have hsigns : sign ∈ signs := by
    simp only [List.mem_cons, List.not_mem_nil, or_false] at hsign
    rcases hsign with rfl | rfl <;> simp [signs]
  have hgroups := Grouped.of_digits hplain.ne_nil hplain.plain
  refine ⟨sign, hsigns, digits, digits, [], ?_, .grouped hgroups, .inl rfl, rfl⟩
  rw [List.append_nil, trim_plain hsign hplain]

/-- A text that spells an integer, and is not too long, has a plain form, which is read as this
integer. -/
theorem exists_plainForm_of_spells {cs : List Char} {n : Int} (hshort : cs.length ≤ maxDigits)
    (h : Spells LooselyGrouped cs n) :
    ∃ plain, plainForm? cs = some plain ∧ readPlainInteger plain = .value n := by
  obtain ⟨sign, hsign, whole, digits, fraction, htrim, hwhole, hfraction, rfl⟩ := h
  obtain ⟨groups, others, hdrop, hgrouped, hzero, hnumber, hlength⟩ :=
    hwhole.exists_dropZeros? hfraction
  have hdigits : others.length ≤ maxDigits := by
    have htrimmed := length_trim_le isBlank cs
    rw [htrim] at htrimmed
    simp only [List.length_append] at htrimmed
    have hgroups := hwhole.length_le
    omega
  have hpoint : '.' ∉ groups := hgrouped.not_mem rfl (by decide)
  have hplain : IsPlain others := by
    obtain ⟨c, rest, others, rfl, rfl, -⟩ := hgrouped.exists_first
    exact ⟨List.cons_ne_nil _ _, hgrouped.digits_plain, hzero, hdigits⟩
  have hsplit : splitSign (sign ++ (whole ++ fraction)) =
      (decide (sign = ['-']), whole ++ fraction) := by
    obtain ⟨c, rest, rfl, hc⟩ := hwhole.exists_first
    have hplus : c ≠ '+' := by
      rintro rfl
      exact absurd hc (by decide)
    have hminus : c ≠ '-' := by
      rintro rfl
      exact absurd hc (by decide)
    simp only [signs, List.mem_cons, List.not_mem_nil, or_false] at hsign
    rcases hsign with rfl | rfl | rfl
    · simp [splitSign, hplus, hminus]
    · rfl
    · rfl
  have hform : plainForm? cs =
      some (if decide (sign = ['-']) = true then '-' :: others else others) := by
    unfold plainForm?
    rw [htrim, hsplit]
    dsimp only
    rw [hdrop, Option.bind_some, dropZeroFraction_append hpoint hfraction, hgrouped.joinGroups?_eq,
      Option.map_some]
  refine ⟨_, hform, ?_⟩
  rw [readPlainInteger_eq_value_iff]
  by_cases hminus : sign = ['-']
  · refine ⟨['-'], by simp, others, by simp [hminus], hplain, ?_⟩
    simp [signedNumber, hminus, hnumber]
  · refine ⟨[], by simp, others, by simp [hminus], hplain, ?_⟩
    simp [signedNumber, hminus, hnumber]

/-- A text that spells an integer, and is not too long, is read as this integer. -/
theorem readInteger_of_spells {cs : List Char} {n : Int} (hshort : cs.length ≤ maxDigits)
    (h : Spells LooselyGrouped cs n) : readInteger cs = .value n := by
  obtain ⟨plain, hform, hvalue⟩ := exists_plainForm_of_spells hshort h
  unfold readInteger
  cases hread : readPlainInteger cs with
  | value m =>
      -- A text that is in plain form already has a plain form that is read as the same number.
      obtain ⟨plain', hform', hvalue'⟩ :=
        exists_plainForm_of_spells hshort (spells_of_readPlainInteger hread)
      rw [hform] at hform'
      cases hform'
      exact hvalue'.symm.trans hvalue
  | tooLong => exact (readPlainInteger_ne_tooLong hshort hread).elim
  | malformed =>
      simp only [hform, Option.map_some, hvalue]

/-- A text that is read as a positive number spells this number. -/
theorem spells_of_readInteger {cs : List Char} {n : Int} (h : readInteger cs = .value n)
    (hpos : 0 < n) : Spells LooselyGrouped cs n := by
  unfold readInteger at h
  cases hread : readPlainInteger cs with
  | value m =>
      rw [hread] at h
      cases h
      exact spells_of_readPlainInteger hread
  | tooLong =>
      rw [hread] at h
      cases h
  | malformed =>
      rw [hread] at h
      cases hform : plainForm? cs with
      | none =>
          rw [hform] at h
          cases h
      | some plain =>
          rw [hform] at h
          dsimp only [Option.map_some] at h
          split at h
          · next m hm =>
              cases h
              exact spells_of_plainForm? hform (Option.some.inj hm) hpos
          · cases h

/-- The decimal text of a natural number spells it. -/
theorem spells_decimalText (n : Nat) : Spells LooselyGrouped (decimalText n) n := by
  have hplain : ∀ c ∈ decimalDigits n, isAsciiDigit c = true := fun c hc =>
    Nat.isDigit_of_mem_toDigits (by decide) (by decide) hc
  have hgroups : Grouped (decimalDigits n) (decimalDigits n) :=
    .of_digits Nat.toDigits_ne_nil hplain
  have htrim : trim isBlank (decimalDigits n) = decimalDigits n :=
    trim_eq_self fun c hc => isBlank_of_isAsciiDigit (hplain c hc)
  refine ⟨[], by simp [signs], decimalDigits n, decimalDigits n, [], ?_, .grouped hgroups, .inl rfl,
    ?_⟩
  · rw [List.append_nil]
    exact htrim
  · show (n : Int) = Nat.ofDigitChars 10 (Nat.toDigits 10 n) 0
    rw [Nat.ofDigitChars_toDigits (by decide) (by decide)]

end Tocsin.Decimal
