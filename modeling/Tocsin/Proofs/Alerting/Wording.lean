import Mathlib
import Tocsin.Alerting.Failure
import Tocsin.Proofs.Alerting.Problems
import Tocsin.Proofs.Text.Digits
import Tocsin.Proofs.Text.Literal

/-!
# What the texts of problems tell

The details of a configuration that is refused are texts, one for each problem, and the texts are
all that is left of the problems there.  Nothing is lost with that: `Problem.read?` reads a problem
from its text (`Problem.read?_text`).  The group of a duplicate stands in the text as a quoted
literal, so that a group is told from every other one and from the words around it, whatever marks
it is made of.

All characters of the texts are printable (`Problem.isPrintable_of_mem_text`), so each problem is
shown on one line.  The main statement is `ProviderConfig.duplicates_identified`.
-/

set_option autoImplicit false

namespace Tocsin.Alerting

open Tocsin.Text

namespace Problem

/-! ## The reader -/

/-- The group that is quoted behind the index of an override as one that is registered. -/
def readRegistered? (cs : List Char) : Option String := do
  let cs ← cs.dropPrefix? "]: group ".toList
  let cs ← cs.dropSuffix? " is already registered".toList
  let group ← Literal.unquote? cs
  return String.ofList group

/-- The problem of an override, told by what stands behind its index. -/
def readFault? (index : Nat) (cs : List Char) : Option Problem :=
  if cs = "]: group must not be empty".toList then some (.emptyGroup index)
  else if cs = "]: webhook-url must not be empty".toList then some (.emptyWebhook index)
  else (readRegistered? cs).map (.duplicateGroup index)

/-- The problem that a text tells. -/
def read? (text : String) : Option Problem :=
  if text = "webhook-url must not be empty" then some .emptyDefaultWebhook
  else do
    let cs ← text.toList.dropPrefix? "overrides[".toList
    let index ← readDigits? (cs.takeWhile Char.isDigit)
    readFault? index (cs.dropWhile Char.isDigit)

/-! ## Reading back -/

/-- The group is read from the words in which it is quoted. -/
theorem readRegistered?_quote (group : String) :
    readRegistered? ("]: group ".toList ++ (Literal.quote group.toList ++
      " is already registered".toList)) = some group := by
  unfold readRegistered?
  rw [List.dropPrefix?_append_of_beq _ (beq_self_eq_true _)]
  simp only [Option.bind_eq_bind, Option.bind_some, dropSuffix?_append_self,
    Literal.unquote?_quote, String.ofList_toList, Option.pure_def]

/-- A text in which a group is quoted is none of those without a group. -/
theorem readFault?_of_registered {index : Nat} {cs : List Char} {group : String}
    (h : readRegistered? cs = some group) :
    readFault? index cs = some (.duplicateGroup index group) := by
  have hgroup : cs ≠ "]: group must not be empty".toList := by
    rintro rfl
    cases h
  have hurl : cs ≠ "]: webhook-url must not be empty".toList := by
    rintro rfl
    cases h
  unfold readFault?
  rw [if_neg hgroup, if_neg hurl, h, Option.map_some]

/-- The index of an override is read, and what stands behind it tells the problem. -/
theorem read?_of_index {text : String} {index : Nat} {cs : List Char}
    (h : text.toList = "overrides[".toList ++ (decimalDigits index ++ cs))
    (hcs : cs.takeWhile Char.isDigit = []) : read? text = readFault? index cs := by
  have hdigits : ∀ c ∈ decimalDigits index, c.isDigit = true := fun c hc =>
    isDigit_of_mem_decimalDigits hc
  have hrest : cs.dropWhile Char.isDigit = cs := by
    have hparts := @List.takeWhile_append_dropWhile _ Char.isDigit cs
    rwa [hcs] at hparts
  have hdefault : text ≠ "webhook-url must not be empty" := by
    rintro rfl
    cases h
  unfold read?
  rw [if_neg hdefault, h, List.dropPrefix?_append_of_beq _ (beq_self_eq_true _)]
  simp only [Option.bind_eq_bind, Option.bind_some, List.takeWhile_append_of_pos hdigits,
    List.dropWhile_append_of_pos hdigits, hcs, hrest, List.append_nil, readDigits?_decimalDigits]

/-- A text about an override begins with the digits of its index in brackets. -/
theorem toList_indexed (index : Nat) (rest : String) :
    ("overrides[" ++ toString index ++ rest).toList =
      "overrides[".toList ++ (decimalDigits index ++ rest.toList) := by
  have hindex : (toString index).toList = decimalDigits index :=
    String.toList_ofList
  rw [String.toList_append, String.toList_append, hindex, List.append_assoc]

/-- The text of a duplicate: the index in brackets, and the quoted group between fixed words. -/
theorem toList_duplicateGroup (index : Nat) (group : String) :
    (duplicateGroup index group).text.toList = "overrides[".toList ++ (decimalDigits index ++
      ("]: group ".toList ++ (Literal.quote group.toList ++ " is already registered".toList))) := by
  have hliteral : (Literal.quoted group).toList = Literal.quote group.toList :=
    String.toList_ofList
  show ("overrides[" ++ toString index ++ "]: group " ++ Literal.quoted group ++
    " is already registered").toList = _
  rw [String.toList_append, String.toList_append, toList_indexed, hliteral, List.append_assoc,
    List.append_assoc, List.append_assoc]

/-- A problem is read from its text. -/
theorem read?_text (p : Problem) : read? p.text = some p := by
  cases p with
  | emptyGroup index =>
      exact read?_of_index (toList_indexed index "]: group must not be empty") rfl
  | duplicateGroup index group =>
      rw [read?_of_index (toList_duplicateGroup index group) rfl]
      exact readFault?_of_registered (readRegistered?_quote group)
  | emptyWebhook index =>
      exact read?_of_index (toList_indexed index "]: webhook-url must not be empty") rfl
  | emptyDefaultWebhook => rfl

/-- Different problems have different texts. -/
theorem text_injective : Function.Injective text := by
  intro p p' h
  have hread := read?_text p
  rw [h, read?_text, Option.some.injEq] at hread
  exact hread.symm

/-! ## Characters of texts -/

/-- Whatever the group in it is made of, the text of a problem has printable characters only. -/
theorem isPrintable_of_mem_text (p : Problem) : ∀ c ∈ p.text.toList, isPrintable c = true := by
  have hplain {s : String} (hs : s.toList.all isPlain = true) : ∀ c ∈ s.toList,
      isPrintable c = true := fun c hc => isPrintable_of_isPlain (List.all_eq_true.mp hs c hc)
  have hindex (index : Nat) : ∀ c ∈ decimalDigits index, isPrintable c = true := fun c hc =>
    isPrintable_of_isPlain (isPlain_of_mem_decimalDigits hc)
  cases p with
  | emptyGroup index =>
      show ∀ c ∈ ("overrides[" ++ toString index ++ "]: group must not be empty").toList, _
      rw [toList_indexed]
      simp only [List.forall_mem_append]
      exact ⟨hplain rfl, hindex index, hplain rfl⟩
  | duplicateGroup index group =>
      rw [toList_duplicateGroup]
      simp only [List.forall_mem_append]
      exact ⟨hplain rfl, hindex index, hplain rfl,
        fun c hc => Literal.isPrintable_of_mem_quote hc, hplain rfl⟩
  | emptyWebhook index =>
      show ∀ c ∈ ("overrides[" ++ toString index ++ "]: webhook-url must not be empty").toList, _
      rw [toList_indexed]
      simp only [List.forall_mem_append]
      exact ⟨hplain rfl, hindex index, hplain rfl⟩
  | emptyDefaultWebhook => exact hplain rfl

end Problem

namespace ProviderConfig

/-! ## Details of a refusal -/

/-- A configuration is refused with the texts of its problems. -/
theorem details_of_ensureValid_eq_error {c : ProviderConfig} {failure : Failure}
    (h : c.ensureValid = .error failure) :
    failure.details = .list ((c.problems.map Problem.text).map .text) := by
  unfold ensureValid at h
  split at h
  · cases h
  next first others hproblems =>
    cases h
    rw [hproblems, List.map_map]
    rfl

/-- The text of a duplicate identifies it.  The index and the group are read from the text, so that
duplicates that differ in their index or their group have different texts; and no character of a
text is a control or a line break, whatever the group contains.  Hence the details of a
configuration that is refused tell all of its problems, one by one, and a duplicate is read from one
of the texts exactly if there is an override with that index and group behind another one for the
same group. -/
theorem duplicates_identified :
    (∀ index group, Problem.read? (Problem.duplicateGroup index group).text =
      some (.duplicateGroup index group)) ∧
    (∀ index group index' group', (index, group) ≠ (index', group') →
      (Problem.duplicateGroup index group).text ≠ (Problem.duplicateGroup index' group').text) ∧
    (∀ index group, ∀ ch ∈ (Problem.duplicateGroup index group).text.toList,
      ¬ IsLineBreak ch ∧ ¬ IsControl ch) ∧
    ∀ (c : ProviderConfig) (failure : Failure), c.ensureValid = .error failure →
      ∃ texts : List String, failure.details = .list (texts.map .text) ∧
        texts.map Problem.read? = c.problems.map some ∧
        ∀ index group, (∃ text ∈ texts, Problem.read? text = some (.duplicateGroup index group)) ↔
          (Problem.duplicateGroup index group).Afflicts c := by
  refine ⟨fun _ _ => Problem.read?_text _, ?_, ?_, ?_⟩
  · intro index group index' group' hne h
    cases Problem.text_injective h
    exact hne rfl
  · intro index group ch hch
    have hprintable := Problem.isPrintable_of_mem_text _ ch hch
    exact ⟨not_isLineBreak_of_isPrintable hprintable, not_isControl_of_isPrintable hprintable⟩
  · intro c failure hfailure
    refine ⟨c.problems.map Problem.text, details_of_ensureValid_eq_error hfailure, ?_, ?_⟩
    · rw [List.map_map]
      exact List.map_congr_left fun p _ => Problem.read?_text p
    · intro index group
      rw [← mem_problems_iff]
      constructor
      · rintro ⟨text, htext, hread⟩
        obtain ⟨p, hp, rfl⟩ := List.mem_map.mp htext
        rw [Problem.read?_text, Option.some.injEq] at hread
        exact hread ▸ hp
      · intro hp
        exact ⟨_, List.mem_map_of_mem hp, Problem.read?_text _⟩

/-- A group that imitates the end of a problem and has a line feed, a mark of either kind, what
looks like an escape, and a line separator. -/
def imitation : String := "a' is already registered\n\"\\x27\u2028"

/-- A configuration with two overrides for it. -/
def imitations : ProviderConfig := ⟨"u", none, [⟨imitation, "u"⟩, ⟨imitation, "u"⟩]⟩

/-- The duplicate is told on one line, in another text than one of the group that it begins with,
and is read from the details. -/
theorem imitations_identified :
    (∀ ch ∈ (Problem.duplicateGroup 1 imitation).text.toList,
        ¬ IsLineBreak ch ∧ ¬ IsControl ch) ∧
      (Problem.duplicateGroup 1 imitation).text ≠ (Problem.duplicateGroup 1 "a").text ∧
      ∃ (failure : Failure) (texts : List String), imitations.ensureValid = .error failure ∧
        failure.details = .list (texts.map .text) ∧
        texts.map Problem.read? = [some (.duplicateGroup 1 imitation)] ∧
        (Problem.duplicateGroup 1 imitation).Afflicts imitations := by
  have hproblems : imitations.problems = [.duplicateGroup 1 imitation] := by decide
  have hrefused : imitations.ensureValid = .error (.invalid (.duplicateGroup 1 imitation) []) := by
    unfold ensureValid
    rw [hproblems]
  obtain ⟨-, hdiffer, hsafe, hdetails⟩ := duplicates_identified
  obtain ⟨texts, htexts, hread, hafflicts⟩ := hdetails imitations _ hrefused
  rw [hproblems] at hread
  refine ⟨hsafe 1 imitation, hdiffer 1 imitation 1 "a" (by decide), _, texts, hrefused,
    htexts, hread, (hafflicts 1 imitation).mp ?_⟩
  have hmem : some (Problem.duplicateGroup 1 imitation) ∈ texts.map Problem.read? := by
    rw [hread]
    exact List.mem_cons_self
  exact List.mem_map.mp hmem

end ProviderConfig

end Tocsin.Alerting
