import Mathlib
import Tocsin.Alerting.Failure
import Tocsin.Proofs.Alerting.Routing

/-!
# What the problems of a configuration tell

The walk that looks for problems goes through the overrides once and keeps the groups that it has
met.  What it lists can be said without the walk: `Problem.Afflicts` says of each problem when a
configuration has it, looking at the positions of overrides alone, and `Problem.place` says where in
the list it stands.  A list in the order of its places that has just these members is one list only.

How many problems there are does not depend on the order of the overrides.  Each override has
either a problem with its group, or is the first one of a group with a name, so the walk finds as
many problems with groups as there are overrides less the groups that have names
(`length_overrideProblems_add_card`).  The main statement is
`ProviderConfig.problems_exactly_afflicting`.
-/

set_option autoImplicit false

namespace Tocsin.Alerting

open Tocsin.Config (Value)

/-- Whether a configuration has a problem.  A group is registered already if an override at an
earlier position is for it, too. -/
def Problem.Afflicts (c : ProviderConfig) : Problem → Prop
  | emptyGroup i => ∃ o, c.overrides[i]? = some o ∧ o.group = ""
  | duplicateGroup i group =>
    group ≠ "" ∧ (∃ o, c.overrides[i]? = some o ∧ o.group = group) ∧
      ∃ j < i, ∃ o, c.overrides[j]? = some o ∧ o.group = group
  | emptyWebhook i => ∃ o, c.overrides[i]? = some o ∧ o.webhookUrl = ""
  | emptyDefaultWebhook => c.webhookUrl = ""

/-- The place of a problem.  An override has two places, one for its group and one for its webhook;
the default webhook has the place behind those of all `count` overrides. -/
def Problem.place (count : Nat) : Problem → Nat
  | emptyGroup index => 2 * index
  | duplicateGroup index _ => 2 * index
  | emptyWebhook index => 2 * index + 1
  | emptyDefaultWebhook => 2 * count

/-! ## Which problems there are -/

/-- The problems of one override, given the groups that are registered before it. -/
theorem Override.mem_problems_iff {index : Nat} {registered : List String} {o : Override}
    {p : Problem} :
    p ∈ o.problems index registered ↔
      (p = .emptyGroup index ∧ o.group = "") ∨
      (p = .duplicateGroup index o.group ∧ o.group ≠ "" ∧ o.group ∈ registered) ∨
      (p = .emptyWebhook index ∧ o.webhookUrl = "") := by
  unfold Override.problems
  rw [List.mem_append]
  by_cases hgroup : o.group = ""
  · by_cases hurl : o.webhookUrl = "" <;> simp [hgroup, hurl]
  · by_cases hmem : o.group ∈ registered <;> by_cases hurl : o.webhookUrl = "" <;>
      simp [hgroup, hmem, hurl]

/-- The problems of overrides are those of the override at some position, for which the groups of
the overrides before it are registered. -/
theorem mem_overrideProblems_iff {index : Nat} {registered : List String}
    {overrides : List Override} {p : Problem} :
    p ∈ overrideProblems index registered overrides ↔
      ∃ (i : Nat) (o : Override), overrides[i]? = some o ∧
        p ∈ o.problems (index + i) (((overrides.take i).map (·.group)).reverse ++ registered) := by
  induction overrides generalizing index registered with
  | nil => simp [overrideProblems]
  | cons first rest ih =>
      unfold overrideProblems
      rw [List.mem_append, ih]
      constructor
      · rintro (hfirst | ⟨i, o, ho, hp⟩)
        · exact ⟨0, first, rfl, hfirst⟩
        · refine ⟨i + 1, o, ho, ?_⟩
          have hindex : index + (i + 1) = index + 1 + i := by omega
          rw [hindex]
          simpa using hp
      · rintro ⟨i, o, ho, hp⟩
        cases i with
        | zero =>
            cases ho
            exact .inl hp
        | succ i =>
            refine .inr ⟨i, o, ho, ?_⟩
            have hindex : index + (i + 1) = index + 1 + i := by omega
            rw [hindex] at hp
            simpa using hp

/-- A group is registered before an override if one of the overrides in front has it. -/
theorem mem_map_group_take_iff {overrides : List Override} {i : Nat} {group : String} :
    group ∈ (overrides.take i).map (·.group) ↔
      ∃ j < i, ∃ o, overrides[j]? = some o ∧ o.group = group := by
  constructor
  · intro h
    obtain ⟨o, ho, hgroup⟩ := List.mem_map.mp h
    obtain ⟨j, hj⟩ := List.mem_iff_getElem?.mp ho
    rw [List.getElem?_take] at hj
    by_cases hlt : j < i
    · rw [if_pos hlt] at hj
      exact ⟨j, hlt, o, hj, hgroup⟩
    · rw [if_neg hlt] at hj
      cases hj
  · rintro ⟨j, hlt, o, hj, hgroup⟩
    have ho : (overrides.take i)[j]? = some o := by
      rw [List.getElem?_take, if_pos hlt, hj]
    exact List.mem_map.mpr ⟨o, List.mem_iff_getElem?.mpr ⟨j, ho⟩, hgroup⟩

/-- A problem is listed exactly if the configuration is afflicted by it. -/
theorem ProviderConfig.mem_problems_iff {c : ProviderConfig} {p : Problem} :
    p ∈ c.problems ↔ p.Afflicts c := by
  have hdefault : p ∈ (if c.webhookUrl = "" then [Problem.emptyDefaultWebhook] else []) ↔
      p = .emptyDefaultWebhook ∧ c.webhookUrl = "" := by
    by_cases hurl : c.webhookUrl = "" <;> simp [hurl]
  unfold problems
  rw [List.mem_append, mem_overrideProblems_iff, hdefault]
  simp only [Override.mem_problems_iff, Nat.zero_add, List.append_nil, List.mem_reverse,
    mem_map_group_take_iff]
  cases p with
  | emptyGroup i => simp [Problem.Afflicts]
  | duplicateGroup i group =>
      simp only [Problem.Afflicts, Problem.duplicateGroup.injEq, reduceCtorEq, false_and, or_false,
        false_or]
      constructor
      · rintro ⟨_, o, ho, ⟨rfl, rfl⟩, hne, hearlier⟩
        exact ⟨hne, ⟨o, ho, rfl⟩, hearlier⟩
      · rintro ⟨hne, ⟨o, ho, rfl⟩, hearlier⟩
        exact ⟨i, o, ho, ⟨rfl, rfl⟩, hne, hearlier⟩
  | emptyWebhook i => simp [Problem.Afflicts]
  | emptyDefaultWebhook => simp [Problem.Afflicts]

/-! ## In which order -/

/-- The problem of an override stands in one of its two places. -/
theorem Override.place_of_mem_problems {index : Nat} {registered : List String} {o : Override}
    {p : Problem} (h : p ∈ o.problems index registered) (count : Nat) :
    2 * index ≤ p.place count ∧ p.place count < 2 * (index + 1) := by
  rcases Override.mem_problems_iff.mp h with ⟨rfl, -⟩ | ⟨rfl, -, -⟩ | ⟨rfl, -⟩ <;>
    simp only [Problem.place] <;> omega

/-- The places of the problems of overrides lie within those that belong to these overrides. -/
theorem place_of_mem_overrideProblems {index : Nat} {registered : List String}
    {overrides : List Override} {p : Problem} (h : p ∈ overrideProblems index registered overrides)
    (count : Nat) :
    2 * index ≤ p.place count ∧ p.place count < 2 * (index + overrides.length) := by
  obtain ⟨i, o, ho, hp⟩ := mem_overrideProblems_iff.mp h
  have hplace := Override.place_of_mem_problems hp count
  have hlt : i < overrides.length := (List.getElem?_eq_some_iff.mp ho).1
  omega

/-- A problem with the group of an override stands before one with its webhook. -/
theorem Override.pairwise_problems (index : Nat) (registered : List String) (o : Override)
    (count : Nat) :
    (o.problems index registered).Pairwise fun p q => p.place count < q.place count := by
  unfold Override.problems
  split_ifs <;> simp [Problem.place]

/-- The problems of overrides are listed by their places. -/
theorem pairwise_overrideProblems (index : Nat) (registered : List String)
    (overrides : List Override) (count : Nat) :
    (overrideProblems index registered overrides).Pairwise
      fun p q => p.place count < q.place count := by
  induction overrides generalizing index registered with
  | nil => exact List.Pairwise.nil
  | cons o rest ih =>
      unfold overrideProblems
      rw [List.pairwise_append]
      refine ⟨o.pairwise_problems index registered count, ih _ _, ?_⟩
      intro p hp q hq
      have hfront := Override.place_of_mem_problems hp count
      have hback := place_of_mem_overrideProblems hq count
      omega

/-- All problems are listed in the order of their places. -/
theorem ProviderConfig.pairwise_problems (c : ProviderConfig) :
    c.problems.Pairwise fun p q =>
      p.place c.overrides.length < q.place c.overrides.length := by
  unfold problems
  rw [List.pairwise_append]
  refine ⟨pairwise_overrideProblems _ _ _ _, by split_ifs <;> simp, ?_⟩
  intro p hp q hq
  have hplace := place_of_mem_overrideProblems hp c.overrides.length
  have hlast : q = .emptyDefaultWebhook := by
    split_ifs at hq
    · exact List.mem_singleton.mp hq
    · cases hq
  have hplaceLast : q.place c.overrides.length = 2 * c.overrides.length := by
    rw [hlast]
    rfl
  omega

/-! ## How many -/

/-- The groups of the overrides, with names or without. -/
def ProviderConfig.groups (c : ProviderConfig) : List String := c.overrides.map (·.group)

/-- How many problems there are with one override: one with its group unless the group is a new one,
and one with its webhook if it has none. -/
theorem Override.length_problems (index : Nat) (registered : List String) (o : Override) :
    (o.problems index registered).length =
      (if o.group = "" ∨ o.group ∈ registered then 1 else 0) +
        (if o.webhookUrl = "" then 1 else 0) := by
  unfold Override.problems
  by_cases hgroup : o.group = ""
  · by_cases hurl : o.webhookUrl = "" <;> simp [hgroup, hurl]
  · by_cases hmem : o.group ∈ registered <;> by_cases hurl : o.webhookUrl = "" <;>
      simp [hgroup, hmem, hurl]

/-- A group moves from those ahead to those that were met.  If it has a name and was not met before,
there is one new group less ahead. -/
theorem card_ahead_insert (group : String) (ahead met : Finset String) :
    ((insert group ahead).erase "" \ met).card =
      (ahead.erase "" \ insert group met).card +
        (if group = "" ∨ group ∈ met then 0 else 1) := by
  by_cases hmet : group = "" ∨ group ∈ met
  · have hsame : (insert group ahead).erase "" \ met = ahead.erase "" \ insert group met := by
      ext other
      simp only [Finset.mem_sdiff, Finset.mem_erase, Finset.mem_insert]
      grind
    rw [if_pos hmet, hsame, Nat.add_zero]
  · have hnew : (insert group ahead).erase "" \ met =
        insert group (ahead.erase "" \ insert group met) := by
      ext other
      simp only [Finset.mem_sdiff, Finset.mem_erase, Finset.mem_insert]
      grind
    rw [if_neg hmet, hnew, Finset.card_insert_of_notMem (by simp)]

/-- Each override has a problem with its group or is the first one of a group with a name, and it
may lack a webhook besides. -/
theorem length_overrideProblems_add_card (index : Nat) (registered : List String)
    (overrides : List Override) :
    (overrideProblems index registered overrides).length +
        ((overrides.map (·.group)).toFinset.erase "" \ registered.toFinset).card =
      overrides.length + (overrides.map (·.webhookUrl)).count "" := by
  -- The groups that were met before the walk are not counted, so each step moves the group of the
  -- first override from those ahead to those that were met.
  induction overrides generalizing index registered with
  | nil => simp [overrideProblems]
  | cons o rest ih =>
      have hrest := ih (index + 1) (o.group :: registered)
      have hproblems := o.length_problems index registered
      have hahead := card_ahead_insert o.group (rest.map (·.group)).toFinset registered.toFinset
      unfold overrideProblems
      rw [List.length_append, List.map_cons, List.map_cons, List.toFinset_cons, List.count_cons,
        List.length_cons, hproblems, hahead]
      simp only [List.toFinset_cons, List.mem_toFinset, beq_iff_eq] at hrest ⊢
      split_ifs <;> omega

/-- Texts are empty, or each is the first one of its kind or another one. -/
theorem count_add_sum_add_card (groups : List String) :
    groups.count "" + ∑ group ∈ groups.toFinset.erase "", (groups.count group - 1) +
      (groups.toFinset.erase "").card = groups.length := by
  have hothers : ∑ group ∈ groups.toFinset.erase "", (groups.count group - 1) +
      (groups.toFinset.erase "").card = ∑ group ∈ groups.toFinset.erase "", groups.count group := by
    rw [Finset.card_eq_sum_ones, ← Finset.sum_add_distrib]
    apply Finset.sum_congr rfl
    intro group hgroup
    have hpos : 0 < groups.count group :=
      List.count_pos_iff.mpr (List.mem_toFinset.mp (Finset.mem_of_mem_erase hgroup))
    omega
  have hempty : groups.count "" + ∑ group ∈ groups.toFinset.erase "", groups.count group =
      ∑ group ∈ groups.toFinset, groups.count group := by
    by_cases hmem : "" ∈ groups.toFinset
    · exact Finset.add_sum_erase _ (fun group => groups.count group) hmem
    · rw [Finset.erase_eq_of_notMem hmem,
        List.count_eq_zero.mpr fun h => hmem (List.mem_toFinset.mpr h), Nat.zero_add]
  rw [Nat.add_assoc, hothers, hempty, List.sum_toFinset_count_eq_length]

namespace ProviderConfig

/-- There is a problem for every override without a group, for every override of a group but one,
for every override without a webhook, and for a default webhook that is missing. -/
theorem length_problems (c : ProviderConfig) :
    c.problems.length =
      c.groups.count "" + ∑ group ∈ c.groups.toFinset.erase "", (c.groups.count group - 1) +
        (c.overrides.map (·.webhookUrl)).count "" + (if c.webhookUrl = "" then 1 else 0) := by
  have hwalk := length_overrideProblems_add_card 0 [] c.overrides
  have hgroups := count_add_sum_add_card c.groups
  have hlength : c.groups.length = c.overrides.length := List.length_map _
  have hlast : (if c.webhookUrl = "" then [Problem.emptyDefaultWebhook] else []).length =
      if c.webhookUrl = "" then 1 else 0 := by
    split_ifs <;> rfl
  rw [List.toFinset_nil, Finset.sdiff_empty] at hwalk
  -- The walk and the count of the groups fall short of the overrides by the same groups.
  unfold problems
  rw [List.length_append, hlast]
  unfold groups at hgroups hlength ⊢
  omega

/-- The order of the overrides does not matter to how many problems there are. -/
theorem length_problems_perm {c : ProviderConfig} {overrides : List Override}
    (h : overrides.Perm c.overrides) :
    ({ c with overrides := overrides } : ProviderConfig).problems.length = c.problems.length := by
  have hgroups : (overrides.map (·.group)).Perm (c.overrides.map (·.group)) := h.map _
  have hurls : (overrides.map (·.webhookUrl)).Perm (c.overrides.map (·.webhookUrl)) := h.map _
  rw [length_problems, length_problems]
  unfold groups
  dsimp only
  rw [List.toFinset_eq_of_perm _ _ hgroups, hurls.count_eq, hgroups.count_eq]
  simp only [hgroups.count_eq]

/-- A configuration is valid if it has no problems. -/
theorem isValid_eq_true_iff_length {c : ProviderConfig} :
    c.isValid = true ↔ c.problems.length = 0 := by
  unfold isValid
  rw [List.isEmpty_iff, List.length_eq_zero_iff]

/-- The problems of a configuration, told without the walk that finds them: which there are, and in
which order they are listed; that there are none if every override has a group of its own and a
webhook and there is a default webhook; that a configuration with problems, and no other, is refused
with the first of them as the message and all of them as the details; and how many there are, which
does not depend on the order of the overrides. -/
theorem problems_exactly_afflicting (c : ProviderConfig) :
    (∀ p, p ∈ c.problems ↔ p.Afflicts c) ∧
    (c.problems.Pairwise fun p q =>
      p.place c.overrides.length < q.place c.overrides.length) ∧
    (c.isValid = true ↔ c.IsSound) ∧
    (c.isValid = true ↔ c.ensureValid = .ok c) ∧
    (c.isValid = false ↔ ∃ failure first others, c.ensureValid = .error failure ∧
      c.problems = first :: others ∧ failure.family = .configuration ∧
      failure.message = first.text ∧
      failure.details = .list (c.problems.map fun p => .text p.text)) ∧
    c.problems.length =
      c.groups.count "" + ∑ group ∈ c.groups.toFinset.erase "", (c.groups.count group - 1) +
        (c.overrides.map (·.webhookUrl)).count "" + (if c.webhookUrl = "" then 1 else 0) ∧
    ∀ overrides, overrides.Perm c.overrides →
      let reordered : ProviderConfig := { c with overrides := overrides }
      reordered.problems.length = c.problems.length ∧ reordered.isValid = c.isValid := by
  refine ⟨fun p => mem_problems_iff, c.pairwise_problems, isValid_iff_isSound, ?_, ?_,
    c.length_problems, ?_⟩
  · unfold isValid ensureValid
    cases c.problems <;> simp
  · unfold isValid ensureValid
    cases hproblems : c.problems with
    | nil => simp
    | cons first others =>
        simp only [List.isEmpty_cons, true_iff]
        exact ⟨.invalid first others, first, others, rfl, rfl, rfl, rfl, rfl⟩
  · intro overrides hperm reordered
    have hlength : reordered.problems.length = c.problems.length := length_problems_perm hperm
    refine ⟨hlength, Bool.eq_iff_iff.mpr ?_⟩
    rw [isValid_eq_true_iff_length, isValid_eq_true_iff_length, hlength]

/-- A configuration in which one group stands three times, between overrides without a group. -/
def knottedGroups : ProviderConfig :=
  ⟨"", none, [⟨"a", "u"⟩, ⟨"", "u"⟩, ⟨"a", ""⟩, ⟨"", ""⟩, ⟨"b", "u"⟩, ⟨"a", "u"⟩]⟩

/-- It has seven problems, as many as in the opposite order. -/
theorem knottedGroups_afflicted :
    knottedGroups.problems = [.emptyGroup 1, .duplicateGroup 2 "a", .emptyWebhook 2, .emptyGroup 3,
      .emptyWebhook 3, .duplicateGroup 5 "a", .emptyDefaultWebhook] ∧
    (Problem.duplicateGroup 5 "a").Afflicts knottedGroups ∧
    ({ knottedGroups with overrides := knottedGroups.overrides.reverse } :
      ProviderConfig).problems.length = 7 := by
  obtain ⟨hlisted, -, -, -, -, -, hperm⟩ := problems_exactly_afflicting knottedGroups
  refine ⟨by decide, (hlisted _).mp (by decide), ?_⟩
  rw [(hperm _ (List.reverse_perm _)).1]
  decide

end ProviderConfig

end Tocsin.Alerting
