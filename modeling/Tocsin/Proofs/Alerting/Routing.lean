import Mathlib.Data.List.Find
import Mathlib.Data.List.Nodup
import Tocsin.Alerting.Provider

/-!
# Routing

Two walks go through the overrides of a provider.  One looks for problems and gathers the groups
that it has met; the other one looks for the first override of a group.  What the first walk finds
out does not depend on the order of the overrides: without problems each of them has a group and a
webhook, no two have one group, and there is a default webhook (`ProviderConfig.IsSound`).  So the
first override of a group is its only one, and the second walk does not depend on the order either.
The main statement is `ProviderConfig.routes_unambiguously`.
-/

set_option autoImplicit false

namespace Tocsin.Alerting

/-- Every override is for a group and has a webhook, no two are for one group, and there is a
default webhook. -/
structure ProviderConfig.IsSound (c : ProviderConfig) : Prop where
  grouped : ∀ o ∈ c.overrides, o.group ≠ ""
  addressed : ∀ o ∈ c.overrides, o.webhookUrl ≠ ""
  distinct : (c.overrides.map (·.group)).Nodup
  fallback : c.webhookUrl ≠ ""

/-! ## Problems -/

/-- Nothing is wrong with an override that has a group of its own and a webhook. -/
theorem Override.problems_eq_nil_iff {index : Nat} {registered : List String} {o : Override} :
    o.problems index registered = [] ↔
      o.group ≠ "" ∧ o.webhookUrl ≠ "" ∧ o.group ∉ registered := by
  unfold Override.problems
  by_cases hgroup : o.group = ""
  · simp [hgroup]
  · by_cases hmem : o.group ∈ registered
    · simp [hgroup, hmem]
    · by_cases hurl : o.webhookUrl = "" <;> simp [hgroup, hmem, hurl]

/-- Nothing is wrong with overrides that have groups of their own and webhooks.  The groups that
were met grow by one with every override, so the induction asks of the later ones that they differ
from it as well. -/
theorem overrideProblems_eq_nil_iff {index : Nat} {registered : List String}
    {overrides : List Override} :
    overrideProblems index registered overrides = [] ↔
      (∀ o ∈ overrides, o.group ≠ "" ∧ o.webhookUrl ≠ "" ∧ o.group ∉ registered) ∧
        (overrides.map (·.group)).Nodup := by
  induction overrides generalizing index registered with
  | nil => simp [overrideProblems]
  | cons o rest ih =>
      unfold overrideProblems
      rw [List.append_eq_nil_iff, Override.problems_eq_nil_iff, ih, List.map_cons,
        List.nodup_cons, List.forall_mem_cons]
      have hnew : o.group ∉ rest.map (·.group) ↔ ∀ r ∈ rest, r.group ≠ o.group := by
        simp [List.mem_map]
      rw [hnew]
      simp only [List.mem_cons, not_or]
      constructor
      · rintro ⟨ho, hrest, hnodup⟩
        refine ⟨⟨ho, ?_⟩, ?_, hnodup⟩
        · intro r hr
          obtain ⟨hgroup, hurl, -, hmem⟩ := hrest r hr
          exact ⟨hgroup, hurl, hmem⟩
        · intro r hr
          exact (hrest r hr).2.2.1
      · rintro ⟨⟨ho, hrest⟩, hne, hnodup⟩
        refine ⟨ho, ?_, hnodup⟩
        intro r hr
        obtain ⟨hgroup, hurl, hmem⟩ := hrest r hr
        exact ⟨hgroup, hurl, hne r hr, hmem⟩

namespace ProviderConfig

/-- A configuration is valid if it is sound. -/
theorem isValid_iff_isSound {c : ProviderConfig} : c.isValid = true ↔ c.IsSound := by
  unfold isValid problems
  rw [List.isEmpty_iff, List.append_eq_nil_iff, overrideProblems_eq_nil_iff]
  constructor
  · rintro ⟨⟨hall, hnodup⟩, hdefault⟩
    constructor
    case grouped => exact fun o ho => (hall o ho).1
    case addressed => exact fun o ho => (hall o ho).2.1
    case distinct => exact hnodup
    case fallback =>
      intro hempty
      simp [hempty] at hdefault
  · intro h
    refine ⟨⟨?_, h.distinct⟩, if_neg h.fallback⟩
    intro o ho
    exact ⟨h.grouped o ho, h.addressed o ho, List.not_mem_nil⟩

/-! ## Webhooks -/

/-- A group without an override goes to the default webhook. -/
theorem webhookFor_of_no_override {c : ProviderConfig} {group : String}
    (h : ∀ o ∈ c.overrides, o.group ≠ group) : c.webhookFor group = c.webhookUrl := by
  have hnone : c.overrides.find? (·.group = group) = none := by
    rw [List.find?_eq_none]
    intro o ho
    simpa using h o ho
  unfold webhookFor
  rw [hnone]
  rfl

namespace IsSound

variable {c : ProviderConfig} (h : c.IsSound)
include h

/-- Two overrides for one group are the same override. -/
theorem eq_of_group_eq {o o' : Override} (ho : o ∈ c.overrides) (ho' : o' ∈ c.overrides)
    (hgroup : o.group = o'.group) : o = o' :=
  List.inj_on_of_nodup_map h.distinct ho ho' hgroup

/-- Every override is found under its group. -/
theorem webhookFor_group {o : Override} (ho : o ∈ c.overrides) :
    c.webhookFor o.group = o.webhookUrl := by
  cases hfind : c.overrides.find? (·.group = o.group) with
  | none =>
      have hno := List.find?_eq_none.mp hfind o ho
      simp at hno
  | some first =>
      have hgroup : first.group = o.group := by simpa using List.find?_some hfind
      have hfirst : first = o := h.eq_of_group_eq (List.mem_of_find?_eq_some hfind) ho hgroup
      unfold webhookFor
      rw [hfind, hfirst]
      rfl

/-- Every group goes to some webhook. -/
theorem webhookFor_ne_empty (group : String) : c.webhookFor group ≠ "" := by
  by_cases hgroup : ∃ o ∈ c.overrides, o.group = group
  · obtain ⟨o, ho, rfl⟩ := hgroup
    rw [h.webhookFor_group ho]
    exact h.addressed o ho
  · rw [webhookFor_of_no_override fun o ho heq => hgroup ⟨o, ho, heq⟩]
    exact h.fallback

/-- The order of the overrides does not matter to whether a configuration is sound. -/
theorem perm {overrides : List Override} (hperm : overrides.Perm c.overrides) :
    ({ c with overrides := overrides } : ProviderConfig).IsSound where
  grouped o ho := h.grouped o (hperm.mem_iff.mp ho)
  addressed o ho := h.addressed o (hperm.mem_iff.mp ho)
  distinct := (hperm.map (·.group)).nodup_iff.mpr h.distinct
  fallback := h.fallback

/-- The order of the overrides does not matter to where a group goes. -/
theorem webhookFor_perm {overrides : List Override} (hperm : overrides.Perm c.overrides)
    (group : String) :
    ({ c with overrides := overrides } : ProviderConfig).webhookFor group =
      c.webhookFor group := by
  have hsame : overrides.find? (·.group = group) = c.overrides.find? (·.group = group) := by
    apply List.find?_eq_find?_of_perm hperm
    rintro o ⟨ho, hgroup⟩ o' ⟨ho', hgroup'⟩
    have heq : o.group = o'.group := by
      rw [of_decide_eq_true hgroup, of_decide_eq_true hgroup']
    exact h.eq_of_group_eq (hperm.mem_iff.mp ho) (hperm.mem_iff.mp ho') heq
  unfold webhookFor
  rw [hsame]

end IsSound

/-- A valid configuration sends every group to one webhook: that of its override if it has one, and
the default webhook else, as for the group without a name.  No group goes without a webhook, and the
order of the overrides does not matter. -/
theorem routes_unambiguously (c : ProviderConfig) (h : c.isValid = true) :
    (∀ o ∈ c.overrides, c.webhookFor o.group = o.webhookUrl) ∧
    (∀ group, (∀ o ∈ c.overrides, o.group ≠ group) → c.webhookFor group = c.webhookUrl) ∧
    ((∀ o ∈ c.overrides, o.group ≠ "") ∧ c.webhookFor "" = c.webhookUrl) ∧
    (∀ group, c.webhookFor group ≠ "") ∧
    ∀ overrides, overrides.Perm c.overrides →
      let reordered : ProviderConfig := { c with overrides := overrides }
      reordered.isValid = true ∧ ∀ group, reordered.webhookFor group = c.webhookFor group := by
  have hsound := isValid_iff_isSound.mp h
  refine ⟨?_, ?_, ?_, hsound.webhookFor_ne_empty, ?_⟩
  · intro o ho
    exact hsound.webhookFor_group ho
  · intro group hgroup
    exact webhookFor_of_no_override hgroup
  · exact ⟨hsound.grouped, webhookFor_of_no_override hsound.grouped⟩
  · intro overrides hperm
    exact ⟨isValid_iff_isSound.mpr (hsound.perm hperm), hsound.webhookFor_perm hperm⟩

/-- A configuration with overrides for two groups. -/
def twoGroups : ProviderConfig :=
  ⟨"https://h/a", none, [⟨"infra", "https://h/b"⟩, ⟨"data", "https://h/c"⟩]⟩

/-- It is valid, so the groups have the webhooks of their overrides, whichever comes first. -/
theorem twoGroups_routes :
    twoGroups.isValid = true ∧ twoGroups.webhookFor "data" = "https://h/c" ∧
      twoGroups.webhookFor "" = "https://h/a" ∧
      ∀ group, ({ twoGroups with overrides := twoGroups.overrides.reverse } :
        ProviderConfig).webhookFor group = twoGroups.webhookFor group := by
  have hvalid : twoGroups.isValid = true := by decide
  obtain ⟨hgroup, -, ⟨-, hempty⟩, -, hperm⟩ := routes_unambiguously twoGroups hvalid
  have hdata : (⟨"data", "https://h/c"⟩ : Override) ∈ twoGroups.overrides := by decide
  exact ⟨hvalid, hgroup _ hdata, hempty, (hperm _ (List.reverse_perm _)).2⟩

end ProviderConfig

end Tocsin.Alerting
