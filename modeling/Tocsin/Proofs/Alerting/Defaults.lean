import Mathlib
import Tocsin.Alerting.Alert

/-!
# Chains of defaults

An alert may be filled from any number of defaults, one after the other.  The five fields that can
be left open are treated alike, so what is said here is said of a `Slot`: a field holds the value of
the alert if there is one, or else that of the first default that has one.  A field that was taken
over counts as given from then on, and the type stays that of the alert.

Alerts are objects on a shelf.  Filling one never changes what stands on it: a copy is put behind
the others if some field is taken over, and otherwise the alert itself is the result.  What one step
does to the shelf is `Shelf.withDefaults_spec`; the main statement is about chains,
`Shelf.withAll_takes_first_offers`.
-/

set_option autoImplicit false

namespace Tocsin.Alerting

open Tocsin.Config (Declared)

/-! ## Fields that can be left open -/

/-- The fields of an alert that can be left open. -/
inductive Slot where
  | enabled
  | failureThreshold
  | successThreshold
  | description
  | sendOnResolved
  deriving DecidableEq, Repr

namespace Slot

/-- The values of a field. -/
def Content : Slot → Type
  | enabled => Bool
  | failureThreshold => Threshold
  | successThreshold => Threshold
  | description => String
  | sendOnResolved => Bool

/-- What an alert holds in a field. -/
def of (a : Alert) : (s : Slot) → Option s.Content
  | enabled => a.enabled
  | failureThreshold => a.failureThreshold
  | successThreshold => a.successThreshold
  | description => a.description
  | sendOnResolved => a.sendOnResolved

/-- The name of a field. -/
def name : Slot → String
  | enabled => "enabled"
  | failureThreshold => "failure_threshold"
  | successThreshold => "success_threshold"
  | description => "description"
  | sendOnResolved => "send_on_resolved"

/-- What a default offers for a field; no default offers nothing. -/
def offer (s : Slot) (d : Option (Declared Alert)) : Option s.Content := d.bind (s.of ·.value)

end Slot

/-- Alerts of one type that hold the same in all fields are the same. -/
theorem Alert.eq_of_slots {a b : Alert} (htype : a.type = b.type)
    (hslots : ∀ s : Slot, s.of a = s.of b) : a = b := by
  obtain ⟨type, enabled, failureThreshold, successThreshold, description, sendOnResolved⟩ := a
  obtain ⟨type', enabled', failureThreshold', successThreshold', description', sendOnResolved'⟩ := b
  have henabled : enabled = enabled' := hslots .enabled
  have hfailure : failureThreshold = failureThreshold' := hslots .failureThreshold
  have hsuccess : successThreshold = successThreshold' := hslots .successThreshold
  have hdescription : description = description' := hslots .description
  have hresolved : sendOnResolved = sendOnResolved' := hslots .sendOnResolved
  rw [Alert.mk.injEq]
  exact ⟨htype, henabled, hfailure, hsuccess, hdescription, hresolved⟩

/-- A field that is filled keeps its value if it has one, and takes that of the default else. -/
theorem Slot.of_fill (s : Slot) (a d : Alert) : s.of (a.fill d) = (s.of a).or (s.of d) := by
  cases s <;> exact Option.orElse_eq_or ..

/-- What is open takes the first offer, or else the second one, but not both: after the first one it
is open no more. -/
theorem takes_or_iff {α : Type} (own first second : Option α) :
    (own = none ∧ first.isSome = true) ∨ (own.or first = none ∧ second.isSome = true) ↔
      own = none ∧ (first.or second).isSome = true := by
  cases own <;> cases first <;> simp

/-- The fields that are inherited are those that are open here and not there. -/
theorem Alert.mem_inherited_iff {a d : Alert} {name : String} :
    name ∈ a.inherited d ↔ ∃ s : Slot, s.name = name ∧ s.of a = none ∧ (s.of d).isSome = true := by
  have hopens {α : Type} (own other : Option α) (field : String) :
      name ∈ (if Alert.opens own other = true then [field] else []) ↔
        field = name ∧ own = none ∧ other.isSome = true := by
    cases own <;> cases other <;> simp [Alert.opens, eq_comm]
  unfold Alert.inherited
  simp only [List.mem_append, hopens]
  constructor
  · rintro ((((h | h) | h) | h) | h)
    · exact ⟨.enabled, h⟩
    · exact ⟨.failureThreshold, h⟩
    · exact ⟨.successThreshold, h⟩
    · exact ⟨.description, h⟩
    · exact ⟨.sendOnResolved, h⟩
  · rintro ⟨s, h⟩
    cases s with
    | enabled => exact .inl (.inl (.inl (.inl h)))
    | failureThreshold => exact .inl (.inl (.inl (.inr h)))
    | successThreshold => exact .inl (.inl (.inr h))
    | description => exact .inl (.inr h)
    | sendOnResolved => exact .inr h

/-! ## One default -/

/-- An alert keeps its type. -/
theorem type_withDefaults (a : Declared Alert) (d : Option (Declared Alert)) :
    (withDefaults a d).value.type = a.value.type := by
  cases d <;> rfl

/-- A field holds its own value or, without one, what the default offers for it. -/
theorem of_withDefaults (s : Slot) (a : Declared Alert) (d : Option (Declared Alert)) :
    s.of (withDefaults a d).value = (s.of a.value).or (s.offer d) := by
  cases d with
  | none => exact (Option.or_none).symm
  | some d => exact s.of_fill a.value d.value

/-- The fields that were given, and those that are inherited, count as given. -/
theorem mem_given_withDefaults_iff {a : Declared Alert} {d : Option (Declared Alert)}
    {name : String} :
    name ∈ (withDefaults a d).given ↔
      name ∈ a.given ∨
        ∃ s : Slot, s.name = name ∧ s.of a.value = none ∧ (s.offer d).isSome = true := by
  cases d with
  | none => simp [withDefaults, Slot.offer]
  | some d =>
      show name ∈ a.given ++ (a.value.inherited d.value).filter (· ∉ a.given) ↔
        _ ∨ ∃ s : Slot, _ ∧ _ ∧ (s.of d.value).isSome = true
      rw [← Alert.mem_inherited_iff, List.mem_append, List.mem_filter, decide_eq_true_eq]
      tauto

/-- Nothing is inherited where the default offers nothing for the fields that are open. -/
theorem inheritsNothing_iff {a : Declared Alert} {d : Option (Declared Alert)} :
    inheritsNothing a d = true ↔ ∀ s : Slot, s.of a.value = none → s.offer d = none := by
  cases d with
  | none => exact iff_of_true rfl fun _ _ => rfl
  | some d =>
      show (a.value.inherited d.value).isEmpty = true ↔ ∀ s : Slot, _ → s.of d.value = none
      rw [List.isEmpty_iff, List.eq_nil_iff_forall_not_mem]
      constructor
      · intro h s hopen
        by_contra hoffer
        exact h _ (Alert.mem_inherited_iff.mpr ⟨s, rfl, hopen, Option.isSome_iff_ne_none.mpr hoffer⟩)
      · intro h name hmem
        obtain ⟨s, -, hopen, hoffer⟩ := Alert.mem_inherited_iff.mp hmem
        rw [h s hopen] at hoffer
        cases hoffer

/-- An alert that inherits nothing stays as it is. -/
theorem withDefaults_eq_self {a : Declared Alert} {d : Option (Declared Alert)}
    (h : inheritsNothing a d = true) : withDefaults a d = a := by
  have hslots : ∀ s : Slot, s.of (withDefaults a d).value = s.of a.value := by
    intro s
    rw [of_withDefaults]
    cases hown : s.of a.value with
    | none => rw [inheritsNothing_iff.mp h s hown, Option.or_none]
    | some v => rfl
  have hvalue := Alert.eq_of_slots (type_withDefaults a d) hslots
  cases d with
  | none => rfl
  | some d =>
      have hnil : a.value.inherited d.value = [] := List.isEmpty_iff.mp h
      unfold withDefaults at hvalue ⊢
      dsimp only at hvalue ⊢
      rw [hvalue, hnil, List.filter_nil, List.append_nil]

/-- A default has nothing more to offer to an alert that was filled from it. -/
theorem inheritsNothing_withDefaults (a : Declared Alert) (d : Option (Declared Alert)) :
    inheritsNothing (withDefaults a d) d = true := by
  rw [inheritsNothing_iff]
  intro s hopen
  rw [of_withDefaults, Option.or_eq_none_iff] at hopen
  exact hopen.2

/-- It does not matter whether an alert is filled from a default and then from another one, or from
the first one that was itself filled from the other. -/
theorem withDefaults_withDefaults (a d : Declared Alert) (e : Option (Declared Alert)) :
    (withDefaults (withDefaults a (some d)) e).value =
        (withDefaults a (some (withDefaults d e))).value ∧
      ∀ name, name ∈ (withDefaults (withDefaults a (some d)) e).given ↔
        name ∈ (withDefaults a (some (withDefaults d e))).given := by
  have hoffer : ∀ s : Slot, s.offer (some (withDefaults d e)) = (s.offer (some d)).or (s.offer e) :=
    fun s => of_withDefaults s d e
  constructor
  · apply Alert.eq_of_slots
    · rw [type_withDefaults, type_withDefaults, type_withDefaults]
    · intro s
      rw [of_withDefaults, of_withDefaults, of_withDefaults, hoffer, Option.or_assoc]
  · intro name
    rw [mem_given_withDefaults_iff, mem_given_withDefaults_iff, mem_given_withDefaults_iff,
      or_assoc, ← exists_or]
    simp only [of_withDefaults, hoffer, ← and_or_left, takes_or_iff]

/-! ## Chains of defaults -/

/-- The first offer in a chain is that of the first default, or the first one behind it. -/
theorem findSome?_offer_cons (s : Slot) (d : Option (Declared Alert))
    (ds : List (Option (Declared Alert))) :
    (d :: ds).findSome? s.offer = (s.offer d).or (ds.findSome? s.offer) := by
  rw [List.findSome?_cons]
  cases s.offer d <;> rfl

/-- Behind a chain of defaults, a field holds its own value or the first one that is offered. -/
theorem of_foldl_withDefaults (s : Slot) (a : Declared Alert)
    (ds : List (Option (Declared Alert))) :
    s.of (ds.foldl withDefaults a).value = (s.of a.value).or (ds.findSome? s.offer) := by
  induction ds generalizing a with
  | nil => exact (Option.or_none).symm
  | cons d ds ih =>
      rw [List.foldl_cons, ih, of_withDefaults, Option.or_assoc, findSome?_offer_cons]

/-- An alert keeps its type along a chain of defaults. -/
theorem type_foldl_withDefaults (a : Declared Alert) (ds : List (Option (Declared Alert))) :
    (ds.foldl withDefaults a).value.type = a.value.type := by
  induction ds generalizing a with
  | nil => rfl
  | cons d ds ih => rw [List.foldl_cons, ih, type_withDefaults]

/-- The fields that count as given after a chain are those that were given before, and those that
were open before and are offered something by the chain. -/
theorem mem_given_foldl_withDefaults_iff {a : Declared Alert} {ds : List (Option (Declared Alert))}
    {name : String} :
    name ∈ (ds.foldl withDefaults a).given ↔
      name ∈ a.given ∨ ∃ s : Slot, s.name = name ∧ s.of a.value = none ∧
        (ds.findSome? s.offer).isSome = true := by
  induction ds generalizing a with
  | nil => simp
  | cons d ds ih =>
      rw [List.foldl_cons, ih, mem_given_withDefaults_iff, or_assoc, ← exists_or]
      simp only [of_withDefaults, findSome?_offer_cons, ← and_or_left, takes_or_iff]

/-! ## Chains on a shelf -/

namespace Shelf

/-- What a shelf has at a place it still has when more was put behind it. -/
theorem default?_of_prefix {shelf next : Shelf} (h : shelf.alerts <+: next.alerts)
    {d : Option Nat} (hd : ∀ p ∈ d, p < shelf.alerts.length) :
    next.default? d = shelf.default? d := by
  obtain ⟨others, hothers⟩ := h
  cases d with
  | none => rfl
  | some p =>
      show next.alerts[p]? = shelf.alerts[p]?
      rw [← hothers, List.getElem?_append_left (hd p rfl)]

/-- What one step does to a shelf. -/
theorem withDefaults_spec {shelf : Shelf} {place : Nat} {a : Declared Alert}
    (ha : shelf.alerts[place]? = some a) (d : Option Nat) :
    let next := shelf.withDefaults place d
    shelf.alerts <+: next.1.alerts ∧
      next.1.alerts[next.2]? = some (Alerting.withDefaults a (shelf.default? d)) ∧
      place ≤ next.2 ∧ (next.2 = place ↔ inheritsNothing a (shelf.default? d) = true) := by
  have hplace : place < shelf.alerts.length := (List.getElem?_eq_some_iff.mp ha).1
  dsimp only
  unfold withDefaults
  rw [ha]
  dsimp only
  by_cases hnothing : inheritsNothing a (shelf.default? d) = true
  · rw [if_pos hnothing, withDefaults_eq_self hnothing]
    exact ⟨List.prefix_rfl, ha, le_rfl, iff_of_true rfl hnothing⟩
  · rw [if_neg hnothing]
    refine ⟨List.prefix_append _ _, ?_, hplace.le, iff_of_false hplace.ne' hnothing⟩
    rw [List.getElem?_append_right le_rfl, Nat.sub_self]
    rfl

/-- What a chain of steps does to a shelf. -/
theorem withAll_spec {shelf : Shelf} {place : Nat} {a : Declared Alert}
    (ha : shelf.alerts[place]? = some a) {defaults : List (Option Nat)}
    (hdefaults : ∀ d ∈ defaults, ∀ p ∈ d, p < shelf.alerts.length) :
    let last := shelf.withAll place defaults
    let b := (defaults.map shelf.default?).foldl Alerting.withDefaults a
    shelf.alerts <+: last.1.alerts ∧ last.1.alerts[last.2]? = some b ∧ place ≤ last.2 ∧
      (last.2 = place ↔ ∀ s : Slot, s.of a.value = none → s.of b.value = none) := by
  induction defaults generalizing shelf place a with
  | nil => exact ⟨List.prefix_rfl, ha, le_rfl, iff_of_true rfl fun _ h => h⟩
  | cons d ds ih =>
      obtain ⟨hgrown, hfilled, hle, hsame⟩ := withDefaults_spec ha d
      have hlength := hgrown.length_le
      have hlater : ∀ e ∈ ds, ∀ p ∈ e, p < shelf.alerts.length :=
        fun e he => hdefaults e (List.mem_cons_of_mem d he)
      have hoffers : ds.map (shelf.withDefaults place d).1.default? = ds.map shelf.default? :=
        List.map_congr_left fun e he => default?_of_prefix hgrown (hlater e he)
      obtain ⟨hgrown', hfilled', hle', hsame'⟩ :=
        ih hfilled fun e he p hp => (hlater e he p hp).trans_le hlength
      rw [hoffers] at hfilled' hsame'
      refine ⟨hgrown.trans hgrown', hfilled', hle.trans hle', ?_⟩
      simp only [List.map_cons, List.foldl_cons] at hsame' ⊢
      -- A place never moves to the front, so a copy that the first step makes is not undone by the
      -- others, and the last place is the first one only if no step moved it.
      constructor
      · intro hlast
        have hfirst : (shelf.withDefaults place d).2 = place := le_antisymm (hle'.trans_eq hlast) hle
        have hself := withDefaults_eq_self (hsame.mp hfirst)
        rw [hself] at hsame' ⊢
        exact hsame'.mp (hlast.trans hfirst.symm)
      · intro hopen
        have hnothing : inheritsNothing a (shelf.default? d) = true := by
          rw [inheritsNothing_iff]
          intro s hs
          have hend := hopen s hs
          rw [of_foldl_withDefaults, of_withDefaults, hs, Option.none_or,
            Option.or_eq_none_iff] at hend
          exact hend.1
        rw [withDefaults_eq_self hnothing] at hsame' hopen
        exact (hsame'.mpr hopen).trans (hsame.mpr hnothing)

/-- What comes of filling an alert from a chain of defaults, each an alert on the shelf or none.
Nothing on the shelf changes.  The result has the type of the alert; each of its other fields holds
the first value among the alert and the defaults; the fields that count as given are those of the
alert and those that were taken over; and the result is the alert itself, not a copy, exactly if no
field was taken over.  So filling from a default again changes nothing, and a default that is filled
from another one may be used in place of both. -/
theorem withAll_takes_first_offers (shelf : Shelf) (place : Nat) (a : Declared Alert)
    (ha : shelf.alerts[place]? = some a) (defaults : List (Option Nat))
    (hdefaults : ∀ d ∈ defaults, ∀ p ∈ d, p < shelf.alerts.length) :
    let last := shelf.withAll place defaults
    shelf.alerts <+: last.1.alerts ∧
    (∃ b, last.1.alerts[last.2]? = some b ∧ b.value.type = a.value.type ∧
      (∀ s : Slot, s.of b.value =
        (s.of a.value).or ((defaults.map shelf.default?).findSome? s.offer)) ∧
      (∀ name, name ∈ b.given ↔ name ∈ a.given ∨ ∃ s : Slot, s.name = name ∧
        s.of a.value = none ∧ (s.of b.value).isSome = true) ∧
      (last.2 = place ↔ ∀ s : Slot, s.of a.value = none → s.of b.value = none)) ∧
    (∀ d ∈ defaults, shelf.withAll place [d, d] = shelf.withAll place [d]) ∧
    ∀ (d : Declared Alert) (e : Option (Declared Alert)),
      (Alerting.withDefaults (Alerting.withDefaults a (some d)) e).value =
          (Alerting.withDefaults a (some (Alerting.withDefaults d e))).value ∧
        ∀ name, name ∈ (Alerting.withDefaults (Alerting.withDefaults a (some d)) e).given ↔
          name ∈ (Alerting.withDefaults a (some (Alerting.withDefaults d e))).given := by
  obtain ⟨hgrown, hfilled, -, hsame⟩ := withAll_spec ha hdefaults
  refine ⟨hgrown, ⟨_, hfilled, type_foldl_withDefaults _ _, ?_, ?_, hsame⟩, ?_, ?_⟩
  · exact fun s => of_foldl_withDefaults s a _
  · intro name
    rw [mem_given_foldl_withDefaults_iff]
    refine or_congr_right (exists_congr fun s => and_congr_right fun _ => and_congr_right ?_)
    intro hopen
    rw [of_foldl_withDefaults, hopen, Option.none_or]
  · intro d hd
    obtain ⟨hgrown, hfilled, -, -⟩ := withDefaults_spec ha d
    have hoffer := default?_of_prefix hgrown (hdefaults d hd)
    have hagain : (shelf.withDefaults place d).1.withDefaults (shelf.withDefaults place d).2 d =
        shelf.withDefaults place d := by
      rw [withDefaults.eq_def (shelf.withDefaults place d).1, hfilled]
      dsimp only
      rw [hoffer, if_pos (inheritsNothing_withDefaults _ _)]
    show (shelf.withDefaults place d).1.withDefaults (shelf.withDefaults place d).2 d = _
    exact hagain
  · exact fun d e => withDefaults_withDefaults a d e

/-- An alert that says no and nothing, a default that says otherwise, and one for the rest. -/
def silenced : Shelf :=
  ⟨[⟨{ Alert.empty with enabled := some false, description := some "" }, ["description"]⟩,
    ⟨{ Alert.empty with enabled := some true, description := some "down" }, []⟩,
    ⟨{ Alert.empty with type := "mail", sendOnResolved := some false }, ["type"]⟩]⟩

/-- The first default changes nothing of it, and the second one only makes a copy with what is open.
-/
theorem silenced_filled :
    (silenced.withAll 0 [none, some 1]).2 = 0 ∧ (silenced.withAll 0 [none, some 1, some 2]).2 ≠ 0 ∧
    ∃ b, (silenced.withAll 0 [none, some 1, some 2]).1.alerts =
        silenced.alerts ++ [b] ∧ b.value.type = "wecom" ∧ b.value.enabled = some false ∧
      b.value.description = some "" ∧ b.value.sendOnResolved = some false ∧
      "send_on_resolved" ∈ b.given ∧ "type" ∉ b.given := by
  obtain ⟨-, ⟨b, hb, htype, hslots, hgiven, hsame⟩, -, -⟩ :=
    withAll_takes_first_offers silenced 0 _ rfl [none, some 1, some 2] (by decide)
  have hresolved : b.value.sendOnResolved = some false := hslots .sendOnResolved
  refine ⟨by decide, ?_, b, ?_, htype, hslots .enabled, hslots .description, hresolved, ?_, ?_⟩
  · intro hplace
    have hopen : b.value.sendOnResolved = none := hsame.mp hplace .sendOnResolved rfl
    rw [hresolved] at hopen
    cases hopen
  · cases hb
    rfl
  · exact (hgiven _).mpr (.inr ⟨.sendOnResolved, rfl, rfl, by rw [hslots]; rfl⟩)
  · rw [hgiven]
    rintro (h | ⟨s, hname, -, -⟩)
    · exact absurd h (by decide)
    · cases s <;> exact absurd hname (by decide)

end Shelf

end Tocsin.Alerting
