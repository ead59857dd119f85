import Mathlib
import Tocsin.Delivery.Providers
import Tocsin.Proofs.Calendar.Offset
import Tocsin.Proofs.Outcome

/-!
# What building a provider promises

Who builds a provider from its section expects one of two things: a provider that is valid, routes
as its section says and shows the time at the configured offset, with one record of it in the log;
or a failure of configuration, and no such record.  `Promised` says this.  It is kept exactly if the
section is refused or the offset in the settings is less than a day (`promised_iff`).  The section
is recorded as configured before the offset is looked at, and an offset of a day or more is no
failure of configuration (`dayOffset_not_promised`).
-/

set_option autoImplicit false

namespace Tocsin.Delivery

open Tocsin.Alerting Tocsin.Calendar Tocsin.Config Tocsin.Log Tocsin.Settings Tocsin.Outcome

/-- The event of a section that was read. -/
def configuredEvent : String := "wecom_provider_configured"

/-- The calls of an event among entries that a journal admits. -/
def admitted (j : Journal) (event : String) (entries : List Entry) : List Call :=
  entries.filterMap fun
    | .call c => if c.event = event ∧ j.admits c = true then some c else none
    | .note _ _ => none

/-- What building a provider from a section may come to. -/
inductive Promised (s : AppSettings) (data : Value) : Build → Prop
  /-- There is a provider: it is valid, it is that of the section, and its zone has the configured
  offset.  A journal that admits information has one record of it, and can write it. -/
  | provider {config : Declared ProviderConfig} {zone : Zone} {entries : List Entry}
      (hread : ProviderConfig.model.fromMapping data = .ok config)
      (hvalid : config.value.isValid = true) (hzone : zone.hours = s.utcOffsetHours)
      (hrecord : ∀ j : Journal, j.level ≤ Severity.info.rank →
        ∃ call, admitted j configuredEvent entries = [call])
      (hlines : ∀ level ≤ Severity.info.rank, ∀ format stamp, ∃ lines, lines ≠ [] ∧
        (Journal.fresh level format).writeAll stamp entries = .ok lines) :
      Promised s data ⟨.ok [⟨knownSection, config.value, zone⟩], entries⟩
  /-- There is a failure of configuration, and no journal has a record. -/
  | refusal {failure : Failure} {entries : List Entry} (hfamily : failure.family = .configuration)
      (hrecord : ∀ j, admitted j configuredEvent entries = []) :
      Promised s data ⟨.error (.failed failure), entries⟩

/-! ## The record of a section -/

/-- The fields of the record of a section, as they are written. -/
def configuredFields (stamp : String) (c : ProviderConfig) : Log.Fields :=
  [("override_groups", .list (c.overrides.map fun o => .text o.group)),
    ("has_default_alert", .bool c.defaultAlert.isSome), ("event", .text configuredEvent),
    ("level", .text "info"), ("logger", .text "dependencies"), ("timestamp", .text stamp)]

/-- None of them has the name of a secret. -/
theorem redact_configuredFields (stamp : String) (c : ProviderConfig) :
    redact (configuredFields stamp c) = configuredFields stamp c := by
  have hnames : ∀ name ∈ ["override_groups", "has_default_alert", "event", "level", "logger",
      "timestamp"], isSensitive name = false := by decide
  unfold redact
  rw [List.map_congr_left (g := id), List.map_id]
  rintro ⟨name, v⟩ hfield
  have hname : isSensitive name = false :=
    hnames name (List.mem_map_of_mem (f := Prod.fst) hfield)
  simp only [hname, Bool.false_eq_true, if_false, id]

/-- They are what the record is composed of. -/
theorem compose_configuredRecord (level : Level) (format : Format) (stamp : String)
    (c : ProviderConfig) :
    (Journal.fresh level format).compose stamp (configuredRecord c) =
      .ok (configuredFields stamp c) := by
  have hassemble : (Journal.fresh level format).assemble stamp (configuredRecord c) =
      .ok (configuredFields stamp c) := rfl
  have hfill : Journal.fillEvent (configuredFields stamp c) = .ok (configuredFields stamp c) := rfl
  have htraces : Journal.dropTraces (configuredFields stamp c) = configuredFields stamp c := rfl
  unfold Journal.compose
  rw [hassemble]
  show (Journal.fillEvent (configuredFields stamp c) >>= fun fields =>
    pure (redact (Journal.dropTraces fields))) = _
  rw [hfill]
  show Except.ok (redact (Journal.dropTraces (configuredFields stamp c))) = _
  rw [htraces, redact_configuredFields]

/-- Texts are JSON as they are. -/
theorem itemsToJson_texts (names : List String) :
    Value.itemsToJson (names.map .text) = .ok (names.map fun s => .text s.toList) := by
  induction names with
  | nil => rfl
  | cons name names ih =>
      simp only [List.map_cons, Value.itemsToJson, Value.toJson, ih]
      rfl

/-- A text has at least one line. -/
theorem splitAt_ne_nil (c : Char) (cs : List Char) : Text.splitAt c cs ≠ [] := by
  induction cs with
  | nil => simp [Text.splitAt]
  | cons d cs ih =>
      unfold Text.splitAt
      split
      · simp
      · split <;> simp

/-- Fields whose values JSON can show make a line of JSON. -/
theorem exists_jsonLine {fields : Log.Fields} (h : ∀ field ∈ fields, ∃ j, field.2.toJson = .ok j) :
    ∃ text, jsonLine fields = .ok text := by
  have hmembers : ∃ members, Value.entriesToJson (Mapping.ofTexts fields) = .ok members := by
    induction fields with
    | nil => exact ⟨_, rfl⟩
    | cons field fields ih =>
        obtain ⟨j, hj⟩ := h field List.mem_cons_self
        obtain ⟨members, hmembers⟩ := ih fun other hother => h other (List.mem_cons_of_mem _ hother)
        refine ⟨(field.1.toList, j) :: members, ?_⟩
        unfold Mapping.ofTexts at hmembers ⊢
        simp only [List.map_cons, Value.entriesToJson, Value.jsonName, hj, hmembers]
        rfl
  obtain ⟨members, hmembers⟩ := hmembers
  unfold jsonLine
  rw [Value.toJson, hmembers]
  exact ⟨_, rfl⟩

/-- The fields of the record have such values. -/
theorem exists_toJson_of_mem_configuredFields {stamp : String} {c : ProviderConfig}
    {field : String × Value} (h : field ∈ configuredFields stamp c) :
    ∃ j, field.2.toJson = .ok j := by
  have hgroups : Value.itemsToJson (c.overrides.map fun o => .text o.group) =
      .ok (c.overrides.map fun o => .text o.group.toList) := by
    have hitems := itemsToJson_texts (c.overrides.map (·.group))
    rwa [List.map_map, List.map_map] at hitems
  simp only [configuredFields, List.mem_cons, List.not_mem_nil, or_false] at h
  rcases h with rfl | rfl | rfl | rfl | rfl | rfl
  case inl =>
    rw [Value.toJson, hgroups]
    exact ⟨_, rfl⟩
  all_goals exact ⟨_, by rw [Value.toJson]⟩

/-- They can be written in both formats, on at least one line. -/
theorem exists_lines_configuredFields (format : Format) (stamp : String) (c : ProviderConfig) :
    ∃ lines, lines ≠ [] ∧ format.lines (configuredFields stamp c) = .ok lines := by
  have hsplit (text : List Char) : (Text.splitAt '\n' text).map String.ofList ≠ [] := by
    simpa using splitAt_ne_nil '\n' text
  cases format with
  | json =>
      obtain ⟨text, htext⟩ : ∃ text, jsonLine (configuredFields stamp c) = .ok text :=
        exists_jsonLine fun _ => exists_toJson_of_mem_configuredFields
      refine ⟨_, hsplit text, ?_⟩
      unfold Format.lines
      dsimp only
      rw [htext]
      rfl
  | console => exact ⟨_, hsplit _, rfl⟩

/-- A journal that admits information admits the record. -/
theorem admits_configuredRecord {j : Journal} (h : j.level ≤ Severity.info.rank)
    (c : ProviderConfig) : j.admits (configuredRecord c) = true := by
  have hlevel : j.level.effective (configuredRecord c).logger = j.level :=
    if_neg (by decide : ¬ Level.clientLoggers.any (fun client => "dependencies" = client ∨
      (client ++ ".").toList.isPrefixOf "dependencies".toList) = true)
  unfold Journal.admits
  rw [hlevel]
  exact decide_eq_true h

/-- A journal that admits information writes the record. -/
theorem exists_lines_configuredRecord {level : Level} (h : level ≤ Severity.info.rank)
    (format : Format) (stamp : String) (c : ProviderConfig) :
    ∃ lines, lines ≠ [] ∧
      (Journal.fresh level format).writeAll stamp [.call (configuredRecord c)] = .ok lines := by
  obtain ⟨lines, hne, hlines⟩ := exists_lines_configuredFields format stamp c
  have hwrite : (Journal.fresh level format).write stamp (configuredRecord c) = .ok lines := by
    unfold Journal.write
    rw [compose_configuredRecord]
    have hadmits : (Journal.fresh level format).admits (configuredRecord c) = true :=
      admits_configuredRecord h c
    show ((format.lines (configuredFields stamp c)).mapError Fault.line >>= fun lines =>
      pure (if (Journal.fresh level format).admits (configuredRecord c) then lines else [])) = _
    rw [hlines, hadmits]
    rfl
  refine ⟨lines, hne, ?_⟩
  unfold Journal.writeAll
  simp only [List.mapM_cons, List.mapM_nil, Journal.writeEntry, hwrite]
  exact congrArg Except.ok List.flatten_singleton

/-! ## Sections -/

/-- A section that is refused fails by its configuration. -/
theorem family_of_readSection_eq_error {data : Value} {failure : Failure}
    (h : readSection data = .error failure) : failure.family = .configuration := by
  unfold readSection at h
  cases hread : ProviderConfig.model.fromMapping data with
  | error e =>
      rw [hread] at h
      cases h
      rfl
  | ok config =>
      rw [hread] at h
      change config.value.ensureValid = .error failure at h
      unfold ProviderConfig.ensureValid at h
      split at h
      · cases h
      · cases h
        rfl

/-- A section that is read is valid. -/
theorem readSection_eq_ok {data : Value} {c : ProviderConfig} (h : readSection data = .ok c) :
    ∃ config, ProviderConfig.model.fromMapping data = .ok config ∧ config.value = c ∧
      c.isValid = true := by
  obtain ⟨config, hread, hvalid⟩ := bind_eq_ok.mp h
  refine ⟨config, mapError_eq_ok.mp hread, ?_⟩
  unfold ProviderConfig.ensureValid at hvalid
  split at hvalid
  next hproblems =>
    cases hvalid
    exact ⟨rfl, by unfold ProviderConfig.isValid; rw [hproblems]; rfl⟩
  next => cases hvalid

/-- What building promises is kept exactly if the section is refused or the offset in the settings
is less than a day in either direction. -/
theorem promised_iff (s : AppSettings) (data : Value) :
    Promised s data (buildConfigured s data) ↔
      (∃ failure, readSection data = .error failure) ∨
        -24 < s.utcOffsetHours ∧ s.utcOffsetHours < 24 := by
  unfold buildConfigured
  cases hsection : readSection data with
  | error failure =>
      refine iff_of_true ?_ (.inl ⟨failure, rfl⟩)
      exact .refusal (family_of_readSection_eq_error hsection) fun j => rfl
  | ok c =>
      dsimp only
      constructor
      · intro h
        cases hzone : Zone.ofHours? s.utcOffsetHours with
        | error e =>
            rw [hzone] at h
            cases h
        | ok zone =>
            have hhours := ofHours?_eq_ok_iff.mp hzone
            exact .inr ⟨hhours ▸ zone.above, hhours ▸ zone.below⟩
      · rintro (⟨failure, h⟩ | ⟨habove, hbelow⟩)
        · cases h
        · have hzone : Zone.ofHours? s.utcOffsetHours =
              .ok ⟨s.utcOffsetHours, habove, hbelow⟩ := ofHours?_eq_ok_iff.mpr rfl
          obtain ⟨config, hread, rfl, hvalid⟩ := readSection_eq_ok hsection
          rw [hzone]
          refine .provider hread hvalid rfl (fun j hlevel => ⟨configuredRecord config.value, ?_⟩)
            fun level hlevel format stamp => exists_lines_configuredRecord hlevel format stamp _
          simp only [admitted, List.filterMap_cons, List.filterMap_nil,
            admits_configuredRecord hlevel, and_true]
          rfl

/-- A section with nothing but a webhook. -/
def plainSection : Value := .dict [(.text "webhook-url", .text "https://h/a")]

/-- Settings with the offset of a whole day. -/
def dayOffset : AppSettings := ⟨"development", 24, ⟨10.0⟩, ⟨"INFO", "console"⟩⟩

/-- With them the section is recorded as configured, and then there is no provider and no failure of
configuration. -/
theorem dayOffset_not_promised :
    buildConfigured dayOffset plainSection =
        ⟨.error (.offset (.notWithinDay 1 0)),
          [.call (configuredRecord ⟨"https://h/a", none, []⟩)]⟩ ∧
      ¬ Promised dayOffset plainSection (buildConfigured dayOffset plainSection) := by
  have hsection : readSection plainSection = .ok ⟨"https://h/a", none, []⟩ := by cbv
  have hbuild : buildConfigured dayOffset plainSection =
      ⟨.error (.offset (.notWithinDay 1 0)),
        [.call (configuredRecord ⟨"https://h/a", none, []⟩)]⟩ := by
    unfold buildConfigured
    rw [hsection]
    rfl
  refine ⟨hbuild, fun h => ?_⟩
  rw [hbuild] at h
  cases h

end Tocsin.Delivery
