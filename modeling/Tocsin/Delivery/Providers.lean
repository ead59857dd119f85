import Tocsin.Alerting.Failure
import Tocsin.Alerting.Schema
import Tocsin.Calendar.Zone
import Tocsin.Settings.Notes

/-!
# Providers of an alerting block

An alerting block has a section for each kind of provider.  `buildProviders` goes through the
sections in order: it reads and checks the section of the one kind that is known, and skips all
others with a record for the log.  The first section that fails ends it; what was recorded before
stays recorded.  Settings that are given are loaded first of all; otherwise they are loaded when the
known section needs them.
-/

set_option autoImplicit false

namespace Tocsin.Delivery

open Tocsin.Alerting Tocsin.Calendar Tocsin.Config Tocsin.Settings

/-- A provider as its section configures it. -/
structure ConfiguredProvider where
  name : String
  config : ProviderConfig
  zone : Zone

/-- Why providers cannot be built. -/
inductive BuildError where
  /-- The block is a value of the named type and no mapping. -/
  | notABlock (typeName : String)
  /-- The settings cannot be loaded. -/
  | settings (error : LoadError)
  /-- A section cannot be read, or has problems. -/
  | failed (failure : Failure)
  /-- The offset in the settings makes no zone. -/
  | offset (error : OffsetError)

/-- The providers that were built, or why not, and the entries that were made on the way. -/
structure Build where
  result : Except BuildError (List ConfiguredProvider)
  entries : List Log.Entry

/-- The name of the section that is known. -/
def knownSection : String := "wecom"

/-- A record about building. -/
def buildRecord (severity : Log.Severity) (event : String) (fields : List (String × Value)) :
    Log.Call where
  logger := "dependencies"
  severity := severity
  event := event
  arguments := []
  fields := fields

/-- The record of a section that was read. -/
def configuredRecord (c : ProviderConfig) : Log.Call :=
  buildRecord .info "wecom_provider_configured"
    [("override_groups", .list (c.overrides.map fun o => .text o.group)),
     ("has_default_alert", .bool c.defaultAlert.isSome)]

/-- The record of a section that was skipped. -/
def skippedRecord (name : Value) : Log.Call :=
  buildRecord .debug "alert_provider_skipped" [("provider_type", name)]

/-- Reads a section and checks it. -/
def readSection (data : Value) : Except Failure ProviderConfig := do
  let config ← (ProviderConfig.model.fromMapping data).mapError .unreadable
  config.value.ensureValid

/-- Builds the provider of the known section with loaded settings. -/
def buildConfigured (settings : AppSettings) (data : Value) : Build :=
  match readSection data with
  | .error failure => ⟨.error (.failed failure), []⟩
  | .ok config =>
    match Zone.ofHours? settings.utcOffsetHours with
    | .error e => ⟨.error (.offset e), [.call (configuredRecord config)]⟩
    | .ok zone => ⟨.ok [⟨knownSection, config, zone⟩], [.call (configuredRecord config)]⟩

/-- Builds the provider of the known section.  The settings are needed before the section is read.
-/
def buildProvider (settings : Loaded AppSettings) (data : Value) : Build :=
  match settings.result with
  | .error e => ⟨.error (.settings e), settings.notes⟩
  | .ok s =>
    let build := buildConfigured s data
    ⟨build.result, settings.notes ++ build.entries⟩

/-- Whether a section is the known one. -/
def isKnown : Value → Bool
  | .text name => name == knownSection
  | _ => false

/-- Builds the provider of a section, none if it is not the known one. -/
def buildSection (settings : Loaded AppSettings) (name data : Value) : Build :=
  if isKnown name then buildProvider settings data else ⟨.ok [], [.call (skippedRecord name)]⟩

/-- Builds the providers of sections, one after the other. -/
def buildSections (settings : Loaded AppSettings) : List (Value × Value) → Build
  | [] => ⟨.ok [], []⟩
  | (name, data) :: rest =>
    let first := buildSection settings name data
    match first.result with
    | .error e => ⟨.error e, first.entries⟩
    | .ok providers =>
      let others := buildSections settings rest
      ⟨others.result.map (providers ++ ·), first.entries ++ others.entries⟩

/-- Builds the providers of an alerting block; one that is null or empty has none. -/
def buildProviders (settings : Loaded AppSettings) (block : Value) : Build :=
  if block.isTruthy then
    match block with
    | .dict sections => buildSections settings sections
    | v => ⟨.error (.notABlock v.typeName), []⟩
  else ⟨.ok [], []⟩

/-- Builds the providers of an alerting block with the settings of an environment.  Given arguments
for the settings are taken up before the block is looked at. -/
def build (e : Environment) (arguments : Option Mapping) (block : Value) : Build :=
  match arguments with
  | none => buildProviders (AppSettings.load e []) block
  | some arguments =>
    let settings := AppSettings.load e arguments
    match settings.result with
    | .error error => ⟨.error (.settings error), settings.notes⟩
    | .ok s =>
      let build := buildProviders (.done s) block
      ⟨build.result, settings.notes ++ build.entries⟩

end Tocsin.Delivery
