import DynamicDns.Proofs.LoadOutcome
import DynamicDns.Proofs.PluginLookup
import DynamicDns.Proofs.TracedAgreement

/-! # Update hosts of loaded records

A record sends its updates to the server of its section, or else to that of its
plugin. Checks ask custom sections for a host. Of the built-in plugins all have
one but the plugin behind custom sections, and nothing keeps the title of a
provider section from naming that one. Such sections are the only ones whose
records have no update host.
-/

namespace DynamicDns

namespace Targets

theorem update_ofPlugin {plugin : Plugin} {targets : Targets}
    (taken : ofPlugin plugin = .ok targets) :
    targets.update.name.text = Endpoint.hostPart plugin.updateServer := by
  simp only [ofPlugin, bind_eq_ok_iff] at taken
  obtain ⟨_, -, _, -, update, resolved, _, -, same⟩ := taken
  cases same
  exact (Endpoint.parts_of_resolve (endpoint_of_resolve resolved)).1

theorem update_overrideBy {defaults targets : Targets} {s : CustomSection} {server : String}
    (given : s.ddnsServer = some server) (taken : defaults.overrideBy s = .ok targets) :
    targets.update.name.text = Endpoint.hostPart server := by
  simp only [overrideBy, bind_eq_ok_iff, given, override] at taken
  obtain ⟨_, -, _, -, update, resolved, _, -, same⟩ := taken
  cases same
  exact (Endpoint.parts_of_resolve (endpoint_of_resolve resolved)).1

end Targets

/-- The server that takes updates names a host. -/
def Plugin.HasUpdateHost (p : Plugin) : Prop :=
  Text.trim (Endpoint.hostPart p.updateServer).toList ≠ []

/-- The host that updates are sent to is not blank. -/
def ProviderRecord.HasUpdateHost (r : ProviderRecord) : Prop :=
  Text.trim r.update.name.text.toList ≠ []

instance (p : Plugin) : Decidable p.HasUpdateHost :=
  inferInstanceAs (Decidable (_ ≠ _))

instance (r : ProviderRecord) : Decidable r.HasUpdateHost :=
  inferInstanceAs (Decidable (_ ≠ _))

/-- A provider section whose title is the name of the plugin behind custom sections. -/
def Section.TitledCustom : Section → Prop
  | .provider s => s.name = some Plugin.customName
  | .custom _ => False

namespace PluginRegistry

theorem mem_builtin_of_find? {name : String} {p : Plugin} (found : builtin.find? name = some p) :
    p ∈ Plugin.builtin ∧ (p.name = name ∨ p.name = Plugin.defaultMark ++ name) := by
  obtain ⟨registered, named⟩ := mem_of_find? found
  rcases mem_of_mem_registerAll registered with listed | earlier
  · exact ⟨listed, named⟩
  · cases earlier

theorem hasUpdateHost_of_mem_builtin : ∀ p ∈ Plugin.builtin,
    p.name ≠ Plugin.defaultMark ++ Plugin.customName ∧
      (p.HasUpdateHost ↔ p.name ≠ Plugin.customName) := by
  decide +kernel

theorem defaultMark_append_ne_customName (name : String) :
    Plugin.defaultMark ++ name ≠ Plugin.customName := by
  intro same
  -- Their first letters differ.
  have letters := congrArg String.toList same
  simp [Plugin.defaultMark, Plugin.customName] at letters

/-- Only the name of the plugin behind custom sections finds a plugin without an update host. -/
theorem hasUpdateHost_of_find? {name : String} {p : Plugin}
    (found : builtin.find? name = some p) : p.HasUpdateHost ↔ name ≠ Plugin.customName := by
  obtain ⟨listed, named⟩ := mem_builtin_of_find? found
  obtain ⟨unmarked, hosted⟩ := hasUpdateHost_of_mem_builtin p listed
  rw [hosted]
  rcases named with rfl | marked
  · rfl
  · refine iff_of_true ?_ ?_
    · rw [marked]
      exact defaultMark_append_ne_customName name
    · rintro rfl
      exact unmarked marked

end PluginRegistry

namespace Section.Loads

variable {find : String → Option Plugin} {record : ProviderRecord}

theorem merged {s : Section} (loads : s.Loads find record) :
    ∃ name plugin, s.pluginName? = some name ∧ find name = some plugin ∧
      ∃ defaults, Targets.ofPlugin plugin = .ok defaults ∧
        ∃ targets, defaults.forSection s.migrated = .ok targets ∧
          ∃ hostnames, ProviderRecord.assemble plugin s.migrated targets hostnames = record := by
  obtain ⟨mended, ⟨name, plugin, asked, found⟩, -⟩ := Section.accepted loads.accepted
  have built := loads.built
  rw [mended, ProviderRecord.value_build (s.migrated_pluginName?.trans asked) found] at built
  obtain ⟨defaults, taken, hostnames, -, targets, own, same⟩ :=
    ProviderRecord.merge_eq_ok_iff.mp built
  exact ⟨name, plugin, asked, found, defaults, taken, targets, own, hostnames, same⟩

/-- The checks of a custom section see to it that its record has an update host. -/
theorem hasUpdateHost_custom {s : CustomSection} (loads : (Section.custom s).Loads find record) :
    record.kind = .custom ∧ record.HasUpdateHost := by
  have hosted := hasUpdateHost_of_accepted loads.accepted
  obtain ⟨_, plugin, -, -, defaults, -, targets, own, hostnames, rfl⟩ := loads.merged
  refine ⟨rfl, ?_⟩
  unfold CustomSection.hasUpdateHost at hosted
  split at hosted
  · cases hosted
  · rename_i server given
    have host : targets.update.name.text = Endpoint.hostPart server :=
      Targets.update_overrideBy given own
    intro blank
    simp only [ProviderRecord.assemble, host] at blank
    simp [blank] at hosted

/-- The record of a provider section has its title and the update host of its plugin. -/
theorem hasUpdateHost_provider {s : ProviderSection}
    (loads : (Section.provider s).Loads find record) :
    record.kind = .provider ∧ s.name = some record.name ∧
      ∃ plugin, find record.name = some plugin ∧ (record.HasUpdateHost ↔ plugin.HasUpdateHost) := by
  obtain ⟨name, plugin, asked, found, defaults, taken, targets, own, hostnames, rfl⟩ :=
    loads.merged
  cases own
  have title : s.name.filter (· ≠ "") = some name := asked
  have named : (ProviderRecord.assemble plugin (Section.provider s).migrated defaults
      hostnames).name = name := by
    simp only [ProviderRecord.assemble, ProviderRecord.titleOf, Section.migrated, Section.common,
      ProviderSection.migrated_name, title, Option.getD_some]
  refine ⟨rfl, ?_, plugin, ?_, ?_⟩
  · rw [named]
    exact Option.eq_some_of_filter_eq_some title
  · rw [named]
    exact found
  · simp only [ProviderRecord.HasUpdateHost, Plugin.HasUpdateHost, ProviderRecord.assemble,
      Targets.update_ofPlugin taken]

end Section.Loads

/-- Among the records of sections that load, those of provider sections under the name of the
    plugin behind custom sections have no update host, and all others have one. -/
theorem Section.Loads.hasUpdateHost_builtin {s : Section} {record : ProviderRecord}
    (loads : s.Loads PluginRegistry.builtin.find? record) :
    (record.HasUpdateHost ↔ ¬ s.TitledCustom) ∧
      (record.HasUpdateHost ↔ ¬ (record.kind = .provider ∧ record.name = Plugin.customName)) := by
  cases s with
  | custom s =>
      obtain ⟨kind, hosted⟩ := loads.hasUpdateHost_custom
      rw [kind]
      exact ⟨iff_of_true hosted not_false, iff_of_true hosted fun both => by cases both.1⟩
  | provider s =>
      obtain ⟨kind, title, plugin, found, hosted⟩ := loads.hasUpdateHost_provider
      rw [hosted, PluginRegistry.hasUpdateHost_of_find? found, TitledCustom, title, kind]
      exact ⟨not_congr Option.some_inj.symm, not_congr (and_iff_right rfl).symm⟩

namespace LoadedConfig

/-- Of a configuration that loads with the built-in plugins, exactly the records of provider
    sections titled like the plugin behind custom sections have no update host. So every record has
    one exactly when no provider section has that title. -/
theorem hasUpdateHost_iff {overrides : Overrides} {origin : String} {config : Config}
    {loaded : LoadedConfig}
    (succeeded : (ofConfig PluginRegistry.builtin.lookup overrides origin config).value =
      .ok loaded) :
    (∀ record ∈ loaded.providers.records, record.HasUpdateHost ↔
      ¬ (record.kind = .provider ∧ record.name = Plugin.customName)) ∧
    ((∀ record ∈ loaded.providers.records, record.HasUpdateHost) ↔
      ∀ s ∈ config.providers, s.name ≠ some Plugin.customName) := by
  have related := loads_of_ofConfig succeeded
  refine ⟨?_, ?_, ?_⟩
  · intro record listed
    obtain ⟨s, -, loads⟩ := exists_of_mem_right related listed
    exact loads.hasUpdateHost_builtin.2
  · intro hosted s member
    obtain ⟨record, listed, loads⟩ :=
      exists_of_mem_left related (List.mem_append_left _ (List.mem_map_of_mem member))
    exact loads.hasUpdateHost_builtin.1.mp (hosted record listed)
  · intro untitled record listed
    obtain ⟨s, member, loads⟩ := exists_of_mem_right related listed
    apply loads.hasUpdateHost_builtin.1.mpr
    rcases List.mem_append.mp member with provider | custom
    · obtain ⟨s, inFile, rfl⟩ := List.mem_map.mp provider
      exact untitled s inFile
    · obtain ⟨s, -, rfl⟩ := List.mem_map.mp custom
      exact not_false

/-- A provider section and a custom section, each with an update host. -/
def oneOfEachKind : Config where
  providers := [
    { name := some "no-ip.com", username := some "u", password := some "p",
      hostname := ["h.no-ip.com"] }]
  customs := [
    { common := { hostname := ["home.example.net"] }, ddnsServer := some "update.example.net" }]

theorem hasUpdateHost_oneOfEachKind :
    ∃ loaded, (ofConfig PluginRegistry.builtin.lookup {} inlineOrigin oneOfEachKind).value =
        .ok loaded ∧
      loaded.providers.records.length = 2 ∧
      ∀ record ∈ loaded.providers.records, record.HasUpdateHost := by
  obtain ⟨loaded, succeeded⟩ := (ofConfig_ok_iff {} inlineOrigin oneOfEachKind).mpr
    ⟨show oneOfEachKind.checkRefusals PluginRegistry.builtin.find? = [] by decide +kernel,
      by decide +kernel⟩
  refine ⟨loaded, succeeded, (loads_of_ofConfig succeeded).length_eq.symm, ?_⟩
  exact (hasUpdateHost_iff succeeded).2.mpr (by decide +kernel)

/-- A provider section titled like the plugin behind custom sections. -/
def providerTitledCustom : Config where
  providers := [
    { name := some "custom", username := some "u", password := some "p",
      hostname := ["h.example.org"] }]

theorem not_hasUpdateHost_providerTitledCustom :
    ∃ loaded, (ofConfig PluginRegistry.builtin.lookup {} inlineOrigin providerTitledCustom).value =
        .ok loaded ∧
      ∃ record ∈ loaded.providers.records, ¬ record.HasUpdateHost := by
  refine ⟨_, rfl, _, List.mem_singleton.mpr rfl, ?_⟩
  decide +kernel

end LoadedConfig

end DynamicDns
