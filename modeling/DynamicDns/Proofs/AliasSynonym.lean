import DynamicDns.Plugin.Builtin
import DynamicDns.Proofs.AskedPlugins

/-! # The deprecated option is a synonym

A configuration and the same one with entries of the deprecated option moved, by
hand, to where they belong. Sections with the entries moved are refused for the
same reasons, and mended they are equal. So the loads differ in nothing but the
warnings that entries were moved.
-/

namespace DynamicDns

/-! ## Configurations with entries moved -/

/-- The same section, or one with its entries of the deprecated option moved, where the option for
    them is unused. -/
inductive ProviderSection.MovesAlias (s : ProviderSection) : ProviderSection → Prop where
  | kept : MovesAlias s s
  | moved (unused : s.hostname = []) : MovesAlias s { s with hostname := s.aliases, aliases := [] }

inductive CustomSection.MovesAlias (s : CustomSection) : CustomSection → Prop where
  | mk {common : ProviderSection} (moves : s.common.MovesAlias common) :
    MovesAlias s { s with common }

inductive Section.MovesAlias : Section → Section → Prop where
  | provider {s t : ProviderSection} (moves : s.MovesAlias t) :
    MovesAlias (.provider s) (.provider t)
  | custom {s t : CustomSection} (moves : s.MovesAlias t) : MovesAlias (.custom s) (.custom t)

/-- The same configuration with entries of the deprecated option moved in some sections. -/
inductive Config.MovesAlias (c : Config) : Config → Prop where
  | mk {providers : List ProviderSection} {customs : List CustomSection}
    (movedProviders : List.Forall₂ ProviderSection.MovesAlias c.providers providers)
    (movedCustoms : List.Forall₂ CustomSection.MovesAlias c.customs customs) :
    MovesAlias c { c with providers, customs }

/-! ## Checks -/

namespace ProviderSection

namespace MovesAlias

variable {s t : ProviderSection}

theorem migrated_eq (moves : s.MovesAlias t) : s.migrated = t.migrated := by
  cases moves with
  | kept => rfl
  | moved unused =>
      obtain ⟨name, username, password, hostname, aliases, ssl, wildcard⟩ := s
      cases unused
      cases aliases <;> rfl

theorem aliasRefusal?_eq (moves : s.MovesAlias t) : s.aliasRefusal? = t.aliasRefusal? := by
  cases moves with
  | kept => rfl
  | moved unused => simp [aliasRefusal?, unused]

theorem refusal?_eq (moves : s.MovesAlias t) (find : String → Option Plugin) (kind : SectionKind)
    (provider : String) :
    s.commonRefusal? find kind provider = t.commonRefusal? find kind provider := by
  have credentials : s.credentialRefusal? kind provider = t.credentialRefusal? kind provider := by
    cases moves <;> rfl
  rw [commonRefusal?, commonRefusal?, moves.aliasRefusal?_eq, credentials, moves.migrated_eq]

end MovesAlias

end ProviderSection

theorem CustomSection.MovesAlias.migrated_eq {s t : CustomSection} (moves : s.MovesAlias t) :
    s.migrated = t.migrated := by
  obtain ⟨moves⟩ := moves
  simp only [migrated, moves.migrated_eq]

theorem Section.ReachesPlugin.hostname_migrated {s : Section} (reaches : s.ReachesPlugin) :
    s.migrated.common.hostname = s.common.hostname ++ s.common.aliases := by
  cases s with
  | provider s => exact ProviderSection.hostname_migrated reaches.2.1
  | custom s => exact ProviderSection.hostname_migrated reaches.2

namespace Section.MovesAlias

variable {s t : Section}

theorem title_eq (moves : s.MovesAlias t) : s.common.name = t.common.name := by
  cases moves with
  | provider moves => cases moves <;> rfl
  | custom moves =>
      obtain ⟨moves⟩ := moves
      cases moves <;> rfl

theorem error_eq (moves : s.MovesAlias t) (find : String → Option Plugin) :
    (s.validate find).value.error = (t.validate find).value.error := by
  cases moves with
  | @provider s t moves =>
      have title : s.name = t.name := by cases moves <;> rfl
      simp only [value_validate_provider, ProviderSection.value_validate, title]
      cases t.name.filter (· ≠ "") with
      | none => rfl
      | some provider => simp only [ProviderSection.value_checkCommon, moves.refusal?_eq]
  | @custom s t moves =>
      obtain @⟨common, moves⟩ := moves
      have hosted : { s with common }.hasUpdateHost = s.hasUpdateHost := rfl
      simp only [value_validate_custom, CustomSection.value_validate, hosted,
        ProviderSection.value_checkCommon, moves.refusal?_eq]
      cases s.hasUpdateHost <;> rfl

theorem asked?_eq (moves : s.MovesAlias t) : s.asked? = t.asked? := by
  cases moves with
  | provider moves =>
      cases moves with
      | kept => rfl
      | moved unused => simp [asked?, ReachesPlugin, pluginName?, unused]
  | custom moves =>
      obtain ⟨moves⟩ := moves
      cases moves with
      | kept => rfl
      | moved unused =>
          simp [asked?, ReachesPlugin, pluginName?, unused, CustomSection.hasUpdateHost]

/-- The checks refuse both sections for the same reason, and ask for the same plugins. -/
theorem validate_agree (moves : s.MovesAlias t) (find : String → Option Plugin) :
    Traced.Agree False (fun v w => v.error = w.error) (s.validate find) (t.validate find) :=
  ⟨moves.error_eq find, by rw [lookups_validate, lookups_validate, moves.asked?_eq], False.elim⟩

end Section.MovesAlias

namespace Config

variable {c d : Config}

/-- The same places, with entries of the deprecated option moved in some of the sections there. -/
abbrev SectionsMoved (c d : Config) : Prop :=
  List.Forall₂ (fun a b => a.1 = b.1 ∧ a.2.MovesAlias b.2) c.sections d.sections

namespace SectionsMoved

theorem sections_snd (moved : c.SectionsMoved d) :
    List.Forall₂ Section.MovesAlias (c.sections.map Prod.snd) (d.sections.map Prod.snd) := by
  rw [List.forall₂_map_left_iff, List.forall₂_map_right_iff]
  exact moved.imp fun _ _ related => related.2

theorem refused_eq (moved : c.SectionsMoved d) (find : Lookup) :
    (c.validate find).value.2 = (d.validate find).value.2 := by
  have places := map_eq_of_forall₂ moved fun _ _ related => related.1
  have verdicts : Traced.Agree False _ (c.verdicts find) (d.verdicts find) :=
    .each moved.sections_snd (fun earlier _ _ moves => moves.validate_agree (find earlier)) 0
  have errors := map_eq_of_forall₂ verdicts.value fun _ _ same => same
  rw [refused_verdicts, refused_verdicts, places, errors]

theorem asked_eq (moved : c.SectionsMoved d) : c.asked = d.asked :=
  filterMap_eq_of_forall₂ moved.sections_snd fun _ _ moves => moves.asked?_eq

end SectionsMoved

namespace MovesAlias

theorem sections (moves : c.MovesAlias d) : c.SectionsMoved d := by
  obtain ⟨movedProviders, movedCustoms⟩ := moves
  exact forall₂_sections (fun _ _ => Section.MovesAlias.title_eq)
    (movedProviders.imp fun _ _ => .provider) (movedCustoms.imp fun _ _ => .custom)

theorem mended_eq (moves : c.MovesAlias d) : c.mended = d.mended := by
  obtain ⟨movedProviders, movedCustoms⟩ := moves
  have providers := map_eq_of_forall₂ movedProviders fun _ _ moves => moves.migrated_eq
  have customs := map_eq_of_forall₂ movedCustoms fun _ _ moves => moves.migrated_eq
  simp only [mended, providers, customs]

end MovesAlias

end Config

/-! ## Warnings -/

/-- Whether this is the warning that entries of the deprecated option were moved. -/
def Event.isAliasWarning : Event → Bool
  | .aliasMigrated _ => true
  | _ => false

namespace Traced

variable {α β : Type}

/-- All events but the warnings that entries of the deprecated option were moved. -/
def otherEvents (x : Traced α) : List Event := x.events.filter (!·.isAliasWarning)

theorem otherEvents_bind (x : Traced α) (f : α → Traced β) :
    (x >>= f).otherEvents = x.otherEvents ++ (f x.value).otherEvents :=
  List.filter_append ..

/-- Nothing but warnings that entries were moved. -/
def WarnsOfAlias (x : Traced α) : Prop := ∀ event ∈ x.events, event.isAliasWarning

theorem WarnsOfAlias.otherEvents_eq_nil {x : Traced α} (warns : x.WarnsOfAlias) :
    x.otherEvents = [] :=
  List.filter_eq_nil_iff.mpr fun event member => by simp [warns event member]

end Traced

namespace ProviderSection

variable (find : String → Option Plugin) (s : ProviderSection)

theorem migrateAlias_warns : s.migrateAlias.WarnsOfAlias := by
  unfold migrateAlias
  cases s.aliases.isEmpty with
  | true => simp [Traced.WarnsOfAlias]
  | false =>
      cases s.hostname.isEmpty with
      | true =>
          intro event member
          cases List.mem_singleton.mp member
          rfl
      | false => simp [Traced.WarnsOfAlias]

theorem events_checkCommon (kind : SectionKind) (provider : String) :
    (s.checkCommon find kind provider).events = s.migrateAlias.events := by
  simp only [checkCommon, Traced.events_bind]
  cases s.migrateAlias.value with
  | error e => exact List.append_nil _
  | ok mended =>
      obtain ⟨s, _⟩ := mended
      dsimp only
      split
      · exact List.append_nil _
      · cases find provider <;> simp

theorem validate_warns : (s.validate find).WarnsOfAlias := by
  unfold validate
  cases s.name.filter (· ≠ "") with
  | none => simp [Traced.WarnsOfAlias]
  | some provider =>
      rw [Traced.WarnsOfAlias, events_checkCommon]
      exact s.migrateAlias_warns

end ProviderSection

theorem CustomSection.validate_warns (find : String → Option Plugin) (s : CustomSection) :
    (s.validate find).WarnsOfAlias := by
  unfold validate
  cases s.hasUpdateHost with
  | false => simp [Traced.WarnsOfAlias]
  | true =>
      simp only [Traced.WarnsOfAlias, Bool.not_true, Bool.false_eq_true, if_false,
        Traced.events_bind, Traced.events_pure, List.append_nil, ProviderSection.events_checkCommon]
      exact s.common.migrateAlias_warns

/-- Else the checks of a configuration tell only of its period. -/
theorem Config.otherEvents_validate (find : Lookup) (config : Config) :
    (config.validate find).otherEvents = (Traced.emitIf
      ((clampPeriod config.period : Int) ≠ config.period)
      (.periodClamped config.period (clampPeriod config.period))).otherEvents := by
  have providers : (Traced.each (fun earlier s => ProviderSection.validate (find earlier) s) 0
      config.providers).WarnsOfAlias :=
    Traced.forall_events_each (fun earlier s => s.validate_warns (find earlier)) 0 _
  have customs (earlier : Nat) : (Traced.each
      (fun earlier s => CustomSection.validate (find earlier) s) earlier
      config.customs).WarnsOfAlias :=
    Traced.forall_events_each (fun earlier s => s.validate_warns (find earlier)) earlier _
  simp only [validate, Traced.otherEvents_bind, providers.otherEvents_eq_nil,
    (customs _).otherEvents_eq_nil, List.nil_append]
  exact List.append_nil _

/-! ## Loads -/

namespace LoadedConfig

/-- What a load does after the checks: builds, if nothing is refused. -/
def afterChecks (find : Lookup) (overrides : Overrides) (origin : String) (earlier : Nat) :
    Config × List Diagnostic → Traced (Except LoadError LoadedConfig)
  | (config, refused) =>
    if !refused.isEmpty then reject origin refused
    else do
      let global := GlobalConfig.ofConfig config overrides
      let (providers, refused) ← createAll find earlier ProviderRegistry.empty config.sections
      if !refused.isEmpty then reject origin refused
      else
        Traced.emit (.configLoaded providers.size origin global.updatePeriod)
        return .ok { global, providers }

theorem ofConfig_eq (find : Lookup) (overrides : Overrides) (origin : String) (config : Config) :
    ofConfig find overrides origin config = config.validate find >>=
      afterChecks find overrides origin (config.validate find).lookups.length :=
  rfl

/-- If sections are refused, nothing else of the configuration is seen. -/
theorem afterChecks_eq {c d : Config} (moves : c.MovesAlias d) (find : Lookup)
    (overrides : Overrides) (origin : String) (earlier : Nat) :
    afterChecks find overrides origin earlier (c.validate find).value =
      afterChecks find overrides origin earlier (d.validate find).value := by
  have refused := moves.sections.refused_eq find
  by_cases unrefused : (d.validate find).value.2 = []
  · have checked : (c.validate find).value = (d.validate find).value := by
      refine Prod.ext ?_ refused
      rw [Config.checked_of_unrefused unrefused, ← moves.mended_eq]
      exact Config.checked_of_unrefused (refused.trans unrefused)
    rw [checked]
  · have rejected {checked : Config × List Diagnostic} (some : checked.2 ≠ []) :
        afterChecks find overrides origin earlier checked = reject origin checked.2 := by
      simp [afterChecks, some]
    rw [rejected unrefused, rejected (refused ▸ unrefused), refused]

/-- The record of a section has the entries of both options, from the first one on, as many as it
    holds. -/
theorem hostnames_of_loaded {find : Lookup} {overrides : Overrides} {origin : String}
    {config : Config} {loaded : LoadedConfig}
    (succeeded : (ofConfig find overrides origin config).value = .ok loaded) :
    List.Forall₂ (fun s record => record.hostnames.items.map BoundedString.text =
        (s.common.hostname ++ s.common.aliases).take 50)
      (config.sections.map Prod.snd) loaded.providers.records := by
  have all := Config.allReachPlugin_of_unrefused (phases_of_loaded succeeded).1
  refine ((List.forall₂_and_left _ _).mpr ⟨all, builds_of_loaded succeeded⟩).imp ?_
  rintro s record ⟨reaches, told, built⟩
  obtain ⟨plugin, defaults, targets, hostnames, -, -, keeps, rfl⟩ :=
    ProviderRecord.merged_of_build built.symm
  rw [← reaches.hostname_migrated]
  exact ProviderRecord.texts_of_keepHostnames keeps

/-- The deprecated option is a synonym of the one for hostnames. Under any lookup, be it one that
    changes its answers, the load of a configuration and that of the same one with entries of the
    deprecated option moved come to the same, refusals or records, ask for the same plugins and have
    the same events but for the warnings that entries were moved. A record has the entries of both
    options, from the first one on, as many as it holds. -/
theorem ofConfig_alias_synonym (find : Lookup) (overrides : Overrides) (origin : String)
    {c d : Config} (moves : c.MovesAlias d) :
    let first := ofConfig find overrides origin c
    let second := ofConfig find overrides origin d
    first.value = second.value ∧ first.lookups = second.lookups ∧
    first.otherEvents = second.otherEvents ∧
    ∀ loaded, first.value = .ok loaded →
      List.Forall₂ (fun s record => record.hostnames.items.map BoundedString.text =
          (s.common.hostname ++ s.common.aliases).take 50)
        (c.sections.map Prod.snd) loaded.providers.records := by
  have lookups : (c.validate find).lookups = (d.validate find).lookups := by
    rw [Config.lookups_validate, Config.lookups_validate, Config.lookups_verdicts,
      Config.lookups_verdicts, moves.sections.asked_eq]
  have period : d.period = c.period := by cases moves; rfl
  have checks : (c.validate find).otherEvents = (d.validate find).otherEvents := by
    rw [Config.otherEvents_validate, Config.otherEvents_validate, period]
  have rest := afterChecks_eq moves find overrides origin (d.validate find).lookups.length
  refine ⟨?_, ?_, ?_, fun loaded => hostnames_of_loaded⟩
  · rw [ofConfig_eq, ofConfig_eq, Traced.value_bind, Traced.value_bind, lookups, rest]
  · rw [ofConfig_eq, ofConfig_eq, Traced.lookups_bind, Traced.lookups_bind, lookups, rest]
  · rw [ofConfig_eq, ofConfig_eq, Traced.otherEvents_bind, Traced.otherEvents_bind, lookups, rest,
      checks]

/-- A provider section and a custom section that use the deprecated option. -/
def aliasesOnly : Config where
  providers := [
    { name := some "no-ip.com", username := some "u", password := some "p",
      aliases := ["a.no-ip.com", "b.no-ip.com"] }]
  customs := [
    { ddnsServer := some "update.example.net", common := { aliases := ["h.example.net"] } }]

/-- The same with the entries of the provider section moved. -/
def aliasesMoved : Config where
  providers := [
    { name := some "no-ip.com", username := some "u", password := some "p",
      hostname := ["a.no-ip.com", "b.no-ip.com"] }]
  customs := aliasesOnly.customs

theorem ofConfig_alias_synonym_aliasesOnly :
    let find := PluginRegistry.builtin.lookup
    let first := ofConfig find {} inlineOrigin aliasesOnly
    let second := ofConfig find {} inlineOrigin aliasesMoved
    aliasesOnly.MovesAlias aliasesMoved ∧
    first.events ≠ second.events ∧ first.otherEvents = second.otherEvents ∧
    ∃ loaded, first.value = .ok loaded ∧ second.value = .ok loaded ∧
      loaded.providers.records.map (·.hostnames.items.map BoundedString.text) =
        [["a.no-ip.com", "b.no-ip.com"], ["h.example.net"]] := by
  intro find first second
  have moves : aliasesOnly.MovesAlias aliasesMoved :=
    .mk (.cons (.moved rfl) .nil) (.cons (.mk .kept) .nil)
  obtain ⟨same, -, others, hostnames⟩ := ofConfig_alias_synonym find {} inlineOrigin moves
  obtain ⟨loaded, succeeded⟩ := (ofConfig_ok_iff {} inlineOrigin aliasesOnly).mpr
    ⟨show aliasesOnly.checkRefusals PluginRegistry.builtin.find? = [] by decide +kernel,
      by decide +kernel⟩
  have texts := map_eq_of_forall₂ (hostnames loaded succeeded) fun _ _ same => same.symm
  refine ⟨moves, by decide +kernel, others, loaded, succeeded, same.symm.trans succeeded, ?_⟩
  exact texts.symm.trans (by decide +kernel)

end LoadedConfig

end DynamicDns
