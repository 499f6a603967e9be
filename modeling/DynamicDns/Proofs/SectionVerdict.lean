import DynamicDns.Validation

/-! # Verdicts on sections

What the checks of a section come to once their trace is left aside: the first
refusal in a fixed order, and the section with its deprecated option mended.
Nothing else of a section changes, so an accepted one still asks for the plugin
that was found for it, and all its hostnames fit.
-/

namespace DynamicDns

variable {find : String → Option Plugin}

namespace ProviderSection

/-- The section with the entries of the deprecated option where they belong. -/
def migrated (s : ProviderSection) : ProviderSection :=
  if s.aliases.isEmpty then s else { s with hostname := s.aliases, aliases := [] }

@[simp] theorem migrated_name (s : ProviderSection) : s.migrated.name = s.name := by
  unfold migrated
  split <;> rfl

@[simp] theorem migrated_username (s : ProviderSection) : s.migrated.username = s.username := by
  unfold migrated
  split <;> rfl

@[simp] theorem migrated_password (s : ProviderSection) : s.migrated.password = s.password := by
  unfold migrated
  split <;> rfl

@[simp] theorem migrated_aliases (s : ProviderSection) : s.migrated.aliases = [] := by
  unfold migrated
  split
  · rename_i none
    exact List.isEmpty_iff.mp none
  · rfl

theorem migrated_of_aliases {s : ProviderSection} (unused : s.aliases = []) : s.migrated = s := by
  simp only [migrated, unused, List.isEmpty_nil, if_true]

/-- The refusal of a section that uses both names of the hostname list. -/
def aliasRefusal? (s : ProviderSection) : Option SectionError :=
  if !s.aliases.isEmpty && !s.hostname.isEmpty then some .aliasConflict else none

theorem aliasRefusal?_eq_none_iff {s : ProviderSection} :
    s.aliasRefusal? = none ↔ s.aliases = [] ∨ s.hostname = [] := by
  simp [aliasRefusal?, Decidable.imp_iff_not_or]

/-- Without a conflict, a mended section has the entries of both options. -/
theorem hostname_migrated {s : ProviderSection} (lists : s.aliases = [] ∨ s.hostname = []) :
    s.migrated.hostname = s.hostname ++ s.aliases := by
  unfold migrated
  split
  · rename_i none
    rw [List.isEmpty_iff.mp none, List.append_nil]
  · rename_i some
    rw [lists.resolve_left (mt List.isEmpty_iff.mpr some), List.nil_append]

/-- The refusal of a provider section that lacks a credential. -/
def credentialRefusal? (kind : SectionKind) (provider : String) (s : ProviderSection) :
    Option SectionError :=
  if kind = .provider then s.missingCredential? provider else none

/-- The refusal of a name that no plugin answers to. -/
def pluginRefusal? (find : String → Option Plugin) (provider : String) : Option SectionError :=
  if (find provider).isNone then some (.unknownProvider provider) else none

/-- The first refusal among the checks that sections of both kinds share. -/
def commonRefusal? (find : String → Option Plugin) (kind : SectionKind) (provider : String)
    (s : ProviderSection) : Option SectionError :=
  s.aliasRefusal?.or <| (s.credentialRefusal? kind provider).or <|
    (pluginRefusal? find provider).or <| checkHostnames provider s.migrated.hostname

theorem value_migrateAlias (s : ProviderSection) :
    s.migrateAlias.value = match s.aliasRefusal? with
      | some e => .error e
      | none => .ok (s.migrated, !s.aliases.isEmpty) := by
  unfold migrateAlias aliasRefusal? migrated
  cases s.aliases.isEmpty with
  | true => rfl
  | false => cases s.hostname.isEmpty <;> rfl

/-- Both names of the list in use leave the section as it was; every later check sees it mended. -/
theorem value_checkCommon (kind : SectionKind) (provider : String) (s : ProviderSection) :
    (s.checkCommon find kind provider).value =
      ⟨if s.aliasRefusal?.isSome then s else s.migrated, s.commonRefusal? find kind provider⟩ := by
  have credentials : (if kind = .provider then s.migrated.missingCredential? provider else none) =
      s.credentialRefusal? kind provider := by
    simp only [credentialRefusal?, missingCredential?, migrated_username, migrated_password]
  simp only [checkCommon, Traced.value_bind, value_migrateAlias, commonRefusal?]
  cases s.aliasRefusal? with
  | some e => rfl
  | none =>
      simp only [credentials, Option.isSome_none, Bool.false_eq_true, if_false, Option.none_or]
      cases s.credentialRefusal? kind provider with
      | some e => rfl
      | none => cases found : find provider <;> simp [pluginRefusal?, found]

theorem value_validate (s : ProviderSection) :
    (s.validate find).value = match s.name.filter (· ≠ "") with
      | none => ⟨s, some .missingName⟩
      | some provider => (s.checkCommon find .provider provider).value := by
  unfold validate
  cases s.name.filter (· ≠ "") <;> rfl

end ProviderSection

namespace CustomSection

/-- The section with the entries of the deprecated option where they belong. -/
def migrated (s : CustomSection) : CustomSection :=
  { s with common := s.common.migrated }

theorem value_validate (s : CustomSection) :
    (s.validate find).value = if s.hasUpdateHost then
        ⟨{ s with common := (s.common.checkCommon find .custom Plugin.customName).value.result },
          (s.common.checkCommon find .custom Plugin.customName).value.error⟩
      else ⟨s, some .missingServer⟩ := by
  unfold validate
  cases s.hasUpdateHost <;> rfl

/-- Of the options of its own a custom section keeps all, accepted or not. -/
theorem result_eq (find : String → Option Plugin) (s : CustomSection) :
    (s.validate find).value.result =
      { s with common := (s.validate find).value.result.common } := by
  rw [value_validate]
  split <;> rfl

end CustomSection

theorem checkHostnames_fit {provider : String} {hostnames : List String}
    (accepted : checkHostnames provider hostnames = none) :
    ∀ hostname ∈ hostnames, hostname.utf8ByteSize ≤ Limits.nameBytes := by
  intro hostname member
  unfold checkHostnames at accepted
  split at accepted
  · cases accepted
  · simp only [Option.map_eq_none_iff, List.find?_eq_none, decide_eq_true_eq] at accepted
    exact Nat.not_lt.mp (accepted hostname member)

namespace ProviderSection

theorem commonRefusal?_eq_none {kind : SectionKind} {provider : String} {s : ProviderSection}
    (accepted : s.commonRefusal? find kind provider = none) :
    s.aliasRefusal? = none ∧ (∃ plugin, find provider = some plugin) ∧
      ∀ hostname ∈ s.migrated.hostname, hostname.utf8ByteSize ≤ Limits.nameBytes := by
  simp only [commonRefusal?, Option.or_eq_none_iff] at accepted
  obtain ⟨noConflict, -, known, fit⟩ := accepted
  refine ⟨noConflict, ?_, checkHostnames_fit fit⟩
  cases found : find provider with
  | none => simp [pluginRefusal?, found] at known
  | some plugin => exact ⟨plugin, rfl⟩

end ProviderSection

namespace Section

/-- The section with the entries of the deprecated option where they belong. -/
def migrated : Section → Section
  | .provider s => .provider s.migrated
  | .custom s => .custom s.migrated

theorem value_validate_provider (s : ProviderSection) :
    ((Section.provider s).validate find).value =
      ⟨.provider (s.validate find).value.result, (s.validate find).value.error⟩ := rfl

theorem value_validate_custom (s : CustomSection) :
    ((Section.custom s).validate find).value =
      ⟨.custom (s.validate find).value.result, (s.validate find).value.error⟩ := rfl

@[simp] theorem migrated_pluginName? (s : Section) : s.migrated.pluginName? = s.pluginName? := by
  cases s with
  | provider s => simp only [migrated, pluginName?, ProviderSection.migrated_name]
  | custom s => rfl

/-- The section with other options in the place of those that both kinds have. -/
def withCommon : Section → ProviderSection → Section
  | .provider _, common => .provider common
  | .custom s, common => .custom { s with common }

theorem withCommon_migrated (s : Section) : s.withCommon s.common.migrated = s.migrated := by
  cases s <;> rfl

theorem withCommon_common (s : Section) : s.withCommon s.common = s := by
  cases s <;> rfl

theorem migrated_common (s : Section) : s.migrated.common = s.common.migrated := by
  cases s <;> rfl

theorem migrated_aliases (s : Section) : s.migrated.common.aliases = [] := by
  rw [migrated_common, ProviderSection.migrated_aliases]

theorem migrated_of_aliases {s : Section} (unused : s.common.aliases = []) : s.migrated = s := by
  cases s with
  | provider s => exact congrArg Section.provider (ProviderSection.migrated_of_aliases unused)
  | custom s =>
      have common : s.common.migrated = s.common := ProviderSection.migrated_of_aliases unused
      simp only [migrated, CustomSection.migrated, common]

/-- The check that comes before the deprecated option is mended does not refuse the section. -/
def ReachesAlias : Section → Prop
  | .provider s => s.name.filter (· ≠ "") ≠ none
  | .custom s => s.hasUpdateHost = true

instance : DecidablePred ReachesAlias
  | .provider _ => inferInstanceAs (Decidable (_ ≠ _))
  | .custom _ => inferInstanceAs (Decidable (_ = _))

/-- What that check refuses sections of either kind for. -/
def firstRefusal : SectionKind → SectionError
  | .provider => .missingName
  | .custom => .missingServer

theorem validate_of_unreached (find : String → Option Plugin) {s : Section}
    (stops : ¬ s.ReachesAlias) :
    s.validate find = pure ⟨s, some (firstRefusal s.kind)⟩ := by
  cases s with
  | provider s =>
      have untitled : s.name.filter (· ≠ "") = none := Decidable.not_not.mp stops
      simp only [validate, ProviderSection.validate, untitled]
      rfl
  | custom s =>
      have hostless : s.hasUpdateHost = false := Bool.eq_false_iff.mpr stops
      simp only [validate, CustomSection.validate, hostless]
      rfl

/-- Sections of both kinds go on to the checks that they share, under the name of a plugin. -/
theorem validate_of_reached (find : String → Option Plugin) {s : Section}
    (reaches : s.ReachesAlias) :
    ∃ provider, s.pluginName? = some provider ∧ s.validate find = do
      let verdict ← s.common.checkCommon find s.kind provider
      return ⟨s.withCommon verdict.result, verdict.error⟩ := by
  cases s with
  | provider s =>
      obtain ⟨provider, title⟩ := Option.ne_none_iff_exists'.mp reaches
      refine ⟨provider, title, ?_⟩
      simp only [validate, ProviderSection.validate, title]
      rfl
  | custom s =>
      have hosted : s.hasUpdateHost = true := reaches
      refine ⟨_, rfl, ?_⟩
      simp only [validate, CustomSection.validate, hosted, Bool.not_true, Bool.false_eq_true,
        if_false, bind_assoc]
      rfl

theorem value_validate_of_reached (find : String → Option Plugin) {s : Section}
    (reaches : s.ReachesAlias) :
    ∃ provider, s.pluginName? = some provider ∧ (s.validate find).value =
      ⟨if s.common.aliasRefusal?.isSome then s else s.migrated,
        s.common.commonRefusal? find s.kind provider⟩ := by
  obtain ⟨provider, asked, shared⟩ := validate_of_reached find reaches
  refine ⟨provider, asked, ?_⟩
  simp only [shared, Traced.value_bind, Traced.value_pure, ProviderSection.value_checkCommon,
    apply_ite s.withCommon, withCommon_common, withCommon_migrated]

/-- Accepted or not, a section keeps its title. -/
theorem result_title (find : String → Option Plugin) (s : Section) :
    (s.validate find).value.result.common.name = s.common.name := by
  by_cases reaches : s.ReachesAlias
  · obtain ⟨provider, -, verdict⟩ := value_validate_of_reached find reaches
    rw [verdict]
    split
    · rfl
    · rw [migrated_common, ProviderSection.migrated_name]
  · rw [validate_of_unreached find reaches, Traced.value_pure]

theorem reachesAlias_of_accepted {s : Section} (accepted : (s.validate find).value.error = none) :
    s.ReachesAlias := by
  refine Decidable.byContradiction fun stops => ?_
  rw [validate_of_unreached find stops] at accepted
  cases accepted

theorem hasUpdateHost_of_accepted {s : CustomSection}
    (accepted : ((Section.custom s).validate find).value.error = none) :
    s.hasUpdateHost = true :=
  reachesAlias_of_accepted accepted

/-- An accepted section is mended, and no check that sections of both kinds share refuses it. -/
theorem common_of_accepted {s : Section} (accepted : (s.validate find).value.error = none) :
    (s.validate find).value.result = s.migrated ∧
      ∃ name, s.pluginName? = some name ∧ s.common.commonRefusal? find s.kind name = none := by
  obtain ⟨name, asked, verdict⟩ := value_validate_of_reached find (reachesAlias_of_accepted accepted)
  rw [verdict] at accepted ⊢
  have noConflict := (ProviderSection.commonRefusal?_eq_none accepted).1
  refine ⟨?_, name, asked, accepted⟩
  simp only [noConflict, Option.isSome_none, Bool.false_eq_true, if_false]

/-- The plugin of an accepted section is there, and its hostnames fit. -/
theorem accepted {s : Section} (accepted : (s.validate find).value.error = none) :
    (s.validate find).value.result = s.migrated ∧
      (∃ name plugin, s.pluginName? = some name ∧ find name = some plugin) ∧
      ∀ hostname ∈ s.migrated.common.hostname, hostname.utf8ByteSize ≤ Limits.nameBytes := by
  obtain ⟨mended, name, asked, passed⟩ := common_of_accepted accepted
  obtain ⟨-, ⟨plugin, found⟩, fit⟩ := ProviderSection.commonRefusal?_eq_none passed
  rw [migrated_common]
  exact ⟨mended, ⟨name, plugin, asked, found⟩, fit⟩

end Section

end DynamicDns
