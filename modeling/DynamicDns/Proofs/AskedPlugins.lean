import DynamicDns.Proofs.LoadOutcome

/-! # Plugins that are asked for

Which plugins the checks and the build of a section ask for does not depend on
the answers. Checks ask for one plugin, unless one of the earlier checks refuses
the section; a build asks for one plugin in any case, and for the same. So the
checks of a configuration ask once for each section that gets so far, in the
order of the sections, and builds follow only if nothing was refused.
-/

namespace DynamicDns

namespace ProviderSection

variable {find : String → Option Plugin}

theorem missingCredential?_eq_none_iff {s : ProviderSection} {provider : String} :
    s.missingCredential? provider = none ↔ s.username ≠ none ∧ s.password ≠ none := by
  unfold missingCredential?
  cases s.username with
  | none => simp
  | some username => cases s.password <;> simp

theorem lookups_migrateAlias (s : ProviderSection) : s.migrateAlias.lookups = [] := by
  unfold migrateAlias
  cases s.aliases.isEmpty with
  | true => rfl
  | false => cases s.hostname.isEmpty <;> rfl

/-- The checks of both kinds ask for their plugin if neither the deprecated option nor a credential
    is in the way. -/
theorem lookups_checkCommon (kind : SectionKind) (provider : String) (s : ProviderSection) :
    (s.checkCommon find kind provider).lookups =
      if s.aliasRefusal? = none ∧ s.credentialRefusal? kind provider = none then [provider]
      else [] := by
  have credentials : (if kind = .provider then s.migrated.missingCredential? provider else none) =
      s.credentialRefusal? kind provider := by
    simp only [credentialRefusal?, missingCredential?, migrated_username, migrated_password]
  simp only [checkCommon, Traced.lookups_bind, lookups_migrateAlias, value_migrateAlias,
    List.nil_append]
  cases s.aliasRefusal? with
  | some e => simp
  | none =>
      simp only [credentials]
      cases s.credentialRefusal? kind provider with
      | some e => simp
      | none => cases find provider <;> simp

end ProviderSection

namespace Section

variable {find : String → Option Plugin} {s : Section}

/-- No check that comes before the one for the plugin refuses the section. -/
def ReachesPlugin : Section → Prop
  | .provider s => s.name.filter (· ≠ "") ≠ none ∧ (s.aliases = [] ∨ s.hostname = []) ∧
    s.username ≠ none ∧ s.password ≠ none
  | .custom s => s.hasUpdateHost = true ∧ (s.common.aliases = [] ∨ s.common.hostname = [])

instance : DecidablePred ReachesPlugin
  | .provider _ => inferInstanceAs (Decidable (_ ∧ _ ∧ _ ∧ _))
  | .custom _ => inferInstanceAs (Decidable (_ ∧ _))

/-- The plugin that the checks of a section ask for. -/
def asked? (s : Section) : Option String := if s.ReachesPlugin then s.pluginName? else none

theorem ReachesPlugin.reachesAlias (reaches : s.ReachesPlugin) : s.ReachesAlias := by
  cases s <;> exact reaches.1

theorem reachesPlugin_iff (reaches : s.ReachesAlias) (provider : String) :
    s.ReachesPlugin ↔ s.common.aliasRefusal? = none ∧
      s.common.credentialRefusal? s.kind provider = none := by
  cases s with
  | provider s =>
      have titled : s.name.filter (· ≠ "") ≠ none := reaches
      simp only [ReachesPlugin, titled, ne_eq, not_false_eq_true, true_and, common, kind,
        ProviderSection.aliasRefusal?_eq_none_iff, ProviderSection.credentialRefusal?, if_true,
        ProviderSection.missingCredential?_eq_none_iff]
  | custom s =>
      have hosted : s.hasUpdateHost = true := reaches
      simp only [ReachesPlugin, hosted, true_and, common, kind,
        ProviderSection.aliasRefusal?_eq_none_iff, ProviderSection.credentialRefusal?,
        reduceCtorEq, if_false, and_true]

theorem lookups_validate (find : String → Option Plugin) (s : Section) :
    (s.validate find).lookups = s.asked?.toList := by
  unfold asked?
  by_cases reaches : s.ReachesAlias
  · obtain ⟨provider, asks, shared⟩ := validate_of_reached find reaches
    simp only [shared, Traced.lookups_bind, Traced.lookups_pure, List.append_nil,
      ProviderSection.lookups_checkCommon, reachesPlugin_iff reaches provider, asks]
    split <;> rfl
  · rw [validate_of_unreached find reaches, if_neg (fun further => reaches further.reachesAlias),
      Traced.lookups_pure, Option.toList_none]

theorem asked?_eq (reaches : s.ReachesPlugin) : s.asked? = s.pluginName? := if_pos reaches

theorem pluginName?_of_reachesPlugin (reaches : s.ReachesPlugin) :
    ∃ name, s.pluginName? = some name := by
  cases s with
  | provider s => exact Option.ne_none_iff_exists'.mp reaches.1
  | custom s => exact ⟨_, rfl⟩

/-- The checks before the one for the plugin do not depend on answers. -/
theorem reachesPlugin_of_accepted (accepted : (s.validate find).value.error = none) :
    s.ReachesPlugin := by
  obtain ⟨-, name, -, passed⟩ := common_of_accepted accepted
  rw [reachesPlugin_iff (reachesAlias_of_accepted accepted) name]
  simp only [ProviderSection.commonRefusal?, Option.or_eq_none_iff] at passed
  exact ⟨passed.1, passed.2.1⟩

/-- A section that gets so far is refused if there is no plugin. -/
theorem error_of_no_plugin {name : String} (reaches : s.ReachesPlugin)
    (asks : s.pluginName? = some name) (missing : find name = none) :
    (s.validate find).value.error = some (.unknownProvider name) := by
  obtain ⟨provider, asked, verdict⟩ := value_validate_of_reached find reaches.reachesAlias
  obtain rfl := Option.some.inj (asks.symm.trans asked)
  obtain ⟨unmixed, credentials⟩ := (reachesPlugin_iff reaches.reachesAlias name).mp reaches
  simp only [verdict, ProviderSection.commonRefusal?, unmixed, credentials, Option.none_or,
    ProviderSection.pluginRefusal?, missing, Option.isNone_none, if_true, Option.some_or]

end Section

/-- The steps ask for no plugin, whatever they come to. -/
def Building.AsksNothing {α : Type} (x : Building α) : Prop := x.run.lookups = []

namespace Building.AsksNothing

variable {α β : Type}

theorem pure (a : α) : AsksNothing (Pure.pure a : Building α) := rfl

theorem ofExcept (x : Except SectionError α) : AsksNothing (liftM x : Building α) := rfl

theorem ofTraced {x : Traced α} (silent : x.lookups = []) : AsksNothing (liftM x : Building α) := by
  change x.lookups ++ [] = []
  rw [silent, List.append_nil]

theorem bind {x : Building α} {f : α → Building β} (first : AsksNothing x)
    (second : ∀ a, AsksNothing (f a)) : AsksNothing (x >>= f) := by
  have rest : ∀ outcome : Except SectionError α, (ExceptT.bindCont f outcome).lookups = [] := by
    intro outcome
    cases outcome with
    | ok a => exact second a
    | error e => rfl
  change x.run.lookups ++ (ExceptT.bindCont f x.run.value).lookups = []
  rw [rest, List.append_nil]
  exact first

theorem mapM {f : α → Building β} (each : ∀ a, AsksNothing (f a)) (items : List α) :
    AsksNothing (items.mapM f) := by
  induction items with
  | nil => exact .pure []
  | cons item rest ih =>
      rw [List.mapM_cons]
      exact (each item).bind fun _ => ih.bind fun _ => .pure _

end Building.AsksNothing

namespace ProviderRecord

open Building (AsksNothing)

theorem lookups_keepCredential (provider field : String) (capacity : Nat) (given : Option String) :
    (keepCredential provider field capacity given).lookups = [] := by
  cases given with
  | none => rfl
  | some text =>
      simp only [keepCredential]
      cases BoundedString.ofString capacity text <;> rfl

theorem keepHostnames_asksNothing (provider : String) (hostnames : List String) :
    AsksNothing (keepHostnames provider hostnames) := by
  refine .bind (.mapM (fun name => ?_) _) fun fitting => ?_
  · cases BoundedString.ofString Limits.nameBytes name <;> rfl
  · exact .bind (.ofTraced (Traced.lookups_emitIf _ _)) fun _ => .pure _

theorem lookups_keepResponses (provider : String) (given : List String) (plugin : Plugin) :
    (keepResponses provider given plugin).lookups = [] := by
  unfold keepResponses
  cases given.isEmpty with
  | true => rfl
  | false =>
      simp only [Bool.false_eq_true, if_false, Traced.lookups_bind, Traced.lookups_emitIf,
        Traced.lookups_pure, List.append_nil]

theorem merge_asksNothing (plugin : Plugin) (s : Section) : AsksNothing (merge plugin s) := by
  refine .bind (.ofExcept _) fun defaults => ?_
  refine .bind (.ofTraced (lookups_keepCredential _ _ _ _)) fun username => ?_
  refine .bind (.ofTraced (lookups_keepCredential _ _ _ _)) fun password => ?_
  refine .bind (keepHostnames_asksNothing _ _) fun hostnames => ?_
  cases s with
  | provider s => exact .bind (.pure _) fun parts => .bind (.ofTraced rfl) fun _ => .pure _
  | custom s =>
      refine .bind (.ofExcept _) fun targets => ?_
      refine .bind (.ofTraced (lookups_keepResponses _ _ _)) fun responses => ?_
      exact .bind (.pure _) fun parts => .bind (.ofTraced rfl) fun _ => .pure _

theorem lookups_build (find : String → Option Plugin) (s : Section) :
    (build find s).lookups = s.pluginName?.toList := by
  unfold build
  cases s.pluginName? with
  | none => rfl
  | some name =>
      simp only [Traced.lookups_bind]
      cases find name with
      | none => rfl
      | some plugin => exact congrArg (name :: ·) (merge_asksNothing plugin s)

end ProviderRecord

namespace Config

/-- The plugins that the checks of a configuration ask for. -/
def asked (config : Config) : List String := (config.sections.map Prod.snd).filterMap Section.asked?

theorem lookups_verdicts (find : Lookup) (config : Config) :
    (config.verdicts find).lookups = config.asked :=
  Traced.lookups_each (fun earlier s => s.lookups_validate (find earlier)) 0 _

variable {find : Lookup} {config : Config}

/-- Every section gets as far as to ask for its plugin. -/
def AllReachPlugin (config : Config) : Prop :=
  ∀ s ∈ config.sections.map Prod.snd, s.ReachesPlugin

theorem allReachPlugin_of_unrefused (unrefused : (config.validate find).value.2 = []) :
    config.AllReachPlugin := by
  intro s member
  obtain ⟨v, listed, told, rfl⟩ := exists_of_mem_left (forall₂_verdicts find config) member
  exact Section.reachesPlugin_of_accepted (unrefused_iff_verdicts.mp unrefused _ listed)

namespace AllReachPlugin

theorem named (all : config.AllReachPlugin) :
    ∀ s ∈ config.sections.map Prod.snd, ∃ name, s.pluginName? = some name :=
  fun s member => Section.pluginName?_of_reachesPlugin (all s member)

theorem asked_eq (all : config.AllReachPlugin) :
    config.asked = (config.sections.map Prod.snd).filterMap Section.pluginName? :=
  List.filterMap_congr fun s member => Section.asked?_eq (all s member)

theorem length_asked (all : config.AllReachPlugin) :
    config.asked.length = config.sections.length := by
  have counted : ∀ s ∈ config.sections.map Prod.snd, s.pluginName?.isSome := fun s member =>
    Option.isSome_iff_exists.mpr (all.named s member)
  rw [all.asked_eq, List.length_filterMap_eq_countP, List.countP_eq_length.mpr counted,
    List.length_map]

/-- Each section has the answer of its own place. -/
theorem value_verdicts (all : config.AllReachPlugin) (find : Lookup) :
    (config.verdicts find).value =
      (config.sections.map Prod.snd).zipIdx.map fun (s, i) => (s.validate (find i)).value := by
  refine Traced.value_each_of_asking (fun earlier s => s.lookups_validate (find earlier)) 0 ?_
  intro s member
  obtain ⟨name, asks⟩ := all.named s member
  simp [Section.asked?_eq (all s member), asks]

end AllReachPlugin

end Config

theorem LoadedConfig.lookups_builds (find : Lookup) (earlier : Nat) (sections : List Section) :
    (builds find earlier sections).lookups = sections.filterMap Section.pluginName? :=
  Traced.lookups_each (fun earlier s => ProviderRecord.lookups_build (find earlier) s) earlier _

theorem LoadedConfig.lookups_ofConfig (find : Lookup) (overrides : Overrides) (origin : String)
    (config : Config) :
    (ofConfig find overrides origin config).lookups =
      config.asked ++ if (config.validate find).value.2 ≠ [] then []
        else ((config.validate find).value.1.sections.map Prod.snd).filterMap Section.pluginName? := by
  rw [← lookups_builds find (config.validate find).lookups.length, ← lookups_createAll _ _ .empty,
    ← Config.lookups_verdicts find, ← Config.lookups_validate]
  simp only [ofConfig, Traced.lookups_bind]
  congr 1
  cases (config.validate find).value.2 with
  | cons => rfl
  | nil =>
      simp only [List.isEmpty_nil, Bool.not_true, Bool.false_eq_true, if_false, ne_eq,
        not_true_eq_false, Traced.lookups_bind]
      split <;> exact List.append_nil _

end DynamicDns
