import DynamicDns.Plugin.Builtin
import DynamicDns.Proofs.AskedPlugins

/-! # Loads under answers that change

A lookup may answer differently each time. A load that gets through asks twice
for each section: the `i`-th answer of the first round belongs to the checks of
the `i`-th section, the `i`-th answer of the second round to its build. So if
answers run out, it is known which sections are refused, and by which phase.
-/

namespace DynamicDns

theorem Lookup.upTo_of_lt {limit earlier : Nat} (find : Lookup) (before : earlier < limit) :
    find.upTo limit earlier = find earlier :=
  funext fun _ => if_pos before

theorem Lookup.upTo_of_ge {limit earlier : Nat} (find : Lookup) (after : ¬ earlier < limit) :
    find.upTo limit earlier = fun _ => none :=
  funext fun _ => if_neg after

namespace Config

variable {find : Lookup} {config : Config}

/-- One diagnostic for each of the sections, under its identity: its plugin is not found. -/
def NotFound (error : String → SectionError) :
    List (SectionId × Section) → List Diagnostic → Prop :=
  List.Forall₂ fun (place, s) diagnostic =>
    ∃ name, s.pluginName? = some name ∧ diagnostic = ⟨place, error name⟩

namespace NotFound

variable {error : String → SectionError} {sections : List (SectionId × Section)} {limit : Nat}
  {diagnostics : List Diagnostic}

theorem ne_nil (notFound : NotFound error (sections.drop limit) diagnostics)
    (scarce : limit < sections.length) : diagnostics ≠ [] := by
  rintro rfl
  have lengths := notFound.length_eq
  rw [List.length_drop, List.length_nil] at lengths
  omega

theorem eq_nil (notFound : NotFound error (sections.drop limit) diagnostics)
    (enough : sections.length ≤ limit) : diagnostics = [] := by
  rw [List.drop_eq_nil_of_le enough] at notFound
  exact List.forall₂_nil_left_iff.mp notFound

end NotFound

/-- Where the sections have the answers from `start` on, and those without one are refused, the
    diagnostics are theirs. -/
theorem notFound_report {error : String → SectionError} {sections : List (SectionId × Section)}
    (refusal : Section → Nat → Option SectionError) {limit start : Nat}
    (answered : ∀ s i, (s, i) ∈ (sections.map Prod.snd).zipIdx start → i < limit →
      refusal s i = none)
    (scarce : ∀ s i, (s, i) ∈ (sections.map Prod.snd).zipIdx start → ¬ i < limit →
      ∃ name, s.pluginName? = some name ∧ refusal s i = some (error name)) :
    NotFound error (sections.drop (limit - start)) (report (sections.map Prod.fst)
      (((sections.map Prod.snd).zipIdx start).map fun (s, i) => refusal s i)) := by
  induction sections generalizing start with
  | nil => simp [report, NotFound]
  | cons first rest ih =>
      obtain ⟨place, s⟩ := first
      rw [List.map_cons, List.zipIdx_cons] at answered scarce
      have later := ih (fun s i member => answered s i (List.mem_cons_of_mem _ member))
        (fun s i member => scarce s i (List.mem_cons_of_mem _ member))
      simp only [List.map_cons, List.zipIdx_cons, report_cons]
      -- As long as there are answers, the limit comes closer; then nothing is dropped any more.
      by_cases before : start < limit
      · have next : limit - start = limit - (start + 1) + 1 := by omega
        rw [answered s start List.mem_cons_self before, next, List.drop_succ_cons]
        exact later
      · have none : limit - start = 0 ∧ limit - (start + 1) = 0 := by omega
        obtain ⟨name, asks, refused⟩ := scarce s start List.mem_cons_self before
        rw [none.2, List.drop_zero] at later
        rw [refused, none.1, List.drop_zero]
        exact .cons ⟨name, asks, rfl⟩ later

theorem accepted_at (unrefused : (config.validate find).value.2 = []) {s : Section} {i : Nat}
    (member : (s, i) ∈ (config.sections.map Prod.snd).zipIdx) :
    (s.validate (find i)).value.error = none := by
  have accepted := unrefused_iff_verdicts.mp unrefused
  rw [(allReachPlugin_of_unrefused unrefused).value_verdicts] at accepted
  exact accepted _ (List.mem_map_of_mem member)

/-- If answers run out in the first phase, the checks of all later sections refuse them. -/
theorem notFound_validate_upTo (unrefused : (config.validate find).value.2 = []) (limit : Nat) :
    NotFound .unknownProvider (config.sections.drop limit)
      (config.validate (find.upTo limit)).value.2 := by
  have all := allReachPlugin_of_unrefused unrefused
  have errors : (config.verdicts (find.upTo limit)).value.map Verdict.error =
      (config.sections.map Prod.snd).zipIdx.map fun (s, i) =>
        (s.validate (find.upTo limit i)).value.error := by
    rw [all.value_verdicts, List.map_map]
    rfl
  rw [refused_verdicts, errors]
  change NotFound _ (config.sections.drop (limit - 0)) _
  refine notFound_report (fun s i => (s.validate (find.upTo limit i)).value.error)
    (fun s i member before => ?_) (fun s i member after => ?_)
  · rw [find.upTo_of_lt before, accepted_at unrefused member]
  · have reaches := all s (List.fst_mem_of_mem_zipIdx member)
    obtain ⟨name, asks⟩ := Section.pluginName?_of_reachesPlugin reaches
    rw [find.upTo_of_ge after]
    exact ⟨name, asks, Section.error_of_no_plugin reaches asks rfl⟩

end Config

namespace LoadedConfig

variable {find : Lookup} {config : Config}

theorem value_builds_of_named {sections : List Section}
    (named : ∀ s ∈ sections, ∃ name, s.pluginName? = some name) (find : Lookup) (start : Nat) :
    (builds find start sections).value =
      (sections.zipIdx start).map fun (s, i) => (ProviderRecord.build (find i) s).value := by
  refine Traced.value_each_of_asking
    (fun earlier s => ProviderRecord.lookups_build (find earlier) s) start ?_
  intro s member
  obtain ⟨name, asks⟩ := named s member
  simp [asks]

/-- Each section is built, mended, with the answer that comes as many places after its own as there
    are sections. -/
theorem refused_createAll (unrefused : (config.validate find).value.2 = []) :
    (createAll find (config.validate find).lookups.length .empty config.mended.sections).value.2 =
      Config.report (config.sections.map Prod.fst)
        (((config.sections.map Prod.snd).zipIdx config.sections.length).map fun (s, i) =>
          refusalOf (ProviderRecord.build (find i) s.migrated).value) := by
  have all := Config.allReachPlugin_of_unrefused unrefused
  have named : ∀ s ∈ (config.sections.map Prod.snd).map Section.migrated,
      ∃ name, s.pluginName? = some name := by
    simpa only [List.forall_mem_map, Section.migrated_pluginName?] using all.named
  rw [value_createAll, Config.lookups_validate, Config.lookups_verdicts, all.length_asked,
    Config.sections_mended_fst, Config.sections_mended_snd]
  dsimp only
  rw [value_builds_of_named named, List.zipIdx_map, List.map_map, List.map_map]
  rfl

theorem built_at {overrides : Overrides} {origin : String} {loaded : LoadedConfig}
    (succeeded : (ofConfig find overrides origin config).value = .ok loaded) {s : Section} {i : Nat}
    (member : (s, i) ∈ (config.sections.map Prod.snd).zipIdx config.sections.length) :
    refusalOf (ProviderRecord.build (find i) s.migrated).value = none := by
  obtain ⟨unrefused, complete, -⟩ := phases_of_loaded succeeded
  rw [refused_createAll unrefused, Config.report_eq_nil_iff (by simp)] at complete
  exact complete _ (List.mem_map_of_mem member)

/-- If answers run out in the second phase, the builds of all later sections refuse them. -/
theorem notFound_createAll_upTo {overrides : Overrides} {origin : String} {loaded : LoadedConfig}
    (succeeded : (ofConfig find overrides origin config).value = .ok loaded) {limit : Nat}
    (unrefused : (config.validate (find.upTo limit)).value.2 = []) :
    Config.NotFound .pluginLookupFailed (config.sections.drop (limit - config.sections.length))
      (createAll (find.upTo limit) (config.validate (find.upTo limit)).lookups.length .empty
        config.mended.sections).value.2 := by
  have all := Config.allReachPlugin_of_unrefused unrefused
  rw [refused_createAll unrefused]
  refine Config.notFound_report
    (fun s i => refusalOf (ProviderRecord.build (find.upTo limit i) s.migrated).value)
    (fun s i member before => ?_) (fun s i member after => ?_)
  · rw [find.upTo_of_lt before, built_at succeeded member]
  · obtain ⟨name, asks⟩ := all.named s (List.fst_mem_of_mem_zipIdx member)
    have refused : (ProviderRecord.build (fun _ => none) s.migrated).value =
        .error (.pluginLookupFailed name) :=
      ProviderRecord.value_build_of_no_plugin (s.migrated_pluginName?.trans asks) rfl
    exact ⟨name, asks, by rw [find.upTo_of_ge after, refused, refusalOf]⟩

theorem lookups_of_unrefused (unrefused : (config.validate find).value.2 = [])
    (overrides : Overrides) (origin : String) :
    (ofConfig find overrides origin config).lookups = config.asked ++ config.asked := by
  have again : (config.mended.sections.map Prod.snd).filterMap Section.pluginName? =
      config.asked := by
    rw [(Config.allReachPlugin_of_unrefused unrefused).asked_eq, Config.sections_mended_snd,
      List.filterMap_map]
    simp only [Function.comp_def, Section.migrated_pluginName?]
  rw [lookups_ofConfig, if_neg (not_not_intro unrefused), Config.checked_of_unrefused unrefused,
    again]

/-- The checks ask for plugins in the order of the sections, once for each section that gets as far
    as that, and for the plugin that it names. If they refuse nothing, builds follow, and ask for
    the same plugins again. So a load that gets through asks twice for each section. If answers run
    out where else nothing would be refused, exactly the sections that have none are refused, by the
    phase in which that happens. -/
theorem ofConfig_lookup_protocol (find : Lookup) (overrides : Overrides) (origin : String)
    (config : Config) :
    let load := ofConfig find overrides origin config
    let refused := (config.validate find).value.2
    let n := config.sections.length
    let outcomeUpTo (m : Nat) := (ofConfig (find.upTo m) overrides origin config).value
    (refused ≠ [] → load.lookups = config.asked) ∧
    (refused = [] → load.lookups = config.asked ++ config.asked ∧
      config.asked = (config.sections.map Prod.snd).filterMap Section.pluginName? ∧
      ∀ m < n, ∃ diagnostics, outcomeUpTo m = .error (.rejected diagnostics) ∧
        Config.NotFound .unknownProvider (config.sections.drop m) diagnostics) ∧
    (∀ loaded, load.value = .ok loaded → refused = [] ∧ load.lookups.length = 2 * n ∧
      ∀ m, n ≤ m → m < 2 * n → ∃ diagnostics, outcomeUpTo m = .error (.rejected diagnostics) ∧
        Config.NotFound .pluginLookupFailed (config.sections.drop (m - n)) diagnostics) := by
  intro load refused n outcomeUpTo
  have rejected {m : Nat} (someRefused : (config.validate (find.upTo m)).value.2 ≠ []) :
      outcomeUpTo m = .error (.rejected (config.validate (find.upTo m)).value.2) := by
    simp only [outcomeUpTo, value_ofConfig_phases, if_pos someRefused]
  refine ⟨?_, ?_, ?_⟩
  · intro someRefused
    rw [lookups_ofConfig, if_pos someRefused, List.append_nil]
  · intro unrefused
    refine ⟨lookups_of_unrefused unrefused overrides origin,
      (Config.allReachPlugin_of_unrefused unrefused).asked_eq, ?_⟩
    intro m scarce
    have notFound := Config.notFound_validate_upTo unrefused m
    exact ⟨_, rejected (notFound.ne_nil scarce), notFound⟩
  · intro loaded succeeded
    have unrefused := (phases_of_loaded succeeded).1
    have asked := (Config.allReachPlugin_of_unrefused unrefused).length_asked
    refine ⟨unrefused, ?_, ?_⟩
    · rw [lookups_of_unrefused unrefused, List.length_append, asked]
      omega
    · intro m enough scarce
      have passed := (Config.notFound_validate_upTo unrefused m).eq_nil enough
      have notFound := notFound_createAll_upTo succeeded passed
      have someRefused := notFound.ne_nil (by omega)
      exact ⟨_, (value_ofConfig_unrefused passed overrides origin).trans (if_pos someRefused),
        notFound⟩

/-- A provider section with this title and a custom section. -/
def titledAndCustom (title : String) : Config where
  providers := [
    { name := some title, username := some "u", password := some "p",
      hostname := ["h.example.org"] }]
  customs := [
    { ddnsServer := some "update.example.net", common := { hostname := ["h.example.net"] } }]

/-- Both sections of one configuration load, but the second one has no answer in the first phase or
    no answer in the second; in the other configuration the first section is refused at once. -/
theorem ofConfig_lookup_protocol_titledAndCustom :
    let find := PluginRegistry.builtin.lookup
    let config := titledAndCustom "no-ip.com"
    let outcomeUpTo (m : Nat) := (ofConfig (find.upTo m) {} inlineOrigin config).value
    (ofConfig find {} inlineOrigin (titledAndCustom "nowhere")).lookups = ["nowhere", "custom"] ∧
    (ofConfig find {} inlineOrigin config).lookups = ["no-ip.com", "custom", "no-ip.com", "custom"] ∧
    (∃ diagnostics, outcomeUpTo 1 = .error (.rejected diagnostics) ∧
      Config.NotFound .unknownProvider (config.sections.drop 1) diagnostics) ∧
    ∃ diagnostics, outcomeUpTo 3 = .error (.rejected diagnostics) ∧
      Config.NotFound .pluginLookupFailed (config.sections.drop 1) diagnostics := by
  intro find config outcomeUpTo
  have someRefused : ((titledAndCustom "nowhere").validate find).value.2 ≠ [] := by decide +kernel
  obtain ⟨loaded, succeeded⟩ := (ofConfig_ok_iff {} inlineOrigin config).mpr
    ⟨show config.checkRefusals PluginRegistry.builtin.find? = [] by decide +kernel,
      by decide +kernel⟩
  obtain ⟨-, again, twice⟩ := ofConfig_lookup_protocol find {} inlineOrigin config
  obtain ⟨unrefused, -, second⟩ := twice loaded succeeded
  obtain ⟨lookups, -, first⟩ := again unrefused
  refine ⟨?_, ?_, first 1 (by decide), second 3 (by decide) (by decide)⟩
  · rw [(ofConfig_lookup_protocol find {} inlineOrigin _).1 someRefused]
    decide +kernel
  · rw [lookups]
    decide +kernel

end LoadedConfig

end DynamicDns
