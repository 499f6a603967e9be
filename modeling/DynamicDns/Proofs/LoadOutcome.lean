import DynamicDns.Load
import DynamicDns.Proofs.BuildSafety
import DynamicDns.Proofs.CheckedConfig

/-! # Outcomes of loads

A load has two phases, each over all sections: checks, and builds once nothing
was refused. Under a lookup that always answers alike both treat sections one by
one, so a load succeeds exactly when each section does. The refusals of a load
are all of one phase: those of builds stay unseen as long as a check refuses
anything.
-/

namespace DynamicDns

/-- Why there is no result, if there is none. -/
def refusalOf {α : Type} : Except SectionError α → Option SectionError
  | .ok _ => none
  | .error e => some e

theorem refusalOf_eq_none_iff {α : Type} {outcome : Except SectionError α} :
    refusalOf outcome = none ↔ ∃ a, outcome = .ok a := by
  cases outcome <;> simp [refusalOf]

namespace Section

/-- What the build of a section comes to, after its checks. -/
def built (find : String → Option Plugin) (s : Section) : Except SectionError ProviderRecord :=
  (ProviderRecord.build find (s.validate find).value.result).value

/-- The section passes its checks and builds, as they left it, into the record. -/
structure Loads (find : String → Option Plugin) (s : Section) (record : ProviderRecord) : Prop where
  accepted : (s.validate find).value.error = none
  built : (ProviderRecord.build find (s.validate find).value.result).value = .ok record

/-- Why a section is refused, by its checks or else by its build. -/
def refusal? (find : String → Option Plugin) (s : Section) : Option SectionError :=
  (s.validate find).value.error.or (refusalOf (s.built find))

theorem exists_loads_iff {find : String → Option Plugin} {s : Section} :
    (∃ record, s.Loads find record) ↔
      (s.validate find).value.error = none ∧ refusalOf (s.built find) = none := by
  rw [refusalOf_eq_none_iff]
  constructor
  · rintro ⟨record, loads⟩
    exact ⟨loads.accepted, record, loads.built⟩
  · rintro ⟨accepted, record, built⟩
    exact ⟨record, accepted, built⟩

end Section

namespace Config

variable {find : String → Option Plugin}

/-- The refusals of the first phase. -/
def checkRefusals (find : String → Option Plugin) (config : Config) : List Diagnostic :=
  config.diagnose fun s => (s.validate find).value.error

/-- The refusals of the second phase, were it reached. -/
def buildRefusals (find : String → Option Plugin) (config : Config) : List Diagnostic :=
  config.diagnose fun s => refusalOf (s.built find)

theorem diagnose_eq_nil_iff {config : Config} {refusal : Section → Option SectionError} :
    config.diagnose refusal = [] ↔ ∀ place s, (place, s) ∈ config.sections → refusal s = none := by
  simp only [diagnose, diagnosed, List.filterMap_eq_nil_iff, Option.map_eq_none_iff, Prod.forall]

/-- Neither phase refuses anything exactly when every section loads by itself. -/
theorem refusals_eq_nil_iff {config : Config} :
    config.checkRefusals find = [] ∧ config.buildRefusals find = [] ↔
      ∀ place s, (place, s) ∈ config.sections → ∃ record, s.Loads find record := by
  simp only [checkRefusals, buildRefusals, diagnose_eq_nil_iff, Section.exists_loads_iff]
  constructor
  · rintro ⟨accepted, built⟩ place s member
    exact ⟨accepted place s member, built place s member⟩
  · intro loads
    exact ⟨fun place s member => (loads place s member).1,
      fun place s member => (loads place s member).2⟩

theorem diagnose_filter_place {config : Config} {refusal : Section → Option SectionError}
    {place : SectionId} {s : Section} (member : (place, s) ∈ config.sections) :
    (config.diagnose refusal).filter (·.place = place) =
      ((refusal s).map (⟨place, ·⟩)).toList := by
  have distinct := config.places_nodup
  unfold diagnose
  generalize config.sections = sections at member distinct
  -- Once the section is met, its identity occurs no more: nothing of the rest passes the filter.
  induction sections with
  | nil => cases member
  | cons first rest ih =>
      obtain ⟨other, t⟩ := first
      obtain ⟨fresh, distinct⟩ := List.nodup_cons.mp distinct
      rcases List.mem_cons.mp member with same | later
      · obtain ⟨rfl, rfl⟩ := Prod.mk.inj same
        have others : (rest.filterMap (diagnosed refusal)).filter (·.place = place) = [] := by
          simp only [List.filter_eq_nil_iff, List.mem_filterMap, diagnosed,
            Option.map_eq_some_iff, decide_eq_true_eq]
          rintro _ ⟨⟨other, t⟩, inRest, e, -, rfl⟩ rfl
          exact fresh (List.mem_map.mpr ⟨_, inRest, rfl⟩)
        cases refused : refusal s with
        | none => simpa [diagnosed, refused] using others
        | some e => simpa [diagnosed, refused] using others
      · have different : other ≠ place := fun same =>
          fresh (List.mem_map.mpr ⟨_, later, same.symm⟩)
        rw [← ih later distinct]
        cases refused : refusal t with
        | none => simp [diagnosed, refused]
        | some e => simp [diagnosed, refused, different]

end Config

namespace ProviderRegistry

theorem value_create (find : String → Option Plugin) (registry : ProviderRegistry) (s : Section) :
    (registry.create find s).value = match (ProviderRecord.build find s).value with
      | .error e => (registry, .error e)
      | .ok record => (⟨registry.records ++ [record]⟩, .ok record) := by
  simp only [create, Traced.value_bind]
  cases (ProviderRecord.build find s).value <;> rfl

theorem lookups_create (find : String → Option Plugin) (registry : ProviderRegistry) (s : Section) :
    (registry.create find s).lookups = (ProviderRecord.build find s).lookups := by
  simp only [create, Traced.lookups_bind]
  cases (ProviderRecord.build find s).value <;> exact List.append_nil _

end ProviderRegistry

namespace LoadedConfig

variable {find : String → Option Plugin}

/-- The builds of sections, in one pass. -/
def builds (find : Lookup) (earlier : Nat) (sections : List Section) :
    Traced (List (Except SectionError ProviderRecord)) :=
  Traced.each (fun earlier s => ProviderRecord.build (find earlier) s) earlier sections

theorem lookups_createAll (find : Lookup) (earlier : Nat) (registry : ProviderRegistry)
    (sections : List (SectionId × Section)) :
    (createAll find earlier registry sections).lookups =
      (builds find earlier (sections.map Prod.snd)).lookups := by
  induction sections generalizing earlier registry with
  | nil => rfl
  | cons first rest ih =>
      obtain ⟨place, s⟩ := first
      simp only [createAll, builds, List.map_cons, Traced.each, Traced.lookups_bind,
        Traced.lookups_pure, ProviderRegistry.lookups_create, ih]
      cases (registry.create (find earlier) s).value.2 <;> simp

/-- The records are those of the builds that succeed, the refusals those of the others. -/
theorem value_createAll (find : Lookup) (earlier : Nat) (registry : ProviderRegistry)
    (sections : List (SectionId × Section)) :
    let built := (builds find earlier (sections.map Prod.snd)).value
    (createAll find earlier registry sections).value =
      (⟨registry.records ++ built.filterMap Except.toOption⟩,
        Config.report (sections.map Prod.fst) (built.map refusalOf)) := by
  induction sections generalizing earlier registry with
  | nil => simp [createAll, builds, Traced.each, Config.report]
  | cons first rest ih =>
      obtain ⟨place, s⟩ := first
      simp only [createAll, builds, List.map_cons, Traced.each, Traced.value_bind,
        Traced.value_pure, ProviderRegistry.value_create, ProviderRegistry.lookups_create]
      cases built : (ProviderRecord.build (find earlier) s).value with
      | error e => simp [ih, builds, Config.report, refusalOf, Except.toOption, List.filterMap_cons]
      | ok record => simp [ih, builds, Config.report, refusalOf, Except.toOption]

/-- A load has two phases, each over all sections, and the second one only if the first one refused
    nothing. -/
theorem value_ofConfig_phases (find : Lookup) (overrides : Overrides) (origin : String)
    (config : Config) :
    let checked := (config.validate find).value
    let built := (createAll find (config.validate find).lookups.length .empty
      checked.1.sections).value
    (ofConfig find overrides origin config).value =
      if checked.2 ≠ [] then .error (.rejected checked.2)
      else if built.2 ≠ [] then .error (.rejected built.2)
      else .ok { global := .ofConfig checked.1 overrides, providers := built.1 } := by
  intro checked built
  simp only [ofConfig, Traced.value_bind]
  change Traced.value (if !checked.2.isEmpty then _ else _) = _
  cases checked.2 with
  | cons => rfl
  | nil =>
      simp only [List.isEmpty_nil, Bool.not_true, Bool.false_eq_true, if_false, Traced.value_bind,
        ne_eq, not_true_eq_false]
      change Traced.value (if !built.2.isEmpty then _ else _) = _
      cases built.2 <;> rfl

/-- Builds that all succeed have their records in place of their outcomes. -/
theorem forall₂_records {R : Section → Except SectionError ProviderRecord → Prop}
    {sections : List Section} {built : List (Except SectionError ProviderRecord)}
    (related : List.Forall₂ R sections built)
    (succeeded : ∀ outcome ∈ built, refusalOf outcome = none) :
    List.Forall₂ (fun s record => R s (.ok record)) sections
      (built.filterMap Except.toOption) := by
  induction related with
  | nil => exact .nil
  | cons head tail ih =>
      obtain ⟨first, rest⟩ := List.forall_mem_cons.mp succeeded
      obtain ⟨record, rfl⟩ := refusalOf_eq_none_iff.mp first
      exact .cons head (ih rest)

theorem records_of_complete {find : Lookup} {earlier : Nat}
    {sections : List (SectionId × Section)}
    (complete : (createAll find earlier .empty sections).value.2 = []) :
    List.Forall₂ (fun s record => ∃ told, .ok record = (ProviderRecord.build (find told) s).value)
      (sections.map Prod.snd) (createAll find earlier .empty sections).value.1.records := by
  have related : List.Forall₂
      (fun s outcome => ∃ told, outcome = (ProviderRecord.build (find told) s).value)
      (sections.map Prod.snd) (builds find earlier (sections.map Prod.snd)).value :=
    Traced.forall₂_each _ _ _
  rw [value_createAll] at complete ⊢
  rw [Config.report_eq_nil_iff (by simpa using related.length_eq), List.forall_mem_map] at complete
  exact forall₂_records related complete

section Loaded

variable {find : Lookup} {overrides : Overrides} {origin : String} {config : Config}
  {loaded : LoadedConfig}

/-- If the first phase refuses nothing, the second one is over the mended sections. -/
theorem value_ofConfig_unrefused (unrefused : (config.validate find).value.2 = [])
    (overrides : Overrides) (origin : String) :
    let built := (createAll find (config.validate find).lookups.length .empty
      config.mended.sections).value
    (ofConfig find overrides origin config).value =
      if built.2 ≠ [] then .error (.rejected built.2)
      else .ok { global := .ofConfig config.mended overrides, providers := built.1 } := by
  rw [value_ofConfig_phases, if_neg (not_not_intro unrefused),
    Config.checked_of_unrefused unrefused]

/-- A load that succeeds refuses nothing in either phase. -/
theorem phases_of_loaded (succeeded : (ofConfig find overrides origin config).value = .ok loaded) :
    let built := (createAll find (config.validate find).lookups.length .empty
      config.mended.sections).value
    (config.validate find).value.2 = [] ∧ built.2 = [] ∧
      loaded = { global := .ofConfig config.mended overrides, providers := built.1 } := by
  by_cases unrefused : (config.validate find).value.2 = []
  · rw [value_ofConfig_unrefused unrefused] at succeeded
    split at succeeded
    · cases succeeded
    · rename_i complete
      cases succeeded
      exact ⟨unrefused, not_not.mp complete, rfl⟩
  · rw [value_ofConfig_phases, if_pos unrefused] at succeeded
    cases succeeded

/-- Each section is built as its checks leave it, under one of the answers. -/
theorem builds_of_loaded (succeeded : (ofConfig find overrides origin config).value = .ok loaded) :
    List.Forall₂
      (fun s record => ∃ told, .ok record = (ProviderRecord.build (find told) s.migrated).value)
      (config.sections.map Prod.snd) loaded.providers.records := by
  obtain ⟨-, complete, rfl⟩ := phases_of_loaded succeeded
  have records := records_of_complete complete
  rw [Config.sections_mended_snd, List.forall₂_map_left_iff] at records
  exact records

theorem size_of_loaded (succeeded : (ofConfig find overrides origin config).value = .ok loaded) :
    loaded.providers.size = config.providers.length + config.customs.length := by
  rw [ProviderRegistry.size, ← (builds_of_loaded succeeded).length_eq, Config.sections_snd,
    List.length_append, List.length_map, List.length_map]

theorem updatePeriod_of_loaded
    (succeeded : (ofConfig find overrides origin config).value = .ok loaded) :
    loaded.global.updatePeriod = clampPeriod config.period := by
  obtain ⟨-, -, rfl⟩ := phases_of_loaded succeeded
  rfl

end Loaded

theorem value_builds_steady (earlier : Nat) (sections : List Section) :
    (builds (.steady find) earlier sections).value =
      sections.map fun s => (ProviderRecord.build find s).value :=
  Traced.value_each (ProviderRecord.build find) earlier sections

/-- The second phase, on the sections as the first one left them. -/
theorem value_createAll_checked (earlier : Nat) (config : Config) :
    (createAll (.steady find) earlier .empty (config.validate (.steady find)).value.1.sections).value =
      (⟨config.sections.filterMap fun (_, s) => (s.built find).toOption⟩,
        config.buildRefusals find) := by
  rw [value_createAll, value_builds_steady, Config.sections_validate]
  refine Prod.ext ?_ ?_
  · simp only [ProviderRegistry.empty, List.nil_append, List.filterMap_map]
    rfl
  · refine (congrArg _ List.map_map).trans ((Config.report_map _ _).trans ?_)
    rw [List.filterMap_map]
    rfl

theorem value_ofConfig (overrides : Overrides) (origin : String) (config : Config) :
    (ofConfig (.steady find) overrides origin config).value =
      if config.checkRefusals find ≠ [] then .error (.rejected (config.checkRefusals find))
      else if config.buildRefusals find ≠ [] then .error (.rejected (config.buildRefusals find))
      else .ok {
        global := .ofConfig (config.validate (.steady find)).value.1 overrides
        providers := ⟨config.sections.filterMap fun (_, s) => (s.built find).toOption⟩ } := by
  have checks : (config.validate (.steady find)).value.2 = config.checkRefusals find :=
    config.refused_validate
  simp only [value_ofConfig_phases, checks, value_createAll_checked]

theorem ofConfig_ok_iff (overrides : Overrides) (origin : String) (config : Config) :
    (∃ loaded, (ofConfig (.steady find) overrides origin config).value = .ok loaded) ↔
      config.checkRefusals find = [] ∧ config.buildRefusals find = [] := by
  rw [value_ofConfig]
  cases config.checkRefusals find with
  | cons => simp
  | nil => cases config.buildRefusals find <;> simp

/-- A load that succeeds has one record for each section, providers first. -/
theorem loads_of_ofConfig {overrides : Overrides} {origin : String} {config : Config}
    {loaded : LoadedConfig}
    (succeeded : (ofConfig (.steady find) overrides origin config).value = .ok loaded) :
    List.Forall₂ (Section.Loads find)
      (config.providers.map .provider ++ config.customs.map .custom) loaded.providers.records := by
  have unrefused := (phases_of_loaded succeeded).1
  rw [Config.refused_validate, Config.diagnose_eq_nil_iff] at unrefused
  have accepted : ∀ s ∈ config.sections.map Prod.snd, (s.validate find).value.error = none := by
    simpa only [List.forall_mem_map, Prod.forall] using unrefused
  rw [← Config.sections_snd]
  refine ((List.forall₂_and_left _ _).mpr ⟨accepted, builds_of_loaded succeeded⟩).imp ?_
  rintro s record ⟨accepted, told, built⟩
  rw [← (Section.accepted accepted).1] at built
  exact ⟨accepted, built.symm⟩

/-- A load succeeds exactly when each section, by itself, passes its checks and builds. It then has
    one record for each section, providers first, and else no record at all. -/
theorem ofConfig_all_or_nothing (find : String → Option Plugin) (overrides : Overrides)
    (origin : String) (config : Config) :
    let outcome := (ofConfig (.steady find) overrides origin config).value
    ((∃ loaded, outcome = .ok loaded) ↔
      (∀ s ∈ config.providers, ∃ record, (Section.provider s).Loads find record) ∧
        ∀ s ∈ config.customs, ∃ record, (Section.custom s).Loads find record) ∧
    (∀ loaded, outcome = .ok loaded →
      List.Forall₂ (Section.Loads find)
        (config.providers.map .provider ++ config.customs.map .custom)
        loaded.providers.records) ∧
    ((¬ ∃ loaded, outcome = .ok loaded) →
      ∃ diagnostics, diagnostics ≠ [] ∧ outcome = .error (.rejected diagnostics)) := by
  refine ⟨?_, fun loaded => loads_of_ofConfig, ?_⟩
  · rw [ofConfig_ok_iff, Config.refusals_eq_nil_iff, Config.forall_sections_iff]
  · intro failed
    rw [ofConfig_ok_iff] at failed
    rw [value_ofConfig]
    by_cases checked : config.checkRefusals find = []
    · have built : config.buildRefusals find ≠ [] := fun built => failed ⟨checked, built⟩
      exact ⟨_, built, by rw [if_neg (not_not_intro checked), if_pos built]⟩
    · exact ⟨_, checked, if_pos checked⟩

end LoadedConfig

end DynamicDns
