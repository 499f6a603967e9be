import DynamicDns.Proofs.AliasSynonym
import DynamicDns.Proofs.BuildReference

/-! # Events of loads

What is told of a load, in full. The checks of a section tell that its deprecated
option was mended, its build what a record cannot keep of it. A load that
succeeds goes through its sections twice, first for the checks, then for the
builds, and tells at last that it has loaded.
-/

namespace DynamicDns

theorem length_of_mapM {ε α β : Type} {f : α → Except ε β} {items : List α} {results : List β}
    (passes : items.mapM f = .ok results) : results.length = items.length := by
  induction items generalizing results with
  | nil =>
      cases passes
      rfl
  | cons item rest ih =>
      rw [List.mapM_cons] at passes
      obtain ⟨b, -, passes⟩ := bind_eq_ok_iff.mp passes
      obtain ⟨bs, others, same⟩ := bind_eq_ok_iff.mp passes
      cases same
      rw [List.length_cons, List.length_cons, ih others]

namespace Traced

theorem events_emitIf (condition : Prop) [Decidable condition] (event : Event) :
    (emitIf condition event).events = if condition then [event] else [] := by
  unfold emitIf
  split <;> rfl

/-- Items that tell the same whatever they are told. -/
theorem events_each {α β : Type} {handle : Nat → α → Traced β} {tells : α → List Event}
    (telling : ∀ earlier a, (handle earlier a).events = tells a) (earlier : Nat) (items : List α) :
    (each handle earlier items).events = items.flatMap tells := by
  induction items generalizing earlier with
  | nil => rfl
  | cons item rest ih =>
      simp only [each, events_bind, events_pure, List.append_nil, telling, ih, List.flatMap_cons]

end Traced

/-! ## Builds -/

namespace Building

variable {α β : Type} {x : Building α} {a : α} {told : List Event}

/-- The steps refuse nothing and come to this, telling these events. -/
structure Passes (x : Building α) (a : α) (told : List Event) : Prop where
  value : x.run.value = .ok a
  events : x.run.events = told

namespace Passes

theorem congr {told' : List Event} (passes : Passes x a told) (same : told = told') :
    Passes x a told' := by
  rwa [← same]

theorem pure (a : α) : Passes (Pure.pure a) a [] := ⟨rfl, rfl⟩

theorem ofTraced (x : Traced α) : Passes (liftM x) x.value x.events :=
  ⟨rfl, List.append_nil _⟩

theorem ofExcept {step : Except SectionError α} (taken : step = .ok a) :
    Passes (liftM step) a [] :=
  ⟨taken, rfl⟩

theorem bind {f : α → Building β} {b : β} {later : List Event} (first : Passes x a told)
    (second : Passes (f a) b later) : Passes (x >>= f) b (told ++ later) := by
  constructor
  · rw [value_bind, first.value]
    exact second.value
  · change x.run.events ++ (ExceptT.bindCont f x.run.value).events = _
    rw [first.events, first.value]
    exact congrArg (told ++ ·) second.events

/-- Items that tell nothing. -/
theorem mapM {f : α → Building β} (silent : ∀ a, (f a).run.events = []) {items : List α}
    {results : List β} (passes : (items.mapM f).run.value = .ok results) :
    Passes (items.mapM f) results [] := by
  induction items generalizing results with
  | nil =>
      cases passes
      exact pure []
  | cons item rest ih =>
      rw [value_mapM, List.mapM_cons] at passes
      obtain ⟨b, first, passes⟩ := bind_eq_ok_iff.mp passes
      obtain ⟨bs, others, same⟩ := bind_eq_ok_iff.mp passes
      cases same
      rw [List.mapM_cons]
      rw [← value_mapM] at others
      exact bind ⟨first, silent item⟩ (bind (ih others) (pure _))

end Passes

end Building

namespace Section

/-- A credential of more than 128 bytes is not kept. -/
def credentialWarnings (title field : String) (given : Option String) : List Event :=
  (given.filter (128 < ·.utf8ByteSize)).toList.map fun text =>
    .credentialIgnored field title ⟨text.utf8ByteSize, 128⟩

/-- No more than 50 hostnames are kept. -/
def hostnameWarnings (title : String) (given : List String) : List Event :=
  if 50 < given.length then [.hostnamesSkipped (given.length - 50) title] else []

/-- Responses of more than 64 bytes are not kept, and no more than five of the others. -/
def responseWarnings (title : String) (given : List String) : List Event :=
  let fitting := given.filter (·.utf8ByteSize ≤ 64)
  (if fitting.length < given.length then
    [.longResponsesSkipped (given.length - fitting.length) title] else []) ++
  if 5 < fitting.length then [.responsesSkipped (fitting.length - 5) title] else []

/-- What a record cannot keep of a section. -/
def warnings (title : String) (s : Section) : List Event :=
  credentialWarnings title "username" s.common.username ++
  credentialWarnings title "password" s.common.password ++
  hostnameWarnings title s.common.hostname ++
  match s with
  | .provider _ => []
  | .custom options => responseWarnings title options.ddnsResponse

end Section

namespace ProviderRecord

/-- What is told of a record that was built. -/
def builtEvent (r : ProviderRecord) : Event :=
  .recordBuilt r.name r.plugin.name r.update r.checkip r.hostnames.length

theorem events_keepCredential (title field : String) (given : Option String) :
    (keepCredential title field 128 given).events =
      Section.credentialWarnings title field given := by
  cases given with
  | none => rfl
  | some text =>
      by_cases fits : text.utf8ByteSize ≤ 128
      · have short : ¬ 128 < text.utf8ByteSize := Nat.not_lt.mpr fits
        simp only [keepCredential, BoundedString.ofString_eq_ok fits]
        simp [Section.credentialWarnings, Option.filter, short]
      · have long : 128 < text.utf8ByteSize := Nat.not_le.mp fits
        simp only [keepCredential, BoundedString.ofString_eq_error long]
        simp only [Section.credentialWarnings, Option.filter, long, decide_true, if_true]
        rfl

theorem keepCredential_passes (title field : String) (given : Option String) :
    Building.Passes (liftM (keepCredential title field 128 given))
      (given.bind fun text => (BoundedString.ofString 128 text).toOption)
      (Section.credentialWarnings title field given) := by
  rw [← events_keepCredential, ← value_keepCredential title field]
  exact .ofTraced _

theorem keepHostnames_passes {title : String} {hostnames : List String}
    {kept : BoundedList Hostname Limits.hostnames}
    (keeps : (keepHostnames title hostnames).run.value = .ok kept) :
    (keepHostnames title hostnames).Passes kept (Section.hostnameWarnings title hostnames) := by
  unfold keepHostnames at keeps ⊢
  rw [Building.value_bind] at keeps
  obtain ⟨fitting, admitted, same⟩ := bind_eq_ok_iff.mp keeps
  cases same
  apply Building.Passes.congr
  · apply Building.Passes.bind
    · apply Building.Passes.mapM _ admitted
      intro name
      cases BoundedString.ofString Limits.nameBytes name <;> rfl
    · apply Building.Passes.bind (.ofTraced _)
      exact .pure _
  · rw [Building.value_mapM] at admitted
    rw [Traced.events_emitIf, BoundedList.dropped_extend, length_of_mapM admitted, List.nil_append,
      List.append_nil]
    exact if_congr Nat.sub_pos_iff_lt rfl rfl

theorem events_keepResponses (title : String) (given : List String) (plugin : Plugin) :
    (keepResponses title given plugin).events = Section.responseWarnings title given := by
  have length : (fittingResponses given).length =
      (given.filter (·.utf8ByteSize ≤ 64)).length := by
    rw [← texts_fittingResponses, List.length_map]
  cases given with
  | nil => rfl
  | cons response rest =>
      simp only [keepResponses, List.isEmpty_cons, Bool.false_eq_true, if_false, Traced.events_bind,
        Traced.events_emitIf, Traced.events_pure, List.append_nil, BoundedList.dropped_extend,
        length, Section.responseWarnings]
      exact congrArg₂ (· ++ ·) (if_congr Nat.sub_pos_iff_lt rfl rfl)
        (if_congr Nat.sub_pos_iff_lt rfl rfl)

theorem keepResponses_passes (title : String) (given : List String) (plugin : Plugin) :
    Building.Passes (liftM (keepResponses title given plugin))
      (keepResponses title given plugin).value (Section.responseWarnings title given) := by
  rw [← events_keepResponses title given plugin]
  exact .ofTraced _

theorem merge_passes {plugin : Plugin} {s : Section} {record : ProviderRecord}
    (merged : (merge plugin s).run.value = .ok record) :
    (merge plugin s).Passes record (s.warnings record.name ++ [record.builtEvent]) := by
  obtain ⟨defaults, taken, hostnames, kept, targets, own, rfl⟩ := merge_eq_ok_iff.mp merged
  cases s with
  | provider s =>
      cases own
      apply Building.Passes.congr
      · apply Building.Passes.bind (.ofExcept taken)
        apply Building.Passes.bind (keepCredential_passes _ _ _)
        apply Building.Passes.bind (keepCredential_passes _ _ _)
        apply Building.Passes.bind (keepHostnames_passes kept)
        apply Building.Passes.bind (.pure _)
        exact .bind (.ofTraced _) (.pure _)
      · simp only [Section.warnings, List.nil_append, List.append_nil, List.append_assoc]
        rfl
  | custom s =>
      apply Building.Passes.congr
      · apply Building.Passes.bind (.ofExcept taken)
        apply Building.Passes.bind (keepCredential_passes _ _ _)
        apply Building.Passes.bind (keepCredential_passes _ _ _)
        apply Building.Passes.bind (keepHostnames_passes kept)
        apply Building.Passes.bind (.ofExcept own)
        apply Building.Passes.bind (keepResponses_passes _ _ _)
        apply Building.Passes.bind (.pure _)
        exact .bind (.ofTraced _) (.pure _)
      · simp only [Section.warnings, List.nil_append, List.append_nil, List.append_assoc]
        rfl

/-- A build that succeeds tells what it could not keep, and then what it built. -/
theorem events_build {find : String → Option Plugin} {s : Section} {record : ProviderRecord}
    (built : (build find s).value = .ok record) :
    (build find s).events = s.warnings record.name ++ [record.builtEvent] := by
  cases asked : s.pluginName? with
  | none => simp [build, asked] at built
  | some name =>
      cases found : find name with
      | none => simp [value_build_of_no_plugin asked found] at built
      | some plugin =>
          rw [value_build asked found] at built
          rw [← (merge_passes built).events]
          simp only [build, asked, Traced.events_bind, found, List.nil_append]

end ProviderRecord

/-! ## Checks -/

theorem ProviderSection.events_migrateAlias (s : ProviderSection) :
    s.migrateAlias.events =
      if s.aliases ≠ [] ∧ s.hostname = [] then [.aliasMigrated s.aliases.length] else [] := by
  unfold migrateAlias
  cases s.aliases with
  | nil => rfl
  | cons => cases s.hostname <;> rfl

namespace Section

/-- What the checks tell of a section: that its deprecated option was mended. -/
def checkEvents (s : Section) : List Event :=
  if s.ReachesAlias ∧ s.common.aliases ≠ [] ∧ s.common.hostname = [] then
    [.aliasMigrated s.common.aliases.length]
  else []

theorem level_of_mem_checkEvents {s : Section} : ∀ event ∈ s.checkEvents, event.level = .warn := by
  unfold checkEvents
  split <;> simp [Event.level]

theorem events_validate (find : String → Option Plugin) (s : Section) :
    (s.validate find).events = s.checkEvents := by
  unfold checkEvents
  by_cases reaches : s.ReachesAlias
  · obtain ⟨provider, -, shared⟩ := validate_of_reached find reaches
    simp only [shared, reaches, true_and, Traced.events_bind, Traced.events_pure, List.append_nil,
      ProviderSection.events_checkCommon, ProviderSection.events_migrateAlias]
  · rw [validate_of_unreached find reaches, if_neg (fun told => reaches told.1), Traced.events_pure]

end Section

namespace Config

/-- What is told of the period, if it had to be moved into its bounds. -/
def periodEvents (config : Config) : List Event :=
  if (clampPeriod config.period : Int) ≠ config.period then
    [.periodClamped config.period (clampPeriod config.period)]
  else []

theorem level_of_mem_periodEvents {config : Config} :
    ∀ event ∈ config.periodEvents, event.level = .debug := by
  unfold periodEvents
  split <;> simp [Event.level]

theorem events_validate (find : Lookup) (config : Config) :
    (config.validate find).events = config.periodEvents ++
      (config.sections.map Prod.snd).flatMap Section.checkEvents := by
  have checked : (config.verdicts find).events =
      (config.sections.map Prod.snd).flatMap Section.checkEvents :=
    Traced.events_each (fun earlier s => s.events_validate (find earlier)) 0 _
  rw [← checked]
  simp only [validate, verdicts_eq, Traced.events_bind, Traced.events_pure, Traced.events_emitIf,
    List.append_nil]
  rfl

end Config

/-! ## Loads -/

namespace LoadedConfig

/-- What is told of a section and its record as the record is built and added. -/
def buildEvents : Section × ProviderRecord → List Event
  | (s, record) => s.warnings record.name ++ [record.builtEvent, .recordAdded record.name]

theorem events_create {find : String → Option Plugin} {registry : ProviderRegistry} {s : Section}
    {record : ProviderRecord} (built : (ProviderRecord.build find s).value = .ok record) :
    (registry.create find s).events = buildEvents (s, record) := by
  simp only [ProviderRegistry.create, Traced.events_bind, ProviderRecord.events_build built]
  rw [built]
  exact List.append_assoc _ _ _

theorem events_createAll (find : Lookup) (earlier : Nat) (registry : ProviderRegistry)
    {sections : List (SectionId × Section)}
    (complete : (createAll find earlier registry sections).value.2 = []) :
    ∃ records, (createAll find earlier registry sections).value.1.records =
        registry.records ++ records ∧
      (createAll find earlier registry sections).events =
        ((sections.map Prod.snd).zip records).flatMap buildEvents := by
  -- The sections add to a registry that grows, so this is shown for every registry.
  induction sections generalizing earlier registry with
  | nil => exact ⟨[], (List.append_nil _).symm, rfl⟩
  | cons first rest ih =>
      obtain ⟨place, s⟩ := first
      have outcome := ProviderRegistry.value_create (find earlier) registry s
      cases built : (ProviderRecord.build (find earlier) s).value with
      | error e =>
          rw [built] at outcome
          simp only [createAll, Traced.value_bind, outcome] at complete
          cases complete
      | ok record =>
          rw [built] at outcome
          simp only [createAll, Traced.value_bind, Traced.value_pure, outcome] at complete
          obtain ⟨records, kept, told⟩ := ih _ _ complete
          refine ⟨record :: records, ?_, ?_⟩
          · simp only [createAll, Traced.value_bind, Traced.value_pure, outcome, kept,
              List.append_assoc, List.singleton_append]
          · simp only [createAll, Traced.events_bind, Traced.events_pure, events_create built, outcome,
              told, List.append_nil, List.map_cons, List.zip_cons_cons, List.flatMap_cons]

theorem events_afterChecks {find : Lookup} {overrides : Overrides} {origin : String}
    {earlier : Nat} {config : Config} {loaded : LoadedConfig}
    (succeeded : (afterChecks find overrides origin earlier (config, [])).value = .ok loaded) :
    (afterChecks find overrides origin earlier (config, [])).events =
      ((config.sections.map Prod.snd).zip loaded.providers.records).flatMap buildEvents ++
        [.configLoaded loaded.providers.size origin loaded.global.updatePeriod] := by
  simp only [afterChecks, List.isEmpty_nil, Bool.not_true, Bool.false_eq_true, if_false,
    Traced.value_bind, Traced.events_bind] at succeeded ⊢
  cases complete : (createAll find earlier .empty config.sections).value.2 with
  | cons =>
      rw [complete] at succeeded
      cases succeeded
  | nil =>
      obtain ⟨records, kept, told⟩ := events_createAll find earlier _ complete
      rw [complete] at succeeded
      cases succeeded
      rw [told, kept]
      rfl

/-- What a load that succeeds tells: of the period, of each section as it is checked, of each
    section and its record as it is built, and at last that it has loaded. -/
theorem events_of_loaded {find : Lookup} {overrides : Overrides} {origin : String}
    {config : Config} {loaded : LoadedConfig}
    (succeeded : (ofConfig find overrides origin config).value = .ok loaded) :
    (ofConfig find overrides origin config).events = config.periodEvents ++
      (config.sections.map Prod.snd).flatMap Section.checkEvents ++
      ((config.mended.sections.map Prod.snd).zip loaded.providers.records).flatMap buildEvents ++
      [.configLoaded loaded.providers.size origin loaded.global.updatePeriod] := by
  have unrefused := (phases_of_loaded succeeded).1
  have checked : (config.validate find).value = (config.mended, []) :=
    Prod.ext (Config.checked_of_unrefused unrefused) unrefused
  rw [ofConfig_eq, Traced.value_bind, checked] at succeeded
  rw [ofConfig_eq, Traced.events_bind, checked, Config.events_validate, events_afterChecks succeeded,
    List.append_assoc _ _ [_]]

end LoadedConfig

end DynamicDns
