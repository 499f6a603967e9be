import DynamicDns.Proofs.ClampedPeriod
import DynamicDns.Proofs.LoadEvents

/-! # Logs of loads

The last that a load tells is what came of it: each diagnostic that it returns,
or else that it has loaded. All before that are the steps of checks and builds,
which tell of no error and of no success, whatever they come to. So the log of a
load and its outcome always agree, and a document that is no configuration leaves
no trace in the log.
-/

namespace DynamicDns

/-! ## Where events come from -/

namespace Event

/-- Whether the event is of the build of a record, or of its place in the registry. -/
def OfBuild (event : Event) : Prop := event.source = .builder ∨ event.source = .registry

theorem OfBuild.isAliasWarning_eq {event : Event} (build : event.OfBuild) :
    event.isAliasWarning = false := by
  cases event <;> simp_all [OfBuild, source, isAliasWarning]

theorem OfBuild.level {event : Event} (build : event.OfBuild) :
    event.level = .warn ∨ event.level = .debug := by
  cases event <;> simp_all [OfBuild, source, Event.level]

/-- The texts of the events of one level. -/
def messagesAt (level : Level) (events : List Event) : List String :=
  (events.filter (·.level = level)).map message

end Event

/-- Whatever the steps of a build come to, they tell of builds. -/
def Building.TellsOfBuild {α : Type} (x : Building α) : Prop :=
  ∀ event ∈ x.run.events, event.OfBuild

namespace Building.TellsOfBuild

variable {α β : Type}

theorem pure (a : α) : TellsOfBuild (Pure.pure a : Building α) := List.forall_mem_nil _

theorem ofExcept (x : Except SectionError α) : TellsOfBuild (liftM x : Building α) :=
  List.forall_mem_nil _

theorem ofTraced {x : Traced α} (tells : ∀ event ∈ x.events, event.OfBuild) :
    TellsOfBuild (liftM x : Building α) := by
  intro event member
  change event ∈ x.events ++ [] at member
  rw [List.append_nil] at member
  exact tells event member

theorem bind {x : Building α} {f : α → Building β} (first : TellsOfBuild x)
    (second : ∀ a, TellsOfBuild (f a)) : TellsOfBuild (x >>= f) := by
  intro event member
  change event ∈ x.run.events ++ (ExceptT.bindCont f x.run.value).events at member
  rcases List.mem_append.mp member with early | late
  · exact first event early
  · cases outcome : x.run.value with
    | ok a =>
        rw [outcome] at late
        exact second a event late
    | error e =>
        rw [outcome] at late
        cases late

theorem mapM {f : α → Building β} (each : ∀ a, TellsOfBuild (f a)) (items : List α) :
    TellsOfBuild (items.mapM f) := by
  induction items with
  | nil => exact .pure []
  | cons item rest ih =>
      rw [List.mapM_cons]
      exact (each item).bind fun _ => ih.bind fun _ => .pure _

end Building.TellsOfBuild

/-! ## Steps of a load -/

theorem Traced.forall_events_emitIf {P : Event → Prop} {condition : Prop} [Decidable condition]
    {event : Event} (holds : P event) : ∀ e ∈ (emitIf condition event).events, P e := by
  rw [events_emitIf]
  split <;> simp [holds]

namespace ProviderRecord

open Building (TellsOfBuild)

theorem keepCredential_tells (title field : String) (capacity : Nat) (given : Option String) :
    ∀ event ∈ (keepCredential title field capacity given).events, event.OfBuild := by
  cases given with
  | none => exact List.forall_mem_nil _
  | some text =>
      simp only [keepCredential]
      cases BoundedString.ofString capacity text with
      | ok kept => exact List.forall_mem_nil _
      | error overflow =>
          intro event member
          cases List.mem_singleton.mp member
          exact .inl rfl

theorem keepHostnames_tells (title : String) (hostnames : List String) :
    TellsOfBuild (keepHostnames title hostnames) := by
  apply TellsOfBuild.bind
  · apply TellsOfBuild.mapM
    intro name
    cases BoundedString.ofString Limits.nameBytes name <;> exact List.forall_mem_nil _
  · intro fitting
    exact .bind (.ofTraced (Traced.forall_events_emitIf (.inl rfl))) fun _ => .pure _

theorem keepResponses_tells (title : String) (given : List String) (plugin : Plugin) :
    ∀ event ∈ (keepResponses title given plugin).events, event.OfBuild := by
  unfold keepResponses
  cases given.isEmpty with
  | true => exact List.forall_mem_nil _
  | false =>
      simp only [Bool.false_eq_true, if_false, Traced.events_bind, Traced.events_pure,
        List.append_nil, List.forall_mem_append]
      exact ⟨Traced.forall_events_emitIf (.inl rfl), Traced.forall_events_emitIf (.inl rfl)⟩

theorem recordBuilt_tells {title plugin : String} {update checkip : Endpoint} {hostnames : Nat} :
    ∀ event ∈ (Traced.emit (.recordBuilt title plugin update checkip hostnames)).events,
      event.OfBuild := by
  intro event member
  cases List.mem_singleton.mp member
  exact .inl rfl

theorem merge_tells (plugin : Plugin) (s : Section) : TellsOfBuild (merge plugin s) := by
  refine .bind (.ofExcept _) fun defaults => ?_
  refine .bind (.ofTraced (keepCredential_tells _ _ _ _)) fun username => ?_
  refine .bind (.ofTraced (keepCredential_tells _ _ _ _)) fun password => ?_
  refine .bind (keepHostnames_tells _ _) fun hostnames => ?_
  cases s with
  | provider s =>
      refine .bind (.pure _) fun parts => ?_
      exact .bind (.ofTraced recordBuilt_tells) fun _ => .pure _
  | custom s =>
      refine .bind (.ofExcept _) fun targets => ?_
      refine .bind (.ofTraced (keepResponses_tells _ _ _)) fun responses => ?_
      refine .bind (.pure _) fun parts => ?_
      exact .bind (.ofTraced recordBuilt_tells) fun _ => .pure _

theorem build_tells (find : String → Option Plugin) (s : Section) :
    ∀ event ∈ (build find s).events, event.OfBuild := by
  unfold build
  cases s.pluginName? with
  | none => exact List.forall_mem_nil _
  | some name =>
      simp only [Traced.events_bind, List.nil_append]
      cases find name with
      | none => exact List.forall_mem_nil _
      | some plugin => exact merge_tells plugin s

end ProviderRecord

theorem ProviderRegistry.create_tells (registry : ProviderRegistry)
    (find : String → Option Plugin) (s : Section) :
    ∀ event ∈ (registry.create find s).events, event.OfBuild := by
  simp only [create, Traced.events_bind, List.forall_mem_append]
  refine ⟨ProviderRecord.build_tells find s, ?_⟩
  cases (ProviderRecord.build find s).value with
  | error e => exact List.forall_mem_nil _
  | ok record =>
      intro event member
      cases List.mem_singleton.mp member
      exact .inr rfl

namespace LoadedConfig

theorem createAll_tells (find : Lookup) (earlier : Nat) (registry : ProviderRegistry)
    (sections : List (SectionId × Section)) :
    ∀ event ∈ (createAll find earlier registry sections).events, event.OfBuild := by
  induction sections generalizing earlier registry with
  | nil => exact List.forall_mem_nil _
  | cons first rest ih =>
      obtain ⟨place, s⟩ := first
      simp only [createAll, Traced.events_bind, List.forall_mem_append]
      refine ⟨registry.create_tells (find earlier) s, ih _ _, ?_⟩
      cases (registry.create (find earlier) s).value.2 <;> exact List.forall_mem_nil _

/-! ## Outcomes -/

/-- The diagnostics that a load returns. -/
def refused : Except LoadError LoadedConfig → List Diagnostic
  | .ok _ => []
  | .error e => e.diagnostics

/-- What a load tells of its outcome. -/
def outcomeEvents (origin : String) : Except LoadError LoadedConfig → List Event
  | .ok loaded => [.configLoaded loaded.providers.size origin loaded.global.updatePeriod]
  | .error e => e.diagnostics.map (.sectionRejected origin)

variable (find : Lookup) (overrides : Overrides) (origin : String)

/-- After the checks come builds, if nothing was refused, and then the outcome. -/
theorem afterChecks_tells (earlier : Nat) (checked : Config × List Diagnostic) :
    let rest := afterChecks find overrides origin earlier checked
    ∃ builds, (∀ event ∈ builds, event.OfBuild) ∧
      rest.events = builds ++ outcomeEvents origin rest.value := by
  obtain ⟨config, refused⟩ := checked
  simp only [afterChecks]
  split
  · exact ⟨[], List.forall_mem_nil _, rfl⟩
  · refine ⟨_, createAll_tells find earlier .empty config.sections, ?_⟩
    simp only [Traced.events_bind, Traced.value_bind]
    split <;> rfl

end LoadedConfig

/-! ## Before the outcome -/

namespace Event

theorem messagesAt_append (level : Level) (events others : List Event) :
    messagesAt level (events ++ others) = messagesAt level events ++ messagesAt level others := by
  rw [messagesAt, List.filter_append, List.map_append]
  rfl

theorem messagesAt_eq_nil_iff {level : Level} {events : List Event} :
    messagesAt level events = [] ↔ ∀ event ∈ events, event.level ≠ level := by
  simp [messagesAt, List.filter_eq_nil_iff]

end Event

namespace Section

/-- The section gets as far as to have its deprecated option mended, and only that one is in use. -/
def MovesEntries (s : Section) : Prop :=
  s.ReachesAlias ∧ s.common.hostname = [] ∧ s.common.aliases ≠ []

instance : DecidablePred MovesEntries := fun _ => inferInstanceAs (Decidable (_ ∧ _ ∧ _))

/-- The warning that its entries were moved. -/
def aliasWarning (s : Section) : Event := .aliasMigrated s.common.aliases.length

theorem flatMap_checkEvents (sections : List Section) :
    sections.flatMap checkEvents = (sections.filter (·.MovesEntries)).map aliasWarning := by
  induction sections with
  | nil => rfl
  | cons s rest ih =>
      by_cases moves : s.MovesEntries
      · have told : s.checkEvents = [s.aliasWarning] := if_pos ⟨moves.1, moves.2.2, moves.2.1⟩
        simp [told, moves, ih]
      · have silent : s.checkEvents = [] := if_neg fun ⟨reaches, used, unused⟩ =>
          moves ⟨reaches, unused, used⟩
        simp [silent, moves, ih]

end Section

namespace Config

/-- What a load of the configuration tells before its outcome: of the period, of each section as it
    is checked, and of builds. -/
inductive Steps (config : Config) : List Event → Prop where
  | mk {builds : List Event} (tells : ∀ event ∈ builds, event.OfBuild) :
    Steps config (config.periodEvents ++
      (config.sections.map Prod.snd).flatMap Section.checkEvents ++ builds)

namespace Steps

variable {config : Config} {steps : List Event}

theorem level (told : config.Steps steps) :
    ∀ event ∈ steps, event.level = .warn ∨ event.level = .debug := by
  cases told with
  | mk tells =>
      simp only [List.forall_mem_append, List.forall_mem_flatMap]
      refine ⟨⟨?_, ?_⟩, ?_⟩
      · exact fun event member => .inr (level_of_mem_periodEvents event member)
      · exact fun s _ event member => .inl (Section.level_of_mem_checkEvents event member)
      · exact fun event member => (tells event member).level

theorem messagesAt (told : config.Steps steps) {level : Level} (warn : level ≠ .warn)
    (debug : level ≠ .debug) : Event.messagesAt level steps = [] := by
  rw [Event.messagesAt_eq_nil_iff]
  intro event member
  rcases told.level event member with same | same
  · rw [same]
    exact warn.symm
  · rw [same]
    exact debug.symm

theorem aliasWarnings (told : config.Steps steps) : steps.filter (·.isAliasWarning) =
    ((config.sections.map Prod.snd).filter (·.MovesEntries)).map Section.aliasWarning := by
  cases told with
  | @mk builds tells =>
      have period : config.periodEvents.filter (·.isAliasWarning) = [] := by
        unfold periodEvents
        split <;> rfl
      have others : builds.filter (·.isAliasWarning) = [] := by
        rw [List.filter_eq_nil_iff]
        exact fun event member => Bool.eq_false_iff.mp (tells event member).isAliasWarning_eq
      rw [List.filter_append, List.filter_append, period, others, List.nil_append,
        List.append_nil, Section.flatMap_checkEvents, List.filter_eq_self, List.forall_mem_map]
      exact fun s _ => rfl

end Steps

end Config

/-! ## The log against the outcome -/

namespace LoadedConfig

variable (origin : String) (config : Config)

/-- Any load, be it refused or not, tells its steps and then its outcome. -/
theorem events_ofConfig (find : Lookup) (overrides : Overrides) :
    let load := ofConfig find overrides origin config
    ∃ steps, config.Steps steps ∧ load.events = steps ++ outcomeEvents origin load.value := by
  obtain ⟨builds, tells, rest⟩ := afterChecks_tells find overrides origin
    (config.validate find).lookups.length (config.validate find).value
  refine ⟨_, .mk tells, ?_⟩
  rw [ofConfig_eq, Traced.events_bind, Traced.value_bind, rest, Config.events_validate,
    List.append_assoc _ builds]

theorem outcomeEvents_errors (outcome : Except LoadError LoadedConfig) :
    Event.messagesAt .error (outcomeEvents origin outcome) =
      (refused outcome).map fun d => origin ++ ": " ++ d.display := by
  cases outcome with
  | ok loaded => rfl
  | error e =>
      have all : (e.diagnostics.map (Event.sectionRejected origin)).filter (·.level = .error) =
          e.diagnostics.map (.sectionRejected origin) := by
        simp [List.filter_eq_self, Event.level]
      simp only [outcomeEvents, Event.messagesAt, all, List.map_map]
      rfl

theorem outcomeEvents_info_of_error (e : LoadError) :
    Event.messagesAt .info (outcomeEvents origin (.error e)) = [] := by
  rw [Event.messagesAt_eq_nil_iff]
  simp [outcomeEvents, Event.level]

theorem outcomeEvents_aliasWarnings (outcome : Except LoadError LoadedConfig) :
    (outcomeEvents origin outcome).filter (·.isAliasWarning) = [] := by
  cases outcome <;> simp [outcomeEvents, Event.isAliasWarning]

/-- The log of a load agrees with what the load came to. -/
structure Logged (load : Traced (Except LoadError LoadedConfig)) : Prop where
  /-- Each diagnostic that is returned is logged as an error, once and in its place. -/
  errors : Event.messagesAt .error load.events =
    (refused load.value).map fun d => origin ++ ": " ++ d.display
  /-- The last event of a load that succeeds is the one piece of information in its log. -/
  success : ∀ loaded, load.value = .ok loaded →
    let sections := config.providers.length + config.customs.length
    let period := (max 120 (min config.period 864000)).toNat
    loaded.providers.size = sections ∧
    load.events.getLast? = some (.configLoaded sections origin period) ∧
    Event.messagesAt .info load.events =
      [s!"Loaded {sections} DDNS provider(s) from {origin}, update period {period}s"]
  failure : ∀ e, load.value = .error e → Event.messagesAt .info load.events = []
  /-- Each section whose entries are moved has a warning with their number, in its place. -/
  aliases : load.events.filter (·.isAliasWarning) =
    ((config.sections.map Prod.snd).filter (·.MovesEntries)).map fun s =>
      .aliasMigrated s.common.aliases.length

theorem ofConfig_logged (find : Lookup) (overrides : Overrides) :
    Logged origin config (ofConfig find overrides origin config) := by
  obtain ⟨steps, told, events⟩ := events_ofConfig origin config find overrides
  have errorless : Event.messagesAt .error steps = [] := told.messagesAt nofun nofun
  have silent : Event.messagesAt .info steps = [] := told.messagesAt nofun nofun
  constructor
  · rw [events, Event.messagesAt_append, errorless, outcomeEvents_errors, List.nil_append]
  · intro loaded succeeded sections period
    have clamped : clampPeriod config.period = period := clampPeriod_eq_toNat config.period
    have last : outcomeEvents origin (ofConfig find overrides origin config).value =
        [.configLoaded sections origin period] := by
      rw [succeeded, outcomeEvents, size_of_loaded succeeded, updatePeriod_of_loaded succeeded,
        clamped]
    rw [last] at events
    refine ⟨size_of_loaded succeeded, ?_, ?_⟩
    · rw [events, List.getLast?_concat]
    · rw [events, Event.messagesAt_append, silent, List.nil_append]
      rfl
  · intro e failed
    rw [events, Event.messagesAt_append, silent, failed, outcomeEvents_info_of_error,
      List.nil_append]
  · rw [events, List.filter_append, told.aliasWarnings, outcomeEvents_aliasWarnings,
      List.append_nil]
    rfl

example : Event.messagesAt .error (ofConfig (fun _ _ => none) {} "ddns.conf" {
      providers := [{}]
      customs := [
        { ddnsServer := some "update.example.net", common := { aliases := ["h.example.net"] } }]
    }).events = [
      "ddns.conf: provider #1 (name): Missing DDNS provider name",
      "ddns.conf: custom #1 (name): Invalid DDNS provider custom"] := by
  decide +kernel

end LoadedConfig

/-! ## Documents -/

/-- What becomes of a document: its configuration is loaded, and without one the load fails at once
    and returns no diagnostic. -/
structure LoadedConfig.GoesBy (find : Lookup) (overrides : Overrides) (origin : String)
    (config? : Option Config) (load : Traced (Except LoadError LoadedConfig)) : Prop where
  unusable : config? = none → ∃ e, load = pure (.error e) ∧ e.diagnostics = []
  usable : ∀ config, config? = some config → load = ofConfig find overrides origin config

theorem LoadedConfig.ofText_goesBy (find : Lookup) (overrides : Overrides) (origin text : String) :
    GoesBy find overrides origin (Config.ofToml text).toOption
      (ofText find overrides origin text) := by
  unfold ofText
  cases Config.ofToml text with
  | error cause => exact ⟨fun _ => ⟨_, rfl, rfl⟩, nofun⟩
  | ok config =>
      refine ⟨nofun, ?_⟩
      rintro _ ⟨⟩
      rfl

/-- A document to load, at hand or in a file. -/
inductive Document where
  | inline (text : String)
  | file (path : String) (contents : Except ReadError String)

namespace Document

/-- What the document is called in the log. -/
def origin : Document → String
  | .inline _ => "<inline>"
  | .file path _ => path

/-- The configuration that the document is, if it can be read and is one. -/
def config? : Document → Option Config
  | .inline text => (Config.ofToml text).toOption
  | .file _ contents => contents.toOption.bind fun text => (Config.ofToml text).toOption

def load (find : Lookup) (overrides : Overrides) :
    Document → Traced (Except LoadError LoadedConfig)
  | .inline text => LoadedConfig.ofString find overrides text
  | .file path contents => LoadedConfig.ofFile find overrides path contents

variable (find : Lookup) (overrides : Overrides) (d : Document)

theorem load_goesBy :
    LoadedConfig.GoesBy find overrides d.origin d.config? (d.load find overrides) := by
  cases d with
  | inline text => exact LoadedConfig.ofText_goesBy find overrides _ text
  | file path contents =>
      cases contents with
      | error cause => exact ⟨fun _ => ⟨_, rfl, rfl⟩, nofun⟩
      | ok text => exact LoadedConfig.ofText_goesBy find overrides path text

/-- The log of a load and what the load came to always agree, whatever the document, the plugins and
    the overrides. A document that cannot be read or is no configuration leaves no trace in the log,
    and no diagnostic is returned for it. Of any other, exactly the diagnostics that are returned
    are logged as errors, success is logged exactly if the load succeeds, at the end, and each
    section whose entries are moved is warned of with their number. -/
theorem load_logged :
    let load := d.load find overrides
    (d.config? = none →
      load.events = [] ∧ ∃ e, load.value = .error e ∧ e.diagnostics = []) ∧
    ∀ config, d.config? = some config → LoadedConfig.Logged d.origin config load := by
  intro load
  obtain ⟨unusable, usable⟩ := d.load_goesBy find overrides
  constructor
  · intro without
    obtain ⟨e, failed, none⟩ := unusable without
    exact ⟨congrArg Traced.events failed, e, congrArg Traced.value failed, none⟩
  · intro config is
    have loading : load = LoadedConfig.ofConfig find overrides d.origin config := usable config is
    rw [loading]
    exact LoadedConfig.ofConfig_logged d.origin config find overrides

end Document

end DynamicDns
