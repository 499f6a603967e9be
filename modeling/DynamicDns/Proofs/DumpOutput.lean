import DynamicDns.Proofs.BuildLosses
import DynamicDns.Proofs.DaemonRun
import DynamicDns.Proofs.DumpReading
import DynamicDns.Proofs.LoadLog

/-! # Output of dumps

The log goes to standard output, and so does a dump. A dump stands there alone
just where the log shows nothing of the load. From the level for information on
it shows at least that the program starts. Above that it shows warnings, and
there are none if the records keep all that their sections give.
-/

namespace DynamicDns

/-! ## Sections without warnings -/

namespace Section

/-- A record keeps all of the section, and the section does without the deprecated option. -/
structure KeptWhole (s : Section) : Prop where
  aliases : s.common.aliases = []
  username : ∀ text, s.common.username = some text → text.utf8ByteSize ≤ 128
  password : ∀ text, s.common.password = some text → text.utf8ByteSize ≤ 128
  hostnames : s.common.hostname.length ≤ 50
  responses : ∀ options, s = .custom options →
    options.ddnsResponse.length ≤ 5 ∧ ∀ text ∈ options.ddnsResponse, text.utf8ByteSize ≤ 64

theorem keptWhole_iff {title : String} {s : Section} :
    s.KeptWhole ↔ s.common.aliases = [] ∧ s.warnings title = [] := by
  rw [warnings_eq_nil_iff]
  constructor
  · rintro ⟨aliases, username, password, hostnames, responses⟩
    have kept : s.givenResponses.length ≤ 5 ∧
        ∀ text ∈ s.givenResponses, text.utf8ByteSize ≤ 64 := by
      cases s with
      | provider s => simp [givenResponses]
      | custom s => exact responses s rfl
    refine ⟨aliases, ?_⟩
    intro loss
    cases loss with
    | username => exact Loss.not_lt_size_iff.mpr username
    | password => exact Loss.not_lt_size_iff.mpr password
    | hostnames => exact Nat.not_lt.mpr hostnames
    | longResponses => exact (Loss.responses_kept_iff.mpr kept).1
    | surplusResponses => exact (Loss.responses_kept_iff.mpr kept).2
  · rintro ⟨aliases, none⟩
    refine ⟨aliases, Loss.not_lt_size_iff.mp (none .username),
      Loss.not_lt_size_iff.mp (none .password), Nat.not_lt.mp (none .hostnames), ?_⟩
    rintro options rfl
    exact Loss.responses_kept_iff.mp ⟨none .longResponses, none .surplusResponses⟩

theorem ReachesPlugin.checkEvents_eq_nil_iff {s : Section} (reaches : s.ReachesPlugin) :
    s.checkEvents = [] ↔ s.common.aliases = [] := by
  have lists : s.common.aliases = [] ∨ s.common.hostname = [] := by
    cases s with
    | provider s => exact reaches.2.1
    | custom s => exact reaches.2
  simp only [checkEvents, reaches.reachesAlias, true_and, ite_eq_right_iff, reduceCtorEq, imp_false]
  tauto

end Section

/-! ## What the log shows of a load -/

theorem Output.ofEvents_eq_nil_iff {limit : Level} {events : List Event} :
    ofEvents limit events = [] ↔ ∀ event ∈ events, ¬ event.level.isShownAt limit := by
  simp [ofEvents, List.filter_eq_nil_iff]

/-- Warnings stay unseen only where there are none. -/
theorem unseen_iff_eq_nil {events : List Event} (warn : ∀ event ∈ events, event.level = .warn) :
    (∀ event ∈ events, ¬ event.level.isShownAt .warn) ↔ events = [] := by
  constructor
  · intro unseen
    apply List.eq_nil_iff_forall_not_mem.mpr
    intro event member
    apply unseen event member
    rw [warn event member]
    rfl
  · rintro rfl
    simp

namespace LoadedConfig

variable {find : Lookup} {overrides : Overrides} {origin : String} {config : Config}
  {loaded : LoadedConfig}

theorem buildEvents_unseen_iff {s : Section} {record : ProviderRecord} :
    (∀ event ∈ buildEvents (s, record), ¬ event.level.isShownAt .warn) ↔
      s.warnings record.name = [] := by
  rw [buildEvents, List.forall_mem_append, unseen_iff_eq_nil Section.level_of_mem_warnings,
    and_iff_left]
  intro event member
  rcases List.mem_pair.mp member with rfl | rfl <;> simp [ProviderRecord.builtEvent, Event.level,
    Level.isShownAt, Level.number]

theorem checks_unseen_iff (reach : config.AllReachPlugin) :
    (∀ event ∈ (config.sections.map Prod.snd).flatMap Section.checkEvents,
      ¬ event.level.isShownAt .warn) ↔
      ∀ s ∈ config.sections.map Prod.snd, s.common.aliases = [] := by
  rw [List.forall_mem_flatMap]
  apply forall₂_congr
  intro s member
  rw [unseen_iff_eq_nil Section.level_of_mem_checkEvents, (reach s member).checkEvents_eq_nil_iff]

theorem builds_unseen_iff {sections : List Section} {records : List ProviderRecord}
    (same : sections.length = records.length) (mended : ∀ s ∈ sections, s.common.aliases = []) :
    (∀ event ∈ (sections.zip records).flatMap buildEvents, ¬ event.level.isShownAt .warn) ↔
      ∀ s ∈ sections, s.KeptWhole := by
  rw [List.forall_mem_flatMap]
  constructor
  · intro unseen s member
    rw [← List.map_fst_zip (Nat.le_of_eq same)] at member
    obtain ⟨⟨s, record⟩, paired, rfl⟩ := List.mem_map.mp member
    apply Section.keptWhole_iff.mpr
    exact ⟨mended s (List.of_mem_zip paired).1, buildEvents_unseen_iff.mp (unseen _ paired)⟩
  · rintro kept ⟨s, record⟩ paired
    apply buildEvents_unseen_iff.mpr
    exact (Section.keptWhole_iff.mp (kept s (List.of_mem_zip paired).1)).2

/-- The log kept for warnings shows nothing of a load that succeeds just where the records keep
    everything. -/
theorem load_unseen_iff (succeeded : (ofConfig find overrides origin config).value = .ok loaded) :
    (∀ event ∈ (ofConfig find overrides origin config).events, ¬ event.level.isShownAt .warn) ↔
      ∀ s ∈ config.sections.map Prod.snd, s.KeptWhole := by
  have reach := Config.allReachPlugin_of_unrefused (phases_of_loaded succeeded).1
  have same : (config.mended.sections.map Prod.snd).length = loaded.providers.records.length := by
    rw [Config.sections_mended_snd, List.length_map, (builds_of_loaded succeeded).length_eq]
  have mended : ∀ s ∈ config.mended.sections.map Prod.snd, s.common.aliases = [] := by
    rw [Config.sections_mended_snd, List.forall_mem_map]
    exact fun s _ => s.migrated_aliases
  have period : ∀ event ∈ config.periodEvents, ¬ event.level.isShownAt .warn := by
    intro event member
    rw [Config.level_of_mem_periodEvents event member]
    decide
  have last (event : Event)
      (member : event ∈ [Event.configLoaded loaded.providers.size origin loaded.global.updatePeriod]) :
      ¬ event.level.isShownAt .warn := by
    cases List.mem_singleton.mp member
    exact Bool.false_ne_true
  have whole : (∀ s ∈ (config.sections.map Prod.snd).map Section.migrated, s.KeptWhole) ↔
      ∀ s ∈ config.sections.map Prod.snd, s.migrated.KeptWhole := List.forall_mem_map
  rw [events_of_loaded succeeded, List.forall_mem_append, List.forall_mem_append,
    List.forall_mem_append, and_iff_right period, and_iff_left last, checks_unseen_iff reach,
    builds_unseen_iff same mended, Config.sections_mended_snd, whole]
  constructor
  · rintro ⟨unused, kept⟩ s member
    rw [← Section.migrated_of_aliases (unused s member)]
    exact kept s member
  · intro kept
    refine ⟨fun s member => (kept s member).aliases, ?_⟩
    intro s member
    rw [Section.migrated_of_aliases (kept s member).aliases]
    exact kept s member

/-- The log kept for errors shows nothing of it in any case. -/
theorem no_errors_of_loaded (succeeded : (ofConfig find overrides origin config).value = .ok loaded) :
    ∀ event ∈ (ofConfig find overrides origin config).events, event.level ≠ .error := by
  have errors := (ofConfig_logged origin config find overrides).errors
  rw [succeeded] at errors
  exact Event.messagesAt_eq_nil_iff.mp errors

end LoadedConfig

theorem PluginRegistry.level_of_mem_installAll (r : PluginRegistry) (plugins : List Plugin) :
    ∀ event ∈ (r.installAll plugins).events, event.level = .debug := by
  induction plugins generalizing r with
  | nil => simp [installAll]
  | cons p rest ih =>
      simp only [installAll, install, Traced.emit, Traced.events_bind, Traced.events_emitIf,
        List.forall_mem_append]
      refine ⟨⟨by simp [Event.level], by simp⟩, ?_, ih _⟩
      split <;> simp [Event.level]

/-- No command line asks for a dump and for a check at once. -/
theorem CommandLine.checkConfig_of_dump {envLevel : Option String} {args : List String}
    {line : CommandLine} (parsed : parse envLevel args = .ok line) (asked : line.dump = true) :
    line.checkConfig = false := by
  obtain ⟨first, -, parsed⟩ := bind_eq_ok_iff.mp parsed
  obtain ⟨second, -, parsed⟩ := bind_eq_ok_iff.mp parsed
  have last : ∃ p : Progress, p.dump = line.dump ∧ p.checkConfig = line.checkConfig ∧
      (p.dump && p.checkConfig) = false := by
    dsimp only at parsed
    split at parsed
    all_goals
      obtain ⟨p, -, parsed⟩ := bind_eq_ok_iff.mp parsed
      cases excluded : p.dump && p.checkConfig with
      | true =>
          rw [excluded] at parsed
          cases parsed
      | false =>
          rw [excluded] at parsed
          cases parsed
          exact ⟨p, rfl, rfl, excluded⟩
  obtain ⟨p, dump, checkConfig, excluded⟩ := last
  simpa [dump, checkConfig, asked] using excluded

namespace Program

variable {line : CommandLine} {contents : Except ReadError String} {loaded : LoadedConfig}

/-- What a load tells when it succeeds: that the program starts, of the plugins, and what the load of
    the configuration tells. -/
theorem config_of_load (succeeded : (load line contents).value = .ok loaded) :
    ∃ text config find plugins, contents = .ok text ∧ Config.ofToml text = .ok config ∧
      (∀ event ∈ plugins, event.level = .debug) ∧
      let loading := LoadedConfig.ofConfig find ⟨line.iface, line.once⟩ line.config config
      loading.value = .ok loaded ∧
      (load line contents).events = .starting :: (plugins ++ loading.events) := by
  cases contents with
  | error cause => cases succeeded
  | ok text =>
      obtain ⟨config, read, succeeded⟩ := LoadedConfig.config_of_ofText succeeded
      refine ⟨text, config, _, _, rfl, read,
        PluginRegistry.level_of_mem_installAll .empty Plugin.builtin, succeeded, ?_⟩
      simp only [load, LoadedConfig.ofFile, LoadedConfig.ofText, Traced.events_bind, read]
      rfl

/-- The log is empty just where it is kept for errors, or for warnings of which there are none. -/
theorem log_eq_nil_iff (succeeded : (load line contents).value = .ok loaded) :
    ∃ text config, contents = .ok text ∧ Config.ofToml text = .ok config ∧
      (Output.ofEvents line.logLevel (load line contents).events = [] ↔ line.logLevel = .error ∨
        line.logLevel = .warn ∧ ∀ s ∈ config.sections.map Prod.snd, s.KeptWhole) := by
  obtain ⟨text, config, find, plugins, given, read, debug, loads, told⟩ := config_of_load succeeded
  refine ⟨text, config, given, read, ?_⟩
  rw [Output.ofEvents_eq_nil_iff, told, List.forall_mem_cons, List.forall_mem_append]
  cases line.logLevel with
  | error =>
      have errors : ∀ event ∈ (LoadedConfig.ofConfig find ⟨line.iface, line.once⟩ line.config
          config).events, ¬ event.level.isShownAt .error := by
        intro event member shown
        have other := LoadedConfig.no_errors_of_loaded loads event member
        cases level : event.level <;> simp [level, Level.isShownAt, Level.number] at other shown
      simp only [true_or, iff_true]
      refine ⟨by decide, ?_, errors⟩
      intro event member
      rw [debug event member]
      decide
  | warn =>
      have unseen : ∀ event ∈ plugins, ¬ event.level.isShownAt .warn := by
        intro event member
        rw [debug event member]
        decide
      have starting : ¬ Event.starting.level.isShownAt .warn := by decide
      simp only [reduceCtorEq, false_or, true_and]
      rw [and_iff_right starting, and_iff_right unseen, LoadedConfig.load_unseen_iff loads]
  | info | debug | trace =>
      simp [Event.level, Level.isShownAt, Level.number]

/-- All that the program prints up to its end or to its wait. -/
def printed (p : Program) : String := String.join (p.output.map Output.render)

theorem logLine_ne_empty (event : Event) : event.logLine ≠ "" := by
  intro empty
  have ended := congrArg String.length empty
  simp [Event.logLine] at ended
  exact absurd ended.2 (by decide)

/-- Text comes out alone just where the log before it is empty, since no line of a log is. -/
theorem printed_eq_iff {exitCode : Nat} {limit : Level} {events : List Event} {text : String} :
    printed (.ended exitCode (Output.ofEvents limit events ++ [.text text])) = text ↔
      Output.ofEvents limit events = [] := by
  have parts : printed (.ended exitCode (Output.ofEvents limit events ++ [.text text])) =
      String.join ((Output.ofEvents limit events).map Output.render) ++ text := by
    rw [printed, output, List.map_append, String.join_append]
    simp [Output.render]
  rw [parts]
  constructor
  · intro alone
    unfold Output.ofEvents at alone ⊢
    cases shown : events.filter (·.level.isShownAt limit) with
    | nil => rfl
    | cons event rest =>
        -- Each line has a character at least, so the text with lines before it is longer.
        have length := congrArg String.length alone
        simp [shown, Output.render, logLine_ne_empty event] at length
  · intro silent
    simp [silent]

/-- A program that is asked for a dump prints the log of its load, and then the dump. All that it
    prints is the dump just where the log is kept for errors, or else for warnings and the records
    keep all that the sections give. -/
theorem start_dump_alone_iff {envLevel : Option String} {args : List String} {line : CommandLine}
    {read : String → Except ReadError String} {loaded : LoadedConfig}
    (parsed : CommandLine.parse envLevel args = .ok line) (asked : line.dump = true)
    (succeeded : (load line (read line.config)).value = .ok loaded) :
    start envLevel read args = .ended success
      (Output.ofEvents line.logLevel (load line (read line.config)).events ++
        [.text (loaded.dump ++ "\n")]) ∧
    ∃ text config, read line.config = .ok text ∧ Config.ofToml text = .ok config ∧
      ((start envLevel read args).printed = loaded.dump ++ "\n" ↔ line.logLevel = .error ∨
        line.logLevel = .warn ∧ ∀ s ∈ config.sections.map Prod.snd, s.KeptWhole) := by
  have dumped : start envLevel read args = .ended success
      (Output.ofEvents line.logLevel (load line (read line.config)).events ++
        [.text (loaded.dump ++ "\n")]) := by
    simp only [start, parsed, run, succeeded, asked, CommandLine.checkConfig_of_dump parsed asked]
    rfl
  obtain ⟨text, config, given, reads, silent⟩ := log_eq_nil_iff succeeded
  refine ⟨dumped, text, config, given, reads, ?_⟩
  rw [dumped, printed_eq_iff]
  exact silent

/-- What the document without options loads as. -/
def loadOfNothing : LoadedConfig where
  global := GlobalConfig.ofConfig {} {}
  providers := .empty

open LoadedConfig (dumping)

theorem start_dump_alone_iff_atError :
    CommandLine.parse none ["--dump", "-f", "inadyn.conf", "-l", "error"] =
      .ok { dumping with logLevel := .error } ∧
    (load { dumping with logLevel := .error } (.ok "")).value = .ok loadOfNothing ∧
    (start none (fun _ => .ok "") ["--dump", "-f", "inadyn.conf", "-l", "error"]).printed =
      loadOfNothing.dump ++ "\n" := by
  have parsed : CommandLine.parse none ["--dump", "-f", "inadyn.conf", "-l", "error"] =
      .ok { dumping with logLevel := .error } := by
    decide +kernel
  have loaded : (load { dumping with logLevel := .error } (.ok "")).value = .ok loadOfNothing := by
    decide +kernel
  obtain ⟨-, _, _, -, -, alone⟩ :=
    @start_dump_alone_iff none _ _ (fun _ => .ok "") _ parsed rfl loaded
  exact ⟨parsed, loaded, alone.mpr (.inl rfl)⟩

theorem not_dump_alone_atInfo :
    CommandLine.parse none ["--dump", "-f", "inadyn.conf"] = .ok dumping ∧ dumping.dump = true ∧
    (load dumping (.ok "")).value = .ok loadOfNothing ∧
    (start none (fun _ => .ok "") ["--dump", "-f", "inadyn.conf"]).printed ≠
      loadOfNothing.dump ++ "\n" := by
  have parsed : CommandLine.parse none ["--dump", "-f", "inadyn.conf"] = .ok dumping := by
    decide +kernel
  have loaded : (load dumping (.ok "")).value = .ok loadOfNothing := by
    decide +kernel
  refine ⟨parsed, rfl, loaded, ?_⟩
  decide +kernel

end Program

end DynamicDns
