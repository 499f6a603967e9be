import DynamicDns.Program
import DynamicDns.Proofs.AliasSynonym
import DynamicDns.Proofs.ClampedPeriod
import DynamicDns.Proofs.RegistryJournal
import DynamicDns.Proofs.SchemaReading

/-! # Runs of the daemon

From a document that loads to the last line of the log. The daemon goes through
its records once: each is given its token and then reported. After that come the
line that it is ready, the signal, and the number of records that it releases,
which is the number of sections that the document has.
-/

namespace DynamicDns

/-! ## One record after another -/

/-- Make the token of a record and report the record as ready. -/
def ProviderRecord.makeReady (r : ProviderRecord) : Traced ProviderRecord := do
  let r := r.mapCredentials (·.encode.1)
  Traced.emit (LoadedConfig.readyEvent r)
  return r

theorem ProviderRecord.each_makeReady (earlier : Nat) (records : List ProviderRecord) :
    Traced.each (fun _ => makeReady) earlier records =
      { value := records.map (·.mapCredentials (·.encode.1))
        events := records.map LoadedConfig.readyEvent } := by
  induction records generalizing earlier with
  | nil => rfl
  | cons r rest ih =>
      rw [Traced.each, ih]
      simp only [makeReady, Traced.emit, bind, pure, List.append_nil, List.map_cons]
      rfl

namespace Credentials

/-- The credentials with the token of their own username and password, and without one if there is
    no password. -/
def withToken (c : Credentials) : Credentials :=
  { c with token := c.password.map fun password => basicToken c.usernameText password.text }

theorem encode_of_token_none {c : Credentials} (unset : c.token = none) :
    c.encode.1 = c.withToken := by
  obtain ⟨username, password, token⟩ := c
  cases unset
  cases password <;> rfl

end Credentials

/-! ## What the sections of a document come to -/

theorem ProviderSection.hostnames_of_accepted {find : String → Option Plugin} {kind : SectionKind}
    {provider : String} {s : ProviderSection}
    (accepted : s.commonRefusal? find kind provider = none) : s.migrated.hostname ≠ [] := by
  intro none
  simp [commonRefusal?, checkHostnames, none] at accepted

theorem Section.hostnames_of_accepted {find : String → Option Plugin} {s : Section}
    (accepted : (s.validate find).value.error = none) : s.migrated.common.hostname ≠ [] := by
  obtain ⟨-, name, -, passed⟩ := common_of_accepted accepted
  rw [migrated_common]
  exact ProviderSection.hostnames_of_accepted passed

theorem Config.hostnames_of_unrefused {find : Lookup} {config : Config}
    (unrefused : (config.validate find).value.2 = []) :
    ∀ s ∈ config.sections.map Prod.snd, s.common.hostname ++ s.common.aliases ≠ [] := by
  intro s member
  obtain ⟨v, listed, told, rfl⟩ := exists_of_mem_left (forall₂_verdicts find config) member
  have accepted := unrefused_iff_verdicts.mp unrefused _ listed
  rw [← (Section.reachesPlugin_of_accepted accepted).hostname_migrated]
  exact Section.hostnames_of_accepted accepted

theorem Config.document_of_ofToml {text : String} {config : Config}
    (read : ofToml text = .ok config) :
    ∃ document, Toml.Entries.ofString text = some document ∧ config = Schema.config document := by
  unfold ofToml at read
  cases parsed : Toml.Entries.ofString text with
  | none =>
      rw [parsed] at read
      cases read
  | some document =>
      simp only [parsed] at read
      cases outcome : ofDocument document with
      | error misfit =>
          rw [outcome] at read
          cases read
      | ok described =>
          rw [outcome] at read
          cases read
          exact ⟨document, rfl, ((Schema.ofDocument_reads document config).mp outcome).2⟩

/-- The elements that a document lists under an option. -/
def Toml.Entries.listed (document : Toml.Entries) (option : String) : List Toml.Value :=
  (document.value? option).elim [] Toml.Value.elements

namespace Schema

theorem providers_length (document : Toml.Entries) :
    (config document).providers.length = (document.listed "provider").length := by
  unfold config Toml.Entries.listed
  cases document.value? "provider" with
  | none => rfl
  | some value => exact List.length_map _

theorem customs_length (document : Toml.Entries) :
    (config document).customs.length = (document.listed "custom").length := by
  unfold config Toml.Entries.listed
  cases document.value? "custom" with
  | none => rfl
  | some value => exact List.length_map _

end Schema

namespace LoadedConfig

variable {find : Lookup} {overrides : Overrides} {origin : String} {config : Config}
  {loaded : LoadedConfig}

theorem token_of_loaded (succeeded : (ofConfig find overrides origin config).value = .ok loaded) :
    ∀ record ∈ loaded.providers.records, record.credentials.token = none := by
  intro record member
  obtain ⟨s, -, told, built⟩ := exists_of_mem_right (builds_of_loaded succeeded) member
  exact ProviderRecord.token_of_build built.symm

theorem hostname_count_of_loaded
    (succeeded : (ofConfig find overrides origin config).value = .ok loaded) :
    ∀ record ∈ loaded.providers.records,
      1 ≤ record.hostnames.length ∧ record.hostnames.length ≤ 50 := by
  intro record member
  obtain ⟨s, listed, kept⟩ := exists_of_mem_right (hostnames_of_loaded succeeded) member
  have some : 0 < (s.common.hostname ++ s.common.aliases).length :=
    List.length_pos_of_ne_nil (Config.hostnames_of_unrefused (phases_of_loaded succeeded).1 s listed)
  have counted := congrArg List.length kept
  rw [List.length_map, List.length_take] at counted
  change 1 ≤ record.hostnames.items.length ∧ record.hostnames.items.length ≤ 50
  omega

/-- A document that loads is a configuration that loads. -/
theorem config_of_ofText {text : String}
    (succeeded : (ofText find overrides origin text).value = .ok loaded) :
    ∃ config, Config.ofToml text = .ok config ∧
      (ofConfig find overrides origin config).value = .ok loaded := by
  unfold ofText at succeeded
  cases read : Config.ofToml text with
  | error cause =>
      rw [read] at succeeded
      cases succeeded
  | ok config =>
      rw [read] at succeeded
      exact ⟨config, rfl, succeeded⟩

/-! ## The run -/

/-- The daemon makes tokens and reports in one pass over its records. -/
theorem start_eq (l : LoadedConfig) : l.start = do
    let records ← Traced.each (fun _ => ProviderRecord.makeReady) 0 l.providers.records
    Traced.emit (.daemonReady l.global.updatePeriod l.global.totalIterations)
    return { l with providers := ⟨records⟩ } := by
  rw [ProviderRecord.each_makeReady]
  rfl

theorem events_start (l : LoadedConfig) : l.start.events =
    l.providers.records.map readyEvent ++
      [.daemonReady l.global.updatePeriod l.global.totalIterations] := rfl

theorem size_start (l : LoadedConfig) : l.start.value.providers.size = l.providers.size :=
  List.length_map _

theorem events_stop (l : LoadedConfig) (signal : Signal) : (l.stop signal).events = [
    .signalReceived signal, .recordsReleased l.providers.size, .daemonStopped l.providers.size] :=
  rfl

theorem events_serve (l : LoadedConfig) (signal : Signal) : (l.serve signal).events =
    l.providers.records.map readyEvent ++ [
      .daemonReady l.global.updatePeriod l.global.totalIterations, .signalReceived signal,
      .recordsReleased l.providers.size, .daemonStopped l.providers.size] := by
  rw [serve, Traced.events_bind, events_start, events_stop, size_start, List.append_assoc]
  rfl

/-- Of the daemon's events the log shows all but the one from the registry. -/
theorem shown_serve (l : LoadedConfig) (signal : Signal) :
    Output.ofEvents .info (l.serve signal).events =
      (l.providers.records.map readyEvent ++ [
        Event.daemonReady l.global.updatePeriod l.global.totalIterations,
        Event.signalReceived signal, Event.daemonStopped l.providers.size]).map .log := by
  have ready : (l.providers.records.map readyEvent).filter (·.level.isShownAt .info) =
      l.providers.records.map readyEvent := by
    apply List.filter_eq_self.mpr
    intro event member
    obtain ⟨record, -, rfl⟩ := List.mem_map.mp member
    rfl
  rw [Output.ofEvents, events_serve, List.filter_append, ready]
  rfl

end LoadedConfig

/-- A program that is asked for nothing else ends up as the daemon. Its log goes on where the load
    ended, up to the wait for the signal and from there. -/
theorem Program.run_daemon {line : CommandLine} {contents : Except ReadError String}
    {l : LoadedConfig} (loaded : (load line contents).value = .ok l)
    (noCheck : line.checkConfig = false) (noDump : line.dump = false) (signal : Signal) :
    (run line contents).output ++ (run line contents).farewell signal =
        Output.ofEvents line.logLevel ((load line contents).events ++ (l.serve signal).events) ∧
      (run line contents).exitCode = success := by
  have waiting : run line contents = .waiting line.logLevel
      (Output.ofEvents line.logLevel ((load line contents).events ++ l.start.events))
      l.start.value := by
    simp only [run, loaded, noCheck, noDump]
    rfl
  rw [waiting]
  constructor
  · simp only [output, farewell, Output.ofEvents, LoadedConfig.serve, Traced.events_bind,
      List.filter_append, List.map_append, List.append_assoc]
  · rfl

namespace LoadedConfig

variable {find : Lookup} {overrides : Overrides} {origin text : String} {loaded : LoadedConfig}

/-- The daemon accounts for every section of its document. There is one record for each, with one
    to fifty hostnames. Going through them in order it gives each the token of its own account and
    reports it. Then it reports its period, which is the one of the document moved into its bounds,
    the signal and how many records it has released. -/
theorem serve_accounts (succeeded : (ofText find overrides origin text).value = .ok loaded)
    (signal : Signal) :
    ∃ document, Toml.Entries.ofString text = some document ∧
      let records := loaded.providers.records
      let count := (document.listed "provider").length + (document.listed "custom").length
      let period := (max 120 (min (Schema.config document).period 864000)).toNat
      records.length = count ∧
      (∀ record ∈ records, 1 ≤ record.hostnames.length ∧ record.hostnames.length ≤ 50) ∧
      loaded.start = (do
        let records ← Traced.each (fun _ => ProviderRecord.makeReady) 0 records
        Traced.emit (.daemonReady period loaded.global.totalIterations)
        return { loaded with providers := ⟨records⟩ }) ∧
      loaded.start.value.providers.records =
        records.map (·.mapCredentials Credentials.withToken) ∧
      (loaded.serve signal).events =
        records.map (fun r => .providerReady r.name r.hostnames.length r.update) ++ [
          .daemonReady period loaded.global.totalIterations, .signalReceived signal,
          .recordsReleased count, .daemonStopped count] ∧
      Output.ofEvents .info (loaded.serve signal).events =
        (records.map (fun r => Event.providerReady r.name r.hostnames.length r.update) ++ [
          Event.daemonReady period loaded.global.totalIterations, Event.signalReceived signal,
          Event.daemonStopped count]).map .log ∧
      (loaded.serve signal).value.providers = .empty := by
  obtain ⟨config, read, succeeded⟩ := config_of_ofText succeeded
  obtain ⟨document, parsed, rfl⟩ := Config.document_of_ofToml read
  have count : loaded.providers.size =
      (document.listed "provider").length + (document.listed "custom").length := by
    rw [size_of_loaded succeeded, Schema.providers_length, Schema.customs_length]
  have tokens : loaded.start.value.providers.records =
      loaded.providers.records.map (·.mapCredentials Credentials.withToken) := by
    apply List.map_congr_left
    intro record member
    rw [ProviderRecord.mapCredentials, Credentials.encode_of_token_none
      (token_of_loaded succeeded record member)]
    rfl
  have period : loaded.global.updatePeriod =
      (max 120 (min (Schema.config document).period 864000)).toNat := by
    rw [updatePeriod_of_loaded succeeded, clampPeriod_eq_toNat]
  refine ⟨document, parsed, count, hostname_count_of_loaded succeeded, ?_, tokens, ?_, ?_, rfl⟩
  · rw [start_eq, period]
  · rw [events_serve, period, count]
    rfl
  · rw [shown_serve, period, count]
    rfl

/-- An account with a password and one without, and a period that is too short. -/
def twoAccounts : String :=
  "period = 1\n[[custom]]\nddns-server = \"b\"\nhostname = [\"h\", \"i\"]\n" ++
  "[[provider]]\nname = \"dynu.com\"\nusername = \"u\"\npassword = \"p\"\nhostname = \"g\""

set_option maxRecDepth 100000 in
theorem serve_accounts_twoAccounts : ∃ loaded,
    (ofText PluginRegistry.builtin.lookup {} "ddnsd.toml" twoAccounts).value = .ok loaded ∧
    loaded.start.value.providers.records.map (·.credentials.token) = [some "dTpw", none] ∧
    (loaded.serve .terminate).events.map Event.message = [
      "Provider dynu.com: 1 hostname(s) via api.dynu.com:80",
      "Provider custom: 2 hostname(s) via b:80",
      "Daemon initialized, update period 120s, running until stopped",
      "Received shutdown signal: SIGTERM", "Released 2 provider record(s)",
      "Shutting down daemon, released 2 provider(s)"] ∧
    (loaded.serve .terminate).value.providers = .empty := by
  have loads : ((ofText PluginRegistry.builtin.lookup {} "ddnsd.toml" twoAccounts).value.toOption.map
      fun l => (l.start.value.providers.records.map (·.credentials.token),
        (l.serve .terminate).events.map Event.message)) = some ([some "dTpw", none], [
      "Provider dynu.com: 1 hostname(s) via api.dynu.com:80",
      "Provider custom: 2 hostname(s) via b:80",
      "Daemon initialized, update period 120s, running until stopped",
      "Received shutdown signal: SIGTERM", "Released 2 provider record(s)",
      "Shutting down daemon, released 2 provider(s)"]) := by
    decide +kernel
  cases succeeded : (ofText PluginRegistry.builtin.lookup {} "ddnsd.toml" twoAccounts).value with
  | error e =>
      rw [succeeded] at loads
      cases loads
  | ok loaded =>
      obtain ⟨-, -, -, -, -, -, -, -, released⟩ := serve_accounts succeeded .terminate
      rw [succeeded] at loads
      obtain ⟨tokens, messages⟩ := Prod.mk.inj (Option.some.inj loads)
      exact ⟨loaded, rfl, tokens, messages, released⟩

end LoadedConfig

end DynamicDns
