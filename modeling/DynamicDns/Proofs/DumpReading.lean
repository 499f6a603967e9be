import DynamicDns.Program
import DynamicDns.Proofs.JsonReading
import Mathlib

/-! # What dumps tell

A dump is read back to the settings and to a summary of each record. The summary
is all that the dump was written from, so dumps are the same just where the
settings and the summaries are.
-/

namespace DynamicDns

/-! ## Parts of values -/

namespace Json

/-- The value of a field. -/
def field? (name : String) : Json → Option Json
  | .object fields => fields.lookup name
  | _ => none

def truth? : Json → Option Bool
  | .bool truth => some truth
  | _ => none

def number? : Json → Option Nat
  | .number n => some n
  | _ => none

def string? : Json → Option String
  | .string text => some text
  | _ => none

/-- A text or null, where null is no text. -/
def optional? : Json → Option (Option String)
  | .null => some none
  | .string text => some (some text)
  | _ => none

/-- The items of an array, each by a reader. -/
def items? {α : Type} (item? : Json → Option α) : Json → Option (List α)
  | .array items => items.mapM item?
  | _ => none

variable {α : Type}

@[simp]
theorem field?_object_cons (name : String) (field : String × Json) (fields : List (String × Json)) :
    field? name (.object (field :: fields)) =
      if name = field.1 then some field.2 else field? name (.object fields) := by
  obtain ⟨name', value⟩ := field
  simp only [field?, List.lookup_cons]
  by_cases found : name = name'
  · rw [if_pos found, beq_iff_eq.mpr found]
  · rw [if_neg found, beq_eq_false_iff_ne.mpr found]

@[simp]
theorem truth?_bool (truth : Bool) : truth? (.bool truth) = some truth := rfl

@[simp]
theorem number?_number (n : Nat) : number? (.number n) = some n := rfl

@[simp]
theorem string?_string (text : String) : string? (.string text) = some text := rfl

@[simp]
theorem optional?_ofOption (text : Option String) : optional? (ofOption text) = some text := by
  cases text <;> rfl

/-- A reader that undoes a writer does so for every item. -/
theorem items?_map {item? : Json → Option α} {write : α → Json}
    (undone : ∀ a, item? (write a) = some a) (items : List α) :
    items? item? (.array (items.map write)) = some items := by
  rw [items?]
  induction items with
  | nil => rfl
  | cons a items ih =>
      rw [List.map_cons, List.mapM_cons, undone, ih]
      rfl

end Json

/-! ## Settings and records -/

/-- The settings that a value tells. -/
def GlobalConfig.ofJson? (value : Json) : Option GlobalConfig := do
  return {
    updatePeriod := ← (← value.field? "update_period_secs").number?
    forcedUpdatePeriod := ← (← value.field? "forced_update_period_secs").number?
    errorUpdatePeriod := ← (← value.field? "error_update_period_secs").number?
    totalIterations := ← (← value.field? "total_iterations").number?
    cacheDir := ← (← value.field? "cache_dir").string?
    fakeAddress := ← (← value.field? "fake_address").truth?
    iface := ← (← value.field? "iface").optional? }

theorem GlobalConfig.ofJson?_toJson (g : GlobalConfig) : ofJson? g.toJson = some g := by
  simp [ofJson?, toJson]

/-- The kind of that name. -/
def SectionKind.ofName? : String → Option SectionKind
  | "provider" => some .provider
  | "custom" => some .custom
  | _ => none

@[simp]
theorem SectionKind.ofName?_name (kind : SectionKind) : ofName? kind.name = some kind := by
  cases kind <;> rfl

/-- Where requests go. -/
structure EndpointSummary where
  name : String
  port : Nat
  deriving Repr, DecidableEq

namespace EndpointSummary

def toJson (e : EndpointSummary) : Json :=
  .object [("name", .string e.name), ("port", .number e.port)]

def ofJson? (value : Json) : Option EndpointSummary := do
  return {
    name := ← (← value.field? "name").string?
    port := ← (← value.field? "port").number? }

@[simp]
theorem ofJson?_toJson (e : EndpointSummary) : ofJson? e.toJson = some e := by
  simp [ofJson?, toJson]

end EndpointSummary

/-- What is told of a record. -/
structure RecordSummary where
  name : String
  kind : SectionKind
  /-- Name of the plugin. -/
  plugin : String
  checkip : EndpointSummary
  checkipPath : String
  update : EndpointSummary
  updatePath : String
  wildcard : Bool
  sslEnabled : Bool
  appendMyip : Bool
  username : Option String
  hostnames : List String
  responses : List String
  deriving Repr, DecidableEq

namespace RecordSummary

def toJson (r : RecordSummary) : Json :=
  .object [
    ("name", .string r.name),
    ("kind", .string r.kind.name),
    ("plugin", .string r.plugin),
    ("checkip", r.checkip.toJson),
    ("checkip_path", .string r.checkipPath),
    ("update", r.update.toJson),
    ("update_path", .string r.updatePath),
    ("wildcard", .bool r.wildcard),
    ("ssl_enabled", .bool r.sslEnabled),
    ("append_myip", .bool r.appendMyip),
    ("credentials", .object [("username", .ofOption r.username)]),
    ("hostnames", .array (r.hostnames.map .string)),
    ("responses", .array (r.responses.map .string))]

def ofJson? (value : Json) : Option RecordSummary := do
  return {
    name := ← (← value.field? "name").string?
    kind := ← SectionKind.ofName? (← (← value.field? "kind").string?)
    plugin := ← (← value.field? "plugin").string?
    checkip := ← EndpointSummary.ofJson? (← value.field? "checkip")
    checkipPath := ← (← value.field? "checkip_path").string?
    update := ← EndpointSummary.ofJson? (← value.field? "update")
    updatePath := ← (← value.field? "update_path").string?
    wildcard := ← (← value.field? "wildcard").truth?
    sslEnabled := ← (← value.field? "ssl_enabled").truth?
    appendMyip := ← (← value.field? "append_myip").truth?
    username := ← (← (← value.field? "credentials").field? "username").optional?
    hostnames := ← (← value.field? "hostnames").items? Json.string?
    responses := ← (← value.field? "responses").items? Json.string? }

theorem ofJson?_toJson (r : RecordSummary) : ofJson? r.toJson = some r := by
  have texts (items : List String) := Json.items?_map Json.string?_string items
  simp [ofJson?, toJson, texts]

end RecordSummary

/-- The record without its secrets and clients. -/
def ProviderRecord.summary (r : ProviderRecord) : RecordSummary where
  name := r.name
  kind := r.kind
  plugin := r.plugin.name
  checkip := ⟨r.checkip.name.text, r.checkip.port⟩
  checkipPath := r.checkipPath.text
  update := ⟨r.update.name.text, r.update.port⟩
  updatePath := r.updatePath.text
  wildcard := r.wildcard
  sslEnabled := r.sslEnabled
  appendMyip := r.appendMyip
  username := r.credentials.username.map BoundedString.text
  hostnames := r.hostnames.items.map BoundedString.text
  responses := r.responses.items.map BoundedString.text

theorem ProviderRecord.toJson_summary (r : ProviderRecord) : r.summary.toJson = r.toJson := by
  simp only [summary, RecordSummary.toJson, toJson, List.map_map]
  rfl

/-! ## Configurations -/

/-- What is told of a configuration. -/
structure ConfigSummary where
  global : GlobalConfig
  records : List RecordSummary
  deriving Repr, DecidableEq

namespace ConfigSummary

def toJson (s : ConfigSummary) : Json :=
  .object [
    ("global", s.global.toJson),
    ("providers", .array (s.records.map RecordSummary.toJson))]

def ofJson? (value : Json) : Option ConfigSummary := do
  return {
    global := ← GlobalConfig.ofJson? (← value.field? "global")
    records := ← (← value.field? "providers").items? RecordSummary.ofJson? }

theorem ofJson?_toJson (s : ConfigSummary) : ofJson? s.toJson = some s := by
  have records := Json.items?_map RecordSummary.ofJson?_toJson s.records
  simp [ofJson?, toJson, GlobalConfig.ofJson?_toJson, records]

def ofText? (text : String) : Option ConfigSummary := (Json.ofText? text).bind ofJson?

end ConfigSummary

namespace LoadedConfig

/-- The configuration without secrets and clients. -/
def summary (l : LoadedConfig) : ConfigSummary where
  global := l.global
  records := l.providers.records.map ProviderRecord.summary

theorem toJson_summary (l : LoadedConfig) : l.summary.toJson = l.toJson := by
  have records : RecordSummary.toJson ∘ ProviderRecord.summary = ProviderRecord.toJson :=
    funext ProviderRecord.toJson_summary
  simp only [summary, ConfigSummary.toJson, toJson, List.map_map, records]

theorem ofText?_dump (l : LoadedConfig) : Json.ofText? l.dump = some l.toJson :=
  Json.ofText?_pretty l.toJson 0

theorem summary_ofText?_dump (l : LoadedConfig) :
    ConfigSummary.ofText? l.dump = some l.summary := by
  rw [ConfigSummary.ofText?, ofText?_dump, Option.bind_some, ← toJson_summary,
    ConfigSummary.ofJson?_toJson]

theorem dump_eq_iff (l m : LoadedConfig) : l.dump = m.dump ↔ l.summary = m.summary := by
  constructor
  · intro same
    have told := summary_ofText?_dump l
    rw [same, summary_ofText?_dump] at told
    exact (Option.some.inj told).symm
  · intro same
    rw [dump, dump, ← toJson_summary, ← toJson_summary, same]

end LoadedConfig

theorem Program.run_dump {line : CommandLine} {contents : Except ReadError String}
    {l : LoadedConfig} (loaded : (load line contents).value = .ok l)
    (noCheck : line.checkConfig = false) (asked : line.dump = true) :
    ∃ logged, run line contents = .ended success (logged ++ [.text (l.dump ++ "\n")]) := by
  simp only [run, loaded, noCheck, asked]
  exact ⟨_, rfl⟩

namespace LoadedConfig

/-- A program that is asked for a dump prints that of what it loaded, and ends well. The dump is
    well-formed and is read back to the settings and to the summaries of all records in their
    order. Two configurations have the same dump just where these are the same. -/
theorem dump_faithful (l m : LoadedConfig) :
    (∀ line contents, (Program.load line contents).value = .ok l → line.checkConfig = false →
      line.dump = true → ∃ logged, Program.run line contents =
        .ended Program.success (logged ++ [.text (l.dump ++ "\n")])) ∧
    Json.ofText? l.dump = some l.toJson ∧
    ConfigSummary.ofText? l.dump = some l.summary ∧
    (l.dump = m.dump ↔ l.summary = m.summary) := by
  refine ⟨?_, ofText?_dump l, summary_ofText?_dump l, dump_eq_iff l m⟩
  intro line contents loaded noCheck asked
  exact Program.run_dump loaded noCheck asked

/-- A load that leaves a quote and a letter beyond ASCII in the settings. -/
def quotedIface : LoadedConfig where
  global := { GlobalConfig.ofConfig {} {} with iface := some "\"\u00e9" }
  providers := .empty

/-- Arguments that ask for a dump. -/
def dumping : CommandLine where
  config := "inadyn.conf"
  iface := none
  once := false
  checkConfig := false
  dump := true
  logLevel := .info

theorem dump_faithful_quotedIface :
    (Program.load dumping (.ok "iface = '\"\u00e9'")).value = .ok quotedIface ∧
    (∃ logged, Program.run dumping (.ok "iface = '\"\u00e9'") =
      .ended Program.success (logged ++ [.text (quotedIface.dump ++ "\n")])) ∧
    ConfigSummary.ofText? quotedIface.dump = some quotedIface.summary := by
  have loaded : (Program.load dumping (.ok "iface = '\"\u00e9'")).value = .ok quotedIface := by
    cbv
  obtain ⟨printed, -, told, -⟩ := dump_faithful quotedIface quotedIface
  exact ⟨loaded, printed dumping _ loaded rfl rfl, told⟩

end LoadedConfig

end DynamicDns
