import DynamicDns.Plugin.Builtin
import DynamicDns.Proofs.RegistryJournal

/-! # Shape of records

Whatever section a record was built from, and whatever plugin answered, it keeps
to its limits, its endpoints can be connected to, and its clients go to these
endpoints. Sections need not have passed any check. The sizes of texts and lists
are those of their types; colons, ports, clients and what only custom sections
have are matters of the build. All that happens to a record later is that its
token is written, so a registry holds no other records.
-/

namespace DynamicDns

namespace Targets

/-- Both servers are endpoints that can be connected to. -/
structure WellFormed (t : Targets) : Prop where
  checkip : t.checkip.WellFormed
  update : t.update.WellFormed

theorem wellFormed_of_resolve {option server : String} {endpoint : Endpoint}
    (resolved : resolve option server = .ok endpoint) : endpoint.WellFormed :=
  Endpoint.wellFormed_of_resolve (endpoint_of_resolve resolved)

theorem wellFormed_ofPlugin {plugin : Plugin} {targets : Targets}
    (taken : ofPlugin plugin = .ok targets) : targets.WellFormed := by
  simp only [ofPlugin, bind_eq_ok_iff] at taken
  obtain ⟨checkip, readCheckip, _, -, update, readUpdate, _, -, same⟩ := taken
  cases same
  exact ⟨wellFormed_of_resolve readCheckip, wellFormed_of_resolve readUpdate⟩

theorem wellFormed_override {option : String} {given : Option String} {part endpoint : Endpoint}
    (default : part.WellFormed) (taken : override part (resolve option) given = .ok endpoint) :
    endpoint.WellFormed := by
  cases given with
  | none =>
      cases taken
      exact default
  | some server => exact wellFormed_of_resolve taken

/-- What a section puts in the place of an endpoint is an endpoint again. -/
theorem wellFormed_forSection {defaults targets : Targets} {s : Section}
    (default : defaults.WellFormed) (taken : defaults.forSection s = .ok targets) :
    targets.WellFormed := by
  cases s with
  | provider s =>
      cases taken
      exact default
  | custom s =>
      simp only [forSection, overrideBy, bind_eq_ok_iff] at taken
      obtain ⟨checkip, readCheckip, _, -, update, readUpdate, _, -, same⟩ := taken
      cases same
      exact ⟨wellFormed_override default.checkip readCheckip,
        wellFormed_override default.update readUpdate⟩

end Targets

namespace ProviderRecord

/-- What holds of every record that a registry holds. -/
structure WellFormed (r : ProviderRecord) : Prop where
  hostname_count : r.hostnames.items.length ≤ 50
  hostname_size : ∀ hostname ∈ r.hostnames.items, hostname.text.utf8ByteSize ≤ 255
  response_count : r.responses.items.length ≤ 5
  response_size : ∀ response ∈ r.responses.items, response.text.utf8ByteSize ≤ 64
  checkipPath_size : r.checkipPath.text.utf8ByteSize ≤ 256
  updatePath_size : r.updatePath.text.utf8ByteSize ≤ 256
  username_size : ∀ username ∈ r.credentials.username, username.text.utf8ByteSize ≤ 128
  password_size : ∀ password ∈ r.credentials.password, password.text.utf8ByteSize ≤ 128
  checkip : r.checkip.WellFormed
  update : r.update.WellFormed
  checkipClient : r.checkipClient = ⟨r.checkip, false⟩
  updateClient : r.updateClient = ⟨r.update, r.sslEnabled⟩
  /-- Nothing that only custom sections can ask for. -/
  ofProvider : r.kind = .provider → r.appendMyip = false ∧ r.responses.items = []

theorem wellFormed_assemble (plugin : Plugin) (s : Section) {targets : Targets}
    (hostnames : BoundedList Hostname Limits.hostnames) (resolved : targets.WellFormed) :
    (assemble plugin s targets hostnames).WellFormed where
  hostname_count := hostnames.length_le
  hostname_size := fun hostname _ => hostname.size_le
  response_count := (responsesOf plugin s).length_le
  response_size := fun response _ => response.size_le
  checkipPath_size := targets.checkipPath.size_le
  updatePath_size := targets.updatePath.size_le
  username_size := fun username _ => username.size_le
  password_size := fun password _ => password.size_le
  checkip := resolved.checkip
  update := resolved.update
  checkipClient := rfl
  updateClient := rfl
  ofProvider := by
    intro provider
    cases s with
    | provider s => exact ⟨rfl, rfl⟩
    | custom s => cases provider

theorem wellFormed_of_build {find : String → Option Plugin} {s : Section} {record : ProviderRecord}
    (built : (build find s).value = .ok record) : record.WellFormed := by
  obtain ⟨plugin, defaults, targets, hostnames, taken, own, -, rfl⟩ := merged_of_build built
  have resolved := Targets.wellFormed_forSection (Targets.wellFormed_ofPlugin taken) own
  exact wellFormed_assemble plugin s hostnames resolved

/-- Credentials keep to their limits by themselves, whatever is done to them. -/
theorem WellFormed.mapCredentials {r : ProviderRecord} (wellFormed : r.WellFormed)
    (f : Credentials → Credentials) : (r.mapCredentials f).WellFormed :=
  { wellFormed with
    username_size := fun username _ => username.size_le
    password_size := fun password _ => password.size_le }

end ProviderRecord

theorem forall_mem_modify {α : Type} {P : α → Prop} {items : List α} {f : α → α}
    (all : ∀ a ∈ items, P a) (kept : ∀ a, P a → P (f a)) (index : Nat) :
    ∀ a ∈ items.modify index f, P a := by
  intro a member
  obtain ⟨other, here⟩ := List.mem_iff_getElem?.mp member
  simp only [List.getElem?_modify, Option.map_eq_map, Option.map_eq_some_iff] at here
  obtain ⟨b, before, rfl⟩ := here
  have held := all b (List.mem_of_getElem? before)
  by_cases same : index = other
  · rw [if_pos same]
    exact kept b held
  · rw [if_neg same]
    exact held

namespace ProviderRegistry

/-- One operation leaves a registry with well-formed records, if it had no others. -/
theorem wellFormed_perform {r : ProviderRegistry}
    (wellFormed : ∀ record ∈ r.records, record.WellFormed) (operation : Operation) :
    ∀ record ∈ (r.perform operation).1.records, record.WellFormed := by
  cases operation with
  | create find s =>
      simp only [perform, value_create]
      cases built : (ProviderRecord.build find s).value with
      | error e => exact wellFormed
      | ok record =>
          rw [List.forall_mem_append]
          refine ⟨wellFormed, ?_⟩
          rw [List.forall_mem_singleton]
          exact ProviderRecord.wellFormed_of_build built
  | iterate | get | find => exact wellFormed
  | encode =>
      simp only [perform, encodeAll]
      rw [List.forall_mem_map]
      exact fun record member => (wellFormed record member).mapCredentials _
  | setToken index token =>
      exact forall_mem_modify wellFormed (fun _ shape => shape.mapCredentials _) index
  | clearToken index =>
      exact forall_mem_modify wellFormed (fun _ shape => shape.mapCredentials _) index
  | destroyAll =>
      intro record member
      cases member

/-- Whatever was done with a registry, from sections that no check has seen and under any answers
    about plugins, all its records are well formed. -/
theorem wellFormed_after (operations : List Operation) :
    ∀ record ∈ (after operations).records, record.WellFormed := by
  induction operations using List.reverseRecOn with
  | nil =>
      intro record member
      cases member
  | append_singleton operations operation ih =>
      rw [after, List.foldl_append]
      exact wellFormed_perform ih operation

/-- A custom section that no check would pass: both lists of hostnames are in use. One hostname and
    one response are too many, and neither port is one. -/
def uncheckedSection : CustomSection where
  common := {
    hostname := List.replicate 51 "home.example.net", aliases := ["office.example.net"]
    username := some "u", password := some "p", ssl := true }
  ddnsServer := some "update.example.net:70000"
  checkipServer := some "checkip.example.net:0"
  ddnsResponse := ["good", "nochg", "ok", "done", "fine", "well"]
  appendMyip := true

theorem wellFormed_after_unchecked :
    let records := (after [.create PluginRegistry.builtin.find? (.custom uncheckedSection),
      .encode]).records
    ∃ record ∈ records, record.WellFormed ∧ record.hostnames.items.length = 50 ∧
      record.responses.items.length = 5 ∧ record.update.port = 80 ∧ record.checkip.port = 80 ∧
      record.updateClient.ssl = true ∧ record.credentials.token = some "dTpw" := by
  intro records
  obtain ⟨record, member, facts⟩ : ∃ record ∈ records, record.hostnames.items.length = 50 ∧
      record.responses.items.length = 5 ∧ record.update.port = 80 ∧ record.checkip.port = 80 ∧
      record.updateClient.ssl = true ∧ record.credentials.token = some "dTpw" := by
    decide +kernel
  exact ⟨record, member, wellFormed_after _ record member, facts⟩

end ProviderRegistry

end DynamicDns
